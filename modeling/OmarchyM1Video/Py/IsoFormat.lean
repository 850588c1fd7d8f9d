import Mathlib

/-!
The order of strings, and `datetime.isoformat`.

* `lexLt`: the order of two strings by their code points, and of two tuples of numbers;
* `pad`: a number with leading zeros; `pad_lt`, numbers of one width are in the order of their
  texts;
* `DateTime`, `isoformat`: a time in UTC, and its text, which has a fraction only if it needs one;
* `isoformat_lt`: **the texts are in the order of the times**.
-/

namespace OmarchyM1Video.Py

/-- The lexicographic order, as `<` is on tuples of numbers. -/
def lexLt : List ℕ → List ℕ → Bool
  | _, [] => false
  | [], _ :: _ => true
  | a :: s, b :: t => if a < b then true else if a = b then lexLt s t else false

/-- `a < b` of two strings. -/
def textLt (a b : List Char) : Bool := lexLt (a.map Char.toNat) (b.map Char.toNat)

section Order

variable {a b : ℕ} {s t r : List ℕ} {x y : List Char}

lemma lexLt_cons : lexLt (a :: s) (b :: t) = true ↔ a < b ∨ a = b ∧ lexLt s t = true := by
  rw [lexLt]
  split_ifs with hlt heq
  · exact iff_of_true rfl (.inl hlt)
  · exact ⟨fun h => .inr ⟨heq, h⟩, fun h => h.elim (fun hl => absurd hl hlt) And.right⟩
  · exact iff_of_false (by decide) fun h => h.elim hlt fun h => heq h.1

lemma lexLt_nil_right : lexLt s [] = false := by
  cases s <;> rfl

lemma lexLt_irrefl (s : List ℕ) : lexLt s s = false := by
  induction s with
  | nil => rfl
  | cons a s ih => rw [lexLt, if_neg (Nat.lt_irrefl a), if_pos rfl, ih]

lemma lexLt_asymm (h : lexLt s t = true) : lexLt t s = false := by
  induction s generalizing t with
  | nil => exact lexLt_nil_right
  | cons a s ih =>
      cases t with
      | nil => rw [lexLt_nil_right] at h; cases h
      | cons b t =>
          rw [Bool.eq_false_iff, ne_eq, lexLt_cons]
          obtain hlt | ⟨rfl, hrest⟩ := lexLt_cons.mp h
          · omega
          · rintro (hlt | ⟨-, hback⟩)
            · exact Nat.lt_irrefl a hlt
            · rw [ih hrest] at hback
              cases hback

/-- Of two tuples one is before the other, or they are the same. -/
lemma lexLt_trichotomy (s t : List ℕ) : lexLt s t = true ∨ s = t ∨ lexLt t s = true := by
  induction s generalizing t with
  | nil =>
      cases t with
      | nil => exact .inr (.inl rfl)
      | cons b t => exact .inl rfl
  | cons a s ih =>
      cases t with
      | nil => exact .inr (.inr rfl)
      | cons b t =>
          obtain hlt | rfl | hgt := Nat.lt_trichotomy a b
          · exact .inl (lexLt_cons.mpr (.inl hlt))
          · obtain h | rfl | h := ih t
            · exact .inl (lexLt_cons.mpr (.inr ⟨rfl, h⟩))
            · exact .inr (.inl rfl)
            · exact .inr (.inr (lexLt_cons.mpr (.inr ⟨rfl, h⟩)))
          · exact .inr (.inr (lexLt_cons.mpr (.inl hgt)))

lemma lexLt_append_left (h : lexLt s t = true) (r : List ℕ) : lexLt (r ++ s) (r ++ t) = true := by
  induction r with
  | nil => exact h
  | cons a r ih => exact lexLt_cons.mpr (.inr ⟨rfl, ih⟩)

lemma toNat_map_injective : Function.Injective (List.map Char.toNat) :=
  List.map_injective_iff.mpr fun _ _ h => Char.toNat_inj.mp h

lemma eq_of_not_textLt (h : textLt x y = false) (h' : textLt y x = false) : x = y := by
  obtain hlt | heq | hlt := lexLt_trichotomy (x.map Char.toNat) (y.map Char.toNat)
  · exact absurd (h.symm.trans hlt) (by decide)
  · exact toNat_map_injective heq
  · exact absurd (h'.symm.trans hlt) (by decide)

end Order

/-! ### Numbers of one width -/

/-- The last `w` digits of a number, as `%0wd` has them of a number below `10 ^ w`. -/
def pad : ℕ → ℕ → List Char
  | 0, _ => []
  | w + 1, n => Nat.digitChar (n / 10 ^ w % 10) :: pad w n

section Pad

variable {a b w : ℕ} {s t : List Char}

lemma pad_mod {n k : ℕ} (h : w ≤ k) : pad w (n % 10 ^ k) = pad w n := by
  induction w with
  | zero => rfl
  | succ w ih =>
      obtain ⟨r, rfl⟩ := Nat.exists_eq_add_of_le h
      have hpow : 10 ^ (w + 1 + r) = 10 ^ w * (10 * 10 ^ r) := by
        rw [Nat.pow_add, Nat.pow_succ, Nat.mul_assoc]
      have hdigit : n % 10 ^ (w + 1 + r) / 10 ^ w % 10 = n / 10 ^ w % 10 := by
        rw [hpow, Nat.mod_mul_right_div_self, Nat.mod_mod_of_dvd _ (Nat.dvd_mul_right 10 _)]
      rw [pad, pad, hdigit, ih (by omega)]

lemma textLt_append_left (x : List Char) : textLt s t = true → textLt (x ++ s) (x ++ t) = true := by
  intro h
  rw [textLt, List.map_append, List.map_append]
  exact lexLt_append_left h _

/-- Numbers of one width are in the order of their texts, whatever is behind them. -/
lemma pad_lt (hb : b < 10 ^ w) (h : a < b) : textLt (pad w a ++ s) (pad w b ++ t) = true := by
  induction w generalizing a b with
  | zero =>
      rw [Nat.pow_zero] at hb
      omega
  | succ w ih =>
      rw [Nat.pow_succ] at hb
      have hpos : 0 < 10 ^ w := Nat.pow_pos (by decide)
      have hqb : b / 10 ^ w < 10 := Nat.div_lt_of_lt_mul hb
      have hle : a / 10 ^ w ≤ b / 10 ^ w := Nat.div_le_div_right (Nat.le_of_lt h)
      rw [pad, pad, Nat.mod_eq_of_lt hqb, Nat.mod_eq_of_lt (Nat.lt_of_le_of_lt hle hqb), textLt,
        List.cons_append, List.cons_append, List.map_cons, List.map_cons, lexLt_cons,
        Nat.toNat_digitChar_of_lt_ten hqb,
        Nat.toNat_digitChar_of_lt_ten (Nat.lt_of_le_of_lt hle hqb)]
      obtain hlt | heq := Nat.lt_or_eq_of_le hle
      · exact .inl (Nat.add_lt_add_left hlt 48)
      · -- the first digits are the same, and the rest of them decides
        have hrest : a % 10 ^ w < b % 10 ^ w := by
          have ha := Nat.div_add_mod a (10 ^ w)
          have hbm := Nat.div_add_mod b (10 ^ w)
          rw [heq] at ha
          omega
        refine .inr ⟨by rw [heq], ?_⟩
        rw [← pad_mod (Nat.le_refl w), ← @pad_mod w b w (Nat.le_refl w)]
        exact ih (Nat.mod_lt b hpos) hrest

end Pad

/-! ### Times -/

/-- A `datetime` in UTC. -/
structure DateTime where
  year : ℕ
  month : ℕ
  day : ℕ
  hour : ℕ
  minute : ℕ
  second : ℕ
  microsecond : ℕ
  year_lt : year < 10000
  month_le : month ≤ 12
  day_le : day ≤ 31
  hour_lt : hour < 24
  minute_lt : minute < 60
  second_lt : second < 60
  microsecond_lt : microsecond < 1000000

namespace DateTime

/-- The numbers by which two times are compared. -/
def fields (d : DateTime) : List ℕ :=
  [d.year, d.month, d.day, d.hour, d.minute, d.second, d.microsecond]

/-- `.isoformat()`: the fraction is left out where it is zero. -/
def isoformat (d : DateTime) : List Char :=
  pad 4 d.year ++ '-' :: (pad 2 d.month ++ '-' :: (pad 2 d.day ++ 'T' :: (pad 2 d.hour ++
    ':' :: (pad 2 d.minute ++ ':' :: (pad 2 d.second ++
      ((if d.microsecond = 0 then [] else '.' :: pad 6 d.microsecond) ++
        ['+', '0', '0', ':', '0', '0']))))))

end DateTime

section Iso

variable {d d' : DateTime} {a b w : ℕ} {s t : List Char} {c : Char}

/-- A field, and what is behind it. -/
lemma textLt_field (hb : b < 10 ^ w) (h : a < b ∨ a = b ∧ textLt s t = true) :
    textLt (pad w a ++ s) (pad w b ++ t) = true := by
  obtain hlt | ⟨rfl, hrest⟩ := h
  · exact pad_lt hb hlt
  · exact textLt_append_left _ hrest

lemma textLt_cons (h : textLt s t = true) : textLt (c :: s) (c :: t) = true :=
  textLt_append_left [c] h

/-- A text without a fraction is before one with it, as `+` is before `.`. -/
lemma fraction_lt (hb : b < 1000000) (h : a < b) :
    textLt ((if a = 0 then [] else '.' :: pad 6 a) ++ '+' :: s)
      ((if b = 0 then [] else '.' :: pad 6 b) ++ '+' :: t) = true := by
  rw [if_neg (by omega : ¬b = 0)]
  split_ifs with hzero
  · rfl
  · exact textLt_cons (pad_lt hb h)

/-- **The texts of times are in the order of the times.** -/
theorem isoformat_lt (h : lexLt d.fields d'.fields = true) : textLt d.isoformat d'.isoformat = true
    := by
  have hmonth := d'.month_le
  have hday := d'.day_le
  simp only [DateTime.fields, lexLt_cons] at h
  rw [DateTime.isoformat, DateTime.isoformat]
  refine textLt_field d'.year_lt (h.imp_right (And.imp_right fun h => textLt_cons ?_))
  refine textLt_field (by omega) (h.imp_right (And.imp_right fun h => textLt_cons ?_))
  refine textLt_field (by omega) (h.imp_right (And.imp_right fun h => textLt_cons ?_))
  refine textLt_field (Nat.lt_trans d'.hour_lt (by decide))
    (h.imp_right (And.imp_right fun h => textLt_cons ?_))
  refine textLt_field (Nat.lt_trans d'.minute_lt (by decide))
    (h.imp_right (And.imp_right fun h => textLt_cons ?_))
  refine textLt_field (Nat.lt_trans d'.second_lt (by decide))
    (h.imp_right (And.imp_right fun h => ?_))
  obtain hlt | ⟨_, hnil⟩ := h
  · exact fraction_lt d'.microsecond_lt hlt
  · exact absurd hnil (by decide)

/-- The text of a time that is not later is not after the other. -/
theorem not_isoformat_lt (h : lexLt d'.fields d.fields = false) :
    textLt d'.isoformat d.isoformat = false := by
  obtain hlt | heq | hgt := lexLt_trichotomy d.fields d'.fields
  · exact lexLt_asymm (isoformat_lt hlt)
  · have htext : d.isoformat = d'.isoformat := by
      simp only [DateTime.fields, List.cons.injEq] at heq
      obtain ⟨hyear, hmonth, hday, hhour, hminute, hsecond, hmicro, -⟩ := heq
      rw [DateTime.isoformat, DateTime.isoformat, hyear, hmonth, hday, hhour, hminute, hsecond,
        hmicro]
    rw [htext]
    exact lexLt_irrefl _
  · exact absurd (h.symm.trans hgt) (by decide)

end Iso

end OmarchyM1Video.Py
