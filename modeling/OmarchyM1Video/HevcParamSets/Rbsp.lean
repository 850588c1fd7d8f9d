import Mathlib
import OmarchyM1Video.Bits.Msb
import OmarchyM1Video.Py.Exec

/-!
The payload of a NAL unit in `experiments/hevc-parameter-sets/hevcnal.py`, which makes the
parameter-set fixtures, and `strip_epb` of `tests/h264-interlace-scan.py`.

* `escape`, `unescape`, `stripEpb`: the emulation prevention bytes, put in and taken out;
* `not_code_infix_escape`: what is escaped has no start code in it;
* `Reader`, `Reader.ofRbsp`, `toRbsp`, `u`, `ue`, `ueBits`, `uBits`: the class `Bits`, and its
  codes.
-/

namespace OmarchyM1Video.HevcParamSets.Hevcnal

open OmarchyM1Video.Bits OmarchyM1Video.Py

/-! ### Emulation prevention -/

/-- `zeros + 1 if b == 0 else 0`. -/
def count (zeros : ℕ) (b : UInt8) : ℕ := if b = 0 then zeros + 1 else 0

/-- The loop of `unescape`, after so many zeros. -/
def unescapeFrom : ℕ → List UInt8 → List UInt8
  | _, [] => []
  | zeros, b :: rest =>
      if 2 ≤ zeros ∧ b = 3 then unescapeFrom 0 rest
      else b :: unescapeFrom (count zeros b) rest

/-- `unescape(ebsp)`. -/
def unescape (ebsp : List UInt8) : List UInt8 := unescapeFrom 0 ebsp

/-- The loop of `escape`, after so many zeros. -/
def escapeFrom : ℕ → List UInt8 → List UInt8
  | _, [] => []
  | zeros, b :: rest =>
      if 2 ≤ zeros ∧ b ≤ 3 then 3 :: b :: escapeFrom (count 0 b) rest
      else b :: escapeFrom (count zeros b) rest

/-- `escape(rbsp)`. -/
def escape (rbsp : List UInt8) : List UInt8 := escapeFrom 0 rbsp

/-- The loop of `strip_epb`. `before` is what comes before, from its end. -/
def stripFrom : List UInt8 → List UInt8 → List UInt8
  | _, [] => []
  | before, b :: rest =>
      if before.take 2 = [0, 0] ∧ b = 3 ∧ ∃ c ∈ rest.head?, c ≤ 3 then stripFrom (b :: before) rest
      else b :: stripFrom (b :: before) rest

/-- `strip_epb(p)`. -/
def stripEpb (p : List UInt8) : List UInt8 := stripFrom [] p

section Escape

variable {zeros : ℕ} {r rest before : List UInt8} {b : UInt8}

lemma unescapeFrom_escapeFrom (zeros : ℕ) (r : List UInt8) :
    unescapeFrom zeros (escapeFrom zeros r) = r := by
  induction r generalizing zeros with
  | nil => rfl
  | cons b rest ih =>
      rw [escapeFrom]
      by_cases h : 2 ≤ zeros ∧ b ≤ 3
      · -- the byte that is put in is taken out, and the count starts again
        rw [if_pos h, unescapeFrom, if_pos ⟨h.1, rfl⟩, unescapeFrom, if_neg (by omega), ih]
      · have hkeep : ¬(2 ≤ zeros ∧ b = 3) := by
          rintro ⟨hzeros, rfl⟩
          exact h ⟨hzeros, by decide⟩
        rw [if_neg h, unescapeFrom, if_neg hkeep, ih]

theorem unescape_escape (r : List UInt8) : unescape (escape r) = r := unescapeFrom_escapeFrom 0 r

/-- The zeros before the next byte, and what is before them. -/
lemma cons_zeros (h : before.head? ≠ some 0) (b : UInt8) :
    ∃ before', before'.head? ≠ some 0 ∧
      b :: (List.replicate zeros 0 ++ before) = List.replicate (count zeros b) 0 ++ before' := by
  by_cases hb : b = 0
  · subst hb
    exact ⟨before, h, rfl⟩
  · refine ⟨b :: (List.replicate zeros 0 ++ before), ?_, ?_⟩
    · rw [List.head?_cons]
      exact fun heq => hb (Option.some.inj heq)
    · rw [count, if_neg hb]
      rfl

/-- At most two zeros come without a byte that is put in. -/
lemma count_le (h : zeros ≤ 2) (hb : ¬(2 ≤ zeros ∧ b ≤ 3)) : count zeros b ≤ 2 := by
  rw [count]
  split_ifs with hzero
  · subst hzero
    have hlt : ¬2 ≤ zeros := fun hle => hb ⟨hle, by decide⟩
    omega
  · exact Nat.zero_le 2

lemma take_two_iff (h : before.head? ≠ some 0) :
    (List.replicate zeros 0 ++ before).take 2 = [0, 0] ↔ 2 ≤ zeros := by
  match zeros with
  | 0 =>
      cases before with
      | nil => simp
      | cons a t =>
          have ha : a ≠ 0 := fun heq => h (by rw [heq, List.head?_cons])
          simp [ha]
  | 1 =>
      cases before with
      | nil => simp
      | cons a t =>
          have ha : a ≠ 0 := fun heq => h (by rw [heq, List.head?_cons])
          simp [List.replicate_succ, ha]
  | k + 2 => simp [List.replicate_succ]

/-- What is escaped after so many zeros comes back, if there are not more of them before. -/
lemma stripFrom_escapeFrom (h : zeros ≤ 2) (hbefore : before.head? ≠ some 0) :
    stripFrom (List.replicate zeros 0 ++ before) (escapeFrom zeros r) = r := by
  induction r generalizing zeros before with
  | nil => rfl
  | cons b rest ih =>
      have htwo := @take_two_iff zeros before hbefore
      rw [escapeFrom]
      by_cases hinsert : 2 ≤ zeros ∧ b ≤ 3
      · obtain ⟨before', hbefore', heq⟩ := @cons_zeros 0
          (3 :: (List.replicate zeros 0 ++ before)) (by simp) b
        rw [if_pos hinsert, stripFrom, if_pos ⟨htwo.mpr hinsert.1, rfl, b, rfl, hinsert.2⟩,
          stripFrom, if_neg fun hstrip => absurd hstrip.1 (by simp)]
        rw [List.replicate_zero, List.nil_append] at heq
        rw [heq, ih (count_le (Nat.zero_le 2) (by omega)) hbefore']
      · obtain ⟨before', hbefore', heq⟩ := @cons_zeros zeros before hbefore b
        have hkeep : ¬((List.replicate zeros 0 ++ before).take 2 = [0, 0] ∧ b = 3 ∧
            ∃ c ∈ (escapeFrom (count zeros b) rest).head?, c ≤ 3) := by
          rintro ⟨hzeros, rfl, -⟩
          exact hinsert ⟨htwo.mp hzeros, by decide⟩
        rw [if_neg hinsert, stripFrom, if_neg hkeep, heq, ih (count_le h hinsert) hbefore']

theorem stripEpb_escape (r : List UInt8) : stripEpb (escape r) = r :=
  @stripFrom_escapeFrom 0 r [] (Nat.zero_le 2) (by simp)

/-- A byte that is not zero, and after two zeros is above two, is in no start code. -/
lemma code_infix_of_zeros {x : UInt8} (hx : x ≤ 2) (h : zeros ≤ 2) (hb : b ≠ 0)
    (htwo : 2 ≤ zeros → ¬b ≤ 2) ( hinfix : [0, 0, x] <:+: List.replicate zeros 0 ++ b :: rest) :
    [0, 0, x] <:+: rest := by
  have hskip : ∀ {t : List UInt8}, ¬[0, 0, x] <+: t → [0, 0, x] <:+: t → [0, 0, x] <:+: t.tail := by
    intro t hnot hinf
    cases t with
    | nil => exact absurd hinf (by simp)
    | cons a t => exact (List.infix_cons_iff.mp hinf).resolve_left hnot
  have hzero : ¬[0, 0, x] <+: b :: rest := fun hpre => hb (List.cons_prefix_cons.mp hpre).1.symm
  have hone : ¬[0, 0, x] <+: 0 :: b :: rest := fun hpre =>
    hb (List.cons_prefix_cons.mp (List.cons_prefix_cons.mp hpre).2).1.symm
  match zeros with
  | 0 => exact hskip hzero hinfix
  | 1 => exact hskip hzero (hskip hone hinfix)
  | 2 =>
      refine hskip hzero (hskip hone (hskip (t := 0 :: 0 :: b :: rest) (fun hpre => ?_) hinfix))
      have heq := (List.cons_prefix_cons.mp (List.cons_prefix_cons.mp
        (List.cons_prefix_cons.mp hpre).2).2).1
      exact htwo (Nat.le_refl 2) (heq ▸ hx)
  | k + 3 => omega

/-- After so many zeros, what is escaped has no start code in it. -/
lemma not_code_infix_escapeFrom {x : UInt8} (hx : x ≤ 2) (h : zeros ≤ 2) :
    ¬[0, 0, x] <:+: List.replicate zeros 0 ++ escapeFrom zeros r := by
  induction r generalizing zeros with
  | nil =>
      intro hinfix
      have hlength := hinfix.length_le
      rw [escapeFrom, List.append_nil, List.length_replicate] at hlength
      change 3 ≤ zeros at hlength
      omega
  | cons b rest ih =>
      -- a zero is one more before the rest
      have hcons : ∀ {zeros : ℕ}, zeros ≤ 2 → ¬(2 ≤ zeros ∧ b ≤ 3) →
          ¬[0, 0, x] <:+: List.replicate zeros 0 ++ b :: escapeFrom (count zeros b) rest := by
        intro zeros h hb hinfix
        have hcount := count_le h hb
        by_cases hzero : b = 0
        · subst hzero
          rw [List.append_cons, ← List.replicate_succ'] at hinfix
          exact ih hcount hinfix
        · have hrest := code_infix_of_zeros hx h hzero
            (fun hle hlow => hb ⟨hle, UInt8.le_trans hlow (by decide)⟩) hinfix
          rw [count, if_neg hzero] at hrest
          exact @ih 0 (Nat.zero_le 2) hrest
      intro hinfix
      rw [escapeFrom] at hinfix
      by_cases hinsert : 2 ≤ zeros ∧ b ≤ 3
      · rw [if_pos hinsert] at hinfix
        exact hcons (Nat.zero_le 2) (by omega)
          (code_infix_of_zeros hx h (by decide) (fun _ => by decide) hinfix)
      · rw [if_neg hinsert] at hinfix
        exact hcons h hinsert hinfix

/-- There is no start code in what is escaped, nor a longer run of zeros. -/
theorem not_code_infix_escape {x : UInt8} (hx : x ≤ 2) (r : List UInt8) :
    ¬[0, 0, x] <:+: escape r :=
  @not_code_infix_escapeFrom 0 r x hx (Nat.zero_le 2)

end Escape

/-! ### Bits of a payload -/

/-- The class `Bits`. -/
structure Reader where
  bits : List Bool
  pos : ℕ
  deriving DecidableEq, Repr

/-- `(b >> (7 - k)) & 1 for k in range(8)`. -/
def byteBits (b : UInt8) : List Bool := natBits 8 b.toNat

/-- `Bits(rbsp)`: the bits before the stop bit. -/
def Reader.ofRbsp (rbsp : List UInt8) : Except String Reader :=
  let bits := (rbsp.flatMap byteBits).rdropWhile fun b => b = false
  if bits = [] then .error "RBSP has no stop bit" else .ok ⟨bits.dropLast, 0⟩

/-- `int("".join(map(str, bits[i:i + 8])), 2) for i in range(0, len(bits), 8)`. -/
def pack : List Bool → List UInt8
  | [] => []
  | b :: bits => UInt8.ofNat (bitsNat ((b :: bits).take 8)) :: pack ((b :: bits).drop 8)
termination_by bits => bits.length
decreasing_by
  rw [List.length_drop, List.length_cons]
  omega

/-- `to_rbsp`, of the bits of a reader. -/
def toRbsp (b : List Bool) : List UInt8 :=
  let bits := b ++ [true]
  pack (bits ++ List.replicate (-(bits.length : ℤ) % 8).toNat false)

/-- `u`. -/
def Reader.u (s : Reader) (n : ℕ) : Except String (ℕ × Reader) :=
  if s.bits.length < s.pos + n then .error "read past end of RBSP"
  else .ok (bitsNat ((s.bits.drop s.pos).take n), { s with pos := s.pos + n })

/-- The loop of `ue`, after so many zeros, and what it returns. -/
def Reader.ueFrom (s : Reader) (zeros : ℕ) : Except String (ℕ × Reader) :=
  match s.u 1 with
  | .error e => .error e
  | .ok (bit, s) =>
      if bit = 0 then
        if 31 < zeros + 1 then .error "invalid Exp-Golomb code" else s.ueFrom (zeros + 1)
      else
        match s.u zeros with
        | .error e => .error e
        | .ok (v, s) => .ok (2 ^ zeros - 1 + v, s)
termination_by 32 - zeros

/-- `ue`. -/
def Reader.ue (s : Reader) : Except String (ℕ × Reader) := s.ueFrom 0

/-- The bits of `ue_bits(value)`. -/
def ueCode (value : ℕ) : List Bool :=
  let code := value + 1
  let width := code.size
  List.replicate (width - 1) false ++ natBits width code

/-- `ue_bits(value)`. -/
def ueBits (value : ℤ) : Except String (List Bool) :=
  if value < 0 then .error "Exp-Golomb value must be non-negative" else .ok (ueCode value.toNat)

/-- `u_bits(value, n)`. -/
def uBits (value n : ℤ) : Except String (List Bool) :=
  if n < 0 ∨ ¬(0 ≤ value ∧ value < 2 ^ n.toNat) then
    .error (toString value ++ " does not fit in " ++ toString n ++ " bits")
  else .ok (natBits n.toNat value.toNat)

section Bits

variable {b bits pre xs post low : List Bool} {n k v z : ℕ} {s : Reader}

lemma pack_of_ne (h : bits ≠ []) :
    pack bits = UInt8.ofNat (bitsNat (bits.take 8)) :: pack (bits.drop 8) := by
  cases bits with
  | nil => exact absurd rfl h
  | cons b bits => rw [pack]

/-- Eight bits are those of their byte. -/
lemma byteBits_ofNat (h : bits.length = 8) : byteBits (UInt8.ofNat (bitsNat bits)) = bits := by
  have hlt := bitsNat_lt bits
  rw [h] at hlt
  have hbits := natBits_bitsNat bits
  rw [h] at hbits
  rw [byteBits, UInt8.toNat_ofNat', Nat.mod_eq_of_lt hlt, hbits]

lemma flatMap_pack (h : 8 ∣ bits.length) : (pack bits).flatMap byteBits = bits := by
  induction hn : bits.length using Nat.strong_induction_on generalizing bits with
  | _ n ih =>
      by_cases hne : bits = []
      · subst hne
        rw [pack]
        rfl
      · have hpos : 0 < bits.length := List.length_pos_iff.mpr hne
        obtain ⟨k, hk⟩ := h
        have htake : (bits.take 8).length = 8 := by
          rw [List.length_take]
          omega
        have hdrop : (bits.drop 8).length = 8 * (k - 1) := by
          rw [List.length_drop]
          omega
        rw [pack_of_ne hne, List.flatMap_cons, byteBits_ofNat htake,
          ih (8 * (k - 1)) (by omega) ⟨k - 1, hdrop⟩ hdrop, List.take_append_drop]

/-- The zeros after a stop bit are dropped. -/
lemma rdropWhile_stop (b : List Bool) (k : ℕ) :
    (b ++ [true] ++ List.replicate k false).rdropWhile (fun b => b = false) = b ++ [true] := by
  induction k with
  | zero =>
      rw [List.replicate_zero, List.append_nil]
      exact List.rdropWhile_concat_neg _ _ _ (by decide)
  | succ k ih =>
      rw [List.replicate_succ', ← List.append_assoc]
      rw [List.rdropWhile_concat_pos _ _ _ (by decide), ih]

/-- What is written is read. -/
theorem ofRbsp_toRbsp (b : List Bool) : Reader.ofRbsp (toRbsp b) = .ok ⟨b, 0⟩ := by
  have hpad : 8 ∣ (b ++ [true] ++
      List.replicate (-((b ++ [true]).length : ℤ) % 8).toNat false).length := by
    rw [List.length_append, List.length_replicate]
    omega
  rw [Reader.ofRbsp, toRbsp, flatMap_pack hpad, rdropWhile_stop, if_neg (by simp),
    List.dropLast_concat]

/-- Bits that are there are read. -/
lemma u_of_append (hbits : s.bits = pre ++ (xs ++ post)) (hpos : s.pos = pre.length) :
    s.u xs.length = .ok (bitsNat xs, { s with pos := s.pos + xs.length }) := by
  rw [Reader.u, if_neg (by rw [hbits, hpos, List.length_append, List.length_append]; omega), hbits,
    hpos, List.drop_left, List.take_left]

/-- One bit that is there is read. -/
lemma u_one_of_append {x : Bool} (hbits : s.bits = pre ++ x :: post) (hpos : s.pos = pre.length) :
    s.u 1 = .ok (x.toNat, { s with pos := s.pos + 1 }) := by
  have hread := @u_of_append pre [x] post s hbits hpos
  rwa [bitsNat_cons, bitsNat_nil, List.length_nil, pow_zero, Nat.mul_one, Nat.add_zero] at hread

/-- A code is read, after so many zeros. -/
lemma ueFrom_of_append (hbits : s.bits = pre ++ (List.replicate k false ++ true :: (low ++ post)))
    (hpos : s.pos = pre.length) (hlow : low.length = z + k) (hsize : z + k ≤ 31) :
    s.ueFrom z = .ok (2 ^ (z + k) - 1 + bitsNat low,
      { s with pos := s.pos + (k + 1 + low.length) }) := by
  induction k generalizing s pre z with
  | zero =>
      rw [List.replicate_zero, List.nil_append] at hbits
      have hrest := @u_of_append (pre ++ [true]) low post { s with pos := s.pos + 1 }
        (by rw [List.append_assoc]; exact hbits)
        (by rw [List.length_append, hpos, List.length_singleton])
      rw [Nat.add_zero] at hlow ⊢
      rw [hlow] at hrest
      rw [Reader.ueFrom, u_one_of_append hbits hpos]
      dsimp only
      rw [Bool.toNat_true, if_neg Nat.one_ne_zero, hrest, hlow]
      dsimp only
      rw [Nat.zero_add, Nat.add_assoc]
  | succ k ih =>
      rw [List.replicate_succ, List.cons_append] at hbits
      have hrest := @ih (pre ++ [false]) (z + 1) { s with pos := s.pos + 1 }
        (by rw [List.append_assoc]; exact hbits)
        (by rw [List.length_append, hpos, List.length_singleton]) (by omega) (by omega)
      have hsum : z + 1 + k = z + (k + 1) := by omega
      have hcount : s.pos + 1 + (k + 1 + low.length) = s.pos + (k + 1 + 1 + low.length) := by omega
      rw [hsum] at hrest
      rw [Reader.ueFrom, u_one_of_append hbits hpos]
      dsimp only
      rw [Bool.toNat_false, if_pos rfl, if_neg (by omega), hrest]
      dsimp only
      rw [hcount]

/-- A code: zeros, a one, and as many bits as there are zeros. -/
lemma ueCode_eq (v : ℕ) : ∃ w low, (v + 1).size = w + 1 ∧ low.length = w ∧
    2 ^ w - 1 + bitsNat low = v ∧ ueCode v = List.replicate w false ++ true :: low := by
  obtain ⟨w, hw⟩ : ∃ w, (v + 1).size = w + 1 :=
    Nat.exists_eq_succ_of_ne_zero (Nat.size_pos.mpr (Nat.succ_pos v)).ne'
  have hlow : 2 ^ w ≤ v + 1 := Nat.lt_size.mp (by omega)
  have hhigh : v + 1 < 2 ^ (w + 1) := Nat.size_le.mp hw.le
  have hbit := Nat.testBit_of_two_pow_le_and_two_pow_add_one_gt hlow hhigh
  refine ⟨w, natBits w (v + 1), hw, length_natBits w _, ?_, ?_⟩
  · rw [pow_succ] at hhigh
    rw [bitsNat_natBits, Nat.mod_eq_sub_mod hlow, Nat.mod_eq_of_lt (by omega)]
    omega
  · rw [ueCode, hw, Nat.add_sub_cancel, natBits_succ, hbit]

/-- A value is read back from its code, and nothing but its code is read. -/
theorem ue_of_ueCode (hv : v < 2 ^ 32 - 1) (pre post : List Bool) :
    Reader.ue ⟨pre ++ ueCode v ++ post, pre.length⟩ =
      .ok (v, ⟨pre ++ ueCode v ++ post, pre.length + (ueCode v).length⟩) := by
  obtain ⟨w, low, hsize, hlength, hvalue, hcode⟩ := ueCode_eq v
  have hw : w ≤ 31 := by
    have hle : (v + 1).size ≤ 32 := Nat.size_le.mpr (by omega)
    omega
  have hread := @ueFrom_of_append pre post low w 0 ⟨pre ++ ueCode v ++ post, pre.length⟩
    (by rw [hcode, List.append_assoc, List.append_assoc, List.cons_append]) rfl (by omega)
    (by omega)
  have hcount : (ueCode v).length = w + 1 + low.length := by
    rw [hcode, List.length_append, List.length_replicate, List.length_cons]
    omega
  rw [Nat.zero_add, hvalue] at hread
  rw [Reader.ue, hread, hcount]

/-- A value is read back from its bits. -/
lemma u_of_uBits {value n : ℤ} (h : uBits value n = .ok bits) (pre post : List Bool) :
    Reader.u ⟨pre ++ (bits ++ post), pre.length⟩ n.toNat =
      .ok (value.toNat, ⟨pre ++ (bits ++ post), pre.length + n.toNat⟩) := by
  rw [uBits] at h
  split_ifs at h with hrange
  obtain rfl := Except.ok.inj h
  rw [not_or, not_not] at hrange
  obtain ⟨_, hlow, hhigh⟩ := hrange
  have hread := @u_of_append pre (natBits n.toNat value.toNat) post
    ⟨pre ++ (natBits n.toNat value.toNat ++ post), pre.length⟩ rfl rfl
  rw [length_natBits, bitsNat_natBits] at hread
  have hfits : value.toNat < 2 ^ n.toNat := by
    rw [← Int.ofNat_lt, Int.toNat_of_nonneg hlow]
    push_cast
    exact hhigh
  rw [hread, Nat.mod_eq_of_lt hfits]

end Bits

end OmarchyM1Video.HevcParamSets.Hevcnal
