import Mathlib.Data.List.Basic
import Mathlib.Data.Nat.Notation

/-!
Zero-terminated strings in a buffer of bytes.

* `cstr`, `strchr`: the string at a position, and the first place of a character in it;
* `cstr_append`, `strchr_append`, `strchr_eq_none`: what they are in a buffer that is put together;
* `split_unique`: a list is split at the first place of an element in one way.
-/

namespace OmarchyM1Video.C

variable {buf pre a rest s : List UInt8} {c x : UInt8} {i j : ℕ}

/-- The string at a position. -/
def cstr (buf : List UInt8) (i : ℕ) : List UInt8 := (buf.drop i).takeWhile (· ≠ 0)

/-- `strchr` of a character that is not zero, as a position. -/
def strchr (buf : List UInt8) (i : ℕ) (c : UInt8) : Option ℕ :=
  if c ∈ cstr buf i then some (i + (cstr buf i).idxOf c) else none

/-- The string before its zero. -/
lemma cstr_append (hs : 0 ∉ s) : cstr (pre ++ (s ++ 0 :: rest)) pre.length = s := by
  have hne : ∀ c ∈ s, decide (c ≠ 0) = true := fun c hc => by
    rw [decide_eq_true_eq]
    rintro rfl
    exact hs hc
  rw [cstr, List.drop_left, List.takeWhile_append_of_pos hne,
    List.takeWhile_cons_of_neg (by decide), List.append_nil]

lemma strchr_append (hs : 0 ∉ a ++ c :: s) (ha : c ∉ a) :
    strchr (pre ++ (a ++ c :: s ++ 0 :: rest)) pre.length c = some (pre.length + a.length) := by
  rw [strchr, cstr_append hs, if_pos (List.mem_append_right _ (List.mem_cons_self ..)),
    List.idxOf_append_of_notMem ha, List.idxOf_cons_self, Nat.add_zero]

lemma strchr_eq_none (hs : 0 ∉ s) (h : c ∉ s) :
    strchr (pre ++ (s ++ 0 :: rest)) pre.length c = none := by
  rw [strchr, cstr_append hs, if_neg h]

/-- What is found is in the buffer. -/
lemma strchr_range (h : strchr buf i c = some j) : i ≤ j ∧ j < buf.length := by
  rw [strchr] at h
  split_ifs at h with hmem
  obtain rfl := Option.some.inj h
  have hlt := List.idxOf_lt_length_iff.mpr hmem
  have hle : (cstr buf i).length ≤ (buf.drop i).length := (List.takeWhile_sublist _).length_le
  rw [List.length_drop] at hle
  omega

lemma set_append (pre a rest : List UInt8) (x y : UInt8) :
    (pre ++ (a ++ x :: rest)).set (pre.length + a.length) y = pre ++ (a ++ y :: rest) := by
  rw [List.set_append_right _ _ (by omega), Nat.add_sub_cancel_left,
    List.set_append_right _ _ (Nat.le_refl _), Nat.sub_self, List.set_cons_zero]

/-- There is one way to split a list at the first place of an element. -/
lemma split_unique {α : Type} {a a' b b' : List α} {x : α} (ha : x ∉ a) (ha' : x ∉ a')
    (h : a ++ x :: b = a' ++ x :: b') : a = a' ∧ b = b' := by
  induction a generalizing a' with
  | nil =>
      cases a' with
      | nil => exact ⟨rfl, (List.cons.inj h).2⟩
      | cons y a' => exact absurd (List.cons.inj h).1 fun heq => ha' (heq ▸ List.mem_cons_self ..)
  | cons y a ih =>
      cases a' with
      | nil => exact absurd (List.cons.inj h).1 fun heq => ha (heq ▸ List.mem_cons_self ..)
      | cons z a' =>
          obtain ⟨rfl, htail⟩ := List.cons.inj h
          obtain ⟨rfl, rfl⟩ := ih (fun hmem => ha (List.mem_cons_of_mem _ hmem))
            (fun hmem => ha' (List.mem_cons_of_mem _ hmem)) htail
          exact ⟨rfl, rfl⟩

end OmarchyM1Video.C
