import Mathlib.Logic.Function.Basic
import Mathlib.Data.Nat.Bits
import Mathlib.Tactic.SplitIfs

/-!
Unsigned arithmetic, arrays and flag words, as a C program has them.

An array has a fixed number of elements and is read and written at an index that must be in range;
an access out of range has no result.

* `wrap32`, `wrap64`: the value after an unsigned overflow;
* `load`, `store`, `storeAll`: checked accesses; `storeAll_of_le` says what is stored where;
* `BitsKept`: no bit of a flag word is cleared.
-/

namespace OmarchyM1Video.C

/-! ### Unsigned integers -/

/-- A value as an `unsigned int`. -/
def wrap32 (n : ℕ) : ℕ := n % 0x100000000

/-- A value as an `unsigned long long`. -/
def wrap64 (n : ℕ) : ℕ := n % 0x10000000000000000

lemma wrap32_of_lt {n : ℕ} (h : n < 0x100000000) : wrap32 n = n := Nat.mod_eq_of_lt h

lemma wrap64_of_lt {n : ℕ} (h : n < 0x10000000000000000) : wrap64 n = n := Nat.mod_eq_of_lt h

lemma wrap64_lt (n : ℕ) : wrap64 n < 0x10000000000000000 := Nat.mod_lt _ (by decide)

/-! ### Arrays -/

section Arrays

variable {n : ℕ} {α : Type} {a b : Fin n → α} {i : ℕ} {x : α}

/-- `a[i]`. -/
def load (a : Fin n → α) (i : ℕ) : Option α := if h : i < n then some (a ⟨i, h⟩) else none

/-- `a[i] = x`. -/
def store (a : Fin n → α) (i : ℕ) (x : α) : Option (Fin n → α) :=
  if h : i < n then some (Function.update a ⟨i, h⟩ x) else none

lemma load_of_lt (h : i < n) : load a i = some (a ⟨i, h⟩) := dif_pos h

lemma store_of_lt (h : i < n) : store a i x = some (Function.update a ⟨i, h⟩ x) := dif_pos h

lemma load_eq_some : load a i = some x ↔ ∃ h : i < n, a ⟨i, h⟩ = x := by
  by_cases h : i < n
  · simp [load, h]
  · simp [load, h]

lemma store_eq_some : store a i x = some b ↔ ∃ h : i < n, Function.update a ⟨i, h⟩ x = b := by
  by_cases h : i < n
  · simp [store, h]
  · simp [store, h]

/-- The elements of a list stored one after the other, from an index on. -/
def storeAll (a : Fin n → α) : ℕ → List α → Option (Fin n → α)
  | _, [] => some a
  | i, x :: xs => (store a i x).bind fun a => storeAll a (i + 1) xs

/-- The stores are in range if the list fits, and then each element is where it belongs. -/
lemma storeAll_of_le {xs : List α} (h : i + xs.length ≤ n) :
    ∃ b, storeAll a i xs = some b ∧
      ∀ j : Fin n, b j = if i ≤ j then xs.getD (j - i) (a j) else a j := by
  induction xs generalizing a i with
  | nil =>
      refine ⟨a, rfl, fun j => ?_⟩
      simp
  | cons x xs ih =>
      rw [List.length_cons] at h
      have hi : i < n := by omega
      obtain ⟨b, hb, hget⟩ := ih (a := Function.update a ⟨i, hi⟩ x) (i := i + 1) (by omega)
      refine ⟨b, by rw [storeAll, store_of_lt hi, Option.bind_some, hb], fun j => ?_⟩
      rw [hget j]
      by_cases hlt : i + 1 ≤ (j : ℕ)
      · have hne : j ≠ ⟨i, hi⟩ := by
          rintro rfl
          exact absurd hlt (by simp)
        have hsub : (j : ℕ) - i = (j : ℕ) - (i + 1) + 1 := by omega
        rw [if_pos hlt, if_pos (by omega), hsub, List.getD_cons_succ, Function.update_of_ne hne]
      · rw [if_neg hlt]
        by_cases heq : i = (j : ℕ)
        · subst heq
          rw [Function.update_self, if_pos (Nat.le_refl _), Nat.sub_self, List.getD_cons_zero]
        · have hne : j ≠ ⟨i, hi⟩ := fun hj => heq (by rw [hj])
          rw [Function.update_of_ne hne, if_neg (by omega)]

lemma storeAll_total (a : Fin n → α) {xs : List α} (h : i + xs.length ≤ n) :
    ∃ b, storeAll a i xs = some b := by
  obtain ⟨b, hb, _⟩ := storeAll_of_le (a := a) h
  exact ⟨b, hb⟩

lemma storeAll_append (a : Fin n → α) (i : ℕ) (xs ys : List α) :
    storeAll a i (xs ++ ys) = (storeAll a i xs).bind fun b => storeAll b (i + xs.length) ys := by
  induction xs generalizing a i with
  | nil => rfl
  | cons x xs ih =>
      rw [List.cons_append, storeAll, storeAll, Option.bind_assoc, List.length_cons]
      simp only [ih, Nat.add_assoc, Nat.add_comm 1]

@[simp] lemma storeAll_singleton (a : Fin n → α) (i : ℕ) (x : α) :
    storeAll a i [x] = store a i x := by
  rw [storeAll]
  exact Option.bind_fun_some _

/-- Steps that all stay in range do so one after the other. -/
lemma bind_total {β γ : Type} {o : Option β} {f : β → Option γ} (ho : ∃ b, o = some b)
    (hf : ∀ b, o = some b → ∃ c, f b = some c) : ∃ c, o.bind f = some c := by
  obtain ⟨b, hb⟩ := ho
  rw [hb, Option.bind_some]
  exact hf b hb

/-- Storing what is there already changes nothing. -/
lemma storeAll_self {xs : List α} (h : i + xs.length ≤ n)
    (hxs : ∀ j : Fin n, i ≤ j → xs.getD (j - i) (a j) = a j) : storeAll a i xs = some a := by
  obtain ⟨b, hb, hget⟩ := storeAll_of_le (a := a) h
  rw [hb]
  refine congrArg some (funext fun j => ?_)
  rw [hget]
  split_ifs with hij
  · exact hxs j hij
  · rfl

end Arrays

/-! ### Flag words -/

/-- No bit is cleared on the way from one flag word to another. -/
def BitsKept (e e' : ℕ) : Prop := ∀ i, e.testBit i = true → e'.testBit i = true

namespace BitsKept

variable {e e' e'' : ℕ}

@[refl] lemma refl (e : ℕ) : BitsKept e e := fun _ h => h

lemma trans (h : BitsKept e e') (h' : BitsKept e' e'') : BitsKept e e'' := fun i hi => h' i (h i hi)

lemma or_left (e b : ℕ) : BitsKept e (e ||| b) := by
  intro i hi
  rw [Nat.testBit_or, hi, Bool.true_or]

lemma of_eq (h : e = e') : BitsKept e e' := h ▸ refl e

/-- If no bit is set in the end, none was set before. -/
lemma eq_zero (h : BitsKept e e') (h₀ : e' = 0) : e = 0 := by
  refine Nat.eq_of_testBit_eq fun i => ?_
  rw [Nat.zero_testBit]
  by_contra hi
  have := h i (by simpa using hi)
  rw [h₀, Nat.zero_testBit] at this
  exact absurd this (by decide)

end BitsKept

end OmarchyM1Video.C
