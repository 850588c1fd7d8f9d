import Mathlib.Data.List.Forall2
import Mathlib.Data.Nat.Bitwise

/-!
Words that are put together from masked contributions, of which some are not known.

A contribution has a mask and, where it is known, its bits.  A completion gives every contribution a
value: the known ones their bits, the others any value within the mask.  The word of a completion is
the union of its values.

* `union`, `testBit_union`: the union of values, bit by bit;
* `known`, `unknown`: the bits that are set in every completion, and those that an unknown
  contribution may set;
* `Open`: the bits that are open, which an unknown contribution may set and no known one sets;
* `testBit_of_not_open`: a bit that is not open is the same in every completion;
* `exists_ne_of_open`: two completions differ in a bit that is open.
-/

namespace OmarchyM1Video.Bits

/-! ### Unions -/

/-- The union of values. -/
def union : List ℕ → ℕ
  | [] => 0
  | v :: vs => v ||| union vs

@[simp] lemma union_nil : union [] = 0 := rfl

@[simp] lemma union_cons (v : ℕ) (vs : List ℕ) : union (v :: vs) = v ||| union vs := rfl

lemma testBit_union {vs : List ℕ} {i : ℕ} :
    (union vs).testBit i = true ↔ ∃ v ∈ vs, v.testBit i = true := by
  induction vs with
  | nil => simp
  | cons v vs ih => simp [Nat.testBit_or, ih]

/-- A value within a mask has no bit outside it. -/
lemma testBit_of_within {v mask i : ℕ} (h : v &&& mask = v) (hv : v.testBit i = true) :
    mask.testBit i = true := by
  rw [← h, Nat.testBit_and, Bool.and_eq_true] at hv
  exact hv.2

/-! ### Contributions -/

/-- A contribution to a word: its mask, and its bits where they are known. -/
structure Contribution where
  mask : ℕ
  bits : Option ℕ
  deriving DecidableEq, Repr

/-- The values that a contribution may turn out to have. -/
def Contribution.Admits (c : Contribution) (v : ℕ) : Prop :=
  c.bits.elim (v &&& c.mask = v) (v = ·)

lemma Contribution.admits_some {mask b v : ℕ} :
    Contribution.Admits ⟨mask, some b⟩ v ↔ v = b := Iff.rfl

lemma Contribution.admits_none {mask v : ℕ} :
    Contribution.Admits ⟨mask, none⟩ v ↔ v &&& mask = v := Iff.rfl

/-- The values of a completion, in the order of the contributions. -/
def Completes (cs : List Contribution) (vs : List ℕ) : Prop :=
  List.Forall₂ Contribution.Admits cs vs

/-- The bits that a known contribution sets. -/
def known : List Contribution → ℕ
  | [] => 0
  | c :: cs => c.bits.getD 0 ||| known cs

/-- The bits that an unknown contribution may set. -/
def unknown : List Contribution → ℕ
  | [] => 0
  | c :: cs => (if c.bits = none then c.mask else 0) ||| unknown cs

/-- A bit that is open: an unknown contribution may set it, and no known one does. -/
def Open (cs : List Contribution) (i : ℕ) : Prop :=
  (unknown cs).testBit i = true ∧ (known cs).testBit i = false

variable {cs : List Contribution} {vs : List ℕ} {i : ℕ}

/-- Every contribution has a value in a completion. -/
lemma Completes.value (h : Completes cs vs) {c : Contribution} (hc : c ∈ cs) :
    ∃ v ∈ vs, c.Admits v := by
  induction h with
  | nil => exact absurd hc List.not_mem_nil
  | cons hadmits _ ih =>
      rcases List.mem_cons.mp hc with rfl | hc
      · exact ⟨_, List.mem_cons_self, hadmits⟩
      · obtain ⟨v, hv, hadmits⟩ := ih hc
        exact ⟨v, List.mem_cons_of_mem _ hv, hadmits⟩

/-- Every value of a completion is that of a contribution. -/
lemma Completes.contribution (h : Completes cs vs) {v : ℕ} (hv : v ∈ vs) :
    ∃ c ∈ cs, c.Admits v := by
  induction h with
  | nil => exact absurd hv List.not_mem_nil
  | cons hadmits _ ih =>
      rcases List.mem_cons.mp hv with rfl | hv
      · exact ⟨_, List.mem_cons_self, hadmits⟩
      · obtain ⟨c, hc, hadmits⟩ := ih hv
        exact ⟨c, List.mem_cons_of_mem _ hc, hadmits⟩

lemma testBit_unknown :
    (unknown cs).testBit i = true ↔ ∃ c ∈ cs, c.bits = none ∧ c.mask.testBit i = true := by
  induction cs with
  | nil => simp [unknown]
  | cons c cs ih =>
      by_cases hc : c.bits = none
      · simp [unknown, Nat.testBit_or, ih, hc]
      · simp [unknown, ih, hc]

lemma testBit_known :
    (known cs).testBit i = true ↔ ∃ c ∈ cs, ∃ b, c.bits = some b ∧ b.testBit i = true := by
  induction cs with
  | nil => simp [known]
  | cons c cs ih =>
      cases hc : c.bits with
      | none => simp [known, ih, hc]
      | some b => simp [known, Nat.testBit_or, ih, hc]

/-- A known bit is set in every completion. -/
lemma testBit_union_of_known (h : Completes cs vs) (hi : (known cs).testBit i = true) :
    (union vs).testBit i = true := by
  obtain ⟨c, hc, b, hb, hbit⟩ := testBit_known.mp hi
  obtain ⟨v, hv, hadmits⟩ := h.value hc
  rw [Contribution.Admits, hb] at hadmits
  exact testBit_union.mpr ⟨v, hv, by rwa [show v = b from hadmits]⟩

/-- A bit that is set in some completion is known, or an unknown contribution sets it. -/
lemma known_or_unknown (h : Completes cs vs) (hi : (union vs).testBit i = true) :
    (known cs).testBit i = true ∨ (unknown cs).testBit i = true := by
  obtain ⟨v, hv, hbit⟩ := testBit_union.mp hi
  obtain ⟨c, hc, hadmits⟩ := h.contribution hv
  cases hb : c.bits with
  | none =>
      rw [Contribution.Admits, hb] at hadmits
      exact Or.inr (testBit_unknown.mpr ⟨c, hc, hb, testBit_of_within hadmits hbit⟩)
  | some b =>
      rw [Contribution.Admits, hb] at hadmits
      exact Or.inl (testBit_known.mpr ⟨c, hc, b, hb, by rwa [← show v = b from hadmits]⟩)

/-- **A bit that is not open is the same in every completion.** -/
theorem testBit_of_not_open (h : Completes cs vs) (hi : ¬Open cs i) :
    (union vs).testBit i = (known cs).testBit i := by
  cases hknown : (known cs).testBit i with
  | true => exact testBit_union_of_known h hknown
  | false =>
      rw [← Bool.not_eq_true]
      intro hset
      rcases known_or_unknown h hset with hk | hu
      · rw [hknown] at hk
        exact absurd hk (by simp)
      · exact hi ⟨hu, hknown⟩

/-! ### The two extreme completions -/

/-- The completion that fills every unknown contribution, or none. -/
def fill (full : Bool) (cs : List Contribution) : List ℕ :=
  cs.map fun c => c.bits.getD (if full then c.mask else 0)

lemma fill_completes (full : Bool) (cs : List Contribution) : Completes cs (fill full cs) := by
  rw [Completes, fill, List.forall₂_map_right_iff, List.forall₂_same]
  intro c _
  cases hb : c.bits with
  | none =>
      rw [Contribution.Admits, hb]
      cases full <;> simp
  | some b =>
      rw [Contribution.Admits, hb]
      rfl

lemma union_fill_false : union (fill false cs) = known cs := by
  induction cs with
  | nil => rfl
  | cons c cs ih => exact congrArg (c.bits.getD 0 ||| ·) ih

/-- **Two completions differ in a bit that is open.** -/
theorem exists_ne_of_open (hi : Open cs i) : ∃ vs vs', Completes cs vs ∧ Completes cs vs' ∧
    (union vs).testBit i ≠ (union vs').testBit i := by
  refine ⟨fill true cs, fill false cs, fill_completes true cs, fill_completes false cs, ?_⟩
  obtain ⟨c, hc, hb, hbit⟩ := testBit_unknown.mp hi.1
  have hset : (union (fill true cs)).testBit i = true := by
    refine testBit_union.mpr ⟨c.mask, List.mem_map.mpr ⟨c, hc, ?_⟩, hbit⟩
    rw [hb]
    rfl
  rw [hset, union_fill_false, hi.2]
  exact Bool.true_eq_false.mp

end OmarchyM1Video.Bits
