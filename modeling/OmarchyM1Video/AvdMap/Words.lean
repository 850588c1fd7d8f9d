import OmarchyM1Video.AvdMap.Model
import OmarchyM1Video.Bits.Partial

/-!
What `word` of `experiments/hevc-avd-map/model.py` says of a command word of which some inputs are not
known.

The fields of a word are contributions to it, and `word` reports the bits that every completion has.
A known set bit wins over an unknown contribution that has it in its mask, and a known clear bit does
not.

* `contributions`: the fields without their names;
* `wordBits_eq`, `word_eq`: what is reported, as the bits that are known and those that are open;
* `Word.agrees_of_completes`: a completion has the bits that are reported;
* `word_semantics`: these are all the bits that the completions have in common.
-/

namespace OmarchyM1Video.AvdMap

open OmarchyM1Video.Py OmarchyM1Video.Bits

/-- The fields of a word, as contributions to it. -/
def contributions (fields : List (String × ℕ × Option ℕ)) : List Contribution :=
  fields.map fun field => ⟨field.2.1, field.2.2⟩

section Word

variable {fields : List (String × ℕ × Option ℕ)} {w : Word} {vs : List ℕ} {i : ℕ}

/-- The loop of `word` collects the bits that are known and those that an unknown field may set. -/
lemma wordBits_eq {out : ℕ × ℕ × List String} (h : wordBits fields = .ok out) :
    out.1 = known (contributions fields) ∧ out.2.1 = unknown (contributions fields) := by
  induction fields generalizing out with
  | nil =>
      obtain rfl := Except.ok.inj h
      exact ⟨rfl, rfl⟩
  | cons field fields ih =>
      obtain ⟨name, mask, bits⟩ := field
      cases bits with
      | none =>
          simp only [wordBits, Except.bind_ok, Except.pure_ok] at h
          obtain ⟨rest, hrest, rfl⟩ := h
          obtain ⟨hknown, hunknown⟩ := ih hrest
          refine ⟨hknown.trans (Nat.zero_or _).symm, ?_⟩
          exact (congrArg (· ||| mask) hunknown).trans (Nat.or_comm _ _)
      | some bits =>
          simp only [wordBits, Except.bind_ok, need_ok, Except.pure_ok] at h
          obtain ⟨_, _, rest, hrest, rfl⟩ := h
          obtain ⟨hknown, hunknown⟩ := ih hrest
          refine ⟨?_, hunknown.trans (Nat.zero_or _).symm⟩
          exact (congrArg (· ||| bits) hknown).trans (Nat.or_comm _ _)

/-- The bits that are open, as `word` computes them. -/
def openBits (fields : List (String × ℕ × Option ℕ)) : ℕ :=
  unknown (contributions fields) ^^^ (unknown (contributions fields) &&& known (contributions fields))

lemma testBit_openBits : (openBits fields).testBit i = true ↔ Open (contributions fields) i := by
  rw [openBits, Nat.testBit_xor, Nat.testBit_and, Open]
  cases (unknown (contributions fields)).testBit i <;> simp

/-- What `word` reports. -/
lemma word_eq (h : word fields = .ok w) : w.knownValue = known (contributions fields) ∧
    w.knownMask = 0xffffffff ^^^ openBits fields ∧
    w.value = if openBits fields = 0 then some (known (contributions fields)) else none := by
  simp only [word, Except.bind_ok, Except.pure_ok] at h
  obtain ⟨out, hout, rfl⟩ := h
  obtain ⟨hknown, hunknown⟩ := wordBits_eq hout
  rw [openBits, ← hknown, ← hunknown]
  exact ⟨rfl, rfl, rfl⟩

lemma testBit_ones : (0xffffffff : ℕ).testBit i = decide (i < 32) :=
  Nat.testBit_two_pow_sub_one 32 i

/-- A bit of a word is known where it is not open. -/
lemma Word.testBit_knownMask (h : word fields = .ok w) (hi : i < 32) :
    w.knownMask.testBit i = true ↔ ¬Open (contributions fields) i := by
  rw [(word_eq h).2.1, Nat.testBit_xor, testBit_ones, ← testBit_openBits]
  simp [hi]

/-- There is a value just where no bit is open. -/
lemma value_ne_none (h : word fields = .ok w) :
    w.value ≠ none ↔ ∀ i, ¬Open (contributions fields) i := by
  rw [(word_eq h).2.2]
  by_cases hopen : openBits fields = 0
  · rw [if_pos hopen]
    refine ⟨fun _ i hi => ?_, fun _ => by simp⟩
    rw [← testBit_openBits, hopen, Nat.zero_testBit] at hi
    exact absurd hi (by decide)
  · rw [if_neg hopen]
    refine ⟨fun hne => absurd rfl hne, fun hnone => absurd ?_ hopen⟩
    refine Nat.eq_of_testBit_eq fun i => ?_
    rw [Nat.zero_testBit, ← Bool.not_eq_true, testBit_openBits]
    exact hnone i

section Masks

variable (hmask : ∀ field ∈ fields, field.2.1 < 0x100000000)

include hmask

/-- No bit past the word is open. -/
lemma lt_of_open (hi : Open (contributions fields) i) : i < 32 := by
  obtain ⟨c, hc, _, hbit⟩ := testBit_unknown.mp hi.1
  obtain ⟨field, hfield, rfl⟩ := List.mem_map.mp hc
  by_contra hge
  have hsmall : field.2.1 < 2 ^ i :=
    lt_of_lt_of_le (hmask field hfield) (Nat.pow_le_pow_right Nat.two_pos (Nat.le_of_not_lt hge))
  rw [Nat.testBit_lt_two_pow hsmall] at hbit
  exact absurd hbit (by decide)

lemma not_open_of_knownMask (h : word fields = .ok w) (hi : w.knownMask.testBit i = true) :
    ¬Open (contributions fields) i := fun hopen =>
  (Word.testBit_knownMask h (lt_of_open hmask hopen)).mp hi hopen

/-- **A completion has the bits that are reported.** -/
theorem Word.agrees_of_completes (h : word fields = .ok w) (hvs : Completes (contributions fields) vs)
    (hi : w.knownMask.testBit i = true) :
    (union vs).testBit i = w.knownValue.testBit i := by
  rw [(word_eq h).1]
  exact testBit_of_not_open hvs (not_open_of_knownMask hmask h hi)

/-- **The semantics of a partial word.**  Every completion of the unknown fields has the bits that are
reported; two completions differ in every other bit; and there is a value just where all completions
give the same word, which is then that value. -/
theorem word_semantics (h : word fields = .ok w) :
    (∀ vs, Completes (contributions fields) vs → ∀ i, w.knownMask.testBit i = true →
        (union vs).testBit i = w.knownValue.testBit i) ∧
      (∀ i, i < 32 → w.knownMask.testBit i = false → ∃ vs vs', Completes (contributions fields) vs ∧
        Completes (contributions fields) vs' ∧ (union vs).testBit i ≠ (union vs').testBit i) ∧
      (w.value ≠ none ↔ ∀ vs vs', Completes (contributions fields) vs →
        Completes (contributions fields) vs' → union vs = union vs') ∧
      ∀ v, w.value = some v → ∀ vs, Completes (contributions fields) vs → union vs = v := by
  have hsame : w.value ≠ none → ∀ vs, Completes (contributions fields) vs →
      union vs = known (contributions fields) := fun hvalue vs hvs =>
    Nat.eq_of_testBit_eq fun i => testBit_of_not_open hvs ((value_ne_none h).mp hvalue i)
  refine ⟨fun vs hvs i hi => Word.agrees_of_completes hmask h hvs hi, fun i hi hmask' => ?_,
    ⟨fun hvalue vs vs' hvs hvs' => ?_, fun hall => (value_ne_none h).mpr fun i hi => ?_⟩,
    fun v hv vs hvs => ?_⟩
  · refine exists_ne_of_open (not_not.mp fun hclosed => ?_)
    rw [(Word.testBit_knownMask h hi).mpr hclosed] at hmask'
    exact absurd hmask' (by decide)
  · rw [hsame hvalue vs hvs, hsame hvalue vs' hvs']
  · obtain ⟨vs, vs', hvs, hvs', hne⟩ := exists_ne_of_open hi
    exact hne (congrArg (fun v => Nat.testBit v i) (hall vs vs' hvs hvs'))
  · have hknown := hsame (by rw [hv]; exact Option.some_ne_none v) vs hvs
    rw [hknown, ← Option.some_inj, ← hv, (word_eq h).2.2, if_pos]
    by_contra hopen
    rw [(word_eq h).2.2, if_neg hopen] at hv
    exact absurd hv (Option.some_ne_none v).symm

end Masks

end Word

/-- The fields of a header whose difference of picture order counts is not known. -/
def sampleFields : List (String × ℕ × Option ℕ) :=
  [("count_minus_one", 0xf0000000, some 0x10000000), ("constant", 0x1000000, some 0x1000000),
    ("long_term", 0x20000, some 0), ("slice_pic_order_cnt", 0x1ffff, none)]

/-- The low bits of such a header are open, and there is no value. -/
theorem sampleFields_semantics : ∃ w, word sampleFields = .ok w ∧ w.knownMask = 0xfffe0000 ∧
    w.value = none ∧
    (∀ vs, Completes (contributions sampleFields) vs → ∀ i, w.knownMask.testBit i = true →
      (union vs).testBit i = w.knownValue.testBit i) ∧
    ¬∀ vs vs', Completes (contributions sampleFields) vs →
      Completes (contributions sampleFields) vs' → union vs = union vs' := by
  have hword : word sampleFields = .ok
      { knownMask := 0xfffe0000, knownValue := 0x11000000, value := none
        unknownInputs := ["slice_pic_order_cnt"] } := by decide
  have hmask : ∀ field ∈ sampleFields, field.2.1 < 0x100000000 := by decide
  obtain ⟨hagree, _, hvalue, _⟩ := word_semantics hmask hword
  exact ⟨_, hword, rfl, rfl, hagree, fun hall => hvalue.mpr hall rfl⟩

end OmarchyM1Video.AvdMap
