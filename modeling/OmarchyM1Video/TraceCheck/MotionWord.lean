import OmarchyM1Video.AvdMap.Acceptance
import OmarchyM1Video.AvdMap.Words
import OmarchyM1Video.TraceCheck.Validate

/-!
The two models of the motion word agree.

`motion_word` of `experiments/hevc-avd-trace/check.py` computes the word from the controls, and `motion`
of `experiments/hevc-avd-map/model.py` predicts a part of it from a record that has fewer fields.  The
word of the controls is the union of one value for each field of the prediction, so it completes the
prediction, and a completion has the bits that are reported.

* `MotionRow.reduced`: the record of a slice, with what is left of its controls;
* `MotionRow.values`, `motionWord_eq`: the word as a union;
* `values_complete`: the values complete the fields of the prediction;
* `motion_agrees`: the word has every predicted bit.
-/

namespace OmarchyM1Video.TraceCheck

open OmarchyM1Video.Py OmarchyM1Video.AvdMap OmarchyM1Video.Bits

/-- The first `count` entries of a list of the controls. -/
def activeList (entries : Fin 16 → ℕ) (count : ℕ) : List ℤ :=
  ((List.ofFn entries).take count).map Int.ofNat

/-- The record of the slice of a motion row: the active lists, and the collocated reference if motion
vector prediction is on. -/
def MotionRow.reduced (m : MotionRow UInt64) (nal : ℤ) : SliceRecord :=
  { i := 0, type := typeName m.type, nal, tmvp := ofCond (flagSet m.flags tmvpFlag)
    l0 := if m.type = 2 then [] else activeList m.l0 (m.l0Minus1 + 1)
    l1 := if m.type = 0 then activeList m.l1 (m.l1Minus1 + 1) else []
    colL0 := if flagSet m.flags tmvpFlag then some (ofCond (flagSet m.flags colL0Flag)) else none
    col := if flagSet m.flags tmvpFlag then some m.colIndex else none }

/-- The values of the fields of the motion word. -/
def MotionRow.values (m : MotionRow UInt64) : List ℕ :=
  [0x2d000000, (5 - m.merge) * 2,
    ofCond (flagSet m.flags tmvpFlag ∧ ¬flagSet m.flags colL0Flag) * 0x10,
    ofCond (flagSet m.flags cabacFlag) * 0x20, ofCond (¬flagSet m.flags mvdZeroFlag) * 0x40,
    m.l0Minus1 * 0x800, m.l1Minus1 * 0x80,
    ofCond (flagSet m.flags (tmvpFlag ||| dependentFlag)) * 0x8000, ofCond (m.type = 1) * 0x10000,
    m.valid * 0x40000]

section Motion

variable {m : MotionRow UInt64} {nal : ℤ} {word : ℕ}

lemma or_eq_union (a b c d e f g h i j : ℕ) :
    a ||| b ||| c ||| d ||| e ||| f ||| g ||| h ||| i ||| j = union [a, b, c, d, e, f, g, h, i, j] := by
  simp only [union_cons, union_nil, Nat.or_zero, Nat.or_assoc]

/-- The motion word of a slice that is no I slice is the union of the values. -/
lemma motionWord_eq (htype : m.type ≠ 2) (h : motionWord m = .ok word) :
    (m.merge ≤ 4 ∧ m.l0Minus1 < 16 ∧ m.l1Minus1 < 16) ∧ word = union m.values := by
  rw [motionWord, if_neg htype] at h
  simp only [Except.bind_ok, need_ok, Except.pure_ok] at h
  obtain ⟨_, hdomain, rfl⟩ := h
  exact ⟨hdomain, or_eq_union _ _ _ _ _ _ _ _ _ _⟩

lemma activeList_length {entries : Fin 16 → ℕ} {count : ℕ} (h : count ≤ 16) :
    (activeList entries count).length = count := by
  rw [activeList, List.length_map, List.length_take, List.length_ofFn, Nat.min_eq_left h]

lemma reduced_type (htype : m.type ≤ 2) : ((m.reduced nal).type = "I" ↔ m.type = 2) ∧
    ((m.reduced nal).type = "P" ↔ m.type = 1) ∧ ((m.reduced nal).type = "B" ↔ m.type = 0) := by
  have hcases : m.type = 0 ∨ m.type = 1 ∨ m.type = 2 := by omega
  rw [MotionRow.reduced]
  dsimp only
  rcases hcases with h | h | h <;> rw [h] <;> decide

lemma reduced_tmvp : (m.reduced nal).tmvp ≠ 0 ↔ flagSet m.flags tmvpFlag := by
  rw [MotionRow.reduced, ofCond]
  split_ifs with h <;> simp [h]

/-- A condition times a bit is within the mask of the bit. -/
lemma ofCond_within (c : Prop) [Decidable c] (bit : ℕ) : ofCond c * bit &&& bit = ofCond c * bit := by
  rw [ofCond]
  split_ifs
  · rw [Nat.one_mul, Nat.and_self]
  · rw [Nat.zero_mul, Nat.zero_and]

lemma ofCond_mul (c : Prop) [Decidable c] (bit : ℕ) : ofCond c * bit = if c then bit else 0 := by
  rw [ofCond]
  split_ifs
  · exact Nat.one_mul bit
  · exact Nat.zero_mul bit

lemma flagSet_or {flags a b : ℕ} (h : flagSet flags a) : flagSet flags (a ||| b) := by
  intro hzero
  rw [Nat.and_or_distrib_left, Nat.or_eq_zero_iff] at hzero
  exact h hzero.1

/-- **The values complete the fields of the prediction**, if what is said of the motion vectors is what
the gate lets through. -/
lemma values_complete {refValid : Option Bool} (htype : m.type ≤ 2) (hnot : m.type ≠ 2)
    (hdomain : m.merge ≤ 4 ∧ m.l0Minus1 < 16 ∧ m.l1Minus1 < 16)
    (hvalid : refValid.elim (m.valid ≤ 1) fun valid => m.valid = valid.toNat) :
    Completes (contributions (motionFields (m.reduced nal) refValid)) m.values := by
  obtain ⟨hmerge, hl0, hl1⟩ := hdomain
  have htmvp := @reduced_tmvp m nal
  have hnames := @reduced_type m nal htype
  have hlen0 : (m.reduced nal).l0.length - 1 = m.l0Minus1 := by
    rw [MotionRow.reduced]
    dsimp only
    rw [if_neg hnot, activeList_length hl0]
    rfl
  have hmasked : m.l1Minus1 * 0x80 &&& 0x780 = m.l1Minus1 * 0x80 := by
    generalize m.l1Minus1 = k at hl1
    interval_cases k <;> rfl
  simp only [contributions, motionFields, List.map_cons, List.map_nil, MotionRow.values, Completes,
    List.forall₂_cons, List.forall₂_nil_left_iff, Contribution.admits_some, Contribution.admits_none,
    and_true]
  refine ⟨trivial, ?_, ?_, ofCond_within _ _, ofCond_within _ _, ?_, ?_, ?_, ?_, ?_⟩
  · generalize m.merge = k at hmerge
    interval_cases k <;> rfl
  · rw [ofCond_mul]
    refine if_congr ?_ rfl rfl
    rw [htmvp]
    refine and_congr_right fun h => ?_
    rw [MotionRow.reduced]
    dsimp only
    rw [if_pos h, Option.getD_some, ofCond]
    split_ifs with hcol <;> simp [hcol]
  · rw [hlen0]
  · by_cases hb : m.type = 0
    · rw [if_pos (hnames.2.2.mpr hb)]
      have hlen1 : (m.reduced nal).l1.length - 1 = m.l1Minus1 := by
        rw [MotionRow.reduced]
        dsimp only
        rw [if_pos hb, activeList_length hl1]
        rfl
      rw [hlen1]
      rfl
    · rw [if_neg (fun h => hb (hnames.2.2.mp h))]
      exact hmasked
  · by_cases h : flagSet m.flags tmvpFlag
    · rw [if_pos (htmvp.mpr h), ofCond, if_pos (flagSet_or h)]
      rfl
    · rw [if_neg (fun hne => h (htmvp.mp hne))]
      exact ofCond_within _ _
  · rw [ofCond_mul]
    exact if_congr hnames.2.1.symm rfl rfl
  · cases refValid with
    | none =>
        have hle : m.valid ≤ 1 := hvalid
        generalize m.valid = k at hle
        interval_cases k <;> rfl
    | some valid =>
        have heq : m.valid = valid.toNat := hvalid
        rw [heq]
        cases valid <;> rfl

/-- The masks of the fields are within the word. -/
lemma motionFields_masks (s : SliceRecord) (refValid : Option Bool) :
    ∀ field ∈ motionFields s refValid, field.2.1 < 0x100000000 := by
  simp only [motionFields, List.forall_mem_cons, List.not_mem_nil, IsEmpty.forall_iff, implies_true,
    and_true]
  decide

/-- The gate lets nothing through that is known to be absent. -/
lemma valid_of_gate {col : Option Writer} (hvalid : m.valid = ofCond (Gated m))
    (hintra : ∀ writer, col = some writer → writer.isIntra = true → m.buf.intra ≠ 0) :
    (if (m.reduced nal).tmvp = 0 ∨ col.elim false Writer.isIntra = true then some false
      else none : Option Bool).elim (m.valid ≤ 1) fun valid => m.valid = valid.toNat := by
  by_cases hoff : (m.reduced nal).tmvp = 0 ∨ col.elim false Writer.isIntra = true
  · rw [if_pos hoff, Option.elim_some, hvalid, ofCond, if_neg]
    · rfl
    · rintro ⟨_, htmvp, _, hinter⟩
      rcases hoff with hoff | hwriter
      · exact reduced_tmvp.mpr htmvp hoff
      · cases col with
        | none => exact absurd hwriter (by decide)
        | some writer => exact hintra writer rfl hwriter hinter
  · rw [if_neg hoff, Option.elim_none, hvalid, ofCond]
    split_ifs <;> decide

/-- A collocated writer is looked up in the DPB. -/
lemma collocated_of_some {s : SliceRecord} {refs : List Reference} {col : Option Writer}
    {writer : Writer} (h : collocated? s refs = .ok col) (hcol : col = some writer) :
    collocated s refs = .ok writer := by
  rw [collocated?] at h
  split_ifs at h with htmvp
  · obtain rfl := Except.ok.inj h
    exact absurd hcol (by simp)
  · cases hfound : collocated s refs with
    | error e =>
        rw [hfound] at h
        exact absurd h (by simp [Except.map])
    | ok found =>
        rw [hfound] at h
        obtain rfl := Except.ok.inj h
        obtain rfl := Option.some.inj hcol
        rfl

/-- The motion word of an I slice is fixed. -/
lemma motion_intra {refs : List Reference} {mo : Motion} (htype : m.type = 2)
    (h : motion (m.reduced nal) refs = .ok mo) :
    mo.word.knownValue = 0x2d020000 := by
  have hI : (m.reduced nal).type = "I" := (reduced_type (by omega)).1.mpr htype
  rw [motion, if_pos hI] at h
  simp only [Except.bind_ok, Except.pure_ok] at h
  obtain ⟨w, hw, rfl⟩ := h
  rw [(word_eq hw).1]
  rfl

/-- **The two models of the motion word agree.**  If the type of a slice is known and its `valid` bit is
set by the gate, the word of the full controls has every bit that the map predicts.  The controls have
a word if their numbers are in the domain, and the map predicts one if it accepts the slice. -/
theorem motion_agrees {refs : List Reference} (htype : m.type ≤ 2)
    (hvalid : m.valid = ofCond (Gated m))
    (hintra : ∀ writer, collocated (m.reduced nal) refs = .ok writer →
      (writer.isIntra = true ↔ m.buf.intra ≠ 0)) :
    (∀ mo word, motion (m.reduced nal) refs = .ok mo → motionWord m = .ok word →
        ∀ i, mo.word.knownMask.testBit i = true →
          word.testBit i = mo.word.knownValue.testBit i) ∧
      ((m.type ≠ 2 → m.merge ≤ 4 ∧ m.l0Minus1 < 16 ∧ m.l1Minus1 < 16) →
        ∃ word, motionWord m = .ok word) ∧
      (SliceMappable refs.length (m.reduced nal) → ∃ mo, motion (m.reduced nal) refs = .ok mo) := by
  refine ⟨fun mo word hmo hword i hi => ?_, fun hdomain => ?_, motion_accepts⟩
  · by_cases hI : m.type = 2
    · rw [motionWord, if_pos hI] at hword
      obtain rfl := Except.ok.inj hword
      rw [motion_intra hI hmo]
    · obtain ⟨hdomain, rfl⟩ := motionWord_eq hI hword
      rw [motion, if_neg (fun h => hI ((reduced_type htype).1.mp h))] at hmo
      simp only [interMotion, Except.bind_ok, Except.pure_ok] at hmo
      obtain ⟨col, hcol, w, hw, rfl⟩ := hmo
      refine Word.agrees_of_completes (motionFields_masks _ _) hw
        (values_complete htype hI hdomain (valid_of_gate hvalid fun writer hwriter hi => ?_)) hi
      exact (hintra writer (collocated_of_some hcol hwriter)).mp hi
  · by_cases hI : m.type = 2
    · exact ⟨_, by rw [motionWord, if_pos hI]⟩
    · rw [motionWord, if_neg hI]
      simp only [Except.bind_ok, need_ok, Except.pure_ok]
      exact ⟨_, (), hdomain hI, rfl⟩

end Motion

/-- A P slice with one reference and motion vector prediction from it. -/
def sampleMotion : MotionRow UInt64 :=
  { picture := 25, flags := 36, type := 1, merge := 0, l0Minus1 := 0, l1Minus1 := 0, colIndex := 0
    first := 1, slot := 0, requestedTimestamp := 24, lookup := 1, matched := 1, valid := 1
    word := 0x2d05804a, emitted := 1, buf := sampleBuffer 24 0 1, l0 := fun _ => 0, l1 := fun _ => 0
    emittedMv := 3840, quirks := 0 }

/-- The DPB of the slice: a picture that is no I picture. -/
def sampleRefs : List Reference :=
  [{ slot := 0, longTerm := 0, headerIfSlicePocEqualsDecodePoc := none, compressedBuffer := 0
     writer := { picture := 24, poc := 24, buffer := 0, generation := 1, isIntra := false }
     header := { knownMask := 0, knownValue := 0, value := none, unknownInputs := [] } }]

/-- The word of this slice has the predicted bits: all but those of the merge candidates, of two
flags, of the second list and of the gate. -/
theorem sampleMotion_agrees : ∃ mo, motion (sampleMotion.reduced 1) sampleRefs = .ok mo ∧
    motionWord sampleMotion = .ok 0x2d05804a ∧ mo.word.knownMask = 0xfffbf811 ∧
    ∀ i, mo.word.knownMask.testBit i = true →
      (0x2d05804a : ℕ).testBit i = mo.word.knownValue.testBit i := by
  have hmo : ((motion (sampleMotion.reduced 1) sampleRefs).toOption.any fun mo =>
      decide (mo.word.knownMask = 0xfffbf811)) = true := by decide +kernel
  obtain ⟨mo, hmo, hmask⟩ := ok_of_any hmo
  have hword : motionWord sampleMotion = .ok 0x2d05804a := by decide +kernel
  refine ⟨mo, hmo, hword, of_decide_eq_true hmask, ?_⟩
  refine (@motion_agrees _ 1 sampleRefs (by decide) (by decide) ?_).1 mo _ hmo hword
  intro writer hwriter
  obtain rfl := Except.ok.inj hwriter
  decide

end OmarchyM1Video.TraceCheck
