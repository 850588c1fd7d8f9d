import Mathlib.Data.Int.Notation
import Mathlib.Data.List.Basic

/-!
The stop guard of the H.264 decoder: `h264_vaapi_admit.c`, and where the decoder and the VAAPI callbacks
call it.

The guard is three fields of the private data of the hardware acceleration.  An event of the decoder
is a NAL unit to be admitted, one of the callbacks of a picture, a flush, or an error that leaves the
loop over the NAL units; each may come at any time, with any parameter sets and any slice.

* `admitReject`, `admitNal`, `admitStart`, `admitSlice`, `admitEnd`: the functions of the guard;
* `step`: one event, with the callbacks since the last picture that was issued;
* `admitStart_cases`, `admitSlice_cases`, `admitEnd_cases`: what each can do to the guard;
* `Tracks`: what the guard knows of the callbacks since the last issue;
* `stop_guard`: what the driver gets to see.
-/

namespace OmarchyM1Video.H264Admission

/-! ### The decoder -/

/-- The guard fields of `VAAPIDecodeContext`. -/
structure Guard where
  sticky : ℤ := 0
  inPicture : ℤ := 0
  slices : ℤ := 0
  deriving DecidableEq

/-- The private data of the hardware acceleration: the bytes that `VAAPIDecodeContext` has the guard
in, and the others. -/
structure Priv (F : Type) where
  guard : Guard
  rest : F

/-- The pixel format of a hardware acceleration. -/
inductive PixFmt where
  | vaapi
  | other
  deriving DecidableEq

/-- What the guard reads of an `AVCodecContext`. -/
structure Decoder (F : Type) where
  hwaccel : Option PixFmt
  /-- `avctx->internal` is there. -/
  internal : Bool := true
  priv : Option (Priv F)

structure Sps where
  frameMbsOnlyFlag : ℤ
  mbAff : ℤ
  deriving DecidableEq

structure Pps where
  sliceGroupCount : ℤ
  redundantPicCntPresent : ℤ
  deriving DecidableEq

/-- What the guard reads of an `H264Context`. -/
structure H264Context where
  sps : Option Sps
  pps : Option Pps
  /-- The type of the first slice context, if there is one. -/
  sliceType : Option ℤ
  pictureStructure : ℤ
  nalUnitType : ℤ
  deriving DecidableEq

/-- `AVERROR(EINVAL)`. -/
def einval : ℤ := -22

/-- `INT_MAX`. -/
def intMax : ℤ := 2147483647

/-- `PICT_FRAME`. -/
def pictFrame : ℤ := 3

/-- The types of I, P and B slices. -/
def sliceTypes : List ℤ := [1, 2, 3]

/-- `H264_NAL_SLICE` and `H264_NAL_IDR_SLICE`. -/
def sliceNals : List ℤ := [1, 5]

/-- SEI, SPS, PPS, AUD, END_SEQUENCE, END_STREAM and FILLER_DATA. -/
def otherNals : List ℤ := [6, 7, 8, 9, 10, 11, 12]

variable {F : Type}

/-! ### The guard -/

/-- `ff_h264_vaapi_admit_is_active`. -/
def isActive (d : Decoder F) : Bool := d.hwaccel == some .vaapi

/-- `admit_context`. -/
def admitContext (d : Decoder F) : Option Guard :=
  if isActive d && d.internal then d.priv.map Priv.guard else none

/-- An assignment to the guard. -/
def Decoder.write (d : Decoder F) (g : Guard) : Decoder F :=
  { d with priv := d.priv.map fun p => { p with guard := g } }

/-- The guard after a rejection. -/
def stopped : Guard := ⟨1, 0, 0⟩

/-- `ff_h264_vaapi_admit_reject`. -/
def admitReject (d : Decoder F) : ℤ × Decoder F :=
  match admitContext d with
  | some _ => (einval, d.write stopped)
  | none => (einval, d)

/-- `ff_h264_vaapi_admit_nal`. -/
def admitNal (d : Decoder F) (type : ℤ) : ℤ × Decoder F :=
  if !isActive d then (0, d)
  else
    match admitContext d with
    | none => (einval, d)
    | some g =>
        if g.sticky ≠ 0 then (einval, d)
        else if type ∈ sliceNals ++ otherNals then (0, d)
        else admitReject d

/-- One slice group, no redundant pictures, progressive frame coding. -/
def H264Context.Plain (c : H264Context) : Prop :=
  (∃ pps, c.pps = some pps ∧ pps.sliceGroupCount = 1 ∧ pps.redundantPicCntPresent = 0) ∧
    (∃ sps, c.sps = some sps ∧ sps.frameMbsOnlyFlag ≠ 0 ∧ sps.mbAff = 0) ∧
    c.pictureStructure = pictFrame

/-- The test of `admit_picture`. -/
def refusesPicture : Option H264Context → Bool
  | some ⟨some sps, some pps, some _, pictureStructure, _⟩ =>
      pps.sliceGroupCount ≠ 1 || pps.redundantPicCntPresent ≠ 0 || sps.frameMbsOnlyFlag = 0 ||
        sps.mbAff ≠ 0 || pictureStructure ≠ pictFrame
  | _ => true

/-- `admit_picture`. -/
def admitPicture (d : Decoder F) (h : Option H264Context) : ℤ × Decoder F :=
  if refusesPicture h then admitReject d else (0, d)

/-- `ff_h264_vaapi_admit_start`. -/
def admitStart (d : Decoder F) (h : Option H264Context) : ℤ × Decoder F :=
  match admitContext d with
  | none => (einval, d)
  | some g =>
      if g.sticky ≠ 0 ∨ g.inPicture ≠ 0 then admitReject d
      else if (admitPicture d h).1 < 0 then admitReject (admitPicture d h).2
      else (0, (admitPicture d h).2.write { g with slices := 0, inPicture := 1 })

/-- The tests of the slice in `ff_h264_vaapi_admit_slice`. -/
def refusesSlice : Option H264Context → Bool
  | some c => c.nalUnitType ∉ sliceNals || c.sliceType.all (· ∉ sliceTypes)
  | none => true

/-- `ff_h264_vaapi_admit_slice`. -/
def admitSlice (d : Decoder F) (h : Option H264Context) : ℤ × Decoder F :=
  match admitContext d with
  | none => (einval, d)
  | some g =>
      if g.sticky ≠ 0 ∨ g.inPicture = 0 ∨ g.slices = intMax then admitReject d
      else if (admitPicture d h).1 < 0 then admitReject (admitPicture d h).2
      else if refusesSlice h then admitReject (admitPicture d h).2
      else (0, (admitPicture d h).2.write { g with slices := g.slices + 1 })

/-- `ff_h264_vaapi_admit_end`. -/
def admitEnd (d : Decoder F) : ℤ × Decoder F :=
  match admitContext d with
  | none => (einval, d)
  | some g =>
      if g.sticky ≠ 0 ∨ g.inPicture = 0 ∨ g.slices ≤ 0 then admitReject d
      else (0, d.write { g with inPicture := 0, slices := 0 })

/-! ### The events -/

/-- A callback, and whether the guard has admitted it. -/
inductive Callback where
  | start (admitted : Bool)
  | slice (h : Option H264Context) (admitted : Bool)
  deriving DecidableEq

/-- The decoder, and what the driver has seen. -/
structure State (F : Type) where
  dec : Decoder F
  /-- The callbacks since the last picture that was issued. -/
  since : List Callback := []
  /-- The callbacks of each picture that was issued. -/
  issued : List (List Callback) := []
  cancels : ℕ := 0

/-- What the decoder knows of its picture where it stops. -/
structure Exit where
  currentSlice : Bool
  curPic : Bool
  /-- The hardware acceleration has an `end_frame`. -/
  hasEndFrame : Bool := true

/-- `vaapi_h264_start_frame`. -/
def startFrame (s : State F) (h : Option H264Context) : State F :=
  { s with
    dec := (admitStart s.dec h).2
    since := s.since ++ [.start (0 ≤ (admitStart s.dec h).1)] }

/-- `vaapi_h264_decode_slice`. -/
def decodeSlice (s : State F) (h : Option H264Context) : State F :=
  { s with
    dec := (admitSlice s.dec h).2
    since := s.since ++ [.slice h (0 ≤ (admitSlice s.dec h).1)]
    cancels := if (admitSlice s.dec h).1 < 0 then s.cancels + 1 else s.cancels }

/-- `vaapi_h264_end_frame`. -/
def endFrame (s : State F) : State F :=
  if (admitEnd s.dec).1 < 0 then { s with dec := (admitEnd s.dec).2, cancels := s.cancels + 1 }
  else { s with dec := (admitEnd s.dec).2, since := [], issued := s.issued ++ [s.since] }

/-- The end of `decode_nal_units`, after an error. -/
def errorExit (s : State F) (e : Exit) : State F :=
  if isActive s.dec then
    let s₁ := { s with dec := (admitReject s.dec).2 }
    if e.currentSlice && e.curPic && e.hasEndFrame then endFrame s₁ else s₁
  else s

/-- `ff_h264_flush_change`. -/
def flushChange (s : State F) (e : Exit) : State F :=
  if e.currentSlice && isActive s.dec then
    let s₁ := { s with dec := (admitReject s.dec).2 }
    if e.curPic && e.hasEndFrame then endFrame s₁ else s₁
  else s

/-- A NAL unit in the loop of `decode_nal_units`. -/
def nalUnit (s : State F) (type : ℤ) (e : Exit) : State F :=
  let s₁ := { s with dec := (admitNal s.dec type).2 }
  if (admitNal s.dec type).1 < 0 then errorExit s₁ e else s₁

/-- An event of the decoder. -/
inductive Event where
  | nal (type : ℤ) (e : Exit)
  | startFrame (h : Option H264Context)
  | decodeSlice (h : Option H264Context)
  | endFrame
  | flush (e : Exit)
  /-- The end of the stream, which flushes a picture that is not complete. -/
  | endOfStream (e : Exit)
  | error (e : Exit)

/-- One event.  The callbacks are those of VAAPI: of another acceleration they are its own. -/
def step (s : State F) : Event → State F
  | .nal type e => nalUnit s type e
  | .startFrame h => if isActive s.dec then startFrame s h else s
  | .decodeSlice h => if isActive s.dec then decodeSlice s h else s
  | .endFrame => if isActive s.dec then endFrame s else s
  | .flush e => flushChange s e
  | .endOfStream e => if e.currentSlice && isActive s.dec then flushChange s e else s
  | .error e => errorExit s e

/-- A run of the decoder. -/
def run (d : Decoder F) (events : List Event) : State F := events.foldl step { dec := d }

/-! ### What each function does to the guard -/

/-- The decoder uses VAAPI, and its guard is `g`. -/
def Guards (d : Decoder F) (g : Guard) : Prop :=
  d.hwaccel = some .vaapi ∧ d.internal = true ∧ ∃ rest, d.priv = some ⟨g, rest⟩

variable {d : Decoder F} {g : Guard} {h : Option H264Context} {s : State F}

lemma Guards.isActive (hg : Guards d g) : isActive d = true := by
  simp [H264Admission.isActive, hg.1]

lemma Guards.context (hg : Guards d g) : admitContext d = some g := by
  have hactive := hg.isActive
  obtain ⟨-, hinternal, rest, hpriv⟩ := hg
  simp [admitContext, hactive, hinternal, hpriv]

lemma Guards.write (hg : Guards d g) (g' : Guard) : Guards (d.write g') g' := by
  obtain ⟨hactive, hinternal, rest, hpriv⟩ := hg
  exact ⟨hactive, hinternal, rest, by simp [Decoder.write, hpriv]⟩

/-- The guard is in one state. -/
lemma Guards.unique {g' : Guard} (hg : Guards d g) (hg' : Guards d g') : g = g' :=
  Option.some.inj (hg.context.symm.trans hg'.context)

/-- The call has failed, and the guard is stopped. -/
def Stops (p : ℤ × Decoder F) : Prop := p.1 = einval ∧ Guards p.2 stopped

lemma admitReject_stops (hg : Guards d g) : Stops (admitReject d) := by
  rw [admitReject, hg.context]
  exact ⟨rfl, hg.write stopped⟩

/-- `admit_picture` passes a plain picture on, or stops the guard. -/
lemma admitPicture_cases (hg : Guards d g) (h : Option H264Context) :
    (admitPicture d h = (0, d) ∧ ∃ c, h = some c ∧ c.Plain) ∨ Stops (admitPicture d h) := by
  rw [admitPicture]
  rcases hrefuses : refusesPicture h with _ | _
  · refine Or.inl ⟨by simp, ?_⟩
    rcases h with _ | ⟨_ | sps, _ | pps, _ | sliceType, pictureStructure, nalUnitType⟩ <;>
      simp only [refusesPicture, Bool.true_eq_false] at hrefuses
    simp only [ne_eq, decide_not, Bool.or_eq_false_iff, Bool.not_eq_false', decide_eq_true_eq,
      decide_eq_false_iff_not] at hrefuses
    obtain ⟨⟨⟨⟨hgroups, hredundant⟩, hframe⟩, haff⟩, hstructure⟩ := hrefuses
    exact ⟨_, rfl, ⟨pps, rfl, hgroups, hredundant⟩, ⟨sps, rfl, hframe, haff⟩, hstructure⟩
  · exact Or.inr (by simpa using admitReject_stops hg)

lemma admitNal_cases (hg : Guards d g) (type : ℤ) :
    admitNal d type = (0, d) ∨ (admitNal d type = (einval, d) ∧ g.sticky ≠ 0) ∨
      Stops (admitNal d type) := by
  rw [admitNal]
  simp only [hg.isActive, Bool.not_true, Bool.false_eq_true, if_false, hg.context]
  split_ifs with hsticky hmem
  · exact Or.inr (Or.inl ⟨rfl, hsticky⟩)
  · exact Or.inl rfl
  · exact Or.inr (Or.inr (admitReject_stops hg))

lemma admitStart_cases (hg : Guards d g) (h : Option H264Context) :
    ((admitStart d h).1 = 0 ∧ g.sticky = 0 ∧ g.inPicture = 0 ∧
      Guards (admitStart d h).2 { g with slices := 0, inPicture := 1 }) ∨ Stops (admitStart d h) := by
  rw [admitStart]
  simp only [hg.context]
  split_ifs with hguard hpicture
  · exact Or.inr (admitReject_stops hg)
  · rcases admitPicture_cases hg h with ⟨hpass, -⟩ | hstops
    · simp [hpass] at hpicture
    · exact Or.inr (admitReject_stops hstops.2)
  · rw [not_or, not_not, not_not] at hguard
    rcases admitPicture_cases hg h with ⟨hpass, -⟩ | hstops
    · refine Or.inl ⟨rfl, hguard.1, hguard.2, ?_⟩
      rw [hpass]
      exact hg.write _
    · rw [hstops.1] at hpicture
      exact absurd (by decide) hpicture

/-- A slice that may be decoded. -/
def H264Context.Permitted (c : H264Context) : Prop :=
  c.nalUnitType ∈ sliceNals ∧ (∃ t ∈ sliceTypes, c.sliceType = some t) ∧ c.Plain

lemma admitSlice_cases (hg : Guards d g) (h : Option H264Context) :
    ((admitSlice d h).1 = 0 ∧ g.sticky = 0 ∧ g.inPicture ≠ 0 ∧ (∃ c, h = some c ∧ c.Permitted) ∧
      Guards (admitSlice d h).2 { g with slices := g.slices + 1 }) ∨ Stops (admitSlice d h) := by
  rw [admitSlice]
  simp only [hg.context]
  rcases admitPicture_cases hg h with ⟨hpass, c, rfl, hplain⟩ | hstops
  · simp only [hpass, Int.lt_irrefl, if_false]
    split_ifs with hguard hslice
    · exact Or.inr (admitReject_stops hg)
    · exact Or.inr (admitReject_stops hg)
    · simp only [not_or, not_not] at hguard
      refine Or.inl ⟨rfl, hguard.1, hguard.2.1, ⟨c, rfl, ?_⟩, hg.write _⟩
      obtain ⟨hnal, htype⟩ : c.nalUnitType ∈ sliceNals ∧ ¬ c.sliceType.all (· ∉ sliceTypes) := by
        simpa [refusesSlice] using hslice
      refine ⟨hnal, ?_, hplain⟩
      rcases hsome : c.sliceType with _ | t
      · simp [hsome] at htype
      · exact ⟨t, by simpa [hsome] using htype, rfl⟩
  · have hlt : (admitPicture d h).1 < 0 := by
      rw [hstops.1]
      decide
    simp only [hlt, if_true]
    split_ifs
    · exact Or.inr (admitReject_stops hg)
    · exact Or.inr (admitReject_stops hstops.2)

lemma admitEnd_cases (hg : Guards d g) :
    ((admitEnd d).1 = 0 ∧ g.sticky = 0 ∧ g.inPicture ≠ 0 ∧ 0 < g.slices ∧
      Guards (admitEnd d).2 { g with inPicture := 0, slices := 0 }) ∨ Stops (admitEnd d) := by
  rw [admitEnd]
  simp only [hg.context]
  split_ifs with hguard
  · exact Or.inr (admitReject_stops hg)
  · simp only [not_or, not_not, Int.not_le] at hguard
    exact Or.inl ⟨rfl, hguard.1, hguard.2.1, hguard.2.2, hg.write _⟩

/-! ### The invariant -/

/-- A picture that has been begun: its last callbacks are an admitted start, the only one, and slices
that have been admitted. -/
def Begun (callbacks : List Callback) (slices : List H264Context) : Prop :=
  ∃ before, callbacks = before ++ .start true :: slices.map (fun c => .slice (some c) true) ∧
    .start true ∉ before ∧ ∀ c ∈ slices, c.Permitted

/-- What the guard knows of the callbacks since the last issue. -/
structure Tracks (g : Guard) (since : List Callback) : Prop where
  halted : g.sticky ≠ 0 → g = stopped
  idle : g.sticky = 0 → g.inPicture = 0 → .start true ∉ since ∧ g.slices = 0
  busy : g.sticky = 0 → g.inPicture ≠ 0 →
    ∃ slices : List H264Context, Begun since slices ∧ g.slices = slices.length

/-- The invariant of a decoder that uses VAAPI. -/
structure Inv (s : State F) (g : Guard) : Prop where
  guards : Guards s.dec g
  tracks : Tracks g s.since
  issued : ∀ p ∈ s.issued, ∃ slices, Begun p slices ∧ slices ≠ []

lemma Tracks.of_stopped (since : List Callback) : Tracks stopped since :=
  ⟨fun _ => rfl, fun h => absurd h (by decide), fun h => absurd h (by decide)⟩

/-- A guard that is stopped knows enough, whatever has happened. -/
lemma Inv.of_stops {s' : State F} {p : ℤ × Decoder F} (hs : Inv s g) (hp : Stops p)
    (hdec : s'.dec = p.2) (hissued : s'.issued = s.issued) : Inv s' stopped :=
  ⟨hdec ▸ hp.2, Tracks.of_stopped _, hissued ▸ hs.issued⟩

/-- What an event leads to: the invariant, and nothing is issued once the guard is stopped. -/
def Follows (g : Guard) (s s' : State F) : Prop :=
  ∃ g', Inv s' g' ∧ (g.sticky ≠ 0 → g'.sticky ≠ 0 ∧ s'.issued = s.issued)

lemma Follows.refl (hs : Inv s g) : Follows g s s := ⟨g, hs, fun h => ⟨h, rfl⟩⟩

lemma Follows.of_stops {s' : State F} {p : ℤ × Decoder F} (hs : Inv s g) (hp : Stops p)
    (hdec : s'.dec = p.2) (hissued : s'.issued = s.issued) : Follows g s s' :=
  ⟨stopped, hs.of_stops hp hdec hissued, fun _ => ⟨by decide, hissued⟩⟩

lemma Follows.trans {g' : Guard} {s' s'' : State F}
    (hissued : g.sticky ≠ 0 → g'.sticky ≠ 0 ∧ s'.issued = s.issued) (h : Follows g' s' s'') :
    Follows g s s'' := by
  obtain ⟨g'', hs'', hstay⟩ := h
  refine ⟨g'', hs'', fun hsticky => ?_⟩
  obtain ⟨hg', heq⟩ := hissued hsticky
  exact ⟨(hstay hg').1, (hstay hg').2.trans heq⟩

/-! ### The events -/

lemma startFrame_follows (hs : Inv s g) (h : Option H264Context) : Follows g s (startFrame s h) := by
  rcases admitStart_cases hs.guards h with ⟨hret, hsticky, hidle, hguards⟩ | hstops
  · obtain ⟨hfresh, -⟩ := hs.tracks.idle hsticky hidle
    refine ⟨_, ⟨hguards, ⟨fun hne => absurd hsticky hne, fun _ hzero => absurd hzero (by simp),
      fun _ _ => ⟨[], ⟨s.since, ?_, hfresh, by simp⟩, rfl⟩⟩, hs.issued⟩, fun hne => absurd hsticky hne⟩
    simp [startFrame, hret]
  · exact Follows.of_stops hs hstops rfl rfl

lemma decodeSlice_follows (hs : Inv s g) (h : Option H264Context) :
    Follows g s (decodeSlice s h) := by
  rcases admitSlice_cases hs.guards h with ⟨hret, hsticky, hbusy, ⟨c, rfl, hc⟩, hguards⟩ | hstops
  · obtain ⟨slices, ⟨before, hsince, hfresh, hslices⟩, hcount⟩ := hs.tracks.busy hsticky hbusy
    refine ⟨_, ⟨hguards, ⟨fun hne => absurd hsticky hne, fun _ hzero => absurd hzero hbusy,
      fun _ _ => ⟨slices ++ [c], ⟨before, ?_, hfresh, ?_⟩, ?_⟩⟩, hs.issued⟩,
      fun hne => absurd hsticky hne⟩
    · simp [decodeSlice, hret, hsince]
    · rw [List.forall_mem_append, List.forall_mem_singleton]
      exact ⟨hslices, hc⟩
    · simp [hcount]
  · exact Follows.of_stops hs hstops rfl rfl

/-- **A picture is issued only after its start and its slices were admitted.** -/
lemma endFrame_follows (hs : Inv s g) : Follows g s (endFrame s) := by
  rw [endFrame]
  rcases admitEnd_cases hs.guards with ⟨hret, hsticky, hbusy, hpos, hguards⟩ | hstops
  · obtain ⟨slices, hbegun, hcount⟩ := hs.tracks.busy hsticky hbusy
    have hne : slices ≠ [] := by
      rintro rfl
      simp [hcount] at hpos
    rw [hret, if_neg (Int.lt_irrefl 0)]
    refine ⟨_, ⟨hguards, ⟨fun hne => absurd hsticky hne, fun _ _ => ⟨List.not_mem_nil, rfl⟩,
      fun _ hbusy' => absurd rfl hbusy'⟩, ?_⟩, fun hne => absurd hsticky hne⟩
    rw [List.forall_mem_append, List.forall_mem_singleton]
    exact ⟨hs.issued, slices, hbegun, hne⟩
  · rw [hstops.1, if_pos (by decide)]
    exact Follows.of_stops hs hstops rfl rfl

/-- A rejection, and the callback after it. -/
lemma reject_follows (hs : Inv s g) (b : Bool) :
    Follows g s (if b then endFrame { s with dec := (admitReject s.dec).2 }
      else { s with dec := (admitReject s.dec).2 }) := by
  have hstops := admitReject_stops hs.guards
  have hs₁ : Inv { s with dec := (admitReject s.dec).2 } stopped := hs.of_stops hstops rfl rfl
  cases b with
  | false => exact Follows.of_stops hs hstops rfl rfl
  | true => exact Follows.trans (fun _ => ⟨by decide, rfl⟩) (endFrame_follows hs₁)

lemma errorExit_follows (hs : Inv s g) (e : Exit) : Follows g s (errorExit s e) := by
  rw [errorExit, if_pos hs.guards.isActive]
  exact reject_follows hs _

lemma flushChange_follows (hs : Inv s g) (e : Exit) : Follows g s (flushChange s e) := by
  by_cases hflush : e.currentSlice && isActive s.dec
  · rw [flushChange, if_pos hflush]
    exact reject_follows hs _
  · rw [flushChange, if_neg hflush]
    exact Follows.refl hs

lemma nalUnit_follows (hs : Inv s g) (type : ℤ) (e : Exit) : Follows g s (nalUnit s type e) := by
  rw [nalUnit]
  rcases admitNal_cases hs.guards type with haccept | ⟨hrefuse, -⟩ | hstops
  · simpa [haccept] using Follows.refl hs
  · rw [hrefuse]
    exact errorExit_follows hs e
  · have hs₁ : Inv { s with dec := (admitNal s.dec type).2 } stopped := hs.of_stops hstops rfl rfl
    rw [hstops.1, if_pos (by decide)]
    exact Follows.trans (fun _ => ⟨by decide, rfl⟩) (errorExit_follows hs₁ e)

/-- **One event** keeps the invariant, and issues nothing once the guard is stopped. -/
lemma step_follows (hs : Inv s g) (event : Event) : Follows g s (step s event) := by
  have hactive := hs.guards.isActive
  cases event with
  | nal type e => exact nalUnit_follows hs type e
  | startFrame h =>
      rw [step, if_pos hactive]
      exact startFrame_follows hs h
  | decodeSlice h =>
      rw [step, if_pos hactive]
      exact decodeSlice_follows hs h
  | endFrame =>
      rw [step, if_pos hactive]
      exact endFrame_follows hs
  | flush e => exact flushChange_follows hs e
  | endOfStream e =>
      rw [step]
      split_ifs
      · exact flushChange_follows hs e
      · exact Follows.refl hs
  | error e => exact errorExit_follows hs e

/-- A sequence of events. -/
lemma foldl_follows (hs : Inv s g) (events : List Event) : Follows g s (events.foldl step s) := by
  induction events generalizing s g with
  | nil => exact Follows.refl hs
  | cons event events ih =>
      obtain ⟨g', hs', hstay⟩ := step_follows hs event
      exact Follows.trans hstay (ih hs')

/-! ### Another acceleration -/

lemma admitReject_of_inactive (hd : isActive d = false) : admitReject d = (einval, d) := by
  simp [admitReject, admitContext, hd]

lemma admitNal_of_inactive (hd : isActive d = false) (type : ℤ) : admitNal d type = (0, d) := by
  simp [admitNal, hd]

/-- Nothing is written, and every NAL unit is admitted. -/
lemma step_of_inactive (hd : isActive s.dec = false) (event : Event) : step s event = s := by
  cases event with
  | nal type e => simp [step, nalUnit, admitNal_of_inactive hd]
  | startFrame h => simp [step, hd]
  | decodeSlice h => simp [step, hd]
  | endFrame => simp [step, hd]
  | flush e => simp [step, flushChange, hd]
  | endOfStream e => simp [step, hd]
  | error e => simp [step, errorExit, hd]

lemma foldl_of_inactive (hd : isActive s.dec = false) (events : List Event) :
    events.foldl step s = s := by
  induction events with
  | nil => rfl
  | cons event events ih => rw [List.foldl_cons, step_of_inactive hd, ih]

/-! ### What the driver gets to see -/

/-- The guard of a decoder. -/
def State.guard (s : State F) : Guard := (s.dec.priv.map Priv.guard).getD {}

lemma Inv.guard_eq (hs : Inv s g) : s.guard = g := by
  obtain ⟨-, -, rest, hpriv⟩ := hs.guards
  simp [State.guard, hpriv]

/-- **The stop guard.**  From a zeroed context, and for every sequence of events: once the guard is
stopped it stays so and nothing is issued any more; every picture that is issued was begun by one
admitted start since the issue before it, and went on with slices, at least one, that were all
admitted and that may be decoded; and slices are counted only in a picture.  With another
acceleration nothing is written, and every NAL unit is admitted. -/
theorem stop_guard (d : Decoder F) (events : List Event) :
    (d.hwaccel = some .vaapi → d.internal = true → (∃ rest, d.priv = some ⟨{}, rest⟩) →
      (∀ before after, events = before ++ after → (run d before).guard.sticky ≠ 0 →
        (run d events).guard.sticky ≠ 0 ∧ (run d events).issued = (run d before).issued) ∧
      (∀ p ∈ (run d events).issued, ∃ slices, Begun p slices ∧ slices ≠ []) ∧
      (0 < (run d events).guard.slices → (run d events).guard.inPicture ≠ 0)) ∧
    (d.hwaccel ≠ some .vaapi →
      (run d events).dec = d ∧ ∀ type, (admitNal (run d events).dec type).1 = 0) := by
  constructor
  · intro hactive hinternal hpriv
    have hstart : Inv { dec := d } ({} : Guard) :=
      ⟨⟨hactive, hinternal, hpriv⟩, ⟨fun hne => absurd rfl hne, fun _ _ => ⟨List.not_mem_nil, rfl⟩,
        fun _ hne => absurd rfl hne⟩, by simp⟩
    obtain ⟨g, hs, -⟩ := foldl_follows hstart events
    refine ⟨?_, hs.issued, fun hpos => ?_⟩
    · rintro before after rfl hsticky
      obtain ⟨g', hs', -⟩ := foldl_follows hstart before
      obtain ⟨g'', hs'', hstay⟩ := foldl_follows hs' after
      rw [run, hs'.guard_eq] at hsticky
      rw [run, List.foldl_append, hs''.guard_eq]
      exact hstay hsticky
    · rw [run, hs.guard_eq] at hpos ⊢
      intro hzero
      by_cases hsticky : g.sticky = 0
      · rw [(hs.tracks.idle hsticky hzero).2] at hpos
        exact absurd hpos (by decide)
      · rw [hs.tracks.halted hsticky] at hpos
        exact absurd hpos (by decide)
  · intro hother
    have hinactive : isActive d = false := by simpa [isActive] using hother
    have hrun : (run d events).dec = d := by rw [run, foldl_of_inactive hinactive]
    refine ⟨hrun, fun type => ?_⟩
    rw [hrun, admitNal_of_inactive hinactive]

/-- The context of a slice that may be decoded. -/
def sliceContext : H264Context := ⟨some ⟨1, 0⟩, some ⟨1, 0⟩, some 1, 3, 5⟩

/-- A decoder with a zeroed context. -/
def zeroedDecoder (hwaccel : PixFmt) : Decoder Unit := ⟨some hwaccel, true, some ⟨{}, ()⟩⟩

/-- A picture of one slice is issued; after a data partition the guard is stopped, and it is not. -/
theorem stop_guard_picture :
    let d := zeroedDecoder .vaapi
    let whole := [.nal 5 ⟨false, false, true⟩, .startFrame sliceContext, .decodeSlice sliceContext,
      .endFrame]
    let partitioned := [.startFrame sliceContext, .decodeSlice sliceContext, .nal 2 ⟨true, true, true⟩]
    ((run d whole).issued = [[.start true, .slice (some sliceContext) true]] ∧
      ∀ p ∈ (run d whole).issued, ∃ slices, Begun p slices ∧ slices ≠ []) ∧
    ((run d (partitioned ++ [.endFrame])).guard.sticky ≠ 0 ∧
      (run d (partitioned ++ [.endFrame])).issued = []) := by
  have hwhole := (stop_guard (zeroedDecoder .vaapi) [.nal 5 ⟨false, false, true⟩,
    .startFrame sliceContext, .decodeSlice sliceContext, .endFrame]).1 rfl rfl ⟨(), rfl⟩
  have hpartitioned := (stop_guard (zeroedDecoder .vaapi) ([.startFrame sliceContext,
    .decodeSlice sliceContext, .nal 2 ⟨true, true, true⟩] ++ [.endFrame])).1 rfl rfl ⟨(), rfl⟩
  obtain ⟨hsticky, hissued⟩ := hpartitioned.1 _ _ rfl (by decide)
  exact ⟨⟨by decide, hwhole.2.1⟩, hsticky, hissued.trans (by decide)⟩

end OmarchyM1Video.H264Admission
