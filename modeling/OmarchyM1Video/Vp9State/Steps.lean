import OmarchyM1Video.Vp9State.Session

/-!
What an accepted event does to a session.

The handlers are inverted once here.  `Step` lists the transitions of the CAPTURE queue: an event
that leaves the queue alone (`idle`), a format change that opens an era while no slot is
allocated (`format`), and the five events that write to the queue.  `step_of_apply` says that every
accepted event is one of them, and invariants are proved over `Step`, not over the handlers.
-/

namespace OmarchyM1Video.Vp9State

open OmarchyM1Video.Py

namespace Session

/-! ### The writes of the queue events -/

/-- `events_applied += 1`. -/
def tick (s : Session) : Session := { s with eventsApplied := s.eventsApplied + 1 }

/-- The buffer a destination event works on in an era: the known one, or a new one. -/
def dstIn (s : Session) (era : Era) (name : String) (backingBytes : Option ℕ) : Buffer :=
  (s.buffers.get? name).getD (Buffer.new name era (some (backingBytes.getD era.sizeimage)))

/-- The session after a buffer has been queued at an index. -/
def queued (s : Session) (name : String) (buf : Buffer) (i : ℕ) : Session :=
  { s with
    slot := s.slot.set i name
    buffers := s.buffers.set name (buf.queueAt i s.captureGeneration)
    tsIndex := s.tsIndex.set (s.captureGeneration, dstTimestamp i) name }

lemma queued_get? (s : Session) (name : String) (buf : Buffer) (i : ℕ) :
    (s.queued name buf i).buffers.get? name = some (buf.queueAt i s.captureGeneration) := by
  rw [queued, Dict.get?_set, if_pos rfl]

/-- The session after a decode into a buffer. -/
def decoded (s : Session) (buf : Buffer) (era : Era) (args : DecodeArgs) : Session :=
  { s with
    buffers := s.buffers.set args.dst (buf.decodedIn era.id args.width args.height s.bitDepth)
    lastPresent := true }

/-- The session after REQBUFS. -/
def requeued (s : Session) (count : ℕ) : Session :=
  { (if count = 0 ∨ s.captureSlots ≠ 0 then s.dropQueue else s) with
    captureSlots := count
    slot := ∅ }

/-- The session after an export. -/
def exportedAs (s : Session) (name : String) (buf : Buffer) (backingBytes : Option ℕ) : Session :=
  { s with
    buffers := s.buffers.set name
      { buf with exported := true, backingBytes := backingBytes.getD buf.backingBytes } }

/-- The session after a registration. -/
def registered (s : Session) (name : String) (buf : Buffer) (ts : ℕ) (index : Option ℕ) :
    Session :=
  { s with
    nextRegTs := max s.nextRegTs ts + 1
    tsIndex := s.tsIndex.set (s.captureGeneration, ts) name
    buffers := s.buffers.set name { buf with timestamp := some ts, queuedAsDst := false }
    registrations := s.registrations.set name
      { generation := s.captureGeneration, timestamp := ts, eraId := buf.eraId, index } }

/-- The preconditions under which a destination is queued at an index. -/
structure CanQueue (s : Session) (name : String) (backingBytes : Option ℕ) (era : Era)
    (buf : Buffer) (i : ℕ) : Prop where
  hera : s.currentEra = some era
  hbuf : buf = s.dstIn era name backingBytes
  unregistered : s.registrations.get? name = none
  unqueued : buf.queuedAsDst = false
  fits : era.sizeimage ≤ buf.backingBytes
  slots : s.captureSlots ≠ 0
  free : s.freeIndex = some i
  fresh : s.tsIndex.get? (s.captureGeneration, dstTimestamp i) = none ∨
    s.tsIndex.get? (s.captureGeneration, dstTimestamp i) = some name

/-- The preconditions of a decode, the queueing of its destination aside. -/
structure CanDecode (s : Session) (args : DecodeArgs) (era : Era) : Prop where
  live : s.failed = false
  codec : s.outputStreaming = true ∧ s.probabilities = true
  streaming : s.captureStreaming = true
  slots : s.captureSlots ≠ 0
  minimum : minDim ≤ args.width ∧ minDim ≤ args.height
  hera : s.currentEra = some era
  aligned : roundUp args.width alignW = era.alignedW ∧ roundUp args.height alignH = era.alignedH
  depth : args.bitDepth.getD s.bitDepth = s.bitDepth
  keyRefs : ¬(args.key.getD false = true ∧ args.refs.getD [] ≠ [])
  refs : args.key.getD false = false → s.resolveRefs args (args.refs.getD []) = .ok ()
  scratch : s.scratchExceeded args.width args.height s.bitDepth = .ok false

/-- The preconditions under which a buffer is registered. -/
structure CanRegister (s : Session) (name : String) (ts : ℕ) (index : Option ℕ) (buf : Buffer) :
    Prop where
  path : s.path = .proposed
  hbuf : s.buffers.get? name = some buf
  exported : buf.exported = true
  decoded : buf.decodedOk = true
  unqueued : buf.queuedAsDst = false
  fits : ∃ era, s.eras.get? buf.eraId = some era ∧ era.sizeimage ≤ buf.backingBytes
  fresh : s.tsIndex.get? (s.captureGeneration, ts) = none
  index : ∀ i ∈ index, s.slot.get? i = none

/-! ### The handlers that write to the queue -/

variable {s s' : Session}

lemma dstBuffer_ok {name : String} {backingBytes : Option ℕ} {buf : Buffer} :
    dstBuffer name backingBytes s = .ok buf s'
      ↔ (s.buffers.get? name = some buf ∧ s = s') ∨
        (s.buffers.get? name = none ∧ ∃ era, s.currentEra = some era ∧
          s.dstIn era name backingBytes = buf ∧
          { s with buffers := s.buffers.set name (s.dstIn era name backingBytes) } = s') := by
  cases hbuf : s.buffers.get? name with
  | some b => simp [dstBuffer, hbuf]
  | none =>
      simp only [dstBuffer, get_bind, hbuf, orRaise_bind_ok, modify_bind, pure_run, dstIn,
        EStateM.Result.ok.injEq, Option.getD_none, reduceCtorEq, false_and, true_and, false_or]

lemma allocIndex_ok {name : String} {i : ℕ} :
    allocIndex name s = .ok i s'
      ↔ s.captureSlots ≠ 0 ∧ s.freeIndex = some i ∧ { s with slot := s.slot.set i name } = s' := by
  simp only [allocIndex, get_bind, raiseIf_bind_ok, orRaise_bind_ok, modify_bind, pure_run,
    EStateM.Result.ok.injEq]
  constructor
  · rintro ⟨hslots, j, hfree, rfl, rfl⟩
    exact ⟨hslots, hfree, rfl⟩
  · rintro ⟨hslots, hfree, rfl⟩
    exact ⟨hslots, i, hfree, rfl, rfl⟩

lemma opQueueDst_ok {name : String} {backingBytes : Option ℕ} :
    opQueueDst name backingBytes s = .ok () s'
      ↔ ∃ era buf i, s.CanQueue name backingBytes era buf i ∧ s.queued name buf i = s' := by
  simp only [opQueueDst, get_bind, bind_ok (x := dstBuffer _ _), dstBuffer_ok, raiseIf_bind_ok,
    orRaise_bind_ok, bind_ok (x := allocIndex _), allocIndex_ok, modify_bind, modify_run,
    EStateM.Result.ok.injEq, true_and]
  constructor
  · rintro ⟨buf, t, hdst, hreg, hqueued, era, hera, hfits, i, _, ⟨hslots, hfree, rfl⟩, hfresh, rfl⟩
    have hreg' : s.registrations.get? name = none := by
      simpa [Dict.contains] using hreg
    have hfresh' : s.tsIndex.get? (s.captureGeneration, dstTimestamp i) = none ∨
        s.tsIndex.get? (s.captureGeneration, dstTimestamp i) = some name := by
      cases hkey : s.tsIndex.get? (s.captureGeneration, dstTimestamp i) with
      | none => exact Or.inl rfl
      | some n => simpa [Dict.contains, hkey] using hfresh
    rcases hdst with ⟨hbuf, rfl⟩ | ⟨hbuf, era', hera', rfl, rfl⟩
    · refine ⟨era, buf, i, ⟨hera, by simp [dstIn, hbuf], hreg', by simpa using hqueued,
        by simpa using hfits, hslots, hfree, hfresh'⟩, rfl⟩
    · obtain rfl : era' = era := Option.some.inj (hera'.symm.trans hera)
      refine ⟨era', _, i, ⟨hera, rfl, hreg', by simpa using hqueued, by simpa using hfits,
        hslots, hfree, hfresh'⟩, ?_⟩
      simp [queued]
  · rintro ⟨era, buf, i, hq, rfl⟩
    have hreg : ¬s.registrations.contains name = true := by simp [Dict.contains, hq.unregistered]
    have hfresh : ¬(s.tsIndex.contains (s.captureGeneration, dstTimestamp i) = true ∧
        s.tsIndex.get? (s.captureGeneration, dstTimestamp i) ≠ some name) := by
      rcases hq.fresh with h | h <;> simp [Dict.contains, h]
    cases hbuf : s.buffers.get? name with
    | some b =>
        obtain rfl : b = buf := by simpa [dstIn, hbuf] using hq.hbuf.symm
        exact ⟨b, s, Or.inl ⟨rfl, rfl⟩, hreg, by simp [hq.unqueued], era, hq.hera,
          by simpa using hq.fits, i, _, ⟨hq.slots, hq.free, rfl⟩, hfresh, rfl⟩
    | none =>
        refine ⟨buf, _, Or.inr ⟨rfl, era, hq.hera, hq.hbuf.symm, rfl⟩, hreg,
          by simp [hq.unqueued], era, hq.hera, by simpa using hq.fits, i, _,
          ⟨hq.slots, hq.free, rfl⟩, hfresh, ?_⟩
        simp [queued]

lemma checkDecode_ok {args : DecodeArgs} {era : Era} :
    s.checkDecode args = .ok era ↔ s.CanDecode args era := by
  simp only [checkDecode, Except.bind_ok, need_ok, found_ok, unlessOk_ok, Except.pure_ok]
  constructor
  · rintro ⟨_, hlive, _, hcodec, _, hcapture, _, hmin, era', hera, _, haligned, _, hdepth, _, hkey,
      _, hrefs, exceeded, hscratch, _, hexceeded, rfl⟩
    obtain rfl : exceeded = false := by simpa using hexceeded
    rw [hdepth] at hscratch
    exact ⟨by simpa using hlive, hcodec, hcapture.1, hcapture.2, hmin, hera, haligned, hdepth, hkey,
      fun hk => hrefs (by simp [hk]), hscratch⟩
  · intro hcan
    refine ⟨(), by simp [hcan.live], (), hcan.codec, (), ⟨hcan.streaming, hcan.slots⟩, (),
      hcan.minimum, era, hcan.hera, (), hcan.aligned, (), hcan.depth, (), hcan.keyRefs, (),
      fun hk => hcan.refs (by simpa using hk), false, ?_, (), by simp, rfl⟩
    rw [hcan.depth]
    exact hcan.scratch

/-- A decode goes into a destination that is queued already, or queues it first. -/
lemma opDecode_ok {args : DecodeArgs} (h : opDecode args s = .ok () s') :
    ∃ era, s.CanDecode args era ∧
      ((∃ buf, s.buffers.get? args.dst = some buf ∧ buf.queuedAsDst = true ∧
          s.decoded buf era args = s') ∨
        ∃ buf i, s.CanQueue args.dst args.backingBytes era buf i ∧
          (s.queued args.dst buf i).decoded (buf.queueAt i s.captureGeneration) era args = s') := by
  simp only [opDecode, get_bind, orRaise_bind_ok, lift_bind_ok, bind_ok (x := onlyIf _ _),
    onlyIf_ok, modify_run, EStateM.Result.ok.injEq, true_and] at h
  obtain ⟨era, hcheck, _, t, hdst, buf, hbuf, rfl⟩ := h
  have hcan := checkDecode_ok.mp hcheck
  refine ⟨era, hcan, ?_⟩
  rcases hdst with ⟨_, hqueue⟩ | ⟨hqueued, rfl⟩
  · obtain ⟨era', buf', i, hq, rfl⟩ := opQueueDst_ok.mp hqueue
    obtain rfl : era' = era := Option.some.inj (hq.hera.symm.trans hcan.hera)
    obtain rfl : buf'.queueAt i s.captureGeneration = buf := by simpa [queued] using hbuf
    refine Or.inr ⟨buf', i, hq, ?_⟩
    simp [decoded, queued, hcan.depth]
  · refine Or.inl ⟨buf, hbuf, ?_, by simp [decoded, hcan.depth]⟩
    simpa [isQueued, hbuf] using hqueued

lemma checkRegister_ok {name : String} {buf : Buffer} :
    s.checkRegister name = .ok buf
      ↔ s.path = .proposed ∧ s.buffers.get? name = some buf ∧ buf.exported = true ∧
        buf.decodedOk = true ∧ buf.queuedAsDst = false ∧
        ∃ era, s.eras.get? buf.eraId = some era ∧ era.sizeimage ≤ buf.backingBytes := by
  simp only [checkRegister, Except.bind_ok, need_ok, found_ok, Except.pure_ok, Bool.not_eq_true]
  constructor
  · rintro ⟨_, hpath, b, hbuf, _, hexp, _, hdec, _, hq, era, hera, _, hfits, rfl⟩
    exact ⟨hpath, hbuf, hexp, hdec, hq, era, hera, hfits⟩
  · rintro ⟨hpath, hbuf, hexp, hdec, hq, era, hera, hfits⟩
    exact ⟨(), hpath, buf, hbuf, (), hexp, (), hdec, (), hq, era, hera, (), hfits, rfl⟩

lemma opRegister_ok {name : String} {timestamp index : Option ℕ} :
    opRegister name timestamp index s = .ok () s'
      ↔ ∃ buf, s.CanRegister name (timestamp.getD s.nextRegTs) index buf ∧
        s.registered name buf (timestamp.getD s.nextRegTs) index = s' := by
  simp only [opRegister, get_bind, lift_bind_ok, checkRegister_ok, raiseIf_bind_ok, modify_bind,
    modify_run, EStateM.Result.ok.injEq, true_and]
  constructor
  · rintro ⟨buf, ⟨hpath, hbuf, hexp, hdec, hq, hfits⟩, hfresh, hidx, rfl⟩
    refine ⟨buf, ⟨hpath, hbuf, hexp, hdec, hq, hfits, by simpa [Dict.contains] using hfresh, ?_⟩,
      rfl⟩
    rintro i rfl
    simpa [Dict.contains] using hidx
  · rintro ⟨buf, hr, rfl⟩
    refine ⟨buf, ⟨hr.path, hr.hbuf, hr.exported, hr.decoded, hr.unqueued, hr.fits⟩,
      by simp [Dict.contains, hr.fresh], ?_, rfl⟩
    cases index with
    | none => simp
    | some i => simp [Dict.contains, hr.index i rfl]

lemma opExport_ok {name : String} {backingBytes : Option ℕ} :
    opExport name backingBytes s = .ok () s'
      ↔ ∃ buf, s.buffers.get? name = some buf ∧ buf.decodedOk = true ∧
        s.exportedAs name buf backingBytes = s' := by
  simp only [opExport, get_bind, raiseIf_bind_ok, orRaise_bind_ok, modify_run,
    EStateM.Result.ok.injEq, true_and, Bool.not_eq_true, Bool.not_eq_false, exportedAs]

lemma opCaptureReqbufs_ok {count : ℕ} :
    opCaptureReqbufs count s = .ok () s'
      ↔ s.captureStreaming = false ∧ (count ≠ 0 → s.currentEra ≠ none) ∧ s.requeued count = s' := by
  by_cases hdrop : count = 0 ∨ s.captureSlots ≠ 0
  · by_cases hcount : count = 0
    · simp [opCaptureReqbufs, bind_ok, hcount, requeued, dropQueue]
    · have hslots : ¬s.captureSlots = 0 := hdrop.resolve_left hcount
      simp [opCaptureReqbufs, bind_ok, hcount, hslots, requeued, dropQueue]
  · obtain ⟨hcount, hslots⟩ := not_or.mp hdrop
    simp [opCaptureReqbufs, bind_ok, hcount, hslots, requeued]

/-! ### The handlers that leave the queue alone -/

/-- Two sessions with the same CAPTURE queue, buffers and registrations. -/
structure QueueSame (s s' : Session) : Prop where
  path : s'.path = s.path
  bitDepth : s'.bitDepth = s.bitDepth
  captureSlots : s'.captureSlots = s.captureSlots
  captureGeneration : s'.captureGeneration = s.captureGeneration
  buffers : s'.buffers = s.buffers
  slot : s'.slot = s.slot
  tsIndex : s'.tsIndex = s.tsIndex
  registrations : s'.registrations = s.registrations
  nextRegTs : s'.nextRegTs = s.nextRegTs

lemma needEra_ok {w h depth : ℕ} {era : Era} :
    needEra w h depth s = .ok era s'
      ↔ ¬(w < minDim ∨ h < minDim) ∧ Era.mk s.nextEraId w h depth = era ∧
        { s with eras := s.eras.set s.nextEraId ⟨s.nextEraId, w, h, depth⟩ } = s' := by
  simp only [needEra, raiseIf_bind_ok, get_bind, modify_bind, pure_run, EStateM.Result.ok.injEq]

/-- One accepted event, as the CAPTURE queue sees it. -/
inductive Step (s : Session) : Event → Session → Prop where
  | idle {e s'} (hq : e.touchesQueue = false) (same : QueueSame s s')
      (heras : s'.eras = s.eras) (hera : s'.currentEra = s.currentEra) : Step s e s'
  | format {e s'} (hq : e.touchesQueue = false) (same : QueueSame s s')
      (hslots : s.captureSlots = 0) (era : Era) (hid : era.id = s.nextEraId)
      (hdepth : era.bitDepth = s.bitDepth) (heras : s'.eras = s.eras.set era.id era)
      (hera : s'.currentEra = some era) : Step s e s'
  | reqbufs {count} (hstream : s.captureStreaming = false)
      (hera : count ≠ 0 → s.currentEra ≠ none) :
      Step s (.captureReqbufs count) (s.requeued count).tick
  | queue {name backing era buf i} (hq : s.CanQueue name backing era buf i) :
      Step s (.queueDst name backing) (s.queued name buf i).tick
  | decodeQueued {e args era buf} (he : e.decodeArgs? = some args) (hcan : s.CanDecode args era)
      (hbuf : s.buffers.get? args.dst = some buf) (hqueued : buf.queuedAsDst = true) :
      Step s e (s.decoded buf era args).tick
  | decodeNew {e args era buf i} (he : e.decodeArgs? = some args) (hcan : s.CanDecode args era)
      (hq : s.CanQueue args.dst args.backingBytes era buf i) :
      Step s e
        ((s.queued args.dst buf i).decoded (buf.queueAt i s.captureGeneration) era args).tick
  | exportTo {name backing buf} (hbuf : s.buffers.get? name = some buf)
      (hdec : buf.decodedOk = true) :
      Step s (.export name backing) (s.exportedAs name buf backing).tick
  | register {name timestamp index buf}
      (hr : s.CanRegister name (timestamp.getD s.nextRegTs) index buf) :
      Step s (.register name timestamp index)
        (s.registered name buf (timestamp.getD s.nextRegTs) index).tick

lemma apply_ok {e : Event} :
    apply e s = .ok () s'
      ↔ ¬(s.failed = true ∧ e.needsLiveSession = true) ∧
        ∃ s₁, handler e s = .ok () s₁ ∧ s₁.tick = s' := by
  simp only [apply, get_bind, raiseIf_bind_ok, bind_ok (x := handler _), modify_run, tick,
    EStateM.Result.ok.injEq, true_and]
  exact and_congr_right fun _ =>
    ⟨fun ⟨_, s₁, h₁, h₂⟩ => ⟨s₁, h₁, h₂⟩, fun ⟨s₁, h₁, h₂⟩ => ⟨(), s₁, h₁, h₂⟩⟩

lemma run_of_accepts {evs : List Event} {s₀ : Session} (h : accepts evs s₀ = true) :
    each apply evs s₀ = .ok () (endState evs s₀) := by
  rw [accepts] at h
  rw [endState]
  cases hrun : each apply evs s₀ with
  | ok u t => rfl
  | error e t => simp [hrun] at h

lemma idle_of_opOpen {session : Option String} (h : opOpen session s = .ok () s') :
    QueueSame s s' ∧ s'.eras = s.eras ∧ s'.currentEra = s.currentEra := by
  cases session with
  | none =>
      obtain rfl : s = s' := by simpa [opOpen] using h
      exact ⟨⟨rfl, rfl, rfl, rfl, rfl, rfl, rfl, rfl, rfl⟩, rfl, rfl⟩
  | some name =>
      simp only [opOpen, get_bind, onlyIf_ok, raiseIf_bind_ok, modify_run,
        EStateM.Result.ok.injEq, true_and] at h
      rcases h with ⟨_, _, rfl⟩ | ⟨_, rfl⟩ <;>
        exact ⟨⟨rfl, rfl, rfl, rfl, rfl, rfl, rfl, rfl, rfl⟩, rfl, rfl⟩

/-- **Every accepted event is a step of the queue.** -/
theorem step_of_apply {e : Event} (happ : apply e s = .ok () s') : Step s e s' := by
  obtain ⟨_, s₁, h, rfl⟩ := apply_ok.mp happ
  have decode_step : ∀ {e : Event} {args : DecodeArgs}, e.decodeArgs? = some args →
      opDecode args s = .ok () s₁ → Step s e s₁.tick := by
    intro e args he hd
    obtain ⟨era, hcan, ⟨buf, hbuf, hqueued, rfl⟩ | ⟨buf, i, hq, rfl⟩⟩ := opDecode_ok hd
    · exact .decodeQueued he hcan hbuf hqueued
    · exact .decodeNew he hcan hq
  cases e with
  | «open» session =>
      obtain ⟨same, heras, hera⟩ := idle_of_opOpen h
      exact .idle rfl ⟨same.1, same.2, same.3, same.4, same.5, same.6, same.7, same.8, same.9⟩
        heras hera
  | outputSFmt w y =>
      simp only [handler, opOutputSFmt, get_bind, raiseIf_bind_ok, modify_run,
        EStateM.Result.ok.injEq, true_and] at h
      obtain ⟨_, _, rfl⟩ := h
      exact .idle rfl ⟨rfl, rfl, rfl, rfl, rfl, rfl, rfl, rfl, rfl⟩ rfl rfl
  | captureSFmt w y depth =>
      simp only [handler, opCaptureSFmt, get_bind, raiseIf_bind_ok, bind_ok (x := needEra _ _ _),
        needEra_ok, modify_run, EStateM.Result.ok.injEq, true_and] at h
      obtain ⟨hbusy, hdepth, _, _, ⟨_, rfl, rfl⟩, rfl⟩ := h
      refine .format rfl ⟨rfl, rfl, rfl, rfl, rfl, rfl, rfl, rfl, rfl⟩ ?_ _ rfl ?_ rfl rfl
      · simpa [captureBusy] using hbusy
      · exact not_not.mp hdepth
  | proposedReconfigure w y depth =>
      simp only [handler, opProposedReconfigure, get_bind, raiseIf_bind_ok, modify_bind,
        bind_ok (x := needEra _ _ _), needEra_ok, modify_run, EStateM.Result.ok.injEq,
        true_and] at h
      obtain ⟨_, _, hbusy, hdepth, _, _, ⟨_, rfl, rfl⟩, rfl⟩ := h
      refine .format rfl ⟨rfl, rfl, rfl, rfl, rfl, rfl, rfl, rfl, rfl⟩ ?_ _ rfl ?_ rfl rfl
      · simpa [captureBusy] using (not_or.mp hbusy).2
      · exact not_not.mp hdepth
  | captureReqbufs count =>
      obtain ⟨hstream, hera, rfl⟩ := opCaptureReqbufs_ok.mp h
      exact .reqbufs hstream hera
  | queueDst name backing =>
      obtain ⟨era, buf, i, hq, rfl⟩ := opQueueDst_ok.mp h
      exact .queue hq
  | decode args => exact decode_step rfl h
  | submit args => exact decode_step rfl h
  | «export» name backing =>
      obtain ⟨buf, hbuf, hdec, rfl⟩ := opExport_ok.mp h
      exact .exportTo hbuf hdec
  | register name timestamp index =>
      obtain ⟨buf, hr, rfl⟩ := opRegister_ok.mp h
      exact .register hr
  | injectFailure phase =>
      simp only [handler, opInjectFailure, get_bind, onlyIf_ok, raiseIf_bind_ok, modify_run,
        EStateM.Result.ok.injEq, true_and] at h
      rcases h with ⟨_, _, _, rfl⟩ | ⟨_, rfl⟩ <;>
        exact .idle rfl ⟨rfl, rfl, rfl, rfl, rfl, rfl, rfl, rfl, rfl⟩ rfl rfl
  | askFirmware question =>
      simp [handler, opAskFirmware] at h
  | outputStreamon =>
      simp only [handler, opOutputStreamon, get_bind, onlyIf_ok, raiseIf_bind_ok, modify_run,
        EStateM.Result.ok.injEq, true_and] at h
      rcases h with ⟨_, _, rfl⟩ | ⟨_, rfl⟩ <;>
        exact .idle rfl ⟨rfl, rfl, rfl, rfl, rfl, rfl, rfl, rfl, rfl⟩ rfl rfl
  | outputStreamoff =>
      simp only [handler, opOutputStreamoff, modify_run, EStateM.Result.ok.injEq, true_and] at h
      subst h
      exact .idle rfl ⟨rfl, rfl, rfl, rfl, rfl, rfl, rfl, rfl, rfl⟩ rfl rfl
  | captureStreamon =>
      simp only [handler, opCaptureStreamon, get_bind, raiseIf_bind_ok, modify_run,
        EStateM.Result.ok.injEq, true_and] at h
      obtain ⟨_, rfl⟩ := h
      exact .idle rfl ⟨rfl, rfl, rfl, rfl, rfl, rfl, rfl, rfl, rfl⟩ rfl rfl
  | captureStreamoff =>
      simp only [handler, opCaptureStreamoff, modify_run, EStateM.Result.ok.injEq, true_and] at h
      subst h
      exact .idle rfl ⟨rfl, rfl, rfl, rfl, rfl, rfl, rfl, rfl, rfl⟩ rfl rfl
  | snapshot =>
      simp only [handler, opSnapshot, pure_run, EStateM.Result.ok.injEq, true_and] at h
      subst h
      exact .idle rfl ⟨rfl, rfl, rfl, rfl, rfl, rfl, rfl, rfl, rfl⟩ rfl rfl

end Session

end OmarchyM1Video.Vp9State
