import OmarchyM1Video.Vp9State.References

/-!
What a refused event raises, and what it leaves behind.

* `CodecInv`: the flags of the codec context, the second invariant of a session, and `Sound`, both
  together;
* `checkDecode_error`, `checkRegister_error`: the checks that read the session only;
* `QueueRefusal`: the seven ways in which `op_queue_dst` refuses a destination, with the session
  each leaves;
* `Refusal`, `refusal_of_apply`: every refused event is either refused before any write, or it is
  one of four late refusals;
* `runs_raise_only_by_name`: no run of raw events meets a built-in exception.
-/

namespace OmarchyM1Video.Vp9State

open OmarchyM1Video.Py

namespace Session

variable {s s' : Session} {e : Exc Raised}

/-! ### The codec context -/

/-- The flags of the codec context and the CAPTURE stream. -/
structure CodecInv (s : Session) : Prop where
  coded : s.codedW ≠ none → s.codedH ≠ none
  scratch : s.scratchPresent = true → s.scratchW ≠ none ∧ s.scratchH ≠ none
  streaming : s.captureStreaming = true → s.captureSlots ≠ 0

lemma CodecInv.handler (h : s.CodecInv) {ev : Event} (hok : Session.handler ev s = .ok () s') :
    s'.CodecInv := by
  have decode_inv : ∀ {args : DecodeArgs}, opDecode args s = .ok () s' → s'.CodecInv := by
    intro args hd
    obtain ⟨era, _, ⟨buf, _, _, rfl⟩ | ⟨buf, i, _, rfl⟩⟩ := opDecode_ok hd
    · exact ⟨h.coded, h.scratch, h.streaming⟩
    · exact ⟨h.coded, h.scratch, h.streaming⟩
  cases ev with
  | «open» session =>
      cases session with
      | none =>
          obtain rfl : s = s' := by simpa [Session.handler, opOpen] using hok
          exact h
      | some name =>
          simp only [Session.handler, opOpen, get_bind, onlyIf_ok, raiseIf_bind_ok, modify_run,
            EStateM.Result.ok.injEq, true_and] at hok
          rcases hok with ⟨_, _, rfl⟩ | ⟨_, rfl⟩
          · exact ⟨h.coded, h.scratch, h.streaming⟩
          · exact h
  | outputSFmt w y =>
      simp only [Session.handler, opOutputSFmt, get_bind, raiseIf_bind_ok, modify_run,
        EStateM.Result.ok.injEq, true_and] at hok
      obtain ⟨_, _, rfl⟩ := hok
      exact ⟨by simp, h.scratch, h.streaming⟩
  | captureSFmt w y depth =>
      simp only [Session.handler, opCaptureSFmt, get_bind, raiseIf_bind_ok,
        bind_ok (x := needEra _ _ _), needEra_ok, modify_run, EStateM.Result.ok.injEq,
        true_and] at hok
      obtain ⟨_, _, _, _, ⟨_, _, rfl⟩, rfl⟩ := hok
      exact ⟨h.coded, h.scratch, h.streaming⟩
  | proposedReconfigure w y depth =>
      simp only [Session.handler, opProposedReconfigure, get_bind, raiseIf_bind_ok, modify_bind,
        bind_ok (x := needEra _ _ _), needEra_ok, modify_run, EStateM.Result.ok.injEq,
        true_and] at hok
      obtain ⟨_, _, _, _, _, _, ⟨_, _, rfl⟩, rfl⟩ := hok
      exact ⟨by simp, by simp, h.streaming⟩
  | captureReqbufs count =>
      obtain ⟨hstream, _, rfl⟩ := opCaptureReqbufs_ok.mp hok
      have hcodec : (s.requeued count).codedW = s.codedW ∧ (s.requeued count).codedH = s.codedH ∧
          (s.requeued count).scratchPresent = s.scratchPresent ∧
          (s.requeued count).scratchW = s.scratchW ∧ (s.requeued count).scratchH = s.scratchH ∧
          (s.requeued count).captureStreaming = s.captureStreaming := by
        by_cases hdrop : count = 0 ∨ s.captureSlots ≠ 0 <;> simp [requeued, hdrop, dropQueue]
      obtain ⟨h1, h2, h3, h4, h5, h6⟩ := hcodec
      exact ⟨by rw [h1, h2]; exact h.coded, by rw [h3, h4, h5]; exact h.scratch,
        by rw [h6, hstream]; simp⟩
  | queueDst name backing =>
      obtain ⟨_, _, _, _, rfl⟩ := opQueueDst_ok.mp hok
      exact ⟨h.coded, h.scratch, h.streaming⟩
  | decode args => exact decode_inv hok
  | submit args => exact decode_inv hok
  | «export» name backing =>
      obtain ⟨_, _, _, rfl⟩ := opExport_ok.mp hok
      exact ⟨h.coded, h.scratch, h.streaming⟩
  | register name timestamp index =>
      obtain ⟨_, _, rfl⟩ := opRegister_ok.mp hok
      exact ⟨h.coded, h.scratch, h.streaming⟩
  | injectFailure phase =>
      simp only [Session.handler, opInjectFailure, get_bind, onlyIf_ok, raiseIf_bind_ok, modify_run,
        EStateM.Result.ok.injEq, true_and] at hok
      rcases hok with ⟨_, _, _, rfl⟩ | ⟨_, rfl⟩
      · exact ⟨h.coded, h.scratch, h.streaming⟩
      · exact h
  | askFirmware question => simp [Session.handler, opAskFirmware] at hok
  | outputStreamon =>
      simp only [Session.handler, opOutputStreamon, get_bind, onlyIf_ok, raiseIf_bind_ok,
        modify_run, EStateM.Result.ok.injEq, true_and] at hok
      rcases hok with ⟨_, hcoded, rfl⟩ | ⟨_, rfl⟩
      · exact ⟨h.coded, fun _ => ⟨hcoded, h.coded hcoded⟩, h.streaming⟩
      · exact h
  | outputStreamoff =>
      simp only [Session.handler, opOutputStreamoff, modify_run, EStateM.Result.ok.injEq,
        true_and] at hok
      subst hok
      exact ⟨h.coded, by simp, h.streaming⟩
  | captureStreamon =>
      simp only [Session.handler, opCaptureStreamon, get_bind, raiseIf_bind_ok, modify_run,
        EStateM.Result.ok.injEq, true_and] at hok
      obtain ⟨hslots, rfl⟩ := hok
      exact ⟨h.coded, h.scratch, fun _ => hslots⟩
  | captureStreamoff =>
      simp only [Session.handler, opCaptureStreamoff, modify_run, EStateM.Result.ok.injEq,
        true_and] at hok
      subst hok
      exact ⟨h.coded, h.scratch, by simp⟩
  | snapshot =>
      simp only [Session.handler, opSnapshot, pure_run, EStateM.Result.ok.injEq, true_and] at hok
      exact hok ▸ h

/-- Both invariants together. -/
def Sound (s : Session) : Prop := s.Inv ∧ s.CodecInv

lemma sound_of_isNew (h : s.IsNew) : s.Sound := by
  refine ⟨inv_of_isNew h, ?_⟩
  obtain ⟨path, sessionId, profile, bitDepth, hnew⟩ := h
  obtain ⟨p, pr, d, rfl⟩ := new_ok hnew
  constructor <;> simp

lemma Sound.apply (h : s.Sound) {ev : Event} (happ : Session.apply ev s = .ok () s') :
    s'.Sound := by
  refine ⟨h.1.step (step_of_apply happ), ?_⟩
  obtain ⟨_, s₁, hok, rfl⟩ := apply_ok.mp happ
  have h₁ := h.2.handler hok
  exact ⟨h₁.coded, h₁.scratch, h₁.streaming⟩

/-- Both invariants hold at the end of every run of accepted events. -/
theorem sound_of_run {s₀ : Session} {evs : List Event} (h₀ : s₀.IsNew)
    (hrun : each apply evs s₀ = .ok () s) : s.Sound :=
  each_invariant (sound_of_isNew h₀) (fun _ _ _ hs happ => hs.apply happ) hrun

/-! ### Checks that read the session only -/

/-- An exception raised by name, and none of the four that later statements are about. -/
structure Plain (e : Exc Raised) : Prop where
  named : ∃ r, e = .raise r
  sfmt : e ≠ decodeBeforeSFmt
  depth : e ≠ refMixedDepth
  aliased : e ≠ indexAlias
  duplicate : e ≠ duplicateTimestamp

/-- A rejection is told apart from the named ones by its code. -/
lemma plain_reject {code : RejectCode} {message : String} {invariant : InvariantId}
    (hcode : code ∉ [RejectCode.mixedDepth, .oldGenerationAlias, .duplicateTimestamp]) :
    Plain (reject code message invariant) := by
  refine ⟨⟨_, rfl⟩, ?_, ?_, ?_, ?_⟩ <;> rintro ⟨⟩
  · exact hcode (by decide)
  · exact hcode (by decide)
  · exact hcode (by decide)

/-- Or by its message, where it shares the code. -/
lemma plain_rejectText {code : RejectCode} {message : String} {invariant : InvariantId}
    (hmessage : message ∉ ["old-size reference depth/fourcc does not match the session",
      "index-derived timestamp already names different content",
      "registration timestamp already used in this generation"]) :
    Plain (reject code message invariant) := by
  refine ⟨⟨_, rfl⟩, ?_, ?_, ?_, ?_⟩ <;> rintro ⟨⟩
  · exact hmessage (by decide)
  · exact hmessage (by decide)
  · exact hmessage (by decide)

lemma plain_fixtureError {message : String} {quoted : Option String}
    (h : message ≠ "decode before CAPTURE S_FMT") : Plain (fixtureError message quoted) := by
  refine ⟨⟨_, rfl⟩, ?_, ?_, ?_, ?_⟩ <;> rintro ⟨⟩
  exact h rfl

lemma Inv.resolveRef_error (h : s.Inv) {args : DecodeArgs} {refName : String}
    (herr : s.resolveRef args refName = .error e) : Plain e := by
  rw [resolveRef, Except.bind_error] at herr
  rcases herr with herr | ⟨_, _, herr⟩
  · rw [← (need_error.mp herr).2]
    exact plain_reject (by decide)
  split at herr
  · rw [resolveStockUserspace, need_error] at herr
    rw [← herr.2]
    exact plain_reject (by decide)
  · simp only [resolveStockKernel, Except.bind_error, found_error, need_error] at herr
    rcases herr with ⟨_, rfl⟩ | ⟨_, _, _, rfl⟩
    · exact plain_reject (by decide)
    · exact plain_rejectText (by decide)
  · obtain ⟨code, message, invariant, rfl, hcode⟩ := h.resolveProposed_error herr
    refine plain_reject ?_
    simp only [List.mem_cons, List.not_mem_nil, or_false] at hcode
    rcases hcode with rfl | rfl | rfl <;> decide

lemma Inv.resolveRefs_error (h : s.Inv) {args : DecodeArgs} {refs : List String}
    (herr : s.resolveRefs args refs = .error e) : Plain e := by
  induction refs with
  | nil => simp [resolveRefs] at herr
  | cons refName refs ih =>
      rw [resolveRefs, Except.bind_error] at herr
      rcases herr with herr | ⟨_, _, herr⟩
      · exact h.resolveRef_error herr
      · exact ih herr

/-- The scratch check never meets an absent size. -/
lemma CodecInv.scratchExceeded_error (h : s.CodecInv) {w y depth : ℕ} :
    s.scratchExceeded w y depth ≠ .error e := by
  rw [scratchExceeded]
  split
  · simp
  next hpresent =>
    have hp : s.scratchPresent = true := by
      by_contra hp
      exact hpresent (Or.inl (by simpa using hp))
    obtain ⟨sw, hsw⟩ := Option.ne_none_iff_exists'.mp (h.scratch hp).1
    obtain ⟨sh, hsh⟩ := Option.ne_none_iff_exists'.mp (h.scratch hp).2
    have hat : ∀ a, ∃ b, s.scratchExceededAt w y a = .ok b := by
      intro a
      rw [scratchExceededAt, hsw, hsh]
      by_cases hlt : divRoundUp sw a < divRoundUp w a
      · exact ⟨true, by simp [found, hlt]⟩
      · exact ⟨_, by simp [found, hlt]; rfl⟩
    generalize [8, 16, 64] = sizes
    induction sizes with
    | nil => simp [scratchExceededAny]
    | cons a sizes ih =>
        obtain ⟨b, hb⟩ := hat a
        cases b with
        | true => simp [scratchExceededAny, hb]
        | false => simpa [scratchExceededAny, hb] using ih

lemma Sound.checkDecode_error (h : s.Sound) {args : DecodeArgs}
    (herr : s.checkDecode args = .error e) : Plain e := by
  simp only [checkDecode, Except.bind_error, need_error, need_ok, found_error, found_ok,
    unlessOk_error, Except.pure_error, and_false, exists_false, or_false] at herr
  rcases herr with ⟨_, rfl⟩ | ⟨_, _, ⟨_, rfl⟩ | ⟨_, _, ⟨_, rfl⟩ | ⟨_, hcap, ⟨_, rfl⟩ | ⟨_, _,
    ⟨hera, rfl⟩ | ⟨era, _, ⟨_, rfl⟩ | ⟨_, _, ⟨_, rfl⟩ | ⟨_, _, ⟨_, rfl⟩ | ⟨_, _, ⟨_, hrefs⟩ |
    ⟨_, _, hscratch | ⟨_, _, _, rfl⟩⟩⟩⟩⟩⟩⟩⟩⟩⟩
  · exact plain_reject (by decide)
  · exact plain_reject (by decide)
  · exact plain_reject (by decide)
  · exact plain_reject (by decide)
  · exact absurd hera (h.1.slotsEra hcap.2)
  · exact plain_reject (by decide)
  · exact plain_rejectText (by decide)
  · exact plain_fixtureError (by decide)
  · exact h.1.resolveRefs_error hrefs
  · exact absurd hscratch h.2.scratchExceeded_error
  · exact plain_reject (by decide)

lemma Inv.checkRegister_error (h : s.Inv) {name : String}
    (herr : s.checkRegister name = .error e) : Plain e := by
  simp only [checkRegister, Except.bind_error, need_error, need_ok, found_error, found_ok,
    Except.pure_error, and_false, exists_false, or_false] at herr
  rcases herr with ⟨_, rfl⟩ | ⟨_, _, ⟨_, rfl⟩ | ⟨buf, hbuf, ⟨_, rfl⟩ | ⟨_, _, ⟨_, rfl⟩ | ⟨_, _,
    ⟨_, rfl⟩ | ⟨_, _, ⟨hera, rfl⟩ | ⟨_, _, _, rfl⟩⟩⟩⟩⟩⟩
  · exact plain_reject (by decide)
  · exact plain_reject (by decide)
  · exact plain_reject (by decide)
  · exact plain_reject (by decide)
  · exact plain_reject (by decide)
  · obtain ⟨era, hknown⟩ := (h.buf name buf hbuf).eraKnown
    exact absurd (hera.symm.trans hknown) (by simp)
  · exact plain_reject (by decide)

/-! ### The refusals of a destination -/

/-- The session after `op_queue_dst` has entered a new buffer. -/
def entered (s : Session) (name : String) (buf : Buffer) : Session :=
  { s with buffers := s.buffers.set name buf }

/-- The session after an aliased destination: the slot and the wrapper are written, the timestamp
index is not. -/
def halfQueued (s : Session) (name : String) (buf : Buffer) (i : ℕ) : Session :=
  { s with
    slot := s.slot.set i name
    buffers := s.buffers.set name (buf.queueAt i s.captureGeneration) }

/-- The refusals of `op_queue_dst`, each with its exception and the session it leaves: only the
first one writes nothing. -/
inductive QueueRefusal (s : Session) (name : String) (backingBytes : Option ℕ) :
    Exc Raised → Session → Prop where
  | early {x} (hx : Plain x) : QueueRefusal s name backingBytes x s
  | short {era} (hnew : s.buffers.get? name = none) (hera : s.currentEra = some era)
      (hshort : (s.dstIn era name backingBytes).backingBytes < era.sizeimage) :
      QueueRefusal s name backingBytes shortDst (s.entered name (s.dstIn era name backingBytes))
  | noSlots {era} (hslots : s.captureSlots = 0) :
      QueueRefusal s name backingBytes noSlots (s.entered name (s.dstIn era name backingBytes))
  | full {era} (hnew : s.buffers.get? name = none) (hera : s.currentEra = some era)
      (hslots : s.captureSlots ≠ 0) (hfull : s.freeIndex = none) :
      QueueRefusal s name backingBytes noFreeIndex (s.entered name (s.dstIn era name backingBytes))
  | aliased {era i other} (hera : s.currentEra = some era)
      (hunreg : s.registrations.get? name = none)
      (hunq : (s.dstIn era name backingBytes).queuedAsDst = false)
      (hfits : era.sizeimage ≤ (s.dstIn era name backingBytes).backingBytes)
      (hfree : s.freeIndex = some i)
      (htaken : s.tsIndex.get? (s.captureGeneration, dstTimestamp i) = some other)
      (hne : other ≠ name) :
      QueueRefusal s name backingBytes indexAlias
        (s.halfQueued name (s.dstIn era name backingBytes) i)

lemma dstBuffer_error {name : String} {backingBytes : Option ℕ}
    (herr : dstBuffer name backingBytes s = .error e s') : Plain e ∧ s' = s := by
  cases hbuf : s.buffers.get? name with
  | some buf => simp [dstBuffer, hbuf] at herr
  | none =>
      simp only [dstBuffer, get_bind, hbuf, orRaise_bind_error, modify_bind, pure_run, reduceCtorEq,
        and_false, exists_false, or_false] at herr
      obtain ⟨_, rfl, rfl⟩ := herr
      exact ⟨plain_fixtureError (by decide), rfl⟩

lemma allocIndex_error {name : String} :
    allocIndex name s = .error e s'
      ↔ s = s' ∧ ((s.captureSlots = 0 ∧ noSlots = e) ∨
        (s.captureSlots ≠ 0 ∧ s.freeIndex = none ∧ noFreeIndex = e)) := by
  simp only [allocIndex, get_bind, raiseIf_bind_error, orRaise_bind_error, modify_bind, pure_run,
    reduceCtorEq, and_false, exists_false, or_false]
  tauto

/-- **Every refusal of a destination is one of these.** -/
lemma Inv.opQueueDst_error (h : s.Inv) {name : String} {backingBytes : Option ℕ}
    (herr : opQueueDst name backingBytes s = .error e s') :
    QueueRefusal s name backingBytes e s' := by
  simp only [opQueueDst, get_bind, bind_error (x := dstBuffer _ _), dstBuffer_ok,
    raiseIf_bind_error, orRaise_bind_error, bind_error (x := allocIndex _), allocIndex_ok,
    allocIndex_error, modify_bind, modify_run, reduceCtorEq, and_false, or_false] at herr
  rcases herr with herr | ⟨buf, t, hdst, hrest⟩
  · obtain ⟨he, rfl⟩ := dstBuffer_error herr
    exact .early he
  have htaken : ∀ {i}, (s.tsIndex.contains (s.captureGeneration, dstTimestamp i) = true ∧
      s.tsIndex.get? (s.captureGeneration, dstTimestamp i) ≠ some name) →
      ∃ other, s.tsIndex.get? (s.captureGeneration, dstTimestamp i) = some other ∧
        other ≠ name := by
    rintro i ⟨hmem, hne⟩
    obtain ⟨other, hother⟩ := Dict.contains_iff.mp hmem
    exact ⟨other, hother, fun heq => hne (heq ▸ hother)⟩
  rcases hdst with ⟨hbuf, rfl⟩ | ⟨hbuf, era, hera, rfl, rfl⟩
  · -- A known buffer: every check but the last one comes before the first write.
    rcases hrest with ⟨_, rfl, rfl⟩ | ⟨hunreg, ⟨_, rfl, rfl⟩ | ⟨hunq, ⟨hera, _⟩ | ⟨era, hera,
      ⟨_, rfl, rfl⟩ | ⟨hfits, ⟨rfl, ⟨_, rfl⟩ | ⟨_, _, rfl⟩⟩ | ⟨i, _, ⟨_, hfree, rfl⟩, hkey, rfl,
      rfl⟩⟩⟩⟩⟩
    · exact .early (plain_reject (by decide))
    · exact .early (plain_reject (by decide))
    · exact absurd hera (h.bufEra name buf hbuf)
    · exact .early (plain_reject (by decide))
    · exact .early (plain_fixtureError (by decide))
    · exact .early (plain_reject (by decide))
    · obtain ⟨other, hother, hne⟩ := htaken hkey
      have hdst : s.dstIn era name backingBytes = buf := by simp [Session.dstIn, hbuf]
      have href : QueueRefusal s name backingBytes indexAlias
          (s.halfQueued name (s.dstIn era name backingBytes) i) :=
        .aliased hera (Dict.not_contains_iff.mp (by simpa using hunreg)) (by simpa [hdst] using hunq)
          (by simpa [hdst] using hfits) hfree hother hne
      rwa [hdst] at href
  · -- A new buffer: it has been entered before the first check.
    have hnew : s.dstIn era name backingBytes
        = Buffer.new name era (some (backingBytes.getD era.sizeimage)) := by
      simp [Session.dstIn, hbuf]
    rcases hrest with ⟨hreg, _⟩ | ⟨hunreg, ⟨hq, _⟩ | ⟨hunq, ⟨hnone, _⟩ | ⟨era', hera',
      ⟨hshort, rfl, rfl⟩ | ⟨hfits, ⟨rfl, ⟨hslots, rfl⟩ | ⟨hslots, hfull, rfl⟩⟩ | ⟨i, _,
      ⟨_, hfree, rfl⟩, hkey, rfl, rfl⟩⟩⟩⟩⟩
    · obtain ⟨reg, hget⟩ := Dict.contains_iff.mp hreg
      obtain ⟨b, hr⟩ := h.reg name reg hget
      exact absurd (hbuf.symm.trans hr.hbuf) (by simp)
    · simp [hnew, Buffer.new] at hq
    · exact absurd (hera.symm.trans hnone) (by simp)
    · obtain rfl : era = era' := Option.some.inj (hera.symm.trans hera')
      exact .short hbuf hera hshort
    · exact .noSlots hslots
    · exact .full hbuf hera hslots hfull
    · obtain rfl : era = era' := Option.some.inj (hera.symm.trans hera')
      obtain ⟨other, hother, hne⟩ := htaken hkey
      have href : QueueRefusal s name backingBytes indexAlias
          (s.halfQueued name (s.dstIn era name backingBytes) i) :=
        .aliased hera (Dict.not_contains_iff.mp (by simpa using hunreg)) (by simpa using hunq)
          (by simpa using hfits) hfree hother hne
      simpa [halfQueued] using href

/-! ### Late refusals that do happen -/

/-- The refusals of `op_queue_dst` after its first two checks, with the session `t` in which the
buffer is known. -/
lemma opQueueDst_late {name : String} {backingBytes : Option ℕ} {era : Era} {buf : Buffer}
    {t : Session} (hdst : dstBuffer name backingBytes s = .ok buf t)
    (hunreg : s.registrations.contains name = false) (hunq : buf.queuedAsDst = false)
    (hera : s.currentEra = some era)
    (hlate : (buf.backingBytes < era.sizeimage ∧ shortDst = e ∧ t = s') ∨
      (¬buf.backingBytes < era.sizeimage ∧
        (allocIndex name t = .error e s' ∨
          ∃ i t', allocIndex name t = .ok i t' ∧
            (s.tsIndex.contains (s.captureGeneration, dstTimestamp i) = true ∧
              s.tsIndex.get? (s.captureGeneration, dstTimestamp i) ≠ some name) ∧
            indexAlias = e ∧
            { t' with buffers := t'.buffers.set name (buf.queueAt i t'.captureGeneration) }
              = s'))) :
    opQueueDst name backingBytes s = .error e s' := by
  simp only [opQueueDst, get_bind, bind_error (x := dstBuffer _ _), raiseIf_bind_error,
    orRaise_bind_error, bind_error (x := allocIndex _), modify_bind, modify_run, reduceCtorEq,
    and_false, or_false]
  exact Or.inr ⟨buf, t, hdst, Or.inr ⟨by simp [hunreg], Or.inr ⟨by simp [hunq],
    Or.inr ⟨era, hera, hlate⟩⟩⟩⟩

/-- A new buffer is entered before any check. -/
lemma dstBuffer_of_new {name : String} {backingBytes : Option ℕ} {era : Era}
    (hnew : s.buffers.get? name = none) (hera : s.currentEra = some era) :
    dstBuffer name backingBytes s = .ok (s.dstIn era name backingBytes)
      (s.entered name (s.dstIn era name backingBytes)) :=
  dstBuffer_ok.mpr (Or.inr ⟨hnew, era, hera, rfl, rfl⟩)

lemma dstIn_of_new {name : String} {backingBytes : Option ℕ} {era : Era}
    (hnew : s.buffers.get? name = none) :
    (s.dstIn era name backingBytes).queuedAsDst = false := by
  simp [Session.dstIn, hnew, Buffer.new]

/-- A destination whose timestamp is another buffer's is refused as an alias. -/
lemma opQueueDst_aliased {name : String} {backingBytes : Option ℕ} {era : Era} {i : ℕ}
    {other : String} (hera : s.currentEra = some era)
    (hunreg : s.registrations.get? name = none)
    (hunq : (s.dstIn era name backingBytes).queuedAsDst = false)
    (hfits : era.sizeimage ≤ (s.dstIn era name backingBytes).backingBytes)
    (hfree : s.freeIndex = some i)
    (htaken : s.tsIndex.get? (s.captureGeneration, dstTimestamp i) = some other)
    (hne : other ≠ name) :
    opQueueDst name backingBytes s
      = .error indexAlias (s.halfQueued name (s.dstIn era name backingBytes) i) := by
  have hslots : s.captureSlots ≠ 0 := by
    have := (freeIndex_spec hfree).1
    omega
  have hkey : s.tsIndex.contains (s.captureGeneration, dstTimestamp i) = true ∧
      s.tsIndex.get? (s.captureGeneration, dstTimestamp i) ≠ some name :=
    ⟨Dict.contains_iff.mpr ⟨other, htaken⟩,
      fun heq => hne (Option.some.inj (htaken.symm.trans heq))⟩
  cases hbuf : s.buffers.get? name with
  | some buf =>
      have hdst : s.dstIn era name backingBytes = buf := by simp [Session.dstIn, hbuf]
      rw [hdst] at hunq hfits ⊢
      exact opQueueDst_late (dstBuffer_ok.mpr (Or.inl ⟨hbuf, rfl⟩))
        (Dict.not_contains_iff.mpr hunreg) hunq hera
        (Or.inr ⟨Nat.not_lt.mpr hfits, Or.inr ⟨i, _, allocIndex_ok.mpr ⟨hslots, hfree, rfl⟩,
          hkey, rfl, rfl⟩⟩)
  | none =>
      refine opQueueDst_late (dstBuffer_of_new hbuf hera) (Dict.not_contains_iff.mpr hunreg)
        hunq hera (Or.inr ⟨Nat.not_lt.mpr hfits, Or.inr ⟨i, _,
          allocIndex_ok.mpr ⟨hslots, hfree, rfl⟩, hkey, rfl, ?_⟩⟩)
      simp [halfQueued, entered]

/-! ### The refusals of an event -/

/-- The session after `op_register` has drawn a timestamp. -/
def drawn (s : Session) (ts : ℕ) : Session := { s with nextRegTs := max s.nextRegTs ts + 1 }

/-- The session after `op_proposed_reconfigure` has written the coded size. -/
def resized (s : Session) (width height : ℕ) : Session :=
  { s with codedW := some width, codedH := some height }

/-- A buffer that may be registered, whatever the timestamp and the index. -/
def Registrable (s : Session) (name : String) : Prop :=
  s.path = .proposed ∧ ∃ buf, s.buffers.get? name = some buf ∧ buf.exported = true ∧
    buf.decodedOk = true ∧ buf.queuedAsDst = false ∧
    ∃ era, s.eras.get? buf.eraId = some era ∧ era.sizeimage ≤ buf.backingBytes

lemma registrable_iff {name : String} :
    s.Registrable name ↔ ∃ buf, s.checkRegister name = .ok buf := by
  simp only [Registrable, checkRegister_ok, exists_and_left]

/-- The preconditions of a reconfiguration, the minimum size aside. -/
structure CanReconfigure (s : Session) (bitDepth : Option ℕ) : Prop where
  path : s.path = .proposed
  output : s.outputStreaming = true
  capture : s.captureStreaming = false
  idle : s.captureSlots = 0
  depth : bitDepth.getD s.bitDepth = s.bitDepth

/-- The refusals of an event in a live session: before any write, or late. -/
inductive Refusal (s : Session) : Event → Exc Raised → Session → Prop where
  | early {ev x} (hx : Plain x) : Refusal s ev x s
  | queue {name backing x s'} (hq : QueueRefusal s name backing x s') :
      Refusal s (.queueDst name backing) x s'
  | decode {ev args era x s'} (he : ev.decodeArgs? = some args) (hcan : s.CanDecode args era)
      (hunq : s.isQueued args.dst = false) (hq : QueueRefusal s args.dst args.backingBytes x s') :
      Refusal s ev x s'
  | registerTs {name timestamp index buf other} (hcheck : s.checkRegister name = .ok buf)
      (htaken : s.tsIndex.get? (s.captureGeneration, timestamp.getD s.nextRegTs) = some other) :
      Refusal s (.register name timestamp index) duplicateTimestamp
        (s.drawn (timestamp.getD s.nextRegTs))
  | registerIndex {name timestamp index buf} (hcheck : s.checkRegister name = .ok buf)
      (htaken : index.any s.slot.contains = true) :
      Refusal s (.register name timestamp index) indexTaken (s.drawn (timestamp.getD s.nextRegTs))
  | reconfigure {w y depth} (hcan : s.CanReconfigure depth) (hsmall : w < minDim ∨ y < minDim) :
      Refusal s (.proposedReconfigure w y depth) (tooSmall w y) (s.resized w y)

lemma needEra_error {w y depth : ℕ} :
    needEra w y depth s = .error e s' ↔ (w < minDim ∨ y < minDim) ∧ tooSmall w y = e ∧ s = s' := by
  simp only [needEra, raiseIf_bind_error, get_bind, modify_bind, pure_run, reduceCtorEq, and_false,
    or_false]

lemma Sound.opDecode_error (h : s.Sound) {ev : Event} {args : DecodeArgs}
    (he : ev.decodeArgs? = some args) (herr : opDecode args s = .error e s') :
    Refusal s ev e s' := by
  simp only [opDecode, get_bind, lift_bind_error, bind_error (x := onlyIf _ _), onlyIf_error,
    onlyIf_ok, orRaise_bind_error, modify_run, reduceCtorEq, and_false, exists_false,
    or_false] at herr
  rcases herr with ⟨hcheck, rfl⟩ | ⟨era, hcheck, ⟨hunq, hqueue⟩ | ⟨_, t, hdst, hbuf, rfl, rfl⟩⟩
  · exact .early (h.checkDecode_error hcheck)
  · exact .decode he (checkDecode_ok.mp hcheck) (by simpa using hunq) (h.1.opQueueDst_error hqueue)
  · -- The destination is a known buffer by now.
    rcases hdst with ⟨_, hok⟩ | ⟨hq, rfl⟩
    · obtain ⟨_, buf, i, _, rfl⟩ := opQueueDst_ok.mp hok
      rw [queued_get?] at hbuf
      exact absurd hbuf (by simp)
    · simp [isQueued, hbuf] at hq

lemma Sound.handler_error (h : s.Sound) {ev : Event} (herr : Session.handler ev s = .error e s') :
    Refusal s ev e s' := by
  cases ev with
  | «open» session =>
      cases session with
      | none => simp [Session.handler, opOpen] at herr
      | some name =>
          simp only [Session.handler, opOpen, get_bind, onlyIf_error, raiseIf_bind_error,
            modify_run, reduceCtorEq, and_false, or_false] at herr
          obtain ⟨_, _, rfl, rfl⟩ := herr
          exact .early (plain_reject (by decide))
  | outputSFmt w y =>
      simp only [Session.handler, opOutputSFmt, get_bind, raiseIf_bind_error, modify_run,
        reduceCtorEq, and_false, or_false] at herr
      rcases herr with ⟨_, rfl, rfl⟩ | ⟨_, _, rfl, rfl⟩
      · exact .early (plain_reject (by decide))
      · exact .early (plain_reject (by decide))
  | captureSFmt w y depth =>
      simp only [Session.handler, opCaptureSFmt, get_bind, raiseIf_bind_error,
        bind_error (x := needEra _ _ _), needEra_error, modify_run, reduceCtorEq, and_false,
        exists_false, or_false] at herr
      rcases herr with ⟨_, rfl, rfl⟩ | ⟨_, ⟨_, rfl, rfl⟩ | ⟨_, _, rfl, rfl⟩⟩
      · exact .early (plain_reject (by decide))
      · exact .early (plain_rejectText (by decide))
      · exact .early (plain_reject (by decide))
  | proposedReconfigure w y depth =>
      simp only [Session.handler, opProposedReconfigure, get_bind, raiseIf_bind_error, modify_bind,
        bind_error (x := needEra _ _ _), needEra_error, modify_run, reduceCtorEq, and_false,
        exists_false, or_false] at herr
      rcases herr with ⟨_, rfl, rfl⟩ | ⟨hpath, ⟨_, rfl, rfl⟩ | ⟨hout, ⟨_, rfl, rfl⟩ | ⟨hcap,
        ⟨_, rfl, rfl⟩ | ⟨hdepth, hsmall, rfl, rfl⟩⟩⟩⟩
      · exact .early (plain_reject (by decide))
      · exact .early (plain_reject (by decide))
      · exact .early (plain_reject (by decide))
      · exact .early (plain_rejectText (by decide))
      · simp only [captureBusy, not_or, Bool.not_eq_true, Nat.not_lt, Nat.le_zero] at hcap
        exact .reconfigure ⟨not_not.mp hpath, by simpa using hout, hcap.1, hcap.2,
          not_not.mp hdepth⟩ hsmall
  | captureReqbufs count =>
      simp only [Session.handler, opCaptureReqbufs, get_bind, raiseIf_bind_error,
        bind_error (x := onlyIf _ _), onlyIf_error, onlyIf_ok, modify_run, reduceCtorEq, and_false,
        false_or, or_false] at herr
      rcases herr with ⟨_, rfl, rfl⟩ | ⟨_, _, t, hdrop, _, hera, rfl, rfl⟩
      · exact .early (plain_reject (by decide))
      · rcases hdrop with ⟨hdrop, ht⟩ | ⟨_, rfl⟩
        · -- A queue that is replaced has an era, so the second half goes through.
          obtain rfl : s.dropQueue = t := by simpa using ht
          rcases hdrop with hcount | hslots
          · contradiction
          · exact absurd hera (h.1.slotsEra hslots)
        · exact .early (plain_fixtureError (by decide))
  | queueDst name backing => exact .queue (h.1.opQueueDst_error herr)
  | decode args => exact h.opDecode_error rfl herr
  | submit args => exact h.opDecode_error rfl herr
  | «export» name backing =>
      simp only [Session.handler, opExport, get_bind, orRaise_bind_error, raiseIf_bind_error,
        modify_run, reduceCtorEq, and_false, or_false] at herr
      rcases herr with ⟨_, rfl, rfl⟩ | ⟨_, _, _, rfl, rfl⟩
      · exact .early (plain_fixtureError (by decide))
      · exact .early (plain_fixtureError (by decide))
  | register name timestamp index =>
      simp only [Session.handler, opRegister, get_bind, lift_bind_error, raiseIf_bind_error,
        modify_bind, modify_run, reduceCtorEq, and_false, or_false] at herr
      rcases herr with ⟨hcheck, rfl⟩ | ⟨buf, hcheck, ⟨htaken, rfl, rfl⟩ | ⟨_, htaken, rfl, rfl⟩⟩
      · exact .early (h.1.checkRegister_error hcheck)
      · obtain ⟨other, hother⟩ := Dict.contains_iff.mp htaken
        exact .registerTs hcheck hother
      · exact .registerIndex hcheck htaken
  | injectFailure phase =>
      simp only [Session.handler, opInjectFailure, get_bind, onlyIf_error, raiseIf_bind_error,
        modify_run, reduceCtorEq, and_false, or_false] at herr
      rcases herr with ⟨_, ⟨_, rfl, rfl⟩ | ⟨_, _, rfl, rfl⟩⟩
      · exact .early (plain_fixtureError (by decide))
      · exact .early (plain_fixtureError (by decide))
  | askFirmware question =>
      simp only [Session.handler, opAskFirmware, orRaise_bind_error, throw_run,
        EStateM.Result.error.injEq] at herr
      rcases herr with ⟨_, rfl, rfl⟩ | ⟨q, _, rfl, rfl⟩
      · refine .early (plain_fixtureError fun htext => ?_)
        have hlast := congrArg (fun text : String => text.toList.getLast?) htext
        simp [toString] at hlast
      · exact .early (plain_reject (by decide))
  | outputStreamon =>
      simp only [Session.handler, opOutputStreamon, get_bind, onlyIf_error, raiseIf_bind_error,
        modify_run, reduceCtorEq, and_false, or_false] at herr
      obtain ⟨_, _, rfl, rfl⟩ := herr
      exact .early (plain_fixtureError (by decide))
  | outputStreamoff => simp [Session.handler, opOutputStreamoff] at herr
  | captureStreamon =>
      simp only [Session.handler, opCaptureStreamon, get_bind, raiseIf_bind_error, modify_run,
        reduceCtorEq, and_false, or_false] at herr
      obtain ⟨_, rfl, rfl⟩ := herr
      exact .early (plain_fixtureError (by decide))
  | captureStreamoff => simp [Session.handler, opCaptureStreamoff] at herr
  | snapshot => simp [Session.handler, opSnapshot] at herr

/-- **Every refused event is one of these refusals.** -/
theorem Sound.refusal_of_apply (h : s.Sound) {ev : Event}
    (herr : Session.apply ev s = .error e s') : Refusal s ev e s' := by
  simp only [Session.apply, get_bind, raiseIf_bind_error, bind_error (x := Session.handler _),
    modify_run, reduceCtorEq, and_false, exists_false, or_false] at herr
  rcases herr with ⟨_, rfl, rfl⟩ | ⟨_, herr⟩
  · exact .early (plain_reject (by decide))
  · exact h.handler_error herr

/-- A handler that fails fails the event. -/
lemma apply_of_handler_error {ev : Event}
    (hlive : ¬(s.failed = true ∧ ev.needsLiveSession = true))
    (herr : handler ev s = .error e s') : apply ev s = .error e s' := by
  simp only [apply, get_bind, raiseIf_bind_error, bind_error (x := handler _)]
  exact Or.inr ⟨hlive, Or.inl herr⟩

/-- A registration whose timestamp is taken is refused as a duplicate. -/
lemma opRegister_duplicate {name : String} {timestamp index : Option ℕ} {buf : Buffer}
    (hcheck : s.checkRegister name = .ok buf)
    (htaken : s.tsIndex.contains (s.captureGeneration, timestamp.getD s.nextRegTs) = true) :
    opRegister name timestamp index s
      = .error duplicateTimestamp (s.drawn (timestamp.getD s.nextRegTs)) := by
  simp only [opRegister, get_bind, lift_bind_error, raiseIf_bind_error, modify_bind, modify_run,
    reduceCtorEq, and_false, or_false]
  exact Or.inr ⟨buf, hcheck, Or.inl ⟨htaken, trivial, rfl⟩⟩

/-- A decode whose destination is refused is refused with the same exception. -/
lemma opDecode_of_queueDst_error {args : DecodeArgs} {era : Era} (hcan : s.CanDecode args era)
    (hunq : s.isQueued args.dst = false)
    (herr : opQueueDst args.dst args.backingBytes s = .error e s') :
    opDecode args s = .error e s' := by
  simp only [opDecode, get_bind, lift_bind_error, bind_error (x := onlyIf _ _), onlyIf_error]
  exact Or.inr ⟨era, checkDecode_ok.mpr hcan, Or.inl ⟨by simp [hunq], herr⟩⟩

/-! ### Runs of raw events -/

/-- What a refusal raises is raised by name, and is none of the unreachable exceptions. -/
lemma QueueRefusal.named {name : String} {backing : Option ℕ}
    (h : QueueRefusal s name backing e s') :
    (∃ r, e = .raise r) ∧ e ≠ decodeBeforeSFmt ∧ e ≠ refMixedDepth := by
  cases h with
  | early hx => exact ⟨hx.named, hx.sfmt, hx.depth⟩
  | short => exact ⟨⟨_, rfl⟩, by decide, by decide⟩
  | noSlots => exact ⟨⟨_, rfl⟩, by decide, by decide⟩
  | full => exact ⟨⟨_, rfl⟩, by decide, by decide⟩
  | aliased => exact ⟨⟨_, rfl⟩, by decide, by decide⟩

lemma Refusal.named {ev : Event} (h : Refusal s ev e s') :
    (∃ r, e = .raise r) ∧ e ≠ decodeBeforeSFmt ∧ e ≠ refMixedDepth := by
  cases h with
  | early hx => exact ⟨hx.named, hx.sfmt, hx.depth⟩
  | queue hq => exact hq.named
  | decode _ _ _ hq => exact hq.named
  | registerTs => exact ⟨⟨_, rfl⟩, by decide, by decide⟩
  | registerIndex => exact ⟨⟨_, rfl⟩, by decide, by decide⟩
  | reconfigure => refine ⟨⟨_, rfl⟩, ?_, ?_⟩ <;> rintro ⟨⟩

/-- An accepted raw event is an accepted event. -/
lemma applyJson_ok {v : Json} (h : applyJson v s = .ok () s') :
    ∃ ev, readEvent v = .ok ev ∧ Session.apply ev s = .ok () s' := by
  simp only [applyJson, lift_bind_ok] at h
  obtain ⟨_, _, ev, hev, happ⟩ := h
  exact ⟨ev, hev, happ⟩

/-- A validated event is refused by its handler. -/
lemma applyJson_error {v : Json} (hvalid : validateEvent v = .ok ())
    (h : applyJson v s = .error e s') :
    ∃ ev, readEvent v = .ok ev ∧ Session.apply ev s = .error e s' := by
  simp only [applyJson, lift_bind_error] at h
  rcases h with ⟨hinvalid, _⟩ | ⟨_, _, ⟨hread, _⟩ | ⟨ev, hev, happ⟩⟩
  · exact absurd (hvalid.symm.trans hinvalid) (by simp)
  · obtain ⟨ev, hev⟩ := readEvent_of_validateEvent hvalid
    exact absurd (hread.symm.trans hev) (by simp)
  · exact ⟨ev, hev, happ⟩

/-- Both invariants hold at the end of every run of raw events. -/
lemma sound_of_rawRun {s₀ : Session} {vs : List Json} (h₀ : s₀.IsNew)
    (hrun : each applyJson vs s₀ = .ok () s) : s.Sound :=
  each_invariant (sound_of_isNew h₀)
    (fun _ _ _ hs happ => by
      obtain ⟨_, _, happ⟩ := applyJson_ok happ
      exact hs.apply happ) hrun

/-- The `FixtureError` of REQBUFS comes before its destructive half. -/
lemma Sound.reqbufs_error (h : s.Sound) {count : ℕ}
    (herr : Session.apply (.captureReqbufs count) s = .error e s') : s' = s := by
  cases h.refusal_of_apply herr with
  | early => rfl
  | decode he => simp [Event.decodeArgs?] at he

/-- **A run of validated events raises nothing but `Reject` and `FixtureError`**, wherever it
stops; it never decodes before CAPTURE S_FMT and never finds a reference of another depth, and
when REQBUFS raises, the session is the one it was applied to. -/
theorem runs_raise_only_by_name (vs : List Json) {s₀ : Session} (h₀ : s₀.IsNew)
    (hvalid : ∀ v ∈ vs, validateEvent v = .ok ()) (hrun : each applyJson vs s₀ = .error e s') :
    (∃ r, e = .raise r) ∧ e ≠ decodeBeforeSFmt ∧ e ≠ refMixedDepth ∧
    ∃ pre v post s, vs = pre ++ v :: post ∧ each applyJson pre s₀ = .ok () s ∧
      applyJson v s = .error e s' ∧
      ∀ count, readEvent v = .ok (.captureReqbufs count) → s' = s := by
  obtain ⟨pre, v, post, s, rfl, hpre, hv⟩ := each_error_iff.mp hrun
  have hs := sound_of_rawRun h₀ hpre
  obtain ⟨ev, hev, happ⟩ := applyJson_error (hvalid v (by simp)) hv
  obtain ⟨hnamed, hsfmt, hdepth⟩ := (hs.refusal_of_apply happ).named
  refine ⟨hnamed, hsfmt, hdepth, pre, v, post, s, rfl, hpre, hv, fun count hcount => ?_⟩
  obtain rfl : ev = .captureReqbufs count := Except.ok.inj (hev.symm.trans hcount)
  exact hs.reqbufs_error happ

/-- REQBUFS before CAPTURE S_FMT, as a raw event. -/
def earlyReqbufs : Json := .obj [("op", .str "capture_reqbufs"), ("count", .int 4)]

/-- A run that REQBUFS stops. -/
theorem earlyReqbufs_raises :
    ∃ e s', each applyJson [earlyReqbufs] (ofPath .stock) = .error e s' ∧ ∃ r, e = .raise r :=
  ⟨fixtureError "REQBUFS before CAPTURE S_FMT", ofPath .stock, rfl,
    (runs_raise_only_by_name [earlyReqbufs] (isNew_ofPath .stock) (by decide) rfl).1⟩

end Session

end OmarchyM1Video.Vp9State
