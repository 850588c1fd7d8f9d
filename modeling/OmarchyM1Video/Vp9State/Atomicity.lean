import OmarchyM1Video.Vp9State.Errors

/-!
Which rejections leave the session as it was.

The handlers check and write in turns: `op_queue_dst` enters an unknown buffer before it looks at
the backing and takes a slot before it looks at the timestamp, `op_register` draws a timestamp
before it knows whether it may use it, and `op_proposed_reconfigure` writes the coded size before
the size is checked.

* `SpoilsQueue`, `Spoils`: the sessions and events at which a rejection comes after a write;
* `Spoils.rejected`: such an event is rejected and changes the session;
* `reject_atomic_iff`: after every run, the rejections of an event leave the session as it was
  exactly when the event does not spoil it.
-/

namespace OmarchyM1Video.Vp9State

open OmarchyM1Video.Py

/-- An exception that is a `Reject`. -/
def IsReject (e : Exc Raised) : Prop := ∃ code message invariant, e = reject code message invariant

lemma isReject_reject {code : RejectCode} {message : String} {invariant : InvariantId} :
    IsReject (reject code message invariant) := ⟨_, _, _, rfl⟩

namespace Session

variable {s s' s₀ : Session} {e : Exc Raised} {evs : List Event}

/-! ### Late rejections -/

/-- A destination that `op_queue_dst` rejects after a write: a new buffer that is too short or
finds no free slot, or a buffer whose slot has a timestamp that is another buffer's. -/
inductive SpoilsQueue (s : Session) (name : String) (backingBytes : Option ℕ) : Prop where
  | short {era} (hnew : s.buffers.get? name = none) (hera : s.currentEra = some era)
      (hshort : (s.dstIn era name backingBytes).backingBytes < era.sizeimage)
  | full {era} (hnew : s.buffers.get? name = none) (hera : s.currentEra = some era)
      (hslots : s.captureSlots ≠ 0) (hfull : s.freeIndex = none)
  | aliased {era i other} (hera : s.currentEra = some era)
      (hunreg : s.registrations.get? name = none)
      (hunq : (s.dstIn era name backingBytes).queuedAsDst = false)
      (hfits : era.sizeimage ≤ (s.dstIn era name backingBytes).backingBytes)
      (hfree : s.freeIndex = some i)
      (htaken : s.tsIndex.get? (s.captureGeneration, dstTimestamp i) = some other)
      (hne : other ≠ name)

/-- An event that is rejected after a write. -/
def Spoils (s : Session) : Event → Prop
  | .queueDst name backing => s.failed = false ∧ s.SpoilsQueue name backing
  | .decode args | .submit args => (∃ era, s.CanDecode args era) ∧ s.isQueued args.dst = false ∧
      s.SpoilsQueue args.dst args.backingBytes
  | .register name timestamp index => s.failed = false ∧ s.Registrable name ∧
      (s.tsIndex.contains (s.captureGeneration, timestamp.getD s.nextRegTs) = true ∨
        index.any s.slot.contains = true)
  | .proposedReconfigure width height bitDepth => s.failed = false ∧ s.CanReconfigure bitDepth ∧
      (width < minDim ∨ height < minDim) ∧ ¬(s.codedW = some width ∧ s.codedH = some height)
  | _ => False

/-! ### A spoiling event is rejected and changes the session -/

lemma entered_ne {name : String} {buf : Buffer} (hnew : s.buffers.get? name = none) :
    s.entered name buf ≠ s := by
  intro heq
  have hget : (s.entered name buf).buffers.get? name = some buf := by simp [entered]
  rw [heq, hnew] at hget
  exact absurd hget (by simp)

lemma halfQueued_ne {name : String} {buf : Buffer} {i : ℕ} (hfree : s.freeIndex = some i) :
    s.halfQueued name buf i ≠ s := by
  intro heq
  have hget : (s.halfQueued name buf i).slot.get? i = some name := by simp [halfQueued]
  rw [heq, (freeIndex_spec hfree).2] at hget
  exact absurd hget (by simp)

lemma drawn_ne {ts : ℕ} : s.drawn ts ≠ s := by
  intro heq
  have hts : (s.drawn ts).nextRegTs = s.nextRegTs := by rw [heq]
  simp only [drawn] at hts
  omega

lemma resized_ne {w y : ℕ} (h : ¬(s.codedW = some w ∧ s.codedH = some y)) : s.resized w y ≠ s := by
  intro heq
  refine h ⟨?_, ?_⟩
  · rw [← heq]; rfl
  · rw [← heq]; rfl

lemma Inv.unregistered_of_new (h : s.Inv) {name : String} (hnew : s.buffers.get? name = none) :
    s.registrations.contains name = false := by
  refine Dict.not_contains_iff.mpr (Option.eq_none_iff_forall_ne_some.mpr fun reg hreg => ?_)
  obtain ⟨buf, hr⟩ := h.reg name reg hreg
  exact absurd (hnew.symm.trans hr.hbuf) (by simp)

lemma rejected_of_short (h : s.Inv) {name : String} {backingBytes : Option ℕ} {era : Era}
    (hnew : s.buffers.get? name = none) (hera : s.currentEra = some era)
    (hshort : (s.dstIn era name backingBytes).backingBytes < era.sizeimage) :
    ∃ e s', IsReject e ∧ opQueueDst name backingBytes s = .error e s' ∧ s' ≠ s :=
  ⟨shortDst, _, isReject_reject,
    opQueueDst_late (dstBuffer_of_new hnew hera) (h.unregistered_of_new hnew) (dstIn_of_new hnew)
      hera (Or.inl ⟨hshort, rfl, rfl⟩), entered_ne hnew⟩

lemma SpoilsQueue.rejected (h : s.Inv) {name : String} {backingBytes : Option ℕ}
    (hsp : s.SpoilsQueue name backingBytes) :
    ∃ e s', IsReject e ∧ opQueueDst name backingBytes s = .error e s' ∧ s' ≠ s := by
  cases hsp with
  | short hnew hera hshort => exact rejected_of_short h hnew hera hshort
  | @full era hnew hera hslots hfull =>
      by_cases hshort : (s.dstIn era name backingBytes).backingBytes < era.sizeimage
      · exact rejected_of_short h hnew hera hshort
      · exact ⟨noFreeIndex, _, isReject_reject,
          opQueueDst_late (dstBuffer_of_new hnew hera) (h.unregistered_of_new hnew)
            (dstIn_of_new hnew) hera
            (Or.inr ⟨hshort, Or.inl (allocIndex_error.mpr ⟨rfl, Or.inr ⟨hslots, hfull, rfl⟩⟩)⟩),
          entered_ne hnew⟩
  | aliased hera hunreg hunq hfits hfree htaken hne =>
      exact ⟨indexAlias, _, isReject_reject,
        opQueueDst_aliased hera hunreg hunq hfits hfree htaken hne, halfQueued_ne hfree⟩

/-- **A spoiling event is rejected, and the session is not what it was.** -/
theorem Spoils.rejected (h : s.Inv) {ev : Event} (hsp : s.Spoils ev) :
    ∃ e s', IsReject e ∧ apply ev s = .error e s' ∧ s' ≠ s := by
  have decode_rejected : ∀ {ev : Event} {args : DecodeArgs}, handler ev = opDecode args →
      (∃ era, s.CanDecode args era) ∧ s.isQueued args.dst = false ∧
        s.SpoilsQueue args.dst args.backingBytes →
      ∃ e s', IsReject e ∧ apply ev s = .error e s' ∧ s' ≠ s := by
    rintro ev args hev ⟨⟨era, hcan⟩, hunq, hq⟩
    obtain ⟨e, s', hrej, herr, hne⟩ := hq.rejected h
    exact ⟨e, s', hrej, apply_of_handler_error (by simp [hcan.live])
      (hev ▸ opDecode_of_queueDst_error hcan hunq herr), hne⟩
  cases ev with
  | queueDst name backing =>
      obtain ⟨hlive, hq⟩ := hsp
      obtain ⟨e, s', hrej, herr, hne⟩ := hq.rejected h
      exact ⟨e, s', hrej, apply_of_handler_error (by simp [hlive]) herr, hne⟩
  | decode args => exact decode_rejected rfl hsp
  | submit args => exact decode_rejected rfl hsp
  | register name timestamp index =>
      obtain ⟨hlive, hreg, htaken⟩ := hsp
      obtain ⟨buf, hcheck⟩ := registrable_iff.mp hreg
      have hfail : ∃ e, IsReject e ∧ opRegister name timestamp index s
          = .error e (s.drawn (timestamp.getD s.nextRegTs)) := by
        by_cases hts :
            s.tsIndex.contains (s.captureGeneration, timestamp.getD s.nextRegTs) = true
        · exact ⟨_, isReject_reject, opRegister_duplicate hcheck hts⟩
        · refine ⟨indexTaken, isReject_reject, ?_⟩
          simp only [opRegister, get_bind, lift_bind_error, raiseIf_bind_error, modify_bind,
            modify_run, reduceCtorEq, and_false, or_false]
          exact Or.inr ⟨buf, hcheck, Or.inr ⟨hts, htaken.resolve_left hts, trivial, rfl⟩⟩
      obtain ⟨e, hrej, herr⟩ := hfail
      exact ⟨e, _, hrej, apply_of_handler_error (by simp [hlive]) herr, drawn_ne⟩
  | proposedReconfigure w y depth =>
      obtain ⟨hlive, hcan, hsmall, hsize⟩ := hsp
      refine ⟨tooSmall w y, s.resized w y, isReject_reject,
        apply_of_handler_error (by simp [hlive]) ?_, resized_ne hsize⟩
      simp only [handler, opProposedReconfigure, get_bind, raiseIf_bind_error, modify_bind,
        bind_error (x := needEra _ _ _), needEra_error]
      exact Or.inr ⟨by simp [hcan.path], Or.inr ⟨by simp [hcan.output],
        Or.inr ⟨by simp [captureBusy, hcan.capture, hcan.idle], Or.inr ⟨by simp [hcan.depth],
          Or.inl ⟨hsmall, trivial, rfl⟩⟩⟩⟩⟩
  | _ => exact absurd hsp id

/-! ### Every other rejection writes nothing -/

/-- A rejected destination that does not spoil the session leaves it as it was. -/
lemma QueueRefusal.unchanged {name : String} {backing : Option ℕ}
    (h : QueueRefusal s name backing e s') (hrej : IsReject e) (hsp : ¬s.SpoilsQueue name backing) :
    s' = s := by
  cases h with
  | early => rfl
  | short hnew hera hshort => exact absurd (.short hnew hera hshort) hsp
  | noSlots =>
      obtain ⟨_, _, _, heq⟩ := hrej
      exact absurd heq (by simp [Session.noSlots, fixtureError, reject])
  | full hnew hera hslots hfull => exact absurd (.full hnew hera hslots hfull) hsp
  | aliased hera hunreg hunq hfits hfree htaken hne =>
      exact absurd (.aliased hera hunreg hunq hfits hfree htaken hne) hsp

lemma Refusal.unchanged {ev : Event} (h : Refusal s ev e s') (hrej : IsReject e)
    (hlive : ¬(s.failed = true ∧ ev.needsLiveSession = true)) (hsp : ¬s.Spoils ev) : s' = s := by
  have hlive' : ev.needsLiveSession = true → s.failed = false := fun hneeds => by
    simpa [hneeds] using hlive
  cases h with
  | early => rfl
  | queue hq => exact hq.unchanged hrej fun hs => hsp ⟨hlive' rfl, hs⟩
  | @decode ev args era _ _ he hcan hunq hq =>
      refine hq.unchanged hrej fun hs => hsp ?_
      cases ev <;> simp only [Event.decodeArgs?, Option.some.injEq, reduceCtorEq] at he
      · exact he ▸ ⟨⟨era, hcan⟩, hunq, hs⟩
      · exact he ▸ ⟨⟨era, hcan⟩, hunq, hs⟩
  | registerTs hcheck htaken =>
      exact absurd ⟨hlive' rfl, registrable_iff.mpr ⟨_, hcheck⟩,
        Or.inl (Dict.contains_iff.mpr ⟨_, htaken⟩)⟩ hsp
  | registerIndex hcheck htaken =>
      exact absurd ⟨hlive' rfl, registrable_iff.mpr ⟨_, hcheck⟩, Or.inr htaken⟩ hsp
  | @reconfigure w y _ hcan hsmall =>
      -- The size that is written is the one that was there.
      have hsize : s.codedW = some w ∧ s.codedH = some y := by
        by_contra hsize
        exact hsp ⟨hlive' rfl, hcan, hsmall, hsize⟩
      rw [resized, ← hsize.1, ← hsize.2]

/-- **Rejection is atomic exactly off the spoiling events**: after every run, the rejections of an
event leave the session as it was if and only if the event does not spoil it. -/
theorem reject_atomic_iff (h₀ : s₀.IsNew) (hrun : each apply evs s₀ = .ok () s) (ev : Event) :
    (∀ e s', IsReject e → apply ev s = .error e s' → s' = s) ↔ ¬s.Spoils ev := by
  have h := sound_of_run h₀ hrun
  constructor
  · intro hatomic hsp
    obtain ⟨e, s', hrej, herr, hne⟩ := hsp.rejected h.1
    exact hne (hatomic e s' hrej herr)
  · intro hsp e s' hrej herr
    by_cases hlive : s.failed = true ∧ ev.needsLiveSession = true
    · simp only [apply, get_bind, raiseIf_bind_error, hlive, true_and, not_true_eq_false, and_self,
        false_and, or_false] at herr
      exact herr.2.symm
    · exact (h.refusal_of_apply herr).unchanged hrej hlive hsp

/-- Registering a buffer that is not exported is rejected and changes nothing. -/
theorem keyRun_register_atomic :
    ∃ e, IsReject e ∧ apply (.register "A" none none) (endState keyRun (ofPath .proposed))
      = .error e (endState keyRun (ofPath .proposed)) := by
  have hsp : ¬(endState keyRun (ofPath .proposed)).Spoils (.register "A" none none) := by
    rintro ⟨_, ⟨_, buf, hbuf, hexp, _⟩, _⟩
    have hget : ((endState keyRun (ofPath .proposed)).buffers.get? "A").map Buffer.exported
        = some false := by decide +kernel
    rw [hbuf, Option.map_some, hexp] at hget
    exact absurd hget (by decide)
  have hrej : IsReject (reject .orphanedRetainedBuffer "registration requires an exported backing"
    .explicitRefRegistration) := isReject_reject
  refine ⟨_, hrej, ?_⟩
  have herr : ∃ s', apply (.register "A" none none) (endState keyRun (ofPath .proposed))
      = .error (reject .orphanedRetainedBuffer "registration requires an exported backing"
        .explicitRefRegistration) s' := ⟨_, rfl⟩
  obtain ⟨s', herr⟩ := herr
  have hsame := (reject_atomic_iff (isNew_ofPath .proposed) (keyRun_ok .proposed) _).mpr hsp _ s'
    hrej herr
  rw [herr, hsame]

/-- The short destination of a concrete session is rejected and stays entered: a rejection is not
atomic in general. -/
theorem reject_not_atomic :
    ¬∀ (s₀ s : Session) (evs : List Event) (ev : Event) (e : Exc Raised) (s' : Session), s₀.IsNew →
      each apply evs s₀ = .ok () s → IsReject e → apply ev s = .error e s' → s' = s := by
  intro hatomic
  have hrun : each apply (opening 1) (ofPath .stock) = .ok () (endState (opening 1) (ofPath .stock)) :=
    run_of_accepts (by decide +kernel)
  have heq := hatomic _ _ _ (.queueDst "A" (some 0)) shortDst _ (isNew_ofPath .stock) hrun
    isReject_reject rfl
  have hknown := congrArg (fun s => s.buffers.contains "A") heq
  exact absurd hknown (by decide +kernel)

end Session

end OmarchyM1Video.Vp9State
