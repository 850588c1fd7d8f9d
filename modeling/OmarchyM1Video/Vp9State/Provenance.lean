import OmarchyM1Video.Vp9State.References

/-!
What a decode reads and what it writes to, over whole runs.

`decoded_ok` outlives the CAPTURE generation: REQBUFS drops the wrapper of a buffer and keeps the
flag.  A buffer that is queued again with the flag set passes both lookups for a reference of the
new generation.  The size of a destination is checked when it is queued, and `export` can shrink
the backing of a queued buffer afterwards.

* `DecodedIn`: the buffer was the destination of a decode earlier in the run, in a generation;
* `refs_decoded_or_registered`: in a run that queues no decoded buffer again, every reference of an
  accepted frame was decoded or registered in the current generation;
* `decodes_fit`: in a run that shrinks no queued buffer, every decode goes into a buffer of the
  current era's size.
-/

namespace OmarchyM1Video.Vp9State

open OmarchyM1Video.Py

namespace Session

variable {s s' s₀ : Session} {evs : List Event}

/-! ### The queued buffers after a step -/

/-- How a buffer on the destination queue has got there, or stayed there, with an event. -/
inductive QueuedAfter (s : Session) (ev : Event) (name : String) : Buffer → Prop where
  | kept {buf} (hbuf : s.buffers.get? name = some buf) (hq : buf.queuedAsDst = true) :
      QueuedAfter s ev name buf
  | exported {buf backing} (hev : ev = .export name backing)
      (hbuf : s.buffers.get? name = some buf) (hq : buf.queuedAsDst = true) :
      QueuedAfter s ev name
        { buf with exported := true, backingBytes := backing.getD buf.backingBytes }
  | queued {buf backing era i} (hev : ev = .queueDst name backing)
      (hcan : s.CanQueue name backing era buf i) :
      QueuedAfter s ev name (buf.queueAt i s.captureGeneration)
  | decodedQueued {buf args era} (hev : ev.decodeArgs? = some args) (hdst : args.dst = name)
      (hbuf : s.buffers.get? name = some buf) (hq : buf.queuedAsDst = true) :
      QueuedAfter s ev name (buf.decodedIn era args.width args.height s.bitDepth)
  | decodedNew {buf args era i} (hev : ev.decodeArgs? = some args) (hdst : args.dst = name)
      (hcan : s.CanQueue name args.backingBytes era buf i) :
      QueuedAfter s ev name ((buf.queueAt i s.captureGeneration).decodedIn era.id args.width
        args.height s.bitDepth)

/-- **A step that leaves a buffer queued stays in its generation and its era**, and the buffer is
one of `QueuedAfter`. -/
lemma Step.queuedAfter (hinv : s.Inv) {ev : Event} (hstep : Step s ev s') {name : String}
    {buf : Buffer} (hbuf : s'.buffers.get? name = some buf) (hq : buf.queuedAsDst = true) :
    s'.captureGeneration = s.captureGeneration ∧ s'.currentEra = s.currentEra ∧
      QueuedAfter s ev name buf := by
  cases hstep with
  | idle _ same _ hera =>
      rw [same.buffers] at hbuf
      exact ⟨same.captureGeneration, hera, .kept hbuf hq⟩
  | format _ same hslots _ _ _ _ _ =>
      rw [same.buffers] at hbuf
      exact absurd (hq.symm.trans (hinv.unqueued hslots hbuf)) (by simp)
  | @reqbufs count _ _ =>
      simp only [Session.tick, Session.requeued] at hbuf
      split_ifs at hbuf with hdrop
      · rw [dropQueue, Dict.get?_mapVals, Option.map_eq_some_iff] at hbuf
        obtain ⟨b, _, rfl⟩ := hbuf
        simp [Buffer.dropWrapper] at hq
      · have hslots : s.captureSlots = 0 := not_not.mp (not_or.mp hdrop).2
        exact absurd (hq.symm.trans (hinv.unqueued hslots hbuf)) (by simp)
  | @queue dst backing era b i hcan =>
      refine ⟨rfl, rfl, ?_⟩
      simp only [Session.tick, Session.queued, Dict.get?_set] at hbuf
      split_ifs at hbuf with hn
      · obtain rfl := Option.some.inj hbuf
        subst hn
        exact .queued rfl hcan
      · exact .kept hbuf hq
  | @decodeQueued _ args era b he hcan hb hqueued =>
      refine ⟨rfl, rfl, ?_⟩
      simp only [Session.tick, Session.decoded, Dict.get?_set] at hbuf
      split_ifs at hbuf with hn
      · obtain rfl := Option.some.inj hbuf
        exact .decodedQueued he hn.symm (hn ▸ hb) hqueued
      · exact .kept hbuf hq
  | @decodeNew _ args era b i he hcan hcanq =>
      refine ⟨rfl, rfl, ?_⟩
      simp only [Session.tick, Session.decoded, Session.queued, Dict.set_set, Dict.get?_set] at hbuf
      split_ifs at hbuf with hn
      · obtain rfl := Option.some.inj hbuf
        exact .decodedNew he hn.symm (hn ▸ hcanq)
      · exact .kept hbuf hq
  | @exportTo dst backing b hb hdec =>
      refine ⟨rfl, rfl, ?_⟩
      simp only [Session.tick, Session.exportedAs, Dict.get?_set] at hbuf
      split_ifs at hbuf with hn
      · obtain rfl := Option.some.inj hbuf
        subst hn
        exact .exported rfl hb hq
      · exact .kept hbuf hq
  | @register dst timestamp index b hr =>
      refine ⟨rfl, rfl, ?_⟩
      simp only [Session.tick, Session.registered, Dict.get?_set] at hbuf
      split_ifs at hbuf with hn
      · obtain rfl := Option.some.inj hbuf
        simp at hq
      · exact .kept hbuf hq

/-! ### References -/

/-- In the run `evs` from `s₀` a decode into `name` was accepted in the generation `g`. -/
def DecodedIn (s₀ : Session) (evs : List Event) (g : ℕ) (name : String) : Prop :=
  ∃ pre ev post s s' args, evs = pre ++ ev :: post ∧ each apply pre s₀ = .ok () s ∧
    apply ev s = .ok () s' ∧ ev.decodeArgs? = some args ∧ args.dst = name ∧
    s.captureGeneration = g

/-- The decodes of a run, each with its generation: `DecodedIn` as a list. -/
def decodes (s₀ : Session) : List Event → List (ℕ × String)
  | [] => []
  | ev :: evs =>
      match apply ev s₀ with
      | .ok _ s => (ev.decodeArgs?.map fun args => (s₀.captureGeneration, args.dst)).toList ++
          decodes s evs
      | .error _ _ => []

lemma DecodedIn.mem_decodes {g : ℕ} {name : String} (h : DecodedIn s₀ evs g name) :
    (g, name) ∈ decodes s₀ evs := by
  obtain ⟨pre, ev, post, s, s', args, rfl, hpre, happ, hargs, rfl, rfl⟩ := h
  induction pre generalizing s₀ with
  | nil =>
      obtain rfl := each_nil_ok.mp hpre
      simp [decodes, happ, hargs]
  | cons x pre ih =>
      obtain ⟨s₁, hx, hpre⟩ := each_cons_ok.mp hpre
      simp only [List.cons_append, decodes, hx, List.mem_append]
      exact Or.inr (ih hpre)

/-- An explicit `queue_dst` of a buffer that has been decoded into before. -/
def RequeuesDecoded (s : Session) : Event → Prop
  | .queueDst name _ => ∃ buf, s.buffers.get? name = some buf ∧ buf.decodedOk = true
  | _ => False

lemma DecodedIn.append {g : ℕ} {name : String} (h : DecodedIn s₀ evs g name) (ev : Event) :
    DecodedIn s₀ (evs ++ [ev]) g name := by
  obtain ⟨pre, ev', post, s, s', args, rfl, h⟩ := h
  exact ⟨pre, ev', post ++ [ev], s, s', args, by simp, h⟩

/-- Every queued buffer with `decoded_ok` set was decoded into in this generation. -/
def QueuedDecoded (s₀ : Session) (evs : List Event) (s : Session) : Prop :=
  ∀ name buf, s.buffers.get? name = some buf → buf.queuedAsDst = true → buf.decodedOk = true →
    DecodedIn s₀ evs s.captureGeneration name

lemma QueuedDecoded.step {ev : Event} (h : QueuedDecoded s₀ evs s) (hinv : s.Inv)
    (hrun : each apply evs s₀ = .ok () s) (hcond : ¬s.RequeuesDecoded ev)
    (happ : apply ev s = .ok () s') : QueuedDecoded s₀ (evs ++ [ev]) s' := by
  have here : ∀ {args}, ev.decodeArgs? = some args →
      DecodedIn s₀ (evs ++ [ev]) s.captureGeneration args.dst := fun he =>
    ⟨evs, ev, [], s, s', _, rfl, hrun, happ, he, rfl, rfl⟩
  intro name buf hbuf hq hd
  obtain ⟨hgen, _, hafter⟩ := (step_of_apply happ).queuedAfter hinv hbuf hq
  rw [hgen]
  cases hafter with
  | kept hold hqold => exact (h name buf hold hqold hd).append ev
  | exported _ hold hqold => exact (h name _ hold hqold hd).append ev
  | @queued b backing era i hev hcan =>
      -- The flag of the queued buffer is an old one, which the condition excludes.
      cases hold : s.buffers.get? name with
      | none =>
          have hnew := hcan.hbuf
          simp only [Session.dstIn, hold, Option.getD_none] at hnew
          simp [hnew, Buffer.queueAt, Buffer.new] at hd
      | some old =>
          obtain rfl : b = old := by simpa [Session.dstIn, hold] using hcan.hbuf
          exact absurd ⟨b, hold, hd⟩ (hev ▸ hcond)
  | decodedQueued hev hdst _ _ => exact hdst ▸ here hev
  | decodedNew hev hdst _ => exact hdst ▸ here hev

/-- In such a run a reference that the lookup of its path admits has its provenance. -/
lemma QueuedDecoded.of_resolveRef (h : QueuedDecoded s₀ evs s) (hinv : s.Inv) {args : DecodeArgs}
    (hforce : args.forceKernelLookup.getD false = false) {refName : String}
    (hres : s.resolveRef args refName = .ok ()) :
    DecodedIn s₀ evs s.captureGeneration refName ∨
      ∃ reg, s.registrations.get? refName = some reg ∧ reg.generation = s.captureGeneration := by
  have of_wrapper : ∀ {buf : Buffer}, s.buffers.get? refName = some buf →
      buf.wrapperAlive = true → buf.decodedOk = true →
      DecodedIn s₀ evs s.captureGeneration refName := fun hbuf hw hd =>
    h refName _ hbuf ((hinv.buf refName _ hbuf).wrapper ▸ hw) hd
  simp only [resolveRef, Except.bind_ok, need_ok, hforce] at hres
  obtain ⟨_, _, hres⟩ := hres
  cases hpath : s.path with
  | stock =>
      simp only [hpath, resolveStockUserspace, need_ok] at hres
      cases hbuf : s.buffers.get? refName with
      | none => simp [hbuf] at hres
      | some buf =>
          simp only [hbuf, Bool.and_eq_true] at hres
          exact Or.inl (of_wrapper hbuf hres.1.1 hres.1.2)
  | proposed =>
      simp only [hpath, resolveProposed, Except.bind_ok, need_ok, found_ok] at hres
      obtain ⟨buf, hbuf, _, _, era, _, _, _, hres⟩ := hres
      cases hreg : s.registrations.get? refName with
      | some reg =>
          simp only [hreg, Except.bind_ok, need_ok] at hres
          obtain ⟨_, _, hgen⟩ := hres
          exact Or.inr ⟨reg, rfl, hgen⟩
      | none =>
          simp only [hreg] at hres
          split at hres
          next hwrapper => exact Or.inl (of_wrapper hbuf hwrapper.1 hwrapper.2.1)
          next => simp at hres

lemma resolveRefs_ok {args : DecodeArgs} {refs : List String}
    (h : s.resolveRefs args refs = .ok ()) : ∀ refName ∈ refs, s.resolveRef args refName = .ok () := by
  induction refs with
  | nil => simp
  | cons r refs ih =>
      rw [resolveRefs, Except.bind_ok] at h
      obtain ⟨_, hr, hrefs⟩ := h
      simp only [List.mem_cons, forall_eq_or_imp]
      exact ⟨hr, ih hrefs⟩

/-- An accepted decode has passed its checks. -/
lemma canDecode_of_apply {ev : Event} {args : DecodeArgs} (he : ev.decodeArgs? = some args)
    (happ : apply ev s = .ok () s') : ∃ era, s.CanDecode args era := by
  obtain ⟨_, s₁, hok, -⟩ := apply_ok.mp happ
  cases ev <;> simp only [Event.decodeArgs?, Option.some.injEq, reduceCtorEq] at he
  all_goals
    subst he
    obtain ⟨era, hcan, -⟩ := opDecode_ok hok
    exact ⟨era, hcan⟩

/-- **References have been decoded or registered in the current generation**, in every run that
queues no decoded buffer again. -/
theorem refs_decoded_or_registered (h₀ : s₀.IsNew)
    (hcond : Along apply (fun s ev => ¬s.RequeuesDecoded ev) evs s₀) {pre post : List Event}
    {ev : Event} (hsplit : evs = pre ++ ev :: post) (hpre : each apply pre s₀ = .ok () s)
    (happ : apply ev s = .ok () s') {args : DecodeArgs} (hargs : ev.decodeArgs? = some args)
    (hkey : args.key.getD false = false) (hforce : args.forceKernelLookup.getD false = false) :
    ∀ refName ∈ args.refs.getD [], DecodedIn s₀ pre s.captureGeneration refName ∨
      ∃ reg, s.registrations.get? refName = some reg ∧ reg.generation = s.captureGeneration := by
  have hqueued : QueuedDecoded s₀ pre s := by
    have hall : (each apply pre s₀ = .ok () s ∧ s.Inv) ∧ QueuedDecoded s₀ pre s := by
      refine each_rule (I := fun hist t => (each apply hist s₀ = .ok () t ∧ t.Inv) ∧
        QueuedDecoded s₀ hist t) ⟨⟨by simp, inv_of_isNew h₀⟩, ?_⟩ ?_
        (hsplit ▸ hcond).of_append hpre
      · obtain ⟨_, _, _, _, hnew⟩ := h₀
        obtain ⟨p, pr, d, rfl⟩ := new_ok hnew
        intro name buf hbuf
        simp at hbuf
      · rintro hist x t t' ⟨⟨hrun, hinv⟩, hq⟩ hx happ'
        exact ⟨⟨each_concat_ok.mpr ⟨t, hrun, happ'⟩, hinv.step (step_of_apply happ')⟩,
          hq.step hinv hrun hx happ'⟩
    exact hall.2
  have hinv := inv_of_run h₀ hpre
  intro refName hmem
  obtain ⟨era, hcan⟩ := canDecode_of_apply hargs happ
  exact hqueued.of_resolveRef hinv hforce (resolveRefs_ok (hcan.refs hkey) refName hmem)

/-- A frame that refers to the key frame before it. -/
theorem interFrame_provenance :
    DecodedIn (ofPath .stock) (opening 2 ++ [keyFrame "A"]) 0 "A" := by
  have hrun : each apply (opening 2 ++ [keyFrame "A"] ++ [interFrame "B" "A"]) (ofPath .stock)
      = .ok () (endState (opening 2 ++ [keyFrame "A"] ++ [interFrame "B" "A"]) (ofPath .stock)) :=
    run_of_accepts (by decide +kernel)
  have hrun' : each apply (opening 2 ++ [keyFrame "A"]) (ofPath .stock)
      = .ok () (endState (opening 2 ++ [keyFrame "A"]) (ofPath .stock)) :=
    run_of_accepts (by decide +kernel)
  obtain ⟨s, hpre, happ⟩ := each_concat_ok.mp hrun
  obtain ⟨-, rfl⟩ := EStateM.Result.ok.inj (hrun'.symm.trans hpre)
  have hcond : Along apply (fun s ev => ¬s.RequeuesDecoded ev)
      (opening 2 ++ [keyFrame "A"] ++ [interFrame "B" "A"]) (ofPath .stock) := by
    refine along_of_forall fun ev hev s hreq => ?_
    cases ev with
    | queueDst name backing => simp [opening, keyFrame, interFrame] at hev
    | _ => exact hreq
  refine (refs_decoded_or_registered (isNew_ofPath .stock) hcond rfl hpre happ rfl rfl rfl "A"
    (by decide)).resolve_right ?_
  rintro ⟨reg, hreg, -⟩
  have hnone : (endState (opening 2 ++ [keyFrame "A"]) (ofPath .stock)).registrations.get? "A"
      = none := by decide +kernel
  exact absurd (hreg.symm.trans hnone) (by simp)

/-- A buffer is decoded into, and queued again in the next generation. -/
def requeueRun : List Event :=
  opening 2 ++ [keyFrame "A"] ++ replaceQueue 2 ++ [.captureStreamon, .queueDst "A" none]

/-- In the next generation the buffer is admitted as a reference, without a decode or a
registration. -/
theorem requeued_ref_admitted :
    ¬∀ (s₀ s s' : Session) (pre : List Event) (ev : Event) (args : DecodeArgs) (refName : String),
      s₀.IsNew → each apply pre s₀ = .ok () s → apply ev s = .ok () s' →
      ev.decodeArgs? = some args → args.key.getD false = false →
      args.forceKernelLookup.getD false = false → refName ∈ args.refs.getD [] →
      DecodedIn s₀ pre s.captureGeneration refName ∨
        ∃ reg, s.registrations.get? refName = some reg ∧
          reg.generation = s.captureGeneration := by
  intro hclaim
  have hrun : each apply (requeueRun ++ [interFrame "B" "A"]) (ofPath .stock)
      = .ok () (endState (requeueRun ++ [interFrame "B" "A"]) (ofPath .stock)) :=
    run_of_accepts (by decide +kernel)
  have hrun' : each apply requeueRun (ofPath .stock)
      = .ok () (endState requeueRun (ofPath .stock)) := run_of_accepts (by decide +kernel)
  obtain ⟨s, hpre, happ⟩ := each_concat_ok.mp hrun
  obtain ⟨-, rfl⟩ := EStateM.Result.ok.inj (hrun'.symm.trans hpre)
  rcases hclaim _ _ _ _ _ _ "A" (isNew_ofPath .stock) hpre happ rfl rfl rfl (by decide) with h | h
  · exact absurd h.mem_decodes (by decide +kernel)
  · obtain ⟨reg, hreg, -⟩ := h
    have hnone : (endState requeueRun (ofPath .stock)).registrations.get? "A" = none := by
      decide +kernel
    exact absurd (hreg.symm.trans hnone) (by simp)

/-! ### Destinations -/

/-- A buffer that is as large as the current era asks for. -/
def DstFits (s : Session) (name : String) : Prop :=
  ∃ era buf, s.currentEra = some era ∧ s.buffers.get? name = some buf ∧
    era.sizeimage ≤ buf.backingBytes

/-- An export that makes a queued destination smaller than the current era asks for. -/
def ShrinksDst (s : Session) : Event → Prop
  | .export name (some bytes) => ∃ buf era, s.buffers.get? name = some buf ∧
      buf.queuedAsDst = true ∧ s.currentEra = some era ∧ bytes < era.sizeimage
  | _ => False

/-- An event that writes to a buffer of the current era's size, if it decodes. -/
def DecodeFits (s : Session) (ev : Event) : Prop :=
  ∀ s' args, apply ev s = .ok () s' → ev.decodeArgs? = some args → s'.DstFits args.dst

/-- Every queued buffer is as large as the current era asks for. -/
def QueuedFit (s : Session) : Prop :=
  ∀ name buf era, s.buffers.get? name = some buf → buf.queuedAsDst = true →
    s.currentEra = some era → era.sizeimage ≤ buf.backingBytes

lemma QueuedFit.step {ev : Event} (h : s.QueuedFit) (hinv : s.Inv) (hcond : ¬s.ShrinksDst ev)
    (hstep : Step s ev s') : s'.QueuedFit := by
  intro name buf era hbuf hq hera
  obtain ⟨_, hsame, hafter⟩ := hstep.queuedAfter hinv hbuf hq
  rw [hsame] at hera
  cases hafter with
  | kept hold hqold => exact h name buf era hold hqold hera
  | @exported old backing hev hold hqold =>
      cases backing with
      | none => exact h name old era hold hqold hera
      | some bytes =>
          by_contra hlt
          subst hev
          exact hcond ⟨old, era, hold, hqold, hera, Nat.not_le.mp hlt⟩
  | queued _ hcan =>
      obtain rfl := Option.some.inj (hera.symm.trans hcan.hera)
      exact hcan.fits
  | @decodedQueued old _ _ _ _ hold hqold => exact h name old era hold hqold hera
  | decodedNew _ _ hcan =>
      obtain rfl := Option.some.inj (hera.symm.trans hcan.hera)
      exact hcan.fits

/-- The destination of an accepted decode is a queued buffer. -/
lemma dst_queued_of_apply {ev : Event} {args : DecodeArgs} (he : ev.decodeArgs? = some args)
    (happ : apply ev s = .ok () s') :
    ∃ era buf, s'.currentEra = some era ∧ s'.buffers.get? args.dst = some buf ∧
      buf.queuedAsDst = true := by
  cases step_of_apply happ with
  | decodeQueued he' hcan _ hqueued =>
      obtain rfl := Option.some.inj (he.symm.trans he')
      exact ⟨_, _, hcan.hera, (Dict.get?_set _ _ _ _).trans (if_pos rfl), hqueued⟩
  | decodeNew he' hcan _ =>
      obtain rfl := Option.some.inj (he.symm.trans he')
      exact ⟨_, _, hcan.hera, (Dict.get?_set _ _ _ _).trans (if_pos rfl), rfl⟩
  | idle hq => cases ev <;> simp [Event.decodeArgs?, Event.touchesQueue] at he hq
  | format hq => cases ev <;> simp [Event.decodeArgs?, Event.touchesQueue] at he hq
  | reqbufs => simp [Event.decodeArgs?] at he
  | queue => simp [Event.decodeArgs?] at he
  | exportTo => simp [Event.decodeArgs?] at he
  | register => simp [Event.decodeArgs?] at he

/-- **Every decode goes into a buffer of the current era's size**, in every run that shrinks no
queued buffer. -/
theorem decodes_fit (h₀ : s₀.IsNew) (hcond : Along apply (fun s ev => ¬s.ShrinksDst ev) evs s₀) :
    Along apply DecodeFits evs s₀ := by
  have hnew : s₀.Inv ∧ s₀.QueuedFit := by
    refine ⟨inv_of_isNew h₀, ?_⟩
    obtain ⟨_, _, _, _, hnew⟩ := h₀
    obtain ⟨p, pr, d, rfl⟩ := new_ok hnew
    intro name buf era hbuf
    simp at hbuf
  intro pre ev post s hsplit hpre s' args happ hargs
  have hcond' : Along apply (fun s ev => ¬s.ShrinksDst ev) (pre ++ [ev]) s₀ := by
    rw [hsplit, ← List.singleton_append, ← List.append_assoc] at hcond
    exact hcond.of_append
  have hfit : s'.QueuedFit := by
    refine (visits_of_along (I := fun t => t.Inv ∧ t.QueuedFit) hnew ?_ hcond' (pre ++ [ev]) [] s'
      (by simp) (each_concat_ok.mpr ⟨s, hpre, happ⟩)).2
    rintro x t t' ⟨hinv, hfit⟩ hx happ'
    exact ⟨hinv.step (step_of_apply happ'), hfit.step hinv hx (step_of_apply happ')⟩
  obtain ⟨era, buf, hera, hbuf, hq⟩ := dst_queued_of_apply hargs happ
  exact ⟨era, buf, hera, hbuf, hfit args.dst buf era hbuf hq hera⟩

/-- Two key frames into one buffer. -/
def twiceRun : List Event := opening 1 ++ [keyFrame "A"] ++ [keyFrame "A"]

/-- The second key frame goes into a buffer of the era's size. -/
theorem twiceRun_fits : (endState twiceRun (ofPath .stock)).DstFits "A" := by
  have hrun : each apply twiceRun (ofPath .stock) = .ok () (endState twiceRun (ofPath .stock)) :=
    run_of_accepts (by decide +kernel)
  obtain ⟨s, hpre, happ⟩ := each_concat_ok.mp hrun
  refine decodes_fit (isNew_ofPath .stock) (along_of_forall fun ev hev s hshr => ?_)
    (opening 1 ++ [keyFrame "A"]) (keyFrame "A") [] s rfl hpre _ _ happ rfl
  revert hev
  cases ev with
  | «export» name backing => simp [opening, keyFrame]
  | _ => exact absurd hshr id

/-- A key frame, an export that leaves the buffer no backing, and a key frame into it. -/
def shrinkRun : List Event :=
  opening 1 ++ [keyFrame "A"] ++ [.export "A" (some 0)] ++ [keyFrame "A"]

/-- The second key frame goes into a buffer without backing. -/
theorem shrunk_dst_written : ¬∀ (s₀ s : Session) (evs : List Event), s₀.IsNew →
    each apply evs s₀ = .ok () s → Along apply DecodeFits evs s₀ := by
  intro hclaim
  have hrun : each apply shrinkRun (ofPath .stock) = .ok () (endState shrinkRun (ofPath .stock)) :=
    run_of_accepts (by decide +kernel)
  obtain ⟨s, hpre, happ⟩ := each_concat_ok.mp hrun
  obtain ⟨era, buf, hera, hbuf, hfits⟩ := hclaim _ _ _ (isNew_ofPath .stock) hrun
    (opening 1 ++ [keyFrame "A"] ++ [.export "A" (some 0)]) (keyFrame "A") [] s rfl hpre _ _ happ rfl
  have hshort : (endState shrinkRun (ofPath .stock)).currentEra = some ⟨0, 64, 64, 8⟩ ∧
      ((endState shrinkRun (ofPath .stock)).buffers.get? "A").map Buffer.backingBytes = some 0 := by
    decide +kernel
  obtain rfl := Option.some.inj (hera.symm.trans hshort.1)
  change (endState shrinkRun (ofPath .stock)).buffers.get? "A" = some buf at hbuf
  rw [hbuf, Option.map_some, Option.some.injEq] at hshort
  rw [hshort.2] at hfits
  exact absurd hfits (by decide +kernel)

end Session

end OmarchyM1Video.Vp9State
