import OmarchyM1Video.GstObserver.Requests

/-!
What a call with one decoder leaves of the others.

* `drain_rule`: what a round of the drain keeps, the drain keeps;
* `On`: the states differ only in one decoder, its requests and its buffers, with a lemma for each
  function;
* `requestQueue_cases`, `observerBegin_cases`: how these two calls end;
* `Drained`, `Inv.grant`, `Inv.release`: a request is leased and given back;
* `Known`: only decoders that exist have requests, and a lease is of a request of the decoder.
-/

namespace OmarchyM1Video.GstObserver

variable {s s' s'' : State} {d r p : ℕ}

/-! ### The drain -/

/-- The state after a round of the drain, and whether the head is done. -/
def round (s : State) (p : ℕ) (e : DrainEnv) : State × Bool :=
  let s₁ := requestRef s p
  let q := s₁.req p
  let (s₂, ret) :=
    if q.holdPicBuf || q.subRequest || e.late then (s₁, 0) else setDone s₁ p e.poll e.dequeued
  (requestUnref s₂ p, decide (0 < ret) && !(s₂.req p).pending && !(s₂.req p).failed)

lemma drain_nil : drain s d [] = if (s.dec d).pending = [] then s else setFailed s d := rfl

lemma drain_cons_of_nil {e : DrainEnv} {es : List DrainEnv} (h : (s.dec d).pending = []) :
    drain s d (e :: es) = s := by
  rw [drain, h]

lemma drain_cons {e : DrainEnv} {es : List DrainEnv} {rest : List ℕ}
    (h : (s.dec d).pending = p :: rest) :
    drain s d (e :: es) =
      if (round s p e).2 = true then drain (round s p e).1 d es
      else setFailed (round s p e).1 d := by
  rw [drain, h]
  dsimp only [round]
  split_ifs <;> rfl

lemma Inv.live_of_pending (h : Inv s) (hp : p ∈ (s.dec d).pending) : 0 < (s.req p).refCount := by
  have hrefs := h.refs p
  rw [(h.pending d p hp).1, holds, if_pos hp] at hrefs
  omega

lemma Inv.spare_zero (h : Inv s) (r : ℕ) : Spare s r 0 := h.refs r

/-- What the middle of a round does, from the state with the reference to the head. -/
lemma round_inv (h : Inv s) (hp : p ∈ (s.dec d).pending) (e : DrainEnv) : Inv (round s p e).1 := by
  have h₁ : Inv (requestRef s p) := h.requestRef (h.live_of_pending hp)
  have hspare : Spare (requestRef s p) p 1 := by
    have hs := requestRef_spare (p := p) (h.spare_zero p)
    rwa [if_pos rfl] at hs
  rw [round]
  split_ifs
  · exact h₁.requestUnref hspare
  · exact (h₁.setDone p e.poll e.dequeued).requestUnref (setDone_spare h₁ _ _ hspare)

lemma round_spare (h : Inv s) (hp : p ∈ (s.dec d).pending) (e : DrainEnv) {n : ℕ}
    (hr : Spare s r n) : Spare (round s p e).1 r n := by
  have h₁ : Inv (requestRef s p) := h.requestRef (h.live_of_pending hp)
  have hspare := requestRef_spare (p := p) hr
  rw [round]
  split_ifs
  · exact requestUnref_spare hspare
  · exact requestUnref_spare (setDone_spare h₁ _ _ hspare)

/-- **What a round and a failure keep, the drain keeps.** -/
lemma drain_rule {P : State → Prop} (hfail : ∀ s, Inv s → P s → P (setFailed s d))
    (hround : ∀ s p e, Inv s → p ∈ (s.dec d).pending → P s → P (round s p e).1) (h : Inv s)
    (hs : P s) (es : List DrainEnv) : Inv (drain s d es) ∧ P (drain s d es) := by
  induction es generalizing s with
  | nil =>
      rw [drain_nil]
      split_ifs
      · exact ⟨h, hs⟩
      · exact ⟨(setFailed_same s d).inv h, hfail s h hs⟩
  | cons e es ih =>
      cases hpending : (s.dec d).pending with
      | nil =>
          rw [drain_cons_of_nil hpending]
          exact ⟨h, hs⟩
      | cons p rest =>
          have hp : p ∈ (s.dec d).pending := by rw [hpending]; exact List.mem_cons_self
          have hinv := round_inv h hp e
          have hkept := hround s p e h hp hs
          rw [drain_cons hpending]
          split_ifs
          · exact ih hinv hkept
          · exact ⟨(setFailed_same _ d).inv hinv, hfail _ hinv hkept⟩

lemma drain_inv (h : Inv s) (es : List DrainEnv) : Inv (drain s d es) :=
  (drain_rule (P := fun _ => True) (fun _ _ _ => trivial) (fun _ _ _ _ _ _ => trivial) h trivial
    es).1

lemma drain_spare (h : Inv s) {n : ℕ} (hr : Spare s r n) (es : List DrainEnv) :
    Spare (drain s d es) r n :=
  (drain_rule (fun s _ hs => (setFailed_same s d).spare hs)
    (fun _ _ e hinv hp hs => round_spare hinv hp e hs) h hr es).2

/-- A drain that has not failed has taken all. -/
lemma drain_pending (es : List DrainEnv) (h : ((drain s d es).dec d).failed = false) :
    ((drain s d es).dec d).pending = [] := by
  have hfailed : ∀ s : State, ((setFailed s d).dec d).failed = true := fun s => by
    rw [setFailed, State.setDec_dec, Function.update_self]
  induction es generalizing s with
  | nil =>
      rw [drain_nil] at h ⊢
      split_ifs at h ⊢ with hpending
      · exact hpending
      · rw [hfailed] at h
        cases h
  | cons e es ih =>
      cases hpending : (s.dec d).pending with
      | nil =>
          rw [drain_cons_of_nil hpending]
          exact hpending
      | cons p rest =>
          rw [drain_cons hpending] at h ⊢
          split_ifs at h ⊢
          · exact ih h
          · rw [hfailed] at h
            cases h

/-! ### What a call with one decoder leaves alone -/

/-- A request has a generation while the generations last, and has not failed before it is submitted. -/
structure Fresh (next : ℕ) (q : Request) : Prop where
  generation : next ≠ 0 → q.generation ≠ 0
  unsubmitted : q.submitted = false → q.failed = false ∧ q.holdPicBuf = false

/-- This is so of every request in use. -/
def AllFresh (s : State) : Prop := ∀ r, 0 < (s.req r).refCount → Fresh s.next (s.req r)

/-- The states differ only in the decoder, its requests, and its buffers. It keeps its lease, and
has
written the lines. -/
structure On (d : ℕ) (lines : List Record) (s s' : State) : Prop where
  dec : ∀ d', d' ≠ d → s'.dec d' = s.dec d'
  live : (s'.dec d).live = (s.dec d).live
  lease : (s'.dec d).lease = (s.dec d).lease
  trace : (s'.dec d).trace = (s.dec d).trace ++ lines
  req : ∀ r, (s.req r).decoder ≠ d → 0 < (s.req r).refCount → s'.req r = s.req r
  used : ∀ r, 0 < (s'.req r).refCount → (s'.req r).decoder = d ∨
    0 < (s.req r).refCount ∧ (s'.req r).decoder = (s.req r).decoder
  alloc : ∀ a, (s.alloc a).live = true → (s.alloc a).decoder ≠ d → s'.alloc a = s.alloc a
  buf : ∀ b, (s.buf b).live = true → (s.alloc (s.buf b).alloc).live = true → s.bufDecoder b ≠ d →
    s'.buf b = s.buf b
  fresh : AllFresh s → AllFresh s'

variable {lines lines' : List Record}

lemma On.refl (d : ℕ) (s : State) : On d [] s s :=
  ⟨fun _ _ => rfl, rfl, rfl, (List.append_nil _).symm, fun _ _ _ => rfl, fun _ hr => .inr ⟨hr, rfl⟩,
    fun _ _ _ => rfl, fun _ _ _ _ => rfl, id⟩

/-- The lines of the one, and then those of the other. -/
lemma On.append (h : On d lines s s') (h' : On d lines' s' s'') : On d (lines ++ lines') s s'' where
  dec e he := (h'.dec e he).trans (h.dec e he)
  live := h'.live.trans h.live
  lease := h'.lease.trans h.lease
  trace := by rw [h'.trace, h.trace, List.append_assoc]
  req r hd hr := by
    have heq := h.req r hd hr
    rw [← heq] at hd hr
    exact (h'.req r hd hr).trans heq
  used r hr := by
    obtain hd | ⟨hr', hd⟩ := h'.used r hr
    · exact .inl hd
    · obtain hd' | ⟨hr'', hd'⟩ := h.used r hr'
      · exact .inl (hd.trans hd')
      · exact .inr ⟨hr'', hd.trans hd'⟩
  alloc a hlive hd := by
    have heq := h.alloc a hlive hd
    rw [← heq] at hlive hd
    exact (h'.alloc a hlive hd).trans heq
  buf b hlive halloc hd := by
    have heq := h.buf b hlive halloc hd
    have ha := h.alloc _ halloc hd
    refine (h'.buf b ?_ ?_ ?_).trans heq
    · rw [heq]
      exact hlive
    · rw [heq, ha]
      exact halloc
    · rw [State.bufDecoder, heq, ha]
      exact hd
  fresh hs := h'.fresh (h.fresh hs)

lemma On.trans (h : On d [] s s') (h' : On d lines s' s'') : On d lines s s'' := h.append h'

lemma On.before (h : On d lines s s') (h' : On d [] s' s'') : On d lines s s'' := by
  have happend := h.append h'
  rwa [List.append_nil] at happend

lemma On.write {x : Decoder} (hlive : x.live = (s.dec d).live) (hlease : x.lease = (s.dec d).lease)
    (htrace : x.trace = (s.dec d).trace ++ lines) : On d lines s (s.setDec d x) := by
  have hself : (s.setDec d x).dec d = x := by rw [State.setDec_dec, Function.update_self]
  refine ⟨fun d' hd => ?_, by rw [hself, hlive], by rw [hself, hlease], by rw [hself, htrace],
    fun _ _ _ => rfl, fun _ hr => .inr ⟨hr, rfl⟩, fun _ _ _ => rfl, fun _ _ _ _ => rfl, fun h => h⟩
  rw [State.setDec_dec, Function.update_of_ne hd]

lemma On.setDec {x : Decoder} (hlive : x.live = (s.dec d).live) (hlease : x.lease = (s.dec d).lease)
    (htrace : x.trace = (s.dec d).trace) : On d [] s (s.setDec d x) :=
  On.write hlive hlease (htrace.trans (List.append_nil _).symm)

lemma On.setReq {x : Request} (hr : (s.req r).decoder = d ∨ (s.req r).refCount = 0)
    (hx : x.decoder = d)
    (hfresh : 0 < x.refCount → (0 < (s.req r).refCount → Fresh s.next (s.req r)) → Fresh s.next x) :
    On d [] s (s.setReq r x) := by
  have hother : ∀ r', r' ≠ r → (s.setReq r x).req r' = s.req r' := fun r' hr' => by
    rw [State.setReq_req, Function.update_of_ne hr']
  refine { On.refl d s with
    req := fun r' hd hlive => ?_, used := fun r' hlive => ?_, fresh := fun hs r' hlive => ?_ }
  · refine hother r' ?_
    rintro rfl
    obtain hr | hr := hr
    · exact hd hr
    · omega
  · by_cases hr' : r' = r
    · rw [hr', State.setReq_req, Function.update_self]
      exact .inl hx
    · rw [hother r' hr'] at hlive ⊢
      exact .inr ⟨hlive, rfl⟩
  · by_cases hr' : r' = r
    · rw [hr', State.setReq_req, Function.update_self] at hlive ⊢
      exact hfresh hlive (hs r)
    · rw [hother r' hr'] at hlive ⊢
      exact hs r' hlive

lemma On.setBuf {b : ℕ} {x : CodecBuf} (hb : s.bufDecoder b = d ∨ (s.buf b).live = false) :
    On d [] s (s.setBuf b x) := by
  refine { On.refl d s with buf := fun b' hlive _ hd => ?_ }
  rw [State.setBuf_buf, Function.update_of_ne]
  rintro rfl
  obtain hb | hb := hb
  · exact hd hb
  · rw [hb] at hlive
    cases hlive

lemma On.setAlloc {a : ℕ} {x : Allocator} (ha : (s.alloc a).decoder = d ∨
    (s.alloc a).live = false) :
    On d [] s (s.setAlloc a x) := by
  refine { On.refl d s with alloc := fun a' hlive hd => ?_ }
  rw [State.setAlloc_alloc, Function.update_of_ne]
  rintro rfl
  obtain ha | ha := ha
  · exact hd ha
  · rw [ha] at hlive
    cases hlive

/-- A request of the decoder and the decoder change. -/
lemma On.reqDec {x : Request} {y : Decoder} (hr : (s.req r).decoder = d ∨ (s.req r).refCount = 0)
    (hx : x.decoder = d)
    (hfresh : 0 < x.refCount → (0 < (s.req r).refCount → Fresh s.next (s.req r)) → Fresh s.next x)
    (hlive : y.live = (s.dec d).live) (hlease : y.lease = (s.dec d).lease)
    (htrace : y.trace = (s.dec d).trace) : On d [] s ((s.setReq r x).setDec d y) :=
  (On.setReq hr hx hfresh).trans (On.setDec hlive hlease htrace)

lemma generate_next (h : s.generate.next ≠ 0) : s.next ≠ 0 := by
  rw [State.generate_next] at h
  intro hzero
  rw [if_pos hzero] at h
  exact h rfl

lemma AllFresh.generate (h : AllFresh s) : AllFresh s.generate := fun r hr =>
  ⟨fun hnext => (h r hr).generation (GstObserver.generate_next hnext), (h r hr).unsubmitted⟩

lemma On.generate (d : ℕ) (s : State) : On d [] s s.generate :=
  { On.refl d s with fresh := AllFresh.generate }

lemma observerBuffer_decoder {buffer : List Mem} {b : ℕ} (h : observerBuffer s buffer d = some b) :
    s.bufDecoder b = d := by
  rcases buffer with _ | ⟨⟨b', i⟩ | _ | _, rest⟩
  · cases h
  · rw [observerBuffer] at h
    split_ifs at h with hb
    cases h
    exact hb.1
  · cases h
  · cases h

lemma bufferWriter_on (s : State) (buffer : Option (List Mem)) (d writer : ℕ) (completed : Bool) :
    On d [] s (bufferWriter s buffer d writer completed) := by
  rw [bufferWriter]
  cases hbuf : buffer.bind fun buffer => observerBuffer s buffer d with
  | none => exact On.refl d s
  | some b =>
      obtain ⟨planes, -, hplanes⟩ := Option.bind_eq_some_iff.mp hbuf
      have hb : s.bufDecoder b = d := observerBuffer_decoder hplanes
      dsimp only
      split_ifs
      · exact On.setBuf (.inl hb)
      · exact On.refl d s
      · exact On.setBuf (.inl hb)

lemma setFailed_on (s : State) (d : ℕ) : On d [] s (setFailed s d) := On.setDec rfl rfl rfl

/-- The lines that `gst_hevc_observer_trace` writes. -/
def traceLines (s : State) (r : ℕ) : List Record :=
  let d := (s.req r).decoder
  if (s.dec d).session = 0 then []
  else
    match observerSelection s d r with
    | none => []
    | some (target, frame, index, _) =>
        [⟨(s.dec d).run, (s.dec d).generation, target.allocation, target.request, target.writer,
          frame, index⟩]

lemma observerTrace_on (s : State) (hr : (s.req r).decoder = d) :
    On d (traceLines s r) s (observerTrace s r) := by
  rw [observerTrace, traceLines, hr]
  dsimp only
  split_ifs
  · exact On.refl d s
  · cases observerSelection s d r with
    | none => exact On.refl d s
    | some found => exact On.write rfl rfl rfl

lemma requestRef_on (hr : (s.req r).decoder = d) (hlive : 0 < (s.req r).refCount) :
    On d [] s (requestRef s r) :=
  On.setReq (.inl hr) hr fun _ h => ⟨(h hlive).generation, (h hlive).unsubmitted⟩

lemma requestUnref_on (hr : (s.req r).decoder = d) : On d [] s (requestUnref s r) := by
  rw [requestUnref]
  dsimp only
  split_ifs with hmore
  · exact On.setReq (.inl hr) hr fun _ h =>
      ⟨(h (by omega)).generation, (h (by omega)).unsubmitted⟩
  · exact On.setReq (.inl hr) hr fun hzero => absurd hzero (Nat.lt_irrefl 0)
  · rw [hr, ← State.setReq_setDec]
    exact On.reqDec (.inl hr) rfl (fun hzero => absurd hzero (Nat.lt_irrefl 0)) rfl rfl rfl

lemma retire_on (hp : (s.req p).decoder = d) (hsub : (s.req p).submitted = true) (rest : List ℕ) (e : Dequeued) :
    On d [] s (retire s d p rest e) := by
  rw [retire]
  generalize dequeueFails s (s.req p) e = failed
  have hreq : On d [] s (s.setReq p ((s.req p).retired failed)) :=
    On.setReq (.inl hp) hp fun hpos h =>
      ⟨(h hpos).generation, fun hnot => absurd (hsub.symm.trans hnot) (by decide)⟩
  have hdec : On d [] (s.setReq p ((s.req p).retired failed))
      ((s.setReq p ((s.req p).retired failed)).setDec d ((s.dec d).retireHead rest failed)) :=
    On.setDec rfl rfl rfl
  generalize hs₁ : (s.setReq p ((s.req p).retired failed)).setDec d
    ((s.dec d).retireHead rest failed) = s₁ at hdec ⊢
  have hp₁ : (s₁.req p).decoder = d := by
    rw [← hs₁, State.setDec_req, State.setReq_req, Function.update_self]
    exact hp
  have hwriter : On d [] s₁ (if !failed && !(s.req p).holdPicBuf then
      bufferWriter s₁ (s.req p).picBuf d (s.req p).writer true else s₁) := by
    split_ifs
    · exact bufferWriter_on _ _ _ _ _
    · exact On.refl d s₁
  have hsame : SameAccounts s₁ (if !failed && !(s.req p).holdPicBuf then
      bufferWriter s₁ (s.req p).picBuf d (s.req p).writer true else s₁) := by
    split_ifs
    · exact bufferWriter_same _ _ _ _ _
    · exact SameAccounts.refl _
  exact ((hreq.trans hdec).trans hwriter).trans (requestUnref_on ((hsame.decoder p).trans hp₁))

lemma retireUntil_on (h : Inv s) (pending : List ℕ) (hpending : (s.dec d).pending = pending)
    (es : List Dequeued) : On d [] s (retireUntil s d r pending es) := by
  induction pending generalizing s es with
  | nil => exact On.refl d s
  | cons p rest ih =>
      obtain ⟨hp, hsub⟩ := h.pending d p (by rw [hpending]; exact List.mem_cons_self)
      obtain ⟨hinv, hrest⟩ := h.retire hpending (es.headD {})
      rw [retireUntil]
      split_ifs
      · exact retire_on hp hsub rest _
      · exact (retire_on hp hsub rest _).trans (ih hinv hrest _)

lemma setDone_on (h : Inv s) (r : ℕ) (poll : Poll) (es : List Dequeued) :
    On (s.req r).decoder [] s (setDone s r poll es).1 := by
  cases poll with
  | timeout =>
      simp only [setDone]
      split_ifs <;> exact On.refl _ s
  | error =>
      simp only [setDone]
      split_ifs <;> exact On.refl _ s
  | ready =>
      simp only [setDone]
      split_ifs
      · exact On.refl _ s
      · exact On.refl _ s
      · exact retireUntil_on h _ rfl es

lemma dropPending_on (h : Inv s) (cancel : Bool) (pending : List ℕ)
    (hpending : (s.dec d).pending = pending) : On d [] s (dropPending s d cancel pending) := by
  induction pending generalizing s with
  | nil => exact On.refl d s
  | cons p rest ih =>
      have hpd := (h.pending d p (by simp [hpending])).1
      have hp : ((s.req p).cancelled cancel).decoder = d := hpd
      have hpop := h.pop hpending (x := (s.req p).cancelled cancel)
        (y := { s.dec d with pending := rest }) rfl rfl rfl rfl rfl rfl rfl rfl rfl fun _ => rfl
      have hon : On d [] s ((s.setReq p ((s.req p).cancelled cancel)).setDec d
          { s.dec d with pending := rest }) := On.reqDec (.inl hpd) hp
        (fun hpos h => ⟨(h hpos).generation, (h hpos).unsubmitted⟩) rfl rfl rfl
      rw [dropPending]
      dsimp only
      generalize hs₁ : (s.setReq p ((s.req p).cancelled cancel)).setDec d
        { s.dec d with pending := rest } = s₁ at hpop hon ⊢
      have hreq : s₁.req p = (s.req p).cancelled cancel := by
        rw [← hs₁, State.setDec_req, State.setReq_req, Function.update_self]
      have hdec : s₁.dec d = { s.dec d with pending := rest } := by
        rw [← hs₁, State.setDec_dec, Function.update_self]
      refine hon.trans ((requestUnref_on (by rw [hreq, hp])).trans
        (ih (hpop.1.requestUnref ?_) ?_))
      · rw [hreq, hp, hdec]
        exact hpop.2
      · rw [requestUnref_pending, hdec]

lemma round_on (h : Inv s) (hp : p ∈ (s.dec d).pending)
    (e : DrainEnv) : On d [] s (round s p e).1 := by
  have hpd := (h.pending d p hp).1
  have h₁ : Inv (requestRef s p) := h.requestRef (h.live_of_pending hp)
  have href : On d [] s (requestRef s p) := requestRef_on hpd (h.live_of_pending hp)
  have hpd₁ : ((requestRef s p).req p).decoder = d := by
    rw [requestRef, State.setReq_req, Function.update_self]
    exact hpd
  rw [round]
  split_ifs
  · exact href.trans (requestUnref_on hpd₁)
  · have hdone := setDone_on h₁ p e.poll e.dequeued
    rw [hpd₁] at hdone
    refine (href.trans hdone).trans (requestUnref_on ?_)
    have hspare : Spare (setDone (requestRef s p) p e.poll e.dequeued).1 p 1 := by
      refine setDone_spare h₁ _ _ ?_
      have hs := requestRef_spare (p := p) (h.spare_zero p)
      rwa [if_pos rfl] at hs
    obtain hd | ⟨-, hd⟩ := hdone.used p (by rw [Spare] at hspare; omega)
    · exact hd
    · rw [hd, hpd₁]

lemma drain_on (h : Inv s) (es : List DrainEnv) : On d [] s (drain s d es) :=
  (drain_rule (P := On d [] s) (fun s' _ hs => hs.trans (setFailed_on s' d))
    (fun _ _ e hinv hp hs => hs.trans (round_on hinv hp e)) h (On.refl d s) es).2

/-- The state in which `gst_v4l2_request_queue` calls `gst_hevc_observer_trace`. -/
def submitting (s : State) (r : ℕ) : State :=
  bufferWriter ((s.setReq r { s.req r with submitted := true, writer := s.next }).setDec
      (s.req r).decoder
      { s.dec (s.req r).decoder with
        unqueued := (s.dec (s.req r).decoder).unqueued - 1
        submitted := (s.dec (s.req r).decoder).submitted + 1 }).generate
    (s.req r).picBuf (s.req r).decoder s.next false

lemma submit_on (hlive : 0 < (s.req r).refCount) (hold : Bool) :
    On (s.req r).decoder (traceLines (submitting s r) r) s (submit s r hold) := by
  have heq : submit s r hold =
      ((observerTrace (submitting s r) r).setReq r
        { (observerTrace (submitting s r) r).req r with
          refCount := ((observerTrace (submitting s r) r).req r).refCount + 1, pending := true
          holdPicBuf := ((observerTrace (submitting s r) r).req r).holdPicBuf || hold }).setDec
        (s.req r).decoder
        { (observerTrace (submitting s r) r).dec (s.req r).decoder with
          pending := ((observerTrace (submitting s r) r).dec (s.req r).decoder).pending ++ [r] } :=
    rfl
  generalize hs₁ : ((s.setReq r { s.req r with submitted := true, writer := s.next }).setDec
    (s.req r).decoder
    { s.dec (s.req r).decoder with
      unqueued := (s.dec (s.req r).decoder).unqueued - 1
      submitted := (s.dec (s.req r).decoder).submitted + 1 }) = s₁
  have h₁ : On (s.req r).decoder [] s s₁ := by
    rw [← hs₁]
    exact On.reqDec (.inl rfl) rfl
      (fun _ h => ⟨(h hlive).generation, fun hnot => absurd hnot (by simp)⟩) rfl rfl rfl
  have hr₁ : (s₁.req r).decoder = (s.req r).decoder := by
    rw [← hs₁, State.setDec_req, State.setReq_req, Function.update_self]
  have hs₂ : submitting s r =
      bufferWriter s₁.generate (s.req r).picBuf (s.req r).decoder s.next false := by
    rw [submitting, hs₁]
  have hsame := (SameAccounts.generate s₁).trans
    (bufferWriter_same s₁.generate (s.req r).picBuf (s.req r).decoder s.next false)
  rw [← hs₂] at hsame
  have h₂ : On (s.req r).decoder [] s (submitting s r) := by
    rw [hs₂]
    exact (h₁.trans (On.generate _ _)).trans (bufferWriter_on _ _ _ _ _)
  have hr₂ := (hsame.decoder r).trans hr₁
  have hr₃ := ((observerTrace_same _ r).decoder r).trans hr₂
  rw [heq]
  refine h₂.trans ((observerTrace_on _ hr₂).before ?_)
  have hsub₃ : ((observerTrace (submitting s r) r).req r).submitted = true := by
    rw [(observerTrace_same _ r).submitted, hsame.submitted, ← hs₁, State.setDec_req,
      State.setReq_req, Function.update_self]
  have hlive₃ : 0 < ((observerTrace (submitting s r) r).req r).refCount := by
    rw [(observerTrace_same _ r).refCount, hsame.refCount, ← hs₁, State.setDec_req,
      State.setReq_req, Function.update_self]
    exact hlive
  exact On.reqDec (.inl hr₃) hr₃ (fun _ h => ⟨(h hlive₃).generation,
    fun hnot => absurd (hsub₃.symm.trans hnot) (by decide)⟩) rfl rfl rfl

/-! ### The accounts -/

lemma Inv.generate (h : Inv s) : Inv s.generate := (SameAccounts.generate s).inv h

lemma unlessBusy_inv (h : Inv s) {f : Decoder → Decoder} {ok : Bool}
    (hf : ∀ x, (f x).pending = x.pending ∧ (f x).unqueued = x.unqueued ∧ (f x).lease = x.lease ∧
      (f x).request = x.request ∧ (f x).ending = x.ending ∧ (f x).session = x.session) :
    Inv (unlessBusy s d f ok).1 := by
  rw [unlessBusy]
  split_ifs
  · exact h
  · obtain ⟨hpending, hunqueued, hlease, hrequest, hending, hsession⟩ := hf (s.dec d)
    exact (SameAccounts.setDec hpending hunqueued hlease hrequest hending fun _ => hsession).inv h

lemma unlessBusy_on {f : Decoder → Decoder} {ok : Bool}
    (hf : ∀ x, (f x).live = x.live ∧ (f x).lease = x.lease ∧
        (f x).trace = x.trace) : On d [] s (unlessBusy s d f ok).1 := by
  rw [unlessBusy]
  split_ifs
  · exact On.refl d s
  · exact On.setDec (hf _).1 (hf _).2.1 (hf _).2.2

lemma reconfigured_fields (x : Decoder) :
    x.reconfigured.pending = x.pending ∧ x.reconfigured.unqueued = x.unqueued ∧
      x.reconfigured.lease = x.lease ∧ x.reconfigured.request = x.request ∧
      x.reconfigured.ending = x.ending ∧ x.reconfigured.session = x.session := by
  rw [Decoder.reconfigured]
  split_ifs <;> exact ⟨rfl, rfl, rfl, rfl, rfl, rfl⟩

lemma reconfigured_live (x : Decoder) :
    x.reconfigured.live = x.live ∧ x.reconfigured.lease = x.lease ∧
      x.reconfigured.trace = x.trace := by
  rw [Decoder.reconfigured]
  split_ifs <;> exact ⟨rfl, rfl, rfl⟩

/-- A decoder changes, and its pending requests are taken away. -/
lemma dropPending_setDec (h : Inv s) {x : Decoder} (hpending : x.pending = (s.dec d).pending)
    (hunqueued : x.unqueued = (s.dec d).unqueued) (hlease : x.lease = (s.dec d).lease)
    (hrequest : x.request = (s.dec d).request) (hending : x.ending = (s.dec d).ending)
    (hsession : x.lease ≠ 0 → x.session = (s.dec d).session) (hlive : x.live = (s.dec d).live)
    (htrace : x.trace = (s.dec d).trace) (cancel : Bool) :
    Inv (dropPending (s.setDec d x) d cancel (s.dec d).pending) ∧
      On d [] s (dropPending (s.setDec d x) d cancel (s.dec d).pending) := by
  have h₁ := (SameAccounts.setDec hpending hunqueued hlease hrequest hending hsession).inv h
  have hself : ((s.setDec d x).dec d).pending = (s.dec d).pending := by
    rw [State.setDec_dec, Function.update_self, hpending]
  exact ⟨h₁.dropPending cancel _ hself, (On.setDec hlive hlease htrace).trans
    (dropPending_on h₁ cancel _ hself)⟩

/-- The decoder that is closed. -/
def Decoder.closed (x : Decoder) : Decoder :=
  { x with retired := true, session := 0, owner := none, opened := false }

lemma decoderClose_eq (s : State) (d : ℕ) :
    decoderClose s d =
      if (s.dec d).busy then (s, false)
      else (dropPending (s.setDec d (s.dec d).closed) d false (s.dec d).pending, true) := rfl

lemma decoderClose_accounts (h : Inv s) (d : ℕ) :
    Inv (decoderClose s d).1 ∧ On d [] s (decoderClose s d).1 := by
  rw [decoderClose_eq]
  split_ifs with hbusy
  · exact ⟨h, On.refl d s⟩
  · have hfree := Decoder.lease_of_not_busy (Bool.eq_false_iff.mpr hbusy)
    dsimp only
    exact dropPending_setDec (x := (s.dec d).closed) h rfl rfl rfl rfl rfl
      (fun hl => absurd hfree hl) rfl rfl false

/-- The decoder with a queue that is off. -/
def Decoder.stopped (x : Decoder) (src : Bool) : Decoder :=
  { x with
    retired := true
    streamingSrc := x.streamingSrc && !src
    streamingSink := x.streamingSink && src }

lemma streamoff_eq (s : State) (d : ℕ) (src ok : Bool) :
    streamoff s d src ok =
      if (s.dec d).busy then (s, false)
      else
        (if src then dropPending (s.setDec d ((s.dec d).stopped src)) d true (s.dec d).pending
          else s.setDec d ((s.dec d).stopped src), ok) := rfl

lemma streamoff_accounts (h : Inv s) (d : ℕ) (src ok : Bool) :
    Inv (streamoff s d src ok).1 ∧ On d [] s (streamoff s d src ok).1 := by
  rw [streamoff_eq]
  by_cases hbusy : (s.dec d).busy = true
  · rw [if_pos hbusy]
    exact ⟨h, On.refl d s⟩
  rw [if_neg hbusy]
  dsimp only
  by_cases hsrc : src = true
  · rw [if_pos hsrc]
    exact dropPending_setDec (x := (s.dec d).stopped src) h rfl rfl rfl rfl rfl (fun _ => rfl) rfl
      rfl true
  · rw [if_neg hsrc]
    have hsame : SameAccounts s (s.setDec d ((s.dec d).stopped src)) :=
      SameAccounts.setDec rfl rfl rfl rfl rfl fun _ => rfl
    exact ⟨hsame.inv h, On.setDec rfl rfl rfl⟩

lemma publishMem_on {m : Mem} (h : ∀ b i, m = .plane b i → s.bufDecoder b = d) :
    On d [] s (publishMem s m) := by
  cases m with
  | plane b i => exact On.setBuf (.inl (h b i rfl))
  | share parent => exact On.refl d s
  | foreign => exact On.refl d s

lemma Inv.bufferNew (h : Inv s) (b a index : ℕ) (sizes : List ℕ) :
    Inv (bufferNew s b a index sizes).1 := by
  rw [GstObserver.bufferNew]
  split_ifs with hguard
  · exact h
  · simp only [Bool.or_eq_true, Bool.not_eq_true', not_or] at hguard
    refine Inv.generate
      { h with bufLive := fun b' hb' => ?_, allocLive := fun b' hb' => ?_ }
    · by_cases hb : b' = b
      · rw [hb, State.setBuf_buf, Function.update_self]
      · rw [State.setBuf_buf, Function.update_of_ne hb] at hb' ⊢
        exact h.bufLive b' hb'
    · by_cases hb : b' = b
      · rw [hb, State.setBuf_buf, Function.update_self]
        exact Bool.not_eq_false _ ▸ hguard.1.2
      · rw [State.setBuf_buf, Function.update_of_ne hb] at hb' ⊢
        exact h.allocLive b' hb'

lemma bufferNew_on {b a index : ℕ} {sizes : List ℕ} :
    On d [] s (bufferNew s b a index sizes).1 := by
  rw [bufferNew]
  split_ifs with hguard
  · exact On.refl d s
  · simp only [Bool.or_eq_true, Bool.not_eq_true', not_or] at hguard
    exact (On.setBuf (.inr (Bool.eq_false_iff.mpr hguard.1.1))).trans (On.generate d _)

lemma Inv.allocatorNew (h : Inv s) (a d : ℕ) (src : Bool) : Inv (allocatorNew s a d src).1 := by
  rw [GstObserver.allocatorNew]
  split_ifs
  · exact h
  · refine { h with allocLive := fun b hb => ?_ }
    by_cases ha : (s.buf b).alloc = a
    · rw [State.setAlloc_buf, State.setAlloc_alloc, ha, Function.update_self]
    · rw [State.setAlloc_buf, State.setAlloc_alloc, Function.update_of_ne ha]
      exact h.allocLive b hb

lemma allocatorNew_on {a : ℕ} {src : Bool} (e : ℕ) : On e [] s (allocatorNew s a d src).1 := by
  rw [allocatorNew]
  split_ifs with hlive
  · exact On.refl e s
  · exact On.setAlloc (.inr (Bool.eq_false_iff.mpr hlive))

lemma Inv.allocatorDetach (h : Inv s) (a : ℕ) : Inv (allocatorDetach s a).1 := by
  rw [GstObserver.allocatorDetach]
  split_ifs
  · exact h
  · refine { h with allocLive := fun b hb => ?_ }
    by_cases ha : (s.buf b).alloc = a
    · rw [State.setAlloc_buf, State.setAlloc_alloc, ha, Function.update_self]
      exact ha ▸ h.allocLive b hb
    · rw [State.setAlloc_buf, State.setAlloc_alloc, Function.update_of_ne ha]
      exact h.allocLive b hb

lemma allocatorDetach_on (a : ℕ) : On (s.alloc a).decoder [] s (allocatorDetach s a).1 := by
  rw [allocatorDetach]
  split_ifs
  · exact On.refl _ s
  · exact On.setAlloc (.inl rfl)

lemma memoryMap_cases (s : State) (m : Mem) :
    (memoryMap s m).1 = s ∨
      ∃ b, (s.dec (s.bufDecoder b)).busy = false ∧ (memoryMap s m).1 = publishBuf s b := by
  rw [memoryMap]
  cases m.root with
  | none => exact .inl rfl
  | some b =>
      dsimp only
      split_ifs with hsrc hbusy
      · exact .inl rfl
      · exact .inl rfl
      · exact .inr ⟨b, Bool.eq_false_iff.mpr hbusy, rfl⟩

lemma publishBuf_same (s : State) (b : ℕ) : SameAccounts s (publishBuf s b) :=
  SameAccounts.setBuf rfl rfl rfl

lemma Inv.allocRequest (h : Inv s) (d r frame bitstream : ℕ) (picBuf : List Mem) :
    Inv (allocRequest s d r frame bitstream picBuf).1 := by
  rw [GstObserver.allocRequest]
  split_ifs with hguard
  · exact h
  · simp only [Bool.or_eq_true, bne_iff_ne, not_or, Bool.not_eq_true, not_not] at hguard
    refine Inv.generate ?_
    exact h.allocate hguard.1 hguard.2 rfl rfl rfl rfl rfl rfl rfl rfl rfl

lemma allocRequest_on {frame bitstream : ℕ} {picBuf : List Mem} :
    On d [] s (allocRequest s d r frame bitstream picBuf).1 := by
  rw [allocRequest]
  split_ifs with hguard
  · exact On.refl d s
  · simp only [Bool.or_eq_true, bne_iff_ne, not_or, Bool.not_eq_true, not_not] at hguard
    refine On.trans ?_ (On.generate d _)
    exact On.reqDec (.inr hguard.2) rfl (fun _ _ => ⟨id, fun _ => ⟨rfl, rfl⟩⟩) rfl rfl rfl

lemma Inv.allocSubRequest (h : Inv s) (d r prev bitstream : ℕ) :
    Inv (allocSubRequest s d r prev bitstream).1 := by
  rw [GstObserver.allocSubRequest]
  split_ifs with hguard
  · exact h
  · simp only [Bool.or_eq_true, bne_iff_ne, not_or, Bool.not_eq_true, not_not] at hguard
    refine Inv.generate ?_
    exact h.allocate hguard.1 hguard.2 rfl rfl rfl rfl rfl rfl rfl rfl rfl

lemma allocSubRequest_on {prev bitstream : ℕ} : On d [] s (allocSubRequest s d r prev bitstream).1
    := by
  rw [allocSubRequest]
  split_ifs with hguard
  · exact On.refl d s
  · simp only [Bool.or_eq_true, bne_iff_ne, not_or, Bool.not_eq_true, not_not] at hguard
    refine On.trans ?_ (On.generate d _)
    exact On.reqDec (.inr hguard.2) rfl (fun _ _ => ⟨id, fun _ => ⟨rfl, rfl⟩⟩) rfl rfl rfl

/-- The state when the old writer is not valid any more. -/
def invalidated (s : State) (r : ℕ) (hold : Bool) : State :=
  bufferWriter
    (if hold then s.setDec (s.req r).decoder { s.dec (s.req r).decoder with partialHistory := true }
      else s)
    (s.req r).picBuf (s.req r).decoder 0 false

lemma invalidated_same (s : State) (r : ℕ)
    (hold : Bool) : SameAccounts s (invalidated s r hold) := by
  refine SameAccounts.trans ?_ (bufferWriter_same _ _ _ _ _)
  split_ifs
  · exact SameAccounts.setDec rfl rfl rfl rfl rfl fun _ => rfl
  · exact SameAccounts.refl s

lemma invalidated_on (s : State) (r : ℕ) (hold : Bool) :
    On (s.req r).decoder [] s (invalidated s r hold) := by
  refine On.trans ?_ (bufferWriter_on _ _ _ _ _)
  split_ifs
  · exact On.setDec rfl rfl rfl
  · exact On.refl _ s

/-- What `gst_v4l2_request_queue` asks of the request in a session. -/
structure Admissible (s : State) (r : ℕ) (hold : Bool) : Prop where
  pending : (s.req r).pending = false
  submitted : (s.req r).submitted = false
  failed : (s.dec (s.req r).decoder).failed = false
  subRequest : (s.req r).subRequest = false
  hold : hold = false
  buffer : ((s.req r).picBuf.bind fun buffer => observerBuffer s buffer (s.req r).decoder) ≠ none

/-- How a call of `gst_v4l2_request_queue` ends: refused, failed, or with the request submitted. -/
lemma requestQueue_cases (s : State) (r : ℕ) (e : QueueEnv) :
    requestQueue s r e = (s, false) ∨
      ((s.dec (s.req r).decoder).busy = false ∧
        ((s.dec (s.req r).decoder).session ≠ 0 → Admissible s r e.hold) ∧
        (requestQueue s r e = (invalidated s r e.hold, false) ∨
          requestQueue s r e = (setFailed (invalidated s r e.hold) (s.req r).decoder, false) ∨
          ((s.req r).submitted = false ∧
            requestQueue s r e = (submit (invalidated s r e.hold) r e.hold, true)))) := by
  by_cases hbusy : (s.dec (s.req r).decoder).busy = true
  · exact .inl (if_pos hbusy)
  by_cases hused : (s.dec (s.req r).decoder).session ≠ 0 ∧ ((s.req r).pending ||
      (s.req r).submitted || (s.dec (s.req r).decoder).failed) = true
  · exact .inl (by rw [requestQueue]; dsimp only; rw [if_neg hbusy, if_pos hused])
  by_cases hpart : (s.dec (s.req r).decoder).session ≠ 0 ∧
      ((s.req r).subRequest || e.hold) = true
  · exact .inl (by rw [requestQueue]; dsimp only; rw [if_neg hbusy, if_neg hused, if_pos hpart])
  by_cases hbuffer : (s.dec (s.req r).decoder).session ≠ 0 ∧
      ((s.req r).picBuf.bind fun buffer => observerBuffer s buffer (s.req r).decoder) = none
  · exact .inl (by
      rw [requestQueue]; dsimp only; rw [if_neg hbusy, if_neg hused, if_neg hpart, if_pos hbuffer])
  refine .inr ⟨Bool.eq_false_iff.mpr hbusy, fun hsession => ?_, ?_⟩
  · simp only [hsession, ne_eq, not_false_eq_true, true_and, Bool.or_eq_true, not_or,
      Bool.not_eq_true] at hused hpart hbuffer
    exact ⟨hused.1.1, hused.1.2, hused.2, hpart.1, hpart.2, hbuffer⟩
  · have heq : requestQueue s r e =
        if (e.hold && !e.holdSupported) = true then (invalidated s r e.hold, false)
        else if (!e.sinkOk) = true then
          (setFailed (invalidated s r e.hold) (s.req r).decoder, false)
        else if (!(s.req r).subRequest && !e.srcOk) = true then
          (setFailed (invalidated s r e.hold) (s.req r).decoder, false)
        else if ((s.req r).submitted || !e.queueOk) = true then
          (setFailed (invalidated s r e.hold) (s.req r).decoder, false)
        else (submit (invalidated s r e.hold) r e.hold, true) := by
      rw [requestQueue]
      dsimp only
      rw [if_neg hbusy, if_neg hused, if_neg hpart, if_neg hbuffer]
      rfl
    rw [heq]
    split_ifs with h₁ h₂ h₃ h₄
    · exact .inl rfl
    · exact .inr (.inl rfl)
    · exact .inr (.inl rfl)
    · exact .inr (.inl rfl)
    · simp only [Bool.or_eq_true, not_or, Bool.not_eq_true] at h₄
      exact .inr (.inr ⟨h₄.1, rfl⟩)

lemma Inv.requestQueue (h : Inv s) (howned : 0 < (s.req r).owned) (e : QueueEnv) :
    Inv (requestQueue s r e).1 := by
  have hsame := invalidated_same s r e.hold
  obtain heq | ⟨-, -, heq | heq | ⟨hsub, heq⟩⟩ := requestQueue_cases s r e
  · rw [heq]
    exact h
  · rw [heq]
    exact hsame.inv h
  · rw [heq]
    exact (setFailed_same _ _).inv (hsame.inv h)
  · rw [heq]
    refine (hsame.inv h).submit ?_ ?_ e.hold
    · have hrefs := h.refs r
      rw [hsame.refCount]
      omega
    · rw [hsame.submitted, hsub]

/-- The lines that a call of `gst_v4l2_request_queue` writes. -/
def queueLines (s : State) (r : ℕ) (e : QueueEnv) : List Record :=
  if (requestQueue s r e).2 then traceLines (submitting (invalidated s r e.hold) r) r else []

lemma requestQueue_on (hlive : 0 < (s.req r).refCount) (e : QueueEnv) :
    On (s.req r).decoder (queueLines s r e) s (requestQueue s r e).1 := by
  have hon := invalidated_on s r e.hold
  obtain heq | ⟨-, -, heq | heq | ⟨-, heq⟩⟩ := requestQueue_cases s r e
  · rw [queueLines, heq]
    exact On.refl _ s
  · rw [queueLines, heq]
    exact hon
  · rw [queueLines, heq]
    exact hon.trans (setFailed_on _ _)
  · have hlive' : 0 < ((invalidated s r e.hold).req r).refCount := by
      rw [(invalidated_same s r e.hold).refCount]
      exact hlive
    have hsubmit := submit_on hlive' e.hold
    rw [(invalidated_same s r e.hold).decoder] at hsubmit
    rw [queueLines, heq]
    exact hon.trans hsubmit

/-! ### The observer -/

lemma Inv.observerOpen (h : Inv s) (d th : ℕ) (lock : Bool) : Inv (observerOpen s d th lock).1 := by
  rw [GstObserver.observerOpen]
  dsimp only
  split_ifs with hopen hnext
  · exact h.generate
  · have hfree := Decoder.lease_of_not_busy hopen.2.2.2.2.2.2.2.2
    refine Inv.generate (SameAccounts.inv ?_ h)
    exact SameAccounts.setDec rfl rfl rfl rfl rfl fun hl => absurd hfree hl
  · exact h

lemma observerOpen_on (th : ℕ) (lock : Bool) : On d [] s (observerOpen s d th lock).1 := by
  rw [observerOpen]
  dsimp only
  split_ifs
  · exact On.generate d s
  · refine On.trans ?_ (On.generate d _)
    exact On.setDec rfl rfl rfl
  · exact On.refl d s

lemma Inv.observerClose (h : Inv s) (d : ℕ) (session : Session) (th : ℕ) (lock : Bool) :
    Inv (observerClose s d session th lock).1 := by
  rw [GstObserver.observerClose]
  split_ifs with hclose
  · have hfree := Decoder.lease_of_not_busy hclose.2.2
    refine SameAccounts.inv ?_ h
    exact SameAccounts.setDec rfl rfl rfl rfl rfl fun hl => absurd hfree hl
  · exact h

lemma observerClose_on (session : Session) (th : ℕ) (lock : Bool) :
    On d [] s (observerClose s d session th lock).1 := by
  rw [observerClose]
  split_ifs
  · exact On.setDec rfl rfl rfl
  · exact On.refl d s

/-- What `gst_hevc_observer_begin` asks for. -/
structure Asked (s : State) (d : ℕ) (session : Session) (r : ℕ) (target : Target)
    (th : ℕ) : Prop where
  valid : sessionValid s d session th = true
  observable : (s.dec d).observable
  selected : (observerSelection s d r).map (·.1) = some target

lemma observerSelection_decoder {found : Target × ℕ × ℕ × List ℕ}
    (h : observerSelection s d r = some found) : (s.req r).decoder = d := by
  rw [observerSelection] at h
  split_ifs at h with hq
  · exact hq.1

lemma Asked.decoder {session : Session} {target : Target} {th : ℕ}
    (h : Asked s d session r target th) : (s.req r).decoder = d := by
  obtain ⟨found, hfound, -⟩ := Option.map_eq_some_iff.mp h.selected
  exact observerSelection_decoder hfound

lemma sessionValid_session {session : Session} {th : ℕ} (h : sessionValid s d session th = true) :
    (s.dec d).session ≠ 0 := by
  simp only [sessionValid, Bool.and_eq_true, bne_iff_ne, beq_iff_eq] at h
  obtain ⟨⟨⟨⟨hne, heq⟩, -⟩, -⟩, -⟩ := h
  exact heq ▸ hne

/-- The drain of a call of `gst_hevc_observer_begin`. -/
def drained (s : State) (d r : ℕ) (rounds : List DrainEnv) : State :=
    drain (requestRef s r) d rounds

/-- How a call of `gst_hevc_observer_begin` ends: refused, given up after the drain, or with a
lease. -/
lemma observerBegin_cases (s : State) (d : ℕ) (session : Session) (r : ℕ) (target : Target) (th : ℕ)
    (e : BeginEnv) :
    observerBegin s d session r target th e = (s, none) ∨
      (Asked s d session r target th ∧
        (observerBegin s d session r target th e = (requestUnref (drained s d r e.rounds) r, none) ∨
          observerBegin s d session r target th e =
            (requestUnref (drained s d r e.rounds).generate r, none) ∨
          ∃ found, observerSelection (drained s d r e.rounds) d r = some found ∧
            ((drained s d r e.rounds).dec d).failed = false ∧
            ((drained s d r e.rounds).dec d).completed = ((drained s d r e.rounds).dec d).submitted
                ∧
            ((drained s d r e.rounds).req r).completed = target.writer ∧
            (drained s d r e.rounds).next ≠ 0 ∧
            observerBegin s d session r target th e =
              ((grant (drained s d r e.rounds) d r found).1,
                some (grant (drained s d r e.rounds) d r found).2))) := by
  rw [observerBegin]
  split_ifs with hasked
  · refine .inr ⟨⟨hasked.2.1, hasked.2.2.1, hasked.2.2.2⟩, ?_⟩
    rw [drained]
    dsimp only
    cases hfound : observerSelection (drain (requestRef s r) d e.rounds) d r with
    | none => exact .inl rfl
    | some found =>
        dsimp only
        split_ifs with hbad hnext
        · exact .inl rfl
        · exact .inr (.inl rfl)
        · simp only [Bool.or_eq_true, bne_iff_ne, not_or, Bool.not_eq_true, not_not] at hbad
          exact .inr (.inr ⟨found, rfl, hbad.1.1.1, hbad.1.1.2, hbad.1.2, hnext, rfl⟩)
  · exact .inl rfl

/-- What a decoder has that a drain does not change. -/
def Decoder.steady (x : Decoder) : Decoder :=
  { x with pending := [], completed := 0, failed := false }

lemma bufferWriter_dec (s : State) (buffer : Option (List Mem)) (d writer : ℕ) (completed : Bool) :
    (bufferWriter s buffer d writer completed).dec = s.dec := by
  rw [bufferWriter]
  rcases buffer.bind fun buffer => observerBuffer s buffer d with _ | b
  · rfl
  · dsimp only
    split_ifs <;> rfl

lemma requestUnref_dec (h : (s.req r).submitted = true) : (requestUnref s r).dec = s.dec := by
  rw [requestUnref]
  dsimp only
  split_ifs <;> rfl

lemma retire_steady (h : (s.req p).submitted = true) (rest : List ℕ) (e : Dequeued) :
    ((retire s d p rest e).dec d).steady = (s.dec d).steady := by
  rw [retire]
  generalize dequeueFails s (s.req p) e = failed
  generalize hs₁ : (s.setReq p ((s.req p).retired failed)).setDec d
    ((s.dec d).retireHead rest failed) = s₁
  have hsame : SameAccounts s₁ (if !failed && !(s.req p).holdPicBuf then
      bufferWriter s₁ (s.req p).picBuf d (s.req p).writer true else s₁) := by
    split_ifs
    · exact bufferWriter_same _ _ _ _ _
    · exact SameAccounts.refl _
  have hdec : (if !failed && !(s.req p).holdPicBuf then
      bufferWriter s₁ (s.req p).picBuf d (s.req p).writer true else s₁).dec = s₁.dec := by
    split_ifs
    · exact bufferWriter_dec _ _ _ _ _
    · rfl
  have hsub : (s₁.req p).submitted = true := by
    rw [← hs₁, State.setDec_req, State.setReq_req, Function.update_self]
    exact h
  rw [requestUnref_dec ((hsame.submitted p).trans hsub), hdec, ← hs₁, State.setDec_dec,
    Function.update_self]
  rfl

lemma retireUntil_steady (h : Inv s) (pending : List ℕ) (hpending : (s.dec d).pending = pending)
    (es : List Dequeued) : ((retireUntil s d r pending es).dec d).steady = (s.dec d).steady := by
  induction pending generalizing s es with
  | nil => rfl
  | cons p rest ih =>
      have hsub := (h.pending d p (by rw [hpending]; exact List.mem_cons_self)).2
      have hstep := retire_steady (d := d) hsub rest (es.headD {})
      obtain ⟨hinv, hrest⟩ := h.retire hpending (es.headD {})
      rw [retireUntil]
      split_ifs
      · exact hstep
      · exact (ih hinv hrest _).trans hstep

lemma setDone_steady (h : Inv s) (hr : (s.req r).decoder = d) (poll : Poll) (es : List Dequeued) :
    ((setDone s r poll es).1.dec d).steady = (s.dec d).steady := by
  subst hr
  cases poll with
  | timeout =>
      simp only [setDone]
      split_ifs <;> rfl
  | error =>
      simp only [setDone]
      split_ifs <;> rfl
  | ready =>
      simp only [setDone]
      split_ifs
      · rfl
      · rfl
      · exact retireUntil_steady h _ rfl es

lemma requestUnref_submitted (s : State) (r q : ℕ) :
    ((requestUnref s r).req q).submitted = (s.req q).submitted := by
  have hset : ∀ (t : State) (x : Request), t.req = s.req → x.submitted = (s.req r).submitted →
      ((t.setReq r x).req q).submitted = (s.req q).submitted := by
    intro t x ht hx
    by_cases hq : q = r
    · rw [hq, State.setReq_req, Function.update_self, hx]
    · rw [State.setReq_req, Function.update_of_ne hq, ht]
  rw [requestUnref]
  dsimp only
  split_ifs
  · exact hset _ _ rfl rfl
  · exact hset _ _ rfl rfl
  · exact hset _ _ rfl rfl

lemma retire_submitted (s : State) (d p : ℕ) (rest : List ℕ) (e : Dequeued) (q : ℕ) :
    ((retire s d p rest e).req q).submitted = (s.req q).submitted := by
  rw [retire]
  generalize dequeueFails s (s.req p) e = failed
  generalize hs₁ : (s.setReq p ((s.req p).retired failed)).setDec d
    ((s.dec d).retireHead rest failed) = s₁
  have hsame : SameAccounts s₁ (if !failed && !(s.req p).holdPicBuf then
      bufferWriter s₁ (s.req p).picBuf d (s.req p).writer true else s₁) := by
    split_ifs
    · exact bufferWriter_same _ _ _ _ _
    · exact SameAccounts.refl _
  rw [requestUnref_submitted, hsame.submitted, ← hs₁, State.setDec_req]
  by_cases hq : q = p
  · rw [hq, State.setReq_req, Function.update_self]
    rfl
  · rw [State.setReq_req, Function.update_of_ne hq]

lemma retireUntil_submitted (s : State) (d r : ℕ) (pending : List ℕ) (es : List Dequeued) (q : ℕ) :
    ((retireUntil s d r pending es).req q).submitted = (s.req q).submitted := by
  induction pending generalizing s es with
  | nil => rfl
  | cons p rest ih =>
      rw [retireUntil]
      split_ifs
      · exact retire_submitted s d p rest _ q
      · exact (ih _ _).trans (retire_submitted s d p rest _ q)

lemma setDone_submitted (s : State) (r : ℕ) (poll : Poll) (es : List Dequeued) (q : ℕ) :
    ((setDone s r poll es).1.req q).submitted = (s.req q).submitted := by
  cases poll with
  | timeout =>
      simp only [setDone]
      split_ifs <;> rfl
  | error =>
      simp only [setDone]
      split_ifs <;> rfl
  | ready =>
      simp only [setDone]
      split_ifs
      · rfl
      · rfl
      · exact retireUntil_submitted s _ r _ es q

lemma round_steady (h : Inv s) (hp : p ∈ (s.dec d).pending) (e : DrainEnv) :
    ((round s p e).1.dec d).steady = (s.dec d).steady := by
  obtain ⟨hpd, hsub⟩ := h.pending d p hp
  have h₁ : Inv (requestRef s p) := h.requestRef (h.live_of_pending hp)
  have hself : (requestRef s p).req p = { s.req p with refCount := (s.req p).refCount + 1 } := by
    rw [requestRef, State.setReq_req, Function.update_self]
  have hsub₁ : ((requestRef s p).req p).submitted = true := by
    rw [hself]
    exact hsub
  rw [round]
  split_ifs
  · rw [requestUnref_dec hsub₁]
    rfl
  · rw [requestUnref_dec ((setDone_submitted _ p _ _ p).trans hsub₁)]
    exact setDone_steady h₁ (by rw [hself]; exact hpd) _ _

lemma drain_steady (h : Inv s) (es : List DrainEnv) :
    ((drain s d es).dec d).steady = (s.dec d).steady := by
  have hfailed : ∀ s' : State, ((setFailed s' d).dec d).steady = (s'.dec d).steady := by
    intro s'
    rw [setFailed, State.setDec_dec, Function.update_self]
    rfl
  exact (drain_rule (P := fun s' => (s'.dec d).steady = (s.dec d).steady)
    (fun s' _ hs => (hfailed s').trans hs)
    (fun _ _ e hinv hp hs => (round_steady hinv hp e).trans hs) h rfl es).2

/-! ### The lease -/

/-- The state after the drain of `gst_hevc_observer_begin`. -/
structure Drained (s s' : State) (d r : ℕ) : Prop where
  inv : Inv s'
  on : On d [] s s'
  spare : Spare s' r 1
  steady : (s'.dec d).steady = (s.dec d).steady
  decoder : (s'.req r).decoder = d

lemma drained_of (h : Inv s) (howned : 0 < (s.req r).owned) (hr : (s.req r).decoder = d)
    (es : List DrainEnv) : Drained s (drained s d r es) d r := by
  have hlive : 0 < (s.req r).refCount := by
    have hrefs := h.refs r
    omega
  have h₁ : Inv (requestRef s r) := h.requestRef hlive
  have hspare : Spare (requestRef s r) r 1 := by
    have hs := requestRef_spare (p := r) (h.spare_zero r)
    rwa [if_pos rfl] at hs
  have hr₁ : ((requestRef s r).req r).decoder = d := by
    rw [requestRef, State.setReq_req, Function.update_self]
    exact hr
  have hon : On d [] (requestRef s r) (drained s d r es) := drain_on h₁ es
  have hspare₁ : Spare (drained s d r es) r 1 := drain_spare h₁ hspare es
  refine ⟨drain_inv h₁ es, (requestRef_on hr hlive).trans hon, hspare₁, drain_steady h₁ es, ?_⟩
  rw [Spare] at hspare₁
  obtain hd | ⟨-, hd⟩ := hon.used r (by omega)
  · exact hd
  · rw [hd, hr₁]

/-- A decoder leases a request, or gives it back. -/
lemma Inv.setLease (h : Inv s) (hr : (s.req r).decoder = d) {lease : ℕ} {request : Option ℕ}
    (hspare : (s.req r).owned + holds { s.dec d with lease := lease, request := request } r ≤
      (s.req r).refCount)
    (hother : ∀ r', r' ≠ r → ¬(lease ≠ 0 ∧ request = some r'))
    (hsession : lease ≠ 0 → (s.dec d).session ≠ 0) :
    Inv (s.setDec d { s.dec d with lease := lease, request := request }) := by
  have heq : s.setReq r (s.req r) = s := by
    rw [State.setReq, Function.update_eq_self]
  have hupdate := h.update (x := s.req r) (y := { s.dec d with lease := lease, request := request })
    (.inl hr) hr hspare
  rw [heq] at hupdate
  refine hupdate (fun r' hr' _ => ?_) (h.nodup d) (fun r' hr' => ?_) ?_ (h.ending d) hsession
  · rw [holds, holds, if_neg (hother r' hr')]
    exact Nat.add_le_add_left (Nat.zero_le _) _
  · by_cases heq' : r' = r
    · exact .inl ⟨heq', heq' ▸ (h.pending d r' hr').2⟩
    · exact .inr ⟨heq', hr'⟩
  · exact (h.counted d).congr (fun _ => Iff.rfl) (by rw [State.setDec_dec, Function.update_self])

lemma Inv.grant (h : Inv s) (hr : (s.req r).decoder = d) (hspare : Spare s r 1)
    (hsession : (s.dec d).session ≠ 0)
    (found : Target × ℕ × ℕ × List ℕ) : Inv (grant s d r found).1 := by
  refine Inv.generate (h.setLease hr ?_ ?_ fun _ => hsession)
  · rw [Spare, hr, holds] at hspare
    rw [holds]
    dsimp only
    split_ifs at hspare ⊢ <;> omega
  · rintro r' hne ⟨-, heq⟩
    exact hne (Option.some.inj heq).symm

/-- A decoder gives up its lease, and the reference of it. -/
lemma Inv.release (h : Inv s) (hr : (s.req r).decoder = d) (hlease : (s.dec d).lease ≠ 0)
    (hrequest : (s.dec d).request = some r) :
    Inv (GstObserver.requestUnref (s.setDec d { s.dec d with lease := 0, request := none }) r) := by
  have hrefs := h.refs r
  have hnone : ∀ r', ¬((0 : ℕ) ≠ 0 ∧ (none : Option ℕ) = some r') := fun _ hn => hn.1 rfl
  rw [hr, holds, if_pos (⟨hlease, hrequest⟩ : _ ∧ _)] at hrefs
  have h₁ : Inv (s.setDec d { s.dec d with lease := 0, request := none }) := by
    refine h.setLease hr ?_ (fun r' _ => hnone r') fun hl => absurd rfl hl
    rw [holds, if_neg (hnone r)]
    dsimp only
    omega
  refine h₁.requestUnref ?_
  rw [State.setDec_req, hr, State.setDec_dec, Function.update_self, holds, if_neg (hnone r)]
  dsimp only
  omega

/-! ### What exists -/

/-- Only decoders that exist have requests, and a lease is of a request of the decoder. -/
structure Known (s : State) : Prop where
  dead : ∀ d, (s.dec d).live = false → s.dec d = {}
  used : ∀ r, 0 < (s.req r).refCount → (s.dec (s.req r).decoder).live = true
  leased : ∀ d, (s.dec d).lease ≠ 0 → ∃ r, (s.dec d).request = some r ∧ (s.req r).decoder = d

lemma Known.session_live (h : Known s) (hsession : (s.dec d).session ≠ 0) :
    (s.dec d).live = true := by
  cases hlive : (s.dec d).live with
  | true => rfl
  | false =>
      rw [h.dead d hlive] at hsession
      exact absurd rfl hsession

lemma Known.owned_live (h : Known s) (hinv : Inv s) (howned : 0 < (s.req r).owned) :
    (s.dec (s.req r).decoder).live = true := by
  have hrefs := hinv.refs r
  exact h.used r (by omega)

/-- A call with a decoder that is not leased. -/
lemma Known.on (h : Known s) (hinv : Inv s) (hlive : (s.dec d).live = true)
    (hfree : (s.dec d).lease = 0) (hon : On d lines s s') : Known s' where
  dead d' hdead := by
    by_cases hd : d' = d
    · rw [hd, hon.live, hlive] at hdead
      cases hdead
    · rw [hon.dec d' hd] at hdead ⊢
      exact h.dead d' hdead
  used r hr := by
    have hkept : ∀ d', (s.dec d').live = true → (s'.dec d').live = true := by
      intro d' hd'
      by_cases hd : d' = d
      · rw [hd, hon.live, hlive]
      · rw [hon.dec d' hd, hd']
    obtain hd | ⟨hr', hd⟩ := hon.used r hr
    · rw [hd]
      exact hkept d hlive
    · rw [hd]
      exact hkept _ (h.used r hr')
  leased d' hlease := by
    by_cases hd : d' = d
    · rw [hd, hon.lease, hfree] at hlease
      exact absurd rfl hlease
    · rw [hon.dec d' hd] at hlease ⊢
      obtain ⟨r, hrequest, hr⟩ := h.leased d' hlease
      refine ⟨r, hrequest, ?_⟩
      have hrefs := hinv.refs r
      rw [hr, holds, if_pos (⟨hlease, hrequest⟩ : _ ∧ _)] at hrefs
      rw [hon.req r (by rw [hr]; exact hd) (by omega), hr]

/-- A call that changes neither the decoders nor what the requests are of. -/
lemma Known.same (h : Known s) (hdec : s'.dec = s.dec)
    (hused : ∀ r, 0 < (s'.req r).refCount → 0 < (s.req r).refCount)
    (hdecoder : ∀ r, (s'.req r).decoder = (s.req r).decoder) : Known s' where
  dead d hd := by
    rw [hdec] at hd ⊢
    exact h.dead d hd
  used r hr := by
    rw [hdecoder, hdec]
    exact h.used r (hused r hr)
  leased d hl := by
    rw [hdec] at hl ⊢
    obtain ⟨r, hrequest, hr⟩ := h.leased d hl
    exact ⟨r, hrequest, by rw [hdecoder, hr]⟩

/-- A decoder leases a request of its own, or gives it back. -/
lemma Known.setLease (h : Known s) {lease : ℕ} {request : Option ℕ} (hlive : (s.dec d).live = true)
    (hr : lease ≠ 0 → ∃ r, request = some r ∧ (s.req r).decoder = d) :
    Known (s.setDec d { s.dec d with lease := lease, request := request }) := by
  have hself : (s.setDec d { s.dec d with lease := lease, request := request }).dec d =
      { s.dec d with lease := lease, request := request } := by
    rw [State.setDec_dec, Function.update_self]
  have hother : ∀ d', d' ≠ d →
      (s.setDec d { s.dec d with lease := lease, request := request }).dec d' = s.dec d' := by
    intro d' hd
    rw [State.setDec_dec, Function.update_of_ne hd]
  refine ⟨fun d' hdead => ?_, fun r' hr' => ?_, fun d' hl => ?_⟩
  · by_cases hd : d' = d
    · rw [hd, hself] at hdead
      exact absurd (hlive.symm.trans hdead) (by decide)
    · rw [hother d' hd] at hdead ⊢
      exact h.dead d' hdead
  · rw [State.setDec_req] at hr' ⊢
    by_cases hd : (s.req r').decoder = d
    · rw [hd, hself]
      exact hlive
    · rw [hother _ hd]
      exact h.used r' hr'
  · by_cases hd : d' = d
    · subst hd
      rw [hself] at hl ⊢
      exact hr hl
    · rw [hother d' hd] at hl ⊢
      exact h.leased d' hl

end OmarchyM1Video.GstObserver
