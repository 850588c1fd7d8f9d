import OmarchyM1Video.HevcControls.Lifecycle

/-!
How the lifecycle adapter refines the base adapter.

The OUTPUT buffers that an OUTPUT STREAMOFF retires can be dequeued before it instead; then the base
loop passes through the same states.

* `Retirement`, `insertBefore`: a trace in which the retired buffers are dequeued;
* `each_retired`: the two loops stay in the same state;
* `exists_retirement`: the insertions exist for every trace;
* `lifecycle_refines`: what the adapter accepts, the base adapter accepts with the retired buffers
  dequeued, and where nothing is retired the two agree, up to a malformed STREAMOFF.
-/

namespace OmarchyM1Video.HevcControls

open OmarchyM1Video.Py

/-! ### A trace with the retired buffers dequeued -/

/-- A successful DQBUF of an OUTPUT buffer. -/
structure IsOutputDqbuf (fd : ℤ) (e : Event) (bi ts : ℤ) : Prop where
  fd : onFd fd e = true
  op : opIs e "VIDIOC_DQBUF" = true
  errno : has e "errno" = false
  noOpen : isOpen e = false
  noClose : has e "close" = false
  buffer : ∃ b, readBuffer e "from_driver" = .ok b ∧ b.kind = .out ∧ b.index = bi ∧
    timestamp b.buf = .ok ts

/-- One DQBUF for each of the OUTPUT buffers, in any order. -/
def Dequeues (fd : ℤ) (out : Dict ℤ ℤ) (ds : List Event) : Prop :=
  ∃ bufs, bufs.Perm out.entries ∧ List.Forall₂ (fun e b => IsOutputDqbuf fd e b.1 b.2) ds bufs

/-- The trace with events inserted before the event at each position. -/
def insertBefore (ins : ℕ → List Event) (events : List Event) : List Event :=
  events.zipIdx.flatMap fun p => ins p.2 ++ [p.1]

/-- The insertions that dequeue, before each OUTPUT STREAMOFF, every OUTPUT buffer that is still
outstanding there. -/
structure Retirement (events : List Event) (expected fd : ℤ) (start : ℕ) (ins : ℕ → List Event) :
    Prop where
  other : ∀ p ∈ events.zipIdx, isOutputStreamoff fd start p = false → ins p.2 = []
  dequeued : ∀ pre p post s, events.zipIdx = pre ++ p :: post →
    isOutputStreamoff fd start p = true →
    each (scanEvent clearOutput expected fd start) pre {} = .ok () s →
    Dequeues fd s.outputBuffers (ins p.2)

lemma IsOutputDqbuf.candidate {fd : ℤ} {e : Event} {bi ts : ℤ} (h : IsOutputDqbuf fd e bi ts) :
    candidate e = .ok none := by
  rw [HevcControls.candidate, if_neg (by simp [opIs_of_opIs h.op])]
  rfl

section Dequeue

variable {streamoff : Streamoff} {expected fd : ℤ} {start : ℕ}

lemma scanEvent_dequeue {e : Event} {k : ℕ} {bi ts : ℤ} {s : Scan} {id : ℕ}
    (h : IsOutputDqbuf fd e bi ts) (hk : start < k) (hclosed : s.closed = false)
    (hid : s.byTimestamp.get? ts = some id) (hbuf : s.outputBuffers.get? bi = some ts) :
    scanEvent streamoff expected fd start (e, k) s =
      .ok () { s with outputBuffers := s.outputBuffers.erase bi } := by
  obtain ⟨b, hb, hkind, rfl, hts⟩ := h.buffer
  have hop := opIs_of_opIs h.op
  have hsel : selectedOps.any (opIs e) = true := by simp [selectedOps, hop]
  have hreq : isRequestOp e = false := by simp [isRequestOp, hop]
  have hconf : isReconfiguration e = false := by simp [isReconfiguration, hop]
  have hempty : isEmptyDqbuf e = false := by
    have herr : Json.member? e "errno" = none := by simpa [has] using h.errno
    simp [isEmptyDqbuf, herr]
  have hhas : hasOp e = true := hasOp_of_opIs h.op (by decide)
  have hrun : dequeueBuffer e s =
      .ok () { s with outputBuffers := s.outputBuffers.erase b.index } := by
    simp [dequeueBuffer, hb, lift, hts, hid, orRaise, hkind, hbuf]
  simp [scanEvent, onlyIf, afterOpen, videoOp, selectedOp, hop, hk, h.fd, h.noOpen, h.noClose, hreq,
    hhas, hsel, hempty, hclosed, h.errno, hconf, hrun, raiseIf]

/-- The OUTPUT buffers of pictures can be dequeued one after the other. -/
lemma each_dequeue {ds : List Event} {bufs : List (ℤ × ℤ)}
    (h : List.Forall₂ (fun e b => IsOutputDqbuf fd e b.1 b.2) ds bufs) {k : ℕ} {s : Scan}
    (hk : start < k) (hclosed : s.closed = false) (hperm : bufs.Perm s.outputBuffers.entries)
    (hby : ∀ b ∈ bufs, ∃ id, s.byTimestamp.get? b.2 = some id) :
    each (scanEvent streamoff expected fd start) (ds.zipIdx k) s =
      .ok () { s with outputBuffers := ∅ } := by
  induction h generalizing k s with
  | nil =>
      have hempty : s.outputBuffers = ∅ := Dict.ext (List.perm_nil.mp hperm.symm)
      rw [← hempty]
      rfl
  | @cons d b ds bufs hd _ ih =>
      obtain ⟨id, hid⟩ := hby b (by simp)
      have hbuf : s.outputBuffers.get? b.1 = some b.2 :=
        Dict.mem_entries_iff.mp (hperm.mem_iff.mp (by simp))
      rw [List.zipIdx_cons, each_cons_ok]
      refine ⟨_, scanEvent_dequeue hd hk hclosed hid hbuf, ?_⟩
      refine ih (Nat.lt_succ_of_lt hk) hclosed ?_ fun b' hb' => hby b' (by simp [hb'])
      -- The other buffers have other indices.
      have hnodup : ((b :: bufs).map Prod.fst).Nodup :=
        (hperm.map Prod.fst).nodup_iff.mpr s.outputBuffers.nodup
      have hkeep : (b :: bufs).filter (fun p => decide (p.1 ≠ b.1)) = bufs := by
        rw [List.filter_cons_of_neg (by simp)]
        refine List.filter_eq_self.mpr fun b' hb' => ?_
        rw [List.map_cons, List.nodup_cons] at hnodup
        simp only [ne_eq, decide_not, Bool.not_eq_eq_eq_not, Bool.not_true, decide_eq_false_iff_not]
        exact fun heq => hnodup.1 (heq ▸ List.mem_map_of_mem hb')
      have hfilter := hperm.filter fun p => decide (p.1 ≠ b.1)
      rwa [hkeep] at hfilter

end Dequeue

/-! ### The two loops stay in the same state -/

section Retired

variable {events : List Event} {expected fd : ℤ} {start : ℕ} {ins : ℕ → List Event} {s : Scan}

/-- The position of an event counts only as before or after the open. -/
lemma scanEvent_position {streamoff : Streamoff} {e : Event} {i j : ℕ}
    (h : start < i ↔ start < j) :
    scanEvent streamoff expected fd start (e, i) = scanEvent streamoff expected fd start (e, j) := by
  by_cases hi : start < i
  · simp only [scanEvent, onlyIf, if_pos hi, if_pos (h.mp hi)]
  · simp only [scanEvent, onlyIf, if_neg hi, if_neg fun hj => hi (h.mpr hj)]

/-- Every OUTPUT buffer that a STREAMOFF of an accepted trace finds belongs to a picture. -/
lemma outstanding_pictures {pre post : List (Event × ℕ)} {p : Event × ℕ} {s₁ : Scan}
    (hsplit : events.zipIdx = pre ++ p :: post) (hoff : isStreamoff fd start p = true)
    (hpre : each (scanEvent clearOutput expected fd start) pre {} = .ok () s₁)
    (hrun : each (scanEvent clearOutput expected fd start) events.zipIdx {} = .ok () s)
    (hqueued : ∀ f id, s.requests.get? f = some id → (s.objects id).queued = true) {bi ts : ℤ}
    (hbuf : s₁.outputBuffers.get? bi = some ts) : ∃ id, s₁.byTimestamp.get? ts = some id := by
  have hboth : s₁.toLedger.Inv ∧ s₁.toLedger.Backed :=
    each_invariant (I := fun s : Scan => s.toLedger.Inv ∧ s.toLedger.Backed)
      ⟨Ledger.inv_empty, fun _ _ h => by simp at h⟩
      (fun _ _ _ h hstep => ⟨clear_inv h.1 hstep, clear_backed h.1 h.2 hstep⟩) hpre
  refine (hboth.2 bi ts hbuf).resolve_right ?_
  rintro ⟨f, _, hunq⟩
  rw [hsplit, each_append_ok] at hrun
  obtain ⟨s₁', hpre', hrest⟩ := hrun
  obtain rfl : s₁ = s₁' := (EStateM.Result.ok.inj (hpre.symm.trans hpre')).2
  have hfull : (s₁.pictures.length : ℤ) = expected := by
    obtain ⟨s₂, hstep, _⟩ := each_cons_ok.mp hrest
    obtain ⟨_, _, _, _, ⟨_, hlen, _⟩, _⟩ := (scanEvent_streamoff hoff).mp hstep
    exact hlen
  -- The request is never queued, and the check after the loop finds it.
  have hend : s.toLedger.Inv ∧ (s.pictures.length : ℤ) = expected ∧ s.Unqueued f :=
    each_invariant (I := fun s : Scan => s.toLedger.Inv ∧ (s.pictures.length : ℤ) = expected ∧
      s.Unqueued f) ⟨hboth.1, hfull, hunq⟩
      (fun _ _ _ h hstep => ⟨clear_inv h.1 hstep, clear_waits h.1 h.2.1 h.2.2 hstep⟩) hrest
  obtain ⟨id, hid, hunqueued, _⟩ := hend.2.2
  exact absurd (hqueued f id hid) (by simp [hunqueued])

/-- A STREAMOFF that names no OUTPUT queue, like any other event, does the same in both loops. -/
lemma keep_of_clear {p : Event × ℕ} {s₁ s₂ : Scan} (hoff : isOutputStreamoff fd start p = false)
    (h : scanEvent clearOutput expected fd start p s₁ = .ok () s₂) :
    scanEvent keepOutput expected fd start p s₁ = .ok () s₂ := by
  obtain ⟨t, ht, h⟩ := scanEvent_ok_iff.mp h
  rw [isOutputStreamoff] at hoff
  split_ifs at h with hstream
  · obtain ⟨out, hout, rfl⟩ := h
    have hnames : namesOutput p.1 = false := by simpa [hstream] using hoff
    obtain ⟨_, rfl⟩ := clearOutput_ok.mp hout
    simpa [hnames] using ht
  · exact h ▸ ht

/-- An OUTPUT STREAMOFF does in the lifecycle loop what it does in the base loop once the buffers
have been dequeued. -/
lemma keep_of_clear_output {p : Event × ℕ} {s₁ s₂ : Scan}
    (hoff : isOutputStreamoff fd start p = true)
    (h : scanEvent clearOutput expected fd start p s₁ = .ok () s₂) :
    s₁.closed = false ∧
      scanEvent keepOutput expected fd start p { s₁ with outputBuffers := ∅ } = .ok () s₂ := by
  simp only [isOutputStreamoff, Bool.and_eq_true] at hoff
  obtain ⟨hstream, hnames⟩ := hoff
  obtain ⟨hopen, hclose, hclosed, herr, hdone, out, hout, rfl⟩ := (scanEvent_streamoff hstream).mp h
  obtain ⟨_, rfl⟩ := clearOutput_ok.mp hout
  refine ⟨by simpa using hclosed, (scanEvent_streamoff hstream).mpr ?_⟩
  exact ⟨hopen, hclose, hclosed, herr, hdone, ∅, rfl, by rw [if_pos hnames]⟩

/-- **The two loops stay in the same state**: the lifecycle loop over the rest of an accepted trace
ends where the base loop ends over the rest with the insertions.  The positions `n` and `k` of the
rest in the two traces agree up to the open. -/
theorem each_retired (hret : Retirement events expected fd start ins)
    (hrun : each (scanEvent clearOutput expected fd start) events.zipIdx {} = .ok () s)
    (hqueued : ∀ f id, s.requests.get? f = some id → (s.objects id).queued = true)
    {rest : List Event} {n k : ℕ} {pre : List (Event × ℕ)} {s₁ : Scan}
    (hsplit : events.zipIdx = pre ++ rest.zipIdx n)
    (hpre : each (scanEvent clearOutput expected fd start) pre {} = .ok () s₁)
    (hrest : each (scanEvent clearOutput expected fd start) (rest.zipIdx n) s₁ = .ok () s)
    (hnk : n ≤ k) (hopen : n ≤ start → k = n) :
    each (scanEvent keepOutput expected fd start)
      (((rest.zipIdx n).flatMap fun p => ins p.2 ++ [p.1]).zipIdx k) s₁ = .ok () s := by
  induction rest generalizing n k pre s₁ with
  | nil => simpa using hrest
  | cons e rest ih =>
      rw [List.zipIdx_cons] at hsplit hrest
      obtain ⟨s₂, hstep, hrest⟩ := each_cons_ok.mp hrest
      have hnext := ih (n := n + 1) (k := k + (ins n).length + 1)
        (by simp [hsplit]) (each_concat_ok.mpr ⟨s₁, hpre, hstep⟩) hrest (by omega)
      rw [List.zipIdx_cons, List.flatMap_cons, List.append_assoc, List.zipIdx_append, each_append_ok,
        List.singleton_append, List.zipIdx_cons]
      simp only [each_cons_ok]
      cases hoff : isOutputStreamoff fd start (e, n) with
      | true =>
          have hstream : isStreamoff fd start (e, n) = true := by
            rw [isOutputStreamoff, Bool.and_eq_true] at hoff
            exact hoff.1
          have hlt : start < n := by
            simp only [isStreamoff, Bool.and_eq_true, decide_eq_true_eq] at hstream
            exact hstream.1.1
          obtain ⟨hclosed, hkeep⟩ := keep_of_clear_output hoff hstep
          obtain ⟨bufs, hperm, hds⟩ := hret.dequeued pre (e, n) _ s₁ hsplit hoff hpre
          refine ⟨_, each_dequeue hds (by omega) hclosed hperm fun b hb => ?_, s₂, ?_, hnext ?_⟩
          · have hbuf := Dict.mem_entries_iff.mp (hperm.mem_iff.mp hb)
            exact outstanding_pictures hsplit hstream hpre hrun hqueued hbuf
          · rw [scanEvent_position (j := n) (by omega)]
            exact hkeep
          · omega
      | false =>
          have hins : ins n = [] := hret.other (e, n) (by simp [hsplit]) hoff
          have hkeep := keep_of_clear hoff hstep
          simp only [hins, List.length_nil, List.zipIdx_nil, each_nil_ok, Nat.add_zero] at hnext ⊢
          refine ⟨s₁, rfl, s₂, ?_, hnext ?_⟩
          · rw [scanEvent_position (j := n) (by omega)]
            exact hkeep
          · omega

/-- The inserted events: DQBUFs after the open. -/
lemma inserted_dqbuf (hret : Retirement events expected fd start ins)
    (hrun : each (scanEvent clearOutput expected fd start) events.zipIdx {} = .ok () s)
    {p : Event × ℕ} (hp : p ∈ events.zipIdx) {d : Event} (hd : d ∈ ins p.2) :
    start < p.2 ∧ ∃ bi ts, IsOutputDqbuf fd d bi ts := by
  obtain ⟨pre, post, hsplit⟩ := List.append_of_mem hp
  cases hoff : isOutputStreamoff fd start p with
  | false => simp [hret.other p hp hoff] at hd
  | true =>
      rw [hsplit, each_append_ok] at hrun
      obtain ⟨s₁, hpre, _⟩ := hrun
      obtain ⟨bufs, _, hds⟩ := hret.dequeued pre p post s₁ hsplit hoff hpre
      obtain ⟨i, hi, rfl⟩ := List.mem_iff_getElem.mp hd
      simp only [isOutputStreamoff, isStreamoff, Bool.and_eq_true, decide_eq_true_eq] at hoff
      exact ⟨hoff.1.1.1, _, _, (List.forall₂_iff_get.mp hds).2 i hi
        ((List.Forall₂.length_eq hds) ▸ hi)⟩

end Retired

/-! ### The insertions exist -/

/-- The DQBUF event that gives a buffer back as it was queued. -/
def outputDqbuf (fd : ℤ) (buf : Json) : Event :=
  ioctl "VIDIOC_DQBUF" [("from_driver", .obj [("v4l2_buffer", buf)])] fd

lemma isOutputDqbuf_outputDqbuf {fd : ℤ} {e : Event} {b : BufferArg} {ts : ℤ}
    (hb : readBuffer e "from_userspace" = .ok b) (hkind : b.kind = .out)
    (hts : timestamp b.buf = .ok ts) : IsOutputDqbuf fd (outputDqbuf fd b.buf) b.index ts := by
  refine ⟨by simp [outputDqbuf, ioctl, onFd, Json.member?, Json.eqInt], rfl, rfl, rfl, rfl, b, ?_,
    hkind, rfl, hts⟩
  simp only [readBuffer, Except.bind_ok] at hb ⊢
  obtain ⟨buf, hbuf, hread⟩ := hb
  obtain rfl : buf = b.buf := by
    obtain ⟨_, _, _, _, _, _, _, _, _, _, _, _, hb⟩ := hread
    rw [← Except.pure_ok.mp hb]
  refine ⟨b.buf, ?_, hread⟩
  simp only [arguments, Except.bind_ok, need_ok, Except.pure_ok] at hbuf
  obtain ⟨_, _, _, _, _, hobj, rfl⟩ := hbuf
  simp [arguments, outputDqbuf, ioctl, item, Json.member?, Json.item, found, need, hobj]

section Exists

variable {events : List Event} {expected fd : ℤ} {start : ℕ} {p : Event × ℕ} {s s' : Scan}

lemma queueBuffer_output {e : Event} {bi ts : ℤ} (h : queueBuffer e s = .ok () s')
    (hbuf : s'.outputBuffers.get? bi = some ts) :
    s.outputBuffers.get? bi = some ts ∨ ∃ b, readBuffer e "from_userspace" = .ok b ∧
      b.kind = .out ∧ b.index = bi ∧ timestamp b.buf = .ok ts := by
  simp only [queueBuffer, lift_bind_ok, get_bind, raiseIf_bind_ok] at h
  obtain ⟨b, hb, _, h⟩ := h
  cases hk : b.kind with
  | cap =>
      simp only [hk, raiseIf_bind_ok, modify_run, EStateM.Result.ok.injEq, true_and] at h
      obtain ⟨_, rfl⟩ := h
      exact Or.inl hbuf
  | out =>
      simp only [hk, queueOutput, raiseIf_bind_ok, lift_bind_ok, get_bind,
        bind_ok (x := requestFor _), requestFor_ok, modify_run, EStateM.Result.ok.injEq,
        true_and] at h
      obtain ⟨_, _, _, reqfd, _, _, id, t, ⟨rfl, rfl⟩, _, ts', hts, rfl⟩ := h
      simp only [Dict.get?_set, Ledger.opened_outputBuffers] at hbuf
      split_ifs at hbuf with hbi
      · exact Or.inr ⟨b, hb, hk, hbi.symm, by rw [hts, Option.some.inj hbuf]⟩
      · exact Or.inl hbuf

lemma scanEvent_queueOutput {bi f ts : ℤ} (ha : actionAt fd start p = .queueOutput bi f ts)
    (h : scanEvent keepOutput expected fd start p s = .ok () s') :
    ∃ t, t.toLedger = s.toLedger ∧ queueBuffer p.1 t = .ok () s' := by
  obtain ⟨e, i⟩ := p
  rw [actionAt, action?] at ha
  split_ifs at ha with halloc hle hreq hfd
  · cases hx : intAt ["from_driver", "request_fd"] e <;> simp [hx] at ha
  · simp at ha
  · rw [requestAction] at ha
    cases hx : intAt ["fd"] e with
    | none => simp [hx] at ha
    | some reqfd =>
        simp only [hx, Option.map_some, Option.getD_some] at ha
        split_ifs at ha
  · have hqbuf : opIs e "VIDIOC_QBUF" = true := by
      by_contra hq
      rw [videoAction, if_neg hq] at ha
      split_ifs at ha
      · simp only [controlsAction] at ha
        cases hw : walk ["from_userspace", "v4l2_ext_controls", "which"] e with
        | none => simp [hw] at ha
        | some v =>
            simp only [hw, Option.bind_eq_bind, Option.bind_some] at ha
            split_ifs at ha
            · cases hx : intAt ["from_userspace", "v4l2_ext_controls", "request_fd"] e <;>
                simp [hx] at ha
            · simp at ha
      · simp at ha
      · cases hx : dqbufAction e with
        | none => simp [hx] at ha
        | some a =>
            simp only [hx, Option.getD_some] at ha
            subst ha
            simp only [dqbufAction, Option.bind_eq_bind, Option.bind_eq_some_iff] at hx
            obtain ⟨kind, _, _, _, _, _, hx⟩ := hx
            cases kind <;> simp at hx
      · simp at ha
    simp only [scanEvent, bind_ok (x := onlyIf _ _), onlyIf_ok] at h
    obtain ⟨_, t, ⟨hop, _⟩ | ⟨_, rfl⟩, h⟩ := h
    · exact absurd hop halloc
    rcases h with ⟨_, h⟩ | ⟨hlt, _⟩
    · obtain ⟨t, hled, ⟨hnot, _⟩ | ⟨_, hskip, _⟩ | ⟨_, _, hvideo⟩⟩ := afterOpen_ok h
      · exact absurd hnot hreq
      · rcases hskip with hskip | hskip
        · exact absurd hfd (by simp [hskip])
        · exact absurd (hasOp_of_opIs hqbuf (by decide)) (by simp [hskip])
      · have hop := opIs_of_opIs hqbuf
        have hsel : selectedOps.any (opIs e) = true := by simp [selectedOps, hop]
        refine ⟨t, hled, ?_⟩
        simp [videoOp, hsel, isEmptyDqbuf, hop, selectedOp, isReconfiguration] at hvideo
        exact hvideo.2.2
    · exact absurd (Nat.lt_of_not_le hle) hlt
  · simp at ha

/-- A queued OUTPUT buffer can be given back. -/
lemma returnable {ps : List (Event × ℕ)}
    (hrun : each (scanEvent clearOutput expected fd start) ps {} = .ok () s) :
    ∀ b ∈ s.outputBuffers.entries, ∃ d, IsOutputDqbuf fd d b.1 b.2 := by
  have hinv : ∀ bi ts, s.outputBuffers.get? bi = some ts → ∃ d, IsOutputDqbuf fd d bi ts := by
    refine each_invariant (I := fun s : Scan => ∀ bi ts, s.outputBuffers.get? bi = some ts →
      ∃ d, IsOutputDqbuf fd d bi ts) (by simp) ?_ hrun
    intro p s s' hold hstep bi ts hbuf
    obtain ⟨t, ht, hled, _, hout⟩ := clear_step hstep
    rcases hout with hout | hout
    · rw [hout] at hbuf
      rcases hled.output_from hbuf with ⟨f, ha⟩ | hbuf'
      · obtain ⟨t', hled', hq⟩ := scanEvent_queueOutput ha ht
        rcases queueBuffer_output hq hbuf with hbuf' | ⟨b, hb, hkind, rfl, hts⟩
        · rw [hled'] at hbuf'
          exact hold bi ts hbuf'
        · exact ⟨_, isOutputDqbuf_outputDqbuf hb hkind hts⟩
      · exact hold bi ts hbuf'
    · simp [hout] at hbuf
  exact fun b hb => hinv b.1 b.2 (Dict.mem_entries_iff.mp hb)

lemma exists_dequeues {ps : List (Event × ℕ)}
    (hrun : each (scanEvent clearOutput expected fd start) ps {} = .ok () s) :
    ∃ ds, Dequeues fd s.outputBuffers ds := by
  have hforall : ∀ bufs : List (ℤ × ℤ), (∀ b ∈ bufs, ∃ d, IsOutputDqbuf fd d b.1 b.2) →
      ∃ ds, List.Forall₂ (fun e b => IsOutputDqbuf fd e b.1 b.2) ds bufs := by
    intro bufs h
    induction bufs with
    | nil => exact ⟨[], .nil⟩
    | cons b bufs ih =>
        obtain ⟨d, hd⟩ := h b (by simp)
        obtain ⟨ds, hds⟩ := ih fun b' hb' => h b' (by simp [hb'])
        exact ⟨d :: ds, .cons hd hds⟩
  obtain ⟨ds, hds⟩ := hforall _ (returnable hrun)
  exact ⟨ds, s.outputBuffers.entries, List.Perm.refl _, hds⟩

lemma position_of_split {pre post : List (Event × ℕ)} {e : Event} {i : ℕ}
    (hsplit : events.zipIdx = pre ++ (e, i) :: post) :
    events.zipIdx.take i = pre ∧ events.zipIdx[i]? = some (e, i) := by
  have hget : events.zipIdx[pre.length]? = some (e, i) := by simp [hsplit]
  have hi : pre.length = i := by
    rw [List.getElem?_zipIdx] at hget
    cases he : events[pre.length]? with
    | none => simp [he] at hget
    | some x =>
        simp only [he, Option.map_some, Option.some.injEq, Prod.mk.injEq] at hget
        omega
  rw [← hi]
  exact ⟨by rw [hsplit, List.take_left], hi ▸ hget⟩

/-- Every trace has its insertions. -/
lemma exists_retirement : ∃ ins, Retirement events expected fd start ins := by
  have hpos : ∀ i, ∃ ds, ∀ s,
      each (scanEvent clearOutput expected fd start) (events.zipIdx.take i) {} = .ok () s →
        Dequeues fd s.outputBuffers ds := by
    intro i
    cases hrun : each (scanEvent clearOutput expected fd start) (events.zipIdx.take i) {} with
    | error e t => exact ⟨[], by simp⟩
    | ok u t =>
        obtain ⟨ds, hds⟩ := exists_dequeues hrun
        refine ⟨ds, fun s hs => ?_⟩
        obtain rfl := (EStateM.Result.ok.inj hs).2
        exact hds
  choose ds hds using hpos
  refine ⟨fun i => if (events.zipIdx[i]?).any (isOutputStreamoff fd start) then ds i else [],
    ⟨fun p hp hoff => ?_, fun pre p post s hsplit hoff hpre => ?_⟩⟩
  · obtain ⟨pre, post, hsplit⟩ := List.append_of_mem hp
    rw [(position_of_split hsplit).2]
    simp [hoff]
  · obtain ⟨htake, hget⟩ := position_of_split hsplit
    rw [hget, Option.any_some, if_pos hoff]
    exact hds p.2 s (by rwa [htake])

end Exists

/-! ### The refinement -/

section Insert

variable {ins : ℕ → List Event} {l : List Event} {k : ℕ}

lemma insert_eq_self (h : ∀ p ∈ l.zipIdx k, ins p.2 = []) :
    ((l.zipIdx k).flatMap fun p => ins p.2 ++ [p.1]) = l := by
  induction l generalizing k with
  | nil => rfl
  | cons e l ih =>
      rw [List.zipIdx_cons, List.forall_mem_cons] at h
      rw [List.zipIdx_cons, List.flatMap_cons, ih h.2, h.1]
      rfl

lemma mem_insert {e : Event} (h : e ∈ (l.zipIdx k).flatMap fun p => ins p.2 ++ [p.1]) :
    e ∈ l ∨ ∃ p ∈ l.zipIdx k, e ∈ ins p.2 := by
  obtain ⟨p, hp, he⟩ := List.mem_flatMap.mp h
  rcases List.mem_append.mp he with he | he
  · exact Or.inr ⟨p, hp, he⟩
  · rw [List.mem_singleton.mp he]
    exact Or.inl (List.fst_mem_of_mem_zipIdx hp)

end Insert

/-- DQBUFs after the open leave the video context as it is. -/
lemma select_insertBefore {events : List Event} {fd : ℤ} {start : ℕ} {ins : ℕ → List Event}
    (h : select events = .ok (fd, start))
    (hins : ∀ p ∈ events.zipIdx, ∀ d ∈ ins p.2, start < p.2 ∧ ∃ bi ts, IsOutputDqbuf fd d bi ts) :
    select (insertBefore ins events) = .ok (fd, start) := by
  obtain ⟨pre, o, mid, c, rest, rfl, hlen, ho, hmid, hbefore, hc, hrest⟩ := select_ok.mp h
  have hzip : (pre ++ o :: mid ++ c :: rest).zipIdx = (pre ++ [o]).zipIdx ++
      (mid.zipIdx (start + 1) ++ (c, start + 1 + mid.length) ::
        rest.zipIdx (start + 1 + mid.length + 1)) := by
    rw [show pre ++ o :: mid ++ c :: rest = (pre ++ [o]) ++ (mid ++ c :: rest) by simp,
      @List.zipIdx_append _ (pre ++ [o]), @List.zipIdx_append _ mid, List.zipIdx_cons,
      List.length_append, List.length_singleton, hlen, Nat.zero_add]
  rw [hzip] at hins
  have hhead : ((pre ++ [o]).zipIdx.flatMap fun p => ins p.2 ++ [p.1]) = pre ++ [o] := by
    refine insert_eq_self fun p hp => List.eq_nil_iff_forall_not_mem.mpr fun d hd => ?_
    have hlt := (hins p (List.mem_append_left _ hp) d hd).1
    have hle := List.snd_lt_of_mem_zipIdx hp
    rw [List.length_append, List.length_singleton, hlen] at hle
    omega
  rw [insertBefore, hzip, List.flatMap_append, hhead, List.flatMap_append, List.flatMap_cons]
  refine select_ok.mpr ⟨pre, o,
    ((mid.zipIdx (start + 1)).flatMap fun p => ins p.2 ++ [p.1]) ++ ins (start + 1 + mid.length), c,
    (rest.zipIdx (start + 1 + mid.length + 1)).flatMap fun p => ins p.2 ++ [p.1], by simp, hlen, ho,
    fun e he => ?_, fun e he => ?_, hc, fun e he => ?_⟩
  · rcases List.mem_append.mp he with he | he
    · rcases mem_insert he with he | ⟨p, hp, he⟩
      · exact hmid e he
      · obtain ⟨_, _, _, hd⟩ := hins p (by simp [hp]) e he
        simp [hd.noOpen]
    · obtain ⟨_, _, _, hd⟩ := hins (c, start + 1 + mid.length) (by simp) e he
      simp [hd.noOpen]
  · rw [List.mem_append, List.mem_cons, List.mem_append] at he
    rcases he with he | rfl | he | he
    · exact hbefore e (by simp [he])
    · exact hbefore e (by simp)
    · rcases mem_insert he with he | ⟨p, hp, he⟩
      · exact hbefore e (by simp [he])
      · obtain ⟨_, _, _, hd⟩ := hins p (by simp [hp]) e he
        exact hd.candidate
    · obtain ⟨_, _, _, hd⟩ := hins (c, start + 1 + mid.length) (by simp) e he
      exact hd.candidate
  · rcases mem_insert he with he | ⟨p, hp, he⟩
    · exact hrest e he
    · obtain ⟨_, _, _, hd⟩ := hins p (by simp [hp]) e he
      exact Or.inl hd.candidate

section Refines

variable {streamoff : Streamoff} {events : List Event} {expected : ℤ} {run : String}

lemma scan_ok {s : Scan} :
    scan streamoff events expected run = .ok s ↔
      (1 ≤ expected ∧ expected ≤ 10000) ∧ (run.toList.length = 16 ∧ run.toList.all isHexDigit) ∧
      ∃ fd start, select events = .ok (fd, start) ∧
        each (scanEvent streamoff expected fd start) events.zipIdx {} = .ok () s ∧
        finished expected s = .ok () := by
  simp only [scan, Except.bind_ok, need_ok]
  constructor
  · rintro ⟨_, hexp, _, hrun, ⟨fd, start⟩, hsel, h⟩
    refine ⟨hexp, hrun, fd, start, hsel, ?_⟩
    cases heach : each (scanEvent streamoff expected fd start) events.zipIdx {} with
    | error e t => simp [heach] at h
    | ok u t =>
        simp only [heach, Except.bind_ok, Except.pure_ok] at h
        obtain ⟨_, hfin, rfl⟩ := h
        exact ⟨rfl, hfin⟩
  · rintro ⟨hexp, hrun, fd, start, hsel, heach, hfin⟩
    refine ⟨(), hexp, (), hrun, (fd, start), hsel, ?_⟩
    simp only [heach, Except.bind_ok, Except.pure_ok]
    exact ⟨(), hfin, trivial⟩

lemma finished_queued {s : Scan} (h : finished expected s = .ok ()) :
    ∀ f id, s.requests.get? f = some id → (s.objects id).queued = true := by
  simp only [finished, Except.bind_ok, need_ok] at h
  obtain ⟨_, _, _, _, hreq⟩ := h
  exact Dict.all_values_iff.mp hreq

/-- A result comes from the state after the loop alone. -/
lemma normalizeWith_of_scan {streamoff' : Streamoff} {events' : List Event}
    (h : ∀ s, scan streamoff events expected run = .ok s →
      scan streamoff' events' expected run = .ok s) {r : List Record × List Association}
    (hr : normalizeWith streamoff events expected run = .ok r) :
    normalizeWith streamoff' events' expected run = .ok r := by
  simp only [normalizeWith, Except.bind_ok] at hr ⊢
  obtain ⟨s, hs, hout⟩ := hr
  exact ⟨s, h s hs, hout⟩

/-- The base loop accepts the trace with the retired buffers dequeued, and ends in the same
state. -/
lemma scan_retired {fd : ℤ} {start : ℕ} {ins : ℕ → List Event} {s : Scan}
    (hsel : select events = .ok (fd, start)) (hret : Retirement events expected fd start ins)
    (h : scan clearOutput events expected run = .ok s) :
    scan keepOutput (insertBefore ins events) expected run = .ok s := by
  obtain ⟨hexp, hhex, fd', start', hsel', heach, hfin⟩ := scan_ok.mp h
  obtain ⟨rfl, rfl⟩ := Prod.mk.inj (Except.ok.inj (hsel.symm.trans hsel'))
  have hins : ∀ p ∈ events.zipIdx, ∀ d ∈ ins p.2,
      start < p.2 ∧ ∃ bi ts, IsOutputDqbuf fd d bi ts :=
    fun p hp d hd => inserted_dqbuf hret heach hp hd
  refine scan_ok.mpr ⟨hexp, hhex, fd, start, select_insertBefore hsel hins, ?_, hfin⟩
  have hnil : each (scanEvent clearOutput expected fd start) [] {} = .ok () {} := each_nil_ok.mpr rfl
  exact each_retired hret heach (finished_queued hfin) (by rfl) hnil heach le_rfl fun _ => rfl

/-- Both raise, or both return the same. -/
def SameOutcome {α : Type} : Read α → Read α → Prop
  | .ok a, .ok b => a = b
  | .error _, .error _ => True
  | _, _ => False

lemma sameOutcome_iff {α : Type} {x y : Read α} :
    SameOutcome x y ↔ ∀ a, x = .ok a ↔ y = .ok a := by
  cases x with
  | ok a =>
      cases y with
      | ok b => simp [SameOutcome]
      | error e => simp [SameOutcome]
  | error e =>
      cases y with
      | ok b => simp [SameOutcome]
      | error e' => simp [SameOutcome]

/-- No OUTPUT buffer is queued when the loop reaches an OUTPUT STREAMOFF. -/
def NoneOutstanding (events : List Event) (expected : ℤ) : Prop :=
  ∀ fd start, select events = .ok (fd, start) →
    Along (scanEvent keepOutput expected fd start)
      (fun s p => isOutputStreamoff fd start p = true → s.outputBuffers = ∅) events.zipIdx {}

/-- Every STREAMOFF of the video context has no arguments, or an object. -/
def StreamoffsReadable (events : List Event) : Prop :=
  ∀ fd start, select events = .ok (fd, start) →
    ∀ p ∈ events.zipIdx, isStreamoff fd start p = true → argumentsReadable p.1 = true

/-- Where nothing is retired, a readable event does the same in both loops. -/
lemma clear_iff_keep {fd : ℤ} {start : ℕ} {p : Event × ℕ} {s s' : Scan}
    (hout : isOutputStreamoff fd start p = true → s.outputBuffers = ∅)
    (hread : isStreamoff fd start p = true → argumentsReadable p.1 = true) :
    scanEvent clearOutput expected fd start p s = .ok () s' ↔
      scanEvent keepOutput expected fd start p s = .ok () s' := by
  cases hoff : isStreamoff fd start p with
  | false => rw [scanEvent_congr hoff]
  | true =>
      have hsame : clearOutput p.1 s.outputBuffers = .ok s.outputBuffers := by
        refine clearOutput_ok.mpr ⟨hread hoff, ?_⟩
        split_ifs with hnames
        · exact hout (by rw [isOutputStreamoff, hoff, hnames]; rfl)
        · rfl
      simp only [scanEvent_streamoff hoff, hsame, keepOutput]

lemma scan_iff (hout : NoneOutstanding events expected) (hread : StreamoffsReadable events)
    {s : Scan} : scan clearOutput events expected run = .ok s ↔
      scan keepOutput events expected run = .ok s := by
  simp only [scan_ok]
  refine and_congr_right fun _ => and_congr_right fun _ => exists_congr fun fd => exists_congr
    fun start => and_congr_right fun hsel => and_congr_left fun _ => ?_
  refine each_ok_congr fun pre p post t hsplit hpre s' => ?_
  exact clear_iff_keep (hout fd start hsel pre p post t hsplit hpre)
    (hread fd start hsel p (by simp [hsplit]))

/-- An accepted trace has readable STREAMOFFs only. -/
lemma readable_of_scan {s : Scan} (h : scan clearOutput events expected run = .ok s) :
    StreamoffsReadable events := by
  obtain ⟨_, _, fd, start, hsel, heach, _⟩ := scan_ok.mp h
  intro fd' start' hsel' p hp hoff
  obtain ⟨rfl, rfl⟩ := Prod.mk.inj (Except.ok.inj (hsel.symm.trans hsel'))
  obtain ⟨pre, post, hsplit⟩ := List.append_of_mem hp
  rw [hsplit, each_append_ok] at heach
  obtain ⟨t, _, hrest⟩ := heach
  obtain ⟨t', hstep, _⟩ := each_cons_ok.mp hrest
  obtain ⟨_, _, _, _, _, out, hclear, _⟩ := (scanEvent_streamoff hoff).mp hstep
  exact (clearOutput_ok.mp hclear).1

/-- **The lifecycle adapter refines the base adapter.**  What it accepts, the base adapter accepts
with the retired OUTPUT buffers dequeued, with the same result.  On a trace in which nothing is
retired the two have the same outcome if every STREAMOFF is readable, and on one that the base
adapter accepts only then. -/
theorem lifecycle_refines (events : List Event) (expected : ℤ) (run : String) :
    (∀ r, lifecycleNormalize events expected run = .ok r →
      ∃ fd start, select events = .ok (fd, start) ∧
        (∃ ins, Retirement events expected fd start ins) ∧
        ∀ ins, Retirement events expected fd start ins →
          normalize (insertBefore ins events) expected run = .ok r) ∧
    (NoneOutstanding events expected →
      (StreamoffsReadable events →
        SameOutcome (lifecycleNormalize events expected run) (normalize events expected run)) ∧
      ((∃ r, normalize events expected run = .ok r) →
        (SameOutcome (lifecycleNormalize events expected run) (normalize events expected run) ↔
          StreamoffsReadable events))) := by
  have hagree : NoneOutstanding events expected → StreamoffsReadable events →
      SameOutcome (lifecycleNormalize events expected run) (normalize events expected run) := by
    intro hout hread
    refine sameOutcome_iff.mpr fun r => ⟨?_, ?_⟩
    · exact normalizeWith_of_scan fun s => (scan_iff hout hread).mp
    · exact normalizeWith_of_scan fun s => (scan_iff hout hread).mpr
  refine ⟨fun r hr => ?_, fun hout => ⟨hagree hout, ?_⟩⟩
  · have hr' := hr
    simp only [lifecycleNormalize, normalizeWith, Except.bind_ok] at hr'
    obtain ⟨s, hs, _⟩ := hr'
    obtain ⟨_, _, fd, start, hsel, _⟩ := scan_ok.mp hs
    refine ⟨fd, start, hsel, exists_retirement, fun ins hret => ?_⟩
    exact normalizeWith_of_scan (fun s => scan_retired hsel hret) hr
  · rintro ⟨r, hr⟩
    refine ⟨fun hsame => ?_, hagree hout⟩
    have hlife := (sameOutcome_iff.mp hsame r).mpr hr
    simp only [lifecycleNormalize, normalizeWith, Except.bind_ok] at hlife
    obtain ⟨s, hs, _⟩ := hlife
    exact readable_of_scan hs

end Refines

/-! ### Two traces -/

/-- The fixture with the events of its last picture and the arguments of STREAMOFF left open. -/
def stoppedFixture (last : List Event) (arguments : Json) : List Event :=
  [[("package_version", .str "1.32.0")],
    [("fd", .int 10), ("open", .obj [("path", .str "/private/device")])]] ++
  pictureEvents 0 0 0 4 ++ last ++
  [ioctl "VIDIOC_STREAMOFF" [("from_userspace", arguments)] 10,
    [("fd", .int 10), ("close", .str "/private/device")]]

/-- The client does not dequeue the last OUTPUT buffer. -/
def cancelledFixture : List Event :=
  stoppedFixture ((pictureEvents 1 2 0 5).eraseIdx 4)
    (.obj [("type", .str "V4L2_BUF_TYPE_VIDEO_OUTPUT_MPLANE")])

/-- The arguments of STREAMOFF are no object. -/
def malformedFixture : List Event := stoppedFixture (pictureEvents 1 2 0 5) (.int 0)

/-- The base adapter accepts the cancelled trace with the OUTPUT buffer dequeued. -/
theorem cancelledFixture_refines : ∃ r ins,
    lifecycleNormalize cancelledFixture 2 "1234567890abcdef" = .ok r ∧
      normalize (insertBefore ins cancelledFixture) 2 "1234567890abcdef" = .ok r := by
  have htargets : targets (lifecycleNormalize cancelledFixture 2 "1234567890abcdef") =
      some [(4, []), (5, [(4, 0)])] := by decide +kernel
  obtain ⟨records, associations, hr, _⟩ := ok_of_targets htargets
  obtain ⟨fd, start, _, ⟨ins, hret⟩, hall⟩ :=
    (lifecycle_refines cancelledFixture 2 "1234567890abcdef").1 _ hr
  exact ⟨_, ins, hr, hall ins hret⟩

lemma not_sameOutcome {x y : Read (List Record × List Association)}
    {ts : List (ℤ × List (ℤ × ℤ))} (hx : targets x = none) (hy : targets y = some ts) :
    ¬SameOutcome x y := by
  obtain ⟨records, associations, rfl, _⟩ := ok_of_targets hy
  cases x with
  | error e => simp [SameOutcome]
  | ok r => simp [targets] at hx

/-- Nothing is retired in the malformed trace, but only the base adapter accepts it. -/
theorem malformedFixture_differs : NoneOutstanding malformedFixture 2 ∧
    ¬SameOutcome (lifecycleNormalize malformedFixture 2 "1234567890abcdef")
      (normalize malformedFixture 2 "1234567890abcdef") := by
  constructor
  · intro fd start _ pre p post s hsplit _ hoff
    have hnone : malformedFixture.all fun e => !namesOutput e := by decide +kernel
    have hmem : p.1 ∈ malformedFixture := by
      have hp : p ∈ malformedFixture.zipIdx := by simp [hsplit]
      exact List.fst_mem_of_mem_zipIdx hp
    have hnames := List.all_eq_true.mp hnone p.1 hmem
    simp only [isOutputStreamoff, Bool.and_eq_true] at hoff
    simp [hoff.2] at hnames
  · have hbase : targets (normalize malformedFixture 2 "1234567890abcdef") =
        some [(4, []), (5, [(4, 0)])] := by decide +kernel
    have hlife : targets (lifecycleNormalize malformedFixture 2 "1234567890abcdef") = none := by
      decide +kernel
    exact not_sameOutcome hlife hbase

end OmarchyM1Video.HevcControls
