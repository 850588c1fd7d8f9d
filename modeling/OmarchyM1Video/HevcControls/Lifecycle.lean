import OmarchyM1Video.HevcControls.Accounting

/-!
`normalize` of `experiments/hevc-full-controls/lifecycle.py`.

The two event loops differ in one branch: an OUTPUT STREAMOFF retires the OUTPUT buffers that are
still queued.  Everything here rests on that one difference (`scanEvent_ok_iff`).

* `clearOutput`, `lifecycleNormalize`: the adapter;
* `scanEvent_ok_iff`: an event does what it does in the base loop, up to a STREAMOFF;
* `select_ok`: the video context, told by the events of the trace;
* `Ledger.Backed`, `clear_backed`: the timestamp of a queued OUTPUT buffer belongs to a picture or to
  a request that waits for its queue operation, and after the last picture it waits for ever
  (`clear_waits`).
-/

namespace OmarchyM1Video.HevcControls

open OmarchyM1Video.Py

/-! ### The adapter -/

/-- `.get("type") == OUT` of an object. -/
def isOutputType (arguments : List (String × Json)) : Bool :=
  match Json.member? arguments "type" with
  | some v => v.eqStr "V4L2_BUF_TYPE_VIDEO_OUTPUT_MPLANE"
  | none => false

/-- `if e.get("from_userspace", {}).get("type") == OUT: output_buffers.clear()`. -/
def clearOutput : Streamoff := fun e out =>
  match Json.member? e "from_userspace" with
  | none => .ok out
  | some (.obj arguments) => if isOutputType arguments then .ok ∅ else .ok out
  | some _ => .error (.builtin .attributeError)

/-- `normalize(events, expected, run)`: an OUTPUT STREAMOFF retires the queued OUTPUT buffers. -/
def lifecycleNormalize (events : List Event) (expected : ℤ) (run : String) :
    Read (List Record × List Association) :=
  normalizeWith clearOutput events expected run

/-- A STREAMOFF of the video context. -/
def isStreamoff (fd : ℤ) (start : ℕ) (p : Event × ℕ) : Bool :=
  decide (start < p.2) && onFd fd p.1 && opIs p.1 "VIDIOC_STREAMOFF"

/-- The arguments of the event, where there are any, are an object. -/
def argumentsReadable (e : Event) : Bool :=
  match Json.member? e "from_userspace" with
  | none => true
  | some v => v.isObj

/-- The event names the OUTPUT queue. -/
def namesOutput (e : Event) : Bool :=
  match Json.member? e "from_userspace" with
  | some (.obj arguments) => isOutputType arguments
  | _ => false

/-- An OUTPUT STREAMOFF of the video context. -/
def isOutputStreamoff (fd : ℤ) (start : ℕ) (p : Event × ℕ) : Bool :=
  isStreamoff fd start p && namesOutput p.1

lemma clearOutput_ok {e : Event} {out out' : Dict ℤ ℤ} :
    clearOutput e out = .ok out' ↔
      argumentsReadable e = true ∧ out' = if namesOutput e then ∅ else out := by
  rw [clearOutput, argumentsReadable, namesOutput]
  cases hus : Json.member? e "from_userspace" with
  | none => simp [eq_comm]
  | some v =>
      cases v with
      | obj arguments =>
          cases hout : isOutputType arguments <;> simp [hout, Json.isObj, eq_comm]
      | _ => simp [Json.isObj]

/-! ### The one difference -/

section Step

variable {streamoff : Streamoff} {expected fd : ℤ} {start : ℕ} {p : Event × ℕ} {s s' : Scan}

/-- Only a STREAMOFF of the video context depends on what STREAMOFF does. -/
lemma scanEvent_congr (h : isStreamoff fd start p = false) :
    scanEvent streamoff expected fd start p = scanEvent keepOutput expected fd start p := by
  obtain ⟨e, i⟩ := p
  by_cases hlt : start < i
  · by_cases hfd : onFd fd e = true
    · have hop : opIs e "VIDIOC_STREAMOFF" = false := by simpa [isStreamoff, hlt, hfd] using h
      simp only [scanEvent, afterOpen, videoOp, selectedOp, hop, Bool.false_eq_true, if_false]
    · simp only [scanEvent, afterOpen, hfd, Bool.false_eq_true, not_false_eq_true, true_or, if_true]
  · simp only [scanEvent, hlt, onlyIf, if_false]

lemma hasOp_of_opIs {e : Event} {name : String} (hop : opIs e name = true) (hname : name ≠ "") :
    hasOp e = true := by
  rw [opIs] at hop
  rw [hasOp]
  cases hget : Json.member? e "ioctl" with
  | none => simp [hget] at hop
  | some op =>
      simp only [hget, Json.eqStr_iff] at hop
      subst hop
      simp [Json.truthy, hname]

/-- A STREAMOFF is accepted on an open context after the last completion, and the rest is up to
what it does with the buffers. -/
lemma scanEvent_streamoff (h : isStreamoff fd start p = true) :
    scanEvent streamoff expected fd start p s = .ok () s' ↔
      ¬isOpen p.1 ∧ ¬has p.1 "close" ∧ ¬s.closed ∧ ¬has p.1 "errno" ∧
      (s.pictures ≠ [] ∧ (s.pictures.length : ℤ) = expected ∧ s.allComplete) ∧
      ∃ out, streamoff p.1 s.outputBuffers = .ok out ∧
        { s with outputBuffers := out, stopped := true } = s' := by
  obtain ⟨e, i⟩ := p
  simp only [isStreamoff, Bool.and_eq_true, decide_eq_true_eq] at h
  obtain ⟨⟨hlt, hfd⟩, hop⟩ := h
  have halloc : opIs e "MEDIA_IOC_REQUEST_ALLOC" = false := by simp [opIs_of_opIs hop]
  have hreq : isRequestOp e = false := by simp [isRequestOp, opIs_of_opIs hop]
  have hsel : selectedOps.any (opIs e) = true := by simp [selectedOps, opIs_of_opIs hop]
  have hempty : isEmptyDqbuf e = false := by simp [isEmptyDqbuf, opIs_of_opIs hop]
  have hhas : hasOp e = true := hasOp_of_opIs hop (by decide)
  simp only [scanEvent, halloc, onlyIf, if_false, hlt, if_true, afterOpen, hfd, true_and, hreq,
    Bool.false_eq_true, not_true_eq_false, hhas, or_self, videoOp, hsel, hempty, selectedOp, hop,
    streamOff]
  by_cases hclose : has e "close" = true
  · simp [hclose, bind_assoc]
  · simp [hclose, hfd, and_assoc]

/-- **The one difference**: an event does what it does in the base loop, and a STREAMOFF then does
its own with the OUTPUT buffers. -/
theorem scanEvent_ok_iff :
    scanEvent streamoff expected fd start p s = .ok () s' ↔
      ∃ t, scanEvent keepOutput expected fd start p s = .ok () t ∧
        if isStreamoff fd start p then
          ∃ out, streamoff p.1 t.outputBuffers = .ok out ∧ { t with outputBuffers := out } = s'
        else t = s' := by
  cases h : isStreamoff fd start p with
  | false => simp [scanEvent_congr h]
  | true =>
      simp only [scanEvent_streamoff h, keepOutput, if_true, Except.ok.injEq]
      constructor
      · rintro ⟨h₁, h₂, h₃, h₄, h₅, out, hout, rfl⟩
        exact ⟨_, ⟨h₁, h₂, h₃, h₄, h₅, _, rfl, rfl⟩, out, hout, rfl⟩
      · rintro ⟨t, ⟨h₁, h₂, h₃, h₄, h₅, _, rfl, rfl⟩, out, hout, rfl⟩
        exact ⟨h₁, h₂, h₃, h₄, h₅, out, hout, rfl⟩

end Step

/-! ### The video context of a longer trace -/

/-- What one event says about the video context: the descriptor it sets decode parameters on. -/
def candidate (e : Event) : Read (Option ℤ) :=
  if opIs e "VIDIOC_S_EXT_CTRLS" then do
    let (_, cs) ← controls e
    if cs.contains Control.decodeParams.cid then do
      let fd ← integer (← item e "fd") 0 u32Max
      return some fd
    else return none
  else return none

lemma candidates_cons {e : Event} {i : ℕ} {rest : List (Event × ℕ)} {cands : List (ℕ × ℤ)} :
    candidates ((e, i) :: rest) = .ok cands ↔
      ∃ o more, candidate e = .ok o ∧ candidates rest = .ok more ∧
        cands = (o.map fun fd => (i, fd)).toList ++ more := by
  rw [candidates, candidate]
  split_ifs with hop
  · simp only [Except.bind_ok]
    constructor
    · rintro ⟨⟨ext, cs⟩, hcs, h⟩
      dsimp only at h
      split_ifs at h with hdp
      · simp only [Except.bind_ok, Except.pure_ok] at h
        obtain ⟨v, hv, fd, hfd, more, hmore, rfl⟩ := h
        refine ⟨some fd, more, ⟨(ext, cs), hcs, ?_⟩, hmore, rfl⟩
        simp only [hdp, if_true, Except.bind_ok]
        exact ⟨v, hv, fd, hfd, rfl⟩
      · refine ⟨none, cands, ⟨(ext, cs), hcs, ?_⟩, h, rfl⟩
        simp [hdp]
    · rintro ⟨o, more, ⟨⟨ext, cs⟩, hcs, h⟩, hmore, rfl⟩
      refine ⟨(ext, cs), hcs, ?_⟩
      dsimp only at h ⊢
      split_ifs at h ⊢ with hdp
      · simp only [Except.bind_ok, Except.pure_ok] at h ⊢
        obtain ⟨v, hv, fd, hfd, rfl⟩ := h
        exact ⟨v, hv, fd, hfd, more, hmore, rfl⟩
      · obtain rfl := Except.pure_ok.mp h
        exact hmore
  · constructor
    · exact fun h => ⟨none, cands, rfl, h, rfl⟩
    · rintro ⟨o, more, ho, hmore, rfl⟩
      obtain rfl := Except.pure_ok.mp ho
      exact hmore

/-- The candidates name one descriptor, the first of them at a given place. -/
lemma candidates_ok {events : List Event} {k first : ℕ} {fd : ℤ} :
    (∃ cands, candidates (events.zipIdx k) = .ok cands ∧ cands.head? = some (first, fd) ∧
        ∀ c ∈ cands, c.2 = fd) ↔
      ∃ mid c rest, events = mid ++ c :: rest ∧ first = k + mid.length ∧
        (∀ e ∈ mid, candidate e = .ok none) ∧ candidate c = .ok (some fd) ∧
        ∀ e ∈ rest, candidate e = .ok none ∨ candidate e = .ok (some fd) := by
  have hall : ∀ (l : List Event) (k : ℕ), (∃ cands, candidates (l.zipIdx k) = .ok cands ∧
      ∀ c ∈ cands, c.2 = fd) ↔ ∀ e ∈ l, candidate e = .ok none ∨ candidate e = .ok (some fd) := by
    intro l
    induction l with
    | nil => simp [candidates]
    | cons e l ih =>
        intro k
        simp only [List.zipIdx_cons, candidates_cons, List.forall_mem_cons, ← ih (k + 1)]
        constructor
        · rintro ⟨_, ⟨o, more, ho, hmore, rfl⟩, hcands⟩
          refine ⟨?_, more, hmore, fun c hc => hcands c (List.mem_append_right _ hc)⟩
          cases o with
          | none => exact Or.inl ho
          | some f =>
              have hf : f = fd := hcands (k, f) (by simp)
              exact Or.inr (hf ▸ ho)
        · rintro ⟨ho | ho, more, hmore, hcands⟩
          · exact ⟨more, ⟨none, more, ho, hmore, rfl⟩, hcands⟩
          · refine ⟨_, ⟨some fd, more, ho, hmore, rfl⟩, ?_⟩
            simpa using hcands
  induction events generalizing k with
  | nil => simp [candidates]
  | cons e l ih =>
      simp only [List.zipIdx_cons, candidates_cons]
      constructor
      · rintro ⟨_, ⟨o, more, ho, hmore, rfl⟩, hhead, hcands⟩
        cases o with
        | none =>
            obtain ⟨mid, c, rest, rfl, rfl, hmid, hc, hrest⟩ := ih.mp ⟨more, hmore, hhead, hcands⟩
            refine ⟨e :: mid, c, rest, rfl, ?_, ?_, hc, hrest⟩
            · rw [List.length_cons]
              omega
            · exact List.forall_mem_cons.mpr ⟨ho, hmid⟩
        | some f =>
            obtain ⟨rfl, rfl⟩ : k = first ∧ f = fd := by simpa using hhead
            refine ⟨[], e, l, rfl, rfl, by simp, ho, (hall l _).mp ⟨more, hmore, ?_⟩⟩
            exact fun c hc => hcands c (List.mem_append_right _ hc)
      · rintro ⟨mid, c, rest, hsplit, hfirst, hmid, hc, hrest⟩
        cases mid with
        | nil =>
            obtain ⟨rfl, rfl⟩ := List.cons.inj hsplit
            subst hfirst
            obtain ⟨more, hmore, hcands⟩ := (hall l _).mpr hrest
            refine ⟨_, ⟨some fd, more, hc, hmore, rfl⟩, by simp, ?_⟩
            simpa using hcands
        | cons m mid =>
            obtain ⟨rfl, rfl⟩ := List.cons.inj hsplit
            obtain ⟨hm, hmid⟩ := List.forall_mem_cons.mp hmid
            have hfirst' : first = k + 1 + mid.length := by
              rw [hfirst, List.length_cons]
              omega
            obtain ⟨more, hmore, hhead, hcands⟩ :=
              ih.mpr ⟨mid, c, rest, rfl, hfirst', hmid, hc, hrest⟩
            exact ⟨more, ⟨none, more, hm, hmore, rfl⟩, hhead, hcands⟩

/-- The last position of a list with a property. -/
lemma getLast?_positions {α : Type} {q : α → Bool} {l : List α} {n : ℕ} :
    ((l.zipIdx.filter fun p => q p.1).map Prod.snd).getLast? = some n ↔
      ∃ pre o mid, l = pre ++ o :: mid ∧ pre.length = n ∧ q o = true ∧ ∀ x ∈ mid, q x = false := by
  induction l using List.reverseRecOn with
  | nil => simp
  | append_singleton l a ih =>
      rw [List.zipIdx_append, List.filter_append, List.map_append]
      cases ha : q a with
      | true =>
          simp only [List.zipIdx_singleton, List.filter_singleton, ha, cond_true,
            List.map_singleton, List.getLast?_append, List.getLast?_singleton, Option.some_or,
            Nat.zero_add, Option.some.injEq]
          constructor
          · rintro rfl
            exact ⟨l, a, [], rfl, rfl, ha, by simp⟩
          · rintro ⟨pre, o, mid, hsplit, rfl, _, hmid⟩
            rcases split_concat.mp hsplit with ⟨rfl, _, _⟩ | ⟨mid', rfl, _⟩
            · rfl
            · exact absurd (hmid a (by simp)) (by simp [ha])
      | false =>
          simp only [List.zipIdx_singleton, List.filter_singleton, ha, cond_false, List.map_nil,
            List.append_nil, ih]
          constructor
          · rintro ⟨pre, o, mid, rfl, rfl, ho, hmid⟩
            refine ⟨pre, o, mid ++ [a], by simp, rfl, ho, fun x hx => ?_⟩
            rcases List.mem_append.mp hx with hx | hx
            · exact hmid x hx
            · rw [List.mem_singleton.mp hx, ha]
          · rintro ⟨pre, o, mid, hsplit, rfl, ho, hmid⟩
            rcases split_concat.mp hsplit with ⟨_, rfl, _⟩ | ⟨mid', rfl, rfl⟩
            · exact absurd ha (by simp [ho])
            · exact ⟨pre, o, mid', rfl, rfl, ho, fun x hx => hmid x (by simp [hx])⟩

/-- The video context: its last open, events that set no decode parameters, the first decode
parameters, and no decode parameters of another descriptor after them. -/
lemma select_ok {events : List Event} {fd : ℤ} {start : ℕ} :
    select events = .ok (fd, start) ↔
      ∃ pre o mid c rest, events = pre ++ o :: mid ++ c :: rest ∧ pre.length = start ∧
        (onFd fd o && isOpen o) = true ∧ (∀ e ∈ mid, (onFd fd e && isOpen e) = false) ∧
        (∀ e ∈ pre ++ o :: mid, candidate e = .ok none) ∧ candidate c = .ok (some fd) ∧
        ∀ e ∈ rest, candidate e = .ok none ∨ candidate e = .ok (some fd) := by
  simp only [select, Except.bind_ok, found_ok, need_ok, Except.pure_ok, Prod.mk.injEq]
  constructor
  · rintro ⟨cands, hcands, ⟨first, fd'⟩, hhead, _, hfds, start', hopen, rfl, rfl⟩
    obtain ⟨before, c, rest, rfl, hfirst, hbefore, hc, hrest⟩ :=
      candidates_ok.mp ⟨cands, hcands, hhead, hfds⟩
    dsimp only at hopen hfds hc hrest
    rw [hfirst, Nat.zero_add, List.take_left] at hopen
    obtain ⟨pre, o, mid, rfl, hlen, ho, hmid⟩ :=
      (getLast?_positions (q := fun e => onFd fd' e && isOpen e)).mp hopen
    exact ⟨pre, o, mid, c, rest, rfl, hlen, ho, hmid, hbefore, hc, hrest⟩
  · rintro ⟨pre, o, mid, c, rest, rfl, hlen, ho, hmid, hbefore, hc, hrest⟩
    obtain ⟨cands, hcands, hhead, hfds⟩ :=
      (candidates_ok (k := 0)).mpr ⟨pre ++ o :: mid, c, rest, rfl, rfl, hbefore, hc, hrest⟩
    refine ⟨cands, hcands, (0 + (pre ++ o :: mid).length, fd), hhead, (), hfds, start, ?_, rfl, rfl⟩
    dsimp only
    rw [Nat.zero_add, List.take_left]
    exact (getLast?_positions (q := fun e => onFd fd e && isOpen e)).mpr
      ⟨pre, o, mid, rfl, hlen, ho, hmid⟩

/-! ### OUTPUT buffers and their pictures -/

namespace Ledger

variable {l l' : Ledger} {a : Action}

/-- The timestamp of a queued OUTPUT buffer belongs to a picture, or to a request that waits for its
queue operation. -/
def Backed (l : Ledger) : Prop :=
  ∀ bi ts, l.outputBuffers.get? bi = some ts →
    (∃ id, l.byTimestamp.get? ts = some id) ∨ ∃ f, l.stampOf f = some ts ∧ l.Unqueued f

lemma Step.output_from (hstep : Step l a l') {bi ts : ℤ}
    (hbuf : l'.outputBuffers.get? bi = some ts) :
    (∃ f, a = .queueOutput bi f ts) ∨ l.outputBuffers.get? bi = some ts := by
  cases hstep with
  | @queueOutput index g t _ hfree =>
      rw [Dict.get?_set] at hbuf
      split_ifs at hbuf with hidx
      · obtain rfl := Option.some.inj hbuf
        exact Or.inl ⟨g, by rw [hidx]⟩
      · exact Or.inr hbuf
  | @dequeueOutput index t _ =>
      rw [Dict.get?_erase] at hbuf
      split_ifs at hbuf
      exact Or.inr hbuf
  | @setControls g cs _ =>
      change (l.opened g).outputBuffers.get? bi = some ts at hbuf
      rw [opened_outputBuffers] at hbuf
      exact Or.inr hbuf
  | _ => exact Or.inr hbuf

/-- A picture keeps its timestamp. -/
lemma Step.byTimestamp (hstep : Step l a l') {ts : ℤ} {id : ℕ}
    (hts : l.byTimestamp.get? ts = some id) : l'.byTimestamp.get? ts = some id := by
  cases hstep with
  | @queue g i t dp sl sps _ _ _ hnew =>
      have hne : ts ≠ t := by
        rintro rfl
        exact absurd (hnew.symm.trans hts) (by simp)
      rw [Dict.get?_set, if_neg hne]
      exact hts
  | setControls cs _ => exact (congrArg (Dict.get? · ts) opened_byTimestamp).trans hts
  | queueOutput _ _ => exact (congrArg (Dict.get? · ts) opened_byTimestamp).trans hts
  | _ => exact hts

lemma Step.queue_byTimestamp {f ts : ℤ} (hstep : Step l (.queue f) l')
    (hstamp : l.stampOf f = some ts) : ∃ id, l'.byTimestamp.get? ts = some id := by
  cases hstep with
  | @queue _ id t dp sl sps hreq _ hts _ =>
      rw [Ledger.stampOf, hreq, Option.bind_some] at hstamp
      obtain rfl := Option.some.inj (hts.symm.trans hstamp)
      exact ⟨id, by simp⟩

lemma Step.backed (hstep : Step l a l') (hinv : l.Inv) (h : l.Backed) : l'.Backed := by
  intro bi ts hbuf
  rcases hstep.output_from hbuf with ⟨f, rfl⟩ | hold
  · refine Or.inr ⟨f, (hstep.stampOf hinv).mpr (Or.inl ⟨bi, rfl⟩), ?_⟩
    exact hstep.filled hinv (Or.inr ⟨bi, ts, rfl⟩)
  · rcases h bi ts hold with ⟨id, hid⟩ | ⟨f, hstamp, hunq⟩
    · exact Or.inl ⟨id, hstep.byTimestamp hid⟩
    · rcases hstep.unqueued hinv hunq with rfl | ⟨hunq', hreset⟩
      · exact Or.inl (hstep.queue_byTimestamp hstamp)
      · exact Or.inr ⟨f, (hstep.stampOf hinv).mpr (Or.inr ⟨hstamp, hreset⟩), hunq'⟩

end Ledger

lemma videoAction_ne_queue {e : Event} {f : ℤ} : videoAction e ≠ some (.queue f) := by
  rw [videoAction]
  split_ifs
  · simp only [controlsAction, Option.bind_eq_bind, ne_eq, Option.bind_eq_some_iff, not_exists,
      not_and]
    intro which _
    split_ifs
    · simp [Option.bind_eq_some_iff]
    · simp
  · simp only [qbufAction, Option.bind_eq_bind, ne_eq, Option.bind_eq_some_iff, not_exists, not_and]
    intro kind _ bi _
    cases kind <;> simp [Option.bind_eq_some_iff]
  · simp
  · simp only [dqbufAction, Option.bind_eq_bind, ne_eq, Option.bind_eq_some_iff, not_exists,
      not_and]
    intro kind _ bi _ ts _
    cases kind <;> simp
  · simp

section Lifecycle

variable {expected fd : ℤ} {start : ℕ} {p : Event × ℕ} {s s' : Scan}

/-- A queue operation needs room for one more picture. -/
lemma scanEvent_queue {f : ℤ} (h : scanEvent keepOutput expected fd start p s = .ok () s')
    (ha : actionAt fd start p = .queue f) : (s.pictures.length : ℤ) < expected := by
  obtain ⟨e, i⟩ := p
  rw [actionAt, action?] at ha
  split_ifs at ha with halloc hle hreq hfd
  · cases hx : intAt ["from_driver", "request_fd"] e <;> simp [hx] at ha
  · simp at ha
  · rw [requestAction] at ha
    simp only [scanEvent, bind_ok (x := onlyIf _ _), onlyIf_ok] at h
    obtain ⟨_, t, ⟨hop, _⟩ | ⟨_, rfl⟩, h⟩ := h
    · exact absurd hop halloc
    rcases h with ⟨_, h⟩ | ⟨hlt, _⟩
    · obtain ⟨t, hled, ⟨_, hrun⟩ | ⟨hnot, _⟩ | ⟨hnot, _⟩⟩ := afterOpen_ok h
      · simp only [requestOp, lift_bind_ok, item_ok, integer_ok, get_bind] at hrun
        obtain ⟨v, hv, reqfd, ⟨rfl, _⟩, hrun⟩ := hrun
        have hroot : (Json.obj e).get? "fd" = some (.int reqfd) := hv
        have hint : intAt ["fd"] e = some reqfd := intAt_of_walk (by simp [walk, hroot])
        have hre : ¬opIs e "MEDIA_REQUEST_IOC_REINIT" = true := fun hre => by
          simp [hint, hre] at ha
        cases hid : t.requests.get? reqfd with
        | none => simp [hid, hre] at hrun
        | some id =>
            simp only [hid, raiseIf_bind_ok, hre, queueRequest, get_bind, orRaise_bind_ok,
              lift_bind_ok, if_false, Bool.false_eq_true, not_not] at hrun
            obtain ⟨_, _, cs, _, dp, _, sl, _, sps, _, ts, _, _, hroom, _⟩ := hrun
            rwa [hled] at hroom
      · exact absurd hreq (by simp [hnot])
      · exact absurd hreq (by simp [hnot])
    · exact absurd (Nat.lt_of_not_le hle) hlt
  · cases hx : videoAction e with
    | none => simp [hx] at ha
    | some a =>
        rw [hx, Option.getD_some] at ha
        exact absurd (ha ▸ hx) videoAction_ne_queue
  · simp at ha

/-- A step of the lifecycle loop is a step of the base loop, up to the OUTPUT buffers. -/
lemma clear_step (h : scanEvent clearOutput expected fd start p s = .ok () s') :
    ∃ t, scanEvent keepOutput expected fd start p s = .ok () t ∧
      Ledger.Step s.toLedger (actionAt fd start p) t.toLedger ∧
      s' = { t with outputBuffers := s'.outputBuffers } ∧
      (s'.outputBuffers = t.outputBuffers ∨ s'.outputBuffers = ∅) := by
  obtain ⟨t, ht, h⟩ := scanEvent_ok_iff.mp h
  refine ⟨t, ht, step_of_scanEvent ht, ?_⟩
  split_ifs at h
  · obtain ⟨out, hout, rfl⟩ := h
    refine ⟨rfl, ?_⟩
    obtain ⟨_, rfl⟩ := clearOutput_ok.mp hout
    split_ifs
    · exact Or.inr rfl
    · exact Or.inl rfl
  · subst h
    exact ⟨rfl, Or.inl rfl⟩

lemma clear_inv (hinv : s.toLedger.Inv)
    (h : scanEvent clearOutput expected fd start p s = .ok () s') : s'.toLedger.Inv := by
  obtain ⟨t, _, hstep, hs', _⟩ := clear_step h
  rw [hs']
  exact (hinv.step hstep).congr fun _ _ hget => hget

lemma clear_backed (hinv : s.toLedger.Inv) (hback : s.toLedger.Backed)
    (h : scanEvent clearOutput expected fd start p s = .ok () s') : s'.toLedger.Backed := by
  obtain ⟨t, _, hstep, hs', hout⟩ := clear_step h
  rw [hs']
  intro bi ts hbuf
  rcases hout with hout | hout
  · exact hstep.backed hinv hback bi ts (hout ▸ hbuf)
  · simp [hout] at hbuf

/-- After the last picture a request that waits for its queue operation waits for ever. -/
lemma clear_waits {f : ℤ} (hinv : s.toLedger.Inv) (hfull : (s.pictures.length : ℤ) = expected)
    (hunq : s.Unqueued f) (h : scanEvent clearOutput expected fd start p s = .ok () s') :
    (s'.pictures.length : ℤ) = expected ∧ s'.Unqueued f := by
  obtain ⟨t, ht, hstep, hs', _⟩ := clear_step h
  have hnoqueue : ∀ g, actionAt fd start p ≠ .queue g := fun g hg =>
    (scanEvent_queue ht hg).ne hfull
  rw [hs']
  constructor
  · rcases hstep.pictures with ⟨g, _, hg, _⟩ | ⟨_, hpics⟩
    · exact absurd hg (hnoqueue g)
    · change (t.pictures.length : ℤ) = expected
      rw [hpics, hfull]
  · rcases hstep.unqueued hinv hunq with hg | ⟨hunq', _⟩
    · exact absurd hg (hnoqueue f)
    · exact hunq'

end Lifecycle

end OmarchyM1Video.HevcControls
