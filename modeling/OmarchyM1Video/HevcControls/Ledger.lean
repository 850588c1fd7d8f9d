import OmarchyM1Video.HevcControls.Scan
import OmarchyM1Video.Py.History

/-!
What an accepted event does to the bookkeeping of the event loop.

* `Action`, `actionAt`: an event as the requests and the buffers see it, read off the event without
  any check;
* `Ledger.Step`, `step_of_scanEvent`: an accepted event is one step of the ledger, labelled with its
  action;
* `Ledger.Inv`: request objects, pictures and timestamps hang together, after every run of the loop
  (`inv_of_run`);
* `Scanned`: what the loop and the checks after it leave.
-/

namespace OmarchyM1Video.HevcControls

open OmarchyM1Video.Py

/-! ### Actions -/

/-- What an event does to requests and buffers. -/
inductive Action where
  | alloc (reqfd : ℤ)
  | reinit (reqfd : ℤ)
  | queue (reqfd : ℤ)
  | setControls (reqfd : ℤ)
  | queueOutput (index reqfd timestamp : ℤ)
  | dequeueOutput (index timestamp : ℤ)
  | queueCapture (index : ℤ)
  | completeCapture (index timestamp : ℤ)
  | other
  deriving DecidableEq, Repr

/-- The value under a path of names. -/
def walk (path : List String) (e : Event) : Option Json := path.foldlM (fun j k => j.get? k) (.obj e)

/-- The integer under a path of names. -/
def intAt (path : List String) (e : Event) : Option ℤ :=
  match walk path e with
  | some (.int n) => some n
  | _ => none

/-- The kind of the buffer argument of an event. -/
def kindAt (direction : String) (e : Event) : Option Kind :=
  match walk [direction, "v4l2_buffer", "type"] e with
  | some v =>
      if v.eqStr "V4L2_BUF_TYPE_VIDEO_OUTPUT_MPLANE" then some .out
      else if v.eqStr "V4L2_BUF_TYPE_VIDEO_CAPTURE_MPLANE" then some .cap
      else none
  | none => none

/-- A QBUF event as an action. -/
def qbufAction (e : Event) : Option Action := do
  let kind ← kindAt "from_userspace" e
  let bi ← intAt ["from_userspace", "v4l2_buffer", "index"] e
  match kind with
  | .cap => return .queueCapture bi
  | .out => do
      let reqfd ← intAt ["from_userspace", "v4l2_buffer", "request_fd"] e
      let ts ← intAt ["from_userspace", "v4l2_buffer", "timestamp_ns"] e
      return .queueOutput bi reqfd ts

/-- A DQBUF event as an action. -/
def dqbufAction (e : Event) : Option Action := do
  let kind ← kindAt "from_driver" e
  let bi ← intAt ["from_driver", "v4l2_buffer", "index"] e
  let ts ← intAt ["from_driver", "v4l2_buffer", "timestamp_ns"] e
  match kind with
  | .cap => return .completeCapture bi ts
  | .out => return .dequeueOutput bi ts

/-- A control event as an action, if its controls belong to a request. -/
def controlsAction (e : Event) : Option Action := do
  let which ← walk ["from_userspace", "v4l2_ext_controls", "which"] e
  if which.eqStr "V4L2_CTRL_WHICH_REQUEST_VAL" then do
    let reqfd ← intAt ["from_userspace", "v4l2_ext_controls", "request_fd"] e
    return .setControls reqfd
  else none

/-- A request ioctl as an action. -/
def requestAction (e : Event) : Option Action :=
  (intAt ["fd"] e).map fun reqfd =>
    if opIs e "MEDIA_REQUEST_IOC_REINIT" then .reinit reqfd else .queue reqfd

/-- A video ioctl as an action. -/
def videoAction (e : Event) : Option Action :=
  if opIs e "VIDIOC_S_EXT_CTRLS" then controlsAction e
  else if opIs e "VIDIOC_QBUF" then qbufAction e
  else if isEmptyDqbuf e then none
  else if opIs e "VIDIOC_DQBUF" then dqbufAction e
  else none

/-- An event of the trace as an action: allocations count everywhere, everything else after the
open of the video context only. -/
def action? (fd : ℤ) (start : ℕ) (p : Event × ℕ) : Option Action :=
  if opIs p.1 "MEDIA_IOC_REQUEST_ALLOC" then
    (intAt ["from_driver", "request_fd"] p.1).map .alloc
  else if p.2 ≤ start then none
  else if isRequestOp p.1 then requestAction p.1
  else if onFd fd p.1 then videoAction p.1
  else none

def actionAt (fd : ℤ) (start : ℕ) (p : Event × ℕ) : Action := (action? fd start p).getD .other

namespace Ledger

/-! ### The writes of an action -/

/-- The object that `requests.setdefault(reqfd, {})` returns. -/
def requestId (l : Ledger) (reqfd : ℤ) : ℕ := (l.requests.get? reqfd).getD l.created

/-- The ledger after `requests.setdefault(reqfd, {})`. -/
def opened (l : Ledger) (reqfd : ℤ) : Ledger :=
  match l.requests.get? reqfd with
  | some _ => l
  | none => { l with requests := l.requests.set reqfd l.created, created := l.created + 1 }

section Opened

variable {l : Ledger} {f g : ℤ}

lemma opened_objects : (l.opened f).objects = l.objects := by
  rw [opened]
  split <;> rfl

lemma opened_pictures : (l.opened f).pictures = l.pictures := by
  rw [opened]
  split <;> rfl

lemma opened_byTimestamp : (l.opened f).byTimestamp = l.byTimestamp := by
  rw [opened]
  split <;> rfl

lemma opened_captureBuffers : (l.opened f).captureBuffers = l.captureBuffers := by
  rw [opened]
  split <;> rfl

lemma opened_outputBuffers : (l.opened f).outputBuffers = l.outputBuffers := by
  rw [opened]
  split <;> rfl

lemma opened_requests :
    (l.opened f).requests.get? g = if g = f then some (l.requestId f) else l.requests.get? g := by
  rw [opened, requestId]
  cases hf : l.requests.get? f with
  | some id =>
      split_ifs with hg
      · rw [hg, hf]
        rfl
      · rfl
  | none => simp

end Opened

/-- The request object after it has been queued as a picture. -/
def queuedReq (l : Ledger) (id : ℕ) (dp sl sps : Json) : Req :=
  { l.objects id with
    queued := true
    dp := some dp
    sl := some sl
    sps := some sps
    pic := some (l.pictures.length + 1) }

/-- One accepted event, as the ledger sees it. -/
inductive Step (l : Ledger) : Action → Ledger → Prop where
  | other : Step l .other l
  | alloc {reqfd} (hfree : l.pending reqfd = false) :
      Step l (.alloc reqfd) { l with
        allocations := insert reqfd l.allocations
        requests := l.requests.erase reqfd }
  | reinitUnused {reqfd} (hreq : l.requests.get? reqfd = none) : Step l (.reinit reqfd) l
  | reinit {reqfd id} (hreq : l.requests.get? reqfd = some id)
      (hcomplete : (l.objects id).complete = true) :
      Step l (.reinit reqfd) { l with requests := l.requests.erase reqfd }
  | queue {reqfd id ts} (dp sl sps : Json) (hreq : l.requests.get? reqfd = some id)
      (hunqueued : (l.objects id).queued = false) (hts : (l.objects id).timestamp = some ts)
      (hnew : l.byTimestamp.get? ts = none) :
      Step l (.queue reqfd) { l.write id (l.queuedReq id dp sl sps) with
        pictures := l.pictures ++ [id]
        byTimestamp := l.byTimestamp.set ts id }
  | setControls {reqfd} (cs : Dict String Json)
      (hunqueued : (l.objects (l.requestId reqfd)).queued = false) :
      Step l (.setControls reqfd) ((l.opened reqfd).write (l.requestId reqfd)
        { l.objects (l.requestId reqfd) with controls := some cs })
  | queueOutput {index reqfd ts} (hunused : (l.objects (l.requestId reqfd)).timestamp = none)
      (hfree : l.outputBuffers.get? index = none) :
      Step l (.queueOutput index reqfd ts) { (l.opened reqfd).write (l.requestId reqfd)
          { l.objects (l.requestId reqfd) with timestamp := some ts } with
        outputBuffers := l.outputBuffers.set index ts }
  | dequeueOutput {index ts} (hbuf : l.outputBuffers.get? index = some ts) :
      Step l (.dequeueOutput index ts) { l with outputBuffers := l.outputBuffers.erase index }
  | queueCapture {index} (hfree : index ∉ l.captureBuffers) :
      Step l (.queueCapture index) { l with captureBuffers := insert index l.captureBuffers }
  | completeCapture {index ts id} (hbuf : index ∈ l.captureBuffers)
      (hts : l.byTimestamp.get? ts = some id) (hopen : (l.objects id).complete = false) :
      Step l (.completeCapture index ts) { l.write id
          { l.objects id with complete := true, target := some index } with
        captureBuffers := l.captureBuffers.erase index }

lemma Step.eq_of_other {l l' : Ledger} (h : Step l .other l') : l' = l := by
  cases h
  rfl

end Ledger

/-! ### The readers -/

lemma integer_ok {v : Json} {low high n : ℤ} :
    integer v low high = .ok n ↔ v = .int n ∧ low ≤ n ∧ n ≤ high := by
  cases v with
  | int m =>
      by_cases h : low ≤ m ∧ m ≤ high
      · simp only [integer, h, and_self, if_true, Except.ok.injEq, Json.int.injEq]
        constructor
        · rintro rfl
          exact ⟨rfl, h⟩
        · exact fun hm => hm.1
      · simp only [integer, h, if_false, reduceCtorEq, Json.int.injEq, false_iff]
        rintro ⟨rfl, hm⟩
        exact h hm
  | _ => simp [integer]

lemma item_ok {e : Event} {name : String} {v : Json} :
    item e name = .ok v ↔ Json.member? e name = some v := found_ok

/-- An event has one operation. -/
lemma opIs_of_opIs {e : Event} {a : String} (h : opIs e a = true) (b : String) :
    opIs e b = decide (a = b) := by
  rw [opIs] at h ⊢
  cases hop : Json.member? e "ioctl" with
  | none => simp [hop] at h
  | some op =>
      simp only [hop, Json.eqStr_iff] at h
      subst h
      simp [Json.eqStr]

lemma arguments_ok {e : Event} {direction key : String} {b : Json}
    (h : arguments e direction key = .ok b) : walk [direction, key] e = some b := by
  simp only [arguments, Except.bind_ok, item_ok, Json.item_ok, need_ok, Except.pure_ok] at h
  obtain ⟨outer, houter, result, hresult, _, _, rfl⟩ := h
  have hroot : (Json.obj e).get? direction = some outer := houter
  simp [walk, hroot, hresult]

/-- A member of an argument object is a longer path. -/
lemma walk_concat {path : List String} {e : Event} {b v : Json} {name : String}
    (hb : walk path e = some b) (hv : b.get? name = some v) : walk (path ++ [name]) e = some v := by
  rw [walk] at hb
  simp [walk, List.foldlM_append, hb, hv]

lemma intAt_of_walk {path : List String} {e : Event} {n : ℤ} (h : walk path e = some (.int n)) :
    intAt path e = some n := by
  simp [intAt, h]

lemma timestamp_ok {b : Json} {ts : ℤ} (h : timestamp b = .ok ts) :
    b.get? "timestamp_ns" = some (.int ts) := by
  simp only [timestamp, Except.bind_ok, Json.item_ok, integer_ok, need_ok, Except.pure_ok] at h
  obtain ⟨v, hv, ns, ⟨rfl, _⟩, _, _, _, _, _, _, _, _, _, _, _, _, _, _, rfl⟩ := h
  exact hv

lemma Kind.read_ok {v : Json} {kind : Kind} (h : Kind.read v = .ok kind) :
    (if v.eqStr "V4L2_BUF_TYPE_VIDEO_OUTPUT_MPLANE" then some Kind.out
      else if v.eqStr "V4L2_BUF_TYPE_VIDEO_CAPTURE_MPLANE" then some Kind.cap
      else none) = some kind := by
  rw [Kind.read] at h
  split_ifs at h ⊢ <;> simp_all

lemma readBuffer_ok {e : Event} {direction : String} {b : BufferArg}
    (h : readBuffer e direction = .ok b) :
    kindAt direction e = some b.kind ∧
      intAt [direction, "v4l2_buffer", "index"] e = some b.index ∧
      walk [direction, "v4l2_buffer"] e = some b.buf := by
  simp only [readBuffer, Except.bind_ok, Json.item_ok, integer_ok, Except.pure_ok] at h
  obtain ⟨buf, hbuf, t, ht, kind, hkind, v, hv, bi, ⟨rfl, _⟩, f, hf, bf, hbf, rfl⟩ := h
  have hwalk := arguments_ok hbuf
  refine ⟨?_, intAt_of_walk (walk_concat hwalk hv), hwalk⟩
  have htype : walk [direction, "v4l2_buffer", "type"] e = some t := walk_concat hwalk ht
  rw [kindAt, htype]
  exact Kind.read_ok hkind

lemma controls_ok {e : Event} {ext : Json} {cs : Dict String Json}
    (h : controls e = .ok (ext, cs)) :
    walk ["from_userspace", "v4l2_ext_controls"] e = some ext := by
  simp only [controls, Except.bind_ok] at h
  obtain ⟨ext', hext, items, hitems, h⟩ := h
  cases items with
  | arr xs =>
      simp only [Except.bind_ok, Except.pure_ok, Prod.mk.injEq] at h
      obtain ⟨_, _, _, _, _, _, _, _, _, _, rfl, _⟩ := h
      exact arguments_ok hext
  | _ => simp at h

/-! ### The branches -/

section Branches

variable {s s' : Scan} {e : Event} {fd expected : ℤ} {start : ℕ}

lemma allocate_ok (h : allocate e s = .ok () s') :
    ∃ reqfd, intAt ["from_driver", "request_fd"] e = some reqfd ∧
      Ledger.Step s.toLedger (.alloc reqfd) s'.toLedger := by
  simp only [allocate, raiseIf_bind_ok, lift_bind_ok, item_ok, Json.item_ok, integer_ok, get_bind,
    modify_run, EStateM.Result.ok.injEq, true_and] at h
  obtain ⟨_, driver, hdriver, v, hv, reqfd, ⟨rfl, _⟩, hpending, rfl⟩ := h
  have hroot : (Json.obj e).get? "from_driver" = some driver := hdriver
  refine ⟨reqfd, intAt_of_walk ?_, .alloc (by simpa using hpending)⟩
  simp [walk, hroot, hv]

lemma requestFor_ok {reqfd : ℤ} {id : ℕ} :
    requestFor reqfd s = .ok id s' ↔
      s.requestId reqfd = id ∧ { s with toLedger := s.opened reqfd } = s' := by
  cases hreq : s.requests.get? reqfd with
  | some i => simp [requestFor, Ledger.requestId, Ledger.opened, hreq]
  | none =>
      simp only [requestFor, get_bind, hreq, modify_bind, pure_run, EStateM.Result.ok.injEq,
        Ledger.requestId, Ledger.opened, Option.getD_none]

lemma queueRequest_ok {reqfd : ℤ} {id : ℕ} (hreq : s.requests.get? reqfd = some id)
    (h : queueRequest expected id s = .ok () s') :
    Ledger.Step s.toLedger (.queue reqfd) s'.toLedger := by
  simp only [queueRequest, get_bind, raiseIf_bind_ok, orRaise_bind_ok, lift_bind_ok, modify_run,
    EStateM.Result.ok.injEq, true_and] at h
  obtain ⟨hlate, cs, hcs, dp, hdp, sl, hsl, sps, hsps, ts, hts, hnew, hcount, rfl⟩ := h
  exact .queue dp sl sps hreq (by simpa using (not_or.mp (not_or.mp hlate).2).2) hts
    (by simpa [Dict.contains] using hnew)

lemma requestOp_ok (h : requestOp expected e s = .ok () s') :
    ∃ reqfd, intAt ["fd"] e = some reqfd ∧ Ledger.Step s.toLedger
      (if opIs e "MEDIA_REQUEST_IOC_REINIT" then .reinit reqfd else .queue reqfd)
      s'.toLedger := by
  simp only [requestOp, lift_bind_ok, item_ok, integer_ok, get_bind] at h
  obtain ⟨v, hv, reqfd, ⟨rfl, _⟩, h⟩ := h
  have hroot : (Json.obj e).get? "fd" = some (.int reqfd) := hv
  refine ⟨reqfd, intAt_of_walk (by simp [walk, hroot]), ?_⟩
  cases hreq : s.requests.get? reqfd with
  | none =>
      simp only [hreq, raiseIf_ok, not_not] at h
      obtain ⟨⟨hre, _⟩, rfl⟩ := h
      rw [if_pos hre]
      exact .reinitUnused hreq
  | some id =>
      simp only [hreq, raiseIf_bind_ok] at h
      obtain ⟨_, h⟩ := h
      split_ifs at h ⊢ with hre
      · simp only [raiseIf_bind_ok, modify_run, EStateM.Result.ok.injEq, true_and] at h
        obtain ⟨hcomplete, rfl⟩ := h
        exact .reinit hreq (by simpa using hcomplete)
      · exact queueRequest_ok hreq h

lemma setExtCtrls_ok (h : setExtCtrls e s = .ok () s') :
    Ledger.Step s.toLedger ((controlsAction e).getD .other) s'.toLedger := by
  simp only [setExtCtrls, lift_bind_ok, Json.item_ok] at h
  obtain ⟨⟨ext, cs⟩, hcs, which, hwhich, h⟩ := h
  have hwalk := controls_ok hcs
  have hwhich' : walk ["from_userspace", "v4l2_ext_controls", "which"] e = some which :=
    walk_concat hwalk hwhich
  split_ifs at h with hval
  · simp only [setRequestControls, get_bind, raiseIf_bind_ok, lift_bind_ok, Json.item_ok,
      integer_ok, bind_ok (x := requestFor _), requestFor_ok, modify_run, EStateM.Result.ok.injEq,
      true_and] at h
    obtain ⟨_, v, hv, reqfd, ⟨rfl, _⟩, _, id, t, ⟨rfl, rfl⟩, hunq, hdisj, rfl⟩ := h
    have hfd : intAt ["from_userspace", "v4l2_ext_controls", "request_fd"] e = some reqfd :=
      intAt_of_walk (walk_concat hwalk hv)
    have hact : controlsAction e = some (.setControls reqfd) := by
      simp [controlsAction, hwhich', hval, hfd]
    rw [hact, Option.getD_some]
    simp only [Ledger.opened_objects] at hunq hdisj ⊢
    exact .setControls _ (by simpa using hunq)
  · have hact : controlsAction e = none := by simp [controlsAction, hwhich', hval]
    rw [hact, Option.getD_none]
    simp only [get_bind, raiseIf_bind_ok, onlyIf_ok, lift_bind_ok, pure_run,
      EStateM.Result.ok.injEq, true_and] at h
    obtain ⟨_, ⟨_, _, _, rfl⟩ | ⟨_, rfl⟩⟩ := h
    · exact .other
    · exact .other

lemma queueBuffer_ok (h : queueBuffer e s = .ok () s') :
    Ledger.Step s.toLedger ((qbufAction e).getD .other) s'.toLedger := by
  simp only [queueBuffer, lift_bind_ok, get_bind, raiseIf_bind_ok] at h
  obtain ⟨b, hb, _, h⟩ := h
  obtain ⟨hkind, hindex, hbuf⟩ := readBuffer_ok hb
  cases hk : b.kind with
  | cap =>
      simp only [hk, raiseIf_bind_ok, modify_run, EStateM.Result.ok.injEq, true_and] at h
      obtain ⟨hfree, rfl⟩ := h
      have hact : qbufAction e = some (.queueCapture b.index) := by
        simp [qbufAction, hkind, hindex, hk]
      rw [hact, Option.getD_some]
      exact .queueCapture hfree
  | out =>
      simp only [hk, queueOutput, raiseIf_bind_ok, lift_bind_ok, Json.item_ok, integer_ok, get_bind,
        bind_ok (x := requestFor _), requestFor_ok, modify_run, EStateM.Result.ok.injEq,
        true_and, not_not] at h
      obtain ⟨_, v, hv, reqfd, ⟨rfl, _⟩, _, id, t, ⟨rfl, rfl⟩, hunused, ts, hts, rfl⟩ := h
      have hfd : intAt ["from_userspace", "v4l2_buffer", "request_fd"] e = some reqfd :=
        intAt_of_walk (walk_concat hbuf hv)
      have hns : intAt ["from_userspace", "v4l2_buffer", "timestamp_ns"] e = some ts :=
        intAt_of_walk (walk_concat hbuf (timestamp_ok hts))
      have hact : qbufAction e = some (.queueOutput b.index reqfd ts) := by
        simp [qbufAction, hkind, hindex, hk, hfd, hns]
      rw [hact, Option.getD_some]
      simp only [Ledger.opened_objects, Ledger.opened_outputBuffers] at hunused ⊢
      exact .queueOutput hunused.1 (by simpa [Dict.contains] using hunused.2)

lemma dequeueBuffer_ok (h : dequeueBuffer e s = .ok () s') :
    Ledger.Step s.toLedger ((dqbufAction e).getD .other) s'.toLedger := by
  simp only [dequeueBuffer, lift_bind_ok, get_bind, orRaise_bind_ok] at h
  obtain ⟨b, hb, ts, hts, id, hid, h⟩ := h
  obtain ⟨hkind, hindex, hbuf⟩ := readBuffer_ok hb
  have hns : intAt ["from_driver", "v4l2_buffer", "timestamp_ns"] e = some ts :=
    intAt_of_walk (walk_concat hbuf (timestamp_ok hts))
  cases hk : b.kind with
  | out =>
      simp only [hk, raiseIf_bind_ok, modify_run, EStateM.Result.ok.injEq, true_and, not_not] at h
      obtain ⟨hmatch, rfl⟩ := h
      have hact : dqbufAction e = some (.dequeueOutput b.index ts) := by
        simp [dqbufAction, hkind, hindex, hk, hns]
      rw [hact, Option.getD_some]
      exact .dequeueOutput (by simpa using hmatch)
  | cap =>
      simp only [hk, completeCapture, get_bind, raiseIf_bind_ok, lift_bind_ok, modify_run,
        EStateM.Result.ok.injEq, true_and, not_not] at h
      obtain ⟨hmem, _, hopen, _, _, rfl⟩ := h
      have hact : dqbufAction e = some (.completeCapture b.index ts) := by
        simp [dqbufAction, hkind, hindex, hk, hns]
      rw [hact, Option.getD_some]
      exact .completeCapture hmem hid (by simpa using hopen)

lemma afterOpen_ok (h : afterOpen keepOutput expected fd e s = .ok () s') :
    ∃ t, t.toLedger = s.toLedger ∧
      ((isRequestOp e = true ∧ requestOp expected e t = .ok () s') ∨
        (isRequestOp e = false ∧ (onFd fd e = false ∨ hasOp e = false) ∧ t = s') ∨
        (isRequestOp e = false ∧ onFd fd e = true ∧ videoOp keepOutput expected e t = .ok () s')) := by
  simp only [afterOpen, raiseIf_bind_ok, get_bind, bind_ok (x := onlyIf _ _), onlyIf_ok, modify_run,
    EStateM.Result.ok.injEq, true_and] at h
  obtain ⟨_, _, t, ht, h⟩ := h
  have hledger : t.toLedger = s.toLedger := by
    rcases ht with ⟨_, _, rfl⟩ | ⟨_, rfl⟩ <;> rfl
  refine ⟨t, hledger, ?_⟩
  split_ifs at h with hreq hskip
  · exact Or.inl ⟨hreq, h⟩
  · simp only [pure_run, EStateM.Result.ok.injEq, true_and] at h
    exact Or.inr (Or.inl ⟨by simpa using hreq, by simpa using hskip, h⟩)
  · obtain ⟨hfd, _⟩ := not_or.mp hskip
    exact Or.inr (Or.inr ⟨by simpa using hreq, by simpa using hfd, h⟩)

lemma videoAction_of_opIs {name : String} (hop : opIs e name = true)
    (hname : name ∉ ["VIDIOC_S_EXT_CTRLS", "VIDIOC_QBUF", "VIDIOC_DQBUF"]) :
    videoAction e = none := by
  simp only [List.mem_cons, List.not_mem_nil, or_false, not_or] at hname
  simp [videoAction, isEmptyDqbuf, opIs_of_opIs hop, hname]

lemma videoAction_of_not_hasOp (hop : hasOp e = false) : videoAction e = none := by
  have hnot : ∀ {name : String}, name ≠ "" → opIs e name = false := by
    intro name hname
    by_contra hop'
    rw [opIs] at hop'
    rw [hasOp] at hop
    cases hget : Json.member? e "ioctl" with
    | none => simp [hget] at hop'
    | some op =>
        simp only [hget, Bool.not_eq_false, Json.eqStr_iff] at hop hop'
        subst hop'
        simp [Json.truthy, hname] at hop
  simp [videoAction, isEmptyDqbuf, hnot]

lemma selectedOp_ok (hsel : selectedOps.any (opIs e) = true) (hempty : isEmptyDqbuf e = false)
    (h : selectedOp keepOutput expected e s = .ok () s') :
    Ledger.Step s.toLedger ((videoAction e).getD .other) s'.toLedger := by
  simp only [selectedOp, raiseIf_bind_ok, get_bind] at h
  obtain ⟨_, h⟩ := h
  split_ifs at h with hoff hconf hctrl hqbuf
  · simp only [streamOff, get_bind, raiseIf_bind_ok, lift_bind_ok, keepOutput, modify_run,
      EStateM.Result.ok.injEq, Except.ok.injEq, true_and] at h
    obtain ⟨_, out, rfl, rfl⟩ := h
    rw [videoAction_of_opIs hoff (by decide)]
    exact .other
  · obtain ⟨_, rfl⟩ := raiseIf_ok.mp h
    simp only [isReconfiguration, Bool.or_eq_true] at hconf
    rcases hconf with (hop | hop) | hop
    · rw [videoAction_of_opIs hop (by decide)]
      exact .other
    · rw [videoAction_of_opIs hop (by decide)]
      exact .other
    · rw [videoAction_of_opIs hop (by decide)]
      exact .other
  · rw [videoAction, if_pos hctrl]
    exact setExtCtrls_ok h
  · rw [videoAction, if_neg (by simp [opIs_of_opIs hqbuf]), if_pos hqbuf]
    exact queueBuffer_ok h
  · -- The only selected name that is left.
    have hdq : opIs e "VIDIOC_DQBUF" = true := by
      simp only [isReconfiguration, Bool.or_eq_true, not_or] at hconf
      simp only [selectedOps, List.any_cons, List.any_nil, Bool.or_eq_true, hoff, hconf, hctrl,
        hqbuf, false_or, or_false, Bool.false_eq_true] at hsel
      exact hsel
    rw [videoAction, if_neg hctrl, if_neg hqbuf, if_neg (by simp [hempty]), if_pos hdq]
    exact dequeueBuffer_ok h

/-- An ioctl of the video descriptor is one step, or it is skipped. -/
lemma videoOp_ok (h : videoOp keepOutput expected e s = .ok () s') :
    Ledger.Step s.toLedger ((videoAction e).getD .other) s'.toLedger := by
  simp only [videoOp, get_bind, raiseIf_bind_ok] at h
  obtain ⟨_, h⟩ := h
  split_ifs at h with hskip
  · simp only [pure_run, EStateM.Result.ok.injEq, true_and] at h
    subst h
    have hnone : videoAction e = none := by
      rcases hskip with hskip | hskip
      · simp only [selectedOps, List.any_cons, List.any_nil, Bool.or_eq_true, not_or,
          Bool.not_eq_true] at hskip
        simp [videoAction, hskip]
      · have hdq : opIs e "VIDIOC_DQBUF" = true := by
          simp only [isEmptyDqbuf, Bool.and_eq_true] at hskip
          exact hskip.1
        simp [videoAction, opIs_of_opIs hdq, hskip]
    rw [hnone]
    exact .other
  · obtain ⟨hsel, hempty⟩ := not_or.mp hskip
    exact selectedOp_ok (by simpa using hsel) (by simpa using hempty) h

/-- **Every accepted event is one step of the ledger.** -/
theorem step_of_scanEvent {p : Event × ℕ}
    (h : scanEvent keepOutput expected fd start p s = .ok () s') :
    Ledger.Step s.toLedger (actionAt fd start p) s'.toLedger := by
  obtain ⟨e, index⟩ := p
  simp only [scanEvent, bind_ok (x := onlyIf _ _), onlyIf_ok] at h
  obtain ⟨_, t, halloc, hafter⟩ := h
  rcases halloc with ⟨hop, halloc⟩ | ⟨hop, rfl⟩
  · -- An allocation: what comes after it leaves the ledger alone.
    obtain ⟨reqfd, hfd, hstep⟩ := allocate_ok halloc
    have hact : actionAt fd start (e, index) = .alloc reqfd := by
      simp [actionAt, action?, hop, hfd]
    have hsame : s'.toLedger = t.toLedger := by
      rcases hafter with ⟨_, hafter⟩ | ⟨_, rfl⟩
      · obtain ⟨t₁, hled, hcase⟩ := afterOpen_ok hafter
        rcases hcase with ⟨hreq, _⟩ | ⟨_, _, rfl⟩ | ⟨_, _, hvideo⟩
        · simp [isRequestOp, opIs_of_opIs hop] at hreq
        · exact hled
        · have hidle := videoOp_ok hvideo
          rw [videoAction_of_opIs hop (by decide), Option.getD_none] at hidle
          exact hidle.eq_of_other.trans hled
      · rfl
    rw [hact, hsame]
    exact hstep
  · rcases hafter with ⟨hlt, hafter⟩ | ⟨hle, rfl⟩
    · obtain ⟨t, hled, hcase⟩ := afterOpen_ok hafter
      rw [actionAt, action?, if_neg hop, if_neg (Nat.not_le.mpr hlt), ← hled]
      rcases hcase with ⟨hreq, hrun⟩ | ⟨hreq, hskip, rfl⟩ | ⟨hreq, hfd, hvideo⟩
      · obtain ⟨reqfd, hfd, hstep⟩ := requestOp_ok hrun
        rw [if_pos hreq, requestAction, hfd]
        exact hstep
      · rw [if_neg (by simp [hreq])]
        have hnone : (if onFd fd e then videoAction e else none) = none := by
          rcases hskip with hskip | hskip
          · simp [hskip]
          · simp [videoAction_of_not_hasOp hskip]
        rw [hnone]
        exact .other
      · rw [if_neg (by simp [hreq]), if_pos hfd]
        exact videoOp_ok hvideo
    · have hact : actionAt fd start (e, index) = .other := by
        simp [actionAt, action?, hop, Nat.not_lt.mp hle]
      rw [hact]
      exact .other

end Branches

namespace Ledger

/-! ### The invariant -/

/-- Request objects, pictures and timestamps hang together. -/
structure Inv (l : Ledger) : Prop where
  fresh : ∀ id, l.created ≤ id → l.objects id = {}
  reqLt : ∀ f id, l.requests.get? f = some id → id < l.created
  reqInj : ∀ f g id, l.requests.get? f = some id → l.requests.get? g = some id → f = g
  queued : ∀ id, (l.objects id).queued = true ↔ id ∈ l.pictures
  numbered : ∀ k id, l.pictures[k]? = some id → (l.objects id).pic = some (k + 1)
  stamped : ∀ id ∈ l.pictures, ∃ ts, (l.objects id).timestamp = some ts
  byTs : ∀ ts id, l.byTimestamp.get? ts = some id ↔
    id ∈ l.pictures ∧ (l.objects id).timestamp = some ts
  complete : ∀ id, (l.objects id).complete = true → (l.objects id).queued = true

variable {l l' : Ledger}

lemma inv_empty : ({} : Ledger).Inv := by
  constructor <;> simp

lemma write_objects {id : ℕ} {r : Req} (i : ℕ) :
    (l.write id r).objects i = if i = id then r else l.objects i := Function.update_apply ..

namespace Inv

variable (h : l.Inv)
include h

lemma created_of_mem {id : ℕ} (hid : id ∈ l.pictures) : id < l.created := by
  by_contra hlt
  have hq := (h.queued id).mpr hid
  rw [h.fresh id (Nat.not_lt.mp hlt)] at hq
  exact absurd hq (by simp)

/-- A request object without a timestamp has not been queued. -/
lemma unqueued_of_unstamped {id : ℕ} (hnone : (l.objects id).timestamp = none) :
    (l.objects id).queued = false := by
  by_contra hq
  obtain ⟨ts, hts⟩ := h.stamped id ((h.queued id).mp (by simpa using hq))
  exact absurd (hnone.symm.trans hts) (by simp)

/-- A request object that has not been queued is not complete. -/
lemma open_of_unqueued {id : ℕ} (hunq : (l.objects id).queued = false) :
    (l.objects id).complete = false := by
  by_contra hc
  exact absurd (h.complete id (by simpa using hc)) (by simp [hunq])

/-- An assignment to an object keeps the invariant if a queued object keeps its number and its
timestamp. -/
lemma write {id : ℕ} {r : Req} (hid : id < l.created) (hq : r.queued = (l.objects id).queued)
    (hc : r.complete = true → r.queued = true)
    (hkeep : (l.objects id).queued = true →
      r.pic = (l.objects id).pic ∧ r.timestamp = (l.objects id).timestamp) :
    (l.write id r).Inv := by
  have hpic : ∀ {i}, i ∈ l.pictures → ((l.write id r).objects i).pic = (l.objects i).pic ∧
      ((l.write id r).objects i).timestamp = (l.objects i).timestamp := by
    intro i hi
    rw [write_objects]
    split_ifs with hii
    · subst hii
      exact hkeep ((h.queued i).mpr hi)
    · exact ⟨rfl, rfl⟩
  constructor
  · intro i hi
    have hne : i ≠ id := by
      rintro rfl
      exact absurd hi (Nat.not_le.mpr hid)
    rw [write_objects, if_neg hne]
    exact h.fresh i hi
  · exact h.reqLt
  · exact h.reqInj
  · intro i
    rw [write_objects]
    split_ifs with hii
    · rw [hq, hii]
      exact h.queued id
    · exact h.queued i
  · intro k i hi
    rw [(hpic (List.mem_of_getElem? hi)).1]
    exact h.numbered k i hi
  · intro i hi
    rw [(hpic hi).2]
    exact h.stamped i hi
  · intro ts i
    rw [show (l.write id r).byTimestamp = l.byTimestamp from rfl, h.byTs ts i]
    exact and_congr_right fun hi => by rw [(hpic hi).2]
  · intro i
    rw [write_objects]
    split_ifs with hii
    · exact hc
    · exact h.complete i

lemma opened (reqfd : ℤ) : (l.opened reqfd).Inv := by
  rw [Ledger.opened]
  split
  next => exact h
  next hnone =>
    constructor
    · exact fun id hid => h.fresh id (Nat.le_of_succ_le hid)
    · intro f id hget
      rw [Dict.get?_set] at hget
      split_ifs at hget with hf
      · rw [← Option.some.inj hget]
        exact Nat.lt_succ_self _
      · exact Nat.lt_succ_of_lt (h.reqLt f id hget)
    · intro f g id hf hg
      -- The new object is none of the old ones.
      rw [Dict.get?_set] at hf hg
      split_ifs at hf hg with hff hgg hgg
      · rw [hff, hgg]
      · obtain rfl := Option.some.inj hf
        exact absurd (h.reqLt g _ hg) (lt_irrefl _)
      · obtain rfl := Option.some.inj hg
        exact absurd (h.reqLt f _ hf) (lt_irrefl _)
      · exact h.reqInj f g id hf hg
    · exact h.queued
    · exact h.numbered
    · exact h.stamped
    · exact h.byTs
    · exact h.complete

lemma requestId_lt (reqfd : ℤ) : l.requestId reqfd < (l.opened reqfd).created := by
  rw [requestId, Ledger.opened]
  cases hreq : l.requests.get? reqfd with
  | some id => exact h.reqLt reqfd id hreq
  | none => exact Nat.lt_succ_self _

/-- Requests, buffers and allocations may change as long as no descriptor gets a new object. -/
lemma congr {requests : Dict ℤ ℕ} {allocations captureBuffers : Finset ℤ}
    {outputBuffers : Dict ℤ ℤ}
    (hreq : ∀ f id, requests.get? f = some id → l.requests.get? f = some id) :
    ({ l with requests, allocations, captureBuffers, outputBuffers } : Ledger).Inv where
  fresh := h.fresh
  reqLt f id hget := h.reqLt f id (hreq f id hget)
  reqInj f g id hf hg := h.reqInj f g id (hreq f id hf) (hreq g id hg)
  queued := h.queued
  numbered := h.numbered
  stamped := h.stamped
  byTs := h.byTs
  complete := h.complete

omit h in
lemma erased {reqfd : ℤ} :
    ∀ f id, (l.requests.erase reqfd).get? f = some id → l.requests.get? f = some id := by
  intro f id hget
  rw [Dict.get?_erase] at hget
  split_ifs at hget with hf
  exact hget

/-- A request becomes the next picture. -/
lemma queue {id : ℕ} {ts : ℤ} {dp sl sps : Json} (hid : id < l.created)
    (hunq : (l.objects id).queued = false) (hts : (l.objects id).timestamp = some ts)
    (hnew : l.byTimestamp.get? ts = none) :
    ({ l.write id (l.queuedReq id dp sl sps) with
        pictures := l.pictures ++ [id]
        byTimestamp := l.byTimestamp.set ts id } : Ledger).Inv := by
  have hmem : id ∉ l.pictures := fun hid => by
    have := (h.queued id).mpr hid
    simp [hunq] at this
  have hother : ∀ {i}, i ∈ l.pictures → i ≠ id := fun hi hii => hmem (hii ▸ hi)
  constructor
  · intro i hi
    have hne : i ≠ id := by
      rintro rfl
      exact absurd hi (Nat.not_le.mpr hid)
    change (l.write id _).objects i = _
    rw [write_objects, if_neg hne]
    exact h.fresh i hi
  · exact h.reqLt
  · exact h.reqInj
  · intro i
    change ((l.write id _).objects i).queued = true ↔ i ∈ l.pictures ++ [id]
    rw [write_objects, List.mem_append, List.mem_singleton]
    split_ifs with hii
    · simp [queuedReq, hii]
    · rw [h.queued i]
      simp [hii]
  · intro k i hi
    change ((l.write id _).objects i).pic = _
    rw [List.getElem?_append] at hi
    split_ifs at hi with hk
    · rw [write_objects, if_neg (hother (List.mem_of_getElem? hi))]
      exact h.numbered k i hi
    · obtain ⟨hk', rfl⟩ : k = l.pictures.length ∧ id = i := by
        rw [List.getElem?_singleton] at hi
        split_ifs at hi with hz
        exact ⟨by omega, Option.some.inj hi⟩
      rw [write_objects, if_pos rfl, hk']
      rfl
  · intro i hi
    change ∃ t, ((l.write id _).objects i).timestamp = some t
    rw [write_objects]
    split_ifs with hii
    · exact ⟨ts, hts⟩
    · have hi' : i ∈ l.pictures := by
        rcases List.mem_append.mp hi with hi | hi
        · exact hi
        · exact absurd (List.mem_singleton.mp hi) hii
      exact h.stamped i hi'
  · intro t i
    change (l.byTimestamp.set ts id).get? t = some i ↔
      i ∈ l.pictures ++ [id] ∧ ((l.write id _).objects i).timestamp = some t
    rw [Dict.get?_set, write_objects, List.mem_append, List.mem_singleton]
    by_cases hii : i = id
    · subst hii
      simp only [if_true, or_true, true_and, queuedReq, hts, Option.some.injEq]
      constructor
      · intro hget
        split_ifs at hget with htt
        · exact htt.symm
        · exact absurd ((h.byTs t i).mp hget).1 hmem
      · rintro rfl
        simp
    · simp only [hii, if_false, or_false]
      split_ifs with htt
      · subst htt
        constructor
        · intro heq
          exact absurd (Option.some.inj heq).symm hii
        · intro hi
          exact absurd (hnew.symm.trans ((h.byTs t i).mpr hi)) (by simp)
      · exact h.byTs t i
  · intro i
    change ((l.write id _).objects i).complete = true → ((l.write id _).objects i).queued = true
    rw [write_objects]
    split_ifs with hii
    · exact fun _ => rfl
    · exact h.complete i

/-- **Every step keeps the invariant.** -/
theorem step {a : Action} (hstep : Step l a l') : l'.Inv := by
  cases hstep with
  | other => exact h
  | alloc _ => exact h.congr erased
  | reinitUnused _ => exact h
  | reinit _ _ => exact h.congr erased
  | queue dp sl sps hreq hunq hts hnew => exact h.queue (h.reqLt _ _ hreq) hunq hts hnew
  | @setControls reqfd cs hunq =>
      refine (h.opened reqfd).write (h.requestId_lt reqfd) ?_ ?_ ?_
      · rw [opened_objects]
      · exact fun hc => h.complete _ hc
      · rw [opened_objects, hunq]
        simp
  | @queueOutput index reqfd ts hunused _ =>
      have hunq := h.unqueued_of_unstamped hunused
      have hw : ((l.opened reqfd).write (l.requestId reqfd)
          { l.objects (l.requestId reqfd) with timestamp := some ts }).Inv := by
        refine (h.opened reqfd).write (h.requestId_lt reqfd) ?_ ?_ ?_
        · rw [opened_objects]
        · exact fun hc => h.complete _ hc
        · rw [opened_objects, hunq]
          simp
      exact hw.congr fun _ _ hget => hget
  | dequeueOutput _ => exact h.congr fun _ _ hget => hget
  | queueCapture _ => exact h.congr fun _ _ hget => hget
  | @completeCapture index ts id _ hts _ =>
      have hid := ((h.byTs ts id).mp hts).1
      have hw : (l.write id { l.objects id with complete := true, target := some index }).Inv :=
        h.write (h.created_of_mem hid) rfl (fun _ => (h.queued id).mpr hid) fun _ => ⟨rfl, rfl⟩
      exact hw.congr fun _ _ hget => hget

end Inv

end Ledger

/-- The state after the event loop, and what the checks after it say. -/
structure Scanned (events : List Event) (expected fd : ℤ) (start : ℕ) (s : Scan) : Prop where
  run : each (scanEvent keepOutput expected fd start) events.zipIdx {} = .ok () s
  length : (s.pictures.length : ℤ) = expected
  complete : ∀ id ∈ s.pictures, (s.objects id).complete = true
  output : ∀ bi, s.outputBuffers.get? bi = none
  queued : ∀ f id, s.requests.get? f = some id → (s.objects id).queued = true

lemma scanned_of_scan {events : List Event} {expected : ℤ} {run : String} {s : Scan}
    (h : scan keepOutput events expected run = .ok s) :
    ∃ fd start, select events = .ok (fd, start) ∧ Scanned events expected fd start s := by
  simp only [scan, Except.bind_ok, need_ok] at h
  obtain ⟨_, _, _, _, ⟨fd, start⟩, hsel, h⟩ := h
  refine ⟨fd, start, hsel, ?_⟩
  cases hrun : each (scanEvent keepOutput expected fd start) events.zipIdx {} with
  | error e t => simp [hrun] at h
  | ok u t =>
      simp only [hrun, finished, Except.bind_ok, need_ok, Except.pure_ok] at h
      obtain ⟨_, ⟨_, _, _, ⟨hlen, hcomp, hout⟩, hreq⟩, rfl⟩ := h
      refine ⟨hrun, hlen, ?_, Dict.isEmpty_iff.mp hout, Dict.all_values_iff.mp hreq⟩
      simpa [Ledger.allComplete] using hcomp

/-- The invariant holds after every run of the loop. -/
lemma inv_of_run {expected fd : ℤ} {start : ℕ} {ps : List (Event × ℕ)} {s : Scan}
    (hrun : each (scanEvent keepOutput expected fd start) ps {} = .ok () s) : s.toLedger.Inv :=
  each_invariant (I := fun s => s.toLedger.Inv) Ledger.inv_empty
    (fun _ _ _ h hstep => h.step (step_of_scanEvent hstep)) hrun

end OmarchyM1Video.HevcControls
