import Mathlib.Data.Finset.Basic
import OmarchyM1Video.HevcControls.Trace

/-!
The event loop of `normalize` in `experiments/hevc-controls/normalize.py`.

The source keeps one dictionary object for each request and holds it in three places: by request
descriptor, in the list of pictures and by timestamp.  The objects are kept here by identity
(`Ledger.objects`), so that a completion found by timestamp is seen through the descriptor too.

* `Req`, `Ledger`, `Scan`: a request object, the bookkeeping of the loop, and its whole state;
* `allocate`, `requestOp`, `setExtCtrls`, `queueBuffer`, `dequeueBuffer`: the branches of the loop;
* `scanEvent`, `scan`: one iteration, and the loop with the checks after it.
-/

namespace OmarchyM1Video.HevcControls

open OmarchyM1Video.Py

/-! ### The state of the loop -/

/-- A request object: its keys as far as they have been set. -/
structure Req where
  controls : Option (Dict String Json) := none
  timestamp : Option ℤ := none
  queued : Bool := false
  complete : Bool := false
  dp : Option Json := none
  sl : Option Json := none
  sps : Option Json := none
  pic : Option ℕ := none
  target : Option ℤ := none

/-- `not req`: no key has been set. -/
def Req.isEmpty (r : Req) : Bool :=
  r.controls.isNone && r.timestamp.isNone && !r.queued && !r.complete && r.dp.isNone &&
    r.sl.isNone && r.sps.isNone && r.pic.isNone && r.target.isNone

/-- The bookkeeping of the loop: requests, buffers and pictures. -/
structure Ledger where
  allocations : Finset ℤ := ∅
  /-- The request objects; those from `created` on have not been made yet. -/
  objects : ℕ → Req := fun _ => {}
  created : ℕ := 0
  /-- Request descriptor to object. -/
  requests : Dict ℤ ℕ := ∅
  /-- OUTPUT index to timestamp. -/
  outputBuffers : Dict ℤ ℤ := ∅
  captureBuffers : Finset ℤ := ∅
  pictures : List ℕ := []
  byTimestamp : Dict ℤ ℕ := ∅

/-- The state of the loop. -/
structure Scan extends Ledger where
  sps : Option Json := none
  closed : Bool := false
  stopped : Bool := false

abbrev ScanM := EStateM (Exc String) Scan

namespace Ledger

/-- An object that is neither untouched nor complete is held for the descriptor. -/
def pending (l : Ledger) (reqfd : ℤ) : Bool :=
  match l.requests.get? reqfd with
  | some id => !(l.objects id).isEmpty && !(l.objects id).complete
  | none => false

/-- An assignment to keys of an object. -/
def write (l : Ledger) (id : ℕ) (r : Req) : Ledger :=
  { l with objects := Function.update l.objects id r }

/-- Whether every picture is complete. -/
def allComplete (l : Ledger) : Bool := l.pictures.all fun id => (l.objects id).complete

end Ledger

/-! ### The branches -/

/-- `MEDIA_IOC_REQUEST_ALLOC`. -/
def allocate (e : Event) : ScanM Unit := do
  raiseIf (has e "errno") (reject "request allocation failed")
  let driver ← lift (item e "from_driver")
  let v ← lift (driver.item "request_fd")
  let reqfd ← lift (integer v 0 u32Max)
  let s ← get
  raiseIf (s.pending reqfd) (reject "request fd reused while pending")
  modify fun s => { s with
    allocations := insert reqfd s.allocations
    requests := s.requests.erase reqfd }

/-- `requests.setdefault(reqfd, {})`. -/
def requestFor (reqfd : ℤ) : ScanM ℕ := do
  let s ← get
  match s.requests.get? reqfd with
  | some id => return id
  | none =>
      modify fun s => { s with
        requests := s.requests.set reqfd s.created
        created := s.created + 1 }
      return s.created

/-- The SPS in force for a request: its own, or the last one. -/
def currentSps (cs : Dict String Json) (last : Option Json) : Read Json :=
  if cs.contains Control.sps.cid then payload cs .sps
  else found last (reject "missing initial SPS")

/-- `MEDIA_REQUEST_IOC_QUEUE` of a request that is known. -/
def queueRequest (expected : ℤ) (id : ℕ) : ScanM Unit := do
  let s ← get
  let req := s.objects id
  raiseIf (s.closed ∨ s.stopped ∨ req.queued) (reject "duplicate/late request queue")
  let cs ← orRaise req.controls (.builtin .keyError)
  let dp ← lift (payload cs .decodeParams)
  let sl ← lift (payload cs .sliceParams)
  let sps ← lift (currentSps cs s.sps)
  let ts ← orRaise req.timestamp (.builtin .keyError)
  raiseIf (s.byTimestamp.contains ts) (reject "duplicate picture timestamp")
  raiseIf (¬(s.pictures.length : ℤ) < expected) (reject "more requests than expected")
  modify fun s => { s with
    toLedger := { s.toLedger.write id { req with
        queued := true
        dp := some dp
        sl := some sl
        sps := some sps
        pic := some (s.pictures.length + 1) } with
      pictures := s.pictures ++ [id]
      byTimestamp := s.byTimestamp.set ts id }
    sps := some sps }

/-- `MEDIA_REQUEST_IOC_QUEUE` and `MEDIA_REQUEST_IOC_REINIT`. -/
def requestOp (expected : ℤ) (e : Event) : ScanM Unit := do
  let v ← lift (item e "fd")
  let reqfd ← lift (integer v 0 u32Max)
  let s ← get
  match s.requests.get? reqfd with
  | none =>
      -- An allocated request may be reinitialized before its first use.
      raiseIf (¬(opIs e "MEDIA_REQUEST_IOC_REINIT" ∧ reqfd ∈ s.allocations ∧ ¬has e "errno"))
        (reject "orphaned request operation")
  | some id => do
      raiseIf (has e "errno") (reject "request operation failed")
      if opIs e "MEDIA_REQUEST_IOC_REINIT" then do
        raiseIf (¬(s.objects id).complete) (reject "reinitialization before capture completion")
        modify fun s => { s with requests := s.requests.erase reqfd }
      else queueRequest expected id

/-- The controls of a `VIDIOC_S_EXT_CTRLS` that belongs to a request. -/
def setRequestControls (ext : Json) (cs : Dict String Json) : ScanM Unit := do
  let s ← get
  raiseIf s.stopped (reject "controls after stream stop")
  let v ← lift (ext.item "request_fd")
  let reqfd ← lift (integer v 0 u32Max)
  raiseIf (reqfd ∉ s.allocations) (reject "missing request allocation")
  let id ← requestFor reqfd
  let s ← get
  let req := s.objects id
  raiseIf req.queued (reject "controls changed after queue")
  let dst := req.controls.getD ∅
  raiseIf (¬dst.disjoint cs) (reject "controls set twice in request")
  modify fun s => { s with
    toLedger := s.toLedger.write id { req with controls := some (dst.update cs.entries) } }

/-- `VIDIOC_S_EXT_CTRLS`. -/
def setExtCtrls (e : Event) : ScanM Unit := do
  let (ext, cs) ← lift (controls e)
  let which ← lift (ext.item "which")
  if which.eqStr "V4L2_CTRL_WHICH_REQUEST_VAL" then setRequestControls ext cs
  else do
    let s ← get
    raiseIf (¬(which.eqStr "V4L2_CTRL_WHICH_CUR_VAL" ∧ s.pictures = [] ∧
        ¬(cs.contains Control.decodeParams.cid ∨ cs.contains Control.sliceParams.cid)))
      (reject "non-request HEVC payload")
    -- Negotiation only; the first request must supply its own SPS.
    onlyIf (cs.contains Control.sps.cid) do
      let _ ← lift (payload cs .sps)

/-- The two queues of the device. -/
inductive Kind where
  | out | cap
  deriving DecidableEq, Repr

/-- The buffer type of a buffer argument. -/
def Kind.read (v : Json) : Read Kind :=
  if v.eqStr "V4L2_BUF_TYPE_VIDEO_OUTPUT_MPLANE" then .ok .out
  else if v.eqStr "V4L2_BUF_TYPE_VIDEO_CAPTURE_MPLANE" then .ok .cap
  else .error (reject "unsupported buffer type")

/-- The buffer argument of a QBUF or DQBUF event. -/
structure BufferArg where
  buf : Json
  kind : Kind
  index : ℤ
  flags : List String

/-- The reads that QBUF and DQBUF share. -/
def readBuffer (e : Event) (direction : String) : Read BufferArg := do
  let b ← arguments e direction "v4l2_buffer"
  let kind ← Kind.read (← b.item "type")
  let bi ← integer (← b.item "index") 0 u32Max
  let bf ← bufferFlags (← b.item "flags")
  return { buf := b, kind, index := bi, flags := bf }

/-- `VIDIOC_QBUF` of an OUTPUT buffer. -/
def queueOutput (b : BufferArg) : ScanM Unit := do
  raiseIf ("V4L2_BUF_FLAG_REQUEST_FD" ∉ b.flags) (reject "non-request OUTPUT")
  let v ← lift (b.buf.item "request_fd")
  let reqfd ← lift (integer v 0 u32Max)
  let s ← get
  raiseIf (reqfd ∉ s.allocations) (reject "unallocated OUTPUT request")
  let id ← requestFor reqfd
  let s ← get
  let req := s.objects id
  raiseIf (¬(req.timestamp = none ∧ ¬s.outputBuffers.contains b.index))
    (reject "OUTPUT/request reused before completion")
  let ts ← lift (timestamp b.buf)
  modify fun s => { s with
    toLedger := { s.toLedger.write id { req with timestamp := some ts } with
      outputBuffers := s.outputBuffers.set b.index ts } }

/-- `VIDIOC_QBUF`. -/
def queueBuffer (e : Event) : ScanM Unit := do
  let b ← lift (readBuffer e "from_userspace")
  let s ← get
  raiseIf s.stopped (reject "buffer queued after stream stop")
  match b.kind with
  | .cap => do
      raiseIf (b.index ∈ s.captureBuffers) (reject "capture buffer queued twice")
      modify fun s => { s with captureBuffers := insert b.index s.captureBuffers }
  | .out => queueOutput b

/-- The check of a completed CAPTURE buffer: one plane that holds data. -/
def captureFilled (b : Json) : Read Unit := do
  let planes ← (← b.item "m").item "planes"
  let length ← integer (← b.item "length") 0 u32Max
  need (length = 1) (reject "empty/unsupported capture")
  match planes with
  | .arr [plane] => do
      let used ← integer (← plane.item "bytesused") 0 u32Max
      need (0 < used) (reject "empty/unsupported capture")
  | _ => .error (reject "empty/unsupported capture")

/-- `VIDIOC_DQBUF` of a CAPTURE buffer, the completion of the picture with its timestamp. -/
def completeCapture (b : BufferArg) (id : ℕ) : ScanM Unit := do
  let s ← get
  raiseIf (b.index ∉ s.captureBuffers) (reject "CAPTURE completion without QBUF")
  raiseIf ("V4L2_BUF_FLAG_TIMESTAMP_COPY" ∉ b.flags)
    (reject "CAPTURE timestamp is not copied from OUTPUT")
  let req := s.objects id
  raiseIf req.complete (reject "duplicate CAPTURE timestamp")
  lift (captureFilled b.buf)
  modify fun s => { s with
    toLedger := { s.toLedger.write id { req with complete := true, target := some b.index } with
      captureBuffers := s.captureBuffers.erase b.index } }

/-- `VIDIOC_DQBUF`. -/
def dequeueBuffer (e : Event) : ScanM Unit := do
  let b ← lift (readBuffer e "from_driver")
  let ts ← lift (timestamp b.buf)
  let s ← get
  let id ← orRaise (s.byTimestamp.get? ts) (reject "completion without queued picture")
  match b.kind with
  | .out => do
      raiseIf (s.outputBuffers.get? b.index ≠ some ts) (reject "OUTPUT completion mismatch")
      modify fun s => { s with outputBuffers := s.outputBuffers.erase b.index }
  | .cap => completeCapture b id

/-! ### The loop -/

/-- What STREAMOFF does with the OUTPUT buffers that are still queued. -/
abbrev Streamoff := Event → Dict ℤ ℤ → Read (Dict ℤ ℤ)

/-- The buffers stay queued. -/
def keepOutput : Streamoff := fun _ out => .ok out

section Loop

variable (streamoff : Streamoff) (expected fd : ℤ) (start : ℕ)

/-- `VIDIOC_STREAMOFF`. -/
def streamOff (e : Event) : ScanM Unit := do
  let s ← get
  raiseIf (¬(s.pictures ≠ [] ∧ (s.pictures.length : ℤ) = expected ∧ s.allComplete))
    (reject "stream stopped before expected captures completed")
  let out ← lift (streamoff e s.outputBuffers)
  modify fun s => { s with outputBuffers := out, stopped := true }

/-- The ioctls of the video descriptor that the loop looks at. -/
def selectedOps : List String :=
  ["VIDIOC_S_EXT_CTRLS", "VIDIOC_QBUF", "VIDIOC_DQBUF", "VIDIOC_STREAMOFF", "VIDIOC_STREAMON",
    "VIDIOC_S_FMT", "VIDIOC_REQBUFS"]

/-- `op in ("VIDIOC_STREAMON", "VIDIOC_S_FMT", "VIDIOC_REQBUFS")`. -/
def isReconfiguration (e : Event) : Bool :=
  opIs e "VIDIOC_STREAMON" || opIs e "VIDIOC_S_FMT" || opIs e "VIDIOC_REQBUFS"

/-- A selected ioctl that has not been skipped. -/
def selectedOp (e : Event) : ScanM Unit := do
  raiseIf (has e "errno") (reject "selected ioctl failed")
  let s ← get
  if opIs e "VIDIOC_STREAMOFF" then streamOff streamoff expected e
  else if isReconfiguration e then
    raiseIf (¬(s.pictures = [] ∨ (s.stopped ∧ opIs e "VIDIOC_REQBUFS")))
      (reject "stream reconfiguration after submission")
  else if opIs e "VIDIOC_S_EXT_CTRLS" then setExtCtrls e
  else if opIs e "VIDIOC_QBUF" then queueBuffer e
  else dequeueBuffer e

/-- A DQBUF that found no buffer, which loses no evidence. -/
def isEmptyDqbuf (e : Event) : Bool :=
  opIs e "VIDIOC_DQBUF" && match Json.member? e "errno" with
    | some v => v.eqStr "EAGAIN"
    | none => false

/-- An ioctl of the video descriptor. -/
def videoOp (e : Event) : ScanM Unit := do
  let s ← get
  raiseIf s.closed (reject "ioctl after video close")
  if ¬selectedOps.any (opIs e) ∨ isEmptyDqbuf e then return ()
  else selectedOp streamoff expected e

/-- `op in ("MEDIA_REQUEST_IOC_QUEUE", "MEDIA_REQUEST_IOC_REINIT")`. -/
def isRequestOp (e : Event) : Bool :=
  opIs e "MEDIA_REQUEST_IOC_QUEUE" || opIs e "MEDIA_REQUEST_IOC_REINIT"

/-- An event after the open. -/
def afterOpen (e : Event) : ScanM Unit := do
  raiseIf (onFd fd e ∧ isOpen e) (reject "video fd reused / multiple contexts")
  let s ← get
  onlyIf (onFd fd e ∧ has e "close") do
    raiseIf s.closed (reject "duplicate video close")
    modify fun s => { s with closed := true }
  if isRequestOp e then requestOp expected e
  else if ¬onFd fd e ∨ ¬hasOp e then return ()
  else videoOp streamoff expected e

/-- One iteration of the event loop. -/
def scanEvent (p : Event × ℕ) : ScanM Unit := do
  onlyIf (opIs p.1 "MEDIA_IOC_REQUEST_ALLOC") (allocate p.1)
  onlyIf (start < p.2) (afterOpen streamoff expected fd p.1)

end Loop

/-- The checks after the event loop. -/
def finished (expected : ℤ) (s : Scan) : Read Unit := do
  need (s.closed ∧ s.stopped) (reject "missing clean context teardown")
  need ((s.pictures.length : ℤ) = expected ∧ s.allComplete ∧ s.outputBuffers.isEmpty)
    (reject "incomplete expected capture")
  need (s.requests.values.all fun id => (s.objects id).queued) (reject "orphaned pending request")

/-- `[0-9a-f]`. -/
def isHexDigit (c : Char) : Bool := c.isDigit || decide (c ∈ ['a', 'b', 'c', 'd', 'e', 'f'])

/-- The first half of `normalize`: the arguments, the video context, the event loop and the checks
after it. -/
def scan (streamoff : Streamoff) (events : List Event) (expected : ℤ) (run : String) :
    Read Scan := do
  need (1 ≤ expected ∧ expected ≤ 10000) (reject "invalid integer")
  need (run.toList.length = 16 ∧ run.toList.all isHexDigit) (reject "invalid run")
  let (fd, start) ← select events
  match each (scanEvent streamoff expected fd start) events.zipIdx {} with
  | .error e _ => .error e
  | .ok _ s => do
      finished expected s
      return s

end OmarchyM1Video.HevcControls
