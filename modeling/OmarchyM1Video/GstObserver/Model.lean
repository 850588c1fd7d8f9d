import Mathlib.Algebra.GroupWithZero.Nat
import Mathlib.Data.Int.Notation
import Mathlib.Logic.Function.Basic
import Mathlib.Tactic.Simps.Basic

/-!
The observer of the HEVC decoder of GStreamer: `gstv4l2decoder-observer.patch`.

Every function of the decoder, of its allocators and of its requests holds one recursive mutex, so a
call is one step.  What a call learns from the kernel and from the clock is an argument of it.  A
caller uses a request only while it owns a reference to it; the references that callers own are
counted beside `ref_count`.

* `State`: decoders, requests, allocators and CAPTURE buffers, and the counter of generations;
* `observerBuffer`, `observerSelection`: the buffer behind a picture, and whether a request can be
  observed;
* `requestQueue`, `setDone`, `observerBegin`, `observerEnd`: the functions that do the work;
* `step`: a call.
-/

namespace OmarchyM1Video.GstObserver

/-! ### Objects -/

/-- `GstV4l2CodecBuffer`. -/
structure CodecBuf where
  live : Bool := false
  generation : ℕ := 0
  writer : ℕ := 0
  completed : ℕ := 0
  published : Bool := false
  index : ℕ := 0
  /-- The allocator that owns it. -/
  alloc : ℕ := 0
  /-- The size of the memory of each plane. -/
  sizes : List ℕ := []
  deriving DecidableEq

/-- `GstMemory`: a plane of a buffer, a part of another memory, or memory of another allocator. -/
inductive Mem where
  | plane (buf : ℕ) (i : ℕ)
  | share (parent : Mem)
  | foreign
  deriving DecidableEq

/-- The buffer at the end of the chain of parents. -/
def Mem.root : Mem → Option ℕ
  | .plane buf _ => some buf
  | .share parent => parent.root
  | .foreign => none

/-- `GstV4l2CodecAllocator`. -/
structure Allocator where
  live : Bool := false
  decoder : ℕ := 0
  /-- `direction == GST_PAD_SRC`. -/
  src : Bool := false
  detached : Bool := false
  deriving DecidableEq

/-- `GstV4l2Request`. -/
structure Request where
  refCount : ℕ := 0
  /-- The references that callers own. -/
  owned : ℕ := 0
  decoder : ℕ := 0
  generation : ℕ := 0
  writer : ℕ := 0
  completed : ℕ := 0
  submitted : Bool := false
  pending : Bool := false
  failed : Bool := false
  subRequest : Bool := false
  holdPicBuf : Bool := false
  frameNum : ℕ := 0
  /-- The index of the bitstream buffer. -/
  bitstream : Option ℕ := none
  /-- The memory of the picture. -/
  picBuf : Option (List Mem) := none
  deriving DecidableEq

/-- `GstHevcObserverSession`. -/
structure Session where
  run : ℕ × ℕ
  context : ℕ
  nonce : ℕ
  deriving DecidableEq

/-- `GstHevcObserverTarget`. -/
structure Target where
  request : ℕ
  allocation : ℕ
  writer : ℕ
  deriving DecidableEq

/-- `GstHevcObserverReceipt`. -/
structure Receipt where
  session : Session
  target : Target
  lease : ℕ
  submitted : ℕ
  completed : ℕ
  frameNum : ℕ
  captureIndex : ℕ
  planeSize : List ℕ
  deriving DecidableEq

/-- An `observer-queue` line. -/
structure Record where
  run : ℕ × ℕ
  context : ℕ
  allocation : ℕ
  request : ℕ
  writer : ℕ
  frame : ℕ
  capture : ℕ
  deriving DecidableEq

/-- `GstV4l2Decoder`. -/
structure Decoder where
  live : Bool := false
  run : ℕ × ℕ := (0, 0)
  generation : ℕ := 0
  session : ℕ := 0
  lease : ℕ := 0
  submitted : ℕ := 0
  completed : ℕ := 0
  owner : Option ℕ := none
  /-- `observer_request`. -/
  request : Option ℕ := none
  unqueued : ℕ := 0
  /-- `observer_streaming`, of the sink and of the source. -/
  streamingSink : Bool := false
  streamingSrc : Bool := false
  format : ℕ := 0
  failed : Bool := false
  partialHistory : Bool := false
  external : Bool := false
  ending : Bool := false
  retired : Bool := false
  opened : Bool := false
  docMode : Bool := false
  /-- `pending_requests`. -/
  pending : List ℕ := []
  /-- The lines that `GST_TRACE_OBJECT` has written. -/
  trace : List Record := []

structure State where
  /-- `next` of `gst_hevc_observer_generation`. -/
  next : ℕ := 1
  dec : ℕ → Decoder := fun _ => {}
  req : ℕ → Request := fun _ => {}
  alloc : ℕ → Allocator := fun _ => {}
  buf : ℕ → CodecBuf := fun _ => {}

/-- `V4L2_PIX_FMT_HEVC_SLICE`. -/
def hevcSlice : ℕ := 0x35363253

/-- `GST_VIDEO_MAX_PLANES`. -/
def maxPlanes : ℕ := 4

namespace State

@[simps]
def setDec (s : State) (d : ℕ) (x : Decoder) : State := { s with dec := Function.update s.dec d x }

@[simps]
def setReq (s : State) (r : ℕ) (x : Request) : State := { s with req := Function.update s.req r x }

@[simps]
def setAlloc (s : State) (a : ℕ) (x : Allocator) : State :=
  { s with alloc := Function.update s.alloc a x }

@[simps]
def setBuf (s : State) (b : ℕ) (x : CodecBuf) : State := { s with buf := Function.update s.buf b x }

/-- `gst_hevc_observer_generation`: the value that is returned is `next`. -/
@[simps]
def generate (s : State) : State := { s with next := if s.next = 0 then 0 else (s.next + 1) % 2 ^ 64 }

/-- The decoder of the allocator of a buffer. -/
def bufDecoder (s : State) (b : ℕ) : ℕ := (s.alloc (s.buf b).alloc).decoder

end State

/-- `gst_hevc_observer_busy`. -/
def Decoder.busy (d : Decoder) : Bool := d.lease != 0 || d.ending

/-- `gst_hevc_observer_retained`. -/
def Decoder.retained (d : Decoder) : Bool := d.lease != 0

/-! ### Buffers -/

/-- `observer_buffer`. -/
def observerBuffer (s : State) (buffer : List Mem) (d : ℕ) : Option ℕ :=
  match buffer with
  | .plane b _ :: _ =>
      let a := s.alloc (s.buf b).alloc
      if a.decoder = d ∧ a.src = true ∧ a.detached = false ∧
          (s.buf b).sizes.length = buffer.length ∧ (s.buf b).sizes.length ≤ maxPlanes ∧
          (s.buf b).generation ≠ 0 ∧ buffer = (List.range buffer.length).map (.plane b)
      then some b else none
  | _ => none

/-- `gst_hevc_observer_buffer_identity`: the buffer, if it can be identified. -/
def bufferIdentity (s : State) (buffer : List Mem) (d : ℕ) : Option ℕ :=
  (observerBuffer s buffer d).filter fun b => !(s.buf b).published && (s.buf b).writer != 0

/-- `gst_hevc_observer_buffer_writer`. -/
def bufferWriter (s : State) (buffer : Option (List Mem)) (d : ℕ) (writer : ℕ) (completed : Bool) :
    State :=
  match buffer.bind fun buffer => observerBuffer s buffer d with
  | none => s
  | some b =>
      if completed then
        if (s.buf b).writer = writer then s.setBuf b { s.buf b with completed := writer } else s
      else s.setBuf b { s.buf b with writer := writer, completed := 0 }

/-- A buffer is published, for good. -/
def publishBuf (s : State) (b : ℕ) : State := s.setBuf b { s.buf b with published := true }

/-- A part of a memory has no buffer of its own. -/
def publishMem (s : State) : Mem → State
  | .plane b _ => publishBuf s b
  | _ => s

/-- `gst_hevc_observer_buffer_publish`. -/
def bufferPublish (s : State) (buffer : List Mem) : State := buffer.foldl publishMem s

/-- `observer_map_admit`, as `observer_memory_map`, `observer_memory_map_full` and
`observer_memory_share` call it. -/
def memoryMap (s : State) (m : Mem) : State × Bool :=
  match m.root with
  | none => (s, true)
  | some b =>
      if (s.alloc (s.buf b).alloc).src = false then (s, true)
      else if (s.dec (s.bufDecoder b)).busy then (s, false)
      else (publishBuf s b, true)

/-! ### References to requests -/

/-- `gst_v4l2_request_ref`. -/
def requestRef (s : State) (r : ℕ) : State :=
  s.setReq r { s.req r with refCount := (s.req r).refCount + 1 }

/-- `gst_v4l2_request_unref`: the last reference recycles the request. -/
def requestUnref (s : State) (r : ℕ) : State :=
  let q := s.req r
  if 1 < q.refCount then s.setReq r { q with refCount := q.refCount - 1 }
  else
    let s₁ := if q.submitted then s else
      s.setDec q.decoder { s.dec q.decoder with unqueued := (s.dec q.decoder).unqueued - 1 }
    s₁.setReq r
      { q with
        refCount := 0, bitstream := none, picBuf := none, frameNum := 2 ^ 32 - 1
        failed := false, holdPicBuf := false, subRequest := false }

/-! ### Completion -/

/-- What the kernel returns when buffers are dequeued: the index of the bitstream buffer, and the
frame and the index of the picture buffer. -/
structure Dequeued where
  sink : Option ℕ := none
  src : Option (ℕ × ℕ) := none

/-- `gst_v4l2_codec_buffer_get_index`. -/
def bufferIndex (s : State) (buffer : Option (List Mem)) : Option ℕ :=
  match buffer with
  | some (.plane b _ :: _) => some (s.buf b).index
  | _ => none

/-- A request that is taken from the pending ones fails if the kernel did not return its buffers. -/
def dequeueFails (s : State) (q : Request) (e : Dequeued) : Bool :=
  q.failed || e.sink != q.bitstream || (!q.holdPicBuf &&
    match e.src with
    | none => true
    | some (frame, index) => frame != q.frameNum || some index != bufferIndex s q.picBuf)

/-- A request is not pending any more. -/
def Request.retired (q : Request) (failed : Bool) : Request :=
  { q with
    bitstream := none, pending := false, failed := failed
    completed := if !failed && !q.holdPicBuf then q.writer else q.completed }

/-- A request of the decoder is not pending any more. -/
def Decoder.retireHead (x : Decoder) (rest : List ℕ) (failed : Bool) : Decoder :=
  { x with pending := rest, completed := x.completed + 1, failed := x.failed || failed }

/-- One round of the loop of `gst_v4l2_request_set_done`, for the head of `pending_requests`. -/
def retire (s : State) (d p : ℕ) (rest : List ℕ) (e : Dequeued) : State :=
  let q := s.req p
  let failed := dequeueFails s q e
  let s₁ := (s.setReq p (q.retired failed)).setDec d ((s.dec d).retireHead rest failed)
  let s₂ := if !failed && !q.holdPicBuf then bufferWriter s₁ q.picBuf d q.writer true else s₁
  requestUnref s₂ p

/-- The loop of `gst_v4l2_request_set_done`. -/
def retireUntil (s : State) (d r : ℕ) : List ℕ → List Dequeued → State
  | [], _ => s
  | p :: rest, es =>
      let s₁ := retire s d p rest (es.headD {})
      if p = r then s₁ else retireUntil s₁ d r rest es.tail

/-- The result of `gst_poll_wait`. -/
inductive Poll where
  | timeout
  | error
  | ready
  deriving DecidableEq

/-- `gst_v4l2_request_set_done`. -/
def setDone (s : State) (r : ℕ) (poll : Poll) (es : List Dequeued) : State × ℤ :=
  let d := (s.req r).decoder
  if (s.dec d).busy then (s, -1)
  else if !(s.req r).pending then (s, 1)
  else
    match poll with
    | .timeout => (s, 0)
    | .error => (s, -1)
    | .ready => (retireUntil s d r (s.dec d).pending es, 1)

/-! ### Selection -/

/-- `observer_selection`: what the receipt says of the request. -/
def observerSelection (s : State) (d r : ℕ) : Option (Target × ℕ × ℕ × List ℕ) :=
  let q := s.req r
  if q.decoder = d ∧ q.generation ≠ 0 ∧ q.submitted = true ∧ q.writer ≠ 0 ∧ q.failed = false ∧
      q.subRequest = false ∧ q.holdPicBuf = false then
    match q.picBuf.bind fun buffer => bufferIdentity s buffer d with
    | none => none
    | some b =>
        if (s.buf b).writer = q.writer then
          some (⟨q.generation, (s.buf b).generation, (s.buf b).writer⟩, q.frameNum,
            (s.buf b).index, (s.buf b).sizes)
        else none
  else none

/-- `gst_hevc_observer_trace`. -/
def observerTrace (s : State) (r : ℕ) : State :=
  let d := (s.req r).decoder
  if (s.dec d).session = 0 then s
  else
    match observerSelection s d r with
    | none => s
    | some (target, frame, index, _) =>
        s.setDec d
          { s.dec d with
            trace := (s.dec d).trace ++ [⟨(s.dec d).run, (s.dec d).generation, target.allocation,
              target.request, target.writer, frame, index⟩] }

/-! ### Requests -/

/-- A request of the pool, or a new one: no one holds a reference to it. -/
def allocRequest (s : State) (d r frame : ℕ) (bitstream : ℕ) (picBuf : List Mem) : State × Bool :=
  if (s.dec d).busy || (s.req r).refCount != 0 then (s, false)
  else
    (((s.setReq r
        { refCount := 1, owned := 1, decoder := d, generation := s.next, frameNum := frame
          bitstream := some bitstream, picBuf := some picBuf }).setDec d
      { s.dec d with unqueued := (s.dec d).unqueued + 1 }).generate, true)

/-- `gst_v4l2_decoder_alloc_sub_request`. -/
def allocSubRequest (s : State) (d r prev : ℕ) (bitstream : ℕ) : State × Bool :=
  if (s.dec d).busy || (s.req r).refCount != 0 then (s, false)
  else
    (((s.setReq r
        { refCount := 1, owned := 1, decoder := d, generation := s.next
          frameNum := (s.req prev).frameNum, bitstream := some bitstream
          picBuf := (s.req prev).picBuf, subRequest := true }).setDec d
      { s.dec d with unqueued := (s.dec d).unqueued + 1, partialHistory := true }).generate, true)

/-- What a call of `gst_v4l2_request_queue` asks for and learns from the kernel. -/
structure QueueEnv where
  /-- `V4L2_BUF_FLAG_M2M_HOLD_CAPTURE_BUF`. -/
  hold : Bool := false
  holdSupported : Bool := true
  sinkOk : Bool := true
  srcOk : Bool := true
  queueOk : Bool := true

/-- The decoder has failed. -/
def setFailed (s : State) (d : ℕ) : State := s.setDec d { s.dec d with failed := true }

/-- The request is with the kernel. -/
def submit (s : State) (r : ℕ) (hold : Bool) : State :=
  let q := s.req r
  let d := q.decoder
  let s₁ := ((s.setReq r { q with submitted := true, writer := s.next }).setDec d
    { s.dec d with
      unqueued := (s.dec d).unqueued - 1, submitted := (s.dec d).submitted + 1 }).generate
  let s₂ := observerTrace (bufferWriter s₁ q.picBuf d s.next false) r
  (s₂.setReq r
    { s₂.req r with
      refCount := (s₂.req r).refCount + 1, pending := true
      holdPicBuf := (s₂.req r).holdPicBuf || hold }).setDec d
    { s₂.dec d with pending := (s₂.dec d).pending ++ [r] }

/-- `gst_v4l2_request_queue`. -/
def requestQueue (s : State) (r : ℕ) (e : QueueEnv) : State × Bool :=
  let q := s.req r
  let d := q.decoder
  if (s.dec d).busy then (s, false)
  else if (s.dec d).session ≠ 0 ∧ (q.pending || q.submitted || (s.dec d).failed) then (s, false)
  else if (s.dec d).session ≠ 0 ∧ (q.subRequest || e.hold) then (s, false)
  else if (s.dec d).session ≠ 0 ∧
      (q.picBuf.bind fun buffer => observerBuffer s buffer d) = none then (s, false)
  else
    let s₁ := if e.hold then s.setDec d { s.dec d with partialHistory := true } else s
    -- The old writer is not valid from here on.
    let s₂ := bufferWriter s₁ q.picBuf d 0 false
    if e.hold && !e.holdSupported then (s₂, false)
    else if !e.sinkOk then (setFailed s₂ d, false)
    else if !q.subRequest && !e.srcOk then (setFailed s₂ d, false)
    -- The kernel refuses a request that was queued and not initialised since.
    else if q.submitted || !e.queueOk then (setFailed s₂ d, false)
    else (submit s₂ r e.hold, true)

/-- The part of `gst_v4l2_codec_h265_dec_output_picture` that holds the mutex. -/
def outputPicture (s : State) (r : ℕ) (buffer : List Mem) (poll : Poll) (es : List Dequeued) :
    State × Bool :=
  let (s₁, ret) := setDone s r poll es
  if ret ≤ 0 then (s₁, false)
  else if (s₁.req r).failed then (s₁, false)
  else (bufferPublish s₁ buffer, true)

/-- `gst_v4l2_request_dup_pic_buf`. -/
def dupPicBuf (s : State) (r : ℕ) : State × Bool :=
  if (s.dec (s.req r).decoder).busy then (s, false)
  else (bufferPublish s ((s.req r).picBuf.getD []), true)

/-- `gst_v4l2_request_get_fd`. -/
def getFd (s : State) (r : ℕ) : State × Bool :=
  let d := (s.req r).decoder
  if (s.dec d).busy then (s, false) else (s.setDec d { s.dec d with external := true }, true)

/-! ### Decoders and allocators -/

/-- `gst_v4l2_decoder_init`; `run` is what `getrandom` returned, or zero. -/
def decoderInit (s : State) (d : ℕ) (run : ℕ × ℕ) : State × Bool :=
  if (s.dec d).live then (s, false)
  else ((s.setDec d { live := true, run := run, generation := s.next }).generate, true)

/-- A function of a decoder that does nothing while it is busy. -/
def unlessBusy (s : State) (d : ℕ) (f : Decoder → Decoder) (ok : Bool) : State × Bool :=
  if (s.dec d).busy then (s, false) else (s.setDec d (f (s.dec d)), ok)

/-- `gst_v4l2_decoder_open`. -/
def decoderOpen (s : State) (d : ℕ) (docMode ok : Bool) : State × Bool :=
  unlessBusy s d
    (fun x => { x with opened := ok || x.opened, docMode := if ok then docMode else x.docMode }) ok

/-- The kernel has given back a request, if `cancel` is set. -/
def Request.cancelled (q : Request) (cancel : Bool) : Request :=
  { q with
    pending := q.pending && !cancel
    bitstream := if cancel then none else q.bitstream }

/-- The pending requests are taken away. -/
def dropPending (s : State) (d : ℕ) (cancel : Bool) : List ℕ → State
  | [] => s
  | p :: rest =>
      let s₁ := (s.setReq p ((s.req p).cancelled cancel)).setDec d { s.dec d with pending := rest }
      dropPending (requestUnref s₁ p) d cancel rest

/-- `gst_v4l2_decoder_close`. -/
def decoderClose (s : State) (d : ℕ) : State × Bool :=
  if (s.dec d).busy then (s, false)
  else
    let s₁ := s.setDec d
      { s.dec d with retired := true, session := 0, owner := none, opened := false }
    (dropPending s₁ d false (s.dec d).pending, true)

/-- `gst_v4l2_decoder_streamon`. -/
def streamon (s : State) (d : ℕ) (src ok : Bool) : State × Bool :=
  unlessBusy s d
    (fun x =>
      { x with
        streamingSrc := x.streamingSrc || (ok && src)
        streamingSink := x.streamingSink || (ok && !src) }) ok

/-- `gst_v4l2_decoder_streamoff`. -/
def streamoff (s : State) (d : ℕ) (src ok : Bool) : State × Bool :=
  if (s.dec d).busy then (s, false)
  else
    let s₁ := s.setDec d
      { s.dec d with
        retired := true
        streamingSrc := (s.dec d).streamingSrc && !src
        streamingSink := (s.dec d).streamingSink && src }
    (if src then dropPending s₁ d true (s.dec d).pending else s₁, ok)

/-- The configuration changes after a submission. -/
def Decoder.reconfigured (x : Decoder) : Decoder :=
  if x.submitted = 0 then x else { x with retired := true }

/-- `gst_v4l2_decoder_set_sink_fmt`. -/
def setSinkFmt (s : State) (d format : ℕ) (ok : Bool) : State × Bool :=
  unlessBusy s d
    (fun x => if ok then { x.reconfigured with format := format } else x.reconfigured) ok

/-- `gst_v4l2_decoder_select_src_format`. -/
def selectSrcFormat (s : State) (d : ℕ) (ok : Bool) : State × Bool :=
  unlessBusy s d Decoder.reconfigured ok

/-- `gst_v4l2_decoder_remove_buffers` and `gst_v4l2_decoder_request_buffers`. -/
def requestBuffers (s : State) (d : ℕ) (ok : Bool) : State × Bool :=
  if (s.dec d).retained then (s, false) else (s.setDec d (s.dec d).reconfigured, ok)

/-- `gst_v4l2_decoder_export_buffer`. -/
def exportBuffer (s : State) (d : ℕ) (ok : Bool) : State × Bool :=
  unlessBusy s d (fun x => { x with external := true }) ok

/-- `gst_v4l2_codec_allocator_new`, before its buffers are made. -/
def allocatorNew (s : State) (a d : ℕ) (src : Bool) : State × Bool :=
  if (s.alloc a).live then (s, false)
  else (s.setAlloc a { live := true, decoder := d, src := src }, true)

/-- `gst_v4l2_codec_buffer_new`. -/
def bufferNew (s : State) (b a index : ℕ) (sizes : List ℕ) : State × Bool :=
  if (s.buf b).live || !(s.alloc a).live || (s.dec (s.alloc a).decoder).busy then (s, false)
  else
    ((s.setBuf b
      { live := true, generation := s.next, index := index, alloc := a, sizes := sizes }).generate,
      true)

/-- `gst_v4l2_codec_allocator_detach`. -/
def allocatorDetach (s : State) (a : ℕ) : State × Bool :=
  if (s.dec (s.alloc a).decoder).retained then (s, false)
  else (s.setAlloc a { s.alloc a with detached := true }, true)

/-! ### The observer -/

/-- `observer_session_valid`, for a call of thread `th`. -/
def sessionValid (s : State) (d : ℕ) (session : Session) (th : ℕ) : Bool :=
  session.nonce != 0 && session.nonce == (s.dec d).session &&
    session.context == (s.dec d).generation && session.run == (s.dec d).run &&
    (s.dec d).owner == some th

/-- `observer_session_record`. -/
def sessionRecord (x : Decoder) : Session := ⟨x.run, x.generation, x.session⟩

/-- `gst_hevc_observer_open`; `lock` says whether the mutex was had in time. -/
def observerOpen (s : State) (d th : ℕ) (lock : Bool) : State × Option Session :=
  let x := s.dec d
  if lock ∧ x.opened = true ∧ x.docMode = false ∧ x.retired = false ∧ x.format = hevcSlice ∧
      x.generation ≠ 0 ∧ x.run ≠ (0, 0) ∧ x.session = 0 ∧ x.busy = false then
    if s.next = 0 then (s.generate, none)
    else
      let x' := { x with session := s.next, owner := some th }
      ((s.setDec d x').generate, some (sessionRecord x'))
  else (s, none)

/-- `gst_hevc_observer_select`. -/
def observerSelect (s : State) (d : ℕ) (session : Session) (r th : ℕ) (lock : Bool) : Option Target :=
  if lock ∧ sessionValid s d session th = true ∧ (s.dec d).busy = false then
    (observerSelection s d r).map (·.1)
  else none

/-- One round of the drain of `gst_hevc_observer_begin`: whether the deadline has passed, and what
the kernel returns. -/
structure DrainEnv where
  late : Bool := false
  poll : Poll := .ready
  dequeued : List Dequeued := []

/-- The drain of `gst_hevc_observer_begin`; the rounds end with the deadline. -/
def drain (s : State) (d : ℕ) : List DrainEnv → State
  | [] => if (s.dec d).pending = [] then s else setFailed s d
  | e :: es =>
      match (s.dec d).pending with
      | [] => s
      | p :: _ =>
          let s₁ := requestRef s p
          let q := s₁.req p
          let (s₂, ret) :=
            if q.holdPicBuf || q.subRequest || e.late then (s₁, 0) else setDone s₁ p e.poll e.dequeued
          let done := decide (0 < ret) && !(s₂.req p).pending && !(s₂.req p).failed
          let s₃ := requestUnref s₂ p
          if done then drain s₃ d es else setFailed s₃ d

/-- What a call of `gst_hevc_observer_begin` learns: whether its deadline is valid and the mutex was
had in time, the rounds of the drain, and whether the deadline passed then. -/
structure BeginEnv where
  lock : Bool := true
  rounds : List DrainEnv := []
  late : Bool := false

/-- What `gst_hevc_observer_begin` asks of the decoder before it drains. -/
def Decoder.observable (x : Decoder) : Prop :=
  x.busy = false ∧ x.opened = true ∧ x.streamingSink = true ∧ x.streamingSrc = true ∧
    x.retired = false ∧ x.failed = false ∧ x.format = hevcSlice ∧ x.partialHistory = false ∧
    x.external = false ∧ x.unqueued = 0

instance (x : Decoder) : Decidable x.observable :=
  inferInstanceAs (Decidable (_ ∧ _ ∧ _ ∧ _ ∧ _ ∧ _ ∧ _ ∧ _ ∧ _ ∧ _))

/-- The lease of `gst_hevc_observer_begin`, when the decoder is drained. -/
def grant (s : State) (d r : ℕ) (found : Target × ℕ × ℕ × List ℕ) : State × Receipt :=
  ((s.setDec d { s.dec d with lease := s.next, request := some r }).generate,
    { session := sessionRecord (s.dec d), target := found.1, lease := s.next
      submitted := (s.dec d).submitted, completed := (s.dec d).completed
      frameNum := found.2.1, captureIndex := found.2.2.1, planeSize := found.2.2.2 })

/-- `gst_hevc_observer_begin`. -/
def observerBegin (s : State) (d : ℕ) (session : Session) (r : ℕ) (target : Target) (th : ℕ)
    (e : BeginEnv) : State × Option Receipt :=
  if e.lock ∧ sessionValid s d session th = true ∧ (s.dec d).observable ∧
      (observerSelection s d r).map (·.1) = some target then
    let s₁ := drain (requestRef s r) d e.rounds
    match observerSelection s₁ d r with
    | none => (requestUnref s₁ r, none)
    | some found =>
        if (s₁.dec d).failed || (s₁.dec d).completed != (s₁.dec d).submitted ||
            (s₁.req r).completed != target.writer || e.late then (requestUnref s₁ r, none)
        else if s₁.next = 0 then (requestUnref s₁.generate r, none)
        else
          let (s₂, receipt) := grant s₁ d r found
          (s₂, some receipt)
  else (s, none)

/-- `gst_hevc_observer_end`. -/
def observerEnd (s : State) (d : ℕ) (session : Session) (lease th : ℕ) (lock : Bool) :
    State × Bool :=
  let x := s.dec d
  if lock ∧ sessionValid s d session th = true ∧ lease ≠ 0 ∧ x.lease = lease ∧ x.ending = false then
    let s₁ := s.setDec d { x with lease := 0, request := none }
    (match x.request with
      | some r => requestUnref s₁ r
      | none => s₁, true)
  else (s, false)

/-- `gst_hevc_observer_close`. -/
def observerClose (s : State) (d : ℕ) (session : Session) (th : ℕ) (lock : Bool) : State × Bool :=
  if lock ∧ sessionValid s d session th = true ∧ (s.dec d).busy = false then
    (s.setDec d { s.dec d with session := 0, owner := none }, true)
  else (s, false)

/-! ### Calls -/

/-- A call, with what it learns from the kernel and the clock. -/
inductive Call where
  | decoderInit (d : ℕ) (run : ℕ × ℕ)
  | decoderOpen (d : ℕ) (docMode ok : Bool)
  | decoderClose (d : ℕ)
  | streamon (d : ℕ) (src ok : Bool)
  | streamoff (d : ℕ) (src ok : Bool)
  | setSinkFmt (d format : ℕ) (ok : Bool)
  | selectSrcFormat (d : ℕ) (ok : Bool)
  | requestBuffers (d : ℕ) (ok : Bool)
  | exportBuffer (d : ℕ) (ok : Bool)
  | allocatorNew (a d : ℕ) (src : Bool)
  | bufferNew (b a index : ℕ) (sizes : List ℕ)
  | allocatorDetach (a : ℕ)
  | memoryMap (m : Mem)
  | allocRequest (d r frame bitstream : ℕ) (picBuf : List Mem)
  | allocSubRequest (d r prev bitstream : ℕ)
  | requestRef (r : ℕ)
  | requestUnref (r : ℕ)
  | requestQueue (r : ℕ) (e : QueueEnv)
  | setDone (r : ℕ) (poll : Poll) (es : List Dequeued)
  /-- `gst_v4l2_request_queue` completes the oldest request when too many are pending. -/
  | setDoneHead (d : ℕ) (poll : Poll) (es : List Dequeued)
  | outputPicture (r : ℕ) (buffer : List Mem) (poll : Poll) (es : List Dequeued)
  | dupPicBuf (r : ℕ)
  | getFd (r : ℕ)
  | observerOpen (d th : ℕ) (lock : Bool)
  | observerSelect (d : ℕ) (session : Session) (r th : ℕ) (lock : Bool)
  | observerBegin (d : ℕ) (session : Session) (r : ℕ) (target : Target) (th : ℕ) (e : BeginEnv)
  | observerEnd (d : ℕ) (session : Session) (lease th : ℕ) (lock : Bool)
  | observerClose (d : ℕ) (session : Session) (th : ℕ) (lock : Bool)

/-- What a call returns. -/
inductive Ret where
  | done (ok : Bool)
  | session (x : Option Session)
  | target (x : Option Target)
  | receipt (x : Option Receipt)
  deriving DecidableEq

/-- A call with a request: it is made by a caller that owns a reference to it. -/
def withRequest (s : State) (r : ℕ) (f : State → State × Bool) : State × Ret :=
  if (s.req r).owned = 0 then (s, .done false) else ((f s).1, .done (f s).2)

/-- A call with a decoder that exists. -/
def withDecoder (s : State) (d : ℕ) (f : State → State × Bool) : State × Ret :=
  if (s.dec d).live then ((f s).1, .done (f s).2) else (s, .done false)

def step (s : State) : Call → State × Ret
  | .decoderInit d run => ((decoderInit s d run).1, .done (decoderInit s d run).2)
  | .decoderOpen d docMode ok => withDecoder s d fun s => decoderOpen s d docMode ok
  | .decoderClose d => withDecoder s d fun s => decoderClose s d
  | .streamon d src ok => withDecoder s d fun s => streamon s d src ok
  | .streamoff d src ok => withDecoder s d fun s => streamoff s d src ok
  | .setSinkFmt d format ok => withDecoder s d fun s => setSinkFmt s d format ok
  | .selectSrcFormat d ok => withDecoder s d fun s => selectSrcFormat s d ok
  | .requestBuffers d ok => withDecoder s d fun s => requestBuffers s d ok
  | .exportBuffer d ok => withDecoder s d fun s => exportBuffer s d ok
  | .allocatorNew a d src => withDecoder s d fun s => allocatorNew s a d src
  | .bufferNew b a index sizes =>
      ((bufferNew s b a index sizes).1, .done (bufferNew s b a index sizes).2)
  | .allocatorDetach a => ((allocatorDetach s a).1, .done (allocatorDetach s a).2)
  | .memoryMap m => ((memoryMap s m).1, .done (memoryMap s m).2)
  | .allocRequest d r frame bitstream picBuf =>
      withDecoder s d fun s => allocRequest s d r frame bitstream picBuf
  | .allocSubRequest d r prev bitstream =>
      if (s.dec d).live then withRequest s prev fun s => allocSubRequest s d r prev bitstream
      else (s, .done false)
  | .requestRef r =>
      withRequest s r fun s =>
        (requestRef (s.setReq r { s.req r with owned := (s.req r).owned + 1 }) r, true)
  | .requestUnref r =>
      withRequest s r fun s =>
        (requestUnref (s.setReq r { s.req r with owned := (s.req r).owned - 1 }) r, true)
  | .requestQueue r e => withRequest s r fun s => requestQueue s r e
  | .setDone r poll es =>
      withRequest s r fun s => ((setDone s r poll es).1, decide (0 < (setDone s r poll es).2))
  | .setDoneHead d poll es =>
      match (s.dec d).pending with
      | [] => (s, .done false)
      | p :: _ => ((setDone s p poll es).1, .done (decide (0 < (setDone s p poll es).2)))
  | .outputPicture r buffer poll es => withRequest s r fun s => outputPicture s r buffer poll es
  | .dupPicBuf r => withRequest s r fun s => dupPicBuf s r
  | .getFd r => withRequest s r fun s => getFd s r
  | .observerOpen d th lock => ((observerOpen s d th lock).1, .session (observerOpen s d th lock).2)
  | .observerSelect d session r th lock =>
      if (s.req r).owned = 0 then (s, .target none)
      else (s, .target (observerSelect s d session r th lock))
  | .observerBegin d session r target th e =>
      if (s.req r).owned = 0 then (s, .receipt none)
      else ((observerBegin s d session r target th e).1,
        .receipt (observerBegin s d session r target th e).2)
  | .observerEnd d session lease th lock =>
      ((observerEnd s d session lease th lock).1, .done (observerEnd s d session lease th lock).2)
  | .observerClose d session th lock =>
      ((observerClose s d session th lock).1, .done (observerClose s d session th lock).2)

/-- Calls one after the other. -/
def runFrom (s : State) (calls : List Call) : State := calls.foldl (fun s c => (step s c).1) s

/-- Calls from the state in which nothing exists. -/
def run (calls : List Call) : State := runFrom {} calls

end OmarchyM1Video.GstObserver
