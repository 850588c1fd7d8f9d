import OmarchyM1Video.Py.Dict
import OmarchyM1Video.Vp9State.Event
import OmarchyM1Video.Vp9State.Layout

/-!
The decoder session of `experiments/vp9-state/model.py`: its state, the handlers of the events
and their dispatch.

A handler is a computation on the session that may raise, and what it wrote before it raised
stays written, as in the source.  A missing member of `eras`, an attribute of an absent era and
arithmetic on an absent scratch size raise the built-in exceptions Python raises there.

* `Session.new`: the constructor with its checks;
* `opQueueDst`, `opDecode`, `opRegister`, …: the handlers, one for each operation;
* `resolveStockUserspace`, `resolveStockKernel`, `resolveProposed`: the three ways a reference is
  looked up, which read the session only;
* `apply`: one event, and `applyJson`, the same from the raw event with its validation;
* `accepts`, `endState`: whether a run goes through, and the session at its end.
-/

namespace OmarchyM1Video.Vp9State

open OmarchyM1Video.Py

/-! ### The state -/

/-- The two paths a session can model. -/
inductive Path where
  | stock | proposed
  deriving DecidableEq, Repr

def Path.ofName? (name : String) : Option Path :=
  if name = "stock" then some .stock else if name = "proposed" then some .proposed else none

/-- A CAPTURE buffer, its queue wrapper included. -/
structure Buffer where
  name : String
  eraId : ℕ
  width : ℕ
  height : ℕ
  bitDepth : ℕ
  sizeimage : ℕ
  backingBytes : ℕ
  index : Option ℕ
  generation : Option ℕ
  timestamp : Option ℕ
  decodedOk : Bool
  exported : Bool
  queuedAsDst : Bool
  wrapperAlive : Bool
  contentId : String
  deriving DecidableEq, Repr

/-- `Buffer(name, era, backing_bytes)`. -/
def Buffer.new (name : String) (era : Era) (backingBytes : Option ℕ) : Buffer where
  name := name
  eraId := era.id
  width := era.width
  height := era.height
  bitDepth := era.bitDepth
  sizeimage := era.sizeimage
  backingBytes := backingBytes.getD era.sizeimage
  index := none
  generation := none
  timestamp := none
  decodedOk := false
  exported := false
  queuedAsDst := false
  wrapperAlive := false
  contentId := name

/-- The wrapper of a buffer after REQBUFS: gone, with the timestamp left on the object. -/
def Buffer.dropWrapper (buf : Buffer) : Buffer :=
  { buf with wrapperAlive := false, queuedAsDst := false, index := none, generation := none }

/-- The timestamp of the destination at an index. -/
def dstTimestamp (i : ℕ) : ℕ := (i + 1) * tsScale

/-- The wrapper of a buffer queued at an index. -/
def Buffer.queueAt (buf : Buffer) (i generation : ℕ) : Buffer :=
  { buf with
    index := some i
    generation := some generation
    timestamp := some (dstTimestamp i)
    wrapperAlive := true
    queuedAsDst := true }

/-- What a completed decode writes to its destination. -/
def Buffer.decodedIn (buf : Buffer) (eraId width height depth : ℕ) : Buffer :=
  { buf with decodedOk := true, eraId, width, height, bitDepth := depth }

/-- An entry of `registrations`. -/
structure Registration where
  generation : ℕ
  timestamp : ℕ
  eraId : ℕ
  index : Option ℕ
  deriving DecidableEq, Repr

/-- What is known of the segmentation map. -/
inductive SegPolicy where
  | absent | present | lost | unknown
  deriving DecidableEq, Repr

/-- One decoder session. -/
structure Session where
  path : Path
  sessionId : String
  profile : ℕ
  bitDepth : ℕ
  failed : Bool := false
  destructiveDone : Bool := false
  outputStreaming : Bool := false
  captureStreaming : Bool := false
  captureSlots : ℕ := 0
  captureGeneration : ℕ := 0
  currentEra : Option Era := none
  codedW : Option ℕ := none
  codedH : Option ℕ := none
  eras : Dict ℕ Era := ∅
  buffers : Dict String Buffer := ∅
  /-- Index to name, in the current generation. -/
  slot : Dict ℕ String := ∅
  /-- Generation and timestamp to name. -/
  tsIndex : Dict (ℕ × ℕ) String := ∅
  registrations : Dict String Registration := ∅
  probabilities : Bool := false
  lastPresent : Bool := false
  scratchPresent : Bool := false
  scratchW : Option ℕ := none
  scratchH : Option ℕ := none
  scratchDepth : Option ℕ := none
  segPresent : Bool := false
  segPolicy : SegPolicy := .absent
  nextRegTs : ℕ := regTsBase
  eventsApplied : ℕ := 0
  deriving DecidableEq

/-- A method of the session. -/
abbrev SessionM := EStateM (Exc Raised) Session

namespace Session

/-- `Session(path, session_id, profile, bit_depth)`. -/
def new (path : String) (sessionId : String) (profile bitDepth : ℤ) :
    Except (Exc Raised) Session := do
  let p ← found (Path.ofName? path) (fixtureError "unknown path" (some path))
  need (profile = 0 ∨ profile = 2)
    (fixtureError "only advertised VP9 profiles 0 and 2 are modelled")
  need (bitDepth = 8 ∨ bitDepth = 10) (fixtureError "bit_depth must be 8 or 10")
  need (¬((profile = 0 ∧ bitDepth ≠ 8) ∨ (profile = 2 ∧ bitDepth ≠ 10)))
    (fixtureError "profile 0 is 8-bit NV12; profile 2 is 10-bit P010")
  return { path := p, sessionId, profile := profile.toNat, bitDepth := bitDepth.toNat }

/-- `_capture_busy`. -/
def captureBusy (s : Session) : Prop := 0 < s.captureSlots

instance (s : Session) : Decidable s.captureBusy := inferInstanceAs (Decidable (0 < s.captureSlots))

/-- The number of the next era, `max(self.eras) + 1`. -/
def nextEraId (s : Session) : ℕ :=
  if s.eras.isEmpty then 0 else s.eras.keys.foldl max 0 + 1

/-- The scan of `_alloc_index`: the lowest index below the slot count that is not taken. -/
def freeIndex (s : Session) : Option ℕ :=
  (List.range s.captureSlots).find? fun i => !s.slot.contains i

/-! ### Exceptions that later statements name -/

/-- A registered reference is queued as a destination, or about to be. -/
def registeredQueued : Exc Raised :=
  reject .referenceQueuedAsDestination "a registered reference must not be queued as a destination"
    .refNotQueuedAsDst

/-- A registration survived its generation. -/
def staleRegistration : Exc Raised :=
  reject .staleRegistration "registration is for a previous CAPTURE generation"
    .generationScopedTimestamps

/-- A reference of another bit depth than the session. -/
def refMixedDepth : Exc Raised :=
  reject .mixedDepth "old-size reference depth/fourcc does not match the session" .imageFmtBusy

/-- A destination shorter than the current era asks for. -/
def shortDst : Exc Raised :=
  reject .shortBacking "imported plane is shorter than current sizeimage/min_length"
    .vb2DmabufMinLength

/-- No CAPTURE slot is allocated. -/
def noSlots : Exc Raised := fixtureError "decode/queue without CAPTURE buffers"

/-- Every CAPTURE slot is taken. -/
def noFreeIndex : Exc Raised :=
  reject .noCaptureBuffer "no free CAPTURE index in this generation" .queueSetupSizeimage

/-- The timestamp derived from an index is taken by another buffer. -/
def indexAlias : Exc Raised :=
  reject .oldGenerationAlias "index-derived timestamp already names different content"
    .generationScopedTimestamps

/-- The timestamp of a registration is taken. -/
def duplicateTimestamp : Exc Raised :=
  reject .duplicateTimestamp "registration timestamp already used in this generation"
    .generationScopedTimestamps

/-- The index of a registration is a destination slot. -/
def indexTaken : Exc Raised :=
  reject .referenceQueuedAsDestination "registration index is already a destination slot"
    .refNotQueuedAsDst

/-- A coded size below the minimum. -/
def tooSmall (width height : ℕ) : Exc Raised :=
  reject .sub64 s!"coded {width}x{height} is below the AVD minimum" .validateDecParamsMin64

def decodeBeforeSFmt : Exc Raised := fixtureError "decode before CAPTURE S_FMT"

/-! ### References -/

/-- `_resolve_stock_userspace`. -/
def resolveStockUserspace (s : Session) (refName : String) : Except (Exc Raised) Unit :=
  let bound : Bool := match s.buffers.get? refName with
    | none => false
    | some buf => buf.wrapperAlive && buf.decodedOk &&
        decide (buf.generation = some s.captureGeneration)
  need bound
    (reject .unavailableReference
      ("r10+ userspace rejects an inter picture whose reference is not bound to this CAPTURE " ++
        "generation")
      .wrapperOnQueue)

/-- The lookup of `_resolve_stock_kernel`: the name under the reference's own timestamp. -/
def kernelLookup (s : Session) (refName : String) : Option String := do
  let buf ← s.buffers.get? refName
  let ts ← buf.timestamp
  s.tsIndex.get? (s.captureGeneration, ts)

/-- `_resolve_stock_kernel`. -/
def resolveStockKernel (s : Session) (refName : String) : Except (Exc Raised) Unit := do
  let name ← found (s.kernelLookup refName)
    (reject .destinationFallback
      "timestamp miss returns the destination buffer (avd_get_ref_buf fallback)"
      .getRefFallbackDst)
  need (name = refName)
    (reject .oldGenerationAlias "current-generation timestamp hit different content"
      .generationScopedTimestamps)

/-- `_resolve_proposed`. -/
def resolveProposed (s : Session) (refName : String) : Except (Exc Raised) Unit := do
  let buf ← found (s.buffers.get? refName)
    (reject .orphanedRetainedBuffer "reference name is unknown to the session"
      .explicitRefRegistration)
  need (buf.bitDepth = s.bitDepth) refMixedDepth
  let era ← found (s.eras.get? buf.eraId) (.builtin .keyError)
  need (era.sizeimage ≤ buf.backingBytes)
    (reject .shortBacking "reference backing is shorter than its own era sizeimage"
      .eraSizingDstVsRef)
  match s.registrations.get? refName with
  | some reg =>
      -- Imported references stay off the destination queue.
      need (!buf.queuedAsDst) registeredQueued
      need (reg.generation = s.captureGeneration) staleRegistration
  | none =>
      -- A decoded destination of this generation is a legal reference without registration.
      if buf.wrapperAlive ∧ buf.decodedOk ∧ buf.generation = some s.captureGeneration then
        return ()
      need (¬(buf.exported ∧ ¬buf.wrapperAlive))
        (reject .orphanedRetainedBuffer
          "exported backing was not registered after queue replacement" .explicitRefRegistration)
      throw (reject .unavailableReference
        "proposed path has no destination fallback; unregistered ref" .noDestinationFallback)

/-- One reference of a decode, looked up the way the path and the event ask for. -/
def resolveRef (s : Session) (args : DecodeArgs) (refName : String) :
    Except (Exc Raised) Unit := do
  need (refName ≠ args.dst)
    (reject .referenceQueuedAsDestination "decode cannot overwrite its own live reference"
      .refNotQueuedAsDst)
  match s.path, args.forceKernelLookup.getD false with
  | .stock, false => s.resolveStockUserspace refName
  | .stock, true => s.resolveStockKernel refName
  | .proposed, _ => s.resolveProposed refName

/-- `_resolve_refs`. -/
def resolveRefs (s : Session) (args : DecodeArgs) : List String → Except (Exc Raised) Unit
  | [] => .ok ()
  | refName :: refs => do
      s.resolveRef args refName
      s.resolveRefs args refs

/-- The scratch check of `op_decode` at one block size. -/
def scratchExceededAt (s : Session) (w h a : ℕ) : Except (Exc Raised) Bool := do
  let scratchW ← found s.scratchW (.builtin .typeError)
  if divRoundUp scratchW a < divRoundUp w a then
    return true
  let scratchH ← found s.scratchH (.builtin .typeError)
  return decide (divRoundUp scratchH a < divRoundUp h a)

/-- Whether a frame needs more scratch than is allocated, at any of the given block sizes. -/
def scratchExceededAny (s : Session) (w h : ℕ) : List ℕ → Except (Exc Raised) Bool
  | [] => .ok false
  | a :: sizes => do
      if ← s.scratchExceededAt w h a then return true else s.scratchExceededAny w h sizes

/-- The scratch check of `op_decode`. -/
def scratchExceeded (s : Session) (w h depth : ℕ) : Except (Exc Raised) Bool :=
  if !s.scratchPresent ∨ s.scratchDepth ≠ some depth then .ok true
  else s.scratchExceededAny w h [8, 16, 64]

/-- Whether a buffer is known and queued as a destination. -/
def isQueued (s : Session) (name : String) : Bool :=
  match s.buffers.get? name with
  | some buf => buf.queuedAsDst
  | none => false

/-! ### Handlers -/

/-- `_need_era`. -/
def needEra (width height bitDepth : ℕ) : SessionM Era := do
  raiseIf (width < minDim ∨ height < minDim) (tooSmall width height)
  let s ← get
  let era : Era := { id := s.nextEraId, width, height, bitDepth }
  modify fun s => { s with eras := s.eras.set era.id era }
  return era

def opOpen (session : Option String) : SessionM Unit := do
  let s ← get
  match session with
  | none => return ()
  | some name =>
      onlyIf (name ≠ "") do
        raiseIf (0 < s.eventsApplied ∧ name ≠ s.sessionId)
          (reject .sessionIdentityChange "cannot inherit another session's state"
            .sessionNotProfileKey)
        modify fun s => { s with sessionId := name }

def opOutputSFmt (width height : ℕ) : SessionM Unit := do
  let s ← get
  raiseIf s.outputStreaming
    (reject .streamingOutputSFmt "S_FMT OUTPUT while streaming is -EBUSY on stock AVD"
      .outputSFmtStreaming)
  raiseIf s.captureBusy
    (reject .busyCaptureSFmt "S_FMT OUTPUT while CAPTURE is busy is -EBUSY" .outputSFmtCaptureBusy)
  modify fun s => { s with codedW := some width, codedH := some height }

def opCaptureSFmt (width height : ℕ) (bitDepth : Option ℕ) : SessionM Unit := do
  let s ← get
  raiseIf s.captureBusy
    (reject .busyCaptureSFmt "S_FMT CAPTURE while buffers are allocated is -EBUSY"
      .captureSFmtBusy)
  let depth := bitDepth.getD s.bitDepth
  raiseIf (depth ≠ s.bitDepth)
    (reject .mixedDepth "image-format/bit-depth change is not a legal mid-session mix"
      .imageFmtBusy)
  let era ← needEra width height depth
  modify fun s => { s with currentEra := some era }

def opOutputStreamon : SessionM Unit := do
  let s ← get
  -- A repeated STREAMON does not allocate a fresh codec context.
  onlyIf (¬s.outputStreaming) do
    raiseIf (s.codedW = none) (fixtureError "OUTPUT STREAMON before S_FMT")
    modify fun s => { s with
      outputStreaming := true
      probabilities := true
      lastPresent := true
      scratchPresent := true
      scratchW := s.codedW
      scratchH := s.codedH
      scratchDepth := some s.bitDepth
      segPresent := true
      segPolicy := .present }

def opOutputStreamoff : SessionM Unit :=
  modify fun s => { s with
    outputStreaming := false
    probabilities := false
    lastPresent := false
    scratchPresent := false
    scratchW := none
    scratchH := none
    scratchDepth := none
    segPresent := false
    segPolicy := .lost }

def opCaptureStreamon : SessionM Unit := do
  let s ← get
  raiseIf (s.captureSlots = 0) (fixtureError "CAPTURE STREAMON without buffers")
  modify fun s => { s with captureStreaming := true }

def opCaptureStreamoff : SessionM Unit :=
  modify fun s => { s with captureStreaming := false }

/-- The destructive half of REQBUFS: the queue is replaced and the generation ends. -/
def dropQueue (s : Session) : Session :=
  { s with
    buffers := s.buffers.mapVals Buffer.dropWrapper
    slot := ∅
    captureSlots := 0
    captureGeneration := s.captureGeneration + 1
    destructiveDone := true
    registrations := ∅ }

def opCaptureReqbufs (count : ℕ) : SessionM Unit := do
  let s ← get
  raiseIf s.captureStreaming
    (reject .streamingReqbufs "REQBUFS requires CAPTURE STREAMOFF" .reqbufsReplacesQueue)
  onlyIf (count = 0 ∨ s.captureSlots ≠ 0) (modify dropQueue)
  onlyIf (count ≠ 0) do
    let s ← get
    raiseIf (s.currentEra = none) (fixtureError "REQBUFS before CAPTURE S_FMT")
    modify fun s => { s with captureSlots := count, slot := ∅ }

/-- `_alloc_index`. -/
def allocIndex (name : String) : SessionM ℕ := do
  let s ← get
  raiseIf (s.captureSlots = 0) noSlots
  let i ← orRaise s.freeIndex noFreeIndex
  modify fun s => { s with slot := s.slot.set i name }
  return i

/-- The buffer that `op_queue_dst` queues: a known one, or a new one of the current era. -/
def dstBuffer (name : String) (backingBytes : Option ℕ) : SessionM Buffer := do
  let s ← get
  match s.buffers.get? name with
  | some buf => return buf
  | none =>
      let era ← orRaise s.currentEra (fixtureError "queue_dst before CAPTURE S_FMT")
      let buf := Buffer.new name era (some (backingBytes.getD era.sizeimage))
      modify fun s => { s with buffers := s.buffers.set name buf }
      return buf

def opQueueDst (name : String) (backingBytes : Option ℕ) : SessionM Unit := do
  let s ← get
  let buf ← dstBuffer name backingBytes
  raiseIf (s.registrations.contains name) registeredQueued
  raiseIf buf.queuedAsDst
    (reject .duplicateDestination "destination already has a live CAPTURE slot"
      .uniqueDestinationSlot)
  let era ← orRaise s.currentEra (.builtin .attributeError)
  raiseIf (buf.backingBytes < era.sizeimage) shortDst
  let i ← allocIndex name
  modify fun s => { s with
    buffers := s.buffers.set name (buf.queueAt i s.captureGeneration) }
  let key := (s.captureGeneration, dstTimestamp i)
  raiseIf (s.tsIndex.contains key ∧ s.tsIndex.get? key ≠ some name) indexAlias
  modify fun s => { s with tsIndex := s.tsIndex.set key name }

/-- The first half of `op_decode`: every check before the destination is queued.  It reads the
session only and returns the current era. -/
def checkDecode (s : Session) (args : DecodeArgs) : Except (Exc Raised) Era := do
  let w := args.width
  let h := args.height
  need (¬s.failed) (reject .partialFailureReuse "decode on a failed session" .failedSessionNoSubmit)
  need (s.outputStreaming ∧ s.probabilities)
    (reject .stateLoss "VP9 context is not alive (OUTPUT not streaming)" .stopOnOutputStreamoff)
  need (s.captureStreaming ∧ s.captureSlots ≠ 0)
    (reject .captureNotStreaming "decode completion requires both streaming queues"
      .bothQueuesStreaming)
  need (minDim ≤ w ∧ minDim ≤ h) (tooSmall w h)
  let era ← found s.currentEra decodeBeforeSFmt
  need (roundUp w alignW = era.alignedW ∧ roundUp h alignH = era.alignedH)
    (reject .unexpectedResolution "bitstream aligned size does not match CAPTURE format"
      .validateDecParamsAligned)
  let depth := args.bitDepth.getD s.bitDepth
  need (depth = s.bitDepth)
    (reject .mixedDepth "mixed NV12/P010 references or destinations are rejected" .imageFmtBusy)
  let keyFrame := args.key.getD false
  let refs := args.refs.getD []
  need (¬(keyFrame ∧ refs ≠ []))
    (fixtureError "key frames do not take inter references in this model")
  unlessOk keyFrame (s.resolveRefs args refs)
  let exceeded ← s.scratchExceeded w h depth
  need (¬exceeded)
    (reject .scratchBounds "frame exceeds the allocated scratch geometry" .scratchCapacityContract)
  return era

def opDecode (args : DecodeArgs) : SessionM Unit := do
  let s ← get
  let era ← lift (s.checkDecode args)
  -- Implicit queue as destination at current era size.
  onlyIf (¬s.isQueued args.dst) (opQueueDst args.dst args.backingBytes)
  let t ← get
  let buf ← orRaise (t.buffers.get? args.dst) (.builtin .keyError)
  let depth := args.bitDepth.getD s.bitDepth
  modify fun t => { t with
    buffers := t.buffers.set args.dst (buf.decodedIn era.id args.width args.height depth)
    lastPresent := true }

/-- `op_submit`, an alias of `op_decode`. -/
def opSubmit (args : DecodeArgs) : SessionM Unit := opDecode args

def opExport (name : String) (backingBytes : Option ℕ) : SessionM Unit := do
  let s ← get
  let undecoded := fixtureError "export of undecoded buffer" (some name)
  let buf ← orRaise (s.buffers.get? name) undecoded
  raiseIf (¬buf.decodedOk) undecoded
  -- Pixel backing survives wrapper destruction.
  modify fun s => { s with
    buffers := s.buffers.set name
      { buf with exported := true, backingBytes := backingBytes.getD buf.backingBytes } }

/-- The first half of `op_register`: the checks of the buffer itself, which read the session
only. -/
def checkRegister (s : Session) (name : String) : Except (Exc Raised) Buffer := do
  need (s.path = .proposed)
    (reject .stockHasNoRegistration "stock AVD has no imported-reference registration control"
      .explicitRefRegistration)
  let unexported := reject .orphanedRetainedBuffer "registration requires an exported backing"
    .explicitRefRegistration
  let buf ← found (s.buffers.get? name) unexported
  need buf.exported unexported
  need buf.decodedOk
    (reject .unavailableReference "registration requires a successful original decode"
      .explicitRefRegistration)
  need (¬buf.queuedAsDst)
    (reject .referenceQueuedAsDestination
      "registration cannot silently remove a live destination slot" .refNotQueuedAsDst)
  let era ← found (s.eras.get? buf.eraId) (.builtin .keyError)
  need (era.sizeimage ≤ buf.backingBytes)
    (reject .shortBacking "registered backing is shorter than its era sizeimage"
      .eraSizingDstVsRef)
  return buf

def opRegister (name : String) (timestamp index : Option ℕ) : SessionM Unit := do
  let s ← get
  let buf ← lift (s.checkRegister name)
  let ts := timestamp.getD s.nextRegTs
  modify fun s => { s with nextRegTs := max s.nextRegTs ts + 1 }
  let key := (s.captureGeneration, ts)
  raiseIf (s.tsIndex.contains key) duplicateTimestamp
  raiseIf (index.any s.slot.contains) indexTaken
  modify fun s => { s with
    tsIndex := s.tsIndex.set key name
    buffers := s.buffers.set name { buf with timestamp := some ts, queuedAsDst := false }
    registrations := s.registrations.set name
      { generation := s.captureGeneration, timestamp := ts, eraId := buf.eraId, index } }

def opProposedReconfigure (width height : ℕ) (bitDepth : Option ℕ) : SessionM Unit := do
  let s ← get
  raiseIf (s.path ≠ .proposed)
    (reject .stockHasNoReconfigure "stock S_FMT cannot reconfigure a live OUTPUT stream"
      .outputSFmtStreaming)
  raiseIf (¬s.outputStreaming)
    (reject .stateLoss "proposed reconfigure requires OUTPUT to stay streaming"
      .stopOnOutputStreamoff)
  raiseIf (s.captureStreaming ∨ s.captureBusy)
    (reject .busyCaptureSFmt "reconfigure requires CAPTURE STREAMOFF and REQBUFS(0)"
      .captureSFmtBusy)
  let depth := bitDepth.getD s.bitDepth
  raiseIf (depth ≠ s.bitDepth)
    (reject .mixedDepth "do not transfer state across a profile/depth change" .imageFmtBusy)
  -- Formats and scratch bounds update; durable entropy is kept.
  modify fun s => { s with codedW := some width, codedH := some height }
  let era ← needEra width height depth
  modify fun s => { s with
    currentEra := some era
    scratchW := some width
    scratchH := some height
    scratchDepth := some depth
    scratchPresent := true
    probabilities := true
    lastPresent := true
    segPolicy := .unknown }

def opInjectFailure (phase : Option String) : SessionM Unit := do
  let s ← get
  let phase := phase.getD "after_destructive"
  -- An error before destructive queue changes leaves the old session usable.
  onlyIf (phase ≠ "preflight") do
    raiseIf (phase ≠ "after_destructive")
      (fixtureError "unknown inject_failure phase" (some phase))
    raiseIf (¬s.destructiveDone) (fixtureError "after_destructive inject requires REQBUFS(0) first")
    modify fun s => { s with failed := true }

def opAskFirmware (question : Option String) : SessionM Unit := do
  let which := question.getD "firmware_live_resize"
  let q ← orRaise (FirmwareQuestion.ofName? which)
    (fixtureError s!"{which} is not a firmware_unknown invariant")
  throw (reject .firmwareUnknown q.text (.firmware q))

/-- `op_snapshot`, an observation. -/
def opSnapshot : SessionM Unit := return ()

/-! ### Dispatch -/

/-- The handler of an event. -/
def handler : Event → SessionM Unit
  | .open session => opOpen session
  | .outputSFmt w h => opOutputSFmt w h
  | .captureSFmt w h depth => opCaptureSFmt w h depth
  | .proposedReconfigure w h depth => opProposedReconfigure w h depth
  | .captureReqbufs count => opCaptureReqbufs count
  | .queueDst dst backing => opQueueDst dst backing
  | .decode args => opDecode args
  | .submit args => opSubmit args
  | .export name backing => opExport name backing
  | .register name timestamp index => opRegister name timestamp index
  | .injectFailure phase => opInjectFailure phase
  | .askFirmware question => opAskFirmware question
  | .outputStreamon => opOutputStreamon
  | .outputStreamoff => opOutputStreamoff
  | .captureStreamon => opCaptureStreamon
  | .captureStreamoff => opCaptureStreamoff
  | .snapshot => opSnapshot

/-- `Session.apply` on an event that `validate_event` admits. -/
def apply (e : Event) : SessionM Unit := do
  let s ← get
  raiseIf (s.failed ∧ e.needsLiveSession)
    (reject .partialFailureReuse "session is failed after an incomplete destructive phase"
      .failedSessionNoSubmit)
  handler e
  modify fun s => { s with eventsApplied := s.eventsApplied + 1 }

/-- `Session.apply` on a raw event. -/
def applyJson (v : Json) : SessionM Unit := do
  lift (validateEvent v)
  let e ← lift (readEvent v)
  apply e

/-- The session a list of events leaves, up to the first exception. -/
def endState (evs : List Event) (s₀ : Session) : Session :=
  match each apply evs s₀ with
  | .ok _ s => s
  | .error _ s => s

/-- Whether every event of a list is accepted. -/
def accepts (evs : List Event) (s₀ : Session) : Bool :=
  match each apply evs s₀ with
  | .ok _ _ => true
  | .error _ _ => false

end Session

end OmarchyM1Video.Vp9State
