import OmarchyM1Video.ReferenceContent.Pool

/-!
The call site of the observer in the HEVC decoder of GStreamer: `gst-callsite/gst-callsite.inc` and
the hook in the output callback.

An output callback runs `content_before_output`, hands its frame on, and leaves.  While it hands the
frame on, and while `gst_hevc_callsite_finish` drops a held one, the framework may call back, so both
are two steps here with any calls between them.  Whatever a native operation returns is an argument
of the step.  A frame is known by the number of its callback.

* `Callsite`, `Element`: the state, with the history that the statements are about;
* `enter`, `leave`: the two parts of an output callback;
* `finish`, `finishRest`: the two parts of `gst_hevc_callsite_finish`;
* `result`: what `gst_hevc_callsite_result` returns.
-/

namespace OmarchyM1Video.ReferenceContent.Gst

/-! ### State -/

/-- A native operation that failed, or a frame that was refused. -/
inductive Failure where
  /-- The request, the picture and the buffer are not those of the frame. -/
  | matching
  /-- A selected frame number came twice. -/
  | duplicate
  | select
  | begin
  /-- The receipt is for another frame. -/
  | receipt
  | snapshot
  | ending
  | close
  deriving DecidableEq

/-- An observation: how far it came. -/
structure Attempt where
  callback : ℕ
  frame : UInt32
  selected : Bool
  begun : Bool
  snapshot : Bool
  ended : Bool
  deriving DecidableEq

/-- The whole sequence succeeded. -/
def Attempt.Succeeded (a : Attempt) : Prop :=
  a.selected = true ∧ a.begun = true ∧ a.snapshot = true ∧ a.ended = true

instance (a : Attempt) : Decidable a.Succeeded :=
  inferInstanceAs (Decidable (a.selected = true ∧ a.begun = true ∧ a.snapshot = true ∧ a.ended = true))

/-- `struct _GstHevcCallsite`, with its history since it was armed. -/
structure Callsite where
  pool : Pool
  /-- `receipt.lease`. -/
  lease : ℕ
  owner : ℕ
  heldFrame : Option ℕ
  heldPicture : Option ℕ
  copy : Bool
  attempted : Bool
  success : Bool
  inCallback : Bool
  cancelHeld : Bool
  scheduled : Bool
  failed : Bool
  observed : ℕ → Bool
  count : ℕ
  collected : ℕ
  frames : List UInt32
  /-- The state of cancellation that was saved: whether it was enabled. -/
  cancelState : Bool
  /-- Which call armed it. -/
  serial : ℕ
  attempts : List Attempt
  failures : List Failure

/-- The decoder, as far as the call site goes. -/
structure Element where
  callsite : Option Callsite
  /-- The output callback that has set `content_active`, and what `content_before_output` returned
  to it. -/
  active : Option (ℕ × Bool)
  /-- A finish is about to close the session. -/
  finishing : Bool
  content : Content
  /-- The lease that the native observer holds. -/
  lease : Option ℕ
  /-- Whether each thread can be cancelled. -/
  cancellable : ℕ → Bool
  callbacks : ℕ
  arms : ℕ
  disabled : ℕ
  restored : ℕ
  /-- The callbacks whose frame was held, with the lease that could not be ended. -/
  helds : List (ℕ × ℕ)
  /-- The frames that were dropped, by their callback, or by a finish with the lease it ended. -/
  drops : List (ℕ × Option ℕ)

/-! ### Arming -/

/-- The call site that is armed. -/
def Callsite.armed (copy : Bool) (frames : Option (List UInt32)) (thread serial : ℕ) : Callsite where
  pool := contentInit true thread
  lease := 0
  owner := thread
  heldFrame := none
  heldPicture := none
  copy := copy
  attempted := false
  success := false
  inCallback := false
  cancelHeld := false
  scheduled := frames.isSome
  failed := false
  observed := fun _ => false
  count := (frames.map List.length).getD 1
  collected := 0
  frames := frames.getD []
  cancelState := false
  serial := serial
  attempts := []
  failures := []

/-- `content_arm`; `opens` is that the client is this decoder, it streams with its allocators, there
is memory, and the native observer opens a session before the first request. -/
def contentArm (copy : Bool) (frames : Option (List UInt32)) (thread : ℕ) (opens : Bool)
    (s : Element) : Element :=
  if s.callsite.isSome ∨ opens = false then s
  else
    { s with
      callsite := some (Callsite.armed copy frames thread s.arms)
      arms := s.arms + 1 }

/-- `gst_hevc_callsite_arm`. -/
def arm (copy : Bool) (thread : ℕ) (opens : Bool) (s : Element) : Element :=
  contentArm copy none thread opens s

/-- `gst_hevc_callsite_arm_frames`. -/
def armFrames (copy : Bool) (frames : List UInt32) (thread : ℕ) (opens : Bool) (s : Element) :
    Element :=
  if frames = [] ∨ contentSlots < frames.length ∨ ¬ frames.Nodup then s
  else contentArm copy (some frames) thread opens s

/-! ### The output callback -/

/-- A receipt that `gst_hevc_observer_begin` has granted: it has a lease. -/
structure Receipt where
  lease : ℕ
  lease_ne : lease ≠ 0
  frame : UInt32

/-- What an output callback finds. -/
structure OutputEnv where
  thread : ℕ
  /-- `frame->system_frame_number`. -/
  frame : UInt32
  /-- `GST_CODEC_PICTURE (picture)->system_frame_number`. -/
  picture : UInt32
  frameMatches : Bool
  outputMatches : Bool
  /-- The second check, in the observation. -/
  outputMatchesAgain : Bool
  selects : Bool
  begins : Option Receipt
  snapshot : Env
  ends : Bool

/-- What is done about a frame. -/
inductive Plan where
  | pass
  | reject (f : Failure)
  | observe (selected : ℕ)

/-- The checks of the schedule. -/
def Callsite.plan (c : Callsite) (e : OutputEnv) : Plan :=
  if c.scheduled = false then .observe 0
  else if e.frameMatches = false ∨ e.frame ≠ e.picture ∨ e.outputMatches = false then
    .reject .matching
  else
    match c.frames.findIdx? (· = e.frame) with
    | none => .pass
    | some selected => if c.observed selected then .reject .duplicate else .observe selected

/-- An observation: the call site, what the decoder keeps for snapshots, the native lease, and what
`content_before_output` returns. -/
structure Observation where
  callsite : Callsite
  content : Content
  lease : Option ℕ
  ok : Bool

/-- `attempted = failed = cancel_held = TRUE`, with the state of cancellation saved. -/
def Callsite.begin (c : Callsite) (cancellable : Bool) : Callsite :=
  { c with
    attempted := true
    failed := true
    cancelState := cancellable
    cancelHeld := true }

/-- An observation that was not begun. -/
def Callsite.notBegun (c : Callsite) (f : Failure) (a : Attempt) : Callsite :=
  { c with
    attempts := c.attempts ++ [a]
    failures := c.failures ++ [f] }

/-- The failures of a snapshot and of the end of its lease. -/
def lapses (identified snapshot ended : Bool) : List Failure :=
  (if identified = false then [.receipt] else if snapshot = false then [.snapshot] else []) ++
    if ended = false then [.ending] else []

/-- The lease could not be ended: the frame and the picture are held. -/
def Callsite.hold (c : Callsite) (k : ℕ) (lease : ℕ) : Callsite :=
  { c with
    lease := lease
    heldFrame := some k
    heldPicture := some k }

/-- The observation is complete. -/
def Callsite.collect (c : Callsite) (selected : ℕ) : Callsite :=
  { c with
    observed := Function.update c.observed selected true
    collected := c.collected + 1
    failed := false
    success := c.collected + 1 = c.count }

/-- From a granted lease on. -/
def Callsite.snapshot (c : Callsite) (k selected : ℕ) (e : OutputEnv) (r : Receipt)
    (content : Content) : Observation :=
  let identified := decide (r.frame = e.frame ∧ r.frame = e.picture)
  let taken := if identified then gstHevcContentSnapshot c.copy e.snapshot c.pool content
    else refuse c.pool content
  let done : Callsite :=
    { c with
      pool := taken.pool
      attempts := c.attempts ++ [⟨k, e.frame, true, true, taken.ok, e.ends⟩]
      failures := c.failures ++ lapses identified taken.ok e.ends }
  if e.ends = false then ⟨done.hold k r.lease, taken.content, some r.lease, false⟩
  else if taken.ok then ⟨done.collect selected, taken.content.unmap true, none, true⟩
  else ⟨done, taken.content.unmap true, none, false⟩

/-- The observation of one output. -/
def Callsite.observe (c : Callsite) (k selected : ℕ) (e : OutputEnv) (cancellable : Bool)
    (content : Content) : Observation :=
  let c := c.begin cancellable
  if e.outputMatchesAgain = false then
    ⟨c.notBegun .matching ⟨k, e.frame, false, false, false, false⟩, content, none, false⟩
  else if e.selects = false then
    ⟨c.notBegun .select ⟨k, e.frame, false, false, false, false⟩, content, none, false⟩
  else
    match e.begins with
    | none => ⟨c.notBegun .begin ⟨k, e.frame, true, false, false, false⟩, content, none, false⟩
    | some r => c.snapshot k selected e r content

/-- The callback is inside `content_before_output` no more and has this value from it. -/
@[simps] def Element.entered (s : Element) (c : Callsite) (ok : Bool) : Element :=
  { s with
    callsite := some c
    active := some (s.callbacks, ok)
    callbacks := s.callbacks + 1 }

/-- The decoder after an observation. -/
@[simps] def Element.record (s : Element) (e : OutputEnv) (o : Observation) : Element :=
  { s.entered o.callsite o.ok with
    content := o.content
    lease := o.lease
    cancellable := Function.update s.cancellable e.thread false
    disabled := s.disabled + 1
    helds := s.helds ++ if o.callsite.lease = 0 then [] else [(s.callbacks, o.callsite.lease)] }

/-- One more callback. -/
@[simps] def Element.called (s : Element) : Element := { s with callbacks := s.callbacks + 1 }

/-- A callback drops its frame. -/
@[simps] def Element.drop (s : Element) (k : ℕ) : Element :=
  { s with drops := s.drops ++ [(k, none)] }

/-- `content_before_output`.  A callback that is refused at once drops its frame. -/
def enter (e : OutputEnv) (s : Element) : Element :=
  match s.callsite with
  | none => s.called
  | some c =>
      if c.owner ≠ e.thread ∨ c.inCallback = true ∨ c.lease ≠ 0 then (s.drop s.callbacks).called
      else
        let c := { c with inCallback := true }
        if c.failed then s.entered c false
        else if c.scheduled = false ∧ c.attempted = true then s.entered c c.success
        else
          match c.plan e with
          | .pass => s.entered c true
          | .reject f =>
              s.entered { c with failed := true, failures := c.failures ++ [f] } false
          | .observe selected =>
              s.record e (c.observe s.callbacks selected e (s.cancellable e.thread) s.content)

/-- `pthread_setcancelstate (cancel_state, NULL)` by the owner, if it is due. -/
@[simps] def Element.restore (s : Element) (c : Callsite) (due : Bool) : Element :=
  { s with
    cancellable := if due then Function.update s.cancellable c.owner c.cancelState
      else s.cancellable
    restored := s.restored + due.toNat }

/-- The call site after its callback: cancellation stays disabled while a lease is held. -/
def Callsite.left (c : Callsite) : Callsite :=
  { c with
    inCallback := false
    cancelHeld := c.cancelHeld && c.lease ≠ 0 }

/-- `content_callback_leave`. -/
@[simps] def contentCallbackLeave (c : Callsite) (s : Element) : Element :=
  { s.restore c (c.lease = 0 && c.cancelHeld) with
    active := none
    callsite := some c.left }

/-- The rest of an output callback: the frame is delivered or dropped, or is held. -/
def leave (delivered : Bool) (s : Element) : Element :=
  match s.active, s.callsite with
  | some (k, passed), some c =>
      if (passed = true ∧ delivered = true) ∨ (passed = false ∧ c.heldFrame = some k) then
        contentCallbackLeave c s
      else contentCallbackLeave c (s.drop k)
  | _, _ => s

/-! ### Results -/

/-- `gst_hevc_callsite_result`. -/
def result (thread : ℕ) (s : Element) : Option Pool :=
  match s.callsite with
  | none => none
  | some c =>
      if c.owner = thread ∧ c.inCallback = false ∧ c.success = true ∧ c.failed = false ∧
          c.lease = 0 ∧ c.pool.used = c.count ∧
          (List.range c.pool.used).all (fun i => (c.pool.slot i).valid) = true then
        some c.pool
      else none

/-- The held frame is dropped by a finish that has ended this lease. -/
@[simps] def Element.dropHeld (s : Element) (c : Callsite) : Element :=
  { s with
    drops := s.drops ++ c.heldFrame.toList.map fun k => (k, some c.lease) }

/-- `gst_hevc_callsite_finish` up to the dropping of a held frame. -/
def finish (thread : ℕ) (ends : Bool) (s : Element) : Element :=
  match s.callsite with
  | none => s
  | some c =>
      if c.owner ≠ thread ∨ c.inCallback = true then s
      else if c.lease ≠ 0 ∧ ends = false then
        { s with callsite := some { c with failures := c.failures ++ [.ending] } }
      else
        { s.dropHeld c with
          callsite := some { c with
            lease := 0, heldFrame := none, heldPicture := none, inCallback := true }
          content := if c.lease = 0 then s.content else s.content.unmap true
          lease := none
          finishing := true }

/-- The rest of `gst_hevc_callsite_finish`: the session is closed and the call site released, or both
are left for a retry. -/
def finishRest (closes : Bool) (s : Element) : Element :=
  match s.finishing, s.callsite with
  | true, some c =>
      let s := { s.restore c c.cancelHeld with finishing := false }
      if closes then { s with callsite := none }
      else
        { s with
          callsite := some { c with
            inCallback := false, cancelHeld := false, failures := c.failures ++ [.close] } }
  | _, _ => s

/-! ### Runs -/

/-- A step of the element. -/
inductive Call where
  | arm (copy : Bool) (thread : ℕ) (opens : Bool)
  | armFrames (copy : Bool) (frames : List UInt32) (thread : ℕ) (opens : Bool)
  | enter (e : OutputEnv)
  | leave (delivered : Bool)
  | finish (thread : ℕ) (ends : Bool)
  | finishRest (closes : Bool)

/-- One step. -/
def step (s : Element) : Call → Element
  | .arm copy thread opens => arm copy thread opens s
  | .armFrames copy frames thread opens => armFrames copy frames thread opens s
  | .enter e => enter e s
  | .leave delivered => leave delivered s
  | .finish thread ends => finish thread ends s
  | .finishRest closes => finishRest closes s

/-- A run. -/
def run (s : Element) (calls : List Call) : Element := calls.foldl step s

/-- A decoder that is not armed. -/
def start (cancellable : ℕ → Bool) : Element where
  callsite := none
  active := none
  finishing := false
  content := ⟨0, none⟩
  lease := none
  cancellable := cancellable
  callbacks := 0
  arms := 0
  disabled := 0
  restored := 0
  helds := []
  drops := []

end OmarchyM1Video.ReferenceContent.Gst
