import OmarchyM1Video.ReferenceContent.Pool

/-!
The call site of the observer in the HEVC decoder of FFmpeg:
`va-callsite/ffmpeg-n9.0.1-va-observer-callsite.patch`.

The driver does not call back, so a call is one step.  What the driver and the libraries return is
an argument of the call.  A frame is known by the number of the output it comes with.

* `vaapiObserverParseOutputs`: the selectors of the option `va_observer_outputs`;
* `Observer`, `Decoder`: the state, with the history that the statements are about;
* `output`, `finish`, `result`: the functions of the call site;
* `step`: a call, `flush` and `uninit` among them.
-/

namespace OmarchyM1Video.ReferenceContent.Va

/-! ### Selectors -/

/-- `isspace` in the C locale. -/
def isSpace (c : Char) : Bool := c = ' ' || (9 ≤ c.toNat && c.toNat ≤ 13)

/-- The digits at the start of a text: their value, how many they are, and the rest. -/
def digits : ℕ → ℕ → List Char → ℕ × ℕ × List Char
  | value, n, [] => (value, n, [])
  | value, n, c :: cs =>
      if c.isDigit then digits (10 * value + (c.toNat - 48)) (n + 1) cs else (value, n, c :: cs)

/-- `strtoull (p, &end, 10)`: the number and what `end` points to.  There is none where nothing was
converted, and where the digits are out of range (`errno`). -/
def strtoull (p : List Char) : Option (UInt64 × List Char) :=
  let body := p.dropWhile isSpace
  let negative := body.head? = some '-'
  let body := if negative ∨ body.head? = some '+' then body.tail else body
  let (value, n, rest) := digits 0 0 body
  if n = 0 ∨ UInt64.size ≤ value then none
  else some (if negative then 0 - UInt64.ofNat value else UInt64.ofNat value, rest)

/-- The loop of `vaapi_observer_parse_outputs`, with so many free places. -/
def parseOutputs : ℕ → List UInt64 → List Char → Option (List UInt64)
  | 0, _, _ => none
  | free + 1, outputs, p =>
      if p.head? = some '+' ∨ p.head? = some '-' then none
      else
        match strtoull p with
        | none => none
        | some (output, rest) =>
            if output ∈ outputs then none
            else
              match rest with
              | [] => some (outputs ++ [output])
              | c :: p => if c ≠ ',' ∨ p = [] then none else parseOutputs free (outputs ++ [output]) p

/-- `vaapi_observer_parse_outputs`. -/
def vaapiObserverParseOutputs (value : List Char) : Option (List UInt64) :=
  if value = [] then none else parseOutputs contentSlots [] value

/-! ### State -/

/-- What failed. -/
inductive Failure where
  /-- An output on another thread, after the end, after a failure, under a lease, or without a VA
  frame. -/
  | refused
  | duplicate
  /-- The frame has no surface, or could not be referenced. -/
  | reference
  | select
  | begin
  /-- The receipt is for another surface. -/
  | receipt
  | ending
  | snapshot
  | overflow
  /-- The identity in the pool is of another client or surface. -/
  | identity
  | digest
  | close
  /-- A finish found a failure, or an output that was not observed. -/
  | incomplete
  deriving DecidableEq

/-- The calls of the driver. -/
inductive Op where
  | select
  | begin
  | snapshot
  | ending
  | close
  deriving DecidableEq

/-- An observation: the ordinal and the surface of the output, and how far it came; the surfaces are
those that the driver returned. -/
structure Attempt where
  ordinal : UInt64
  surface : UInt32
  selected : Option UInt32
  begun : Option UInt32
  snapshot : Bool
  ended : Bool
  deriving DecidableEq

/-- The whole sequence succeeded, on the surface of the output. -/
def Attempt.Succeeded (a : Attempt) : Prop :=
  a.selected = some a.surface ∧ a.begun = some a.surface ∧ a.snapshot = true ∧ a.ended = true

/-- `VAAPIObserverResultSlot`. -/
structure ResultSlot where
  outputIndex : UInt64
  surface : UInt32
  run0 : UInt64
  run1 : UInt64
  contextGeneration : UInt64
  session : UInt64
  allocationGeneration : UInt64
  writer : UInt64
  submitted : UInt64
  completed : UInt64
  captureIndex : UInt32
  copied : Bool
  sha256 : Vector UInt8 32
  deriving DecidableEq

/-- `VAAPIObserverState`, with its history. -/
structure Observer where
  /-- `receipt.lease`. -/
  lease : ℕ
  pool : Pool
  /-- `result`; the count is the length. -/
  result : List ResultSlot
  /-- The output whose frame `held_frame` references. -/
  heldFrame : Option UInt64
  outputs : List UInt64
  seen : ℕ
  outputIndex : UInt64
  owner : ℕ
  copy : Bool
  active : Bool
  closed : Bool
  failed : Bool
  finished : Bool
  attempts : List Attempt
  failures : List Failure
  /-- The calls of the driver, with whether a frame was referenced then. -/
  calls : List (Op × Bool)

/-- The decoder: its observer, and what the driver keeps for it. -/
structure Decoder where
  observer : Option Observer
  content : Content
  /-- The lease that the driver holds. -/
  lease : Option ℕ

/-- The observer that `ff_vaapi_decode_observer_arm` leaves. -/
def Observer.armed (outputs : List UInt64) (copy : Bool) (thread : ℕ) : Observer where
  lease := 0
  pool := contentInit true thread
  result := []
  heldFrame := none
  outputs := outputs
  seen := 0
  outputIndex := 0
  owner := thread
  copy := copy
  active := false
  closed := false
  failed := false
  finished := false
  attempts := []
  failures := []
  calls := []

/-- `ff_vaapi_decode_observer_arm` on a decoder that has no observer; `binds` is that the decoder is
fresh and single-threaded, that there is memory, and that the driver binds and opens a session. -/
def arm (value : List Char) (copy : Bool) (thread : ℕ) (binds : Bool) (content : Content) :
    Option Decoder :=
  match vaapiObserverParseOutputs value with
  | none => none
  | some outputs =>
      if binds then some ⟨some (Observer.armed outputs copy thread), content, none⟩ else none

/-! ### Output -/

/-- `VA_INVALID_SURFACE`. -/
def invalidSurface : UInt32 := 0xffffffff

/-- A receipt that the driver has granted. -/
structure Receipt where
  lease : ℕ
  surface : UInt32

/-- What an output finds. -/
structure OutputEnv where
  thread : ℕ
  /-- There is a frame, and it is a VA one. -/
  framed : Bool
  surface : UInt32
  /-- `av_frame_ref`. -/
  references : Bool
  /-- The surface of the target that `select` returns. -/
  selects : Option UInt32
  begins : Option Receipt
  snapshot : Env
  ends : Bool
  /-- `av_sha_alloc`, `av_sha_init`. -/
  hashes : Bool

section Output

variable (sha256 : List UInt8 → Vector UInt8 32)

/-- The result slot of an output. -/
def ResultSlot.of (ordinal : UInt64) (surface : UInt32) (slot : Slot) : ResultSlot where
  outputIndex := ordinal
  surface := surface
  run0 := slot.identity.run0
  run1 := slot.identity.run1
  contextGeneration := slot.identity.contextGeneration
  session := slot.identity.session
  allocationGeneration := slot.identity.allocationGeneration
  writer := slot.identity.writer
  submitted := slot.identity.submitted
  completed := slot.identity.completed
  captureIndex := slot.identity.captureIndex
  copied := slot.copied
  sha256 := if slot.copied then sha256 (slotBytes slot) else Vector.replicate 32 0

/-- The observer has failed. -/
def Observer.fail (o : Observer) (f : Failure) : Observer :=
  { o with
    failed := true
    failures := o.failures ++ [f] }

/-- A call of the driver, and whether a frame is referenced. -/
def Observer.call (o : Observer) (op : Op) : Observer :=
  { o with calls := o.calls ++ [(op, o.heldFrame.isSome)] }

/-- The surface of an identity of this client. -/
def vaSurface (i : Identity) : Option UInt32 :=
  match i.detail with
  | .va _ surface _ _ => some surface
  | .gst _ _ => none

/-- From the end of the lease on: the result of the output. -/
def Observer.publish (o : Observer) (selected : ℕ) (ordinal : UInt64) (e : OutputEnv) (copied : Bool) :
    Observer :=
  if copied = false ∨ o.pool.used = 0 ∨ (o.pool.slot (o.pool.used - 1)).valid = false then
    o.fail .snapshot
  else if contentSlots ≤ o.result.length then o.fail .overflow
  else if vaSurface (o.pool.slot (o.pool.used - 1)).identity ≠ some e.surface then o.fail .identity
  else if (o.pool.slot (o.pool.used - 1)).copied = true ∧ e.hashes = false then o.fail .digest
  else
    { o with
      result := o.result ++ [ResultSlot.of sha256 ordinal e.surface (o.pool.slot (o.pool.used - 1))]
      seen := o.seen ||| 1 <<< selected }

/-- The history of an observation. -/
def Observer.attempt (o : Observer) (a : Attempt) : Observer :=
  { o with attempts := o.attempts ++ [a] }

/-- `av_frame_unref (held_frame)` after a lease: there is none any more. -/
def Observer.unref (o : Observer) : Observer :=
  { o with
    active := false
    heldFrame := none }

/-- From a granted lease on. -/
def Decoder.observe (d : Decoder) (o : Observer) (selected : ℕ) (ordinal : UInt64) (e : OutputEnv)
    (target : UInt32) (r : Receipt) : Decoder :=
  let o := { o with
    lease := r.lease
    active := true }
  if r.surface ≠ e.surface then
    let o := ((o.fail .receipt).call .ending).attempt
      ⟨ordinal, e.surface, some target, some r.surface, false, e.ends⟩
    if e.ends = false then ⟨some (o.fail .ending), d.content, some r.lease⟩
    else ⟨some o.unref, d.content.unmap true, none⟩
  else
    let taken := v4l2rContentSnapshot o.copy e.snapshot o.pool d.content
    let o := (((({ o with pool := taken.pool }).call .snapshot).call .ending)).attempt
      ⟨ordinal, e.surface, some target, some r.surface, taken.ok, e.ends⟩
    if e.ends = false then ⟨some (o.fail .ending), taken.content, some r.lease⟩
    else ⟨some (o.unref.publish sha256 selected ordinal e taken.ok), taken.content.unmap true, none⟩

/-- From a selected ordinal on. -/
def Decoder.select (d : Decoder) (o : Observer) (selected : ℕ) (ordinal : UInt64) (e : OutputEnv) :
    Decoder :=
  if e.surface = invalidSurface ∨ e.references = false then
    { d with observer := some (o.fail .reference) }
  else
    let o := Observer.call { o with heldFrame := some ordinal } .select
    if e.selects ≠ some e.surface then
      { d with
        observer := some ((o.unref.fail .select).attempt
          ⟨ordinal, e.surface, e.selects, none, false, false⟩) }
    else
      let o := o.call .begin
      match e.begins with
      | none =>
          { d with
            observer := some ((o.unref.fail .begin).attempt
              ⟨ordinal, e.surface, e.selects, none, false, false⟩) }
      | some r => d.observe sha256 o selected ordinal e e.surface r

/-- `ff_vaapi_decode_observer_output`. -/
def output (e : OutputEnv) (d : Decoder) : Decoder :=
  match d.observer with
  | none => d
  | some o =>
      if o.owner ≠ e.thread ∨ o.closed = true ∨ o.failed = true ∨ o.active = true ∨
          e.framed = false then
        { d with observer := some (o.fail .refused) }
      else
        let ordinal := o.outputIndex
        let o := { o with outputIndex := o.outputIndex + 1 }
        match o.outputs.findIdx? (· = ordinal) with
        | none => { d with observer := some o }
        | some selected =>
            if o.seen.testBit selected then { d with observer := some (o.fail .duplicate) }
            else d.select sha256 o selected ordinal e

end Output

/-! ### Finish and result -/

/-- What a finish returns. -/
inductive Code where
  | ok
  | eperm
  | eio
  | invalidData
  deriving DecidableEq

/-- The session is closed. -/
def Observer.close (o : Observer) : Observer :=
  { o with
    calls := if o.closed then o.calls else o.calls ++ [(.close, o.heldFrame.isSome)]
    closed := true }

/-- Every output was observed, as the masks and the counts say. -/
def Observer.Full (o : Observer) : Prop :=
  o.seen = (1 <<< o.outputs.length) - 1 ∧ o.pool.used = o.outputs.length

instance (o : Observer) : Decidable o.Full := inferInstanceAs (Decidable (_ ∧ _))

/-- From a session that has no lease on. -/
def Observer.conclude (o : Observer) (closes : Bool) : Code × Observer :=
  if o.closed = false ∧ closes = false then
    (.eio, { o.call .close with failures := o.failures ++ [.close] })
  else if o.failed = true ∨ ¬ o.Full then
    (.invalidData, { o.close with failures := o.failures ++ [.incomplete] })
  else (.ok, { o.close with finished := true })

/-- `ff_vaapi_decode_observer_finish`. -/
def finish (thread : ℕ) (ends closes : Bool) (d : Decoder) : Code × Decoder :=
  match d.observer with
  | none => (.ok, d)
  | some o =>
      if o.owner ≠ thread then (.eperm, d)
      else if o.finished then (if o.failed then .invalidData else .ok, d)
      else if o.active = true ∧ ends = false then
        (.eio, { d with observer := some { o.call .ending with failures := o.failures ++ [.ending] } })
      else if o.active then
        let (code, o) := (o.call .ending).unref.conclude closes
        (code, ⟨some o, d.content.unmap true, none⟩)
      else
        let (code, o) := o.conclude closes
        (code, { d with observer := some o })

/-- `ff_vaapi_decode_observer_result`. -/
def result (thread : ℕ) (d : Decoder) : Option (List ResultSlot) :=
  match d.observer with
  | none => none
  | some o =>
      if o.failed = true ∨ o.finished = false ∨ o.closed = false ∨ o.active = true ∨
          o.owner ≠ thread then
        none
      else some o.result

/-- `ff_vaapi_decode_uninit`: a finish, and the observer goes unless it holds a lease. -/
def uninit (thread : ℕ) (ends closes : Bool) (d : Decoder) : Decoder :=
  let d := (finish thread ends closes d).2
  match d.observer with
  | none => d
  | some o => if o.active then d else { d with observer := none }

/-! ### Runs -/

/-- A call; `ff_vaapi_decode_observer_flush` is a finish whose code is logged. -/
inductive Call where
  | output (e : OutputEnv)
  | finish (thread : ℕ) (ends closes : Bool)
  | flush (thread : ℕ) (ends closes : Bool)
  | uninit (thread : ℕ) (ends closes : Bool)

section Runs

variable (sha256 : List UInt8 → Vector UInt8 32)

/-- One call. -/
def step (d : Decoder) : Call → Decoder
  | .output e => output sha256 e d
  | .finish thread ends closes => (finish thread ends closes d).2
  | .flush thread ends closes => (finish thread ends closes d).2
  | .uninit thread ends closes => uninit thread ends closes d

/-- A run. -/
def run (d : Decoder) (calls : List Call) : Decoder := calls.foldl (step sha256) d

end Runs

end OmarchyM1Video.ReferenceContent.Va
