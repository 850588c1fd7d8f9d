import Mathlib.Data.Rat.Init
import Mathlib.Logic.Function.Basic
import OmarchyM1Video.ReferenceContent.FakeQueue

/-!
The observer of the synthetic queue: `Observer` of `adapter.py`, and a world of many calls of
`snapshot` on many observers of one queue.

Between two calls of locked methods a snapshot works by itself, on the slots and the list of its
observer, and each such part is a step too.  What the clocks say, and what they raise, comes with
the step.  A call marks the calls of its observer that are under way when it begins, and itself:
nothing of the source reads that.

* `admits`, `Observer`, `Call`: the checks of a layout, an observer, a call and where it is;
* `Call.step`: what a call does next;
* `World`, `step`, `run`: all interleavings;
* `Goes`, `goes_step`: what a step of a call can do.
-/

namespace OmarchyM1Video.ReferenceContent.Snapshot

open OmarchyM1Video.Py
open OmarchyM1Video.ReferenceContent.FakeQueue

/-! ### An observer -/

/-- `MAX_COPY`. -/
def maxCopy : ℕ := 184320

/-- `MAX_SNAPSHOTS`. -/
def maxSnapshots : ℕ := 8

/-- `COMP`. -/
def comp : ℕ × ℕ := (161280, 177152)

/-- `MV`. -/
def mv : ℕ := 7168

/-- A layout. -/
structure Layout where
  width : ℤ
  height : ℤ
  length : ℤ
  compStart : ℤ
  compSize : ℤ
  mvOffset : ℤ
  mvSize : ℤ

/-- `admit(layout)`; `none` is a dictionary with other keys, or with a value that is no integer. -/
def admits : Option Layout → Except String Unit
  | none => .error "malformed extent"
  | some layout => do
      need ((layout.width = 448 ∧ layout.height = 240) ∧
        (layout.length = 345600 ∨ layout.length = 368128)) "geometry/length"
      need (layout.compStart = comp.1 ∧ layout.compSize = comp.2) "compressed extent"
      need (layout.mvSize = mv ∧ layout.mvOffset = layout.length - mv) "mv extent"
      need (¬layout.mvOffset < comp.1 + comp.2) "overlap"

/-- What a snapshot returns, and the call that took it. -/
structure Taken where
  identity : FakeQueue.Identity
  copy : Bool
  bytes : ℕ
  elapsed : ℚ
  sha256 : Option String
  call : ℕ

/-- `Observer`, of one queue. -/
structure Observer where
  enabled : Bool
  stopped : Bool
  slots : List (List UInt8)
  snapshots : List Taken

/-- `Observer(queue, enabled)`. -/
def Observer.new (enabled : Bool) : Observer :=
  { enabled, stopped := false
    slots := List.replicate maxSnapshots (List.replicate maxCopy 0), snapshots := [] }

/-! ### A call -/

/-- How a call ends: with a result, refused by its checks, or failed later. -/
inductive Outcome where
  | returned (r : Taken)
  | refused (message : String)
  | failed (message : String)

/-- Where a call is: what it does next. -/
inductive Phase where
  | checks
  | pin
  | pause
  | drain
  | waiting
  | validate
  | copy
  | revalidate
  | resume
  | stop (message : String)
  | unpin (failure : Option String)
  | finish
  | done (outcome : Outcome)

/-- A call of `snapshot`. -/
structure Call where
  observer : ℕ
  layout : Option Layout
  identity : FakeQueue.Identity
  copy : Bool
  drainSeconds : ℚ
  phase : Phase := .checks
  slot : ℕ := 0
  token : Option ℕ := none
  plane : List UInt8 := []
  elapsed : ℚ := 0
  /-- Another call of the observer has been under way at the same time. -/
  overlapped : Bool

/-- What the environment does in a step: no time remains, and what the two clocks say. -/
structure Env where
  late : Bool
  started : Except String ℚ
  ended : Except String ℚ

/-- `layout['length']`. -/
def Call.length (c : Call) : ℤ := c.layout.elim 0 Layout.length

/-- `plane[COMP[0]:COMP[0] + COMP[1]]`. -/
def Call.compressed (c : Call) : List UInt8 := (c.plane.drop comp.1).take comp.2

/-- `plane[layout['mv_offset']:layout['length']]`. -/
def Call.motion (c : Call) : List UInt8 :=
  let offset := (c.layout.elim 0 Layout.mvOffset).toNat
  (c.plane.drop offset).take (c.length.toNat - offset)

/-- `str(exc)`; the methods that a snapshot calls raise no other exceptions. -/
def text : Exc String → String
  | .raise message => message
  | .builtin _ => ""

/-- A method, and what comes after it if it raises nothing. -/
def Call.attempt {α : Type} (q : Queue) (o : Observer) (c : Call) (x : Op α) (next : α → Call) :
    Queue × Observer × Call :=
  match x q with
  | .ok a q' => (q', o, next a)
  | .error e q' => (q', o, { c with phase := .stop (text e) })

/-- The checks before the pin. -/
def Call.checks (o : Observer) (c : Call) : Except (String × Bool) Unit := do
  need (o.enabled = true ∧ o.stopped = false) ("disabled/stopped", o.stopped)
  need (0 < c.drainSeconds ∧ c.drainSeconds ≤ 2) ("invalid deadline/mode", o.stopped)
  match admits c.layout with
  | .ok _ => need (o.snapshots.length < maxSnapshots) ("snapshot budget", true)
  | .error message => .error (message, o.stopped)

/-- `first[:] = compressed; second[:] = motion`: the slot, and whether both fit. -/
def Call.copied (c : Call) (slot : List UInt8) : List UInt8 × Bool :=
  if c.compressed.length ≠ (slot.take comp.2).length then (slot, false)
  else if c.motion.length ≠ (slot.drop comp.2).length then (c.compressed ++ slot.drop comp.2, false)
  else (c.compressed ++ c.motion, true)

/-- The copy between the two clocks. -/
def Call.copyStep (env : Env) (o : Observer) (c : Call) : Observer × Call :=
  match env.started with
  | .error message => (o, { c with phase := .stop message })
  | .ok started =>
      let (slot, fits) := if c.copy then c.copied (o.slots.getD c.slot [])
        else (o.slots.getD c.slot [], true)
      let o := { o with slots := o.slots.set c.slot slot }
      if fits = false then
        let message := "memoryview assignment: lvalue and rhs have different structures"
        (o, { c with phase := .stop message })
      else
        match env.ended with
        | .error message => (o, { c with phase := .stop message })
        | .ok ended =>
            if ended - started < 0 ∨ 1 / 50 < ended - started then
              (o, { c with phase := .stop "copy deadline" })
            else (o, { c with elapsed := ended - started, phase := .revalidate })

/-- The result of a call. -/
def Call.result (sha256 : List UInt8 → String) (i : ℕ) (o : Observer) (c : Call) : Taken :=
  { identity := c.identity, copy := c.copy, bytes := if c.copy then maxCopy else 0
    elapsed := c.elapsed
    sha256 := if c.copy then some (sha256 (o.slots.getD c.slot [])) else none, call := i }

/-- What a call does next. -/
def Call.step (sha256 : List UInt8 → String) (env : Env) (i : ℕ) (q : Queue) (o : Observer)
    (c : Call) : Queue × Observer × Call :=
  match c.phase with
  | .checks =>
      match c.checks o with
      | .ok _ => (q, o, { c with slot := o.snapshots.length, phase := .pin })
      | .error (message, stopped) =>
          (q, { o with stopped }, { c with phase := .done (.refused message) })
  | .pin => c.attempt q o (FakeQueue.pin c.identity c.length) fun p =>
      { c with token := some p.1, plane := p.2, phase := .pause }
  | .pause => c.attempt q o FakeQueue.pause fun _ => { c with phase := .drain }
  | .drain => c.attempt q o (FakeQueue.drain env.late) fun ends =>
      { c with phase := if ends then .validate else .waiting }
  | .waiting => c.attempt q o (FakeQueue.drainWoken env.late) fun ends =>
      { c with phase := if ends then .validate else .waiting }
  | .validate => c.attempt q o (FakeQueue.validate (c.token.getD 0) c.identity) fun _ =>
      { c with phase := .copy }
  | .copy => (q, c.copyStep env o)
  | .revalidate => c.attempt q o (FakeQueue.validate (c.token.getD 0) c.identity) fun _ =>
      { c with phase := .resume }
  | .resume => c.attempt q o FakeQueue.resume fun _ => { c with phase := .unpin none }
  | .stop message =>
      (after FakeQueue.stop q, { o with stopped := true },
        { c with phase := .unpin (some message) })
  | .unpin failure =>
      (c.token.elim q fun token => after (FakeQueue.unpin token) q, o,
        { c with phase := failure.elim .finish fun message => .done (.failed message) })
  | .finish =>
      let r := c.result sha256 i o
      (q, { o with snapshots := o.snapshots ++ [r] }, { c with phase := .done (.returned r) })
  | .done _ => (q, o, c)

/-! ### All calls -/

/-- The queue, its observers and the calls of `snapshot`. -/
structure World where
  queue : Queue
  observers : ℕ → Observer
  calls : List Call

/-- A step of some thread. -/
inductive Label where
  /-- It calls a method of the queue. -/
  | method (m : Method)
  /-- It begins to take a snapshot. -/
  | start (observer : ℕ) (layout : Option Layout) (identity : FakeQueue.Identity) (copy : Bool)
      (drainSeconds : ℚ)
  /-- It goes on with one. -/
  | advance (i : ℕ) (env : Env)

/-- The call is under way. -/
def Phase.active : Phase → Bool
  | .done _ => false
  | _ => true

/-- The call is under way on this observer. -/
def Call.uses (observer : ℕ) (c : Call) : Bool := decide (c.observer = observer) && c.phase.active

/-- A step. -/
def step (sha256 : List UInt8 → String) (w : World) : Label → World
  | .method m => { w with queue := m.after w.queue }
  | .start observer layout identity copy drainSeconds =>
      { w with calls :=
          w.calls.map (fun c => { c with overlapped := c.overlapped || c.uses observer }) ++
            [{ observer, layout, identity, copy, drainSeconds,
               overlapped := w.calls.any (Call.uses observer) }] }
  | .advance i env =>
      match w.calls[i]? with
      | none => w
      | some c =>
          let (q, o, c') := c.step sha256 env i w.queue (w.observers c.observer)
          { queue := q
            observers := Function.update w.observers c.observer o
            calls := w.calls.set i c' }

/-- A run. -/
def run (sha256 : List UInt8 → String) (w : World) (labels : List Label) : World :=
  labels.foldl (step sha256) w

/-- A new queue and new observers. -/
def World.new (context : String × String × String) (enabled : ℕ → Bool) : World :=
  { queue := Queue.new context.1 context.2.1 context.2.2
    observers := fun o => Observer.new (enabled o), calls := [] }

end OmarchyM1Video.ReferenceContent.Snapshot
