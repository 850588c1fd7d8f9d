import Mathlib.Data.Int.Notation
import OmarchyM1Video.Py.History
import OmarchyM1Video.Py.Triple

/-!
What the two hardware campaigns share (`avd-allocation-qualification/qualify.py` and
`hevc-reference-content/live-campaign/run.py`): a run with privileged commands, and the record of
every call it makes.

* `Host`, `Command`, `Outcome`: what a privileged command changes, and how it ends, which may be in
  failure before or after it has taken effect;
* `Machine`: what the guard, the files and the commands answer, each in view of what came before;
* `Run`: the variables of a run, the host, and what was done so far, the oldest step first;
* `healthyWith`, `identityWith`, `transitionWith`, `restoreWith`: the methods that both classes have,
  with the error texts of the one that is meant; `mark`: the single-use marker.
-/

namespace OmarchyM1Video.Campaigns

open OmarchyM1Video.Py

/-- The builds of the module `apple_avd`: the installed one, and the one under test. -/
inductive Module where
  | original | candidate
  deriving DecidableEq, Repr

/-- What the privileged commands of a campaign change. -/
structure Host where
  /-- The loaded build. -/
  loaded : Option Module
  /-- The directory of the native approval. -/
  directory : Bool
  /-- The native approval. -/
  approval : Bool
  deriving DecidableEq, Repr

/-- The commands behind `sudo -n`. -/
inductive Command where
  | rmmod | insmod | modprobe
  | manifestLive
  | installDirectory | installApproval | removeApproval | removeDirectory
  deriving DecidableEq, Repr

/-- The commands that load or unload the module. -/
def Command.moves : Command → Bool
  | .rmmod | .insmod | .modprobe => true
  | _ => false

/-- The host after the command has taken effect. -/
def Command.effect : Command → Host → Host
  | .rmmod, h => { h with loaded := none }
  | .insmod, h => { h with loaded := h.loaded.or (some .candidate) }
  | .modprobe, h => { h with loaded := h.loaded.or (some .original) }
  | .manifestLive, h => h
  | .installDirectory, h => { h with directory := true }
  | .installApproval, h => { h with approval := true }
  | .removeApproval, h => { h with approval := false }
  | .removeDirectory, h => { h with directory := false }

/-- How a command ends: with its exit status, or with an exception of `subprocess.run` such as the
timeout.  A command that fails may have taken effect all the same. -/
inductive Outcome where
  | exit (returncode : ℤ) (took : Bool)
  | raised (error : String) (took : Bool)
  deriving DecidableEq, Repr

/-- The command returned 0. -/
def Outcome.ok : Outcome → Bool
  | .exit code _ => code == 0
  | .raised _ _ => false

/-- The command has taken effect. -/
def Outcome.took : Outcome → Bool
  | .exit code took => code == 0 || took
  | .raised _ took => took

lemma Outcome.took_of_ok {o : Outcome} (h : o.ok) : o.took := by
  cases o with
  | exit code took => exact Bool.or_eq_true_iff.mpr (Or.inl h)
  | raised _ _ => exact absurd h (by simp [Outcome.ok])

/-- What `state()` of the guard's backend returns, as far as it is tested. -/
structure GuardState where
  busy : Bool
  wedged : Bool
  faults : List String
  moduleLoaded : Bool
  videoNode : Bool
  deriving DecidableEq, Repr

/-- The lines of `events.jsonl`.  A workload goes by a label. -/
inductive Event (ℓ : Type) where
  | health (state : GuardState)
  | attempt (c : Command)
  | result (c : Command) (returncode : ℤ)
  | workloadStart (w : ℓ)
  | workloadExit (w : ℓ) (returncode : ℤ)
  | workloadAccepted (w : ℓ)
  | failed (error : String)
  | originalRestored
  | restoreIncomplete (error : String)
  | cleanupFailed (error : String)
  | terminal (restored : Bool) (runs : ℕ)
  | restoredStageFailed (error : String)
  | complete
  deriving DecidableEq, Repr

/-- What a run does: lines of the event log, and the calls that a line alone does not show. -/
inductive Step (ℓ : Type) where
  | event (e : Event ℓ)
  /-- An exception is raised, by the campaign or by what it calls. -/
  | raised (error : String)
  /-- A health check passed. -/
  | healthy
  /-- The loaded build was checked to be this one. -/
  | identity (which : Module)
  /-- A command was run, on a host in this state. -/
  | command (c : Command) (o : Outcome) (before : Host)
  /-- The marker of the root was created. -/
  | marked
  /-- `restore` is called. -/
  | restoring
  /-- The removal of the native approval begins. -/
  | removing
  /-- The completion record was written. -/
  | completed
  deriving DecidableEq, Repr

/-- What the system answers to a run that has come so far. -/
structure Machine (ℓ : Type) where
  state : List (Step ℓ) → Except String GuardState
  /-- The text of `initstate`, stripped. -/
  initstate : List (Step ℓ) → Except String String
  /-- Whether the file of the installed module has the pinned digest. -/
  installedSame : List (Step ℓ) → Except String Bool
  /-- The error of reading the note of a loaded module. -/
  noteFault : List (Step ℓ) → Option String
  outcome : List (Step ℓ) → Command → Outcome
  /-- Whether the marker can be created where there is none. -/
  markerOpen : List (Step ℓ) → Except String Unit
  markerWrite : List (Step ℓ) → Except String Unit
  /-- Whether the completion record can be written. -/
  completion : List (Step ℓ) → Except String Unit

/-- The variables of a run, the host, and what was done. -/
structure Run (ℓ : Type) where
  steps : List (Step ℓ)
  host : Host
  changed : Bool
  restored : Bool
  approvalInstalled : Bool
  /-- The keys of `runs`. -/
  runs : List ℓ
  /-- `attempted` exists in the root. -/
  attempted : Bool

/-- The run before its first step. -/
def Run.start {ℓ : Type} (host : Host) (attempted : Bool) : Run ℓ :=
  ⟨[], host, false, false, false, [], attempted⟩

/-- A method of a campaign. -/
abbrev M (ℓ : Type) := EStateM String (Run ℓ)

variable {ℓ α : Type}

/-- The run with one more step. -/
def Run.add (r : Run ℓ) (s : Step ℓ) : Run ℓ := { r with steps := r.steps ++ [s] }

def push (s : Step ℓ) : M ℓ Unit := modify fun r => r.add s

/-- `self.record(event)`. -/
def record (e : Event ℓ) : M ℓ Unit := push (.event e)

/-- `raise`. -/
def fail (e : String) : M ℓ α := do
  push (.raised e)
  throw e

/-- The value, or its exception. -/
def settle : Except String α → M ℓ α
  | .ok a => pure a
  | .error e => fail e

/-- A call of the system. -/
def ask (answer : List (Step ℓ) → Except String α) : M ℓ α := do
  let r ← get
  settle (answer r.steps)

def askSome (answer : List (Step ℓ) → Except String α) : M ℓ (Option α) := do
  let a ← ask answer
  return some a

/-- `need(value, message)`. -/
def require (c : Prop) [Decidable c] (e : String) : M ℓ Unit :=
  if c then pure () else fail e

/-- The error texts of a campaign. -/
structure Texts where
  unhealthy : String
  notLive : String
  absent : String
  installed : String
  loaded : Module → String
  transition : String

section Methods

variable (m : Machine ℓ) (t : Texts)

/-- `healthy(present)`. -/
def healthyWith (present : Bool) : M ℓ GuardState := do
  let state ← ask m.state
  record (.health state)
  require (¬(state.busy ∨ state.wedged ∨ state.faults ≠ [])) t.unhealthy
  onlyIf state.moduleLoaded do
    let text ← ask m.initstate
    require (text = "live") t.notLive
  require (present → state.moduleLoaded ∧ state.videoNode) t.absent
  push .healthy
  return state

/-- The build whose note `/sys/module/apple_avd` shows. -/
def loadedNote : M ℓ Module := do
  let r ← get
  match r.host.loaded, m.noteFault r.steps with
  | some which, none => pure which
  | _, some e => fail e
  | none, none => fail "No such file or directory: '/sys/module/apple_avd/notes/.note.gnu.build-id'"

/-- `identity(which)`. -/
def identityWith (which : Module) : M ℓ Unit := do
  let same ← ask m.installedSame
  require same t.installed
  let note ← loadedNote m
  require (note = which) (t.loaded which)
  push (.identity which)

/-- `subprocess.run(['sudo', '-n', …])`. -/
def issue (c : Command) : M ℓ Outcome := do
  let r ← get
  let o := m.outcome r.steps c
  set { r.add (.command c o r.host) with
    host := if o.took then c.effect r.host else r.host }
  return o

/-- `transition(*argv)`, `privileged(*argv)`. -/
def transitionWith (c : Command) : M ℓ Unit := do
  record (.attempt c)
  let o ← issue m c
  match o with
  | .raised e _ => fail e
  | .exit code _ =>
      record (.result c code)
      require (code = 0) t.transition

/-- The single-use marker: `(root / 'attempted').open('x')`. -/
def mark : M ℓ Unit := do
  let r ← get
  require (r.attempted = false) "File exists: 'attempted'"
  ask m.markerOpen
  modify fun r => { r with attempted := true }
  push .marked
  ask m.markerWrite

/-- `restore()`. -/
def restoreWith : M ℓ Unit := do
  push .restoring
  let state ← healthyWith m t false
  onlyIf state.moduleLoaded do
    identityWith m t .candidate
    transitionWith m t .rmmod
  let _ ← healthyWith m t false
  transitionWith m t .modprobe
  identityWith m t .original
  let _ ← healthyWith m t true
  modify fun r => { r with restored := true }
  record .originalRestored

end Methods

/-- `try: x` with `except Exception as error`: the event of the error is recorded, and the error is
the failure of the run, unless it has one. -/
def caught (x : M ℓ Unit) (event : String → Event ℓ) (failure : Option String) :
    M ℓ (Option String) :=
  tryExcept (do x; return failure) (fun _ => true) fun e => do
    record (event e)
    return failure.or (some e)

/-- `if c:` such a statement. -/
def caughtIf (c : Bool) (x : M ℓ Unit) (event : String → Event ℓ) (failure : Option String) :
    M ℓ (Option String) :=
  if c then caught x event failure else pure failure

/-- `if failure: raise failure`. -/
def reraise : Option String → M ℓ Unit
  | none => pure ()
  | some e => throw e

end OmarchyM1Video.Campaigns
