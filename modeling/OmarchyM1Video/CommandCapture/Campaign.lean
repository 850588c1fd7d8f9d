import Mathlib.Data.Int.Notation
import Mathlib.Data.Nat.Notation
import OmarchyM1Video.Py.Triple

/-!
The campaign of paired command captures: `experiments/hevc-avd-command-capture/campaign.py`.

A campaign replaces the module by the candidate, runs the workloads, and puts the original back.
What it sees of the machine is the environment, which is asked at the places of the program that ask
(`Site`); every answer may be an exception.

* `checkState`: the check of a recorder in `capture.py`;
* `Event`, `World`: what the campaign records, and what it remembers;
* `Env`: the environment of a run;
* `healthy`, `identity`, `command`, `restore`, `recordFinalState`, `recorderPreflight`: the methods;
* `body`, `recorded`, `run`: the campaign.
-/

namespace OmarchyM1Video.CommandCapture

open OmarchyM1Video.Py

/-! ### Recorders -/

/-- `KernelTrace.status()`, by its fields; `counts` are `count` and `attempted`, which only the
reference recorder has. -/
structure Status where
  run : ℕ
  context : ℕ
  phase : ℕ
  errors : ℕ
  counts : List ℕ
  pictures : ℕ
  completions : ℕ
  opens : ℕ
  deriving DecidableEq

/-- `status.values()`. -/
def Status.values (st : Status) : List ℕ :=
  [st.run, st.context, st.phase, st.errors] ++ st.counts ++ [st.pictures, st.completions, st.opens]

/-- `PATHS`, by their names. -/
def paths : List String := ["reference", "command"]

/-- `check_state(st, run, enabled, sealed)`. -/
def checkState (st : Status) (run : ℕ) (enabled : Bool) (sealed_ : Bool) : Except String Unit := do
  need (st.errors = 0) "sticky recorder error"
  need (st.pictures ≤ 300 ∧ st.completions ≤ st.pictures) "recorder count extent"
  if enabled then
    need (st.run = run ∧ (if sealed_ then st.phase = 4 else st.phase = 1 ∨ st.phase = 2 ∨ st.phase = 3))
      "recorder run/phase mismatch"
    need (sealed_ = true → st.context ≠ 0 ∧ st.pictures = 300 ∧ st.completions = 300 ∧ st.opens = 0)
      "incomplete sealed capture"
  else
    need (∀ n ∈ [st.run, st.context, st.phase, st.errors, st.pictures, st.completions], n = 0)
      "recorder is not off"

/-! ### Events -/

/-- The state of the guard. -/
structure GuardState where
  holders : List String
  stuckTasks : List String
  faults : List String
  busy : Bool
  wedged : Bool
  moduleLoaded : Bool
  videoNode : Bool

/-- The result of a command. -/
structure Completed where
  returncode : ℤ
  stdout : String
  stderr : String

/-- What `record` writes, but for the lease. -/
inductive Event where
  | state (s : GuardState)
  | transitionAttempt (argv : List String)
  | transitionResult (argv : List String) (r : Completed)
  | recorderPreflight (recorder : String) (status : Status)
  | runStart (name : String) (runId : ℕ)
  | runResult (name : String) (runId : ℕ) (returncode : ℤ)
  | campaignFailed (error : String)
  | restorationNotCompleted (error : String)
  | originalRestored (installedSha : String)
  | terminalState (s : GuardState) (moduleInitstate : Option String) (originalRestored : Bool)
  | complete (runs : ℕ) (restored smokeOnly : Bool)

/-- A line of `campaign-events.jsonl`. -/
structure Entry where
  lease : Option String
  event : Event

/-- What a campaign leaves behind, and what it remembers. -/
structure World where
  events : List Entry := []
  changed : Bool := false
  restored : Bool := false
  number : ℕ := 0
  /-- `campaign-complete` is written. -/
  complete : Bool := false

/-! ### The environment -/

/-- The places of the program that ask for the state of the machine. -/
inductive Site where
  /-- Before anything is changed. -/
  | start
  /-- After the original is gone. -/
  | removed
  /-- After the candidate is there. -/
  | inserted
  /-- Before the workload of this number, and after it. -/
  | before (number : ℕ)
  | after (number : ℕ)
  /-- The first sample of the restoration. -/
  | restore
  /-- After the candidate is gone. -/
  | cleared
  /-- After the original is back. -/
  | restored
  /-- When the restoration is recorded. -/
  | recorded
  /-- At the end. -/
  | terminal
  deriving DecidableEq

/-- The module that is meant. -/
inductive Which where
  | original | candidate
  deriving DecidableEq

def Which.name : Which → String
  | original => "original"
  | candidate => "candidate"

/-- The configuration of a campaign. -/
structure Config where
  originalSha : String
  candidate : String
  candidateSha : String
  toolSha : List (String × String)

/-- The environment of a run; an error is the text of an exception.  The lines of the event log are
taken to be written. -/
structure Env where
  config : Config
  euid : ℕ
  lease : Option String
  /-- `campaign-attempted` is there already. -/
  attempted : Bool
  machine : Except String String
  apple : Except String Bool
  packages : Except String Unit
  tool : String → Except String String
  candidate : Except String String
  state : Site → Except String GuardState
  /-- `initstate`, as it is read while the module is loaded. -/
  initstate : Site → Except String String
  /-- `initstate` at the end, if it is there. -/
  finalInitstate : Except String (Option String)
  /-- The digest of the installed original. -/
  digest : Site → Except String String
  /-- The build id of the loaded module. -/
  note : Site → Except String (List UInt8)
  /-- The build id that was saved for a module. -/
  saved : Which → Except String (List UInt8)
  command : Site → Except String Completed
  status : String → Except String Status
  workload : ℕ → Except String ℤ
  /-- The write of `campaign-complete`. -/
  completion : Except String Unit

/-- A campaign that runs. -/
abbrev Run (α : Type) := EStateM String World α

variable (env : Env)

/-! ### The methods -/

/-- `record(event, …)`. -/
def record (event : Event) : Run Unit :=
  modify fun w => { w with events := w.events ++ [⟨env.lease, event⟩] }

/-- `healthy(require_present)`. -/
def healthy (site : Site) (requirePresent : Bool) : Run GuardState := do
  let state ← lift (env.state site)
  record env (.state state)
  raiseIf (state.busy = true ∨ state.wedged = true ∨ state.faults ≠ [])
    "STOP: not healthy/idle; no module recovery"
  onlyIf (state.moduleLoaded = true) do
    let initstate ← lift (env.initstate site)
    raiseIf (initstate ≠ "live") "STOP: module is not live; no recovery"
  raiseIf (requirePresent = true ∧ ¬(state.moduleLoaded = true ∧ state.videoNode = true))
    "decoder missing"
  return state

/-- `identity(which)`. -/
def identity (site : Site) (which : Which) : Run Unit := do
  let sha ← lift (env.digest site)
  raiseIf (sha ≠ env.config.originalSha) "installed original changed"
  let note ← lift (env.note site)
  let saved ← lift (env.saved which)
  raiseIf (note ≠ saved) ("loaded module identity: " ++ which.name)

/-- `command(tool, *args)`. -/
def command (site : Site) (tool : String) (args : List String) : Run Unit := do
  record env (.transitionAttempt (tool :: args))
  let r ← lift (env.command site)
  record env (.transitionResult (tool :: args) r)
  raiseIf (r.returncode ≠ 0) ("module transition failed; no retry: " ++ tool)

/-- `restore()`. -/
def restore : Run Unit := do
  let state ← healthy env .restore false
  onlyIf (state.moduleLoaded = true) do
    identity env .restore .candidate
    command env .restore "rmmod" ["apple_avd"]
  let _ ← healthy env .cleared false
  command env .restored "modprobe" ["apple_avd"]
  identity env .restored .original
  let _ ← healthy env .restored true
  modify fun w => { w with restored := true }
  let sha ← lift (env.digest .recorded)
  record env (.originalRestored sha)

/-- `record_final_state()`. -/
def recordFinalState : Run Unit := do
  let state ← lift (env.state .terminal)
  let initstate ← lift env.finalInitstate
  let w ← get
  record env (.terminalState state initstate w.restored)

/-- An iteration of `recorder_preflight()`. -/
def preflightRecorder (name : String) : Run Unit := do
  let state ← lift (env.status name)
  lift (checkState state 1 false false)
  raiseIf (state.opens ≠ 0) ("recorder has an open context: " ++ name)
  record env (.recorderPreflight name state)

/-- `recorder_preflight()`. -/
def recorderPreflight : Run Unit := each (preflightRecorder env) paths

/-! ### The campaign -/

/-- The workloads, in the order of the loops. -/
def names : List String :=
  ["B", "E"].flatMap fun vector => ["va", "gst"].flatMap fun client =>
    ["off", "on"].map fun mode => vector ++ "-" ++ client ++ "-" ++ mode

/-- The workloads of a run. -/
def workloads (smokeOnly : Bool) : List String := if smokeOnly then [] else names

/-- An iteration of the loop over the workloads. -/
def workload (name : String) : Run Unit := do
  modify fun w => { w with number := w.number + 1 }
  let w ← get
  identity env (.before w.number) .candidate
  let _ ← healthy env (.before w.number) true
  record env (.runStart name w.number)
  let returncode ← lift (env.workload w.number)
  record env (.runResult name w.number returncode)
  raiseIf (returncode ≠ 0) ("capture/validation failed: " ++ name)
  let _ ← healthy env (.after w.number) true

/-- The body of the `try` statement. -/
def body (smokeOnly : Bool) : Run Unit := do
  command env .removed "rmmod" ["apple_avd"]
  modify fun w => { w with changed := true }
  let _ ← healthy env .removed false
  command env .inserted "insmod" [env.config.candidate]
  identity env .inserted .candidate
  let _ ← healthy env .inserted true
  recorderPreflight env
  each (workload env) (workloads smokeOnly)

/-- What comes before the `try` statement. -/
def prepare : Run Unit := do
  raiseIf (env.euid = 0 ∨ env.lease.getD "" = "") "ordinary user under hardware guard required"
  raiseIf (env.attempted = true) "File exists"
  let machine ← lift env.machine
  raiseIf (machine ≠ "aarch64") "unsupported host"
  let apple ← lift env.apple
  raiseIf (apple = false) "unsupported host"
  lift env.packages
  each (fun p : String × String => do
    let sha ← lift (env.tool p.1)
    raiseIf (sha ≠ p.2) ("tool identity changed: " ++ p.1)) env.config.toolSha
  let sha ← lift env.candidate
  raiseIf (sha ≠ env.config.candidateSha) "candidate changed"
  identity env .start .original
  let _ ← healthy env .start true

/-- `try: x` whose exception is recorded and kept. -/
def kept (x : Run Unit) (event : String → Event) : Run (Option String) :=
  tryExcept (do x; return none) (fun _ => true) fun e => do
    record env (event e)
    return some e

/-- The restoration in the `finally` clause. -/
def restoration : Run (Option String) := do
  let w ← get
  if w.changed then kept env (restore env) .restorationNotCompleted else return none

/-- The `finally` clause, of the failure that there is; the value is the failure after it. -/
def closing (failure : Option String) : Run (Option String) := do
  let later ← restoration env
  recordFinalState env
  return failure.or later

/-- `run(smoke_only)`, up to the record of its end. -/
def recorded (smokeOnly : Bool) : Run Unit := do
  prepare env
  let failure ← kept env (body env smokeOnly) .campaignFailed
  let failure ← closing env failure
  match failure with
  | some e => throw e
  | none => do
      let w ← get
      raiseIf (w.restored = false) "original restoration not proved"
      record env (.complete w.number true smokeOnly)

/-- `run(smoke_only)`. -/
def run (smokeOnly : Bool) : Run Unit := do
  recorded env smokeOnly
  lift env.completion
  modify fun w => { w with complete := true }

/-- What a run leaves behind, whether it returns or raises. -/
def left (smokeOnly : Bool) : World :=
  match run env smokeOnly {} with
  | .ok _ w => w
  | .error _ w => w

end OmarchyM1Video.CommandCapture
