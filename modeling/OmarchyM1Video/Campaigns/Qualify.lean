import Mathlib
import OmarchyM1Video.Campaigns.Host

/-!
The allocation qualification (`avd-allocation-qualification/qualify.py`): the jobs run on the
original module, on the candidate and on the original again.

* `Job`, `Config`, `Machine`: the jobs of the configuration, and what the system answers;
* `validate`, `execute`, `stage`, `restore`, `run`: the methods of `Campaign`.
-/

namespace OmarchyM1Video.Campaigns.Qualify

open OmarchyM1Video.Py

/-- A decoder command of the configuration. -/
structure Job where
  name : String
  count : ℕ
  expected : List String
  /-- `job.get('early_exports')`, 0 if it is not there. -/
  earlyExports : ℕ

structure Config where
  jobs : List Job
  /-- The paths of `files`. -/
  files : List String

/-- A workload goes by its stage and the name of its job. -/
abbrev Label := String × String

/-- What the system answers. -/
structure Machine extends Campaigns.Machine Label where
  /-- An ordinary user holds the lease of the guard. -/
  ordinary : List (Step Label) → Bool
  supported : List (Step Label) → Except String Bool
  packages : List (Step Label) → Except String Unit
  /-- Whether both module files have the pinned digests. -/
  modulesSame : List (Step Label) → Except String Bool
  fileSame : List (Step Label) → String → Except String Bool
  makeDirectory : List (Step Label) → Label → Except String Unit
  /-- The exit status of the decoder. -/
  decoder : List (Step Label) → Label → Except String ℤ
  /-- The rows of the output: the digests of its frames, or its `stream` lines. -/
  rows : List (Step Label) → Job → Except String (List String)
  comparison : List (Step Label) → Label → Except String Unit
  earlyExports : List (Step Label) → Label → Except String ℕ

/-- The messages of `qualify.py`. -/
def texts : Texts where
  unhealthy := "STOP: busy, wedged or faulted; no module recovery"
  notLive := "STOP: module not live"
  absent := "decoder absent"
  installed := "installed original changed"
  loaded
    | .original => "loaded identity mismatch: original"
    | .candidate => "loaded identity mismatch: candidate"
  transition := "module transition failed; never retry"

section Methods

variable (c : Config) (m : Machine)

/-- `healthy(present)`. -/
def healthy (present : Bool) : M Label GuardState := healthyWith m.toMachine texts present

/-- `identity(which)`. -/
def identity (which : Module) : M Label Unit := identityWith m.toMachine texts which

/-- `transition(*argv)`. -/
def transition (command : Command) : M Label Unit := transitionWith m.toMachine texts command

/-- `restore()`. -/
def restore : M Label Unit := restoreWith m.toMachine texts

/-- `execute(stage, job)`. -/
def execute (stage : String) (job : Job) : M Label Unit := do
  ask fun steps => m.makeDirectory steps (stage, job.name)
  record (.workloadStart (stage, job.name))
  let code ← ask fun steps => m.decoder steps (stage, job.name)
  record (.workloadExit (stage, job.name) code)
  require (code = 0) ("decoder failed: " ++ job.name)
  let _ ← healthy m true
  let actual ← ask fun steps => m.rows steps job
  ask fun steps => m.comparison steps (stage, job.name)
  require (actual = job.expected) ("selected exact output changed: " ++ job.name)
  onlyIf (job.earlyExports ≠ 0) do
    let count ← ask fun steps => m.earlyExports steps (stage, job.name)
    require (count = job.earlyExports) "early-export coverage mismatch"
  record (.workloadAccepted (stage, job.name))

/-- `stage(name, module)`. -/
def stage (name : String) (module : Module) : M Label Unit := do
  identity m module
  each (fun job => do
    let _ ← healthy m true
    execute m name job) c.jobs

/-- `validate()`. -/
def validate : M Label Unit := do
  let r ← get
  require (m.ordinary r.steps) "ordinary user under outer hwguard required"
  let supported ← ask m.supported
  require supported "unsupported host"
  ask m.packages
  let same ← ask m.modulesSame
  require same "module file identity"
  require (c.jobs.length = 10 ∧ (c.jobs.map Job.count).sum = 1704)
    "reviewed workload extent changed"
  require (c.jobs.map Job.name).Nodup "duplicate job"
  each (fun path => do
    let same ← ask fun steps => m.fileSame steps path
    require same ("pinned input/tool changed: " ++ path)) c.files
  mark m.toMachine
  identity m .original
  let _ ← healthy m true

/-- The `try` block of `run`. -/
def substitute : M Label Unit := do
  stage c m "baseline" .original
  let _ ← healthy m true
  transition m .rmmod
  modify fun r => { r with changed := true }
  let _ ← healthy m false
  transition m .insmod
  identity m .candidate
  let _ ← healthy m true
  stage c m "candidate" .candidate

/-- The `finally` clause of `run`: the failure of the run after it. -/
def undo (failure : Option String) : M Label (Option String) := do
  let r ← get
  let failure ← caughtIf r.changed (restore m) .restoreIncomplete failure
  let r ← get
  record (.terminal r.restored r.runs.length)
  return failure

/-- The stage after the restoration. -/
def restoredStage : M Label Unit :=
  tryExcept (do
    stage c m "restored" .original
    let _ ← healthy m true) (fun _ => true) fun e => do
      record (.restoredStageFailed e)
      throw e

/-- `run()`. -/
def run : M Label Unit := do
  validate c m
  let failure ← caught (substitute c m) .failed none
  let failure ← undo m failure
  reraise failure
  let r ← get
  require r.restored "original not restored"
  restoredStage c m
  record .complete
  ask m.completion
  push .completed

end Methods

end OmarchyM1Video.Campaigns.Qualify
