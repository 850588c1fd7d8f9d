import OmarchyM1Video.Campaigns.Host
import OmarchyM1Video.Py.JsonEq

/-!
The live campaign (`hevc-reference-content/live-campaign/run.py`): eight workloads on the recorder
module, under a temporary native approval.

* `Row`, `Config`, `Machine`: the admitted workloads, and what the system answers;
* `compareFrames`: the pixels of a workload against the baseline and the paired run;
* `liveCheck`, `workload`, `restore`, `run`: the methods of `Campaign`.
-/

namespace OmarchyM1Video.Campaigns.Live

open OmarchyM1Video.Py

/-- An admitted workload. -/
structure Row where
  name : String
  vector : String
  client : String
  copy : Bool
  deriving DecidableEq

/-- The workloads of the admission, which have different names. -/
structure Config where
  workloads : List Row
  distinct : (workloads.map Row.name).Nodup

/-- A selected observation, as `projection` returns it. -/
structure Selected where
  selector : ℤ
  picture : ℤ
  poc : ℤ
  kernelCompleted : ℤ
  deriving DecidableEq

/-- What a workload reads of `same-run-result.json`. -/
structure Joined where
  copy : Bool
  client : String
  selected : List Selected

/-- What the system answers. -/
structure Machine extends Campaigns.Machine String where
  /-- An ordinary user holds the lease of the guard. -/
  ordinary : List (Step String) → Bool
  /-- Whether the native approval has the digest of the preparation. -/
  approvalSame : List (Step String) → Except String Bool
  /-- The command and its environment with the run's own identities. -/
  expanded : List (Step String) → Row → ℕ → Except String Unit
  /-- The exit status of the supervisor. -/
  supervisor : List (Step String) → Row → Except String ℤ
  frameHashes : List (Step String) → Row → Except String (List String)
  /-- The accepted baseline of the client: its numbered frame hashes. -/
  prior : List (Step String) → Row → Except String (List (ℕ × String))
  reference : List (Step String) → Row → Except String (List String)
  /-- `frames.json` of the run without copies. -/
  paired : List (Step String) → Row → Except String (List String)
  joined : List (Step String) → Row → Except String Joined
  /-- `same-run-result.json` of the run without copies. -/
  before : List (Step String) → Row → Except String Joined
  measured : List (Step String) → Row → Except String Json
  /-- `kernel-projection.json` of the run without copies. -/
  projectionOff : List (Step String) → Row → Except String Json
  /-- `kernel-projection.json` of the run of the other client. -/
  projectionVa : List (Step String) → Row → Except String Json
  writeResults : List (Step String) → Row → Except String Unit

/-- The messages of `run.py`. -/
def texts : Texts where
  unhealthy := "STOP: unhealthy; no module recovery"
  notLive := "module is not live"
  absent := "decoder missing"
  installed := "installed module changed"
  loaded _ := "loaded module identity drift"
  transition := "privileged transition failed; no retry"

/-- `compare_frames(hashes, prior, reference, paired)`. -/
def compareFrames (hashes : List String) (prior : List (ℕ × String)) (reference : List String)
    (paired : Option (List String)) : Except String (List ℕ) := do
  need (hashes.length = reference.length ∧ reference.length = 300) "reference frame extent"
  need (prior = (List.range hashes.length).zip hashes)
    "pixels differ from the prior accepted client baseline"
  need (∀ off ∈ paired, hashes = off) "copy observation perturbs decoded pixels"
  return (List.range hashes.length).filter fun i => hashes[i]? ≠ reference[i]?

section Methods

variable (c : Config) (m : Machine)

/-- `healthy(present)`. -/
def healthy (present : Bool) : M String GuardState := healthyWith m.toMachine texts present

/-- `identity(original)`. -/
def identity (original : Bool) : M String Unit :=
  identityWith m.toMachine texts (if original then .original else .candidate)

/-- `privileged(*argv)`. -/
def privileged (command : Command) : M String Unit := transitionWith m.toMachine texts command

/-- `restore()`. -/
def restore : M String Unit := restoreWith m.toMachine texts

/-- `live_check()`. -/
def liveCheck : M String Unit := do
  identity m false
  let _ ← healthy m true
  privileged m .manifestLive

/-- `need(manifest.digest(NATIVE) == …, message)`. -/
def approvalCheck (message : String) : M String Unit := do
  let same ← ask m.approvalSame
  require same message

/-- `paired`. -/
def pairedFrames (row : Row) : M String (Option (List String)) :=
  if row.copy then askSome fun steps => m.paired steps row else pure none

/-- The comparisons of `workload`, after the supervisor has ended and the decoder is healthy. -/
def evidence (row : Row) : M String Unit := do
  let hashes ← ask fun steps => m.frameHashes steps row
  let prior ← ask fun steps => m.prior steps row
  let reference ← ask fun steps => m.reference steps row
  let paired ← pairedFrames m row
  let _ ← settle (compareFrames hashes prior reference paired)
  let joined ← ask fun steps => m.joined steps row
  require (joined.copy = row.copy ∧ joined.client = row.client) "join workload identity"
  require (joined.selected.length = if row.vector = "B" then 1 else 3)
    "selected observation extent"
  onlyIf row.copy do
    let before ← ask fun steps => m.before steps row
    require (joined.selected = before.selected) "selected writer logical projection changed"
  let measured ← ask fun steps => m.measured steps row
  onlyIf row.copy do
    let off ← ask fun steps => m.projectionOff steps row
    require (Json.same measured off) "copy observation changes command/reference projection"
  onlyIf (row.client = "gst") do
    let va ← ask fun steps => m.projectionVa steps row
    require (Json.same measured va) "cross-client command/reference projection differs"
  ask fun steps => m.writeResults steps row

/-- `workload(row, number)`. -/
def workload (row : Row) (number : ℕ) : M String Unit := do
  approvalCheck m "native approval drift"
  liveCheck m
  ask fun steps => m.expanded steps row number
  record (.workloadStart row.name)
  let code ← ask fun steps => m.supervisor steps row
  record (.workloadExit row.name code)
  require (code = 0) ("same-run workload failed; stop without replay: " ++ row.name)
  let _ ← healthy m true
  evidence m row
  record (.workloadAccepted row.name)

/-- `runs[name] = …`. -/
def addRun (name : String) : M String Unit :=
  modify fun r => { r with runs := if name ∈ r.runs then r.runs else r.runs ++ [name] }

/-- The `try` block of `run`. -/
def substitute : M String Unit := do
  privileged m .rmmod
  modify fun r => { r with changed := true }
  let _ ← healthy m false
  privileged m .insmod
  liveCheck m
  privileged m .installDirectory
  privileged m .installApproval
  modify fun r => { r with approvalInstalled := true }
  approvalCheck m "native approval drift"
  each (fun p => do
    workload m p.1 p.2
    addRun p.1.name) (c.workloads.zip (List.range' 1 c.workloads.length))

/-- The removal of the native approval. -/
def removeApproval : M String Unit := do
  push .removing
  approvalCheck m "changed approval retained"
  privileged m .removeApproval
  privileged m .removeDirectory

/-- The `finally` clause of `run`: the failure of the run after it. -/
def undo (failure : Option String) : M String (Option String) := do
  let r ← get
  let failure ← caughtIf r.changed (restore m) .restoreIncomplete failure
  let r ← get
  let failure ← caughtIf r.approvalInstalled (removeApproval m) .cleanupFailed failure
  let _ ← ask m.state
  let r ← get
  record (.terminal r.restored r.runs.length)
  return failure

/-- `run()`. -/
def run : M String Unit := do
  let r ← get
  require (m.ordinary r.steps) "ordinary user inside guard required"
  mark m.toMachine
  let r ← get
  require (r.host.directory = false) "native approval directory already exists"
  identity m true
  let _ ← healthy m true
  let failure ← caught (substitute c m) .failed none
  let failure ← undo m failure
  reraise failure
  let r ← get
  require (r.restored ∧ r.runs.length = 8) "campaign incomplete"
  ask m.completion
  push .completed

end Methods

end OmarchyM1Video.Campaigns.Live
