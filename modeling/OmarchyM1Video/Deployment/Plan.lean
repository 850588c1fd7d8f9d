import Mathlib
import OmarchyM1Video.Py.Json

/-!
The campaign plan: `experiments/hevc-reference-content/campaign/controller.py`.

A plan is a list of workloads, each with the outputs it selects, its input window and the capacity it
has.  The plan is printed as JSON together with what is wrong with it.

* `Seq`: a tuple or a list, which JSON does not tell apart;
* `Workload`, `Plan`, `buildPlan`: the plan, and how it is built;
* `workloadProblems`, `pairProblems`, `validatePlan`: everything that is wrong with a plan;
* `clientContract`, `Plan.document`: the plan as it is printed and read again.
-/

namespace OmarchyM1Video.Deployment

open OmarchyM1Video.Py

/-! ### Plans -/

/-- `VECTORS`. -/
def vectors : List String := ["B", "E"]

/-- `CLIENTS`. -/
def clients : List String := ["va", "gst"]

/-- `MODES`: observer copy off and on. -/
def modes : List Bool := [false, true]

/-- A tuple or a list of integers. -/
inductive Seq where
  | tuple (xs : List ℤ)
  | list (xs : List ℤ)
  deriving DecidableEq

def Seq.items : Seq → List ℤ
  | tuple xs => xs
  | list xs => xs

/-- The eight `(vector, client, copy)` of a campaign, in the order of the loops. -/
def matrix : List (String × String × Bool) :=
  vectors.flatMap fun vector => clients.flatMap fun client => modes.map fun copy =>
    (vector, client, copy)

/-- `f"{vector}-{client}-{'on' if copy else 'off'}"`. -/
def nameOf (vector client : String) (copy : Bool) : String :=
  vector ++ "-" ++ client ++ "-" ++ if copy then "on" else "off"

/-- `Workload`. -/
structure Workload where
  vector : String
  client : String
  copy : Bool
  selectorDomain : String
  selectors : Seq
  armInputIndex : ℤ
  lastRequiredInputIndex : ℤ
  parameterSetChangeInputs : Seq
  gstPoolSize : Option ℤ
  vaOutputCount : Option ℤ
  deriving DecidableEq

def Workload.name (w : Workload) : String := nameOf w.vector w.client w.copy

/-- `GstRequirements`. -/
structure GstRequirements where
  freshElementPerObservation : Bool := true
  armOnStreamingOwner : Bool := true
  treatFlowErrorAsFailure : Bool := true
  finishBeforeLifecycleOps : Bool := true
  deriving DecidableEq

/-- `VA_OWNER_OPERATIONS`. -/
def vaOwnerOperations : List String := ["send", "receive", "flush", "result", "finish", "close"]

/-- `VARequirements`. -/
structure VARequirements where
  freshDecoderPerObservation : Bool := true
  decoderThreads : ℤ := 1
  activeThreadType : ℤ := 0
  singleApplicationOwner : Bool := true
  ownerOperations : List String := vaOwnerOperations
  finishBeforeClose : Bool := true
  fatalCleanupIsFailure : Bool := true
  stickyFailureInvalidatesResult : Bool := true
  deriving DecidableEq

/-- `Plan`. -/
structure Plan where
  runId : Json
  workloads : List Workload
  gst : GstRequirements := {}
  va : VARequirements := {}

/-- `VA_SELECTOR`, `GST_SELECTOR`. -/
def selectorDomain (client : String) : String :=
  if client = "va" then "output_ordinal" else "system_frame_number"

/-- The arguments of `build_plan`, each dictionary by its `get`. -/
structure PlanInputs where
  gstPoolSizes : String → Option ℤ
  vaOutputCounts : String → Option ℤ
  gstFrames : String → Option (List ℤ)
  vaOutputs : String → Option (List ℤ)
  lastRequiredInputs : String → String → Option ℤ
  parameterSetChangeInputs : String → Option (List ℤ)

/-- A workload of `build_plan`. -/
def buildWorkload (inputs : PlanInputs) (vector client : String) (copy : Bool) : Workload :=
  { vector
    client
    copy
    selectorDomain := if client = "gst" then "system_frame_number" else "output_ordinal"
    selectors := .tuple
      (((if client = "gst" then inputs.gstFrames else inputs.vaOutputs) vector).getD [])
    armInputIndex := 0
    lastRequiredInputIndex := (inputs.lastRequiredInputs client vector).getD (-1)
    parameterSetChangeInputs := .tuple ((inputs.parameterSetChangeInputs vector).getD [])
    gstPoolSize := if client = "gst" then inputs.gstPoolSizes vector else none
    vaOutputCount := if client = "va" then inputs.vaOutputCounts vector else none }

/-- `build_plan(…, run_id=run_id)`, of a run id that is not empty. -/
def buildPlan (inputs : PlanInputs) (runId : String) : Plan :=
  { runId := .str runId, workloads := matrix.map fun p => buildWorkload inputs p.1 p.2.1 p.2.2 }

/-! ### What is wrong with a plan -/

/-- `if c: problems.append(text)`. -/
def say (c : Prop) [Decidable c] (text : String) : List String := if c then [text] else []

/-- A list of integers as it is printed. -/
def intsText (xs : List ℤ) : String :=
  "[" ++ ", ".intercalate ((xs.mergeSort (· ≤ ·)).map toString) ++ "]"

/-- A list of names as it is printed. -/
def namesText (xs : List String) : String :=
  "[" ++ ", ".intercalate ((xs.mergeSort (· ≤ ·)).map fun x => "'" ++ x ++ "'") ++ "]"

/-- The eight names. -/
def expectedNames : List String := matrix.map fun p => nameOf p.1 p.2.1 p.2.2

/-- The problems of the set of workloads. -/
def nameProblems (names : List String) : List String :=
  say (¬((∀ n ∈ names, n ∈ expectedNames) ∧ ∀ n ∈ expectedNames, n ∈ names))
    ("workload set is not the eight \x7bB,E\x7dx\x7bVA,Gst\x7dx\x7boff,on\x7d runs: missing " ++
      namesText (expectedNames.filter (· ∉ names)) ++ ", extra " ++
        namesText ((names.filter (· ∉ expectedNames)).eraseDups)) ++
  say (¬names.Nodup) "duplicate workloads in plan"

/-- The problems of the requirements of the Gst client. -/
def gstProblems (g : GstRequirements) : List String :=
  say (g.freshElementPerObservation = false) "Gst requires a fresh decoder element per observation" ++
  say (g.armOnStreamingOwner = false) "Gst arm() must happen on the streaming owner thread" ++
  say (g.treatFlowErrorAsFailure = false)
    "Gst GST_FLOW_ERROR in an armed window must fail the observation" ++
  say (g.finishBeforeLifecycleOps = false) "Gst must finish before flush or a state change"

/-- The problems of the requirements of the VA client. -/
def vaProblems (v : VARequirements) : List String :=
  say (v.freshDecoderPerObservation = false) "VA requires a fresh decoder per observation" ++
  say (v.decoderThreads ≠ 1) "VA armed decoding requires decoder_threads=1" ++
  say (v.activeThreadType ≠ 0) "VA armed decoding requires active_thread_type=0" ++
  say (v.singleApplicationOwner = false)
    "VA send/receive/flush/result/finish/close require one application owner" ++
  say (v.ownerOperations ≠ vaOwnerOperations)
    "VA owner_operations must cover send/receive/flush/result/finish/close exactly" ++
  say (v.finishBeforeClose = false)
    "VA observer finish must succeed before avcodec_free_context/close" ++
  say (v.fatalCleanupIsFailure = false)
    "VA persistent native-end failure must be a fatal quarantined run" ++
  say (v.stickyFailureInvalidatesResult = false)
    "VA sticky output failure must invalidate result and repeated finish"

/-- The problems of the capacity of a workload. -/
def capacityProblems (w : Workload) : List String :=
  let selectors := w.selectors.items
  if w.client = "gst" then
    say (w.vaOutputCount ≠ none) (w.name ++ ": VA output count attached to a Gst workload") ++
    match w.gstPoolSize with
    | none => [w.name ++ ": Gst pool size must be known"]
    | some size =>
        if size ≤ 0 then [w.name ++ ": Gst pool size must be known"]
        else say (size ≤ selectors.length) (w.name ++ ": Gst pool size " ++ toString size ++
          " cannot preserve ordinary capacity plus " ++ toString selectors.length ++
          " selected reserves")
  else if w.client = "va" then
    say (w.gstPoolSize ≠ none) (w.name ++ ": Gst pool size attached to a VA workload") ++
    match w.vaOutputCount with
    | none => [w.name ++ ": VA decoded output count must be known"]
    | some count =>
        if count ≤ 0 then [w.name ++ ": VA decoded output count must be known"]
        else say (selectors.filter (count ≤ ·) ≠ []) (w.name ++ ": output ordinals " ++
          intsText (selectors.filter (count ≤ ·)) ++ " exceed decoded output count " ++
          toString count)
  else []

/-- The problems of the input window of a workload. -/
def windowProblems (w : Workload) : List String :=
  let window := toString w.armInputIndex ++ ".." ++ toString w.lastRequiredInputIndex
  let changes := w.parameterSetChangeInputs.items
  let inside := changes.filter fun n => w.armInputIndex ≤ n ∧ n ≤ w.lastRequiredInputIndex
  say (w.armInputIndex < 0) (w.name ++ ": negative arm input index") ++
  say (w.lastRequiredInputIndex < w.armInputIndex) (w.name ++ ": invalid input window " ++ window) ++
  say (changes.filter (· < 0) ≠ []) (w.name ++ ": negative parameter-set input indices " ++
    intsText (changes.filter (· < 0))) ++
  say (inside ≠ []) (w.name ++ ": parameter-set change input " ++ intsText inside ++
    " falls inside armed input window " ++ window)

/-- The problems of a workload. -/
def workloadProblems (w : Workload) : List String :=
  let selectors := w.selectors.items
  let expected := selectorDomain w.client
  say (w.selectorDomain ≠ expected) (w.name ++ ": selector domain '" ++ w.selectorDomain ++
    "' is not '" ++ expected ++ "'") ++
  if selectors = [] then [w.name ++ ": paired copy mode selects no outputs"]
  else
    say (¬(1 ≤ selectors.length ∧ selectors.length ≤ 8)) (w.name ++ ": " ++
      toString selectors.length ++ " selections outside 1..8") ++
    say (¬selectors.Nodup) (w.name ++ ": selectors must be distinct " ++ expected ++ "s") ++
    say (∃ n ∈ selectors, n < 0) (w.name ++ ": negative " ++ expected) ++
    capacityProblems w ++ windowProblems w

/-- The workload of a client, a vector and a mode. -/
def workloadOf (plan : Plan) (client vector : String) (copy : Bool) : Option Workload :=
  plan.workloads.reverse.find? fun w => w.client = client ∧ w.vector = vector ∧ w.copy = copy

/-- The problems of the two modes of a client and a vector. -/
def pairProblems (plan : Plan) (client vector : String) (wanted : ℕ) : List String :=
  match workloadOf plan client vector false, workloadOf plan client vector true with
  | some off, some on =>
      let pair := vector ++ "/" ++ client
      say (off.selectors ≠ on.selectors) (pair ++ ": copy-off/on selectors differ") ++
      say ((off.armInputIndex, off.lastRequiredInputIndex) ≠
          (on.armInputIndex, on.lastRequiredInputIndex))
        (pair ++ ": copy-off/on input windows differ") ++
      say (off.parameterSetChangeInputs ≠ on.parameterSetChangeInputs)
        (pair ++ ": copy-off/on stream-change inputs differ") ++
      say ((off.gstPoolSize, off.vaOutputCount) ≠ (on.gstPoolSize, on.vaOutputCount))
        (pair ++ ": copy-off/on selector limits differ") ++
      say (on.selectors.items.length ≠ wanted) (pair ++ ": " ++
        toString on.selectors.items.length ++ " selected slots, expected " ++ toString wanted)
  | _, _ => []

/-- `SNAPSHOT_BYTES`. -/
def snapshotBytes : ℕ := 184320

/-- `MAX_SNAPSHOTS`. -/
def maxSnapshots : ℕ := 8

/-- `TOTAL_BYTES`. -/
def totalBytes : ℕ := 1474560

/-- `E_SLOTS_PER_CLIENT`, `B_SLOTS_PER_CLIENT`. -/
def slotsPerClient : List (String × ℕ) := [("E", 3), ("B", 1)]

/-- The outputs that are copied. -/
def copiedTargets (plan : Plan) : ℕ :=
  ((plan.workloads.filter (·.copy)).map fun w => w.selectors.items.length).sum

/-- `validate_plan(plan)`. -/
def validatePlan (plan : Plan) : List String :=
  nameProblems (plan.workloads.map Workload.name) ++ gstProblems plan.gst ++ vaProblems plan.va ++
  plan.workloads.flatMap workloadProblems ++
  (clients.flatMap fun client => slotsPerClient.flatMap fun p => pairProblems plan client p.1 p.2) ++
  say (maxSnapshots < copiedTargets plan) (toString (copiedTargets plan) ++
    " copied snapshots exceeds the budget of " ++ toString maxSnapshots) ++
  say (totalBytes < copiedTargets plan * snapshotBytes) (toString (copiedTargets plan * snapshotBytes) ++
    " copied bytes exceeds the total budget of " ++ toString totalBytes)

/-! ### The plan as it is printed -/

def Seq.json (s : Seq) : Json := .arr (s.items.map .int)

/-- An integer or `None`. -/
def optionJson (n : Option ℤ) : Json := (n.map Json.int).getD .null

/-- `asdict(gst)`. -/
def GstRequirements.json (g : GstRequirements) : Json :=
  .obj [("fresh_element_per_observation", .bool g.freshElementPerObservation),
    ("arm_on_streaming_owner", .bool g.armOnStreamingOwner),
    ("treat_flow_error_as_failure", .bool g.treatFlowErrorAsFailure),
    ("finish_before_lifecycle_ops", .bool g.finishBeforeLifecycleOps)]

/-- `asdict(va)`. -/
def VARequirements.json (v : VARequirements) : Json :=
  .obj [("fresh_decoder_per_observation", .bool v.freshDecoderPerObservation),
    ("decoder_threads", .int v.decoderThreads), ("active_thread_type", .int v.activeThreadType),
    ("single_application_owner", .bool v.singleApplicationOwner),
    ("owner_operations", .arr (v.ownerOperations.map .str)),
    ("finish_before_close", .bool v.finishBeforeClose),
    ("fatal_cleanup_is_failure", .bool v.fatalCleanupIsFailure),
    ("sticky_failure_invalidates_result", .bool v.stickyFailureInvalidatesResult)]

/-- `client_contract(plan, workload)`; none is `ValueError`. -/
def clientContract (plan : Plan) (w : Workload) : Option Json :=
  let selectors := w.selectors.items
  let selector : Json := .obj [("domain", .str w.selectorDomain), ("values", .arr (selectors.map .int))]
  let inputWindow : Json := .obj [("arm_input_index", .int w.armInputIndex),
    ("last_required_input_index", .int w.lastRequiredInputIndex)]
  if w.client = "gst" then
    some (.obj [("arm_api", .str "gst_hevc_callsite_arm_frames"), ("copy", .bool w.copy),
      ("selector", selector), ("input_window", inputWindow),
      ("allocation_capacity", .obj [("negotiated_source_pool_size", optionJson w.gstPoolSize),
        ("reserved_unpublished_allocations", .int selectors.length),
        ("ordinary_allocations", optionJson (w.gstPoolSize.map (· - selectors.length)))]),
      ("requirements", plan.gst.json)])
  else if w.client = "va" then
    some (.obj [("private_options", .obj [("threads", .int plan.va.decoderThreads),
        ("va_observer_outputs", .str (",".intercalate (selectors.map toString))),
        ("va_observer_copy", .int (if w.copy then 1 else 0))]),
      ("selector", selector), ("input_window", inputWindow),
      ("decoded_output_count", optionJson w.vaOutputCount), ("requirements", plan.va.json),
      ("persistent_end_failure", .str "fatal_quarantine"),
      ("result_report", .obj [("private_option", .str "va_observer_report"),
        ("destination", .str "runner_allocated_exclusive_path"),
        ("schema", .str "omarchy.hevc.va-observer-result/v1"),
        ("publication", .str "renameat2(RENAME_NOREPLACE)"), ("max_bytes", .int 8192),
        ("require_process_exit_zero", .bool true)])])
  else none

/-- A workload as it is printed. -/
def workloadJson (plan : Plan) (w : Workload) : Option Json :=
  (clientContract plan w).map fun contract =>
    .obj [("vector", .str w.vector), ("client", .str w.client), ("copy", .bool w.copy),
      ("selector_domain", .str w.selectorDomain), ("selectors", w.selectors.json),
      ("arm_input_index", .int w.armInputIndex),
      ("last_required_input_index", .int w.lastRequiredInputIndex),
      ("parameter_set_change_inputs", w.parameterSetChangeInputs.json),
      ("gst_pool_size", optionJson w.gstPoolSize), ("va_output_count", optionJson w.vaOutputCount),
      ("name", .str w.name), ("client_contract", contract)]

/-- `json.loads(plan.to_json())`; none is the `ValueError` of an unknown client. -/
def Plan.document (plan : Plan) : Option Json := do
  let problems := validatePlan plan
  let workloads ← plan.workloads.mapM (workloadJson plan)
  return .obj [("run_id", plan.runId), ("valid", .bool problems.isEmpty),
    ("problems", .arr (problems.map .str)), ("execution_authorized", .bool false),
    ("client_requirements", .obj [("gst", plan.gst.json), ("va", plan.va.json)]),
    ("workloads", .arr workloads)]

end OmarchyM1Video.Deployment
