import OmarchyM1Video.Deployment.Commands

/-!
The admission of a deployment: `deployment/admission.py`.

The saved plan is read again, built again by the controller, and compared with itself, with the plan of
the manifest's targets and with the commands.

* `Workload.read`, `rebuild`: the plan that is built of a saved one;
* `withRunId`: a saved plan with another run id;
* `checkAdmission`: the checks;
* `checkAdmission_ok`: the plan and the commands of sound groups pass them;
* `targets_plan_commands`: the targets of a manifest, its plan and its commands.
-/

namespace OmarchyM1Video.Deployment

open OmarchyM1Video.Py
open OmarchyM1Video.ReferenceContent (hasKeys)

/-! ### The plan that is built again -/

/-- `controller.Workload(…)` of a saved row. -/
def Workload.read (row : Json) : Option Workload := do
  let vector ← (row.get? "vector").bind textOf
  let client ← (row.get? "client").bind textOf
  let copy ← (row.get? "copy").bind boolOf
  let selectorDomain ← (row.get? "selector_domain").bind textOf
  let selectors ← (row.get? "selectors").bind intsOf
  let armInputIndex ← (row.get? "arm_input_index").bind intOf
  let lastRequiredInputIndex ← (row.get? "last_required_input_index").bind intOf
  let changes ← (row.get? "parameter_set_change_inputs").bind intsOf
  let gstPoolSize ← (row.get? "gst_pool_size").bind optionOf
  let vaOutputCount ← (row.get? "va_output_count").bind optionOf
  return {
    vector, client, copy, selectorDomain, selectors := .list selectors, armInputIndex,
    lastRequiredInputIndex, parameterSetChangeInputs := .list changes, gstPoolSize, vaOutputCount }

/-- `controller.Plan(run_id=plan["run_id"], workloads=workloads)`. -/
def rebuild (plan : Json) : Option Plan := do
  let runId ← plan.get? "run_id"
  let rows ← (plan.get? "workloads").bind listOf
  let workloads ← rows.mapM Workload.read
  return { runId, workloads }

/-- `document["run_id"] = runId`. -/
def withRunId (runId : Json) : Json → Json
  | .obj members => .obj (members.map fun m => if m.1 = "run_id" then (m.1, runId) else m)
  | document => document

/-- What the admission reads of a manifest. -/
structure Manifest where
  targets : List Json
  artifacts : String → Path
  corpus : String → String
  commands : List Json

/-- The fields of a saved plan. -/
def planKeys : List String :=
  ["execution_authorized", "problems", "run_id", "valid", "client_requirements", "workloads"]

/-- `{row["name"] for row in rows}`, as the list of the names. -/
def namesOf (rows : List Json) : Option (List String) :=
  rows.mapM fun row => (row.get? "name").bind textOf

/-- The checks of `admitted_document(…)` on the saved plan.  Before them the manifest is verified, and the
digest of the plan file compared with that of the manifest. -/
def checkAdmission (m : Manifest) (plan : Json) : Check Unit := do
  need (hasKeys planKeys plan = true) (.raise "campaign plan schema drift")
  need ((plan.get? "valid").any Json.truthy = true ∧ (plan.get? "problems").any Json.truthy = false ∧
      (plan.get? "execution_authorized").bind boolOf = some false)
    (.raise "campaign plan is not a valid refusing plan")
  let rebuilt ← found (rebuild plan) (.builtin .keyError)
  need (validatePlan rebuilt = [])
    (.raise ("owning controller rejects plan: " ++ joinedProblems (validatePlan rebuilt)))
  let document ← found rebuilt.document (.raise "unknown client")
  need (document.same plan = true)
    (.raise "campaign plan differs from owning controller reconstruction")
  let commandNames ← found (namesOf m.commands) (.builtin .keyError)
  let planNames ← found (((plan.get? "workloads").bind listOf).bind namesOf) (.builtin .keyError)
  need ((∀ name ∈ commandNames, name ∈ planNames) ∧ ∀ name ∈ planNames, name ∈ commandNames)
    (.raise "command/workload matrix drift")
  let expected ← planDocument m.targets
  need ((withRunId rebuilt.runId expected).same plan = true)
    (.raise "campaign plan differs from manifest targets")
  let commands ← commandMatrix m.artifacts m.corpus m.targets
  need ((Json.arr m.commands).same (.arr (commands.map Command.json)) = true)
    (.raise "workload command differs from deterministic builder output")

/-! ### Values as they are printed -/

lemma intsOf_json (xs : List ℤ) : intsOf (.arr (xs.map .int)) = some xs := by
  rw [intsOf, listOf, Option.bind_some]
  induction xs with
  | nil => rfl
  | cons x xs ih => rw [List.map_cons, List.mapM_cons, ih]; rfl

lemma optionOf_json (n : Option ℤ) : optionOf (optionJson n) = some n := by
  cases n <;> rfl

@[simp] lemma same_int (n : ℤ) : (Json.int n).same (.int n) = true := by
  simp [Json.same, Json.sameScalar, Json.number?]

@[simp] lemma same_bool (b : Bool) : (Json.bool b).same (.bool b) = true := by
  simp [Json.same, Json.sameScalar, Json.number?]

@[simp] lemma same_str (s : String) : (Json.str s).same (.str s) = true := by
  simp [Json.same, Json.sameScalar]

@[simp] lemma same_optionJson (n : Option ℤ) : (optionJson n).same (optionJson n) = true := by
  cases n
  · simp [optionJson, Json.same, Json.sameScalar]
  · exact same_int _

@[simp] lemma same_ints (xs : List ℤ) : (Json.arr (xs.map .int)).same (.arr (xs.map .int)) = true :=
  Json.same_arr_self fun x hx => by
    obtain ⟨n, -, rfl⟩ := List.mem_map.mp hx
    exact same_int n

@[simp] lemma same_texts (xs : List String) : (Json.arr (xs.map .str)).same (.arr (xs.map .str)) = true :=
  Json.same_arr_self fun x hx => by
    obtain ⟨s, -, rfl⟩ := List.mem_map.mp hx
    exact same_str s

@[simp] lemma GstRequirements.same_json (g : GstRequirements) : g.json.same g.json = true :=
  Json.same_obj_self (by simp) (by simp)

@[simp] lemma VARequirements.same_json (v : VARequirements) : v.json.same v.json = true :=
  Json.same_obj_self (by simp) (by simp)

/-! ### A plan and its document -/

/-- A workload as it is printed, of the requirements that a plan has by default. -/
def rowOf (w : Workload) : Option Json := workloadJson { runId := .null, workloads := [] } w

lemma workloadJson_asLists (runId : Json) (ws : List Workload) (w : Workload) :
    workloadJson { runId, workloads := ws } w.asLists = rowOf w := rfl

lemma workloadJson_eq (runId : Json) (ws : List Workload) (w : Workload) :
    workloadJson { runId, workloads := ws } w = rowOf w := rfl

variable {w : Workload}

/-- A client of the campaign has a contract. -/
lemma clientContract_some (plan : Plan) (h : w.client ∈ clients) :
    ∃ contract, clientContract plan w = some contract ∧ contract.same contract = true := by
  have hselector : (Json.obj [("domain", .str w.selectorDomain),
      ("values", .arr (w.selectors.items.map .int))]).same (.obj [("domain", .str w.selectorDomain),
        ("values", .arr (w.selectors.items.map .int))]) = true :=
    Json.same_obj_self (by simp) (by simp)
  have hwindow : (Json.obj [("arm_input_index", .int w.armInputIndex),
      ("last_required_input_index", .int w.lastRequiredInputIndex)]).same
        (.obj [("arm_input_index", .int w.armInputIndex),
          ("last_required_input_index", .int w.lastRequiredInputIndex)]) = true :=
    Json.same_obj_self (by simp) (by simp)
  rcases List.mem_pair.mp h with hva | hgst
  · refine ⟨_, by rw [clientContract, if_neg (by simp [hva]), if_pos hva], ?_⟩
    refine Json.same_obj_self (by simp) ?_
    simp only [List.forall_mem_cons, hselector, hwindow, same_optionJson, same_str,
      VARequirements.same_json, true_and, List.not_mem_nil, false_implies, implies_true, and_true]
    exact ⟨Json.same_obj_self (by simp) (by simp), Json.same_obj_self (by simp) (by simp)⟩
  · refine ⟨_, by rw [clientContract, if_pos hgst], ?_⟩
    refine Json.same_obj_self (by simp) ?_
    simp only [List.forall_mem_cons, hselector, hwindow, same_str, same_bool,
      GstRequirements.same_json, true_and, List.not_mem_nil, false_implies, implies_true, and_true]
    exact Json.same_obj_self (by simp) (by simp)

/-- A workload of a client of the campaign is printed, and what is printed is read as lists. -/
lemma rowOf_read (h : w.client ∈ clients) :
    ∃ row, rowOf w = some row ∧ Workload.read row = some w.asLists ∧
      (row.get? "name").bind textOf = some w.name ∧ row.same row = true := by
  obtain ⟨contract, hcontract, hsame⟩ := clientContract_some { runId := .null, workloads := [] } h
  refine ⟨_, by rw [rowOf, workloadJson, hcontract, Option.map_some], ?_, rfl, ?_⟩
  · have hselectors := intsOf_json w.selectors.items
    have hchanges := intsOf_json w.parameterSetChangeInputs.items
    have hpool := optionOf_json w.gstPoolSize
    have hcount := optionOf_json w.vaOutputCount
    simp [Workload.read, Json.get?, Json.member?, Seq.json, textOf, boolOf, intOf, hselectors,
      hchanges, hpool, hcount, Workload.asLists]
  · refine Json.same_obj_self (by simp) ?_
    simp [hsame, Seq.json]

/-- Workloads of the clients of the campaign are printed, and what is printed is read as lists. -/
lemma rows_read {ws : List Workload} (h : ∀ w ∈ ws, w.client ∈ clients) :
    ∃ rows, ws.mapM rowOf = some rows ∧ rows.mapM Workload.read = some (ws.map Workload.asLists) ∧
      namesOf rows = some (ws.map Workload.name) ∧ ∀ row ∈ rows, row.same row = true := by
  induction ws with
  | nil => exact ⟨[], rfl, rfl, rfl, by simp⟩
  | cons w ws ih =>
      obtain ⟨rows, hrows, hread, hnames, hsame⟩ :=
        ih fun w' hw' => h w' (List.mem_cons_of_mem w hw')
      obtain ⟨row, hrow, hreadRow, hname, hsameRow⟩ := rowOf_read (h w List.mem_cons_self)
      rw [namesOf] at hnames
      refine ⟨row :: rows, ?_, ?_, ?_, List.forall_mem_cons.mpr ⟨hsameRow, hsame⟩⟩
      · rw [List.mapM_cons, hrow, hrows]; rfl
      · rw [List.mapM_cons, hreadRow, hread]; rfl
      · rw [namesOf, List.mapM_cons, hname, hnames]; rfl

/-- The document of a plan without a problem. -/
def documentOf (runId : Json) (rows : List Json) : Json :=
  .obj [("run_id", runId), ("valid", .bool true), ("problems", .arr []),
    ("execution_authorized", .bool false),
    ("client_requirements", .obj [("gst", GstRequirements.json {}), ("va", VARequirements.json {})]),
    ("workloads", .arr rows)]

variable {runId : Json} {ws : List Workload} {rows : List Json}

lemma document_of_valid (hvalid : validatePlan { runId, workloads := ws } = [])
    (hrows : ws.mapM rowOf = some rows) :
    Plan.document { runId, workloads := ws } = some (documentOf runId rows) := by
  have hmap : ws.mapM (workloadJson { runId, workloads := ws }) = some rows := hrows
  rw [Plan.document, hmap, hvalid]
  rfl

lemma document_asLists (hvalid : validatePlan { runId, workloads := ws.map Workload.asLists } = [])
    (hrows : ws.mapM rowOf = some rows) :
    Plan.document { runId, workloads := ws.map Workload.asLists } = some (documentOf runId rows) := by
  have hmap : (ws.map Workload.asLists).mapM
      (workloadJson { runId, workloads := ws.map Workload.asLists }) = some rows := by
    rw [List.mapM_map]
    exact hrows
  rw [Plan.document, hmap, hvalid]
  rfl

lemma withRunId_documentOf (runId' : Json) :
    withRunId runId' (documentOf runId rows) = documentOf runId' rows := rfl

lemma rebuild_documentOf (hread : rows.mapM Workload.read = some (ws.map Workload.asLists)) :
    rebuild (documentOf runId rows) = some { runId, workloads := ws.map Workload.asLists } := by
  have hrun : (documentOf runId rows).get? "run_id" = some runId := rfl
  have hrows : ((documentOf runId rows).get? "workloads").bind listOf = some rows := rfl
  rw [rebuild, hrun, hrows]
  show (rows.mapM Workload.read).bind _ = _
  rw [hread]
  rfl

lemma same_documentOf (hrun : runId.same runId = true) (hrows : ∀ row ∈ rows, row.same row = true) :
    (documentOf runId rows).same (documentOf runId rows) = true := by
  refine Json.same_obj_self (by simp) ?_
  have hclients : (Json.obj [("gst", GstRequirements.json {}), ("va", VARequirements.json {})]).same
      (.obj [("gst", GstRequirements.json {}), ("va", VARequirements.json {})]) = true :=
    Json.same_obj_self (by simp) (by simp)
  simp only [List.forall_mem_cons, hrun, same_bool, hclients, Json.same_arr_self hrows, true_and,
    List.not_mem_nil, false_implies, implies_true, and_true]
  exact Json.same_arr_self (by simp)

/-! ### The plan of sound groups is admitted -/

variable {targets : List Json}

/-- The workloads of a list of targets. -/
def workloadsOf (targets : List Json) : List Workload :=
  (buildPlan (inputsOf targets) "reviewed-at-execution").workloads

/-- The plan of four sound groups: its document, and what the controller makes of it again under any run
id. -/
theorem Groups.planDocument (h : Groups targets) : ∃ rows,
    planDocument targets = .ok (documentOf (.str "reviewed-at-execution") rows) ∧
    namesOf rows = some expectedNames ∧ (∀ row ∈ rows, row.same row = true) ∧
    ∀ runId, ∃ rebuilt, rebuild (documentOf runId rows) = some rebuilt ∧ rebuilt.runId = runId ∧
      Deployment.validatePlan rebuilt = [] ∧ rebuilt.document = some (documentOf runId rows) := by
  have hclients : ∀ w ∈ workloadsOf targets, w.client ∈ clients := by
    intro w hw
    obtain ⟨p, hp, rfl⟩ := List.mem_map.mp hw
    exact (mem_matrix.mp hp).2
  obtain ⟨rows, hrows, hread, hnames, hsame⟩ := rows_read hclients
  have hexpected : (workloadsOf targets).map Workload.name = expectedNames := h.paired.names
  rw [hexpected] at hnames
  refine ⟨rows, ?_, hnames, hsame, fun runId => ?_⟩
  · rw [Deployment.planDocument, h.planInputs]
    have hvalid := h.validatePlan "reviewed-at-execution"
    have hdocument : (buildPlan (inputsOf targets) "reviewed-at-execution").document =
      some (documentOf (.str "reviewed-at-execution") rows) := document_of_valid hvalid hrows
    simp only [Except.bind_ok, found_ok, need_ok, Except.pure_ok]
    exact ⟨_, rfl, _, hdocument, (), hvalid, rfl⟩
  · have hvalid : Deployment.validatePlan
        { runId, workloads := (workloadsOf targets).map Workload.asLists } = [] := by
      refine validatePlan_eq_nil h.paired.asLists ?_ rfl rfl
      exact List.map_map
    exact ⟨_, rebuild_documentOf hread, rfl, hvalid, document_asLists hvalid hrows⟩

lemma namesOf_commands {commands : List Command} :
    namesOf (commands.map Command.json) = some (commands.map Command.name) := by
  rw [namesOf]
  induction commands with
  | nil => rfl
  | cons c commands ih => rw [List.map_cons, List.mapM_cons, ih]; rfl

/-- A command that is built is equal to itself as a value. -/
lemma same_command {artifacts : String → Path} {corpus : String → String} {c : Command}
    (hc : c ∈ commandsOf artifacts corpus targets) : c.json.same c.json = true := by
  obtain ⟨p, -, rfl⟩ := List.mem_map.mp hc
  refine Json.same_obj_self (by simp) ?_
  have henvironment : ((environmentOf artifacts p.2.1).map Prod.fst).Nodup := by
    unfold environmentOf
    split <;> simp
  have hobject : (Json.obj ((environmentOf artifacts p.2.1).map fun m => (m.1, .str m.2))).same
      (.obj ((environmentOf artifacts p.2.1).map fun m => (m.1, .str m.2))) = true := by
    refine Json.same_obj_self (by simpa [Function.comp_def] using henvironment) fun m hm => ?_
    obtain ⟨n, -, rfl⟩ := List.mem_map.mp hm
    exact same_str _
  simp only [List.forall_mem_cons, commandOf, same_str, same_bool, same_texts, hobject,
    List.not_mem_nil, false_implies, implies_true, and_true]

/-- What the builder makes of sound groups is admitted, under any run id that is equal to itself. -/
theorem checkAdmission_ok (h : Groups targets) (m : Manifest) (hm : m.targets = targets)
    (hcommands : m.commands = (commandsOf m.artifacts m.corpus targets).map Command.json)
    {document : Json} (hdocument : Deployment.planDocument targets = .ok document) {runId : Json}
    (hrun : runId.same runId = true) : checkAdmission m (withRunId runId document) = .ok () := by
  obtain ⟨rows, hplan, hnames, hsame, hrebuild⟩ := h.planDocument
  obtain rfl := Except.ok.inj (hplan.symm.trans hdocument)
  obtain ⟨rebuilt, hrebuilt, hrunId, hvalid, hdocument'⟩ := hrebuild runId
  have hself := same_documentOf hrun hsame
  rw [withRunId_documentOf]
  have hplanNames : (((documentOf runId rows).get? "workloads").bind listOf).bind namesOf =
      some expectedNames := hnames
  have hcommandNames : namesOf m.commands = some expectedNames := by
    rw [hcommands]
    exact namesOf_commands.trans (congrArg some commandsOf_names)
  have hcommandsSame : (Json.arr m.commands).same (.arr ((commandsOf m.artifacts m.corpus
      targets).map Command.json)) = true := by
    rw [hcommands]
    refine Json.same_arr_self fun x hx => ?_
    obtain ⟨c, hc, rfl⟩ := List.mem_map.mp hx
    exact same_command hc
  simp only [checkAdmission, Except.bind_ok, need_ok, found_ok, hm]
  refine ⟨(), by simp [hasKeys, planKeys, documentOf], (), ⟨rfl, rfl, rfl⟩, rebuilt, hrebuilt, (),
    hvalid, _, hdocument', (), hself, _, hcommandNames, _, hplanNames, (),
    ⟨fun _ hn => hn, fun _ hn => hn⟩, _, hdocument, (), ?_, _, h.commandMatrix, hcommandsSame⟩
  rw [hrunId, withRunId_documentOf]
  exact hself

/-- **The targets, the plan and the commands of a deployment agree.**  The plan of the targets that pass
is built, it has no problem, and the controller makes the same document of it again under any run id;
and the commands that are built for paths that are no placeholders pass, with the names of the plan, each
after the commands that it needs. -/
theorem targets_plan_commands {evidence : String} {staged : Option (List Json)} {value : Json}
    (h : checkTargets evidence staged value = .ok ()) : ∃ targets inputs document,
      value = .arr targets ∧ planInputs targets = .ok inputs ∧
      planDocument targets = .ok document ∧
      validatePlan (buildPlan inputs "reviewed-at-execution") = [] ∧
      (∀ runId, ∃ rebuilt, rebuild (withRunId runId document) = some rebuilt ∧
        validatePlan rebuilt = [] ∧ rebuilt.document = some (withRunId runId document) ∧
        (runId.same runId = true → (withRunId runId document).same (withRunId runId document) = true)) ∧
      ∀ artifacts corpus, Clear artifacts corpus → ∃ commands,
        commandMatrix artifacts corpus targets = .ok commands ∧ commands.length = 8 ∧
        checkCommands (.arr (commands.map Command.json)) = .ok () ∧
        commands.map Command.name =
          (buildPlan inputs "reviewed-at-execution").workloads.map Workload.name ∧
        Ordered (commands.map fun c => (c.vector, c.client, c.copy)) := by
  obtain ⟨targets, rfl, hgroups⟩ := checkTargets_ok h
  obtain ⟨rows, hplan, hnames, hsame, hrebuild⟩ := hgroups.planDocument
  refine ⟨targets, inputsOf targets, _, rfl, hgroups.planInputs, hplan,
    hgroups.validatePlan "reviewed-at-execution", fun runId => ?_, fun artifacts corpus hclear => ?_⟩
  · obtain ⟨rebuilt, hrebuilt, -, hvalid, hdocument⟩ := hrebuild runId
    exact ⟨rebuilt, hrebuilt, hvalid, hdocument, fun hrun => same_documentOf hrun hsame⟩
  · refine ⟨commandsOf artifacts corpus targets, hgroups.commandMatrix, ?_,
      checkCommands_commandsOf hclear hgroups, ?_, ?_⟩
    · rw [commandsOf, List.length_map]
      rfl
    · exact commandsOf_names.trans hgroups.paired.names.symm
    · rw [commandsOf_keys]
      exact ordered_matrix

/-- A group of these outputs. -/
def groupRow (evidence client vector : String) (selectors : List ℤ) : Json :=
  .obj [("client", .str client), ("vector", .str vector),
    ("selector_domain", .str (selectorDomain client)), ("selectors", .arr (selectors.map .int)),
    ("last_input", .int 7), ("output_count", .int 300),
    ("gst_pool_size", if client = "gst" then .int 9 else .null),
    ("gst_reserve", if client = "gst" then .int (slots vector) else .null),
    ("parameter_set_change_inputs", .arr [.int 8]), ("evidence_sha256", .str evidence)]

/-- A digest of the evidence. -/
def evidenceSha : String := "0123456789abcdef0123456789abcdef0123456789abcdef0123456789abcdef"

/-- Four groups that pass. -/
def fourGroups : List Json :=
  [groupRow evidenceSha "va" "B" [5], groupRow evidenceSha "va" "E" [0, 3, 7],
    groupRow evidenceSha "gst" "B" [5], groupRow evidenceSha "gst" "E" [0, 3, 7]]

/-- The artifacts of a stage whose oracle is at this path. -/
def stageOf (oracle : String) (name : String) : Path :=
  Path.parse (if name = "oracle_identity" then oracle else "/stage/tool")

lemma stageOf_notMem {oracle : String} (h : (Path.parse oracle).str ∉ placeholders) (name : String) :
    (stageOf oracle name).str ∉ placeholders := by
  unfold stageOf
  split
  · exact h
  · decide

/-- The targets, the plan and the commands of four groups, on a stage with clear paths. -/
theorem fourGroups_plan_commands : ∃ targets document commands, Json.arr fourGroups = .arr targets ∧
    planDocument targets = .ok document ∧
    commandMatrix (stageOf "/stage/oracle/identity.json") (fun _ => "/corpus") targets =
      .ok commands ∧ checkCommands (.arr (commands.map Command.json)) = .ok () := by
  obtain ⟨targets, inputs, document, htargets, -, hplan, -, -, hcommands⟩ :=
    targets_plan_commands (show checkTargets evidenceSha none (.arr fourGroups) = .ok () from rfl)
  obtain ⟨commands, hmatrix, -, hcheck, -⟩ := hcommands (stageOf "/stage/oracle/identity.json")
    (fun _ => "/corpus") ⟨stageOf_notMem (by decide), by decide, fun _ _ => by decide⟩
  exact ⟨targets, document, commands, htargets, hplan, hmatrix, hcheck⟩

/-- The commands are refused if the oracle is directly in a directory that is named as a placeholder, and
if a path of the corpus is empty; neither path is a placeholder itself. -/
theorem clear_paths_refused :
    checkTargets evidenceSha none (.arr fourGroups) = .ok () ∧
    ((∀ name, (stageOf "@OMARCHY_RUN_ROOT@/identity.json" name).str ∉ placeholders) ∧
      "/corpus" ∉ placeholders ∧
      ∃ commands, commandMatrix (stageOf "@OMARCHY_RUN_ROOT@/identity.json") (fun _ => "/corpus")
          fourGroups = .ok commands ∧
        checkCommands (.arr (commands.map Command.json)) =
          .error (.raise "commands[0] lacks fresh run placeholders")) ∧
    (∀ name, (stageOf "/stage/oracle/identity.json" name).str ∉ placeholders) ∧ "" ∉ placeholders ∧
      ∃ commands, commandMatrix (stageOf "/stage/oracle/identity.json") (fun _ => "") fourGroups =
          .ok commands ∧
        checkCommands (.arr (commands.map Command.json)) =
          .error (.raise "commands[0].argv is invalid") :=
  ⟨rfl, ⟨stageOf_notMem (by decide), by decide, _, rfl, rfl⟩, stageOf_notMem (by decide), by decide,
    _, rfl, rfl⟩

/-- **What the builder makes is admitted**, if the manifest is verified and the plan file is the one it
names.  If the validator accepts the targets of a manifest, and the manifest has the commands that the
builder makes of them, then the plan that the builder makes passes every check of the admission after
these two, under every run id that is equal to itself. -/
theorem builder_admitted {evidence : String} {staged : Option (List Json)} (m : Manifest)
    (h : checkTargets evidence staged (.arr m.targets) = .ok ())
    {commands : List Command} (hmatrix : commandMatrix m.artifacts m.corpus m.targets = .ok commands)
    (hcommands : m.commands = commands.map Command.json) :
    ∃ document, planDocument m.targets = .ok document ∧ ∀ runId : Json,
      runId.same runId = true → checkAdmission m (withRunId runId document) = .ok () := by
  obtain ⟨targets, htargets, hgroups⟩ := checkTargets_ok h
  obtain rfl := Json.arr.inj htargets
  obtain ⟨rows, hplan, -⟩ := hgroups.planDocument
  obtain rfl := Except.ok.inj (hmatrix.symm.trans hgroups.commandMatrix)
  exact ⟨_, hplan, fun runId hrun => checkAdmission_ok hgroups m rfl hcommands hplan hrun⟩

/-- The builder's plan of the four groups. -/
theorem fourGroups_admitted : ∃ m document, m.targets = fourGroups ∧
    checkAdmission m (withRunId (.str "run-1") document) = .ok () := by
  let artifacts := stageOf "/stage/oracle/identity.json"
  obtain ⟨targets, htargets, hgroups⟩ :=
    checkTargets_ok (show checkTargets evidenceSha none (.arr fourGroups) = .ok () from rfl)
  obtain rfl := Json.arr.inj htargets
  obtain ⟨document, -, hadmitted⟩ := builder_admitted
    ⟨fourGroups, artifacts, fun _ => "/corpus",
      (commandsOf artifacts (fun _ => "/corpus") fourGroups).map Command.json⟩ (show checkTargets evidenceSha none (.arr fourGroups) = .ok () from rfl)
    hgroups.commandMatrix rfl
  exact ⟨_, document, rfl, hadmitted (.str "run-1") (by decide)⟩

end OmarchyM1Video.Deployment
