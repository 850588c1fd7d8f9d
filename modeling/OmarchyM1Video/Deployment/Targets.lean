import OmarchyM1Video.Deployment.Plan
import OmarchyM1Video.Py.JsonEq
import OmarchyM1Video.ReferenceContent.Collectors

/-!
The targets of a deployment manifest: `deployment/manifest.py`, and the plan that
`deployment/build.py` makes of them.

* `checkTarget`, `checkTargets`: the section of the targets in `validate`;
* `Target`, `Target.read`: what the builder reads of a group;
* `planInputs`, `planDocument`: the plan;
* `Target.Sound`, `Groups`: what the section leaves of a list of targets;
* `checkTargets_ok`: a list that passes has the four groups, each of them sound.
-/

namespace OmarchyM1Video.Deployment

open OmarchyM1Video.Py
open OmarchyM1Video.ReferenceContent (IsHex hasKeys)

/-- What a step of the deployment computes; the text is that of its own error. -/
abbrev Check (α : Type) := Except (Exc String) α

/-! ### Values -/

/-- `type(value) is str`. -/
def textOf : Json → Option String
  | .str s => some s
  | _ => none

/-- `type(value) is int`. -/
def intOf : Json → Option ℤ
  | .int n => some n
  | _ => none

/-- An integer or `None`. -/
def optionOf : Json → Option (Option ℤ)
  | .null => some none
  | .int n => some (some n)
  | _ => none

/-- A list. -/
def listOf : Json → Option (List Json)
  | .arr xs => some xs
  | _ => none

/-- A list of integers. -/
def intsOf (value : Json) : Option (List ℤ) := (listOf value).bind (·.mapM intOf)

/-! ### The section of the targets -/

/-- `TARGET_KEYS`. -/
def targetKeys : List String :=
  ["client", "vector", "selector_domain", "selectors", "last_input", "output_count",
    "gst_pool_size", "gst_reserve", "parameter_set_change_inputs", "evidence_sha256"]

/-- `3 if vector == "E" else 1`. -/
def slots (vector : String) : ℕ := if vector = "E" then 3 else 1

/-- Distinct integers that are not negative. -/
def distinctOf (value : Json) : Option (List ℤ) :=
  (intsOf value).filter fun xs => xs.Nodup ∧ ∀ n ∈ xs, 0 ≤ n

/-- `gst_pool_size` and `gst_reserve` of a group of the Gst client. -/
def gstCapacity (wanted : ℕ) (row : Json) : Bool :=
  ((row.get? "gst_pool_size").bind intOf).any fun pool =>
    ((row.get? "gst_reserve").bind intOf).any fun reserve => reserve = (wanted : ℤ) ∧ reserve < pool

/-- `row[name] is None`. -/
def isNull (row : Json) (name : String) : Bool := (row.get? name).bind optionOf = some none

/-- The capacity of a group. -/
def checkCapacity (client vector : String) (row : Json) : Check Unit :=
  if client = "gst" then
    need (gstCapacity (slots vector) row = true)
      (.raise (client ++ "/" ++ vector ++ " capacity is invalid"))
  else
    need (isNull row "gst_pool_size" = true ∧ isNull row "gst_reserve" = true)
      (.raise (client ++ "/" ++ vector ++ " carries Gst capacity"))

/-- A group of the list, with the groups before it; the value is its client and vector. -/
def checkTarget (evidence : String) (seen : List (String × String)) (index : ℕ) (row : Json) :
    Check (String × String) := do
  need (hasKeys targetKeys row = true)
    (.raise ("targets[" ++ toString index ++ "] has unexpected fields"))
  let client ← found ((row.get? "client").bind textOf)
    (.raise "target client/vector set is invalid")
  let vector ← found ((row.get? "vector").bind textOf)
    (.raise "target client/vector set is invalid")
  need (client ∈ clients ∧ vector ∈ vectors ∧ (client, vector) ∉ seen)
    (.raise "target client/vector set is invalid")
  let at_ := client ++ "/" ++ vector
  let selectors ← found ((row.get? "selectors").bind distinctOf)
    (.raise (at_ ++ " selector shape is invalid"))
  need (selectors.length = slots vector) (.raise (at_ ++ " selector shape is invalid"))
  need ((row.get? "selector_domain").bind textOf = some (selectorDomain client))
    (.raise (at_ ++ " selector domain is invalid"))
  let last ← found ((row.get? "last_input").bind intOf) (.raise (at_ ++ " input window is invalid"))
  need (∀ n ∈ selectors, n ≤ last) (.raise (at_ ++ " input window is invalid"))
  let changes ← found ((row.get? "parameter_set_change_inputs").bind distinctOf)
    (.raise (at_ ++ " parameter-set changes are invalid"))
  need (∀ n ∈ changes, last < n) (.raise (at_ ++ " parameter-set change enters the armed window"))
  let count ← found ((row.get? "output_count").bind intOf)
    (.raise (at_ ++ " selector exceeds output count"))
  need (∀ n ∈ selectors, n < count) (.raise (at_ ++ " selector exceeds output count"))
  checkCapacity client vector row
  let sha ← found ((row.get? "evidence_sha256").bind textOf)
    (.raise (at_ ++ ".evidence_sha256 is not a SHA-256 digest"))
  need (IsHex 64 sha.toList) (.raise (at_ ++ ".evidence_sha256 is not a SHA-256 digest"))
  need (sha = evidence) (.raise (at_ ++ " target evidence is not the staged evidence"))
  return (client, vector)

/-- The loop over the groups. -/
def checkRows (evidence : String) : ℕ → List (String × String) → List Json →
    Check (List (String × String))
  | _, seen, [] => .ok seen
  | index, seen, row :: rows => do
      let key ← checkTarget evidence seen index row
      checkRows evidence (index + 1) (key :: seen) rows

/-- `by_target[(client, vector)]`: the last group of the client and the vector. -/
def byTarget (targets : List Json) (client vector : String) : Option Json :=
  targets.reverse.find? fun row =>
    (row.get? "client").bind textOf = some client ∧ (row.get? "vector").bind textOf = some vector

/-- `by_target[(client, vector)]["parameter_set_change_inputs"]`. -/
def changesAt (targets : List Json) (client vector : String) : Check Json :=
  found ((byTarget targets client vector).bind (·.get? "parameter_set_change_inputs"))
    (.builtin .keyError)

/-- `row | {"evidence_sha256": evidence}`. -/
def withEvidence (evidence : String) : Json → Json
  | .obj members => .obj (members.filter (fun m => m.1 ≠ "evidence_sha256") ++
      [("evidence_sha256", .str evidence)])
  | row => row

/-- The groups of the manifest. -/
def groupKeys : List (String × String) := clients.flatMap fun client => vectors.map (client, ·)

/-- The targets in `validate(document)`, by the digest of the staged evidence.  The rows of the
staged evidence are there if the files are checked too. -/
def checkTargets (evidence : String) (staged : Option (List Json)) (targets : Json) :
    Check Unit := do
  let rows ← found (listOf targets) (.raise "exactly four target groups are required")
  need (rows.length = 4) (.raise "exactly four target groups are required")
  let seen ← checkRows evidence 0 [] rows
  need ((∀ key ∈ seen, key ∈ groupKeys) ∧ ∀ key ∈ groupKeys, key ∈ seen)
    (.raise "target matrix is incomplete")
  vectors.forM fun vector => do
    let gst ← changesAt rows "gst" vector
    let va ← changesAt rows "va" vector
    need (gst.same va = true) (.raise (vector ++ " parameter-set evidence differs by client"))
  staged.forM fun expected =>
    need (targets.same (.arr (expected.map (withEvidence evidence))) = true)
      (.raise "targets differ from staged evidence contents")

/-! ### The plan of the targets -/

/-- What the builder reads of a group. -/
structure Target where
  client : String
  vector : String
  selectors : List ℤ
  lastInput : ℤ
  outputCount : ℤ
  gstPoolSize : Option ℤ
  changes : List ℤ

/-- A group as the builder reads it. -/
def Target.read (row : Json) : Option Target := do
  let client ← (row.get? "client").bind textOf
  let vector ← (row.get? "vector").bind textOf
  let selectors ← (row.get? "selectors").bind intsOf
  let lastInput ← (row.get? "last_input").bind intOf
  let outputCount ← (row.get? "output_count").bind intOf
  let gstPoolSize ← (row.get? "gst_pool_size").bind optionOf
  let changes ← (row.get? "parameter_set_change_inputs").bind intsOf
  return { client, vector, selectors, lastInput, outputCount, gstPoolSize, changes }

/-- `by_key[(client, vector)]`. -/
def pick (targets : List Json) (client vector : String) : Option Target :=
  (byTarget targets client vector).bind Target.read

/-- The arguments of `build_plan`. -/
def inputsOf (targets : List Json) : PlanInputs :=
  { gstPoolSizes := fun vector => (pick targets "gst" vector).bind (·.gstPoolSize)
    vaOutputCounts := fun vector => (pick targets "va" vector).map (·.outputCount)
    gstFrames := fun vector => (pick targets "gst" vector).map (·.selectors)
    vaOutputs := fun vector => (pick targets "va" vector).map (·.selectors)
    lastRequiredInputs := fun client vector => (pick targets client vector).map (·.lastInput)
    parameterSetChangeInputs := fun vector => (pick targets "gst" vector).map (·.changes) }

/-- The arguments, if the four groups are there; otherwise looking one up is a `KeyError`. -/
def planInputs (targets : List Json) : Check PlanInputs := do
  need (∀ key ∈ groupKeys, (pick targets key.1 key.2).isSome) (.builtin .keyError)
  return inputsOf targets

/-- `"; ".join(problems)`. -/
def joinedProblems (problems : List String) : String := "; ".intercalate problems

/-- `plan_document(targets)`. -/
def planDocument (targets : List Json) : Check Json := do
  let inputs ← planInputs targets
  let plan := buildPlan inputs "reviewed-at-execution"
  let document ← found plan.document (.raise "unknown client")
  need (validatePlan plan = [])
    (.raise ("target plan rejected: " ++ joinedProblems (validatePlan plan)))
  return document

/-! ### What the section leaves -/

/-- A group that passes. -/
structure Target.Sound (t : Target) : Prop where
  client : t.client ∈ clients
  vector : t.vector ∈ vectors
  length : t.selectors.length = slots t.vector
  nodup : t.selectors.Nodup
  nonneg : ∀ n ∈ t.selectors, 0 ≤ n
  last : ∀ n ∈ t.selectors, n ≤ t.lastInput
  changes : ∀ n ∈ t.changes, t.lastInput < n
  count : ∀ n ∈ t.selectors, n < t.outputCount
  gst : t.client = "gst" → ∃ pool, t.gstPoolSize = some pool ∧ slots t.vector < pool
  va : t.client ≠ "gst" → t.gstPoolSize = none

variable {evidence : String} {seen seen' : List (String × String)} {row : Json} {rows : List Json}

lemma distinctOf_some {value : Json} {xs : List ℤ} (h : distinctOf value = some xs) :
    intsOf value = some xs ∧ xs.Nodup ∧ ∀ n ∈ xs, 0 ≤ n := by
  rw [distinctOf, Option.filter_eq_some_iff, decide_eq_true_eq] at h
  exact h

lemma bind_distinctOf {value : Option Json} {xs : List ℤ} (h : value.bind distinctOf = some xs) :
    value.bind intsOf = some xs ∧ xs.Nodup ∧ ∀ n ∈ xs, 0 ≤ n := by
  obtain ⟨v, rfl, hv⟩ := Option.bind_eq_some_iff.mp h
  exact distinctOf_some hv

/-- The capacity of a group that passes, as the builder reads it. -/
lemma pool_of_gstCapacity {wanted : ℕ} (h : gstCapacity wanted row = true) :
    ∃ pool : ℤ, (row.get? "gst_pool_size").bind optionOf = some (some pool) ∧ wanted < pool := by
  rw [gstCapacity, Option.any_eq_true] at h
  obtain ⟨pool, hpool, h⟩ := h
  rw [Option.any_eq_true] at h
  obtain ⟨reserve, -, h⟩ := h
  obtain ⟨rfl, hlt⟩ := of_decide_eq_true h
  obtain ⟨v, hv, hint⟩ := Option.bind_eq_some_iff.mp hpool
  refine ⟨pool, ?_, hlt⟩
  cases v with
  | int n =>
      obtain rfl : n = pool := by simpa [intOf] using hint
      rw [hv]
      rfl
  | _ => exact absurd hint (by simp [intOf])

/-- A group that passes is read by the builder, and it is sound. -/
theorem checkTarget_ok {index : ℕ} {key : String × String}
    (h : checkTarget evidence seen index row = .ok key) :
    ∃ t, Target.read row = some t ∧ t.Sound ∧ key = (t.client, t.vector) ∧ key ∉ seen := by
  simp only [checkTarget, Except.bind_ok, need_ok, found_ok, Except.pure_ok] at h
  obtain ⟨-, -, client, hclient, vector, hvector, -, ⟨hc, hv, hfresh⟩, selectors, hselectors, -,
    hlength, -, -, last, hlast, -, hwindow, changes, hchanges, -, hafter, count, hcount, -, hbound,
    _, hcapacity, -, -, -, -, -, -, rfl⟩ := h
  obtain ⟨hselectors, hnodup, hnonneg⟩ := bind_distinctOf hselectors
  obtain ⟨hchanges, -, -⟩ := bind_distinctOf hchanges
  have hpool : ∃ pool, (row.get? "gst_pool_size").bind optionOf = some pool ∧
      (client = "gst" → ∃ n, pool = some n ∧ slots vector < n) ∧
      (client ≠ "gst" → pool = none) := by
    unfold checkCapacity at hcapacity
    by_cases hgst : client = "gst"
    · rw [if_pos hgst, need_ok] at hcapacity
      obtain ⟨n, hn, hlt⟩ := pool_of_gstCapacity hcapacity
      exact ⟨some n, hn, fun _ => ⟨n, rfl, hlt⟩, fun hne => absurd hgst hne⟩
    · rw [if_neg hgst, need_ok] at hcapacity
      exact ⟨none, of_decide_eq_true hcapacity.1, fun h => absurd h hgst, fun _ => rfl⟩
  obtain ⟨pool, hpool, hgst, hva⟩ := hpool
  refine ⟨⟨client, vector, selectors, last, count, pool, changes⟩, ?_,
    ⟨hc, hv, hlength, hnodup, hnonneg, hwindow, hafter, hbound, hgst, hva⟩, rfl, hfresh⟩
  simp only [Target.read, hclient, hvector, hselectors, hlast, hcount, hpool, hchanges,
    Option.bind_eq_bind, Option.bind_some, Option.pure_def]

/-- The rows of a loop that passes are sound, and what it has seen is what they are. -/
theorem checkRows_ok {index : ℕ} (h : checkRows evidence index seen rows = .ok seen') :
    (∀ row ∈ rows, ∃ t, Target.read row = some t ∧ t.Sound) ∧
      ∀ key ∈ seen', key ∈ seen ∨
        ∃ row ∈ rows, ∃ t, Target.read row = some t ∧ key = (t.client, t.vector) := by
  induction rows generalizing index seen with
  | nil =>
      obtain rfl : seen = seen' := by simpa [checkRows] using h
      exact ⟨by simp, fun key hkey => .inl hkey⟩
  | cons row rows ih =>
      rw [checkRows, Except.bind_ok] at h
      obtain ⟨key, hkey, h⟩ := h
      obtain ⟨t, hread, hsound, rfl, -⟩ := checkTarget_ok hkey
      obtain ⟨hrows, hseen⟩ := ih h
      refine ⟨fun row' hrow' => ?_, fun key' hkey' => ?_⟩
      · rcases List.mem_cons.mp hrow' with rfl | hrow'
        · exact ⟨t, hread, hsound⟩
        · exact hrows row' hrow'
      · rcases hseen key' hkey' with hold | ⟨row', hrow', hkey'⟩
        · rcases List.mem_cons.mp hold with rfl | hold
          · exact .inr ⟨row, List.mem_cons_self, t, hread, rfl⟩
          · exact .inl hold
        · exact .inr ⟨row', List.mem_cons_of_mem row hrow', hkey'⟩

/-- The four groups of a list: each of them is there and sound, and the two clients of a vector
change their parameter sets at the same inputs. -/
structure Groups (targets : List Json) : Prop where
  sound : ∀ client ∈ clients, ∀ vector ∈ vectors, ∃ t, pick targets client vector = some t ∧
    t.Sound ∧ t.client = client ∧ t.vector = vector
  changes : ∀ vector ∈ vectors, ∀ gst va, pick targets "gst" vector = some gst →
    pick targets "va" vector = some va → gst.changes = va.changes

lemma mem_groupKeys {client vector : String} :
    (client, vector) ∈ groupKeys ↔ client ∈ clients ∧ vector ∈ vectors := by
  simp [groupKeys]

/-- The client and the vector of a group, as it is read. -/
lemma Target.read_key {t : Target} (h : Target.read row = some t) :
    (row.get? "client").bind textOf = some t.client ∧
      (row.get? "vector").bind textOf = some t.vector ∧
        (row.get? "parameter_set_change_inputs").bind intsOf = some t.changes := by
  simp only [Target.read, Option.bind_eq_bind, Option.pure_def, Option.bind_eq_some_iff] at h
  obtain ⟨client, hclient, vector, hvector, _, -, _, -, _, -, _, -, changes, hchanges, h⟩ := h
  obtain rfl := Option.some.inj h
  exact ⟨Option.bind_eq_some_iff.mpr hclient, Option.bind_eq_some_iff.mpr hvector,
    Option.bind_eq_some_iff.mpr hchanges⟩

/-- A group that is in the list is found. -/
lemma pick_of_mem (hrows : ∀ row ∈ rows, ∃ t, Target.read row = some t ∧ t.Sound)
    (hrow : row ∈ rows) {t : Target} (ht : Target.read row = some t) :
    ∃ t', pick rows t.client t.vector = some t' ∧ t'.Sound ∧
      t'.client = t.client ∧ t'.vector = t.vector := by
  obtain ⟨hclient, hvector, -⟩ := Target.read_key ht
  cases hfind : byTarget rows t.client t.vector with
  | none =>
      exact absurd (List.find?_eq_none.mp hfind row (List.mem_reverse.mpr hrow))
        (by simp [hclient, hvector])
  | some row' =>
      rw [byTarget] at hfind
      have hkeys := List.find?_some hfind
      rw [decide_eq_true_eq] at hkeys
      obtain ⟨t', ht', hsound⟩ := hrows row' (List.mem_reverse.mp (List.mem_of_find?_eq_some hfind))
      obtain ⟨hclient', hvector', -⟩ := Target.read_key ht'
      refine ⟨t', by rw [pick, byTarget, hfind, Option.bind_some, ht'], hsound, ?_, ?_⟩
      · exact Option.some.inj (hclient'.symm.trans hkeys.1)
      · exact Option.some.inj (hvector'.symm.trans hkeys.2)

/-- Integers that are equal as values are equal. -/
lemma mapM_intOf_same {vs ws : List Json} {xs ys : List ℤ} (h : Json.sameElements vs ws = true)
    (hx : vs.mapM intOf = some xs) (hy : ws.mapM intOf = some ys) : xs = ys := by
  induction vs generalizing ws xs ys with
  | nil =>
      cases ws with
      | nil =>
          obtain rfl : [] = xs := by simpa using hx
          simpa using hy
      | cons w ws => exact absurd h (by simp [Json.sameElements])
  | cons v vs ih =>
      cases ws with
      | nil => exact absurd h (by simp [Json.sameElements])
      | cons w ws =>
          rw [Json.sameElements, Bool.and_eq_true] at h
          simp only [List.mapM_cons, Option.bind_eq_bind, Option.pure_def,
            Option.bind_eq_some_iff, Option.some.injEq] at hx hy
          obtain ⟨n, hn, ns, hns, rfl⟩ := hx
          obtain ⟨m, hm, ms, hms, rfl⟩ := hy
          rw [ih h.2 hns hms]
          cases v with
          | int a =>
              obtain rfl : a = n := by simpa [intOf] using hn
              have hw := Json.same_eqInt h.1 a
              cases w with
              | int b =>
                  obtain rfl : b = m := by simpa [intOf] using hm
                  have hab : b = a := by simpa [Json.eqInt] using hw
                  rw [hab]
              | _ => exact absurd hm (by simp [intOf])
          | _ => exact absurd hn (by simp [intOf])

/-- Two lists of integers that are equal as values are equal. -/
lemma intsOf_same {x y : Json} {xs ys : List ℤ} (h : x.same y = true) (hx : intsOf x = some xs)
    (hy : intsOf y = some ys) : xs = ys := by
  cases x with
  | arr vs =>
      cases y with
      | arr ws => exact mapM_intOf_same (by simpa [Json.same] using h) hx hy
      | _ => exact absurd hy (by simp [intsOf, listOf])
  | _ => exact absurd hx (by simp [intsOf, listOf])

/-- The changes of a group, as they are in its row. -/
lemma changes_of_pick {client vector : String} {t : Target} {x : Json}
    (ht : pick rows client vector = some t)
    (hx : (byTarget rows client vector).bind (·.get? "parameter_set_change_inputs") = some x) :
    intsOf x = some t.changes := by
  obtain ⟨row, hrow, hread⟩ := Option.bind_eq_some_iff.mp ht
  rw [hrow, Option.bind_some] at hx
  have hchanges := (Target.read_key hread).2.2
  rwa [hx, Option.bind_some] at hchanges

/-- The targets that pass are the four groups. -/
theorem checkTargets_ok {staged : Option (List Json)} {targets : Json}
    (h : checkTargets evidence staged targets = .ok ()) :
    ∃ rows, targets = .arr rows ∧ Groups rows := by
  simp only [checkTargets, Except.bind_ok, need_ok, found_ok] at h
  obtain ⟨rows, hrows, -, -, seen, hseen, -, ⟨-, hall⟩, _, hchanges, -⟩ := h
  obtain ⟨hsound, hkeys⟩ := checkRows_ok hseen
  obtain rfl : targets = .arr rows := by
    cases targets with
    | arr xs => exact congrArg Json.arr (Option.some.inj hrows)
    | _ => exact absurd hrows (by simp [listOf])
  refine ⟨rows, rfl, ⟨fun client hclient vector hvector => ?_,
    fun vector hvector gst va hgst hva => ?_⟩⟩
  · rcases hkeys _ (hall _ (mem_groupKeys.mpr ⟨hclient, hvector⟩)) with
      hnone | ⟨row, hrow, t, ht, hkey⟩
    · exact absurd hnone (by simp)
    · obtain ⟨rfl, rfl⟩ := Prod.mk.inj hkey
      exact pick_of_mem hsound hrow ht
  · have hsame := forM_ok.mp hchanges vector hvector
    simp only [Except.bind_ok, changesAt, found_ok, need_ok] at hsame
    obtain ⟨x, hx, y, hy, hxy⟩ := hsame
    exact intsOf_same hxy (changes_of_pick hgst hx) (changes_of_pick hva hy)

end OmarchyM1Video.Deployment
