import OmarchyM1Video.Deployment.Targets

/-!
The plan that is built of four sound groups has no problem.

* `Workload.Sound`: a workload without a problem of its own, `workloadProblems_eq_nil`;
* `Paired`: eight sound workloads whose two modes differ in nothing but the copy;
* `validatePlan_eq_nil`: a plan of eight such workloads has no problem;
* `Groups.paired`: the workloads of four sound groups are such workloads.
-/

namespace OmarchyM1Video.Deployment

open OmarchyM1Video.Py

lemma say_eq_nil {c : Prop} [Decidable c] {text : String} (h : ¬c) : say c text = [] := if_neg h

/-! ### A workload -/

/-- A workload without a problem of its own. -/
structure Workload.Sound (w : Workload) : Prop where
  client : w.client ∈ clients
  domain : w.selectorDomain = Deployment.selectorDomain w.client
  length : w.selectors.items.length = slots w.vector
  nodup : w.selectors.items.Nodup
  nonneg : ∀ n ∈ w.selectors.items, 0 ≤ n
  arm : w.armInputIndex = 0
  last : 0 ≤ w.lastRequiredInputIndex
  changes : ∀ n ∈ w.parameterSetChangeInputs.items, w.lastRequiredInputIndex < n
  gst : w.client = "gst" → w.vaOutputCount = none ∧
    ∃ pool, w.gstPoolSize = some pool ∧ slots w.vector < pool
  va : w.client = "va" → w.gstPoolSize = none ∧
    ∃ count, w.vaOutputCount = some count ∧ ∀ n ∈ w.selectors.items, n < count

variable {w : Workload}

lemma slots_pos (vector : String) : 0 < slots vector := by
  unfold slots
  split <;> omega

lemma slots_le (vector : String) : slots vector ≤ 8 := by
  unfold slots
  split <;> omega

/-- A vector selects at least one output. -/
lemma ne_nil_of_length {vector : String} {selectors : List ℤ} (h : selectors.length = slots vector) :
    selectors ≠ [] :=
  List.ne_nil_of_length_pos (h ▸ slots_pos vector)

/-- The count of a VA workload is positive, since it is above an ordinal. -/
lemma Workload.Sound.count_pos (h : w.Sound) {count : ℤ}
    (hcount : ∀ n ∈ w.selectors.items, n < count) : 0 < count := by
  obtain ⟨n, hn⟩ := List.exists_mem_of_ne_nil _ (ne_nil_of_length h.length)
  have hn₀ := h.nonneg n hn
  have hn₁ := hcount n hn
  omega

lemma capacityProblems_eq_nil (h : w.Sound) : capacityProblems w = [] := by
  unfold capacityProblems
  rcases List.mem_pair.mp h.client with hva | hgst
  · obtain ⟨hpool, count, hcount, hbound⟩ := h.va hva
    have hpos := h.count_pos hbound
    have hlate : w.selectors.items.filter (count ≤ ·) = [] := by
      refine List.filter_eq_nil_iff.mpr fun n hn => ?_
      have := hbound n hn
      simp only [decide_eq_true_eq]
      omega
    simp only [hva, hpool, hcount, hlate, String.reduceEq, if_false, if_true, ne_eq, not_true]
    rw [say_eq_nil (by simp), if_neg (by omega), say_eq_nil (by simp)]
    rfl
  · obtain ⟨hcount, pool, hpool, hlt⟩ := h.gst hgst
    have hlength := h.length
    simp only [hgst, hpool, hcount, if_true, ne_eq]
    rw [say_eq_nil (by simp), if_neg (by omega), say_eq_nil (by omega)]
    rfl

lemma windowProblems_eq_nil (h : w.Sound) : windowProblems w = [] := by
  have harm := h.arm
  have hlast := h.last
  have hnegative : w.parameterSetChangeInputs.items.filter (· < 0) = [] := by
    refine List.filter_eq_nil_iff.mpr fun n hn => ?_
    have := h.changes n hn
    simp only [decide_eq_true_eq]
    omega
  have hinside : w.parameterSetChangeInputs.items.filter
      (fun n => w.armInputIndex ≤ n ∧ n ≤ w.lastRequiredInputIndex) = [] := by
    refine List.filter_eq_nil_iff.mpr fun n hn => ?_
    have := h.changes n hn
    simp only [decide_eq_true_eq]
    omega
  simp only [windowProblems, hnegative, hinside]
  rw [say_eq_nil (by omega), say_eq_nil (by omega), say_eq_nil (by simp), say_eq_nil (by simp)]
  rfl

lemma workloadProblems_eq_nil (h : w.Sound) : workloadProblems w = [] := by
  have hlength := h.length
  have hpos := slots_pos w.vector
  have hle := slots_le w.vector
  have hnegative : ¬∃ n ∈ w.selectors.items, n < 0 := by
    rintro ⟨n, hn, hneg⟩
    exact absurd (h.nonneg n hn) (by omega)
  simp only [workloadProblems]
  rw [say_eq_nil (by simp [h.domain]), if_neg (ne_nil_of_length h.length), say_eq_nil (by omega),
    say_eq_nil (by simp [h.nodup]), say_eq_nil hnegative, capacityProblems_eq_nil h,
    windowProblems_eq_nil h]
  rfl

/-! ### Eight workloads -/

/-- Eight sound workloads, by their vector, client and mode; the two modes of a vector and a client
differ in nothing but the copy. -/
structure Paired (f : String × String × Bool → Workload) : Prop where
  vector : ∀ p, (f p).vector = p.1
  client : ∀ p, (f p).client = p.2.1
  copy : ∀ p, (f p).copy = p.2.2
  sound : ∀ p ∈ matrix, (f p).Sound
  pair : ∀ vector client, f (vector, client, true) = { f (vector, client, false) with copy := true }

variable {f : String × String × Bool → Workload} {plan : Plan}

lemma Paired.names (h : Paired f) : (matrix.map f).map Workload.name = expectedNames := by
  rw [expectedNames, List.map_map]
  refine List.map_congr_left fun p _ => ?_
  rw [Function.comp_apply, Workload.name, h.vector, h.client, h.copy]

lemma Paired.workloadOf (h : Paired f) (hplan : plan.workloads = matrix.map f)
    {client vector : String} {copy : Bool} (hw : workloadOf plan client vector copy = some w) :
    w = f (vector, client, copy) ∧ (vector, client, copy) ∈ matrix := by
  rw [Deployment.workloadOf, hplan] at hw
  have hkeys := List.find?_some hw
  rw [decide_eq_true_eq] at hkeys
  obtain ⟨p, hp, rfl⟩ := List.mem_map.mp (List.mem_reverse.mp (List.mem_of_find?_eq_some hw))
  obtain ⟨hclient, hvector, hcopy⟩ := hkeys
  rw [h.client] at hclient
  rw [h.vector] at hvector
  rw [h.copy] at hcopy
  obtain rfl : p = (vector, client, copy) := Prod.ext hvector (Prod.ext hclient hcopy)
  exact ⟨rfl, hp⟩

lemma Paired.pairProblems_eq_nil (h : Paired f) (hplan : plan.workloads = matrix.map f)
    (client vector : String) : pairProblems plan client vector (slots vector) = [] := by
  unfold pairProblems
  split
  · next off on hoff hon =>
      obtain ⟨rfl, -⟩ := h.workloadOf hplan hoff
      obtain ⟨rfl, hmem⟩ := h.workloadOf hplan hon
      have hlength := (h.sound _ hmem).length
      rw [h.vector] at hlength
      rw [h.pair] at hlength
      simp only [h.pair]
      rw [say_eq_nil (by simp), say_eq_nil (by simp), say_eq_nil (by simp), say_eq_nil (by simp),
        say_eq_nil (by simpa using hlength)]
      rfl
  · rfl

lemma Paired.copiedTargets (h : Paired f) (hplan : plan.workloads = matrix.map f) :
    copiedTargets plan = 8 := by
  have hcopies : (plan.workloads.filter (·.copy)).map (fun w => w.selectors.items.length) =
      (matrix.filter (·.2.2)).map fun p => slots p.1 := by
    rw [hplan, List.filter_map, List.map_map]
    have hfilter : ((·.copy) ∘ f : String × String × Bool → Bool) = (·.2.2) := funext h.copy
    rw [hfilter]
    refine List.map_congr_left fun p hp => ?_
    rw [Function.comp_apply, (h.sound p (List.mem_of_mem_filter hp)).length, h.vector]
  rw [Deployment.copiedTargets, hcopies]
  decide

/-- A plan of eight such workloads has no problem. -/
theorem validatePlan_eq_nil (h : Paired f) (hplan : plan.workloads = matrix.map f)
    (hgst : plan.gst = {}) (hva : plan.va = {}) : validatePlan plan = [] := by
  have hnames : nameProblems (plan.workloads.map Workload.name) = [] := by
    rw [hplan, h.names, nameProblems, say_eq_nil (by simp), say_eq_nil (by decide)]
    rfl
  have hworkloads : plan.workloads.flatMap workloadProblems = [] := by
    rw [hplan, List.flatMap_eq_nil_iff]
    intro w hw
    obtain ⟨p, hp, rfl⟩ := List.mem_map.mp hw
    exact workloadProblems_eq_nil (h.sound p hp)
  have hpairs : (clients.flatMap fun client => slotsPerClient.flatMap fun p =>
      pairProblems plan client p.1 p.2) = [] := by
    rw [List.flatMap_eq_nil_iff]
    intro client _
    simp only [slotsPerClient, List.flatMap_cons, List.flatMap_nil, List.append_nil]
    rw [show (3 : ℕ) = slots "E" by decide, show (1 : ℕ) = slots "B" by decide,
      h.pairProblems_eq_nil hplan, h.pairProblems_eq_nil hplan]
    rfl
  rw [validatePlan, hnames, hgst, hva, hworkloads, hpairs, h.copiedTargets hplan]
  decide

/-! ### The workloads of four groups -/

/-- A workload whose sequences are lists, as it is read from JSON. -/
def Workload.asLists (w : Workload) : Workload :=
  { w with
    selectors := .list w.selectors.items
    parameterSetChangeInputs := .list w.parameterSetChangeInputs.items }

lemma Workload.Sound.asLists (h : w.Sound) : w.asLists.Sound :=
  ⟨h.client, h.domain, h.length, h.nodup, h.nonneg, h.arm, h.last, h.changes, h.gst, h.va⟩

lemma Paired.asLists (h : Paired f) : Paired fun p => (f p).asLists :=
  ⟨h.vector, h.client, h.copy, fun p hp => (h.sound p hp).asLists,
    fun vector client => by rw [h.pair]; rfl⟩

variable {rows : List Json}

lemma mem_matrix {p : String × String × Bool} :
    p ∈ matrix ↔ p.1 ∈ vectors ∧ p.2.1 ∈ clients := by
  obtain ⟨vector, client, copy⟩ := p
  cases copy <;> simp [matrix, modes]

lemma Groups.picked (h : Groups rows) : ∀ key ∈ groupKeys, (pick rows key.1 key.2).isSome := by
  intro key hkey
  obtain ⟨client, vector⟩ := key
  obtain ⟨hclient, hvector⟩ := mem_groupKeys.mp hkey
  obtain ⟨t, ht, -⟩ := h.sound client hclient vector hvector
  rw [ht]
  rfl

/-- Four groups are enough for the arguments of the plan. -/
lemma Groups.planInputs (h : Groups rows) : planInputs rows = .ok (inputsOf rows) := by
  rw [Deployment.planInputs, Except.bind_ok]
  exact ⟨(), need_ok.mpr h.picked, rfl⟩

lemma Target.Sound.lastInput_nonneg {t : Target} (h : t.Sound) : 0 ≤ t.lastInput := by
  obtain ⟨n, hn⟩ := List.exists_mem_of_ne_nil _ (ne_nil_of_length h.length)
  have hn₀ := h.nonneg n hn
  have hn₁ := h.last n hn
  omega

/-- The workload of a sound group is sound. -/
lemma Groups.sound_buildWorkload (h : Groups rows) {vector client : String}
    (hvector : vector ∈ vectors) (hclient : client ∈ clients) (copy : Bool) :
    (buildWorkload (inputsOf rows) vector client copy).Sound := by
  obtain ⟨gst, hgst, hgsound, hgclient, rfl⟩ := h.sound "gst" (by decide) vector hvector
  obtain ⟨va, hva, hvsound, hvclient, hvvector⟩ := h.sound "va" (by decide) gst.vector hvector
  have hchanges := h.changes gst.vector hvector gst va hgst hva
  rcases List.mem_pair.mp hclient with rfl | rfl
  · -- the VA row takes the changes of the Gst row, which are its own
    refine ⟨hclient, rfl, ?_, ?_, ?_, rfl, ?_, ?_, ?_, ?_⟩ <;>
      simp only [buildWorkload, inputsOf, hva, hgst, hchanges, Seq.items, String.reduceEq, if_false,
        if_true, Option.map_some, Option.getD_some]
    · exact hvsound.length.trans (congrArg slots hvvector)
    · exact hvsound.nodup
    · exact hvsound.nonneg
    · exact hvsound.lastInput_nonneg
    · exact hvsound.changes
    · exact fun hne => hne.elim
    · exact fun _ => ⟨trivial, va.outputCount, rfl, hvsound.count⟩
  · refine ⟨hclient, rfl, ?_, ?_, ?_, rfl, ?_, ?_, ?_, ?_⟩ <;>
      simp only [buildWorkload, inputsOf, hgst, Seq.items, String.reduceEq, if_false, if_true,
        Option.map_some, Option.getD_some, Option.bind_some]
    · exact hgsound.length
    · exact hgsound.nodup
    · exact hgsound.nonneg
    · exact hgsound.lastInput_nonneg
    · exact hgsound.changes
    · exact fun _ => ⟨trivial, hgsound.gst hgclient⟩
    · exact fun hne => hne.elim

/-- The workloads of four sound groups. -/
theorem Groups.paired (h : Groups rows) :
    Paired fun p => buildWorkload (inputsOf rows) p.1 p.2.1 p.2.2 :=
  ⟨fun _ => rfl, fun _ => rfl, fun _ => rfl,
    fun p hp => h.sound_buildWorkload (mem_matrix.mp hp).1 (mem_matrix.mp hp).2 p.2.2,
    fun _ _ => rfl⟩

/-- The plan of four sound groups has no problem. -/
theorem Groups.validatePlan (h : Groups rows) (runId : String) :
    validatePlan (buildPlan (inputsOf rows) runId) = [] :=
  validatePlan_eq_nil h.paired rfl rfl rfl

end OmarchyM1Video.Deployment
