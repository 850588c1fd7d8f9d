import Mathlib.Data.List.Nodup
import OmarchyM1Video.Campaigns.Order

/-!
The runs of the two campaigns.

* `Tried`: a run after a `try` statement, with the failure that the statement has left;
* `Qualify.run_finished`, `Live.run_finished`: a run that ends has accepted every workload and loaded
  the original again, and any other is `Halted`;
* `Orderly`: what holds of a run at its end;
* `runsOn`: runs one after another on one root;
* `campaigns_orderly`: every run is orderly, and one run at most of those on one root runs a command.
-/

namespace OmarchyM1Video.Campaigns

open OmarchyM1Video.Py

variable {ℓ : Type} {φ : Option (List ℓ)} {acc : List ℓ} {r : Run ℓ} {X : Run ℓ → Prop}
  {F : String → Run ℓ → Prop}

/-- What a step keeps that does not move the module. -/
def Lasting (X : Run ℓ → Prop) : Prop := ∀ r s, s.moves = false → X r → X (r.add s)

lemma Lasting.stable (h : Lasting X) : Stable X := fun r s hs => h r s (moves_of_plain hs)

lemma lasting_reloaded {checks : List (Step ℓ)} : Lasting (Reloaded checks) := fun _ _ hs h => h.add hs

lemma restoredLater : Lasting fun r : Run ℓ => r.restored = true → Reloaded originalChecks r :=
  fun _ _ hs h hrestored => (h hrestored).add hs

lemma plainly (hX : Lasting X) {α : Type} {x : M ℓ α} (hx : Adds (fun s => s.plain = true) x) :
    Triple (fun r => Going φ r ∧ X r) x (fun _ r => Going φ r ∧ X r) fun _ => Going none :=
  hx.triple (stable_going.and hX.stable) fun _ e h => h.1.raised e

/-! ### The failure of a run -/

/-- A run after a `try` statement: it goes on with `X` if there is no failure. -/
def Tried (acc : List ℓ) (X : Run ℓ → Prop) (failure : Option String) (r : Run ℓ) : Prop :=
  match failure with
  | none => Going (some acc) r ∧ X r
  | some _ => Going none r

section Tried

variable {Y : Run ℓ → Prop} {failure : Option String} {x : M ℓ Unit} {event : String → Event ℓ}
  {m : Machine ℓ} {t : Texts}

/-- `except Exception` leaves a failure, and the run is recorded to have one. -/
lemma triple_caught {P : Run ℓ → Prop} (hevent : ∀ e, (Step.event (event e)).accepted? = none)
    (hallowed : ∀ e (r : Run ℓ), Allowed r.steps (.event (event e)) [])
    (hx : Triple P x (fun _ => Tried acc X failure) fun _ => Going none) :
    Triple P (caught x event failure) (fun f => Tried acc X f) F := by
  refine Triple.tryExcept (Triple.bind hx fun _ => Triple.pure fun _ => id) ?_ fun e _ => ?_
  · exact fun _ _ h => absurd h (by simp)
  · refine Triple.bind (Q := fun _ => Going none) (Triple.modify fun r h => ?_) fun _ =>
      Triple.pure fun r h => ?_
    · exact h.add (hallowed e r) (by simp) (by simp) (hevent e)
    · cases failure <;> exact h

/-- The restoration in a `finally` clause. -/
lemma restore_tried {changed : Bool} :
    Triple (Tried acc (fun r => r.restored = false) failure)
      (caughtIf changed (restoreWith m t) .restoreIncomplete failure)
      (fun f => Tried acc (fun r => r.restored = true → Reloaded originalChecks r) f) F := by
  refine Triple.ite (fun _ => ?_) fun _ => ?_
  · refine triple_caught (fun _ => rfl) (fun _ _ => trivial) ?_
    cases failure with
    | none => exact (restore_going.pre fun _ h => h.1).post fun _ _ h => ⟨h.1, fun _ => h.2.1⟩
    | some e => exact restore_going.post fun _ _ h => h.1
  · refine Triple.pure fun r h => ?_
    cases failure with
    | none => exact ⟨h.1, fun hrestored => absurd h.2 (by simp [hrestored])⟩
    | some e => exact h

lemma triple_record {e : Event ℓ} (hplain : (Step.event e).plain = true) (hX : Stable X) :
    Triple (Tried acc X failure) (record e) (fun _ => Tried acc X failure) F := by
  refine Triple.modify fun r h => ?_
  cases failure with
  | none => exact ⟨stable_going r _ hplain h.1, hX r _ hplain h.2⟩
  | some e => exact stable_going r _ hplain h

lemma triple_reraise : Triple (Tried acc X failure) (reraise failure)
    (fun _ r => Going (some acc) r ∧ X r) fun _ => Going none := by
  cases failure with
  | none => exact Triple.pure fun _ => id
  | some e => exact Triple.throw fun _ => id

end Tried

/-- A run that has completed. -/
structure Finished (labels : List ℓ) (r : Run ℓ) : Prop where
  allowed : Always Allowed r.steps
  marked : r.attempted = true
  clean : ∀ e, .raised e ∉ r.steps
  accepted : accepted r.steps = labels
  reloaded : Reloaded originalChecks r

lemma Going.finished (h : Going (some acc) r) (hreloaded : Reloaded originalChecks r) :
    Finished acc (r.add .completed) where
  allowed := allowed_add h.allowed trivial
  marked := h.marked
  clean e hmem := by
    rcases List.mem_append.mp hmem with hmem | hmem
    · exact (h.clean acc rfl).1 e hmem
    · exact absurd (List.mem_singleton.mp hmem) (by simp)
  accepted := by
    have haccepted := (h.clean acc rfl).2
    rw [Campaigns.accepted] at haccepted
    rw [Campaigns.accepted, Run.add, List.filterMap_append, haccepted]
    exact List.append_nil acc
  reloaded := hreloaded.add rfl

/-- A computation after the marker, for a root that had none. -/
lemma triple_unmarked {a : Bool} {x : M ℓ Unit} {P Q : Run ℓ → Prop}
    (hx : Triple P x (fun _ => Q) fun _ => Going none) :
    Triple (fun r => P r ∧ a = false) x (fun _ r => Q r ∧ a = false) fun _ => Halted a := by
  cases a with
  | true => exact fun _ h => absurd h.2 (by simp)
  | false => exact hx.conseq (fun _ h => h.1) (fun _ _ h => ⟨h, rfl⟩) fun _ _ h => h.halted

/-! ### The allocation qualification -/

namespace Qualify

variable {X : Run Label → Prop} {acc : List Label} {F : String → Run Label → Prop} {m : Machine}
  {c : Config}

/-- The jobs of a stage. -/
def stageLabels (c : Config) (name : String) : List Label := c.jobs.map fun job => (name, job.name)

/-- The jobs of the three stages. -/
def labels (c : Config) : List Label :=
  stageLabels c "baseline" ++ stageLabels c "candidate" ++ stageLabels c "restored"

lemma execute_going (hX : Lasting X) {stage : String} {job : Job} :
    Triple (fun r => Going (some acc) r ∧ X r) (execute m stage job)
      (fun _ r => Going (some (acc ++ [(stage, job.name)])) r ∧ X r) fun _ => Going none := by
  refine Triple.bind (plainly hX .ask) fun _ => ?_
  refine Triple.bind (Q := fun _ r => Going (some acc) r ∧ X r)
    (Triple.modify fun r h => ⟨h.1.started _, hX r _ rfl h.2⟩) fun _ => ?_
  refine Triple.bind (plainly hX .ask) fun code => ?_
  refine Triple.bind (plainly hX (adds_record rfl)) fun _ => ?_
  refine Triple.bind (plainly hX .require) fun _ => ?_
  refine Triple.bind (plainly hX adds_healthy) fun _ => ?_
  refine Triple.bind (plainly hX .ask) fun actual => ?_
  refine Triple.bind (plainly hX .ask) fun _ => ?_
  refine Triple.bind (plainly hX .require) fun _ => ?_
  refine Triple.bind (plainly hX (.onlyIf (.bind .ask fun _ => .require))) fun _ => ?_
  exact Triple.modify fun r h => ⟨h.1.workloadAccepted _, hX r _ rfl h.2⟩

lemma stage_going (hX : Lasting X) {name : String} {which : Module} :
    Triple (fun r => Going (some acc) r ∧ X r) (stage c m name which)
      (fun _ r => Going (some (acc ++ stageLabels c name)) r ∧ X r) fun _ => Going none := by
  refine Triple.bind (plainly hX adds_identity) fun _ => ?_
  refine Triple.pre (P := fun r => Going (some (acc ++ stageLabels { c with jobs := [] } name)) r ∧ X r)
    (triple_each (I := fun done r => Going (some (acc ++ stageLabels { c with jobs := done } name)) r ∧
      X r) fun done job _ _ => ?_) fun r h => ?_
  · refine Triple.bind (plainly hX adds_healthy) fun _ => ?_
    refine (execute_going hX).post fun _ r h => ?_
    rw [List.append_assoc] at h
    rw [stageLabels, List.map_append]
    exact h
  · rw [stageLabels, List.map_nil, List.append_nil]
    exact h

lemma validate_going {a : Bool} : Triple (Preparing a) (validate c m)
    (fun _ r => (Going (some []) r ∧ r.restored = false) ∧ a = false) fun _ => Halted a := by
  have hplain : ∀ {α : Type} {x : M Label α}, Adds (fun s => s.plain = true) x →
      Triple (Preparing a) x (fun _ => Preparing a) fun _ => Halted a := fun hx =>
    hx.triple stable_preparing fun _ e h => h.raised e
  refine Triple.bind (Triple.get (Q := fun _ => Preparing a) fun _ => id) fun r => ?_
  refine Triple.bind (hplain .require) fun _ => ?_
  refine Triple.bind (hplain .ask) fun supported => ?_
  refine Triple.bind (hplain .require) fun _ => ?_
  refine Triple.bind (hplain .ask) fun _ => ?_
  refine Triple.bind (hplain .ask) fun same => ?_
  refine Triple.bind (hplain .require) fun _ => ?_
  refine Triple.bind (hplain .require) fun _ => ?_
  refine Triple.bind (hplain .require) fun _ => ?_
  refine Triple.bind (hplain (.each fun _ _ => .bind .ask fun _ => .require)) fun _ => ?_
  refine Triple.bind (Q := fun _ r => (Going (some []) r ∧ r.restored = false) ∧ a = false)
    (mark_going.post fun _ r h => ⟨⟨h.1.1, h.1.2.1⟩, h.2⟩) fun _ => triple_unmarked ?_
  have hlasting : Lasting fun r : Run Label => r.restored = false := fun _ _ _ h => h
  refine Triple.bind (plainly hlasting adds_identity) fun _ => ?_
  exact Triple.bind (plainly hlasting adds_healthy) fun _ => Triple.pure fun _ => id

/-- The `try` block, up to the restoration. -/
lemma substitute_going :
    Triple (fun r => Going (some []) r ∧ r.restored = false) (substitute c m)
      (fun _ r => Going (some (stageLabels c "baseline" ++ stageLabels c "candidate")) r ∧
        r.restored = false) fun _ => Going none := by
  have hlasting : Lasting fun r : Run Label => r.restored = false := fun _ _ _ h => h
  have hstable := hlasting.stable
  have hmove : ∀ {command : Command} {acc : List Label},
      Triple (fun r => Going (some acc) r ∧ r.restored = false ∧ Ready r) (transition m command)
        (fun _ r => Going (some acc) r ∧ r.restored = false) fun _ => Going none :=
    transition_going (hstable.and stable_ready) hstable (fun _ _ h => h.2) fun _ _ h _ => h.1
  refine Triple.bind (stage_going hlasting) fun _ => ?_
  refine Triple.bind (healthy_going hstable) fun _ => ?_
  refine Triple.bind hmove fun _ => ?_
  refine Triple.bind (Q := fun _ r => Going (some ([] ++ stageLabels c "baseline")) r ∧
    r.restored = false)
    (Triple.modify fun r h => ⟨h.1.of_eq rfl rfl, h.2⟩) fun _ => ?_
  refine Triple.bind (healthy_going hstable) fun _ => ?_
  refine Triple.bind hmove fun _ => ?_
  refine Triple.bind (plainly hlasting adds_identity) fun _ => ?_
  refine Triple.bind (plainly hlasting adds_healthy) fun _ => ?_
  exact stage_going hlasting

/-- The last stage, which records its own failure. -/
lemma restoredStage_going (hX : Lasting X) :
    Triple (fun r => Going (some acc) r ∧ X r) (restoredStage c m)
      (fun _ r => Going (some (acc ++ stageLabels c "restored")) r ∧ X r) fun _ => Going none := by
  refine Triple.tryExcept (E := fun _ => Going none) ?_ (fun _ _ h => absurd h (by simp)) fun e _ => ?_
  · refine Triple.bind (stage_going hX) fun _ => ?_
    exact Triple.bind (plainly hX adds_healthy) fun _ => Triple.pure fun _ => id
  · refine Triple.bind (Q := fun _ => Going none) (Triple.modify fun r h => ?_) fun _ =>
      Triple.throw fun _ => id
    exact stable_going r _ rfl h

lemma run_finished {a : Bool} {host : Host} :
    Triple (fun r => r = Run.start host a) (run c m)
      (fun _ r => Finished (labels c) r ∧ a = false) fun _ => Halted a := by
  refine Triple.bind (validate_going.pre fun r h => h ▸ preparing_start) fun _ => triple_unmarked ?_
  refine Triple.bind (triple_caught (fun _ => rfl) (fun _ _ => trivial) substitute_going)
    fun failure => ?_
  refine Triple.bind (Q := fun f => Tried (stageLabels c "baseline" ++ stageLabels c "candidate")
    (fun r => r.restored = true → Reloaded originalChecks r) f) ?_ fun f => ?_
  · refine Triple.bind (Triple.get (Q := fun _ => Tried _ _ failure) fun _ => id) fun r => ?_
    refine Triple.bind restore_tried fun f => ?_
    refine Triple.bind (Triple.get (Q := fun _ => Tried _ _ f) fun _ => id) fun r => ?_
    exact Triple.bind (triple_record rfl restoredLater.stable) fun _ => Triple.pure fun _ => id
  refine Triple.bind triple_reraise fun _ => ?_
  refine Triple.bind triple_get fun r₀ => ?_
  refine Triple.bind (Q := fun _ r =>
    Going (some (stageLabels c "baseline" ++ stageLabels c "candidate")) r ∧ Reloaded originalChecks r)
    ((triple_need fun r h => h.1.1.raised).post ?_) fun _ => ?_
  · rintro _ _ ⟨⟨h, rfl⟩, hrestored⟩
    exact ⟨h.1, h.2 hrestored⟩
  refine Triple.bind (restoredStage_going lasting_reloaded) fun _ => ?_
  refine Triple.bind (plainly lasting_reloaded (adds_record rfl)) fun _ => ?_
  refine Triple.bind (plainly lasting_reloaded .ask) fun _ => ?_
  exact Triple.modify fun r h => h.1.finished h.2

end Qualify

/-! ### The live campaign -/

namespace Live

variable {X : Run String → Prop} {acc : List String} {m : Machine} {c : Config}

/-- The names of the workloads. -/
def labels (c : Config) : List String := c.workloads.map Row.name

lemma liveCheck_going (hX : Lasting X) (hlive : ∀ r o, X r → X (r.did .manifestLive o)) :
    Triple (fun r => Going (some acc) r ∧ X r) (liveCheck m) (fun _ r => Going (some acc) r ∧ X r)
      fun _ => Going none := by
  refine Triple.bind (plainly hX adds_identity) fun _ => ?_
  refine Triple.bind (plainly hX adds_healthy) fun _ => ?_
  exact transition_going hX.stable hX.stable (fun h => absurd h (by simp [Command.moves]))
    fun r o h _ => hlive r o h

lemma adds_approvalCheck {p : Step String → Prop} {message : String} :
    Adds p (approvalCheck m message) := .bind .ask fun _ => .require

lemma adds_evidence {p : Step String → Prop} {row : Row} : Adds p (evidence m row) := by
  refine .bind .ask fun _ => .bind .ask fun _ => .bind .ask fun _ => ?_
  refine .bind (.ite (fun _ => .askSome) fun _ => .pure) fun _ => ?_
  refine .bind .settle fun _ => .bind .ask fun _ => .bind .require fun _ => .bind .require fun _ => ?_
  refine .bind (.onlyIf (.bind .ask fun _ => .require)) fun _ => .bind .ask fun _ => ?_
  refine .bind (.onlyIf (.bind .ask fun _ => .require)) fun _ => ?_
  exact .bind (.onlyIf (.bind .ask fun _ => .require)) fun _ => .ask

lemma workload_going (hX : Lasting X) (hlive : ∀ r o, X r → X (r.did .manifestLive o)) {row : Row}
    {number : ℕ} :
    Triple (fun r => Going (some acc) r ∧ X r) (workload m row number)
      (fun _ r => Going (some (acc ++ [row.name])) r ∧ X r) fun _ => Going none := by
  refine Triple.bind (plainly hX adds_approvalCheck) fun _ => ?_
  refine Triple.bind (liveCheck_going hX hlive) fun _ => ?_
  refine Triple.bind (plainly hX .ask) fun _ => ?_
  refine Triple.bind (Q := fun _ r => Going (some acc) r ∧ X r)
    (Triple.modify fun r h => ⟨h.1.started _, hX r _ rfl h.2⟩) fun _ => ?_
  refine Triple.bind (plainly hX .ask) fun code => ?_
  refine Triple.bind (plainly hX (adds_record rfl)) fun _ => ?_
  refine Triple.bind (plainly hX .require) fun _ => ?_
  refine Triple.bind (plainly hX adds_healthy) fun _ => ?_
  refine Triple.bind (plainly hX adds_evidence) fun _ => ?_
  exact Triple.modify fun r h => ⟨h.1.workloadAccepted _, hX r _ rfl h.2⟩

/-- A run before the restoration, with the keys of `runs`. -/
def Unrestored (done : List String) (r : Run String) : Prop := r.restored = false ∧ r.runs = done

lemma lasting_unrestored {done : List String} : Lasting (Unrestored done) := fun _ _ _ h => h

/-- The loop over the workloads. -/
lemma workloads_going :
    Triple (fun r => Going (some []) r ∧ Unrestored [] r) (each (fun p : Row × ℕ => do
        workload m p.1 p.2
        addRun p.1.name) (c.workloads.zip (List.range' 1 c.workloads.length)))
      (fun _ r => Going (some (labels c)) r ∧ Unrestored (labels c) r) fun _ => Going none := by
  let names : List (Row × ℕ) → List String := List.map fun p => p.1.name
  have hnames : names (c.workloads.zip (List.range' 1 c.workloads.length)) = labels c := by
    have hfst : (c.workloads.zip (List.range' 1 c.workloads.length)).map Prod.fst = c.workloads :=
      List.map_fst_zip (Nat.le_of_eq List.length_range'.symm)
    calc names (c.workloads.zip (List.range' 1 c.workloads.length))
        = ((c.workloads.zip (List.range' 1 c.workloads.length)).map Prod.fst).map Row.name :=
          (List.map_map).symm
      _ = labels c := by rw [hfst, labels]
  rw [← hnames]
  refine triple_each (I := fun done r => Going (some (names done)) r ∧ Unrestored (names done) r)
    fun done p rest hsplit => ?_
  -- The admission has given the workloads different names, so each of them is a new key.
  have hfresh : p.1.name ∉ names done := by
    have hnodup : (names (done ++ p :: rest)).Nodup := by
      rw [← hsplit, hnames]
      exact c.distinct
    simp only [names, List.map_append, List.map_cons] at hnodup
    exact fun hmem => List.disjoint_of_nodup_append hnodup hmem List.mem_cons_self
  refine Triple.bind (workload_going lasting_unrestored fun _ _ h => h) fun _ => ?_
  refine Triple.modify fun r h => ?_
  have hdone : names (done ++ [p]) = names done ++ [p.1.name] := by simp [names]
  rw [hdone]
  refine ⟨h.1.of_eq rfl rfl, h.2.1, ?_⟩
  have hruns : r.runs = names done := h.2.2
  rw [hruns, if_neg hfresh]

/-- The `try` block, up to the restoration. -/
lemma substitute_going :
    Triple (fun r => (Going (some []) r ∧ Ready r) ∧ Unrestored [] r) (substitute c m)
      (fun _ r => Going (some (labels c)) r ∧ Unrestored (labels c) r) fun _ => Going none := by
  have hstable : Stable (Unrestored []) := lasting_unrestored.stable
  have hmove : ∀ {command : Command},
      Triple (fun r => Going (some []) r ∧ Unrestored [] r ∧ Ready r) (privileged m command)
        (fun _ r => Going (some []) r ∧ Unrestored [] r) fun _ => Going none :=
    transition_going (hstable.and stable_ready) hstable (fun _ _ h => h.2) fun _ _ h _ => h.1
  have hstill : ∀ {command : Command}, command.moves = false →
      Triple (fun r => Going (some []) r ∧ Unrestored [] r) (privileged m command)
        (fun _ r => Going (some []) r ∧ Unrestored [] r) fun _ => Going none := fun hstill =>
    transition_going hstable hstable (fun h => absurd h (by simp [hstill])) fun _ _ h _ => h
  refine Triple.bind (hmove.pre fun r h => ⟨h.1.1, h.2, h.1.2⟩) fun _ => ?_
  refine Triple.bind (Q := fun _ r => Going (some []) r ∧ Unrestored [] r)
    (Triple.modify fun r h => ⟨h.1.of_eq rfl rfl, h.2⟩) fun _ => ?_
  refine Triple.bind (healthy_going hstable) fun _ => ?_
  refine Triple.bind hmove fun _ => ?_
  refine Triple.bind (liveCheck_going lasting_unrestored fun _ _ h => h) fun _ => ?_
  refine Triple.bind (hstill rfl) fun _ => Triple.bind (hstill rfl) fun _ => ?_
  refine Triple.bind (Q := fun _ r => Going (some []) r ∧ Unrestored [] r)
    (Triple.modify fun r h => ⟨h.1.of_eq rfl rfl, h.2⟩) fun _ => ?_
  refine Triple.bind (plainly lasting_unrestored adds_approvalCheck) fun _ => ?_
  exact workloads_going

/-- The removal of the approval goes on from any run. -/
lemma removeApproval_going {φ : Option (List String)} (hX : Lasting X)
    (hdid : ∀ r command o, command.moves = false → X r → X (r.did command o)) :
    Triple (fun r => Going φ r ∧ X r) (removeApproval m) (fun _ r => Going φ r ∧ X r)
      fun _ => Going none := by
  have hstill : ∀ {command : Command}, command.moves = false →
      Triple (fun r => Going φ r ∧ X r) (privileged m command) (fun _ r => Going φ r ∧ X r)
        fun _ => Going none := fun hstill =>
    transition_going hX.stable hX.stable (fun h => absurd h (by simp [hstill]))
      fun r o h _ => hdid r _ o hstill h
  refine Triple.bind (Q := fun _ r => Going φ r ∧ X r)
    (Triple.modify fun r h => ⟨h.1.add trivial (by simp) (by simp) rfl, hX r _ rfl h.2⟩) fun _ => ?_
  refine Triple.bind (plainly hX adds_approvalCheck) fun _ => ?_
  exact Triple.bind (hstill rfl) fun _ => hstill rfl

/-- A run after the restoration, with the keys of `runs`. -/
def Restored (done : List String) (r : Run String) : Prop :=
  (r.restored = true → Reloaded originalChecks r) ∧ r.runs = done

lemma lasting_restored {done : List String} : Lasting (Restored done) := fun r s hs h =>
  ⟨restoredLater r s hs h.1, h.2⟩

lemma Restored.did {done : List String} {r : Run String} {command : Command} {o : Outcome}
    (hstill : command.moves = false) (h : Restored done r) : Restored done (r.did command o) :=
  lasting_restored r (.command command o r.host) hstill h

/-- The restoration adds no run. -/
lemma restore_runs {done : List String} : Keeps (fun r => r.runs = done) (restore m) := by
  have hplain : ∀ {α : Type} {x : M String α}, Adds (fun s => s.plain = true) x →
      Keeps (fun r => r.runs = done) x := fun hx => hx.triple (fun _ _ _ h => h) fun _ _ h => h
  have hcommand : ∀ {command : Command},
      Keeps (fun r => r.runs = done) (privileged m command) :=
    triple_transition (R := fun r => r.runs = done) (fun _ _ _ h => h) (fun _ _ _ h => h)
      (fun _ _ _ h => h) (fun _ _ h _ => h) (fun _ _ h _ => h) fun _ _ h => h
  refine Keeps.bind (Keeps.modify fun _ h => h) fun _ => ?_
  refine Keeps.bind (hplain adds_healthy) fun state => ?_
  refine Keeps.bind (Keeps.ite (fun _ => Keeps.bind (hplain adds_identity) fun _ => hcommand)
    fun _ => Keeps.pure) fun _ => ?_
  refine Keeps.bind (hplain adds_healthy) fun _ => Keeps.bind hcommand fun _ => ?_
  refine Keeps.bind (hplain adds_identity) fun _ => Keeps.bind (hplain adds_healthy) fun _ => ?_
  exact Keeps.bind (Keeps.modify fun _ h => h) fun _ => Keeps.modify fun _ h => h

/-- The `finally` clause. -/
lemma undo_going {failure : Option String} {done : List String} :
    Triple (Tried done (Unrestored done) failure) (undo m failure)
      (fun f => Tried done (Restored done) f) fun _ => Going none := by
  refine Triple.bind (Triple.get (Q := fun _ => Tried done (Unrestored done) failure) fun _ => id)
    fun r => ?_
  refine Triple.bind (Q := fun f => Tried done (Restored done) f) ?_ fun f => ?_
  · refine Triple.ite (fun _ => triple_caught (fun _ => rfl) (fun _ _ => trivial) ?_) fun _ => ?_
    · cases failure with
      | none =>
          refine ((restore_going.and restore_runs).conseq (fun _ h => ⟨h.1, h.2.2⟩) ?_ fun _ _ h => h.1)
          exact fun _ _ h => ⟨h.1.1, fun _ => h.1.2.1, h.2⟩
      | some e => exact restore_going.post fun _ _ h => h.1
    · refine Triple.pure fun r h => ?_
      cases failure with
      | none => exact ⟨h.1, fun hrestored => absurd h.2.1 (by simp [hrestored]), h.2.2⟩
      | some e => exact h
  refine Triple.bind (Triple.get (Q := fun _ => Tried done (Restored done) f) fun _ => id) fun r => ?_
  refine Triple.bind (Q := fun f => Tried done (Restored done) f) ?_ fun f => ?_
  · refine Triple.ite (fun _ => triple_caught (fun _ => rfl) (fun _ _ => trivial) ?_) fun _ =>
      Triple.pure fun _ => id
    cases f with
    | none => exact removeApproval_going lasting_restored fun _ _ _ hstill h => h.did hstill
    | some e =>
        exact ((removeApproval_going (X := fun _ => True) (fun _ _ _ _ => trivial)
          fun _ _ _ _ _ => trivial).pre fun _ h => ⟨h, trivial⟩).post fun _ _ h => h.1
  refine Triple.bind (Q := fun _ => Tried done (Restored done) f) ?_ fun _ => ?_
  · cases f with
    | none => exact plainly lasting_restored .ask
    | some e => exact (Adds.ask (p := fun s => s.plain = true)).triple stable_going fun _ e h => h.raised e
  refine Triple.bind (Triple.get (Q := fun _ => Tried done (Restored done) f) fun _ => id) fun r => ?_
  exact Triple.bind (triple_record rfl lasting_restored.stable) fun _ => Triple.pure fun _ => id

lemma run_finished {a : Bool} {host : Host} :
    Triple (fun r => r = Run.start host a) (run c m)
      (fun _ r => (Finished (labels c) r ∧ c.workloads.length = 8) ∧ a = false) fun _ => Halted a := by
  have hplain : ∀ {α : Type} {x : M String α}, Adds (fun s => s.plain = true) x →
      Triple (Preparing a) x (fun _ => Preparing a) fun _ => Halted a := fun hx =>
    hx.triple stable_preparing fun _ e h => h.raised e
  refine Triple.bind (Q := fun _ => Preparing a) (Triple.get fun r h => h ▸ preparing_start) fun r => ?_
  refine Triple.bind (hplain .require) fun _ => ?_
  refine Triple.bind mark_going fun _ => triple_unmarked ?_
  refine Triple.bind (Triple.get (Q := fun _ r => Going (some []) r ∧ Unrestored [] r) fun _ => id)
    fun r => ?_
  refine Triple.bind (plainly lasting_unrestored .require) fun _ => ?_
  refine Triple.bind (plainly lasting_unrestored adds_identity) fun _ => ?_
  refine Triple.bind (healthy_going lasting_unrestored.stable) fun _ => ?_
  refine Triple.bind (Q := fun f => Tried (labels c) (Unrestored (labels c)) f)
    (triple_caught (fun _ => rfl) (fun _ _ => trivial)
      (substitute_going.pre fun r h => ⟨⟨h.1, h.2.2⟩, h.2.1⟩)) fun failure => ?_
  refine Triple.bind undo_going fun f => ?_
  refine Triple.bind triple_reraise fun _ => ?_
  refine Triple.bind triple_get fun r₀ => ?_
  refine Triple.bind (Q := fun _ r => Going (some (labels c)) r ∧ Reloaded originalChecks r ∧
    c.workloads.length = 8) ((triple_need fun r h => h.1.1.raised).post ?_) fun _ => ?_
  · rintro _ _ ⟨⟨⟨hgoing, hreloaded, hruns⟩, rfl⟩, hrestored, hlength⟩
    rw [hruns, labels, List.length_map] at hlength
    exact ⟨hgoing, hreloaded hrestored, hlength⟩
  refine Triple.bind (plainly (fun r s hs h => ⟨h.1.add hs, h.2⟩) .ask) fun _ => ?_
  exact Triple.modify fun r h => ⟨h.1.finished h.2.1, h.2.2⟩

end Live

/-! ### Every run -/

/-- The run at its end, after a value and after an exception. -/
def endOf (x : M ℓ Unit) (r : Run ℓ) : Run ℓ :=
  match x r with
  | .ok _ r' => r'
  | .error _ r' => r'

lemma endOf_of_triple {x : M ℓ Unit} {P Q E : Run ℓ → Prop}
    (h : Triple P x (fun _ => Q) fun _ => E) (hr : P r) : Q (endOf x r) ∨ E (endOf x r) := by
  have hx := h r hr
  rw [endOf]
  rcases hres : x r with ⟨_, r'⟩ | ⟨_, r'⟩ <;> rw [hres] at hx
  · exact Or.inl hx
  · exact Or.inr hx

/-- What holds of a run of these workloads at its end, on a root that had a marker (`a`) or not. -/
structure Orderly (labels : List ℓ) (a : Bool) (r : Run ℓ) : Prop where
  order : Always Allowed r.steps
  used : (∃ s ∈ r.steps, s.isCommand = true) → a = false ∧ r.attempted = true
  kept : a = true → r.attempted = true
  complete : .completed ∈ r.steps →
    accepted r.steps = labels ∧ (∀ e, .raised e ∉ r.steps) ∧ Reloaded originalChecks r

lemma orderly_of_ended {labels : List ℓ} {a : Bool} {Z : Prop}
    (h : ((Finished labels r ∧ Z) ∧ a = false) ∨ Halted a r) :
    Orderly labels a r ∧ (.completed ∈ r.steps → Z) := by
  rcases h with ⟨⟨h, hZ⟩, rfl⟩ | h
  · refine ⟨⟨h.allowed, fun _ => ⟨rfl, h.marked⟩, fun hfalse => absurd hfalse (by simp), fun _ => ?_⟩,
      fun _ => hZ⟩
    exact ⟨h.accepted, h.clean, h.reloaded⟩
  · exact ⟨⟨h.allowed, h.used, h.kept, fun hmem => absurd hmem h.pending⟩,
      fun hmem => absurd hmem h.pending⟩

lemma Qualify.run_orderly (c : Config) (m : Machine) (host : Host) (a : Bool) :
    Orderly (labels c) a (endOf (run c m) (.start host a)) := by
  refine (orderly_of_ended (Z := True) ?_).1
  rcases endOf_of_triple run_finished rfl with h | h
  · exact Or.inl ⟨⟨h.1, trivial⟩, h.2⟩
  · exact Or.inr h

lemma Live.run_orderly (c : Config) (m : Machine) (host : Host) (a : Bool) :
    Orderly (labels c) a (endOf (run c m) (.start host a)) ∧
      (.completed ∈ (endOf (run c m) (.start host a)).steps → c.workloads.length = 8) :=
  orderly_of_ended (endOf_of_triple run_finished rfl)

/-- Runs one after another on one root, which has a marker (`a`) or not before the first. -/
def runsOn : List (M ℓ Unit × Host) → Bool → List (Run ℓ)
  | [], _ => []
  | (x, host) :: xs, a =>
      let r := endOf x (.start host a)
      r :: runsOn xs r.attempted

/-- The run has run a command. -/
def Run.privileged (r : Run ℓ) : Bool := r.steps.any Step.isCommand

/-- Of orderly runs on one root one at most runs a command, and none once there is a marker. -/
lemma privileged_runsOn {xs : List (M ℓ Unit × Host)}
    (h : ∀ x ∈ xs, ∀ a, ∃ labels, Orderly labels a (endOf x.1 (.start x.2 a))) :
    ∀ a, ((runsOn xs a).filter Run.privileged).length ≤ if a then 0 else 1 := by
  induction xs with
  | nil => exact fun a => Nat.zero_le _
  | cons x xs ih =>
      intro a
      rw [List.forall_mem_cons] at h
      obtain ⟨labels, hx⟩ := h.1 a
      have hrest := ih h.2 (endOf x.1 (.start x.2 a)).attempted
      rw [runsOn]
      by_cases hcommand : (endOf x.1 (.start x.2 a)).privileged = true
      · obtain ⟨rfl, hmarked⟩ := hx.used (List.any_eq_true.mp hcommand)
        rw [List.filter_cons_of_pos hcommand, List.length_cons]
        rw [hmarked] at hrest ⊢
        exact Nat.succ_le_succ hrest
      · rw [List.filter_cons_of_neg hcommand]
        refine Nat.le_trans hrest ?_
        cases a with
        | false => split_ifs <;> simp_all
        | true => rw [hx.kept rfl]

/-- **The order of a campaign.**  Every run of both campaigns moves the module only after a health check
that passed, with nothing in between, and starts no workload after a failure; if it completes, it has
accepted every workload once and in order without a failure, and the original was loaded again and
checked.  Of the runs on one root one at most runs a privileged command. -/
theorem campaigns_orderly :
    (∀ (c : Qualify.Config) (m : Qualify.Machine) (host : Host) (a : Bool),
      Orderly (Qualify.labels c) a (endOf (Qualify.run c m) (.start host a))) ∧
    (∀ (c : Live.Config) (m : Live.Machine) (host : Host) (a : Bool),
      Orderly (Live.labels c) a (endOf (Live.run c m) (.start host a)) ∧
        (.completed ∈ (endOf (Live.run c m) (.start host a)).steps → c.workloads.length = 8)) ∧
    (∀ (xs : List (Qualify.Config × Qualify.Machine × Host)) (a : Bool),
      ((runsOn (xs.map fun x => (Qualify.run x.1 x.2.1, x.2.2)) a).filter Run.privileged).length ≤ 1) ∧
    ∀ (xs : List (Live.Config × Live.Machine × Host)) (a : Bool),
      ((runsOn (xs.map fun x => (Live.run x.1 x.2.1, x.2.2)) a).filter Run.privileged).length ≤ 1 := by
  have hone : ∀ (a : Bool) (n : ℕ), (n ≤ if a then 0 else 1) → n ≤ 1 := by
    intro a n h
    cases a <;> simp at h <;> omega
  refine ⟨Qualify.run_orderly, Live.run_orderly, fun xs a => ?_, fun xs a => ?_⟩
  · refine hone a _ (privileged_runsOn (fun x hx a => ?_) a)
    obtain ⟨⟨c, m, host⟩, -, rfl⟩ := List.mem_map.mp hx
    exact ⟨_, Qualify.run_orderly c m host a⟩
  · refine hone a _ (privileged_runsOn (fun x hx a => ?_) a)
    obtain ⟨⟨c, m, host⟩, -, rfl⟩ := List.mem_map.mp hx
    exact ⟨_, (Live.run_orderly c m host a).1⟩

/-! ### Runs that complete -/

/-- The method raises no exception. -/
def returns (x : M ℓ Unit) (r : Run ℓ) : Bool :=
  match x r with
  | .ok _ _ => true
  | .error _ _ => false

lemma ok_of_returns {x : M ℓ Unit} (h : returns x r = true) : x r = .ok () (endOf x r) := by
  rw [returns] at h
  rw [endOf]
  cases hx : x r with
  | ok u r' => rfl
  | error e r' =>
      rw [hx] at h
      exact absurd h Bool.false_ne_true

/-- A system on which every command does its work. -/
def calmMachine {ℓ : Type} : Machine ℓ where
  state _ := .ok ⟨false, false, [], true, true⟩
  initstate _ := .ok "live"
  installedSame _ := .ok true
  noteFault _ := none
  outcome _ _ := .exit 0 true
  markerOpen _ := .ok ()
  markerWrite _ := .ok ()
  completion _ := .ok ()

namespace Qualify

/-- A run that raises nothing has completed. -/
lemma completed_of_returns {c : Config} {m : Machine} {r : Run Label} (h : returns (run c m) r = true) :
    .completed ∈ (endOf (run c m) r).steps := by
  have hrun := ok_of_returns h
  simp only [run, bind_ok] at hrun
  obtain ⟨_, _, -, _, _, -, _, _, -, _, _, -, _, _, -, _, _, -, _, _, -, _, _, -, _, _, -, hpush⟩ := hrun
  rw [run, ← (EStateM.Result.ok.inj hpush).2]
  exact List.mem_append_right _ (List.mem_singleton_self _)

/-- The ten jobs, by their frames; one line of output is expected of each. -/
def calmConfig : Config where
  jobs := [("h264", 24), ("hevc", 36), ("vp9-8", 48), ("vp9-10", 60), ("shared-normal", 168),
    ("shared-early", 168), ("B-va", 300), ("B-gst", 300), ("E-va", 300), ("E-gst", 300)].map fun p =>
      ⟨p.1, p.2, [p.1], if p.1 = "shared-early" then 24 else 0⟩
  files := ["decoder"]

/-- The jobs decode what is expected of them. -/
def calmAnswers : Machine where
  toMachine := calmMachine
  ordinary _ := true
  supported _ := .ok true
  packages _ := .ok ()
  modulesSame _ := .ok true
  fileSame _ _ := .ok true
  makeDirectory _ _ := .ok ()
  decoder _ _ := .ok 0
  rows _ job := .ok job.expected
  comparison _ _ := .ok ()
  earlyExports _ _ := .ok 24

example : .completed ∈ (endOf (run calmConfig calmAnswers)
    (.start ⟨some .original, false, false⟩ false)).steps :=
  completed_of_returns (by decide +kernel)

end Qualify

namespace Live

/-- A run that raises nothing has completed. -/
lemma completed_of_returns {c : Config} {m : Machine} {r : Run String} (h : returns (run c m) r = true) :
    .completed ∈ (endOf (run c m) r).steps := by
  have hrun := ok_of_returns h
  simp only [run, bind_ok] at hrun
  obtain ⟨_, _, -, _, _, -, _, _, -, _, _, -, _, _, -, _, _, -, _, _, -, _, _, -, _, _, -, _, _, -, _, _, -,
    _, _, -, _, _, -, hpush⟩ := hrun
  rw [run, ← (EStateM.Result.ok.inj hpush).2]
  exact List.mem_append_right _ (List.mem_singleton_self _)

/-- Two vectors, each with both clients, without copies and with them. -/
def calmConfig : Config where
  workloads := ["B", "E"].flatMap fun vector => ["va", "gst"].flatMap fun client =>
    [(false, "off"), (true, "on")].map fun copy =>
      ⟨vector ++ "-" ++ client ++ "-" ++ copy.2, vector, client, copy.1⟩
  distinct := by decide +kernel

/-- The frames of every workload. -/
def calmFrames : List String := List.replicate 300 "0"

/-- The joined observations of a workload. -/
def calmJoined (row : Row) : Joined :=
  ⟨row.copy, row.client, (if row.vector = "B" then [21] else [21, 65, 297]).map fun n => ⟨n, n, n, n⟩⟩

/-- The workloads decode what the reference has, and observe the same with copies as without. -/
def calmAnswers : Machine where
  toMachine := calmMachine
  ordinary _ := true
  approvalSame _ := .ok true
  expanded _ _ _ := .ok ()
  supervisor _ _ := .ok 0
  frameHashes _ _ := .ok calmFrames
  prior _ _ := .ok ((List.range 300).zip calmFrames)
  reference _ _ := .ok calmFrames
  paired _ _ := .ok calmFrames
  joined _ row := .ok (calmJoined row)
  before _ row := .ok (calmJoined row)
  measured _ row := .ok (.str row.vector)
  projectionOff _ row := .ok (.str row.vector)
  projectionVa _ row := .ok (.str row.vector)
  writeResults _ _ := .ok ()

example : .completed ∈ (endOf (run calmConfig calmAnswers)
    (.start ⟨some .original, false, false⟩ false)).steps :=
  completed_of_returns (by decide +kernel)

end Live

/-! ### A second run -/

/-- A system on which everything passes, with this user and this outcome of the commands. -/
def quietMachine (ordinary : Bool) (outcome : Command → Outcome) : Live.Machine where
  state _ := .ok ⟨false, false, [], true, true⟩
  initstate _ := .ok "live"
  installedSame _ := .ok true
  noteFault _ := none
  outcome _ := outcome
  markerOpen _ := .ok ()
  markerWrite _ := .ok ()
  completion _ := .ok ()
  ordinary _ := ordinary
  approvalSame _ := .ok true
  expanded _ _ _ := .ok ()
  supervisor _ _ := .ok 0
  frameHashes _ _ := .ok []
  prior _ _ := .ok []
  reference _ _ := .ok []
  paired _ _ := .ok []
  joined _ _ := .ok ⟨false, "va", []⟩
  before _ _ := .ok ⟨false, "va", []⟩
  measured _ _ := .ok .null
  projectionOff _ _ := .ok .null
  projectionVa _ _ := .ok .null
  writeResults _ _ := .ok ()

/-- A run that is refused before its marker leaves a second run on the same root to unload the
module. -/
theorem second_run_privileged : ¬∀ (c : Live.Config) (m m' : Live.Machine) (host host' : Host),
    (endOf (Live.run c m') (.start host'
      (endOf (Live.run c m) (.start host false)).attempted)).privileged = false := by
  intro hall
  have hrun := hall ⟨[], List.nodup_nil⟩ (quietMachine false fun _ => .exit 0 true)
    (quietMachine true fun _ => .exit 1 false) ⟨some .original, false, false⟩
    ⟨some .original, false, false⟩
  exact absurd hrun (by decide +kernel)

end OmarchyM1Video.Campaigns
