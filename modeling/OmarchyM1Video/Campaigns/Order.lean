import OmarchyM1Video.Campaigns.Rules

/-!
The order of what a campaign does.

* `Allowed`: what must have come before a command that moves the module and before a workload;
* `Going`: the state of a run after its marker, with the workloads that were accepted as long as
  nothing has failed;
* `Reloaded`: the last command that moved the module has loaded the original, which was checked since;
* `restore_going`, `Qualify.run_orderly`, `Live.run_orderly`: the methods keep the order;
* `campaign_order`: what holds of every run of the two campaigns, and of several on one root.
-/

namespace OmarchyM1Video.Campaigns

open OmarchyM1Video.Py

variable {ℓ : Type} {φ : Option (List ℓ)} {acc : List ℓ} {r : Run ℓ} {s : Step ℓ} {c : Command}
  {o : Outcome} {X Y : Run ℓ → Prop} {checks : List (Step ℓ)}

/-- A health check says nothing about the time after such a step. -/
def Step.disturbs : Step ℓ → Bool
  | .command _ _ _ | .raised _ | .event (.workloadStart _) => true
  | _ => false

/-- A command that moves the module follows a health check that passed, with no command, no workload
and no exception in between; a workload follows no exception. -/
def Allowed (pre : List (Step ℓ)) (s : Step ℓ) (_ : List (Step ℓ)) : Prop :=
  match s with
  | .command c _ _ => c.moves = true → Since (· = .healthy) (·.disturbs = true) pre
  | .event (.workloadStart _) => ∀ e, .raised e ∉ pre
  | _ => True

/-- The workload that a step accepts. -/
def Step.accepted? : Step ℓ → Option ℓ
  | .event (.workloadAccepted w) => some w
  | _ => none

/-- The workloads that were accepted, in their order. -/
def accepted (steps : List (Step ℓ)) : List ℓ := steps.filterMap Step.accepted?

/-- A command was run. -/
def Step.isCommand : Step ℓ → Bool
  | .command _ _ _ => true
  | _ => false

/-- The module was loaded or unloaded. -/
def Step.moves : Step ℓ → Bool
  | .command c _ _ => c.moves
  | _ => false

/-- The last command that moved the module has loaded the original, and these steps came since. -/
def Reloaded (checks : List (Step ℓ)) (r : Run ℓ) : Prop :=
  ∃ pre o h post, r.steps = pre ++ .command .modprobe o h :: post ∧ o.ok = true ∧
    (∀ s ∈ post, s.moves = false) ∧ checks.Sublist post

/-- The checks after the original was loaded again. -/
def originalChecks : List (Step ℓ) := [.identity .original, .healthy]

/-- A run that has created its marker.  As long as nothing has failed, `φ` is the list of the
workloads that were accepted. -/
structure Going (φ : Option (List ℓ)) (r : Run ℓ) : Prop where
  allowed : Always Allowed r.steps
  marked : r.attempted = true
  pending : .completed ∉ r.steps
  clean : ∀ acc ∈ φ, (∀ e, .raised e ∉ r.steps) ∧ accepted r.steps = acc

section Steps

lemma allowed_add (h : Always Allowed r.steps) (hs : Allowed r.steps s []) :
    Always Allowed (r.add s).steps := by
  refine h.concat ?_ hs
  intro pre x post hx
  cases x with
  | event e => cases e <;> exact hx
  | _ => exact hx

lemma Going.add (h : Going φ r) (hs : Allowed r.steps s []) (hend : s ≠ .completed)
    (hraise : ∀ e, s ≠ .raised e) (haccept : s.accepted? = none) : Going φ (r.add s) where
  allowed := allowed_add h.allowed hs
  marked := h.marked
  pending hmem := by
    rcases List.mem_append.mp hmem with hmem | hmem
    · exact h.pending hmem
    · exact hend (List.mem_singleton.mp hmem).symm
  clean acc hacc := by
    obtain ⟨hclean, haccepted⟩ := h.clean acc hacc
    refine ⟨fun e hmem => ?_, ?_⟩
    · rcases List.mem_append.mp hmem with hmem | hmem
      · exact hclean e hmem
      · exact hraise e (List.mem_singleton.mp hmem).symm
    · rw [accepted] at haccepted
      rw [accepted, Run.add, List.filterMap_append, haccepted, List.filterMap_cons, haccept,
        List.filterMap_nil, List.append_nil]

/-- Only the steps and the marker count. -/
lemma Going.of_eq {r' : Run ℓ} (h : Going φ r) (hsteps : r'.steps = r.steps)
    (hmarker : r'.attempted = r.attempted) : Going φ r' where
  allowed := hsteps ▸ h.allowed
  marked := hmarker.trans h.marked
  pending := hsteps ▸ h.pending
  clean := hsteps ▸ h.clean

lemma Going.forget (h : Going φ r) : Going none r :=
  ⟨h.allowed, h.marked, h.pending, fun _ hacc => absurd hacc (by simp)⟩

lemma Going.raised (h : Going φ r) (e : String) : Going none (r.add (.raised e)) where
  allowed := allowed_add h.allowed trivial
  marked := h.marked
  pending hmem := by
    rcases List.mem_append.mp hmem with hmem | hmem
    · exact h.pending hmem
    · exact absurd (List.mem_singleton.mp hmem) (by simp)
  clean _ hacc := absurd hacc (by simp)

lemma stable_going : Stable (Going φ) := by
  intro r s hs h
  cases s with
  | event e => cases e <;> first
      | exact h.add trivial (by simp) (by simp) rfl
      | exact absurd hs (by simp [Step.plain])
  | healthy => exact h.add trivial (by simp) (by simp) rfl
  | identity which => exact h.add trivial (by simp) (by simp) rfl
  | _ => exact absurd hs (by simp [Step.plain])

lemma Going.started (h : Going (some acc) r) (w : ℓ) :
    Going (some acc) (r.add (.event (.workloadStart w))) :=
  h.add (h.clean acc rfl).1 (by simp) (by simp) rfl

lemma Going.workloadAccepted (h : Going (some acc) r) (w : ℓ) :
    Going (some (acc ++ [w])) (r.add (.event (.workloadAccepted w))) where
  allowed := allowed_add h.allowed trivial
  marked := h.marked
  pending hmem := by
    rcases List.mem_append.mp hmem with hmem | hmem
    · exact h.pending hmem
    · exact absurd (List.mem_singleton.mp hmem) (by simp)
  clean acc' hacc := by
    obtain rfl := Option.some.inj hacc
    obtain ⟨hclean, haccepted⟩ := h.clean acc rfl
    refine ⟨fun e hmem => ?_, ?_⟩
    · rcases List.mem_append.mp hmem with hmem | hmem
      · exact hclean e hmem
      · exact absurd (List.mem_singleton.mp hmem) (by simp)
    · rw [accepted] at haccepted
      rw [accepted, Run.add, List.filterMap_append, haccepted]
      rfl

/-- A health check is up to date. -/
def Ready (r : Run ℓ) : Prop := Since (· = .healthy) (·.disturbs = true) r.steps

lemma stable_ready : Stable (Ready (ℓ := ℓ)) := by
  intro r s hs h
  refine since_concat.mpr (Or.inr ⟨h, ?_⟩)
  cases s with
  | event e => cases e <;> simp_all [Step.plain, Step.disturbs]
  | _ => simp_all [Step.plain, Step.disturbs]

lemma ready_healthy : Ready (r.add .healthy) := since_concat.mpr (Or.inl rfl)

lemma Going.did (h : Going φ r) (hready : c.moves = true → Ready r) : Going φ (r.did c o) := by
  have hadd : Going φ (r.add (.command c o r.host)) := h.add hready (by simp) (by simp) rfl
  exact hadd.of_eq rfl rfl

lemma Reloaded.add (h : Reloaded checks r) (hs : s.moves = false) : Reloaded checks (r.add s) := by
  obtain ⟨pre, o, host, post, hsteps, ho, hpost, hchecks⟩ := h
  refine ⟨pre, o, host, post ++ [s], ?_, ho, ?_, hchecks.trans (List.sublist_append_left _ _)⟩
  · rw [Run.add, hsteps, List.append_assoc, List.cons_append]
  · exact List.forall_mem_append.mpr ⟨hpost, by simpa using hs⟩

lemma Reloaded.check (h : Reloaded checks r) (hs : s.moves = false) :
    Reloaded (checks ++ [s]) (r.add s) := by
  obtain ⟨pre, o, host, post, hsteps, ho, hpost, hchecks⟩ := h
  refine ⟨pre, o, host, post ++ [s], ?_, ho, ?_, hchecks.append (List.Sublist.refl [s])⟩
  · rw [Run.add, hsteps, List.append_assoc, List.cons_append]
  · exact List.forall_mem_append.mpr ⟨hpost, by simpa using hs⟩

lemma moves_of_plain (hs : s.plain = true) : s.moves = false := by
  cases s with
  | command => exact absurd hs (by simp [Step.plain])
  | _ => rfl

lemma stable_reloaded : Stable (Reloaded checks) := fun _ _ hs h => h.add (moves_of_plain hs)

lemma reloaded_did (ho : o.ok = true) : Reloaded [] (r.did .modprobe o) :=
  ⟨r.steps, o, r.host, [], rfl, ho, by simp, List.nil_sublist _⟩

end Steps

/-! ### The methods of both campaigns -/

section Methods

variable {m : Machine ℓ} {t : Texts} {present : Bool} {which : Module}

lemma healthy_going (hX : Stable X) :
    Triple (fun r => Going φ r ∧ X r) (healthyWith m t present)
      (fun _ r => Going φ r ∧ X r ∧ Ready r) fun _ => Going none :=
  triple_healthy (stable_going.and hX)
    (fun r h => ⟨stable_going r _ rfl h.1, hX r _ rfl h.2, ready_healthy⟩) fun _ e h => h.1.raised e

lemma identity_going (hX : Stable X) :
    Triple (fun r => Going φ r ∧ X r) (identityWith m t which) (fun _ r => Going φ r ∧ X r)
      fun _ => Going none :=
  adds_identity.triple (stable_going.and hX) fun _ e h => h.1.raised e

lemma transition_going (hX : Stable X) (hY : Stable Y) (hready : c.moves = true → ∀ r, X r → Ready r)
    (hok : ∀ r o, X r → o.ok = true → Y (r.did c o)) :
    Triple (fun r => Going φ r ∧ X r) (transitionWith m t c) (fun _ r => Going φ r ∧ Y r)
      fun _ => Going none :=
  triple_transition (stable_going.and hX) (stable_going.and hY) stable_going
    (fun r o h ho => ⟨h.1.did fun hc => hready hc r h.2, hok r o h.2 ho⟩)
    (fun r _ h _ => (h.1.did fun hc => hready hc r h.2).forget) fun _ e h => h.raised e

lemma stable_true : Stable fun _ : Run ℓ => True := fun _ _ _ _ => trivial

/-- The restoration keeps the order, whatever has failed before, and ends with the original loaded and
checked. -/
lemma restore_going :
    Triple (Going φ) (restoreWith m t)
      (fun _ r => Going φ r ∧ Reloaded originalChecks r ∧ r.restored = true) fun _ => Going none := by
  refine Triple.bind (Q := fun _ r => Going φ r ∧ True)
    (Triple.modify fun r h => ⟨h.add trivial (by simp) (by simp) rfl, trivial⟩) fun _ => ?_
  refine Triple.bind (healthy_going stable_true) fun state => ?_
  -- The candidate is unloaded while the health check is up to date.
  refine Triple.bind (Q := fun _ r => Going φ r ∧ True) (Triple.ite ?_ ?_) fun _ => ?_
  · intro _
    refine Triple.bind ((identity_going stable_ready).pre fun r h => ⟨h.1, h.2.2⟩) fun _ => ?_
    exact transition_going stable_ready stable_true (fun _ _ => id) fun _ _ _ _ => trivial
  · exact fun _ => Triple.pure fun r h => ⟨h.1, trivial⟩
  refine Triple.bind (healthy_going stable_true) fun _ => ?_
  refine Triple.bind ((transition_going (Y := Reloaded []) stable_ready stable_reloaded
    (fun _ _ => id) fun _ _ _ => reloaded_did).pre fun r h => ⟨h.1, h.2.2⟩) fun _ => ?_
  refine Triple.bind (Q := fun _ r => Going φ r ∧ Reloaded [.identity .original] r)
    (triple_identity (stable_going.and stable_reloaded)
      (fun r h _ => ⟨stable_going r _ rfl h.1, h.2.check rfl⟩) fun _ e h => h.1.raised e) fun _ => ?_
  refine Triple.bind (Q := fun _ r => Going φ r ∧ Reloaded originalChecks r)
    (triple_healthy (stable_going.and stable_reloaded)
      (fun r h => ⟨stable_going r _ rfl h.1, h.2.check rfl⟩) fun _ e h => h.1.raised e) fun _ => ?_
  refine Triple.bind (Q := fun _ r => Going φ r ∧ Reloaded originalChecks r ∧ r.restored = true)
    (Triple.modify fun r h => ⟨h.1.of_eq rfl rfl, h.2, rfl⟩) fun _ => ?_
  exact Triple.modify fun r h => ⟨stable_going r _ rfl h.1, stable_reloaded r _ rfl h.2.1, h.2.2⟩

end Methods

/-! ### Before the marker, and after an exception -/

/-- A run before its marker, on a root that had one (`a`) or not. -/
structure Preparing (a : Bool) (r : Run ℓ) : Prop where
  plain : ∀ s ∈ r.steps, s.plain = true
  marker : r.attempted = a
  fresh : r.restored = false ∧ r.runs = []

/-- A run that has not completed: it ran a command only if there was no marker, and left one then. -/
structure Halted (a : Bool) (r : Run ℓ) : Prop where
  allowed : Always Allowed r.steps
  pending : .completed ∉ r.steps
  used : (∃ s ∈ r.steps, s.isCommand = true) → a = false ∧ r.attempted = true
  kept : a = true → r.attempted = true

section Start

variable {a : Bool} {m : Machine ℓ}

lemma Going.halted (h : Going φ r) : Halted false r :=
  ⟨h.allowed, h.pending, fun _ => ⟨rfl, h.marked⟩, fun hfalse => absurd hfalse (by simp)⟩

lemma preparing_start {host : Host} : Preparing a (Run.start host a : Run ℓ) :=
  ⟨fun _ hs => absurd hs (by simp [Run.start]), rfl, rfl, rfl⟩

lemma stable_preparing : Stable (Preparing (ℓ := ℓ) a) := fun r s hs h =>
  ⟨List.forall_mem_append.mpr ⟨h.plain, by simpa using hs⟩, h.marker, h.fresh⟩

lemma allowed_of_plain (hs : s.plain = true) {pre post : List (Step ℓ)} : Allowed pre s post := by
  cases s with
  | event e => cases e <;> first
      | exact trivial
      | exact absurd hs (by simp [Step.plain])
  | command => exact absurd hs (by simp [Step.plain])
  | _ => exact trivial

lemma Preparing.always (h : Preparing a r) : Always Allowed r.steps := fun pre s post hsplit =>
  allowed_of_plain (h.plain s (by simp [hsplit]))

lemma Preparing.raised (h : Preparing a r) (e : String) : Halted a (r.add (.raised e)) where
  allowed := allowed_add h.always trivial
  pending hmem := by
    rcases List.mem_append.mp hmem with hmem | hmem
    · exact absurd (h.plain _ hmem) (by simp [Step.plain])
    · exact absurd (List.mem_singleton.mp hmem) (by simp)
  used := by
    rintro ⟨s, hmem, hs⟩
    rcases List.mem_append.mp hmem with hmem | hmem
    · have hplain := h.plain s hmem
      cases s <;> simp_all [Step.plain, Step.isCommand]
    · rw [List.mem_singleton.mp hmem] at hs
      exact absurd hs (by simp [Step.isCommand])
  kept ha := h.marker.trans ha

/-- The run with its marker. -/
lemma Preparing.marked (h : Preparing a r) :
    Going (some []) ({ r with attempted := true }.add .marked) := by
  refine ⟨allowed_add (r := { r with attempted := true }) h.always trivial, rfl, ?_, ?_⟩
  · intro hmem
    rcases List.mem_append.mp hmem with hmem | hmem
    · exact absurd (h.plain _ hmem) (by simp [Step.plain])
    · exact absurd (List.mem_singleton.mp hmem) (by simp)
  · rintro acc hacc
    obtain rfl := Option.some.inj hacc
    refine ⟨fun e hmem => ?_, ?_⟩
    · rcases List.mem_append.mp hmem with hmem | hmem
      · exact absurd (h.plain _ hmem) (by simp [Step.plain])
      · exact absurd (List.mem_singleton.mp hmem) (by simp)
    · rw [accepted, Run.add, List.filterMap_append, List.filterMap_eq_nil_iff.mpr]
      · rfl
      · intro s hmem
        have hplain := h.plain s hmem
        cases s with
        | event e => cases e <;> simp_all [Step.plain, Step.accepted?]
        | _ => rfl

/-- The marker is created where there is none. -/
lemma mark_going : Triple (Preparing (ℓ := ℓ) a) (mark m)
    (fun _ r => (Going (some []) r ∧ r.restored = false ∧ r.runs = []) ∧ a = false)
    fun _ => Halted a := by
  refine Triple.bind triple_get fun r => ?_
  refine Triple.bind (Q := fun _ r' => Preparing a r' ∧ a = false)
    ((triple_need fun r h => h.1.raised).post ?_) fun _ => ?_
  · rintro _ _ ⟨⟨h, rfl⟩, hr⟩
    exact ⟨h, h.marker.symm.trans hr⟩
  cases a with
  | true => exact fun _ h => absurd h.2 (by simp)
  | false =>
      refine Triple.bind (Q := fun _ => Preparing false) ?_ fun _ => ?_
      · exact ((Adds.ask (p := fun s => s.plain = true)).triple stable_preparing
          fun _ e h => h.raised e).pre fun _ h => h.1
      refine Triple.bind (Q := fun _ r => Preparing false { r with attempted := false } ∧
        r.attempted = true) (Triple.modify fun r h => ⟨⟨h.plain, rfl, h.fresh⟩, rfl⟩) fun _ => ?_
      refine Triple.bind (Q := fun _ r => Going (some []) r ∧ r.restored = false ∧ r.runs = [])
        (Triple.modify ?_) fun _ => ?_
      · rintro ⟨steps, host, changed, restored, installed, runs, attempted⟩ ⟨h, hattempted⟩
        obtain rfl : attempted = true := hattempted
        exact ⟨h.marked, h.fresh⟩
      · exact ((Adds.ask (p := fun _ => False)).triple (fun _ _ hs => absurd hs id)
          fun _ e h => (h.1.raised e).halted).post fun _ _ h => ⟨h, rfl⟩

end Start

end OmarchyM1Video.Campaigns
