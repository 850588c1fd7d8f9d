import OmarchyM1Video.Campaigns.Complete

/-!
What a campaign leaves behind.

The flags that decide about the cleanup are set after the commands have returned, so a command that
fails after it has taken effect is not undone.

* `unloads`, `Step.creates`: how the commands ended that were to unload the original, and the commands
  that made something of the native approval;
* `ModuleUndone`, `ApprovalUndone`: every change was undone, or the failure of that was recorded;
* `UnloadTold`, `CreationTold`: the commands that took effect returned 0;
* `Kept`, `Lost`, `Changed`, …: what a run has done to the module and to the approval, and what its
  flags say about it;
* `Inert`: what keeps such a statement;
* `undone_iff`: a run undoes its changes if and only if its commands told of them;
* `change_left`: a run that leaves the original unloaded.
-/

namespace OmarchyM1Video.Campaigns

open OmarchyM1Video.Py

variable {ℓ : Type} {r : Run ℓ} {s : Step ℓ} {c : Command} {o : Outcome} {m : Machine ℓ} {t : Texts}

/-- How the command ended that was to unload the original. -/
def Step.unload? : Step ℓ → Option Outcome
  | .command .rmmod o ⟨some .original, _, _⟩ => some o
  | _ => none

/-- How the commands ended that were to unload the original. -/
def unloads (steps : List (Step ℓ)) : List Outcome := steps.filterMap Step.unload?

/-- The step has made the directory of the native approval or the approval. -/
def Step.creates : Step ℓ → Bool
  | .command .installDirectory o _ | .command .installApproval o _ => o.took
  | _ => false

/-- The command returned 0. -/
def Step.succeeds (c : Command) : Step ℓ → Bool
  | .command c' o _ => c' = c && o.ok
  | _ => false

/-- The failure of the restoration was recorded. -/
def Step.restorationFailed : Step ℓ → Bool
  | .event (.restoreIncomplete _) => true
  | _ => false

/-- The failure of the removal of the approval was recorded. -/
def Step.removalFailed : Step ℓ → Bool
  | .event (.cleanupFailed _) => true
  | _ => false

/-- If the run has unloaded the original, then its restoration was attempted, and the original is loaded
or the failure was recorded. -/
def ModuleUndone (r : Run ℓ) : Prop :=
  (∃ o ∈ unloads r.steps, o.took = true) → .restoring ∈ r.steps ∧
    (r.host.loaded = some .original ∨ ∃ s ∈ r.steps, s.restorationFailed = true)

/-- If the run has made the approval or its directory, then the removal was attempted, and both are gone
or the failure was recorded. -/
def ApprovalUndone (r : Run ℓ) : Prop :=
  (∃ s ∈ r.steps, s.creates = true) → .removing ∈ r.steps ∧
    ((r.host.directory = false ∧ r.host.approval = false) ∨
      ∃ s ∈ r.steps, s.removalFailed = true)

/-- An `rmmod` that has unloaded the original returned 0. -/
def UnloadTold (r : Run ℓ) : Prop := ∀ o ∈ unloads r.steps, o.took = true → o.ok = true

/-- If one of the two `install` commands took effect, then both were run and returned 0. -/
def CreationTold (r : Run ℓ) : Prop :=
  (∃ s ∈ r.steps, s.creates = true) → (∃ s ∈ r.steps, s.succeeds .installDirectory = true) ∧
    ∃ s ∈ r.steps, s.succeeds .installApproval = true

/-! ### What a run passes through -/

/-- The original was not unloaded. -/
def Kept (r : Run ℓ) : Prop :=
  r.changed = false ∧ .restoring ∉ r.steps ∧ ∀ o ∈ unloads r.steps, o.took = false

/-- The original was unloaded by a command that failed. -/
def Lost (r : Run ℓ) : Prop := r.changed = false ∧ .restoring ∉ r.steps ∧ ¬UnloadTold r

/-- The run is to restore the original. -/
def Changed (r : Run ℓ) : Prop := r.changed = true ∧ UnloadTold r

/-- The restoration has begun. -/
def Restoring (r : Run ℓ) : Prop := .restoring ∈ r.steps ∧ UnloadTold r

/-- The restoration has ended. -/
def Reinstated (r : Run ℓ) : Prop :=
  Restoring r ∧ (r.host.loaded = some .original ∨ ∃ s ∈ r.steps, s.restorationFailed = true)

/-- The approval was not made. -/
def Unmade (r : Run ℓ) : Prop :=
  r.approvalInstalled = false ∧ .removing ∉ r.steps ∧ ∀ s ∈ r.steps, s.creates = false

/-- Something was made of the approval, and one of its commands failed or was not run. -/
def Stray (r : Run ℓ) : Prop := r.approvalInstalled = false ∧ .removing ∉ r.steps ∧ ¬CreationTold r

/-- Both commands of the approval returned 0. -/
def Made (r : Run ℓ) : Prop := (∃ s ∈ r.steps, s.succeeds .installDirectory = true) ∧
  ∃ s ∈ r.steps, s.succeeds .installApproval = true

/-- The run is to remove the approval. -/
def Standing (r : Run ℓ) : Prop := r.approvalInstalled = true ∧ Made r

/-- The removal has begun. -/
def Removing (r : Run ℓ) : Prop := .removing ∈ r.steps ∧ Made r

/-- The removal has ended. -/
def Cleared (r : Run ℓ) : Prop :=
  Removing r ∧ ((r.host.directory = false ∧ r.host.approval = false) ∨
    ∃ s ∈ r.steps, s.removalFailed = true)

/-- The commands that change the approval. -/
def Command.approves : Command → Bool
  | .installDirectory | .installApproval | .removeApproval | .removeDirectory => true
  | _ => false

/-- What concerns neither the marker of a cleanup nor its commands keeps `X`. -/
structure Inert (mark : Step ℓ) (relevant : Command → Bool) (X : Run ℓ → Prop) : Prop where
  add : ∀ r s, s.isCommand = false → s ≠ mark → X r → X (r.add s)
  did : ∀ r c o, relevant c = false → X r → X (r.did c o)
  other : ∀ r attempted restored runs, X r →
    X { r with attempted := attempted, restored := restored, runs := runs }

section Steps

variable {w : Step ℓ}

lemma unloads_add (hs : s.unload? = none) : unloads (r.add s).steps = unloads r.steps := by
  rw [unloads, Run.add, List.filterMap_append, List.filterMap_cons, hs]
  exact List.append_nil _

lemma unload?_of_still (hs : s.moves = false) : s.unload? = none := by
  cases s with
  | command c o h => cases c <;> first | rfl | exact absurd hs (by simp [Step.moves, Command.moves])
  | _ => rfl

lemma moves_of_not_command (hs : s.isCommand = false) : s.moves = false := by
  cases s with
  | command => exact absurd hs (by simp [Step.isCommand])
  | _ => rfl

lemma unloadTold_add (hs : s.moves = false) : UnloadTold (r.add s) ↔ UnloadTold r := by
  rw [UnloadTold, unloads_add (unload?_of_still hs), UnloadTold]

lemma mem_add : w ∈ (r.add s).steps ↔ w ∈ r.steps ∨ w = s := by
  rw [Run.add, List.mem_append, List.mem_singleton]

lemma not_mem_add (h : w ∉ r.steps) (hw : s ≠ w) : w ∉ (r.add s).steps := fun hmem =>
  (mem_add.mp hmem).elim h fun heq => hw heq.symm

lemma exists_mem_add {p : Step ℓ → Prop} : (∃ w ∈ (r.add s).steps, p w) ↔
    (∃ w ∈ r.steps, p w) ∨ p s := by
  simp only [mem_add, or_and_right, exists_or, exists_eq_left]

lemma exists_mem_add_of_not {p : Step ℓ → Prop} (hs : ¬p s) :
    (∃ w ∈ (r.add s).steps, p w) ↔ ∃ w ∈ r.steps, p w := by
  rw [exists_mem_add, or_iff_left hs]

/-- The step is a command that changes the approval. -/
def Step.approves : Step ℓ → Bool
  | .command c _ _ => c.approves
  | _ => false

lemma creates_of_still (hs : s.approves = false) : s.creates = false := by
  cases s with
  | command c o h =>
      cases c <;> first | rfl | exact absurd hs (by simp [Step.approves, Command.approves])
  | _ => rfl

lemma succeeds_of_still (hs : s.approves = false) (hc : c.approves = true) :
    ¬s.succeeds c = true := by
  cases s with
  | command c' o h =>
      rw [Step.succeeds, Bool.and_eq_true, decide_eq_true_eq]
      rintro ⟨rfl, -⟩
      exact absurd hs (by simp [Step.approves, hc])
  | _ => simp [Step.succeeds]

lemma approves_of_not_command (hs : s.isCommand = false) : s.approves = false := by
  cases s with
  | command => exact absurd hs (by simp [Step.isCommand])
  | _ => rfl

lemma made_add (hs : s.approves = false) : Made (r.add s) ↔ Made r := by
  rw [Made, exists_mem_add_of_not (succeeds_of_still hs rfl),
    exists_mem_add_of_not (succeeds_of_still hs rfl), Made]

lemma creationTold_add (hs : s.approves = false) : CreationTold (r.add s) ↔ CreationTold r := by
  have hcreates : ¬s.creates = true := by simp [creates_of_still hs]
  rw [CreationTold, exists_mem_add_of_not hcreates]
  exact imp_congr_right fun _ => made_add hs

lemma loaded_effect (hc : c.moves = false) (h : Host) : (c.effect h).loaded = h.loaded := by
  cases c <;> first | rfl | exact absurd hc (by simp [Command.moves])

lemma approval_effect (hc : c.approves = false) (h : Host) :
    (c.effect h).directory = h.directory ∧ (c.effect h).approval = h.approval := by
  cases c <;> first | exact ⟨rfl, rfl⟩ | exact absurd hc (by simp [Command.approves])

lemma loaded_did (hc : c.moves = false) : (r.did c o).host.loaded = r.host.loaded := by
  rw [Run.did]
  dsimp only
  split_ifs
  · exact loaded_effect hc _
  · rfl

lemma approval_did (hc : c.approves = false) :
    (r.did c o).host.directory = r.host.directory ∧ (r.did c o).host.approval = r.host.approval := by
  rw [Run.did]
  dsimp only
  split_ifs
  · exact approval_effect hc _
  · exact ⟨rfl, rfl⟩

end Steps

section Inert

variable {mark : Step ℓ} {relevant : Command → Bool} {X Y : Run ℓ → Prop}

lemma Inert.or (hX : Inert mark relevant X) (hY : Inert mark relevant Y) :
    Inert mark relevant fun r => X r ∨ Y r where
  add r s hs hmark := Or.imp (hX.add r s hs hmark) (hY.add r s hs hmark)
  did r c o hc := Or.imp (hX.did r c o hc) (hY.did r c o hc)
  other r a b l := Or.imp (hX.other r a b l) (hY.other r a b l)

lemma inert_kept : Inert (ℓ := ℓ) .restoring Command.moves Kept where
  add r s hs hmark h := by
    have hunloads := unloads_add (r := r) (unload?_of_still (moves_of_not_command hs))
    exact ⟨h.1, not_mem_add h.2.1 hmark, hunloads ▸ h.2.2⟩
  did r c o hc h := by
    have hunloads := unloads_add (r := r) (s := .command c o r.host) (unload?_of_still hc)
    exact ⟨h.1, not_mem_add h.2.1 (by simp), hunloads ▸ h.2.2⟩
  other _ _ _ _ h := h

lemma inert_lost : Inert (ℓ := ℓ) .restoring Command.moves Lost where
  add r s hs hmark h :=
    ⟨h.1, not_mem_add h.2.1 hmark, (unloadTold_add (moves_of_not_command hs)).not.mpr h.2.2⟩
  did r c o hc h :=
    ⟨h.1, not_mem_add h.2.1 (by simp), (unloadTold_add (s := .command c o r.host) hc).not.mpr h.2.2⟩
  other _ _ _ _ h := h

lemma inert_changed : Inert (ℓ := ℓ) .restoring Command.moves Changed where
  add _ _ hs _ h := ⟨h.1, (unloadTold_add (moves_of_not_command hs)).mpr h.2⟩
  did r c o hc h := ⟨h.1, (unloadTold_add (s := .command c o r.host) hc).mpr h.2⟩
  other _ _ _ _ h := h

lemma inert_restoring : Inert (ℓ := ℓ) .restoring Command.moves Restoring where
  add _ _ hs _ h :=
    ⟨mem_add.mpr (Or.inl h.1), (unloadTold_add (moves_of_not_command hs)).mpr h.2⟩
  did r c o hc h :=
    ⟨mem_add.mpr (Or.inl h.1), (unloadTold_add (s := .command c o r.host) hc).mpr h.2⟩
  other _ _ _ _ h := h

lemma inert_reinstated : Inert (ℓ := ℓ) .restoring Command.moves Reinstated where
  add r s hs hmark h :=
    ⟨inert_restoring.add r s hs hmark h.1, h.2.imp id fun hf => exists_mem_add.mpr (Or.inl hf)⟩
  did r c o hc h :=
    ⟨inert_restoring.did r c o hc h.1, h.2.imp (loaded_did hc).trans fun hf =>
      exists_mem_add.mpr (Or.inl hf)⟩
  other _ _ _ _ h := h

lemma inert_unmade : Inert (ℓ := ℓ) .removing Command.approves Unmade where
  add r s hs hmark h := by
    refine ⟨h.1, not_mem_add h.2.1 hmark, fun w hw => (mem_add.mp hw).elim (h.2.2 w) ?_⟩
    rintro rfl
    exact creates_of_still (approves_of_not_command hs)
  did r c o hc h := by
    refine ⟨h.1, not_mem_add h.2.1 (by simp), fun w hw => (mem_add.mp hw).elim (h.2.2 w) ?_⟩
    rintro rfl
    exact creates_of_still hc
  other _ _ _ _ h := h

lemma inert_stray : Inert (ℓ := ℓ) .removing Command.approves Stray where
  add r s hs hmark h :=
    ⟨h.1, not_mem_add h.2.1 hmark, (creationTold_add (approves_of_not_command hs)).not.mpr h.2.2⟩
  did r c o hc h :=
    ⟨h.1, not_mem_add h.2.1 (by simp), (creationTold_add (s := .command c o r.host) hc).not.mpr h.2.2⟩
  other _ _ _ _ h := h

lemma inert_made : Inert (ℓ := ℓ) .removing Command.approves Made where
  add _ _ hs _ h := (made_add (approves_of_not_command hs)).mpr h
  did r c o hc h := (made_add (s := .command c o r.host) hc).mpr h
  other _ _ _ _ h := h

lemma inert_standing : Inert (ℓ := ℓ) .removing Command.approves Standing where
  add r s hs hmark h := ⟨h.1, inert_made.add r s hs hmark h.2⟩
  did r c o hc h := ⟨h.1, inert_made.did r c o hc h.2⟩
  other _ _ _ _ h := h

lemma inert_removing : Inert (ℓ := ℓ) .removing Command.approves Removing where
  add r s hs hmark h := ⟨mem_add.mpr (Or.inl h.1), inert_made.add r s hs hmark h.2⟩
  did r c o hc h := ⟨mem_add.mpr (Or.inl h.1), inert_made.did r c o hc h.2⟩
  other _ _ _ _ h := h

lemma inert_cleared : Inert (ℓ := ℓ) .removing Command.approves Cleared where
  add r s hs hmark h :=
    ⟨inert_removing.add r s hs hmark h.1, h.2.imp id fun hf => exists_mem_add.mpr (Or.inl hf)⟩
  did r c o hc h := by
    have happroval := approval_did (r := r) (o := o) hc
    refine ⟨inert_removing.did r c o hc h.1, h.2.imp (fun hgone => ?_) fun hf =>
      exists_mem_add.mpr (Or.inl hf)⟩
    exact ⟨happroval.1.trans hgone.1, happroval.2.trans hgone.2⟩
  other _ _ _ _ h := h

end Inert

/-! ### The methods -/

/-- The steps that are neither commands nor markers of a cleanup. -/
def Step.idle : Step ℓ → Bool
  | .command _ _ _ | .restoring | .removing => false
  | _ => true

section Methods

variable {mark : Step ℓ} {relevant : Command → Bool} {X Y E : Run ℓ → Prop} {α : Type} {x : M ℓ α}
  {present : Bool} {which : Module}

lemma idle_of_plain (hs : s.plain = true) : s.idle = true := by
  cases s with
  | event | healthy | identity => rfl
  | _ => exact absurd hs (by simp [Step.plain])

lemma Inert.idle (hX : Inert mark relevant X) (hmark : mark.idle = false) {s : Step ℓ}
    (hs : s.idle = true) (h : X r) : X (r.add s) := by
  refine hX.add r s ?_ (fun heq => ?_) h
  · cases s with
    | command => exact absurd hs (by simp [Step.idle])
    | _ => rfl
  · rw [heq, hmark] at hs
    exact absurd hs (by simp)

lemma Inert.keeps (hX : Inert mark relevant X) (hmark : mark.idle = false)
    (hx : Adds (fun s => s.idle = true) x) : Keeps X x :=
  hx.triple (fun _ _ hs => hX.idle hmark hs) fun _ _ => hX.idle hmark rfl

lemma Inert.transition (hX : Inert mark relevant X) (hmark : mark.idle = false)
    (hc : relevant c = false) : Keeps X (transitionWith m t c) := by
  have hstable : Stable X := fun r s hs => hX.idle hmark (idle_of_plain hs)
  exact triple_transition hstable hstable hstable (fun r o h _ => hX.did r c o hc h)
    (fun r o h _ => hX.did r c o hc h) fun _ _ => hX.idle hmark rfl

lemma Keeps.each {γ : Type} {g : γ → M ℓ Unit} {xs : List γ} (h : ∀ c, Keeps X (g c)) :
    Keeps X (Py.each g xs) := triple_each (I := fun _ => X) fun _ c _ _ => h c

lemma keeps_mark (hX : Inert mark relevant X) (hmark : mark.idle = false) :
    Keeps X (Campaigns.mark m) := by
  refine Keeps.bind Keeps.get fun r => Keeps.bind (hX.keeps hmark .require) fun _ => ?_
  refine Keeps.bind (hX.keeps hmark .ask) fun _ => ?_
  refine Keeps.bind (Keeps.modify fun r h => hX.other r true r.restored r.runs h) fun _ => ?_
  exact Keeps.bind (hX.keeps hmark (.push rfl)) fun _ => hX.keeps hmark .ask

lemma keeps_reraise {failure : Option String} : Keeps X (reraise failure : M ℓ Unit) := by
  cases failure with
  | none => exact Keeps.pure
  | some e => exact Triple.throw fun _ => id

/-- After a `try` statement a run is in one of the states that its block may end in. -/
lemma triple_caught_or {P : Run ℓ → Prop} {F : String → Run ℓ → Prop} {x : M ℓ Unit}
    {event : String → Event ℓ} {failure : Option String} (hx : Triple P x (fun _ => X) fun _ => E)
    (hE : ∀ r e, E r → X (r.add (.event (event e)))) :
    Triple P (caught x event failure) (fun _ => X) F := by
  refine Triple.tryExcept (Triple.bind hx fun _ => Triple.pure fun _ => id) ?_ fun e _ => ?_
  · exact fun _ _ h => absurd h (by simp)
  · exact Triple.bind (Q := fun _ => X) (Triple.modify fun r => hE r e) fun _ => Triple.pure fun _ => id

end Methods

/-! ### The module -/

section Module

variable {X : Run ℓ → Prop} {present : Bool} {which : Module}

lemma idle_of_adds {α : Type} {x : M ℓ α} (h : Adds (fun s => s.plain = true) x) :
    Adds (fun s => s.idle = true) x := h.mono fun _ => idle_of_plain

lemma unload?_of_ne (hc : c ≠ .rmmod) {host : Host} :
    (Step.command c o host : Step ℓ).unload? = none := by
  cases c with
  | rmmod => exact absurd rfl hc
  | _ => rfl

/-- Another step than the removal of the original leaves open how that ended. -/
lemma unloadTold_did (h : (Step.command c o r.host : Step ℓ).unload? = none) :
    UnloadTold (r.did c o) ↔ UnloadTold r := by
  have hsteps := unloads_add (r := r) h
  rw [UnloadTold, UnloadTold, ← hsteps]
  rfl

lemma unload?_rmmod {host : Host} : (Step.command .rmmod o host : Step ℓ).unload? =
    if host.loaded = some .original then some o else none := by
  obtain ⟨_ | _ | _, _, _⟩ := host <;> rfl

/-- The removal of a module, and how it ended if that was the original. -/
lemma unloads_did_rmmod : ∃ ended, (∀ o' ∈ ended, o' = o) ∧
    unloads (r.did .rmmod o).steps = unloads r.steps ++ ended := by
  have hsteps : (r.did .rmmod o).steps = r.steps ++ [.command .rmmod o r.host] := rfl
  rw [hsteps, unloads, List.filterMap_append]
  refine ⟨_, fun o' hmem => ?_, rfl⟩
  obtain ⟨s, hs, ho⟩ := List.mem_filterMap.mp hmem
  rw [List.mem_singleton.mp hs, unload?_rmmod] at ho
  split_ifs at ho
  exact (Option.some.inj ho).symm

/-- The run goes on after the removal of the original, before the flag is set. -/
def Told (r : Run ℓ) : Prop := r.changed = false ∧ UnloadTold r

/-- The removal of the original. -/
lemma triple_unload : Triple Kept (transitionWith m t .rmmod) (fun _ => Told)
    fun _ r => Kept r ∨ Lost r := by
  have hidle : ∀ {X : Run ℓ → Prop}, Inert .restoring Command.moves X → Stable X :=
    fun hX r s hs => hX.idle rfl (idle_of_plain hs)
  have htold : Stable (Told : Run ℓ → Prop) := fun r s hs h =>
    ⟨h.1, (unloadTold_add (moves_of_plain hs)).mpr h.2⟩
  refine triple_transition (hidle inert_kept) htold (hidle (inert_kept.or inert_lost)) ?_ ?_
    fun _ _ => (inert_kept.or inert_lost).idle rfl rfl
  · rintro r o ⟨hchanged, -, hkept⟩ hok
    obtain ⟨ended, hended, hunloads⟩ := unloads_did_rmmod (r := r) (o := o)
    refine ⟨hchanged, fun o' hmem htook => ?_⟩
    rw [hunloads, List.mem_append] at hmem
    rcases hmem with hmem | hmem
    · exact absurd htook (by simp [hkept o' hmem])
    · exact hended o' hmem ▸ hok
  · rintro r o ⟨hchanged, hrestoring, hkept⟩ hok
    obtain ⟨ended, hended, hunloads⟩ := unloads_did_rmmod (r := r) (o := o)
    have hrestoring' : .restoring ∉ (r.did .rmmod o).steps := not_mem_add hrestoring (by simp)
    by_cases h : ∃ o' ∈ ended, o'.took = true
    · obtain ⟨o', hmem, htook⟩ := h
      refine Or.inr ⟨hchanged, hrestoring', fun htold => ?_⟩
      have := htold o' (by rw [hunloads]; exact List.mem_append_right _ hmem) htook
      rw [hended o' hmem, hok] at this
      exact absurd this (by simp)
    · refine Or.inl ⟨hchanged, hrestoring', fun o' hmem => ?_⟩
      rw [hunloads, List.mem_append] at hmem
      rcases hmem with hmem | hmem
      · exact hkept o' hmem
      · exact Bool.eq_false_iff.mpr fun htook => h ⟨o', hmem, htook⟩

/-- A command that unloads no original keeps what is said of such a run. -/
lemma triple_move {X : Run ℓ → Prop} (hX : ∀ r s, s.idle = true → X r → X (r.add s))
    (hdid : ∀ r o, X r → X (r.did c o)) : Keeps X (transitionWith m t c) := by
  have hstable : Stable X := fun r s hs => hX r s (idle_of_plain hs)
  exact triple_transition hstable hstable hstable (fun r o h _ => hdid r o h)
    (fun r o h _ => hdid r o h) fun r _ => hX r _ rfl

/-- After its beginning the restoration goes on to the end, or is cut short. -/
lemma restore_ends : Triple Changed (restoreWith m t)
    (fun _ r => Restoring r ∧ r.host.loaded = some .original) fun _ => Restoring := by
  have hidle : ∀ (r : Run ℓ) (s : Step ℓ), s.idle = true → Restoring r → Restoring (r.add s) :=
    fun _ _ => inert_restoring.idle rfl
  have hplain : ∀ {α : Type} {x : M ℓ α}, Adds (fun s => s.plain = true) x → Keeps Restoring x :=
    fun hx => inert_restoring.keeps rfl (idle_of_adds hx)
  have hraised : ∀ (r : Run ℓ) (e : String), Restoring r → Restoring (r.add (.raised e)) :=
    fun r _ => hidle r _ rfl
  have hload : ∀ {c : Command}, c ≠ .rmmod → Keeps Restoring (transitionWith m t c) := fun hc =>
    triple_move hidle fun r o h =>
      ⟨mem_add.mpr (Or.inl h.1), (unloadTold_did (unload?_of_ne hc)).mpr h.2⟩
  refine Triple.bind (Q := fun _ => Restoring) (Triple.modify fun r h => ?_) fun _ => ?_
  · exact ⟨mem_add.mpr (Or.inr rfl), (unloadTold_add rfl).mpr h.2⟩
  refine Triple.bind (hplain adds_healthy) fun state => ?_
  refine Triple.bind (Q := fun _ => Restoring) (Triple.ite (fun _ => ?_) fun _ => Triple.pure fun _ => id)
    fun _ => ?_
  · -- The build that is removed here was checked to be the one under test.
    let Candidate : Run ℓ → Prop := fun r => Restoring r ∧ r.host.loaded = some .candidate
    have hstable : Stable Candidate := fun r s hs h => ⟨hidle r s (idle_of_plain hs) h.1, h.2⟩
    have hdid : ∀ r o, Candidate r → Restoring (r.did .rmmod o) := fun r o h =>
      ⟨mem_add.mpr (Or.inl h.1.1),
        (unloadTold_did (by rw [unload?_rmmod, h.2, if_neg (by decide)])).mpr h.1.2⟩
    refine Triple.bind (Q := fun _ => Candidate) (triple_identity (fun r s hs => hidle r s (idle_of_plain hs))
      (fun r h hloaded => ⟨hidle r _ rfl h, hloaded⟩) hraised) fun _ => ?_
    exact triple_transition hstable (fun r s hs => hidle r s (idle_of_plain hs))
      (fun r s hs => hidle r s (idle_of_plain hs)) (fun r o h _ => hdid r o h)
      (fun r o h _ => hdid r o h) hraised
  refine Triple.bind (hplain adds_healthy) fun _ => ?_
  refine Triple.bind (hload (by decide)) fun _ => ?_
  have hkept : ∀ {α : Type} {x : M ℓ α}, Adds (fun s => s.plain = true) x →
      Triple (fun r => Restoring r ∧ r.host.loaded = some .original) x
        (fun _ r => Restoring r ∧ r.host.loaded = some .original) fun _ => Restoring := fun hx =>
    hx.triple (fun r s hs h => ⟨hidle r s (idle_of_plain hs) h.1, h.2⟩) fun r e h => hraised r e h.1
  refine Triple.bind (Q := fun _ r => Restoring r ∧ r.host.loaded = some .original)
    (triple_identity (fun r s hs => hidle r s (idle_of_plain hs))
      (fun r h hloaded => ⟨hidle r _ rfl h, hloaded⟩) hraised) fun _ => ?_
  refine Triple.bind (hkept adds_healthy) fun _ => ?_
  refine Triple.bind (Q := fun _ r => Restoring r ∧ r.host.loaded = some .original)
    (Triple.modify fun r h => ⟨inert_restoring.other r _ _ _ h.1, h.2⟩) fun _ => ?_
  exact hkept (adds_record rfl)

/-- The load of a module. -/
lemma triple_load : Keeps Changed (transitionWith m t .insmod) :=
  triple_move (fun _ _ => inert_changed.idle rfl) fun r o h =>
    ⟨h.1, (unloadTold_did (unload?_of_ne (by decide))).mpr h.2⟩

lemma kept_start {host : Host} {a : Bool} : Kept (Run.start host a : Run ℓ) :=
  ⟨rfl, List.not_mem_nil, fun _ h => absurd h List.not_mem_nil⟩

/-- The states of the module before the cleanup, and after it. -/
def Started (r : Run ℓ) : Prop := (Kept r ∨ Lost r) ∨ Changed r

def Ended (r : Run ℓ) : Prop := (Kept r ∨ Lost r) ∨ Reinstated r

lemma inert_started : Inert (ℓ := ℓ) .restoring Command.moves Started :=
  (inert_kept.or inert_lost).or inert_changed

lemma inert_ended : Inert (ℓ := ℓ) .restoring Command.moves Ended :=
  (inert_kept.or inert_lost).or inert_reinstated

/-- The restoration of the `finally` clause. -/
lemma restored_ends {failure : Option String} {r₀ : Run ℓ} {F : String → Run ℓ → Prop} :
    Triple (fun r => Started r ∧ r₀ = r)
      (caughtIf r₀.changed (restoreWith m t) .restoreIncomplete failure) (fun _ => Ended) F := by
  refine Triple.ite (fun hchanged => ?_) fun hchanged => ?_
  · refine (triple_caught_or (E := Restoring) (X := Ended) (restore_ends.post fun _ r h => ?_) ?_).pre ?_
    · exact Or.inr ⟨h.1, Or.inl h.2⟩
    · exact fun r e h => Or.inr ⟨inert_restoring.idle rfl rfl h,
        Or.inr ⟨_, mem_add.mpr (Or.inr rfl), rfl⟩⟩
    · rintro r ⟨(h | h) | h, rfl⟩
      · exact absurd hchanged (by simp [h.1])
      · exact absurd hchanged (by simp [h.1])
      · exact h
  · refine Triple.pure ?_
    rintro r ⟨h | h, rfl⟩
    · exact Or.inl h
    · exact absurd h.1 hchanged

/-- At the end the module was restored, or that was tried and its failure recorded, exactly if every
removal of the original was told. -/
lemma Ended.moduleUndone_iff (h : Ended r) : ModuleUndone r ↔ UnloadTold r := by
  rcases h with (h | h) | h
  · have hnone : ¬∃ o ∈ unloads r.steps, o.took = true := by
      rintro ⟨o, hmem, htook⟩
      exact absurd htook (by simp [h.2.2 o hmem])
    exact ⟨fun _ o hmem htook => absurd ⟨o, hmem, htook⟩ hnone, fun _ htook => absurd htook hnone⟩
  · refine ⟨fun hundone => ?_, fun htold => absurd htold h.2.2⟩
    by_contra htold
    rw [UnloadTold] at htold
    push Not at htold
    obtain ⟨o, hmem, htook, -⟩ := htold
    exact h.2.1 (hundone ⟨o, hmem, htook⟩).1
  · exact ⟨fun _ => h.1.2, fun _ _ => ⟨h.1.1, h.2⟩⟩

end Module

/-! ### The allocation qualification -/

namespace Qualify

variable {c : Config} {m : Machine} {mark : Step Label} {relevant : Command → Bool}
  {X : Run Label → Prop} {name : String} {which : Module} {job : Job}

lemma adds_execute : Adds (fun s => s.idle = true) (execute m name job) := by
  refine .bind .ask fun _ => .bind (.push rfl) fun _ => .bind .ask fun code => ?_
  refine .bind (.push rfl) fun _ => .bind .require fun _ => .bind (idle_of_adds adds_healthy) fun _ => ?_
  refine .bind .ask fun _ => .bind .ask fun _ => .bind .require fun _ => ?_
  exact .bind (.onlyIf (.bind .ask fun _ => .require)) fun _ => .push rfl

lemma adds_stage : Adds (fun s => s.idle = true) (stage c m name which) :=
  .bind (idle_of_adds adds_identity) fun _ => .each fun _ _ =>
    .bind (idle_of_adds adds_healthy) fun _ => adds_execute

lemma keeps_validate (hX : Inert mark relevant X) (hmark : mark.idle = false) :
    Keeps X (validate c m) := by
  have hidle : ∀ {α : Type} {x : M Label α}, Adds (fun s => s.idle = true) x → Keeps X x :=
    hX.keeps hmark
  refine Keeps.bind Keeps.get fun r => Keeps.bind (hidle .require) fun _ => ?_
  refine Keeps.bind (hidle .ask) fun _ => Keeps.bind (hidle .require) fun _ => ?_
  refine Keeps.bind (hidle .ask) fun _ => Keeps.bind (hidle .ask) fun _ => ?_
  refine Keeps.bind (hidle .require) fun _ => Keeps.bind (hidle .require) fun _ => ?_
  refine Keeps.bind (hidle .require) fun _ => ?_
  refine Keeps.bind (hidle (.each fun _ _ => .bind .ask fun _ => .require)) fun _ => ?_
  refine Keeps.bind (keeps_mark hX hmark) fun _ => ?_
  refine Keeps.bind (hidle (idle_of_adds adds_identity)) fun _ => ?_
  exact Keeps.bind (hidle (idle_of_adds adds_healthy)) fun _ => Keeps.pure

/-- The `try` block either leaves the original where it is, or loses it, or is to restore it. -/
lemma substitute_started : Triple Kept (substitute c m) (fun _ => Started) fun _ => Started := by
  have hkept : ∀ {α : Type} {x : M Label α}, Adds (fun s => s.idle = true) x →
      Triple Kept x (fun _ => Kept) fun _ => Started := fun hx =>
    (inert_kept.keeps rfl hx).conseq (fun _ => id) (fun _ _ => id) fun _ _ h => Or.inl (Or.inl h)
  have hchanged : ∀ {α : Type} {x : M Label α}, Adds (fun s => s.idle = true) x →
      Triple Changed x (fun _ => Changed) fun _ => Started := fun hx =>
    (inert_changed.keeps rfl hx).conseq (fun _ => id) (fun _ _ => id) fun _ _ h => Or.inr h
  refine Triple.bind (hkept adds_stage) fun _ => ?_
  refine Triple.bind (hkept (idle_of_adds adds_healthy)) fun _ => ?_
  refine Triple.bind (triple_unload.conseq (fun _ => id) (fun _ _ => id) fun _ _ => Or.inl) fun _ => ?_
  refine Triple.bind (Q := fun _ => Changed) (Triple.modify fun r h => ⟨rfl, h.2⟩) fun _ => ?_
  refine Triple.bind (hchanged (idle_of_adds adds_healthy)) fun _ => ?_
  refine Triple.bind (triple_load.conseq (fun _ => id) (fun _ _ => id) fun _ _ => Or.inr) fun _ => ?_
  refine Triple.bind (hchanged (idle_of_adds adds_identity)) fun _ => ?_
  refine Triple.bind (hchanged (idle_of_adds adds_healthy)) fun _ => ?_
  exact (hchanged adds_stage).post fun _ _ => Or.inr

lemma run_ended {a : Bool} {host : Host} :
    Triple (fun r => r = Run.start host a) (run c m) (fun _ => Ended) fun _ => Ended := by
  have hidle : ∀ {α : Type} {x : M Label α}, Adds (fun s => s.idle = true) x → Keeps Ended x :=
    inert_ended.keeps rfl
  refine Triple.bind ((keeps_validate inert_kept rfl).conseq ?_ (fun _ _ => id) fun _ _ h =>
    Or.inl (Or.inl h)) fun _ => ?_
  · rintro r rfl
    exact kept_start
  refine Triple.bind (triple_caught_or substitute_started fun r e => inert_started.idle rfl rfl)
    fun failure => ?_
  refine Triple.bind (Q := fun _ => Ended) ?_ fun failure => ?_
  · refine Triple.bind triple_get fun r₀ => ?_
    refine Triple.bind restored_ends fun failure => Triple.bind Keeps.get fun r => ?_
    exact Keeps.bind (hidle (.push rfl)) fun _ => Keeps.pure
  refine Keeps.bind keeps_reraise fun _ => Keeps.bind Keeps.get fun r => ?_
  refine Keeps.bind (hidle .require) fun _ => Keeps.bind ?_ fun _ => ?_
  · refine Triple.tryExcept (E := fun _ => Ended) (hidle (.bind adds_stage fun _ =>
      .bind (idle_of_adds adds_healthy) fun _ => .pure)) (fun _ _ _ => id) fun e _ => ?_
    exact Keeps.bind (hidle (.push rfl)) fun _ => Triple.throw fun _ => id
  · exact Keeps.bind (hidle (.push rfl)) fun _ => Keeps.bind (hidle .ask) fun _ => hidle (.push rfl)

end Qualify

/-! ### The native approval -/

section Approval

variable {X : Run ℓ → Prop}

lemma approves_of_plain (hs : s.plain = true) : s.approves = false := by
  cases s with
  | command => exact absurd hs (by simp [Step.plain])
  | _ => rfl

lemma creates_of_succeeds (hc : c = .installDirectory ∨ c = .installApproval)
    (hs : s.succeeds c = true) : s.creates = true := by
  cases s with
  | command c' o h =>
      rw [Step.succeeds, Bool.and_eq_true, decide_eq_true_eq] at hs
      obtain ⟨rfl, hok⟩ := hs
      rcases hc with rfl | rfl <;> exact Outcome.took_of_ok hok
  | _ => exact absurd hs (by simp [Step.succeeds])

/-- The directory was made, and the approval not yet. -/
def Half (r : Run ℓ) : Prop :=
  r.approvalInstalled = false ∧ .removing ∉ r.steps ∧
    (∃ s ∈ r.steps, s.succeeds .installDirectory = true) ∧
      ¬∃ s ∈ r.steps, s.succeeds .installApproval = true

lemma Half.stray (h : Half r) : Stray r := by
  refine ⟨h.1, h.2.1, fun htold => h.2.2.2 (htold ?_).2⟩
  obtain ⟨s, hmem, hs⟩ := h.2.2.1
  exact ⟨s, hmem, creates_of_succeeds (Or.inl rfl) hs⟩

lemma stable_half : Stable (Half : Run ℓ → Prop) := fun r s hs h => by
  have hstill := approves_of_plain hs
  refine ⟨h.1, not_mem_add h.2.1 fun heq => ?_, ?_, ?_⟩
  · rw [heq] at hs
    exact absurd hs (by simp [Step.plain])
  · rw [exists_mem_add_of_not (succeeds_of_still hstill rfl)]
    exact h.2.2.1
  · rw [exists_mem_add_of_not (succeeds_of_still hstill rfl)]
    exact h.2.2.2

lemma Unmade.not_succeeds (h : Unmade r) (hc : c = .installDirectory ∨ c = .installApproval) :
    ¬∃ s ∈ r.steps, s.succeeds c = true := by
  rintro ⟨s, hmem, hs⟩
  exact absurd (creates_of_succeeds hc hs) (by simp [h.2.2 s hmem])

/-- The making of the directory. -/
lemma triple_installDirectory : Triple Unmade (transitionWith m t .installDirectory) (fun _ => Half)
    fun _ r => Unmade r ∨ Stray r := by
  have hidle : ∀ {X : Run ℓ → Prop}, Inert .removing Command.approves X → Stable X :=
    fun hX r s hs => hX.idle rfl (idle_of_plain hs)
  refine triple_transition (hidle inert_unmade) stable_half (hidle (inert_unmade.or inert_stray)) ?_ ?_
    fun _ _ => (inert_unmade.or inert_stray).idle rfl rfl
  · rintro r o h hok
    have happroval : ¬∃ s ∈ (r.did .installDirectory o).steps, s.succeeds .installApproval = true := by
      rw [Run.did, exists_mem_add_of_not (by simp [Step.succeeds])]
      exact h.not_succeeds (Or.inr rfl)
    refine ⟨h.1, not_mem_add h.2.1 (by simp), ⟨_, mem_add.mpr (Or.inr rfl), ?_⟩, happroval⟩
    simp [Step.succeeds, hok]
  · rintro r o h hok
    have hremoving : .removing ∉ (r.did .installDirectory o).steps := not_mem_add h.2.1 (by simp)
    by_cases htook : o.took = true
    · refine Or.inr ⟨h.1, hremoving, fun htold => ?_⟩
      have hmade := (htold ⟨_, mem_add.mpr (Or.inr rfl), htook⟩).1
      rw [Run.did, exists_mem_add_of_not (by simp [Step.succeeds, hok])] at hmade
      exact h.not_succeeds (Or.inl rfl) hmade
    · refine Or.inl ⟨h.1, hremoving, fun w hw => (mem_add.mp hw).elim (h.2.2 w) ?_⟩
      rintro rfl
      exact Bool.eq_false_iff.mpr htook

/-- The making of the approval in its directory. -/
lemma triple_installApproval : Triple Half (transitionWith m t .installApproval)
    (fun _ r => r.approvalInstalled = false ∧ Made r) fun _ => Stray := by
  have hmade : Stable fun r : Run ℓ => r.approvalInstalled = false ∧ Made r := fun r s hs h =>
    ⟨h.1, (made_add (approves_of_plain hs)).mpr h.2⟩
  refine triple_transition stable_half hmade (fun r s hs => inert_stray.idle rfl (idle_of_plain hs))
    ?_ ?_ fun _ _ => inert_stray.idle rfl rfl
  · rintro r o h hok
    refine ⟨h.1, exists_mem_add.mpr (Or.inl h.2.2.1), _, mem_add.mpr (Or.inr rfl), ?_⟩
    simp [Step.succeeds, hok]
  · rintro r o h hok
    refine ⟨h.1, not_mem_add h.2.1 (by simp), fun htold => ?_⟩
    obtain ⟨s, hmem, hs⟩ := h.2.2.1
    have hmade := (htold ⟨s, mem_add.mpr (Or.inl hmem), creates_of_succeeds (Or.inl rfl) hs⟩).2
    rw [Run.did, exists_mem_add_of_not (by simp [Step.succeeds, hok])] at hmade
    exact h.2.2.2 hmade

/-- The states of the approval before the removal, and after it. -/
def Begun (r : Run ℓ) : Prop := (Unmade r ∨ Stray r) ∨ Standing r

def Closed (r : Run ℓ) : Prop := (Unmade r ∨ Stray r) ∨ Cleared r

lemma inert_begun : Inert (ℓ := ℓ) .removing Command.approves Begun :=
  (inert_unmade.or inert_stray).or inert_standing

lemma inert_closed : Inert (ℓ := ℓ) .removing Command.approves Closed :=
  (inert_unmade.or inert_stray).or inert_cleared

/-- The restoration of the module leaves the approval. -/
lemma keeps_restore (hX : Inert .removing Command.approves X) : Keeps X (restoreWith m t) := by
  have hplain : ∀ {α : Type} {x : M ℓ α}, Adds (fun s => s.plain = true) x → Keeps X x :=
    fun hx => hX.keeps rfl (idle_of_adds hx)
  refine Keeps.bind (Keeps.modify fun r => hX.add r _ rfl (by simp)) fun _ => ?_
  refine Keeps.bind (hplain adds_healthy) fun state => Keeps.bind ?_ fun _ => ?_
  · exact Keeps.ite (fun _ => Keeps.bind (hplain adds_identity) fun _ => hX.transition rfl rfl) fun _ =>
      Keeps.pure
  refine Keeps.bind (hplain adds_healthy) fun _ => Keeps.bind (hX.transition rfl rfl) fun _ => ?_
  refine Keeps.bind (hplain adds_identity) fun _ => Keeps.bind (hplain adds_healthy) fun _ => ?_
  exact Keeps.bind (Keeps.modify fun r => hX.other r _ true _) fun _ => hplain (adds_record rfl)

/-- At the end the approval was removed, or that was tried and its failure recorded, exactly if the
commands that made it were told. -/
lemma Closed.approvalUndone_iff (h : Closed r) : ApprovalUndone r ↔ CreationTold r := by
  rcases h with (h | h) | h
  · have hnone : ¬∃ s ∈ r.steps, s.creates = true := by
      rintro ⟨s, hmem, hs⟩
      exact absurd hs (by simp [h.2.2 s hmem])
    exact ⟨fun _ hs => absurd hs hnone, fun _ hs => absurd hs hnone⟩
  · refine ⟨fun hundone => ?_, fun htold => absurd htold h.2.2⟩
    by_contra htold
    exact h.2.1 (hundone (Classical.not_imp.mp htold).1).1
  · exact ⟨fun _ _ => h.1.2, fun _ _ => ⟨h.1.1, h.2⟩⟩

end Approval

/-! ### The live campaign -/

namespace Live

variable {c : Config} {m : Machine} {mark : Step String} {relevant : Command → Bool}
  {X : Run String → Prop} {row : Row} {number : ℕ}

lemma keeps_liveCheck (hX : Inert mark relevant X) (hmark : mark.idle = false)
    (hlive : relevant .manifestLive = false) : Keeps X (liveCheck m) :=
  Keeps.bind (hX.keeps hmark (idle_of_adds adds_identity)) fun _ =>
    Keeps.bind (hX.keeps hmark (idle_of_adds adds_healthy)) fun _ => hX.transition hmark hlive

lemma keeps_workload (hX : Inert mark relevant X) (hmark : mark.idle = false)
    (hlive : relevant .manifestLive = false) : Keeps X (workload m row number) := by
  have hidle : ∀ {α : Type} {x : M String α}, Adds (fun s => s.idle = true) x → Keeps X x :=
    hX.keeps hmark
  refine Keeps.bind (hidle adds_approvalCheck) fun _ => ?_
  refine Keeps.bind (keeps_liveCheck hX hmark hlive) fun _ => Keeps.bind (hidle .ask) fun _ => ?_
  refine Keeps.bind (hidle (.push rfl)) fun _ => Keeps.bind (hidle .ask) fun code => ?_
  refine Keeps.bind (hidle (.push rfl)) fun _ => Keeps.bind (hidle .require) fun _ => ?_
  refine Keeps.bind (hidle (idle_of_adds adds_healthy)) fun _ => ?_
  exact Keeps.bind (hidle adds_evidence) fun _ => hidle (.push rfl)

lemma keeps_workloads (hX : Inert mark relevant X) (hmark : mark.idle = false)
    (hlive : relevant .manifestLive = false) : Keeps X (each (fun p : Row × ℕ => do
        workload m p.1 p.2
        addRun p.1.name) (c.workloads.zip (List.range' 1 c.workloads.length))) :=
  Keeps.each fun _ => Keeps.bind (keeps_workload hX hmark hlive) fun _ =>
    Keeps.modify fun r => hX.other r _ _ _

/-- The module in the `try` block. -/
lemma substitute_started : Triple Kept (substitute c m) (fun _ => Started) fun _ => Started := by
  have hkeeps : ∀ {α : Type} {x : M String α}, Keeps Changed x →
      Triple Changed x (fun _ => Changed) fun _ => Started := fun hx =>
    hx.conseq (fun _ => id) (fun _ _ => id) fun _ _ h => Or.inr h
  have hstill : ∀ {command : Command}, command.moves = false →
      Triple Changed (privileged m command) (fun _ => Changed) fun _ => Started := fun h =>
    hkeeps (inert_changed.transition rfl h)
  refine Triple.bind (triple_unload.conseq (fun _ => id) (fun _ _ => id) fun _ _ => Or.inl) fun _ => ?_
  refine Triple.bind (Q := fun _ => Changed) (Triple.modify fun r h => ⟨rfl, h.2⟩) fun _ => ?_
  refine Triple.bind (hkeeps (inert_changed.keeps rfl (idle_of_adds adds_healthy))) fun _ => ?_
  refine Triple.bind (hkeeps triple_load) fun _ => ?_
  refine Triple.bind (hkeeps (keeps_liveCheck inert_changed rfl rfl)) fun _ => ?_
  refine Triple.bind (hstill rfl) fun _ => Triple.bind (hstill rfl) fun _ => ?_
  refine Triple.bind (Q := fun _ => Changed) (Triple.modify fun r h => h) fun _ => ?_
  refine Triple.bind (hkeeps (inert_changed.keeps rfl adds_approvalCheck)) fun _ => ?_
  exact (hkeeps (keeps_workloads inert_changed rfl rfl)).post fun _ _ => Or.inr

/-- The approval in the `try` block. -/
lemma substitute_begun : Triple Unmade (substitute c m) (fun _ => Begun) fun _ => Begun := by
  have hunmade : ∀ {α : Type} {x : M String α}, Keeps Unmade x →
      Triple Unmade x (fun _ => Unmade) fun _ => Begun := fun hx =>
    hx.conseq (fun _ => id) (fun _ _ => id) fun _ _ h => Or.inl (Or.inl h)
  have hstanding : ∀ {α : Type} {x : M String α}, Keeps Standing x →
      Triple Standing x (fun _ => Standing) fun _ => Begun := fun hx =>
    hx.conseq (fun _ => id) (fun _ _ => id) fun _ _ h => Or.inr h
  refine Triple.bind (hunmade (inert_unmade.transition rfl rfl)) fun _ => ?_
  refine Triple.bind (Q := fun _ => Unmade) (Triple.modify fun r h => h) fun _ => ?_
  refine Triple.bind (hunmade (inert_unmade.keeps rfl (idle_of_adds adds_healthy))) fun _ => ?_
  refine Triple.bind (hunmade (inert_unmade.transition rfl rfl)) fun _ => ?_
  refine Triple.bind (hunmade (keeps_liveCheck inert_unmade rfl rfl)) fun _ => ?_
  refine Triple.bind (triple_installDirectory.conseq (fun _ => id) (fun _ _ => id) fun _ _ => Or.inl)
    fun _ => ?_
  refine Triple.bind (triple_installApproval.conseq (fun _ => id) (fun _ _ => id)
    fun _ _ h => Or.inl (Or.inr h)) fun _ => ?_
  refine Triple.bind (Q := fun _ => Standing) (Triple.modify fun r h => ⟨rfl, h.2⟩) fun _ => ?_
  refine Triple.bind (hstanding (inert_standing.keeps rfl adds_approvalCheck)) fun _ => ?_
  exact (hstanding (keeps_workloads inert_standing rfl rfl)).post fun _ _ => Or.inr

/-- The removal leaves the module. -/
lemma keeps_removeApproval (hX : Inert .restoring Command.moves X) : Keeps X (removeApproval m) := by
  refine Keeps.bind (Keeps.modify fun r => hX.add r _ rfl (by simp)) fun _ => ?_
  refine Keeps.bind (hX.keeps rfl adds_approvalCheck) fun _ => ?_
  exact Keeps.bind (hX.transition rfl rfl) fun _ => hX.transition rfl rfl

/-- After its beginning the removal goes on to the end, or is cut short. -/
lemma removeApproval_ends : Triple Standing (removeApproval m)
    (fun _ r => Removing r ∧ r.host.directory = false ∧ r.host.approval = false) fun _ => Removing := by
  have hidle : Stable (Removing : Run String → Prop) := fun r s hs =>
    inert_removing.idle rfl (idle_of_plain hs)
  have hraised : ∀ (r : Run String) (e : String), Removing r → Removing (r.add (.raised e)) :=
    fun _ _ => inert_removing.idle rfl rfl
  have hdid : ∀ (r : Run String) command o, Removing r → Removing (r.did command o) :=
    fun r command o h => ⟨mem_add.mpr (Or.inl h.1), exists_mem_add.mpr (Or.inl h.2.1),
      exists_mem_add.mpr (Or.inl h.2.2)⟩
  refine Triple.bind (Q := fun _ => Removing) (Triple.modify fun r h => ?_) fun _ => ?_
  · exact ⟨mem_add.mpr (Or.inr rfl), (made_add rfl).mpr h.2⟩
  refine Triple.bind (inert_removing.keeps rfl adds_approvalCheck) fun _ => ?_
  refine Triple.bind (Q := fun _ r => Removing r ∧ r.host.approval = false) ?_ fun _ => ?_
  · refine triple_transition hidle (fun r s hs h => ⟨hidle r s hs h.1, h.2⟩) hidle ?_
      (fun r o h _ => hdid r _ o h) hraised
    refine fun r o h hok => ⟨hdid r _ o h, ?_⟩
    rw [Run.did]
    dsimp only
    rw [if_pos (Outcome.took_of_ok hok)]
    rfl
  · refine triple_transition (fun r s hs h => ⟨hidle r s hs h.1, h.2⟩)
      (fun r s hs h => ⟨hidle r s hs h.1, h.2⟩) hidle ?_ (fun r o h _ => hdid r _ o h.1) hraised
    refine fun r o h hok => ⟨hdid r _ o h.1, ?_⟩
    rw [Run.did]
    dsimp only
    rw [if_pos (Outcome.took_of_ok hok)]
    exact ⟨rfl, h.2⟩

/-- A run that keeps both chains apart from the `try` block and the cleanup. -/
lemma run_ends {B C : Run String → Prop} (hA : Inert mark relevant X) (hB : Inert mark relevant B)
    (hC : Inert mark relevant C) (hmark : mark.idle = false) (hXC : ∀ r, X r → C r)
    (hsubstitute : Triple X (substitute c m) (fun _ => B) fun _ => B)
    (hundo : ∀ failure, Triple B (undo m failure) (fun _ => C) fun _ => C) {a : Bool} {host : Host}
    (hstart : X (Run.start host a)) :
    Triple (fun r => r = Run.start host a) (run c m) (fun _ => C) fun _ => C := by
  have hbefore : ∀ {α : Type} {x : M String α}, Keeps X x → Triple X x (fun _ => X) fun _ => C :=
    fun hx => hx.conseq (fun _ => id) (fun _ _ => id) fun _ r => hXC r
  have hidle : ∀ {α : Type} {x : M String α}, Adds (fun s => s.idle = true) x → Keeps C x :=
    hC.keeps hmark
  refine Triple.bind (Q := fun _ => X) (Triple.get fun r h => h ▸ hstart) fun r => ?_
  refine Triple.bind (hbefore (hA.keeps hmark .require)) fun _ => ?_
  refine Triple.bind (hbefore (keeps_mark hA hmark)) fun _ => ?_
  refine Triple.bind (hbefore Keeps.get) fun r => ?_
  refine Triple.bind (hbefore (hA.keeps hmark .require)) fun _ => ?_
  refine Triple.bind (hbefore (hA.keeps hmark (idle_of_adds adds_identity))) fun _ => ?_
  refine Triple.bind (hbefore (hA.keeps hmark (idle_of_adds adds_healthy))) fun _ => ?_
  refine Triple.bind (triple_caught_or hsubstitute fun r e => hB.idle hmark rfl) fun failure => ?_
  refine Triple.bind (hundo failure) fun failure => ?_
  refine Keeps.bind keeps_reraise fun _ => Keeps.bind Keeps.get fun r => ?_
  exact Keeps.bind (hidle .require) fun _ => Keeps.bind (hidle .ask) fun _ => hidle (.push rfl)

/-- The module at the end of a run. -/
lemma run_ended {a : Bool} {host : Host} :
    Triple (fun r => r = Run.start host a) (run c m) (fun _ => Ended) fun _ => Ended := by
  refine run_ends inert_kept inert_started inert_ended rfl (fun r h => Or.inl (Or.inl h))
    substitute_started (fun failure => ?_) kept_start
  refine Triple.bind triple_get fun r₀ => Triple.bind restored_ends fun failure => ?_
  refine Keeps.bind Keeps.get fun r => Keeps.bind ?_ fun failure => ?_
  · exact Triple.ite (fun _ => triple_caught_or (keeps_removeApproval inert_ended)
      fun r e => inert_ended.idle rfl rfl) fun _ => Triple.pure fun _ => id
  · refine Keeps.bind (inert_ended.keeps rfl .ask) fun _ => Keeps.bind Keeps.get fun r => ?_
    exact Keeps.bind (inert_ended.keeps rfl (.push rfl)) fun _ => Keeps.pure

/-- The approval at the end of a run. -/
lemma run_closed {a : Bool} {host : Host} :
    Triple (fun r => r = Run.start host a) (run c m) (fun _ => Closed) fun _ => Closed := by
  refine run_ends inert_unmade inert_begun inert_closed rfl (fun r h => Or.inl (Or.inl h))
    substitute_begun (fun failure => ?_)
    ⟨rfl, List.not_mem_nil, fun _ h => absurd h List.not_mem_nil⟩
  refine Triple.bind (Q := fun _ => Begun) (Triple.get fun _ => id) fun r => ?_
  refine Triple.bind (Q := fun _ => Begun) (Triple.ite (fun _ => triple_caught_or (keeps_restore inert_begun)
    fun r e => inert_begun.idle rfl rfl) fun _ => Triple.pure fun _ => id) fun failure => ?_
  refine Triple.bind triple_get fun r₀ => Triple.bind (Q := fun _ => Closed) ?_ fun failure => ?_
  · refine Triple.ite (fun hinstalled => ?_) fun hinstalled => ?_
    · refine (triple_caught_or (E := Removing) (X := Closed) (removeApproval_ends.post fun _ r h => ?_)
        ?_).pre ?_
      · exact Or.inr ⟨h.1, Or.inl h.2⟩
      · exact fun r e h => Or.inr ⟨inert_removing.idle rfl rfl h,
          Or.inr ⟨_, mem_add.mpr (Or.inr rfl), rfl⟩⟩
      · rintro r ⟨(h | h) | h, rfl⟩
        · exact absurd hinstalled (by simp [h.1])
        · exact absurd hinstalled (by simp [h.1])
        · exact h
    · refine Triple.pure ?_
      rintro r ⟨h | h, rfl⟩
      · exact Or.inl h
      · exact absurd h.1 hinstalled
  · refine Keeps.bind (inert_closed.keeps rfl .ask) fun _ => Keeps.bind Keeps.get fun r => ?_
    exact Keeps.bind (inert_closed.keeps rfl (.push rfl)) fun _ => Keeps.pure

end Live

/-! ### Every run -/

/-- **A campaign undoes its changes**, or records why it could not, if and only if the commands that
made them told of it: every removal of the original that took effect returned 0, and if anything of the
native approval was made, then both of its commands returned 0. -/
theorem undone_iff (host : Host) (a : Bool) :
    (∀ (c : Qualify.Config) (m : Qualify.Machine),
      let r := endOf (Qualify.run c m) (.start host a)
      ModuleUndone r ↔ UnloadTold r) ∧
    ∀ (c : Live.Config) (m : Live.Machine),
      let r := endOf (Live.run c m) (.start host a)
      (ModuleUndone r ↔ UnloadTold r) ∧ (ApprovalUndone r ↔ CreationTold r) := by
  refine ⟨fun c m => ?_, fun c m => ⟨?_, ?_⟩⟩
  · exact ((endOf_of_triple Qualify.run_ended rfl).elim id id).moduleUndone_iff
  · exact ((endOf_of_triple Live.run_ended rfl).elim id id).moduleUndone_iff
  · exact ((endOf_of_triple Live.run_closed rfl).elim id id).approvalUndone_iff

/-- A removal of the original that times out after it has taken effect is not undone. -/
theorem change_left : ¬((∀ (c : Qualify.Config) (m : Qualify.Machine) (host : Host) (a : Bool),
      ModuleUndone (endOf (Qualify.run c m) (.start host a))) ∧
    ∀ (c : Live.Config) (m : Live.Machine) (host : Host) (a : Bool),
      ModuleUndone (endOf (Live.run c m) (.start host a)) ∧
        ApprovalUndone (endOf (Live.run c m) (.start host a))) := by
  rintro ⟨-, hall⟩
  let m := quietMachine true fun command =>
    if command = .rmmod then .raised "timed out" true else .exit 0 true
  have hundone := (hall ⟨[], List.nodup_nil⟩ m ⟨some .original, false, false⟩ false).1
  have hsteps : (∃ o ∈ unloads (endOf (Live.run ⟨[], List.nodup_nil⟩ m)
      (.start ⟨some .original, false, false⟩ false)).steps, o.took = true) := by
    decide +kernel
  exact absurd (hundone hsteps).1 (by decide +kernel)

end OmarchyM1Video.Campaigns
