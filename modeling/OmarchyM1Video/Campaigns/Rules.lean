import OmarchyM1Video.Campaigns.Live
import OmarchyM1Video.Campaigns.Qualify

/-!
Rules for the methods of a campaign.

* `Adds p x`: all that `x` does to a run is to add steps that satisfy `p`, and the exception if it
  ends with one; `Adds.triple` turns this into a pre- and postcondition;
* `Step.plain`: the steps of the checks, which neither run a command nor concern a workload;
* `triple_healthy`, `triple_identity`, `triple_transition`: what the three methods give that the
  restoration and the workloads are made of.
-/

namespace OmarchyM1Video.Campaigns

open OmarchyM1Video.Py

variable {ℓ α β : Type} {p q : Step ℓ → Prop} {x : M ℓ α} {f : α → M ℓ β} {r : Run ℓ}

/-- The run with the steps `more`. -/
def Run.addAll (r : Run ℓ) (more : List (Step ℓ)) : Run ℓ := { r with steps := r.steps ++ more }

@[simp] lemma Run.addAll_nil : r.addAll [] = r := by simp [Run.addAll]

@[simp] lemma Run.addAll_addAll {more more' : List (Step ℓ)} :
    (r.addAll more).addAll more' = r.addAll (more ++ more') := by
  simp [Run.addAll, List.append_assoc]

lemma Run.add_eq {s : Step ℓ} : r.add s = r.addAll [s] := rfl

/-- All that `x` does is to add steps that satisfy `p`, the exception being the last of them. -/
def Adds (p : Step ℓ → Prop) (x : M ℓ α) : Prop :=
  ∀ r, Meets (fun _ r' => ∃ more, (∀ s ∈ more, p s) ∧ r' = r.addAll more)
    (fun e r' => ∃ more, (∀ s ∈ more, p s) ∧ r' = (r.addAll more).add (.raised e)) (x r)

namespace Adds

lemma mono (h : Adds p x) (hpq : ∀ s, p s → q s) : Adds q x := by
  intro r
  have hx := h r
  rcases hres : x r with ⟨a, r'⟩ | ⟨e, r'⟩ <;> rw [hres] at hx <;> obtain ⟨more, hp, hr⟩ := hx
  · exact ⟨more, fun s hs => hpq s (hp s hs), hr⟩
  · exact ⟨more, fun s hs => hpq s (hp s hs), hr⟩

lemma pure {a : α} : Adds p (Pure.pure a : M ℓ α) := fun _ => ⟨[], by simp, by simp⟩

lemma bind (hx : Adds p x) (hf : ∀ a, Adds p (f a)) : Adds p (x >>= f) := by
  intro r
  have hmeets := hx r
  change Meets _ _ (EStateM.bind x f r)
  rw [EStateM.bind]
  rcases hres : x r with ⟨a, r₁⟩ | ⟨e, r₁⟩ <;> rw [hres] at hmeets
  · obtain ⟨more, hp, rfl⟩ := hmeets
    have hnext := hf a (r.addAll more)
    change Meets _ _ (f a (r.addAll more))
    rcases hres' : f a (r.addAll more) with ⟨b, r₂⟩ | ⟨e, r₂⟩ <;> rw [hres'] at hnext
    · obtain ⟨more', hp', rfl⟩ := hnext
      exact ⟨more ++ more', List.forall_mem_append.mpr ⟨hp, hp'⟩, Run.addAll_addAll⟩
    · obtain ⟨more', hp', rfl⟩ := hnext
      exact ⟨more ++ more', List.forall_mem_append.mpr ⟨hp, hp'⟩, by rw [Run.addAll_addAll]⟩
  · exact hmeets

lemma get_bind {g : Run ℓ → M ℓ β} (h : ∀ r, Adds p (g r)) : Adds p (get >>= g) :=
  fun r => h r r

lemma push {s : Step ℓ} (hs : p s) : Adds p (Campaigns.push s) :=
  fun _ => ⟨[s], by simpa using hs, rfl⟩

lemma fail {e : String} : Adds p (Campaigns.fail e : M ℓ α) := fun _ => ⟨[], by simp, by rw [Run.addAll_nil]⟩

lemma settle {o : Except String α} : Adds p (Campaigns.settle o) := by
  cases o with
  | ok a => exact pure
  | error e => exact fail

lemma ask {answer : List (Step ℓ) → Except String α} : Adds p (Campaigns.ask answer) :=
  get_bind fun _ => settle

lemma askSome {answer : List (Step ℓ) → Except String α} : Adds p (Campaigns.askSome answer) :=
  bind ask fun _ => pure

lemma ite {c : Prop} [Decidable c] {y : M ℓ α} (hx : c → Adds p x) (hy : ¬c → Adds p y) :
    Adds p (if c then x else y) := by
  split_ifs with hc
  · exact hx hc
  · exact hy hc

lemma require {c : Prop} [Decidable c] {e : String} : Adds p (Campaigns.require c e) :=
  ite (fun _ => pure) fun _ => fail

lemma onlyIf {c : Prop} [Decidable c] {y : M ℓ Unit} (hy : Adds p y) : Adds p (Py.onlyIf c y) :=
  ite (fun _ => hy) fun _ => pure

lemma each {γ : Type} {g : γ → M ℓ Unit} {xs : List γ} (h : ∀ c ∈ xs, Adds p (g c)) :
    Adds p (Py.each g xs) := by
  induction xs with
  | nil => exact pure
  | cons c xs ih =>
      rw [List.forall_mem_cons] at h
      exact bind h.1 fun _ => ih h.2

/-- What such steps keep, the program keeps. -/
lemma triple {P E : Run ℓ → Prop} (h : Adds p x) (hstep : ∀ r s, p s → P r → P (r.add s))
    (hfail : ∀ r e, P r → E (r.add (.raised e))) :
    Triple P x (fun _ => P) fun _ => E := by
  have hall : ∀ (more : List (Step ℓ)) r, (∀ s ∈ more, p s) → P r → P (r.addAll more) := by
    intro more
    induction more with
    | nil => exact fun r _ hr => by rwa [Run.addAll_nil]
    | cons s more ih =>
        intro r hs hr
        rw [List.forall_mem_cons] at hs
        have := ih (r.add s) hs.2 (hstep r s hs.1 hr)
        rwa [Run.add_eq, Run.addAll_addAll] at this
  intro r hr
  have hx := h r
  rcases hres : x r with ⟨a, r'⟩ | ⟨e, r'⟩ <;> rw [hres] at hx
  · obtain ⟨more, hp, rfl⟩ := hx
    exact hall more r hp hr
  · obtain ⟨more, hp, rfl⟩ := hx
    exact hfail _ e (hall more r hp hr)

end Adds

lemma triple_fail {P : Run ℓ → Prop} {Q : α → Run ℓ → Prop} {E : Run ℓ → Prop} {e : String}
    (hfail : ∀ r e, P r → E (r.add (.raised e))) : Triple P (fail e : M ℓ α) Q fun _ => E :=
  Triple.bind (Q := fun _ => E) (Triple.modify fun r => hfail r e) fun _ => Triple.throw fun _ => id

lemma triple_get {P : Run ℓ → Prop} {E : String → Run ℓ → Prop} :
    Triple P (get : M ℓ (Run ℓ)) (fun r r' => P r' ∧ r = r') E := fun _ hr => ⟨hr, rfl⟩

lemma triple_need {P E : Run ℓ → Prop} {c : Prop} [Decidable c] {message : String}
    (hfail : ∀ r, P r → ∀ e, E (r.add (.raised e))) :
    Triple P (require c message) (fun _ r => P r ∧ c) fun _ => E :=
  Triple.ite (fun hc => Triple.pure fun _ hr => ⟨hr, hc⟩) fun _ =>
    triple_fail fun r e hr => hfail r hr e

/-- A loop over a list, with an invariant that knows what is done. -/
lemma triple_each {γ : Type} {g : γ → M ℓ Unit} {I : List γ → Run ℓ → Prop} {E : Run ℓ → Prop}
    {xs : List γ} (h : ∀ done c rest, xs = done ++ c :: rest →
      Triple (I done) (g c) (fun _ => I (done ++ [c])) fun _ => E) :
    Triple (I []) (each g xs) (fun _ => I xs) fun _ => E := by
  have hall : ∀ rest done, xs = done ++ rest →
      Triple (I done) (each g rest) (fun _ => I xs) fun _ => E := by
    intro rest
    induction rest with
    | nil =>
        rintro done hsplit
        rw [List.append_nil] at hsplit
        exact Triple.pure fun r hr => hsplit ▸ hr
    | cons c rest ih =>
        intro done hsplit
        exact Triple.bind (h done c rest hsplit) fun _ => ih (done ++ [c]) (by simpa using hsplit)
  exact hall xs [] rfl

/-! ### The checks -/

/-- The steps of the checks. -/
def Step.plain : Step ℓ → Bool
  | .event (.workloadStart _) | .event (.workloadAccepted _) => false
  | .event (.restoreIncomplete _) | .event (.cleanupFailed _) => false
  | .event _ | .healthy | .identity _ => true
  | _ => false

/-- Steps of the checks keep `P`. -/
def Stable (P : Run ℓ → Prop) : Prop := ∀ r s, s.plain = true → P r → P (r.add s)

lemma Stable.and {P Q : Run ℓ → Prop} (hP : Stable P) (hQ : Stable Q) :
    Stable fun r => P r ∧ Q r := fun r s hs h => ⟨hP r s hs h.1, hQ r s hs h.2⟩

section Methods

variable {m : Machine ℓ} {t : Texts} {P Q E : Run ℓ → Prop} {present : Bool} {which : Module}
  {c : Command}

lemma adds_record {e : Event ℓ} (he : (Step.event e).plain = true) :
    Adds (fun s => s.plain = true) (record e) := .push he

lemma adds_healthy : Adds (fun s => s.plain = true) (healthyWith m t present) :=
  .bind .ask fun _ => .bind (.push rfl) fun _ => .bind .require fun _ =>
    .bind (.onlyIf (.bind .ask fun _ => .require)) fun _ => .bind .require fun _ =>
      .bind (.push rfl) fun _ => .pure

lemma adds_loadedNote : Adds p (loadedNote m) := by
  refine .get_bind fun r => ?_
  split
  · exact .pure
  · exact .fail
  · exact .fail

lemma adds_identity : Adds (fun s => s.plain = true) (identityWith m t which) :=
  .bind .ask fun _ => .bind .require fun _ => .bind adds_loadedNote fun _ =>
    .bind .require fun _ => .push rfl

/-- A health check that passes is the last thing that was done. -/
lemma triple_healthy (hP : Stable P) (hok : ∀ r, P r → Q (r.add .healthy))
    (hfail : ∀ r e, P r → E (r.add (.raised e))) :
    Triple P (healthyWith m t present) (fun _ => Q) fun _ => E := by
  refine Triple.bind (Adds.ask.triple hP hfail) fun a => ?_
  refine Triple.bind ((adds_record rfl).triple hP hfail) fun _ => ?_
  refine Triple.bind (Adds.require.triple hP hfail) fun _ => ?_
  refine Triple.bind ((Adds.onlyIf (.bind .ask fun _ => .require)).triple hP hfail) fun _ => ?_
  refine Triple.bind (Adds.require.triple hP hfail) fun _ => ?_
  exact Triple.bind (Q := fun _ => Q) (Triple.modify hok) fun _ => Triple.pure fun _ => id

lemma triple_loadedNote (hfail : ∀ r e, P r → E (r.add (.raised e))) :
    Triple P (loadedNote m) (fun which r => P r ∧ r.host.loaded = some which) fun _ => E := by
  refine Triple.bind triple_get fun r => ?_
  split
  case h_1 which hloaded _ =>
    refine Triple.pure ?_
    rintro _ ⟨hr, rfl⟩
    exact ⟨hr, hloaded⟩
  all_goals exact triple_fail fun r e hr => hfail r e hr.1

/-- An identity check that passes has seen this build loaded. -/
lemma triple_identity (hP : Stable P)
    (hok : ∀ r, P r → r.host.loaded = some which → Q (r.add (.identity which)))
    (hfail : ∀ r e, P r → E (r.add (.raised e))) :
    Triple P (identityWith m t which) (fun _ => Q) fun _ => E := by
  refine Triple.bind (Adds.ask.triple hP hfail) fun same => ?_
  refine Triple.bind (Adds.require.triple hP hfail) fun _ => ?_
  refine Triple.bind (triple_loadedNote hfail) fun note => ?_
  refine Triple.bind (triple_need fun r hr e => hfail r e hr.1) fun _ => ?_
  refine Triple.modify ?_
  rintro r ⟨⟨hr, hloaded⟩, rfl⟩
  exact hok r hr hloaded

/-- The run after a command. -/
def Run.did (r : Run ℓ) (c : Command) (o : Outcome) : Run ℓ :=
  { r.add (.command c o r.host) with host := if o.took then c.effect r.host else r.host }

/-- A command that returns 0 is followed by its record only, one that fails by an exception. -/
lemma triple_transition {R : Run ℓ → Prop} (hP : Stable P) (hQ : Stable Q) (hR : Stable R)
    (hok : ∀ r o, P r → o.ok = true → Q (r.did c o))
    (herr : ∀ r o, P r → o.ok = false → R (r.did c o))
    (hfail : ∀ r e, R r → E (r.add (.raised e))) :
    Triple P (transitionWith m t c) (fun _ => Q) fun _ => E := by
  refine Triple.bind (Q := fun _ => P) (Triple.modify fun r hr => hP r _ rfl hr) fun _ => ?_
  refine Triple.bind (Q := fun o r => if o.ok then Q r else R r) ?_ fun o => ?_
  · intro r hr
    change ite _ (Q (r.did c _)) (R (r.did c _))
    split_ifs with h
    · exact hok r _ hr h
    · exact herr r _ hr (by simpa using h)
  · cases o with
    | raised e took =>
        exact triple_fail hfail
    | exit code took =>
        by_cases hcode : code = 0
        · refine Triple.bind (Q := fun _ => Q) (Triple.modify fun r hr => ?_) fun _ => ?_
          · have hr' : Q r := by simpa [Outcome.ok, hcode] using hr
            exact hQ r _ rfl hr'
          · rw [require, if_pos hcode]
            exact Triple.pure fun _ => id
        · refine Triple.bind (Q := fun _ => R) (Triple.modify fun r hr => ?_) fun _ => ?_
          · have hr' : R r := by simpa [Outcome.ok, hcode] using hr
            exact hR r _ rfl hr'
          · rw [require, if_neg hcode]
            exact triple_fail hfail

end Methods

end OmarchyM1Video.Campaigns
