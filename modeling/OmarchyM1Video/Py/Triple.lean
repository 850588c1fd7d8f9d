import Mathlib.Logic.Basic
import OmarchyM1Video.Py.Exec

/-!
Pre- and postconditions of a computation with a state and exceptions.

`Triple P x Q E`: from a state with `P`, the computation `x` ends with a value and a state in `Q`, or
is cut short by an exception in a state in `E`.  The second is a postcondition of its own, since a
`finally` clause, or the next run of a program that was killed, goes on from that state.

* `Triple`, with its rules for sequencing, branching, consequence and conjunction;
* `tryExcept`, `tryFinally`: the statements of Python, and their rules;
* `Keeps`: the invariant of a computation, wherever it is cut short;
* `atKey`: a computation on one component of a family of states, and the rule for a loop of these.
-/

namespace OmarchyM1Video.Py

variable {ε σ α β : Type} {P P' : σ → Prop} {x : EStateM ε σ α} {f : α → EStateM ε σ β}
  {Q Q' : α → σ → Prop} {R : β → σ → Prop} {E E' : ε → σ → Prop} {I : σ → Prop}

/-- The result is in `Q`, or the exception in `E`. -/
def Meets (Q : α → σ → Prop) (E : ε → σ → Prop) : EStateM.Result ε σ α → Prop
  | .ok a s => Q a s
  | .error e s => E e s

/-- From `P` the computation ends in `Q`, or raises in `E`. -/
def Triple (P : σ → Prop) (x : EStateM ε σ α) (Q : α → σ → Prop) (E : ε → σ → Prop) : Prop :=
  ∀ s, P s → Meets Q E (x s)

namespace Triple

lemma ok (h : Triple P x Q E) {s s' : σ} {a : α} (hs : P s) (hx : x s = .ok a s') : Q a s' := by
  have := h s hs
  rwa [hx] at this

lemma error (h : Triple P x Q E) {s s' : σ} {e : ε} (hs : P s) (hx : x s = .error e s') :
    E e s' := by
  have := h s hs
  rwa [hx] at this

lemma conseq (h : Triple P x Q E) (hP : ∀ s, P' s → P s) (hQ : ∀ a s, Q a s → Q' a s)
    (hE : ∀ e s, E e s → E' e s) : Triple P' x Q' E' := by
  intro s hs
  have hx := h s (hP s hs)
  rcases hres : x s with ⟨a, s'⟩ | ⟨e, s'⟩ <;> rw [hres] at hx
  · exact hQ a s' hx
  · exact hE e s' hx

lemma pre (h : Triple P x Q E) (hP : ∀ s, P' s → P s) : Triple P' x Q E :=
  h.conseq hP (fun _ _ => id) fun _ _ => id

lemma post (h : Triple P x Q E) (hQ : ∀ a s, Q a s → Q' a s) : Triple P x Q' E :=
  h.conseq (fun _ => id) hQ fun _ _ => id

lemma and (h : Triple P x Q E) (h' : Triple P' x Q' E') :
    Triple (fun s => P s ∧ P' s) x (fun a s => Q a s ∧ Q' a s) fun e s => E e s ∧ E' e s := by
  rintro s ⟨hs, hs'⟩
  have hx := h s hs
  have hx' := h' s hs'
  rcases hres : x s with ⟨a, s'⟩ | ⟨e, s'⟩ <;> rw [hres] at hx hx' <;> exact ⟨hx, hx'⟩

lemma pure {a : α} (h : ∀ s, P s → Q a s) : Triple P (Pure.pure a : EStateM ε σ α) Q E := h

lemma throw {e : ε} (h : ∀ s, P s → E e s) : Triple P (throw e : EStateM ε σ α) Q E := h

lemma bind (hx : Triple P x Q E) (hf : ∀ a, Triple (Q a) (f a) R E) : Triple P (x >>= f) R E := by
  intro s hs
  have hmeets := hx s hs
  change Meets R E (EStateM.bind x f s)
  rw [EStateM.bind]
  rcases hres : x s with ⟨a, s'⟩ | ⟨e, s'⟩ <;> rw [hres] at hmeets
  · exact hf a s' hmeets
  · exact hmeets

lemma get {Q : σ → σ → Prop} (h : ∀ s, P s → Q s s) :
    Triple P (MonadState.get : EStateM ε σ σ) Q E := h

lemma modify {g : σ → σ} {Q : PUnit → σ → Prop} (h : ∀ s, P s → Q ⟨⟩ (g s)) :
    Triple P (modify g : EStateM ε σ PUnit) Q E := h

lemma ite {c : Prop} [Decidable c] {y : EStateM ε σ α} (hx : c → Triple P x Q E)
    (hy : ¬ c → Triple P y Q E) : Triple P (if c then x else y) Q E := by
  split_ifs with hc
  · exact hx hc
  · exact hy hc

end Triple

/-! ### `try` -/

/-- `try: x` with one `except` clause, for the exceptions that `catches` names. -/
def tryExcept (x : EStateM ε σ α) (catches : ε → Bool) (handler : ε → EStateM ε σ α) :
    EStateM ε σ α := fun s =>
  match x s with
  | .ok a s' => .ok a s'
  | .error e s' => if catches e then handler e s' else .error e s'

/-- `try: x` with a `finally` clause, which runs after every ending that `ends` names. -/
def tryFinally (x : EStateM ε σ α) (ends : ε → Bool) (cleanup : EStateM ε σ Unit) :
    EStateM ε σ α := fun s =>
  match x s with
  | .ok a s' =>
      match cleanup s' with
      | .ok _ s'' => .ok a s''
      | .error e s'' => .error e s''
  | .error e s' =>
      if ends e then
        match cleanup s' with
        | .ok _ s'' => .error e s''
        | .error e' s'' => .error e' s''
      else .error e s'

lemma Triple.tryExcept {catches : ε → Bool} {handler : ε → EStateM ε σ α}
    (hx : Triple P x Q E) (hpass : ∀ e s, catches e = false → E e s → E' e s)
    (hcatch : ∀ e, catches e = true → Triple (E e) (handler e) Q E') :
    Triple P (Py.tryExcept x catches handler) Q E' := by
  intro s hs
  have hmeets := hx s hs
  rw [Py.tryExcept]
  rcases hres : x s with ⟨a, s'⟩ | ⟨e, s'⟩ <;> rw [hres] at hmeets
  · exact hmeets
  · change Meets Q E' (if catches e then handler e s' else .error e s')
    rcases hc : catches e with _ | _
    · exact hpass e s' hc hmeets
    · exact hcatch e hc s' hmeets

/-- The cleanup starts after a value and after an exception alike; an exception is passed on after
it. -/
lemma Triple.tryFinally {ends : ε → Bool} {cleanup : EStateM ε σ Unit}
    (hx : Triple P x Q E) (hpass : ∀ e s, ends e = false → E e s → E' e s)
    (hok : ∀ a, Triple (Q a) cleanup (fun _ => Q' a) E')
    (herror : ∀ e, ends e = true → Triple (E e) cleanup (fun _ => E' e) E') :
    Triple P (Py.tryFinally x ends cleanup) Q' E' := by
  intro s hs
  have hmeets := hx s hs
  rw [Py.tryFinally]
  rcases hres : x s with ⟨a, s'⟩ | ⟨e, s'⟩ <;> rw [hres] at hmeets
  · have hclean := hok a s' hmeets
    change Meets Q' E' (match cleanup s' with
      | .ok _ s'' => .ok a s''
      | .error e s'' => .error e s'')
    rcases hres' : cleanup s' with ⟨_, s''⟩ | ⟨e', s''⟩ <;> rw [hres'] at hclean <;> exact hclean
  · rcases hc : ends e with _ | _
    · simp only [hc, Bool.false_eq_true, if_false]
      exact hpass e s' hc hmeets
    · have hclean := herror e hc s' hmeets
      simp only [hc, if_true]
      rcases hres' : cleanup s' with ⟨_, s''⟩ | ⟨e', s''⟩ <;> rw [hres'] at hclean <;> exact hclean

/-! ### Invariants -/

/-- The computation keeps `I`, also where it is cut short. -/
def Keeps (I : σ → Prop) (x : EStateM ε σ α) : Prop := Triple I x (fun _ => I) fun _ => I

namespace Keeps

lemma pure {a : α} : Keeps I (Pure.pure a : EStateM ε σ α) := Triple.pure fun _ => id

lemma bind (hx : Keeps I x) (hf : ∀ a, Keeps I (f a)) : Keeps I (x >>= f) := Triple.bind hx hf

lemma modify {g : σ → σ} (h : ∀ s, I s → I (g s)) : Keeps I (modify g : EStateM ε σ PUnit) :=
  Triple.modify h

lemma get : Keeps I (MonadState.get : EStateM ε σ σ) := Triple.get fun _ => id

lemma ite {c : Prop} [Decidable c] {y : EStateM ε σ α} (hx : c → Keeps I x) (hy : ¬ c → Keeps I y) :
    Keeps I (if c then x else y) := Triple.ite hx hy

end Keeps

/-! ### Families of states -/

section Family

variable {κ : Type} [DecidableEq κ]

/-- The computation, on one component of a family of states. -/
def atKey (k : κ) (x : EStateM ε σ α) : EStateM ε (κ → σ) α := fun g =>
  match x (g k) with
  | .ok a s => .ok a (Function.update g k s)
  | .error e s => .error e (Function.update g k s)

lemma meets_atKey {k : κ} {g : κ → σ} {R : α → (κ → σ) → Prop} {S : ε → (κ → σ) → Prop}
    (h : Meets (fun a s => R a (Function.update g k s)) (fun e s => S e (Function.update g k s))
      (x (g k))) : Meets R S (atKey k x g) := by
  rw [atKey]
  rcases hres : x (g k) with ⟨a, s⟩ | ⟨e, s⟩ <;> rw [hres] at h <;> exact h

/-- A loop over some of the components takes each of them from `B` to `A`; where it is cut
short, every component is in `C`. -/
lemma triple_each_atKey {B A C : κ → σ → Prop} {x : κ → EStateM ε σ Unit} {ks : List κ}
    (hks : ks.Nodup) (hbefore : ∀ k s, B k s → C k s) (hafter : ∀ k s, A k s → C k s)
    (hx : ∀ k ∈ ks, Triple (B k) (x k) (fun _ => A k) fun _ => C k) :
    Triple (fun g => ∀ k, (k ∈ ks → B k (g k)) ∧ (k ∉ ks → A k (g k)))
      (each (fun k => atKey k (x k)) ks) (fun _ g => ∀ k, A k (g k))
      fun _ g => ∀ k, C k (g k) := by
  induction ks with
  | nil => exact Triple.pure fun g hg k => (hg k).2 (List.not_mem_nil)
  | cons k ks ih =>
      rw [List.nodup_cons] at hks
      rw [List.forall_mem_cons] at hx
      refine Triple.bind
        (Q := fun _ g => ∀ k, (k ∈ ks → B k (g k)) ∧ (k ∉ ks → A k (g k)))
        (fun g hg => meets_atKey ?_) fun _ => ih hks.2 hx.2
      have hmeets := hx.1 (g k) ((hg k).1 List.mem_cons_self)
      have hother : ∀ k', k' ≠ k →
          (k' ∈ ks → B k' (g k')) ∧ (k' ∉ ks → A k' (g k')) := by
        intro k' hk
        refine ⟨fun hmem => (hg k').1 (List.mem_cons_of_mem _ hmem), fun hmem => (hg k').2 ?_⟩
        rw [List.mem_cons, not_or]
        exact ⟨hk, hmem⟩
      rcases hres : x k (g k) with ⟨_, s⟩ | ⟨_, s⟩ <;> rw [hres] at hmeets
      · intro k'
        by_cases hk : k' = k
        · subst hk
          rw [Function.update_self]
          exact ⟨fun hmem => absurd hmem hks.1, fun _ => hmeets⟩
        · rw [Function.update_of_ne hk]
          exact hother k' hk
      · intro k'
        by_cases hk : k' = k
        · subst hk
          rw [Function.update_self]
          exact hmeets
        · rw [Function.update_of_ne hk]
          by_cases hmem : k' ∈ ks
          · exact hbefore k' _ ((hother k' hk).1 hmem)
          · exact hafter k' _ ((hother k' hk).2 hmem)

end Family

end OmarchyM1Video.Py
