import Mathlib.Data.List.Induction

/-!
Computations with a state and exceptions, as a Python method has them: an exception does not
undo the assignments made before it, so the result of a failed call still carries a state.
`EStateM` is that monad.

* `Exc`: an exception raised by name, or by a built-in operation on an unsuitable value;
* `raiseIf`, `onlyIf`, `orRaise`, `lift`: a guard, a conditional step, a value that must be
  there, a read-only computation;
* `bind_ok`, `bind_error`, `raiseIf_ok`, …: success and failure of a computation read off step
  by step, which is how every method is inverted later;
* `each`: a loop over a list that stops at the first exception.  `each_append_ok` and
  `each_error_iff` split a run, `each_rule` is the invariant rule for a property of the history
  and the state, under a condition on the steps (`Along`), and `visits_iff_along` the rule for a
  condition that is exactly what a property of the states needs.
-/

namespace OmarchyM1Video.Py

/-- The built-in exceptions an operation on an unsuitable value raises. -/
inductive Builtin where
  | keyError | typeError | attributeError | indexError
  deriving DecidableEq, Repr

/-- An exception: raised by the program with a payload, or by a built-in operation. -/
inductive Exc (ρ : Type) where
  | raise (r : ρ)
  | builtin (b : Builtin)
  deriving DecidableEq, Repr

section Exec

variable {ε σ α β : Type}

/-- `if c: raise e`. -/
def raiseIf (c : Prop) [Decidable c] (e : ε) : EStateM ε σ Unit :=
  if c then throw e else pure ()

/-- The value, or the exception where there is none. -/
def orRaise (o : Option α) (e : ε) : EStateM ε σ α :=
  match o with
  | some a => pure a
  | none => throw e

/-- A computation that may raise but touches no state. -/
def lift (x : Except ε α) : EStateM ε σ α :=
  match x with
  | .ok a => pure a
  | .error e => throw e

/-- `if c: x()`. -/
def onlyIf (c : Prop) [Decidable c] (x : EStateM ε σ Unit) : EStateM ε σ Unit :=
  if c then x else pure ()

/-! ### Reading off success and failure -/

lemma bind_ok {x : EStateM ε σ α} {f : α → EStateM ε σ β} {s s₂ : σ} {b : β} :
    (x >>= f) s = .ok b s₂ ↔ ∃ a s₁, x s = .ok a s₁ ∧ f a s₁ = .ok b s₂ := by
  change EStateM.bind x f s = _ ↔ _
  rw [EStateM.bind]
  cases x s <;> simp

lemma bind_error {x : EStateM ε σ α} {f : α → EStateM ε σ β} {s s₂ : σ} {e : ε} :
    (x >>= f) s = .error e s₂
      ↔ x s = .error e s₂ ∨ ∃ a s₁, x s = .ok a s₁ ∧ f a s₁ = .error e s₂ := by
  change EStateM.bind x f s = _ ↔ _
  rw [EStateM.bind]
  cases x s <;> simp

@[simp] lemma get_bind {f : σ → EStateM ε σ β} {s : σ} : (get >>= f) s = f s s := rfl

@[simp] lemma modify_bind {g : σ → σ} {f : PUnit → EStateM ε σ β} {s : σ} :
    (modify g >>= f) s = f ⟨⟩ (g s) := rfl

@[simp] lemma pure_run {a : α} {s : σ} : (pure a : EStateM ε σ α) s = .ok a s := rfl

@[simp] lemma throw_run {e : ε} {s : σ} : (throw e : EStateM ε σ α) s = .error e s := rfl

@[simp] lemma modify_run {g : σ → σ} {s : σ} :
    (modify g : EStateM ε σ PUnit) s = .ok ⟨⟩ (g s) := rfl

section Guards

variable {c : Prop} [Decidable c] {e e₁ : ε} {s s₁ : σ} {b : β}

@[simp] lemma raiseIf_ok {u : Unit} :
    (raiseIf c e : EStateM ε σ Unit) s = .ok u s₁ ↔ ¬c ∧ s = s₁ := by
  by_cases h : c <;> simp [raiseIf, h]

@[simp] lemma raiseIf_error :
    (raiseIf c e : EStateM ε σ Unit) s = .error e₁ s₁ ↔ c ∧ e = e₁ ∧ s = s₁ := by
  by_cases h : c <;> simp [raiseIf, h]

@[simp] lemma raiseIf_bind_ok {f : Unit → EStateM ε σ β} :
    (raiseIf c e >>= f) s = .ok b s₁ ↔ ¬c ∧ f () s = .ok b s₁ := by
  by_cases h : c
  · simp [bind_ok, h]
  · rw [raiseIf, if_neg h, and_iff_right h]
    exact Iff.rfl

@[simp] lemma raiseIf_bind_error {f : Unit → EStateM ε σ β} :
    (raiseIf c e >>= f) s = .error e₁ s₁
      ↔ (c ∧ e = e₁ ∧ s = s₁) ∨ (¬c ∧ f () s = .error e₁ s₁) := by
  by_cases h : c
  · simp [bind_error, h]
  · rw [raiseIf, if_neg h, and_iff_right h, or_iff_right fun hc => h hc.1]
    exact Iff.rfl

@[simp] lemma onlyIf_ok {x : EStateM ε σ Unit} {u : Unit} :
    onlyIf c x s = .ok u s₁ ↔ (c ∧ x s = .ok () s₁) ∨ (¬c ∧ s = s₁) := by
  by_cases h : c <;> simp [onlyIf, h]

@[simp] lemma onlyIf_error {x : EStateM ε σ Unit} :
    onlyIf c x s = .error e s₁ ↔ c ∧ x s = .error e s₁ := by
  by_cases h : c <;> simp [onlyIf, h]

end Guards

section Values

variable {o : Option α} {x : Except ε α} {f : α → EStateM ε σ β} {e e₁ : ε} {s s₁ : σ} {a : α}
  {b : β}

@[simp] lemma orRaise_ok : (orRaise o e : EStateM ε σ α) s = .ok a s₁ ↔ o = some a ∧ s = s₁ := by
  cases o <;> simp [orRaise]

@[simp] lemma orRaise_bind_ok :
    (orRaise o e >>= f) s = .ok b s₁ ↔ ∃ a, o = some a ∧ f a s = .ok b s₁ := by
  cases o <;> simp [bind_ok]

@[simp] lemma orRaise_bind_error :
    (orRaise o e >>= f) s = .error e₁ s₁
      ↔ (o = none ∧ e = e₁ ∧ s = s₁) ∨ ∃ a, o = some a ∧ f a s = .error e₁ s₁ := by
  cases o <;> simp [bind_error, orRaise]

lemma lift_ok {s' : σ} : (lift x : EStateM ε σ α) s = .ok a s' ↔ x = .ok a ∧ s = s' := by
  cases x <;> simp [lift]

@[simp] lemma lift_bind_ok :
    (lift x >>= f) s = .ok b s₁ ↔ ∃ a, x = .ok a ∧ f a s = .ok b s₁ := by
  cases x <;> simp [bind_ok, lift]

@[simp] lemma lift_bind_error :
    (lift x >>= f) s = .error e₁ s₁
      ↔ (x = .error e₁ ∧ s = s₁) ∨ ∃ a, x = .ok a ∧ f a s = .error e₁ s₁ := by
  cases x <;> simp [bind_error, lift]

end Values

end Exec

/-! ### Read-only computations -/

section Read

variable {ε α β : Type}

/-- `require(c, e)`: the read-only guard. -/
def need (c : Prop) [Decidable c] (e : ε) : Except ε Unit :=
  if c then .ok () else .error e

/-- The value of a lookup, or the exception. -/
def found (o : Option α) (e : ε) : Except ε α :=
  match o with
  | some a => .ok a
  | none => .error e

/-- `if not c: x()`, read-only. -/
def unlessOk (c : Prop) [Decidable c] (x : Except ε Unit) : Except ε Unit :=
  if c then .ok () else x

@[simp] lemma Except.bind_ok {x : Except ε α} {f : α → Except ε β} {b : β} :
    (x >>= f) = .ok b ↔ ∃ a, x = .ok a ∧ f a = .ok b := by
  cases x <;> simp [bind, Except.bind]

@[simp] lemma Except.bind_error {x : Except ε α} {f : α → Except ε β} {e : ε} :
    (x >>= f) = .error e ↔ x = .error e ∨ ∃ a, x = .ok a ∧ f a = .error e := by
  cases x <;> simp [bind, Except.bind]

@[simp] lemma Except.pure_ok {a b : α} : (pure a : Except ε α) = .ok b ↔ a = b := by
  change Except.ok a = _ ↔ _
  simp

@[simp] lemma Except.pure_error {a : α} {e : ε} : (pure a : Except ε α) = .error e ↔ False := by
  change Except.ok a = _ ↔ _
  simp

@[simp] lemma Except.throw_error {e e₁ : ε} : (throw e : Except ε α) = .error e₁ ↔ e = e₁ := by
  change Except.error e = _ ↔ _
  simp

@[simp] lemma need_ok {c : Prop} [Decidable c] {e : ε} {u : Unit} : need c e = .ok u ↔ c := by
  by_cases h : c <;> simp [need, h]

@[simp] lemma need_error {c : Prop} [Decidable c] {e e₁ : ε} :
    need c e = .error e₁ ↔ ¬c ∧ e = e₁ := by
  by_cases h : c <;> simp [need, h]

@[simp] lemma unlessOk_ok {c : Prop} [Decidable c] {x : Except ε Unit} {u : Unit} :
    unlessOk c x = .ok u ↔ (¬c → x = .ok ()) := by
  by_cases h : c <;> simp [unlessOk, h]

@[simp] lemma unlessOk_error {c : Prop} [Decidable c] {x : Except ε Unit} {e : ε} :
    unlessOk c x = .error e ↔ ¬c ∧ x = .error e := by
  by_cases h : c <;> simp [unlessOk, h]

@[simp] lemma found_ok {o : Option α} {e : ε} {a : α} : found o e = .ok a ↔ o = some a := by
  cases o <;> simp [found]

@[simp] lemma found_error {o : Option α} {e e₁ : ε} :
    found o e = .error e₁ ↔ o = none ∧ e = e₁ := by
  cases o <;> simp [found]

/-- A test of the returned value, if there is one, is a statement about it. -/
lemma ok_of_any {x : Except ε α} {p : α → Bool} (h : x.toOption.any p = true) :
    ∃ a, x = .ok a ∧ p a = true := by
  cases x with
  | error e => simp [Except.toOption] at h
  | ok a => exact ⟨a, rfl, h⟩

/-- A comprehension that raises nothing has the value of each element. -/
lemma mapM_ok {f : α → Except ε β} {xs : List α} {ys : List β} (h : xs.mapM f = .ok ys) :
    ys.length = xs.length ∧
      ∀ (j : ℕ) (x : α) (y : β), xs[j]? = some x → ys[j]? = some y → f x = .ok y := by
  induction xs generalizing ys with
  | nil =>
      obtain rfl : [] = ys := by simpa using h
      simp
  | cons x xs ih =>
      simp only [List.mapM_cons, Except.bind_ok, Except.pure_ok] at h
      obtain ⟨y, hy, more, hmore, rfl⟩ := h
      obtain ⟨hlen, hget⟩ := ih hmore
      refine ⟨by simp [hlen], fun j x' y' hx' hy' => ?_⟩
      cases j with
      | zero =>
          obtain rfl : x = x' := by simpa using hx'
          obtain rfl : y = y' := by simpa using hy'
          exact hy
      | succ j => exact hget j x' y' (by simpa using hx') (by simpa using hy')

/-- A loop without a state raises nothing if and only if no element does. -/
lemma forM_ok {f : α → Except ε Unit} {xs : List α} {u : Unit} :
    xs.forM f = .ok u ↔ ∀ x ∈ xs, f x = .ok () := by
  induction xs with
  | nil => simp
  | cons x xs ih =>
      simp only [List.forM_eq_forM] at ih
      simp only [List.forM_eq_forM, List.forM_cons, Except.bind_ok, ih, List.forall_mem_cons]
      constructor
      · rintro ⟨_, hx, hxs⟩
        exact ⟨hx, hxs⟩
      · rintro ⟨hx, hxs⟩
        exact ⟨(), hx, hxs⟩

/-- A comprehension raises nothing if no element does. -/
lemma mapM_of_forall_ok {f : α → Except ε β} {xs : List α} (h : ∀ x ∈ xs, ∃ y, f x = .ok y) :
    ∃ ys, xs.mapM f = .ok ys := by
  induction xs with
  | nil => exact ⟨[], rfl⟩
  | cons x xs ih =>
      obtain ⟨y, hy⟩ := h x List.mem_cons_self
      obtain ⟨ys, hys⟩ := ih fun x' hx' => h x' (List.mem_cons_of_mem _ hx')
      refine ⟨y :: ys, ?_⟩
      simp only [List.mapM_cons, Except.bind_ok, Except.pure_ok]
      exact ⟨y, hy, ys, hys, rfl⟩

end Read

/-! ### Loops that stop at the first exception -/

section Each

variable {ε σ α : Type}

/-- `for x in xs: f(x)`. -/
def each (f : α → EStateM ε σ Unit) : List α → EStateM ε σ Unit
  | [] => pure ()
  | x :: xs => do
      f x
      each f xs

variable {f : α → EStateM ε σ Unit} {xs ys : List α} {x : α} {s s₀ s₁ s₂ : σ} {e : ε} {u : Unit}

@[simp] lemma each_nil_ok : each f [] s = .ok u s₁ ↔ s = s₁ := by
  simp [each]

lemma each_cons_ok :
    each f (x :: xs) s = .ok u s₂ ↔ ∃ s₁, f x s = .ok () s₁ ∧ each f xs s₁ = .ok () s₂ := by
  rw [each, bind_ok]
  exact ⟨fun ⟨_, s₁, h₁, h₂⟩ => ⟨s₁, h₁, h₂⟩, fun ⟨s₁, h₁, h₂⟩ => ⟨(), s₁, h₁, h₂⟩⟩

lemma each_append_ok :
    each f (xs ++ ys) s = .ok u s₂ ↔ ∃ s₁, each f xs s = .ok () s₁ ∧ each f ys s₁ = .ok () s₂ := by
  induction xs generalizing s with
  | nil => simp
  | cons x xs ih =>
      simp only [List.cons_append, each_cons_ok, ih]
      constructor
      · rintro ⟨t, ht, s₁, h₁, h₂⟩
        exact ⟨s₁, ⟨t, ht, h₁⟩, h₂⟩
      · rintro ⟨s₁, ⟨t, ht, h₁⟩, h₂⟩
        exact ⟨t, ht, s₁, h₁, h₂⟩

lemma each_concat_ok :
    each f (xs ++ [x]) s = .ok u s₂ ↔ ∃ s₁, each f xs s = .ok () s₁ ∧ f x s₁ = .ok () s₂ := by
  rw [each_append_ok]
  simp only [each_cons_ok, each_nil_ok, exists_eq_right]

/-- A loop fails exactly when some iteration does, in the state the earlier ones left. -/
lemma each_error_iff :
    each f xs s = .error e s₂
      ↔ ∃ pre x post s₁, xs = pre ++ x :: post ∧ each f pre s = .ok () s₁
          ∧ f x s₁ = .error e s₂ := by
  induction xs generalizing s with
  | nil => simp [each]
  | cons y ys ih =>
      rw [each, bind_error]
      constructor
      · rintro (h | ⟨_, t, ht, h⟩)
        · exact ⟨[], y, ys, s, rfl, by simp, h⟩
        · obtain ⟨pre, x, post, s₁, rfl, hpre, hx⟩ := ih.mp h
          exact ⟨y :: pre, x, post, s₁, rfl, each_cons_ok.mpr ⟨t, ht, hpre⟩, hx⟩
      · rintro ⟨pre, x, post, s₁, hsplit, hpre, hx⟩
        cases pre with
        | nil =>
            obtain ⟨rfl, rfl⟩ := List.cons.inj hsplit
            obtain rfl := each_nil_ok.mp hpre
            exact Or.inl hx
        | cons z zs =>
            obtain ⟨rfl, rfl⟩ := List.cons.inj hsplit
            obtain ⟨t, ht, hzs⟩ := each_cons_ok.mp hpre
            exact Or.inr ⟨(), t, ht, ih.mpr ⟨zs, x, post, s₁, rfl, hzs, hx⟩⟩

/-- A step that may not be possible, as a computation. -/
def attempt (next : σ → α → Option σ) (x : α) : EStateM Unit σ Unit := fun s =>
  match next s x with
  | some s' => .ok () s'
  | none => .error () s

@[simp] lemma attempt_ok {next : σ → α → Option σ} {x : α} {s s' : σ} {u : Unit} :
    attempt next x s = .ok u s' ↔ next s x = some s' := by
  rw [attempt]
  cases next s x <;> simp

lemma each_attempt_ok {next : σ → α → Option σ} {xs : List α} {s s' : σ} {u : Unit} :
    each (attempt next) xs s = .ok u s' ↔ xs.foldlM next s = some s' := by
  induction xs generalizing s with
  | nil => simp
  | cons x xs ih =>
      rw [each_cons_ok, List.foldlM_cons, Option.bind_eq_bind, Option.bind_eq_some_iff]
      simp only [attempt_ok, ih]

/-- A run of possible steps to a state that passes a check. -/
lemma exists_run_of_any (next : σ → α → Option σ) (xs : List α) (s : σ) (p : σ → Bool)
    (h : (xs.foldlM next s).any p = true) : ∃ s', each (attempt next) xs s = .ok () s' ∧ p s' := by
  cases hrun : xs.foldlM next s with
  | none => simp [hrun] at h
  | some s' =>
      rw [hrun] at h
      exact ⟨s', each_attempt_ok.mpr hrun, h⟩

/-- Every step of the loop meets `C`, read in the state the step starts from. -/
def Along (f : α → EStateM ε σ Unit) (C : σ → α → Prop) (xs : List α) (s₀ : σ) : Prop :=
  ∀ pre x post s, xs = pre ++ x :: post → each f pre s₀ = .ok () s → C s x

/-- Every state the loop passes through, the first and the last included, satisfies `P`. -/
def Visits (f : α → EStateM ε σ Unit) (P : σ → Prop) (xs : List α) (s₀ : σ) : Prop :=
  ∀ pre post s, xs = pre ++ post → each f pre s₀ = .ok () s → P s

lemma Along.of_append {C : σ → α → Prop} (h : Along f C (xs ++ ys) s₀) : Along f C xs s₀ :=
  fun pre x post s hsplit => h pre x (post ++ ys) s (by simp [hsplit])

lemma Along.cons {C : σ → α → Prop} {x : α} (hx : C s₀ x)
    (h : ∀ s, f x s₀ = .ok () s → Along f C xs s) : Along f C (x :: xs) s₀ := by
  rintro (_ | ⟨y, pre⟩) z post t hsplit hrun
  · obtain ⟨rfl, rfl⟩ := List.cons_eq_cons.mp hsplit
    obtain rfl := each_nil_ok.mp hrun
    exact hx
  · obtain ⟨rfl, hrest⟩ := List.cons_eq_cons.mp hsplit
    obtain ⟨s₁, hs₁, hpre⟩ := each_cons_ok.mp hrun
    exact h s₁ hs₁ pre z post t hrest hpre

/-- **The invariant rule**: a property of the history and the state that the start has and that
every step meeting the condition keeps, holds at the end of the run. -/
theorem each_rule {C : σ → α → Prop} {I : List α → σ → Prop} (h₀ : I [] s₀)
    (hstep : ∀ pre x s s', I pre s → C s x → f x s = .ok () s' → I (pre ++ [x]) s')
    (halong : Along f C xs s₀) (hrun : each f xs s₀ = .ok () s) : I xs s := by
  induction xs using List.reverseRecOn generalizing s with
  | nil =>
      obtain rfl := each_nil_ok.mp hrun
      exact h₀
  | append_singleton xs x ih =>
      obtain ⟨t, hxs, hx⟩ := each_concat_ok.mp hrun
      exact hstep xs x t s (ih halong.of_append hxs) (halong xs x [] t rfl hxs) hx

/-- A condition that no listed step can break holds along the loop. -/
lemma along_of_forall {C : σ → α → Prop} (h : ∀ x ∈ xs, ∀ s, C s x) : Along f C xs s₀ :=
  fun _ x _ s hsplit _ => h x (by simp [hsplit]) s

/-- Under a condition on the steps an invariant holds in every state the loop passes through. -/
theorem visits_of_along {C : σ → α → Prop} {I : σ → Prop} (h₀ : I s₀)
    (hstep : ∀ x s s', I s → C s x → f x s = .ok () s' → I s') (halong : Along f C xs s₀) :
    Visits f I xs s₀ := by
  rintro pre post s rfl hpre
  exact each_rule (I := fun _ => I) h₀ (fun _ x s s' => hstep x s s') halong.of_append hpre

/-- A step keeps `P` exactly when it meets `C`: then `P` holds all along an accepted run exactly
when every step meets `C`. -/
theorem visits_iff_along {C : σ → α → Prop} {P : σ → Prop} (h₀ : P s₀)
    (hstep : ∀ pre x s s', each f pre s₀ = .ok () s → P s → f x s = .ok () s' → (P s' ↔ C s x))
    (hrun : each f xs s₀ = .ok () s) : Visits f P xs s₀ ↔ Along f C xs s₀ := by
  constructor
  · rintro hvisits pre x post t rfl hpre
    obtain ⟨t₁, h₁, h₂⟩ := each_append_ok.mp hrun
    obtain rfl : t = t₁ := (EStateM.Result.ok.inj (hpre.symm.trans h₁)).2
    obtain ⟨t', hx, _⟩ := each_cons_ok.mp h₂
    have hP' : P t' := hvisits (pre ++ [x]) post t' (by simp) (each_concat_ok.mpr ⟨t, hpre, hx⟩)
    exact (hstep pre x t t' hpre (hvisits pre (x :: post) t rfl hpre) hx).mp hP'
  · rintro halong pre post t rfl hpre
    have hreach : each f pre s₀ = .ok () t ∧ P t := by
      refine each_rule (I := fun hist t => each f hist s₀ = .ok () t ∧ P t) ⟨by simp, h₀⟩ ?_
        halong.of_append hpre
      rintro hist x t t' ⟨hhist, hP⟩ hC hx
      exact ⟨each_concat_ok.mpr ⟨t, hhist, hx⟩, (hstep hist x t t' hhist hP hx).mpr hC⟩
    exact hreach.2

/-- Two loops whose steps agree along one of them agree. -/
lemma each_ok_congr {g : α → EStateM ε σ Unit}
    (h : Along g (fun s x => ∀ s', f x s = .ok () s' ↔ g x s = .ok () s') xs s₀) :
    each f xs s₀ = .ok u s ↔ each g xs s₀ = .ok u s := by
  induction xs using List.reverseRecOn generalizing s with
  | nil => simp
  | append_singleton xs x ih =>
      simp only [each_concat_ok, ih h.of_append]
      refine exists_congr fun t => and_congr_right fun ht => ?_
      exact h xs x [] t rfl ht s

/-- The invariant rule for a property of the state alone. -/
theorem each_invariant {I : σ → Prop} (h₀ : I s₀)
    (hstep : ∀ x s s', I s → f x s = .ok () s' → I s') (hrun : each f xs s₀ = .ok () s) : I s :=
  each_rule (C := fun _ _ => True) (I := fun _ => I) h₀
    (fun _ x s s' hI _ hx => hstep x s s' hI hx) (fun _ _ _ _ _ _ => trivial) hrun

end Each

end OmarchyM1Video.Py
