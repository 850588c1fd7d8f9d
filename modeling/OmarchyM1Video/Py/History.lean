import Mathlib.Data.List.Induction

/-!
Statements about a history: a list of what happened, the oldest entry first.

* `Since P Q log`: an entry satisfied `P`, and no later one `Q`;
* `Later P Q log`: an entry satisfies `P`, and no earlier one `Q`;
* `Due P Q X log`: such an entry has come, or `X` holds and it may still come;
* `Always P log`: every entry satisfies `P`, together with what came before and after it;
* `LastBefore P log n q`: entry `q` is the last of the first `n` entries that satisfies `P`;
* `split_concat`: where an entry of a history can stand when one more entry has been added, from
  which `since_concat` and `Always.concat` follow.
-/

namespace OmarchyM1Video.Py

variable {α : Type}

/-- The entries of `log ++ [a]`: `a` itself at the end, or an entry of `log`. -/
lemma split_concat {log pre post : List α} {a x : α} :
    log ++ [a] = pre ++ x :: post ↔
      (log = pre ∧ a = x ∧ post = []) ∨ ∃ post', post = post' ++ [a] ∧ log = pre ++ x :: post' := by
  constructor
  · intro h
    -- The last entry of the history is `x` if nothing comes after `x`, and the last of `post` if not.
    cases post using List.reverseRecOn with
    | nil =>
        obtain ⟨hlog, ha⟩ := List.append_singleton_inj.mp h
        exact Or.inl ⟨hlog, ha, rfl⟩
    | append_singleton post' y =>
        rw [← List.cons_append, ← List.append_assoc, List.append_singleton_inj] at h
        exact Or.inr ⟨post', by rw [h.2], h.1⟩
  · rintro (⟨rfl, rfl, rfl⟩ | ⟨post', rfl, rfl⟩)
    · rfl
    · simp

/-- A statement about every entry of a history, with what came before and after it. -/
def Always (P : List α → α → List α → Prop) (log : List α) : Prop :=
  ∀ pre x post, log = pre ++ x :: post → P pre x post

lemma always_nil {P : List α → α → List α → Prop} : Always P [] := by
  intro pre x post h
  simp at h

/-- One more entry: it satisfies the statement itself, and the older ones still do. -/
lemma Always.concat {P P' : List α → α → List α → Prop} {log : List α} {a : α}
    (h : Always P log) (hold : ∀ pre x post, P pre x post → P' pre x (post ++ [a]))
    (hnew : P' log a []) : Always P' (log ++ [a]) := by
  intro pre x post hsplit
  rcases split_concat.mp hsplit with ⟨rfl, rfl, rfl⟩ | ⟨post', rfl, rfl⟩
  · exact hnew
  · exact hold pre x post' (h pre x post' rfl)

/-- An entry satisfied `P`, and no later one satisfied `Q`. -/
def Since (P Q : α → Prop) (log : List α) : Prop :=
  ∃ pre x post, log = pre ++ x :: post ∧ P x ∧ ∀ y ∈ post, ¬Q y

@[simp] lemma not_since_nil {P Q : α → Prop} : ¬Since P Q [] := by
  rintro ⟨pre, x, post, h, -⟩
  simp at h

lemma since_concat {P Q : α → Prop} {log : List α} {a : α} :
    Since P Q (log ++ [a]) ↔ P a ∨ (Since P Q log ∧ ¬Q a) := by
  constructor
  · rintro ⟨pre, x, post, hsplit, hP, hQ⟩
    rcases split_concat.mp hsplit with ⟨rfl, rfl, rfl⟩ | ⟨post', rfl, rfl⟩
    · exact Or.inl hP
    · exact Or.inr ⟨⟨pre, x, post', rfl, hP, fun y hy => hQ y (by simp [hy])⟩, hQ a (by simp)⟩
  · rintro (hP | ⟨⟨pre, x, post, rfl, hP, hQ⟩, ha⟩)
    · exact ⟨log, a, [], rfl, hP, by simp⟩
    · refine ⟨pre, x, post ++ [a], by simp, hP, fun y hy => ?_⟩
      rcases List.mem_append.mp hy with hy | hy
      · exact hQ y hy
      · exact List.mem_singleton.mp hy ▸ ha

/-- An entry satisfies `P`, and no earlier one satisfies `Q`. -/
def Later (P Q : α → Prop) (log : List α) : Prop :=
  ∃ pre x post, log = pre ++ x :: post ∧ P x ∧ ∀ y ∈ pre, ¬Q y

/-- `P` has come before any `Q`, or is still due: neither has come, and `X` holds. -/
def Due (P Q : α → Prop) (X : Prop) (log : List α) : Prop :=
  Later P Q log ∨ (X ∧ ∀ y ∈ log, ¬Q y)

lemma due_nil {P Q : α → Prop} {X : Prop} (hX : X) : Due P Q X [] := Or.inr ⟨hX, by simp⟩

/-- As long as `X` holds, one more entry is the one that is due or leaves it due. -/
lemma Due.concat {P Q : α → Prop} {X X' : Prop} {log : List α} {a : α} (h : Due P Q X log)
    (hstep : X → P a ∨ (X' ∧ ¬Q a)) : Due P Q X' (log ++ [a]) := by
  rcases h with ⟨pre, x, post, rfl, hP, hQ⟩ | ⟨hX, hQ⟩
  · exact Or.inl ⟨pre, x, post ++ [a], by simp, hP, hQ⟩
  · rcases hstep hX with hP | ⟨hX', ha⟩
    · exact Or.inl ⟨log, a, [], rfl, hP, hQ⟩
    · refine Or.inr ⟨hX', fun y hy => ?_⟩
      rcases List.mem_append.mp hy with hy | hy
      · exact hQ y hy
      · exact List.mem_singleton.mp hy ▸ ha

/-- Nothing is due any more. -/
lemma Due.later {P Q : α → Prop} {X : Prop} {log : List α} (h : Due P Q X log) (hX : ¬X) :
    Later P Q log := h.resolve_right fun hdue => hX hdue.1

/-! ### The last entry of a kind -/

/-- Entry `q` satisfies `P`, and is the last of the first `n` entries that does. -/
def LastBefore (P : α → Prop) (log : List α) (n q : ℕ) : Prop :=
  q < n ∧ (∃ x, log[q]? = some x ∧ P x) ∧ ∀ k x, q < k → k < n → log[k]? = some x → ¬P x

lemma not_lastBefore_zero {P : α → Prop} {log : List α} {q : ℕ} : ¬LastBefore P log 0 q :=
  fun h => Nat.not_lt_zero q h.1

/-- One entry more: it is the last one itself, or leaves the last one as it was. -/
lemma lastBefore_succ {P : α → Prop} {log : List α} {n q : ℕ} {a : α} (ha : log[n]? = some a) :
    LastBefore P log (n + 1) q ↔ (P a ∧ q = n) ∨ (¬P a ∧ LastBefore P log n q) := by
  constructor
  · rintro ⟨hq, ⟨x, hx, hP⟩, hlast⟩
    rcases Nat.lt_succ_iff_lt_or_eq.mp hq with hlt | rfl
    · refine Or.inr ⟨hlast n a hlt (by omega) ha, hlt, ⟨x, hx, hP⟩, ?_⟩
      exact fun k y hk hkn hy => hlast k y hk (by omega) hy
    · obtain rfl := Option.some.inj (ha.symm.trans hx)
      exact Or.inl ⟨hP, rfl⟩
  · rintro (⟨hP, rfl⟩ | ⟨hnot, hq, hx, hlast⟩)
    · exact ⟨by omega, ⟨a, ha, hP⟩, fun k _ hk hkn => by omega⟩
    · refine ⟨by omega, hx, fun k y hk hkn hy => ?_⟩
      rcases Nat.lt_succ_iff_lt_or_eq.mp hkn with hlt | rfl
      · exact hlast k y hk hlt hy
      · exact Option.some.inj (ha.symm.trans hy) ▸ hnot

lemma LastBefore.unique {P : α → Prop} {log : List α} {n q q' : ℕ} (h : LastBefore P log n q)
    (h' : LastBefore P log n q') : q = q' := by
  obtain ⟨hq, ⟨x, hx, hP⟩, hlast⟩ := h
  obtain ⟨hq', ⟨x', hx', hP'⟩, hlast'⟩ := h'
  rcases Nat.lt_trichotomy q q' with hlt | heq | hlt
  · exact absurd hP' (hlast q' x' hlt hq' hx')
  · exact heq
  · exact absurd hP (hlast' q x hlt hq hx)

end OmarchyM1Video.Py
