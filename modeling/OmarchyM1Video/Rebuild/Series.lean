import Mathlib.Data.List.Basic
import Mathlib.Data.Nat.Notation

/-!
`prepare_tree` of `bin/apple-avd-rebuild`: which of the patches a source tree has already.

A call of `patch` that fails, and a copy that fails, may leave any tree behind. The patches count
from zero, as `PATCHES` does.

* `Tools`, `Build`: what the commands do, and the trees of a build;
* `prepareTree`: the function;
* `removed`, `applied`: a series of patches taken out of a tree or put on it;
* `Splits`: a count of patches that the tree has, so that the others can be put on it;
* `prepareTree_iff`: the largest such count, and the tree that is built with it.
-/

namespace OmarchyM1Video.Rebuild.Series

variable {Tree : Type}

/-! ### The function -/

/-- What `patch` and `cp` do. `leaves` is what a failing call leaves behind, by its number. -/
structure Tools (Tree : Type) where
  forward : ℕ → Tree → Option Tree
  reverse : ℕ → Tree → Option Tree
  copies : ℕ → Bool
  leaves : ℕ → Tree → Tree

/-- The pristine tree, `$B/try`, `$B/avd` and `SKIPPED`, with the number of calls so far. -/
structure Build (Tree : Type) where
  src : Tree
  attempt : Tree
  avd : Tree
  skipped : Option ℕ
  calls : ℕ

/-- A call of `patch` in a directory: whether it succeeds, and the tree there. -/
def patched (tools : Tools Tree) (calls : ℕ) (result : Option Tree) (tree : Tree) : Bool × Tree :=
  match result with
  | some tree => (true, tree)
  | none => (false, tools.leaves calls tree)

/-- `patch -R` of a patch in `$B/try`. -/
def patchReverse (tools : Tools Tree) (i : ℕ) (b : Build Tree) : Bool × Build Tree :=
  let r := patched tools b.calls (tools.reverse i b.attempt) b.attempt
  (r.1, { b with attempt := r.2, calls := b.calls + 1 })

/-- `patch -N` of a patch in `$B/avd`. -/
def patchForward (tools : Tools Tree) (i : ℕ) (b : Build Tree) : Bool × Build Tree :=
  let r := patched tools b.calls (tools.forward i b.avd) b.avd
  (r.1, { b with avd := r.2, calls := b.calls + 1 })

/-- A loop over patches, up to the first that fails. -/
def patchAll (call : ℕ → Build Tree → Bool × Build Tree) :
    List ℕ → Build Tree → Bool × Build Tree
  | [], b => (true, b)
  | i :: is, b =>
      match call i b with
      | (true, b) => patchAll call is b
      | (false, b) => (false, b)

/-- `rm -rf` and `cp -r` of the pristine tree to `$B/try`. -/
def copyAttempt (tools : Tools Tree) (b : Build Tree) : Bool × Build Tree :=
  (tools.copies b.calls, { b with
    attempt := if tools.copies b.calls then b.src else tools.leaves b.calls b.attempt
    calls := b.calls + 1 })

/-- The same to `$B/avd`. -/
def copyAvd (tools : Tools Tree) (b : Build Tree) : Bool × Build Tree :=
  (tools.copies b.calls, { b with
    avd := if tools.copies b.calls then b.src else tools.leaves b.calls b.avd
    calls := b.calls + 1 })

/-- The body of the loop for a `k`: what it returns, unless it goes on with the next one. -/
def prepareWith (tools : Tools Tree) (n k : ℕ) (b : Build Tree) : Option ℕ × Build Tree :=
  match copyAttempt tools b with
  | (false, b) => (some 2, b)
  | (true, b) =>
      match patchAll (patchReverse tools) (List.range k).reverse b with
      | (false, b) => (none, b)
      | (true, b) =>
          match copyAvd tools b with
          | (false, b) => (some 2, b)
          | (true, b) =>
              match patchAll (patchForward tools) (List.range' k (n - k)) b with
              | (false, b) => (none, b)
              | (true, b) => (some 0, { b with skipped := some k })

/-- The loop from a `k` down. -/
def prepareFrom (tools : Tools Tree) (n : ℕ) : ℕ → Build Tree → ℕ × Build Tree
  | 0, b =>
      match prepareWith tools n 0 b with
      | (some status, b) => (status, b)
      | (none, b) => (1, b)
  | k + 1, b =>
      match prepareWith tools n (k + 1) b with
      | (some status, b) => (status, b)
      | (none, b) => prepareFrom tools n k b

/-- `prepare_tree`, with so many patches: its status, and what it leaves. -/
def prepareTree (tools : Tools Tree) (n : ℕ) (b : Build Tree) : ℕ × Build Tree :=
  prepareFrom tools n n b

/-! ### Series of patches -/

/-- A tree without the first `k` patches, of which the last goes first. -/
def removed (tools : Tools Tree) (k : ℕ) (tree : Tree) : Option Tree :=
  (List.range k).reverse.foldlM (fun tree i => tools.reverse i tree) tree

/-- A tree with the patches from `k` on, in order. -/
def applied (tools : Tools Tree) (n k : ℕ) (tree : Tree) : Option Tree :=
  (List.range' k (n - k)).foldlM (fun tree i => tools.forward i tree) tree

/-- The first `k` patches can be taken out of the tree, and the others put on it. -/
def Splits (tools : Tools Tree) (n : ℕ) (tree : Tree) (k : ℕ) : Prop :=
  k ≤ n ∧ (removed tools k tree).isSome ∧ (applied tools n k tree).isSome

section Calls

variable {tools : Tools Tree} {n k : ℕ} {b b' : Build Tree} {is : List ℕ} {ok : Bool}

/-- What the commands leave alone: the pristine tree and `SKIPPED`. -/
def Keeps (b b' : Build Tree) : Prop := b'.src = b.src ∧ b'.skipped = b.skipped

lemma patchAll_reverse :
    ∃ b', patchAll (patchReverse tools) is b =
        ((is.foldlM (fun tree i => tools.reverse i tree) b.attempt).isSome, b') ∧
      Keeps b b' ∧ b'.avd = b.avd := by
  induction is generalizing b with
  | nil => exact ⟨b, rfl, ⟨rfl, rfl⟩, rfl⟩
  | cons i is ih =>
      rw [patchAll, patchReverse, List.foldlM_cons, Option.bind_eq_bind]
      cases htree : tools.reverse i b.attempt with
      | none => exact ⟨_, rfl, ⟨rfl, rfl⟩, rfl⟩
      | some tree => exact ih

lemma patchAll_forward :
    ∃ b', patchAll (patchForward tools) is b =
        ((is.foldlM (fun tree i => tools.forward i tree) b.avd).isSome, b') ∧ Keeps b b' ∧
      ∀ tree, is.foldlM (fun tree i => tools.forward i tree) b.avd = some tree → b'.avd = tree := by
  induction is generalizing b with
  | nil => exact ⟨b, rfl, ⟨rfl, rfl⟩, fun tree h => Option.some.inj h⟩
  | cons i is ih =>
      rw [patchAll, patchForward, List.foldlM_cons, Option.bind_eq_bind]
      cases htree : tools.forward i b.avd with
      | none => exact ⟨_, rfl, ⟨rfl, rfl⟩, fun tree h => absurd h (by simp)⟩
      | some tree => exact ih

/-- With copies that succeed, the body returns zero if the tree splits there. -/
lemma prepareWith_eq (hcopies : ∀ t, tools.copies t = true) (hk : k ≤ n) :
    ∃ b', b'.src = b.src ∧
      ((Splits tools n b.src k ∧ prepareWith tools n k b = (some 0, b') ∧ b'.skipped = some k ∧
          applied tools n k b.src = some b'.avd) ∨
        (¬Splits tools n b.src k ∧ prepareWith tools n k b = (none, b'))) := by
  obtain ⟨b₁, hundo, ⟨hsrc₁, hskipped₁⟩, _⟩ := @patchAll_reverse _ tools
    { b with attempt := b.src, calls := b.calls + 1 } (List.range k).reverse
  obtain ⟨b₂, hredo, ⟨hsrc₂, hskipped₂⟩, havd⟩ := @patchAll_forward _ tools
    { b₁ with avd := b₁.src, calls := b₁.calls + 1 } (List.range' k (n - k))
  dsimp only at hundo hredo havd hsrc₁ hsrc₂
  rw [hsrc₁] at hredo havd hsrc₂
  rw [prepareWith, copyAttempt, hcopies]
  dsimp only
  rw [if_pos rfl, hundo]
  cases hremoved : removed tools k b.src with
  | none =>
      refine ⟨b₁, hsrc₁, .inr ⟨fun h => ?_, ?_⟩⟩
      · exact absurd h.2.1 (by rw [hremoved]; simp)
      · rw [removed] at hremoved
        rw [hremoved]
        rfl
  | some base =>
      have hbase : (removed tools k b.src).isSome = true := by rw [hremoved]; rfl
      rw [removed] at hremoved
      rw [hremoved, Option.isSome_some]
      dsimp only
      rw [copyAvd, hcopies]
      dsimp only
      rw [if_pos rfl, hsrc₁, hredo]
      cases happlied : applied tools n k b.src with
      | none =>
          refine ⟨b₂, hsrc₂, .inr ⟨fun h => ?_, ?_⟩⟩
          · exact absurd h.2.2 (by rw [happlied]; simp)
          · rw [applied] at happlied
            rw [happlied]
            rfl
      | some tree =>
          have htree : (applied tools n k b.src).isSome = true := by rw [happlied]; rfl
          rw [applied] at happlied
          refine ⟨{ b₂ with skipped := some k }, hsrc₂, .inl ⟨⟨hk, hbase, htree⟩, ?_, rfl, ?_⟩⟩
          · rw [happlied]
            rfl
          · rw [havd tree happlied]

/-- From a `k` on, zero is returned for the largest count at which the tree splits. -/
lemma prepareFrom_eq (hcopies : ∀ t, tools.copies t = true) (hk : k ≤ n) :
    ∃ b', b'.src = b.src ∧
      ((∃ j ≤ k, Splits tools n b.src j ∧ (∀ i ≤ k, Splits tools n b.src i → i ≤ j) ∧
          prepareFrom tools n k b = (0, b') ∧ b'.skipped = some j ∧
          applied tools n j b.src = some b'.avd) ∨
        ((∀ i ≤ k, ¬Splits tools n b.src i) ∧ prepareFrom tools n k b = (1, b'))) := by
  induction k generalizing b with
  | zero =>
      obtain ⟨b', hsrc, ⟨hsplits, hwith, hskipped, havd⟩ | ⟨hno, hwith⟩⟩ :=
        prepareWith_eq (b := b) hcopies hk
      · exact ⟨b', hsrc, .inl ⟨0, Nat.le_refl 0, hsplits, fun i hi _ => hi,
          by rw [prepareFrom, hwith], hskipped, havd⟩⟩
      · refine ⟨b', hsrc, .inr ⟨fun i hi => ?_, by rw [prepareFrom, hwith]⟩⟩
        obtain rfl := Nat.le_zero.mp hi
        exact hno
  | succ k ih =>
      obtain ⟨b₁, hsrc, ⟨hsplits, hwith, hskipped, havd⟩ | ⟨hno, hwith⟩⟩ :=
        prepareWith_eq (b := b) hcopies hk
      · exact ⟨b₁, hsrc, .inl ⟨k + 1, Nat.le_refl _, hsplits, fun i hi _ => hi,
          by rw [prepareFrom, hwith], hskipped, havd⟩⟩
      · have hlower : ∀ {P : ℕ → Prop}, (∀ i ≤ k, P i) → P (k + 1) → ∀ i ≤ k + 1, P i := by
          intro P hall hlast i hi
          cases Nat.lt_or_eq_of_le hi with
          | inl hlt => exact hall i (Nat.lt_succ_iff.mp hlt)
          | inr heq => exact heq ▸ hlast
        obtain ⟨b', hsrc', h⟩ := ih (b := b₁) (Nat.le_of_succ_le hk)
        rw [hsrc] at hsrc' h
        refine ⟨b', hsrc', ?_⟩
        rw [prepareFrom, hwith]
        obtain ⟨j, hj, hsplits, hmax, hfrom, hrest⟩ | ⟨hnone, hfrom⟩ := h
        · exact .inl ⟨j, Nat.le_succ_of_le hj, hsplits,
            hlower hmax fun hlast => absurd hlast hno, hfrom, hrest⟩
        · exact .inr ⟨hlower hnone hno, hfrom⟩

/-- Where putting a patch on undoes taking it out, all patches go on the tree without the first. -/
lemma applied_removed (hundo : ∀ i t t', tools.reverse i t = some t' → tools.forward i t' = some t)
    {tree base : Tree} (h : removed tools k tree = some base) :
    (List.range k).foldlM (fun tree i => tools.forward i tree) base = some tree := by
  induction k generalizing tree with
  | zero => exact (Option.some.inj h) ▸ rfl
  | succ k ih =>
      rw [removed, List.range_succ, List.reverse_concat, List.foldlM_cons, Option.bind_eq_bind,
        Option.bind_eq_some_iff] at h
      obtain ⟨next, hnext, hrest⟩ := h
      rw [List.range_succ, List.foldlM_append, ih hrest]
      exact (Option.bind_some _ _).trans (by
        rw [List.foldlM_cons, hundo k tree next hnext]
        rfl)

end Calls

/-- `prepare_tree` returns zero if the tree splits somewhere, and then it has built with the largest
count at which it does. -/
theorem prepareTree_iff (tools : Tools Tree) (n : ℕ) (b : Build Tree)
    (hcopies : ∀ t, tools.copies t = true) :
    ((prepareTree tools n b).1 = 0 ↔ ∃ k, Splits tools n b.src k) ∧
    (prepareTree tools n b).2.src = b.src ∧
    ((prepareTree tools n b).1 = 0 → ∃ k, Splits tools n b.src k ∧
      (∀ j, Splits tools n b.src j → j ≤ k) ∧
      (prepareTree tools n b).2.skipped = some k ∧
      applied tools n k b.src = some (prepareTree tools n b).2.avd ∧
      ((∀ i t t', tools.reverse i t = some t' → tools.forward i t' = some t) →
        ∃ base, removed tools k b.src = some base ∧
          applied tools n 0 base = some (prepareTree tools n b).2.avd)) := by
  obtain ⟨b', hsrc, h⟩ := prepareFrom_eq (b := b) hcopies (Nat.le_refl n)
  rw [prepareTree]
  obtain ⟨k, hk, hsplits, hmax, hfrom, hskipped, havd⟩ | ⟨hnone, hfrom⟩ := h
  · rw [hfrom]
    refine ⟨⟨fun _ => ⟨k, hsplits⟩, fun _ => rfl⟩, hsrc, fun _ => ⟨k, hsplits,
      fun j hj => hmax j hj.1 hj, hskipped, havd, fun hundo => ?_⟩⟩
    obtain ⟨base, hbase⟩ := Option.isSome_iff_exists.mp hsplits.2.1
    refine ⟨base, hbase, ?_⟩
    have hrange : List.range' 0 (n - 0) = List.range k ++ List.range' k (n - k) := by
      have happend := List.range'_append_1 (s := 0) (m := k) (n := n - k)
      rw [Nat.zero_add, Nat.add_sub_cancel' hk] at happend
      rw [Nat.sub_zero, List.range_eq_range', happend]
    rw [applied, hrange, List.foldlM_append, applied_removed hundo hbase]
    exact havd
  · rw [hfrom]
    refine ⟨⟨fun h => absurd h Nat.one_ne_zero, ?_⟩, hsrc, fun h => absurd h Nat.one_ne_zero⟩
    rintro ⟨k, hsplits⟩
    exact absurd hsplits (hnone k hsplits.1)

/-- Patches that count a state up, and a tree that has the first four of fifteen. -/
theorem prepareTree_iff_states : (prepareTree
    { forward := fun i t => if t = i then some (i + 1) else none
      reverse := fun i t => if t = i + 1 then some i else none
      copies := fun _ => true
      leaves := fun _ t => t } 15 ⟨4, 0, 0, none, 0⟩).1 = 0 :=
  (prepareTree_iff _ 15 _ fun _ => rfl).1.mpr ⟨4, by decide, rfl, rfl⟩

end OmarchyM1Video.Rebuild.Series
