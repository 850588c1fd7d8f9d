import OmarchyM1Video.Rebuild.Script

/-!
When a report of a module that is up to date can be trusted.

The stamp and the module are two files, and the stamp is in place before `depmod` has run.  A run that
stops in between leaves a module that the stamp does not name, or that is not in the index, and a
later run believes the stamp.

* `Sound`: the stamp names the module beside it, which is in the index;
* `Completes`: the run does not stop between the module and the end of `depmod`;
* `stale_reports`: two runs that do, and what a later run reports;
* `reports_sound`: where every run completes, every report is true.
-/

namespace OmarchyM1Video.Rebuild

open OmarchyM1Video.Py

variable {Patches : Type} {ids : PatchsetId Patches} {env : Env Patches} {d : Disk Patches}

/-! ### Stamps -/

/-- A stamp names one module. -/
lemma want_injective (ids : PatchsetId Patches) : Function.Injective (want ids) := by
  intro m m' h
  have hlen : (ids.id m.patches).length = (ids.id m'.patches).length := by
    rw [ids.length_id, ids.length_id]
  obtain ⟨htag, hid⟩ := List.append_inj' h hlen
  rw [List.append_cancel_right_eq, List.append_cancel_left_eq] at htag
  have hpatches := ids.injective hid
  cases m
  cases m'
  exact congrArg₂ Module.mk htag hpatches

/-- `$(cat file)` of a stamp is what `printf` was given. -/
lemma substituted_want (ids : PatchsetId Patches) (m : Module Patches) :
    substituted (want ids m ++ ['\n']) = want ids m := by
  have hne : ids.id m.patches ≠ [] := by
    rw [← List.length_pos_iff, ids.length_id]
    decide
  obtain ⟨c, rest, hrev⟩ := List.exists_cons_of_ne_nil (List.reverse_ne_nil_iff.mpr hne)
  have hc : c ≠ '\n' := by
    have hmem := ids.hex m.patches c (List.mem_reverse.mp (by rw [hrev]; exact List.mem_cons_self))
    rintro rfl
    exact absurd hmem (by decide)
  have hwant : (want ids m).reverse = c :: (rest ++ ("tag=".toList ++ m.tag ++
      " patches=".toList).reverse) := by
    rw [want, List.reverse_append, hrev, List.cons_append]
  rw [substituted, List.reverse_append, List.reverse_singleton, List.singleton_append,
    List.dropWhile_cons_of_pos (by simp), hwant, List.dropWhile_cons_of_neg (by simpa using hc),
    ← hwant, List.reverse_reverse]

/-! ### The invariant -/

/-- The stamp names the module beside it, and the module is in the index. -/
def Sound (ids : PatchsetId Patches) (d : Disk Patches) : Prop :=
  ∀ m text, d.ko = some m → d.stamp = some text → text = want ids m ++ ['\n'] ∧ d.indexed = true

/-- The report is true: the module was built from what the run wants, and is in the index. -/
def Right (env : Env Patches) (d : Disk Patches) : Prop :=
  d.ko = some env.module ∧ d.indexed = true

/-- If the module is put in place, the run goes on to the end of `depmod`. -/
def Env.Completes (env : Env Patches) : Prop :=
  env.outcome .mvModule = .ok →
    env.outcome .printfStamp = .ok ∧ env.outcome .mvStamp = .ok ∧ env.outcome .depmod = .ok

/-- Sound files, and reports that are true. -/
def Trusted (ids : PatchsetId Patches) (env : Env Patches) (sh : Shell Patches) : Prop :=
  Sound ids sh.disk ∧ ∀ d ∈ sh.reports, Right env d

/-- Removing a file keeps the rest sound. -/
lemma Sound.remove (h : Sound ids d) (b b' : Bool) :
    Sound ids { d with ko := if b then none else d.ko, stamp := if b' then none else d.stamp } := by
  intro m text hm htext
  rw [Option.ite_none_left_eq_some] at hm htext
  exact h m text hm.2 htext.2

/-- A report is made only beside a stamp that names what the run wants. -/
lemma Sound.right (h : Sound ids d) (hko : d.ko.isNone = false)
    (hstamp : d.stamp.map substituted = some (want ids env.module)) : Right env d := by
  obtain ⟨m, hm⟩ := Option.isSome_iff_exists.mp (by simpa using hko)
  obtain ⟨text, htext, hsub⟩ := Option.map_eq_some_iff.mp hstamp
  obtain ⟨rfl, hindexed⟩ := h m text hm htext
  rw [substituted_want] at hsub
  exact ⟨hm.trans (congrArg some (want_injective ids hsub)), hindexed⟩

/-! ### The pieces of the script -/

section Pieces

variable {I : Shell Patches → Prop}

lemma keeps_invoke {c : Command} {f : Disk Patches → Disk Patches}
    (hf : ∀ sh, I sh → I { sh with disk := f sh.disk }) : Keeps I (invoke env c f) := by
  rw [invoke]
  rcases env.outcome c with _ | _ | _
  · exact Keeps.bind (Keeps.modify hf) fun _ => Keeps.pure
  · exact Keeps.pure
  · exact Triple.throw fun _ => id

/-- Commands that leave the files alone keep everything. -/
lemma keeps_chain_id {cs : List (Command × (Disk Patches → Disk Patches))}
    (h : ∀ p ∈ cs, p.2 = id) : Keeps I (chain env cs) := by
  induction cs with
  | nil => exact Keeps.pure
  | cons p cs ih =>
      rw [List.forall_mem_cons] at h
      have hp : ∀ sh, I sh → I { sh with disk := p.2 sh.disk } := by
        rw [h.1]
        exact fun _ => id
      exact Keeps.bind (keeps_invoke hp) fun _ => Keeps.ite (fun _ => ih h.2) fun _ => Keeps.pure

lemma keeps_fetch : Keeps I (fetch env) :=
  Keeps.ite (fun _ => Keeps.pure) fun _ => keeps_chain_id (by simp)

lemma keeps_build : Keeps I (build env) :=
  Keeps.bind (keeps_chain_id (by simp)) fun _ => Keeps.ite (fun _ => Keeps.pure) fun _ => Keeps.pure

lemma keeps_fail (hI : ∀ sh, I sh → I { sh with failed := true }) : Keeps I fail := Keeps.modify hI

end Pieces

lemma keeps_rmFiles {c : Command} : Keeps (Trusted ids env) (rmFiles env c) := by
  refine Keeps.bind (keeps_invoke fun sh hsh => ?_) fun _ => Keeps.ite (fun _ => Keeps.pure) fun _ =>
    Keeps.modify fun sh hsh => ⟨hsh.1.remove _ _, hsh.2⟩
  exact ⟨hsh.1.remove true true, hsh.2⟩

/-- A chain of commands, from its first. -/
lemma triple_chain_cons {c : Command} {f : Disk Patches → Disk Patches}
    {cs : List (Command × (Disk Patches → Disk Patches))} {P M : Shell Patches → Prop}
    {Q : Bool → Shell Patches → Prop} {E : Unit → Shell Patches → Prop}
    (hok : env.outcome c = .ok → ∀ sh, P sh → M { sh with disk := f sh.disk })
    (hrest : env.outcome c = .ok → Triple M (chain env cs) Q E)
    (hfails : env.outcome c = .fails → ∀ sh, P sh → Q false sh)
    (hkilled : env.outcome c = .killed → ∀ sh, P sh → E () sh) :
    Triple P (chain env ((c, f) :: cs)) Q E := by
  intro sh hsh
  rcases hc : env.outcome c with _ | _ | _
  · have h := hrest hc _ (hok hc sh hsh)
    simpa [chain, invoke, hc] using h
  · simpa [chain, invoke, hc, Meets] using hfails hc sh hsh
  · rw [chain, invoke, hc]
    exact hkilled hc sh hsh

/-- **Installing keeps the files sound**, if it does not stop between the module and the end of
`depmod`. -/
lemma keeps_installModule (hc : env.Completes) : Keeps (Trusted ids env) (installModule ids env) := by
  have hchain : Triple (Trusted ids env) (chain env (installation ids env))
      (fun _ => Trusted ids env) fun _ => Trusted ids env := by
    -- Up to the module nothing changes but the temporary file.
    refine triple_chain_cons (M := fun sh => Trusted ids env sh ∧ sh.disk.tmpKo = some env.module)
      (fun _ sh hsh => ⟨hsh, rfl⟩) (fun _ => ?_) (fun _ _ => id) fun _ _ => id
    refine triple_chain_cons (M := fun sh => Trusted ids env sh ∧ sh.disk.tmpKo = some env.module)
      (fun _ _ => id) (fun _ => ?_) (fun _ _ => And.left) fun _ _ => And.left
    refine triple_chain_cons (M := fun sh => (∀ d ∈ sh.reports, Right env d) ∧
        sh.disk.ko = some env.module) (fun _ sh hsh => ⟨hsh.1.2, hsh.2⟩) (fun hmv => ?_)
      (fun _ _ => And.left) fun _ _ => And.left
    -- From here on no command stops the run.
    obtain ⟨hprintf, hstamp, hdepmod⟩ := hc hmv
    refine triple_chain_cons (M := fun sh => (∀ d ∈ sh.reports, Right env d) ∧
        sh.disk.ko = some env.module ∧ sh.disk.tmpStamp = some (want ids env.module ++ ['\n']))
      (fun _ sh hsh => ⟨hsh.1, hsh.2, rfl⟩) (fun _ => ?_) (by simp [hprintf]) (by simp [hprintf])
    refine triple_chain_cons (M := fun sh => (∀ d ∈ sh.reports, Right env d) ∧
        sh.disk.ko = some env.module ∧ sh.disk.stamp = some (want ids env.module ++ ['\n']))
      (fun _ sh hsh => hsh) (fun _ => ?_) (by simp [hstamp]) (by simp [hstamp])
    refine triple_chain_cons (M := Trusted ids env) ?_ (fun _ => Triple.pure fun _ => id)
      (by simp [hdepmod]) (by simp [hdepmod])
    rintro - sh ⟨hreports, hko, htext⟩
    refine ⟨fun m text hm ht => ⟨?_, rfl⟩, hreports⟩
    obtain rfl : env.module = m := Option.some.inj (hko.symm.trans hm)
    exact Option.some.inj (ht.symm.trans htext)
  refine Keeps.bind hchain fun _ => Keeps.ite (fun _ => Keeps.pure) fun _ => ?_
  exact Keeps.bind (keeps_invoke fun _ => id) fun _ => keeps_fail fun _ => id

lemma keeps_useStock : Keeps (Trusted ids env) (useStock env) := by
  refine Keeps.bind (Keeps.modify fun _ => id) fun _ => ?_
  refine Keeps.bind Keeps.get fun sh => Keeps.ite (fun _ => ?_) fun _ => Keeps.pure
  refine Keeps.bind keeps_rmFiles fun _ => Keeps.bind (keeps_invoke ?_) fun _ => Keeps.pure
  exact fun sh hsh => ⟨fun m text hm ht => ⟨(hsh.1 m text hm ht).1, rfl⟩, hsh.2⟩

lemma keeps_cleanupOrphans : Keeps (Trusted ids env) (cleanupOrphans env) := by
  refine Keeps.bind Keeps.get fun sh => Keeps.ite (fun _ => Keeps.pure) fun _ => ?_
  exact Keeps.bind (keeps_invoke fun _ => id) fun _ => Keeps.ite (fun _ => Keeps.pure) fun _ =>
    keeps_rmFiles

/-- A module that passes the test is the one the run wants. -/
lemma triple_upToDate : Triple (Trusted ids env) (upToDate ids env)
    (fun b sh => Trusted ids env sh ∧ (b = true → Right env sh.disk))
    fun _ => Trusted ids env := by
  intro sh hsh
  simp only [upToDate, get_bind]
  split_ifs with hskip
  · exact ⟨hsh, nofun⟩
  · rw [not_or] at hskip
    rcases hcat : env.outcome .catStamp with _ | _ | _ <;> simp only [invoke, hcat]
    · refine ⟨hsh, fun hright => ?_⟩
      exact hsh.1.right (eq_false_of_ne_true hskip.2) (of_decide_eq_true hright)
    · exact ⟨hsh, nofun⟩
    · exact hsh

lemma keeps_script (hc : env.Completes) : Keeps (Trusted ids env) (script ids env) := by
  refine Keeps.bind keeps_cleanupOrphans fun _ => Keeps.bind (keeps_chain_id (by simp)) fun _ =>
    Keeps.ite (fun _ => ?_) fun _ => Keeps.pure
  refine Triple.bind triple_upToDate fun b => Triple.ite (fun hb => ?_) fun _ => ?_
  · refine Triple.modify ?_
    rintro sh ⟨hsh, hright⟩
    exact ⟨hsh.1, List.forall_mem_cons.mpr ⟨hright hb, hsh.2⟩⟩
  · refine Triple.pre (P := Trusted ids env) ?_ fun _ => And.left
    refine Keeps.bind keeps_fetch fun _ => Keeps.ite (fun _ => ?_) fun _ => keeps_fail fun _ => id
    rcases env.prepared with _ | _ | _ | _
    · exact keeps_useStock
    · exact Keeps.bind keeps_build fun _ => Keeps.ite (fun _ => keeps_installModule hc) fun _ =>
        keeps_fail fun _ => id
    · exact keeps_fail fun _ => id
    · exact keeps_fail fun _ => id

/-! ### Sequences of runs -/

lemma rebuild_trusted (hc : env.Completes) (hd : Sound ids d) :
    Trusted ids env (rebuild ids env d) := by
  have hkeeps := keeps_script hc { disk := d } ⟨hd, by simp⟩
  rw [rebuild]
  rcases hres : script ids env { disk := d } with ⟨_, sh⟩ | ⟨_, sh⟩ <;> rw [hres] at hkeeps <;>
    exact hkeeps

lemma after_sound {envs : List (Env Patches)} (hc : ∀ env ∈ envs, env.Completes)
    (hd : Sound ids d) : Sound ids (after ids envs d) := by
  induction envs generalizing d with
  | nil => exact hd
  | cons env envs ih =>
      rw [List.forall_mem_cons] at hc
      exact ih hc.2 (rebuild_trusted hc.1 hd).1

/-- The ids of two patch sets, of one patch each, with the texts `a` and `b`. -/
def twoSets : PatchsetId Bool where
  id p := if p then "3e23e8160039".toList else "ca978112ca1b".toList
  length_id p := by cases p <;> rfl
  hex p c hc := by
    have hall : ∀ p : Bool, ((if p then "3e23e8160039".toList else "ca978112ca1b".toList).all
        fun c => decide (c ∈ "0123456789abcdef".toList)) = true := by decide
    exact of_decide_eq_true (List.all_eq_true.mp (hall p) c hc)
  injective := by
    intro p p' h
    cases p <;> cases p' <;> revert h <;> decide

/-- A run with the first patch set that meets no trouble. -/
def quiet : Env Bool := { pkgver := "7.1.13.asahi1-1".toList, patches := false }

/-- A run that is killed before `depmod`, and the run after it. -/
def noIndex : List (Env Bool) :=
  [{ quiet with outcome := fun c => if c = .depmod then .killed else .ok }, quiet]

/-- Between two runs with the first patch set, one with the second is killed before the stamp. -/
def otherModule : List (Env Bool) :=
  [quiet,
    { quiet with patches := true, outcome := fun c => if c = .printfStamp then .killed else .ok },
    quiet]

/-- The last of these runs reports a module that is up to date: one that is not in the index, and one
that was built from the other patch set. -/
theorem stale_reports :
    (∃ d ∈ (rebuild twoSets quiet (after twoSets (noIndex.take 1) {})).reports,
        d.ko = some quiet.module ∧ d.indexed = false) ∧
      ∃ d ∈ (rebuild twoSets quiet (after twoSets (otherModule.take 2) {})).reports,
        d.ko = some ⟨tagForPkgver quiet.pkgver, true⟩ ∧ d.ko ≠ some quiet.module := by
  decide +kernel

/-- **Every report of a module that is up to date is true**, in a sequence of runs of which none stops
between the module and the end of `depmod`: the module beside the stamp was built from the tag and
the patch set that the run wants, and `depmod` has succeeded since it was put in place. -/
theorem reports_sound {envs pre post : List (Env Patches)} {d₀ : Disk Patches}
    (h₀ : d₀.stamp = none) (hc : ∀ env ∈ envs, env.Completes) (hsplit : envs = pre ++ env :: post)
    (hd : d ∈ (rebuild ids env (after ids pre d₀)).reports) :
    d.ko = some ⟨tagForPkgver env.pkgver, env.patches⟩ ∧ d.indexed = true := by
  subst hsplit
  have hsound : Sound ids d₀ := by
    intro m text _ htext
    simp [h₀] at htext
  have hpre : Sound ids (after ids pre d₀) :=
    after_sound (fun e he => hc e (List.mem_append_left _ he)) hsound
  have henv : env.Completes := hc env (by simp)
  exact (rebuild_trusted henv hpre).2 d hd

/-- Two runs without trouble: the second has nothing to do. -/
theorem quiet_reports :
    ∃ d ∈ (rebuild twoSets quiet (after twoSets [quiet] {})).reports,
      d.ko = some ⟨tagForPkgver quiet.pkgver, quiet.patches⟩ ∧ d.indexed = true := by
  obtain ⟨d, hd⟩ : ∃ d, (rebuild twoSets quiet (after twoSets [quiet] {})).reports = [d] :=
    ⟨_, rfl⟩
  have hmem : d ∈ (rebuild twoSets quiet (after twoSets [quiet] {})).reports := by
    rw [hd]
    exact List.mem_singleton_self d
  have hall : ∀ env ∈ [quiet, quiet], env.Completes := by
    intro env henv _
    obtain rfl : env = quiet := by simpa using henv
    exact ⟨rfl, rfl, rfl⟩
  exact ⟨d, hmem, @reports_sound Bool twoSets quiet d _ [quiet] [] {} rfl hall rfl hmem⟩

end OmarchyM1Video.Rebuild
