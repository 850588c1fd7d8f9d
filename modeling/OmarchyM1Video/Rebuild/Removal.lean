import OmarchyM1Video.Rebuild.UpToDate

/-!
What removes a module again: `uninstall.sh`, the cleaning up of orphans, and a run that finds every
patch upstream.

All three find a module through its stamp, and the stamp is written after the module.  A first
installation that stops in between leaves a module without one, which nothing removes.

* `rebuildAll`, `afterAll`: runs over all kernels, of which each goes on until it is killed;
* `uninstall`: the loop of `uninstall.sh`;
* `Stamped`: a module has a stamp beside it;
* `Env.Stamps`: the run does not leave a module without a stamp;
* `orphanModule_remains`: one that does, and what is left afterwards;
* `modules_removed`: where no run does, every module can be removed.
-/

namespace OmarchyM1Video.Rebuild

open OmarchyM1Video.Py

variable {Patches Kernel : Type} [DecidableEq Kernel] (ids : PatchsetId Patches)

/-! ### All kernels -/

/-- The body of the loop, for a kernel that `asahi_kernels` lists. -/
def rebuildListed (env : Env Patches) : Script Patches Unit := do
  if ← chain env [(.kernelOwner, id), (.kernelVersion, id)] then rebuildKernel ids env

/-- The script, over the directories of `/usr/lib/modules`. -/
def scriptAll (dirs : List Kernel) (env : Kernel → Env Patches) :
    EStateM Unit (Kernel → Shell Patches) Unit := do
  each (fun k => atKey k (cleanupOrphans (env k))) dirs
  each (fun k => atKey k (rebuildListed ids (env k))) dirs

/-- A run over all kernels, to its end or to where it is killed. -/
def rebuildAll (dirs : List Kernel) (env : Kernel → Env Patches) (d : Kernel → Disk Patches) :
    Kernel → Shell Patches :=
  match scriptAll ids dirs env fun k => { disk := d k } with
  | .ok _ g => g
  | .error _ g => g

/-- The files after a sequence of runs. -/
def afterAll (dirs : List Kernel) (runs : List (Kernel → Env Patches)) (d : Kernel → Disk Patches) :
    Kernel → Disk Patches :=
  runs.foldl (fun d env k => (rebuildAll ids dirs env d k).disk) d

/-- What `uninstall.sh` meets at a kernel. -/
structure Removal where
  rm : Outcome := .ok
  /-- What an `rm` that fails has removed. -/
  rmModule : Bool := false
  rmStamp : Bool := false
  depmod : Outcome := .ok

/-- The body of the loop of `uninstall.sh`, for a directory that its pattern matches.  The first
command that fails ends the script. -/
def removeModule (r : Removal) : EStateM Unit (Disk Patches) Unit := do
  if (← get).stamp.isNone then return
  match r.rm with
  | .ok => modify fun d => { d with ko := none, stamp := none }
  | .fails => do
      modify fun d => { d with
        ko := if r.rmModule then none else d.ko
        stamp := if r.rmStamp then none else d.stamp }
      throw ()
  | .killed => throw ()
  match r.depmod with
  | .ok => modify fun d => { d with indexed := true }
  | .fails | .killed => throw ()

/-- The loop of `uninstall.sh`. -/
def uninstall (dirs : List Kernel) (r : Kernel → Removal) :
    EStateM Unit (Kernel → Disk Patches) Unit :=
  each (fun k => atKey k (removeModule (r k))) dirs

/-! ### The invariant -/

/-- A module has a stamp beside it. -/
def Stamped (d : Disk Patches) : Prop := d.ko.isSome → d.stamp.isSome

/-- The cleaning up of orphans leaves the stamp. -/
def Env.LeavesStamp (env : Env Patches) : Prop :=
  env.running = true ∨ env.outcome .orphanOwner = .ok ∨
    env.outcome .orphanRm = .fails ∧ env.rmStamp = false

/-- The run does not stop between the module and the stamp, unless there is a stamp already, and no
`rm` of it removes the stamp alone. -/
structure Env.Stamps (env : Env Patches) (d : Disk Patches) : Prop where
  installs : env.outcome .mvModule = .ok →
    env.outcome .printfStamp = .ok ∧ env.outcome .mvStamp = .ok ∨
      d.stamp.isSome ∧ env.LeavesStamp
  rms : env.rmStamp = true → env.rmModule = true

/-- The `rm` that follows the report of the stock module removes the module. -/
def Env.RemovesModule (env : Env Patches) : Prop :=
  env.outcome .upstreamRm = .ok ∨ env.outcome .upstreamRm = .fails ∧ env.rmModule = true

/-- A kernel before the loop reaches it. -/
structure Ready (env : Env Patches) (d : Disk Patches) (sh : Shell Patches) : Prop where
  stamped : Stamped sh.disk
  stamp : d.stamp.isSome ∧ env.LeavesStamp → sh.disk.stamp.isSome
  stock : sh.stock = false

/-- A kernel after the run. -/
structure Done (env : Env Patches) (sh : Shell Patches) : Prop where
  stamped : Stamped sh.disk
  removed : sh.stock = true → env.RemovesModule → sh.disk.ko = none

variable {ids} {env : Env Patches} {d : Disk Patches}

lemma Ready.done {sh : Shell Patches} (h : Ready env d sh) : Done env sh :=
  ⟨h.stamped, fun hstock => by simp [h.stock] at hstock⟩

lemma Stamped.of_ko (h : d.ko = none) : Stamped d := by
  simp [Stamped, h]

/-- An `rm` that does not remove the stamp alone. -/
lemma Stamped.remove {b b' : Bool} (h : Stamped d) (hb : b' = true → b = true) :
    Stamped { d with ko := if b then none else d.ko, stamp := if b' then none else d.stamp } := by
  rcases b with _ | _
  · have hb' : b' = false := by
      cases b' with
      | false => rfl
      | true => simp at hb
    subst hb'
    exact h
  · exact Stamped.of_ko rfl

/-! ### The pieces of the script -/

lemma triple_rmFiles {c : Command} {P : Shell Patches → Prop} {Q : Unit → Shell Patches → Prop}
    {E : Unit → Shell Patches → Prop}
    (hok : env.outcome c = .ok → ∀ sh, P sh →
      Q () { sh with disk := { sh.disk with ko := none, stamp := none } })
    (hfails : env.outcome c = .fails → ∀ sh, P sh →
      Q () { sh with disk := { sh.disk with
        ko := if env.rmModule then none else sh.disk.ko
        stamp := if env.rmStamp then none else sh.disk.stamp } })
    (hkilled : env.outcome c = .killed → ∀ sh, P sh → E () sh) :
    Triple P (rmFiles env c) Q E := by
  intro sh hsh
  rcases hc : env.outcome c with _ | _ | _
  · simpa [rmFiles, invoke, hc, Meets] using hok hc sh hsh
  · simpa [rmFiles, invoke, hc, Meets] using hfails hc sh hsh
  · rw [rmFiles, invoke, hc]
    exact hkilled hc sh hsh

/-- The cleaning up of orphans leaves no module without a stamp. -/
lemma triple_cleanupOrphans (hd : Stamped d) (hrms : env.rmStamp = true → env.rmModule = true) :
    Triple (fun sh => sh = { disk := d }) (cleanupOrphans env) (fun _ => Ready env d)
      fun _ => Ready env d := by
  have hstart : Ready env d { disk := d } := ⟨hd, And.left, rfl⟩
  rintro sh rfl
  simp only [cleanupOrphans, get_bind]
  split_ifs with hskip
  · exact hstart
  · rw [not_or] at hskip
    rcases howner : env.outcome .orphanOwner with _ | _ | _ <;> simp only [invoke, howner]
    · exact hstart
    · refine triple_rmFiles (P := fun sh => sh = { disk := d }) (c := .orphanRm) ?_ ?_ ?_ _ rfl
      · rintro hrm _ rfl
        refine ⟨Stamped.of_ko rfl, ?_, rfl⟩
        rintro ⟨_, hrun | how | ⟨hfail, _⟩⟩
        · exact absurd hrun hskip.2
        · simp [howner] at how
        · simp [hrm] at hfail
      · rintro hrm _ rfl
        refine ⟨hd.remove hrms, ?_, rfl⟩
        rintro ⟨hstamp, hrun | how | ⟨_, hkept⟩⟩
        · exact absurd hrun hskip.2
        · simp [howner] at how
        · simpa [hkept] using hstamp
      · rintro - _ rfl
        exact hstart
    · exact hstart

/-- The report of the stock module, and the `rm` after it. -/
lemma triple_useStock (hrms : env.rmStamp = true → env.rmModule = true) :
    Triple (Ready env d) (useStock env) (fun _ => Done env) fun _ => Done env := by
  refine Triple.bind (Q := fun _ sh => Stamped sh.disk) (Triple.modify fun _ hsh => hsh.stamped)
    fun _ => ?_
  refine Triple.bind (Q := fun s sh => s = sh ∧ Stamped sh.disk) (Triple.get fun _ hsh => ⟨rfl, hsh⟩)
    fun s => Triple.ite (fun hstamp => ?_) fun hstamp => ?_
  · refine Triple.bind (Q := fun _ => Done env) (triple_rmFiles ?_ ?_ ?_) fun _ => ?_
    · exact fun _ sh _ => ⟨Stamped.of_ko rfl, fun _ _ => rfl⟩
    · rintro hrm sh ⟨-, hsh⟩
      refine ⟨hsh.remove hrms, ?_⟩
      rintro - (hok | ⟨_, hmodule⟩)
      · simp [hrm] at hok
      · simp [hmodule]
    · rintro hrm sh ⟨-, hsh⟩
      refine ⟨hsh, ?_⟩
      rintro - (hok | ⟨hfails, _⟩)
      · simp [hrm] at hok
      · simp [hrm] at hfails
    · exact Keeps.bind (keeps_invoke fun sh hsh => ⟨hsh.stamped, hsh.removed⟩) fun _ => Keeps.pure
  · -- Without a stamp there is no module.
    refine Triple.pure ?_
    rintro sh ⟨rfl, hsh⟩
    refine ⟨hsh, fun _ _ => ?_⟩
    by_contra hko
    exact hstamp (hsh (Option.isSome_iff_ne_none.mpr hko))

/-- **Installing leaves no module without a stamp.** -/
lemma triple_installModule (hs : env.Stamps d) :
    Triple (Ready env d) (installModule ids env) (fun _ => Done env) fun _ => Done env := by
  have hdone : ∀ sh, Ready env d sh → Done env sh := fun _ => Ready.done
  have hlast : ∀ sh : Shell Patches, sh.disk.stamp.isSome ∧ sh.stock = false → Done env sh :=
    fun sh hsh => ⟨fun _ => hsh.1, fun hstock => by simp [hsh.2] at hstock⟩
  have hchain : Triple (Ready env d) (chain env (installation ids env)) (fun _ => Done env)
      fun _ => Done env := by
    refine triple_chain_cons (M := Ready env d) (fun _ sh hsh => ⟨hsh.1, hsh.2, hsh.3⟩) (fun _ => ?_)
      (fun _ => hdone) fun _ => hdone
    refine triple_chain_cons (M := Ready env d) (fun _ _ => id) (fun _ => ?_) (fun _ => hdone)
      fun _ => hdone
    by_cases hold : d.stamp.isSome ∧ env.LeavesStamp
    · -- There is a stamp already, and it is only replaced.
      refine triple_chain_cons (M := fun sh => sh.disk.stamp.isSome ∧ sh.stock = false)
        (fun _ sh hsh => ⟨hsh.stamp hold, hsh.stock⟩) (fun _ => ?_) (fun _ => hdone) fun _ => hdone
      refine triple_chain_cons (M := fun sh => (sh.disk.stamp.isSome ∧ sh.stock = false) ∧
        sh.disk.tmpStamp.isSome) (fun _ sh hsh => ⟨hsh, rfl⟩) (fun _ => ?_) (fun _ => hlast)
        fun _ => hlast
      refine triple_chain_cons (M := fun sh => sh.disk.stamp.isSome ∧ sh.stock = false)
        (fun _ sh hsh => ⟨hsh.2, hsh.1.2⟩) (fun _ => ?_) (fun _ sh hsh => hlast sh hsh.1)
        fun _ sh hsh => hlast sh hsh.1
      exact triple_chain_cons (fun _ _ => id) (fun _ => Triple.pure hlast) (fun _ => hlast)
        fun _ => hlast
    · -- The run goes on from the module to the stamp.
      refine triple_chain_cons (M := fun sh => sh.stock = false) (fun _ sh hsh => hsh.stock)
        (fun hmv => ?_) (fun _ => hdone) fun _ => hdone
      obtain ⟨hprintf, hmvStamp⟩ := (hs.installs hmv).resolve_right hold
      refine triple_chain_cons (M := fun sh => sh.disk.tmpStamp.isSome ∧ sh.stock = false)
        (fun _ sh hsh => ⟨rfl, hsh⟩) (fun _ => ?_) (by simp [hprintf]) (by simp [hprintf])
      refine triple_chain_cons (M := fun sh => sh.disk.stamp.isSome ∧ sh.stock = false)
        (fun _ sh hsh => hsh) (fun _ => ?_) (by simp [hmvStamp]) (by simp [hmvStamp])
      exact triple_chain_cons (fun _ _ => id) (fun _ => Triple.pure hlast) (fun _ => hlast)
        fun _ => hlast
  refine Triple.bind hchain fun _ => Triple.ite (fun _ => Keeps.pure) fun _ => ?_
  exact Keeps.bind (keeps_invoke fun sh hsh => ⟨hsh.stamped, hsh.removed⟩) fun _ =>
    keeps_fail fun sh hsh => ⟨hsh.stamped, hsh.removed⟩

/-- The test leaves the files alone. -/
lemma keeps_upToDate {I : Shell Patches → Prop} : Keeps I (upToDate ids env) := by
  refine Keeps.bind Keeps.get fun sh => Keeps.ite (fun _ => Keeps.pure) fun _ => ?_
  exact Keeps.bind (keeps_invoke fun _ => id) fun _ => Keeps.ite (fun _ => Keeps.pure) fun _ =>
    Keeps.pure

lemma triple_rebuildListed (hs : env.Stamps d) :
    Triple (Ready env d) (rebuildListed ids env) (fun _ => Done env) fun _ => Done env := by
  have hready : ∀ {α : Type} {x : Script Patches α}, Keeps (Ready env d) x →
      Triple (Ready env d) x (fun _ => Ready env d) fun _ => Done env := by
    intro α x hx
    exact hx.conseq (fun _ => id) (fun _ _ => id) fun _ _ => Ready.done
  have hfail : Triple (Ready env d) fail (fun _ => Done env) fun _ => Done env :=
    Triple.modify fun sh hsh => ⟨hsh.stamped, hsh.done.removed⟩
  refine Triple.bind (hready (keeps_chain_id (by simp))) fun _ => Triple.ite (fun _ => ?_) fun _ =>
    Triple.pure fun _ => Ready.done
  refine Triple.bind (hready keeps_upToDate) fun _ => Triple.ite (fun _ => ?_) fun _ => ?_
  · exact Triple.modify fun sh hsh => ⟨hsh.stamped, hsh.done.removed⟩
  · refine Triple.bind (hready keeps_fetch) fun _ => Triple.ite (fun _ => ?_) fun _ => hfail
    rcases env.prepared with _ | _ | _ | _
    · exact triple_useStock hs.rms
    · exact Triple.bind (hready keeps_build) fun _ =>
        Triple.ite (fun _ => triple_installModule hs) fun _ => hfail
    · exact hfail
    · exact hfail

/-! ### Sequences of runs -/

variable {dirs : List Kernel} {run : Kernel → Env Patches} {s : Kernel → Disk Patches}

/-- What a run leaves at each kernel. -/
lemma rebuildAll_meets {R : Kernel → Shell Patches → Prop}
    (h : Triple (fun g => ∀ k, g k = { disk := s k }) (scriptAll ids dirs run)
      (fun _ g => ∀ k, R k (g k)) fun _ g => ∀ k, R k (g k)) (k : Kernel) :
    R k (rebuildAll ids dirs run s k) := by
  have hmeets := h (fun k => { disk := s k }) fun _ => rfl
  rw [rebuildAll]
  rcases hres : scriptAll ids dirs run fun k => { disk := s k } with ⟨_, g⟩ | ⟨_, g⟩ <;>
    rw [hres] at hmeets <;> exact hmeets k

/-- One run over all kernels. -/
lemma rebuildAll_done (hdirs : dirs.Nodup) (hs : ∀ k, Stamped (s k))
    (hrun : ∀ k, (run k).Stamps (s k)) (k : Kernel) :
    Done (run k) (rebuildAll ids dirs run s k) := by
  have hfirst : ∀ k, Ready (run k) (s k) { disk := s k } := fun k => ⟨hs k, And.left, rfl⟩
  refine rebuildAll_meets (R := fun k => Done (run k)) ?_ k
  refine Triple.bind (Q := fun _ g => ∀ k, Ready (run k) (s k) (g k)) ?_ fun _ => ?_
  · refine Triple.pre (triple_each_atKey (B := fun k sh => sh = { disk := s k })
      (A := fun k => Ready (run k) (s k)) hdirs (fun k sh hsh => ?_) (fun k sh => Ready.done)
      fun k _ => ?_) fun g hg k => ⟨fun _ => hg k, fun _ => ?_⟩
    · rw [hsh]
      exact (hfirst k).done
    · exact (triple_cleanupOrphans (hs k) (hrun k).rms).conseq (fun _ => id) (fun _ _ => id)
        fun _ _ => Ready.done
    · rw [hg k]
      exact hfirst k
  · exact (triple_each_atKey hdirs (fun k sh => Ready.done) (fun _ _ => id)
      fun k _ => triple_rebuildListed (hrun k)).pre
        fun g hg k => ⟨fun _ => hg k, fun _ => (hg k).done⟩

/-- A run touches no kernel but those it lists. -/
lemma rebuildAll_disk_of_notMem (hdirs : dirs.Nodup) {k : Kernel} (hk : k ∉ dirs) :
    (rebuildAll ids dirs run s k).disk = s k := by
  have hloop : ∀ x : Kernel → Script Patches Unit,
      Triple (fun g : Kernel → Shell Patches => ∀ k, k ∉ dirs → (g k).disk = s k)
        (each (fun k => atKey k (x k)) dirs) (fun _ g => ∀ k, k ∉ dirs → (g k).disk = s k)
        fun _ g => ∀ k, k ∉ dirs → (g k).disk = s k := by
    intro x
    refine Triple.pre (triple_each_atKey
      (B := fun k (sh : Shell Patches) => k ∉ dirs → sh.disk = s k) hdirs (fun _ _ => id)
      (fun _ _ => id) fun k hmem sh _ => ?_) fun g hg k => ⟨fun _ => hg k, fun _ => hg k⟩
    rcases x k sh with ⟨_, _⟩ | ⟨_, _⟩ <;> exact fun hnot => absurd hmem hnot
  refine rebuildAll_meets (R := fun k sh => k ∉ dirs → sh.disk = s k) ?_ k hk
  exact (Triple.bind (hloop _) fun _ => hloop _).pre fun g hg k _ => by rw [hg k]

/-- Every run of a sequence meets the condition, in the state it finds. -/
def AllStamp (ids : PatchsetId Patches) (dirs : List Kernel) (runs : List (Kernel → Env Patches))
    (s₀ : Kernel → Disk Patches) : Prop :=
  ∀ pre run post, runs = pre ++ run :: post →
    ∀ k, (run k).Stamps (afterAll ids dirs pre s₀ k)

lemma afterAll_stamped {runs : List (Kernel → Env Patches)} (hdirs : dirs.Nodup)
    (hs : ∀ k, Stamped (s k)) (hruns : AllStamp ids dirs runs s) (k : Kernel) :
    Stamped (afterAll ids dirs runs s k) := by
  induction runs using List.reverseRecOn generalizing k with
  | nil => exact hs k
  | append_singleton runs run ih =>
      have hbefore : ∀ k, Stamped (afterAll ids dirs runs s k) :=
        ih fun pre run' post hsplit => hruns pre run' (post ++ [run]) (by simp [hsplit])
      rw [afterAll, List.foldl_concat]
      exact (rebuildAll_done hdirs hbefore (hruns runs run [] rfl) k).stamped

lemma afterAll_of_notMem {runs : List (Kernel → Env Patches)} (hdirs : dirs.Nodup) {k : Kernel}
    (hk : k ∉ dirs) : afterAll ids dirs runs s k = s k := by
  induction runs using List.reverseRecOn with
  | nil => rfl
  | append_singleton runs run ih =>
      rw [afterAll, List.foldl_concat, rebuildAll_disk_of_notMem hdirs hk]
      exact ih

/-! ### The uninstallation -/

/-- The loop of `uninstall.sh` removes a module that has a stamp, or is cut short. -/
lemma triple_removeModule {r : Removal} :
    Triple Stamped (removeModule r) (fun _ (d : Disk Patches) => d.ko = none) fun _ _ => True := by
  intro d hd
  simp only [removeModule, get_bind]
  by_cases hstamp : d.stamp.isNone
  · -- The pattern does not match: there is no module either.
    have hko : ¬ d.ko.isSome := fun hko => Option.not_isSome_iff_eq_none.mpr
      (Option.isNone_iff_eq_none.mp hstamp) (hd hko)
    rw [if_pos hstamp]
    simpa [Meets] using hko
  · rw [if_neg hstamp]
    rcases r.rm with _ | _ | _
    · rcases r.depmod with _ | _ | _
      · rfl
      · trivial
      · trivial
    · trivial
    · trivial

/-- **An uninstallation that completes leaves no module**, if each has its stamp. -/
lemma uninstall_removes {r : Kernel → Removal} {s' : Kernel → Disk Patches} {u : Unit}
    (hdirs : dirs.Nodup) (hs : ∀ k, Stamped (s k)) (hnone : ∀ k, k ∉ dirs → (s k).ko = none)
    (h : uninstall dirs r s = .ok u s') (k : Kernel) : (s' k).ko = none := by
  have htriple := triple_each_atKey (κ := Kernel) (A := fun _ (d : Disk Patches) => d.ko = none)
    hdirs (fun _ _ _ => trivial) (fun _ _ _ => trivial) fun k _ => triple_removeModule (r := r k)
  exact htriple.ok (fun k => ⟨fun _ => hs k, hnone k⟩) h k

/-- The first installation at each kernel, killed after the module is in place. -/
def interrupted : String → Env Bool := fun _ =>
  { quiet with outcome := fun c => if c = .printfStamp then .killed else .ok }

/-- A run after the release that has every patch. -/
def upstreamFixed : String → Env Bool := fun _ =>
  { quiet with pkgver := "7.2.0.asahi1-1".toList, prepared := .upstream }

/-- The module of the interrupted installation remains after an uninstallation that completes, and
after a run that reports that the stock module will be used. -/
theorem orphanModule_remains :
    (∃ s, uninstall ["7.1.13-asahi"] (fun _ => {})
        (afterAll twoSets ["7.1.13-asahi"] [interrupted] fun _ => {}) = .ok () s ∧
      (s "7.1.13-asahi").ko = some quiet.module) ∧
      (rebuildAll twoSets ["7.1.13-asahi"] upstreamFixed
        (afterAll twoSets ["7.1.13-asahi"] [interrupted] fun _ => {}) "7.1.13-asahi").stock = true ∧
      (rebuildAll twoSets ["7.1.13-asahi"] upstreamFixed
        (afterAll twoSets ["7.1.13-asahi"] [interrupted] fun _ => {}) "7.1.13-asahi").disk.ko =
          some quiet.module := by
  refine ⟨⟨_, rfl, by decide +kernel⟩, by decide +kernel, by decide +kernel⟩

/-- **Every module can be removed again**, if no run stops between putting a first module in place
and writing its stamp and no `rm` removes a stamp alone: an uninstallation that completes leaves no
module at any kernel, and neither does a run at a kernel for which it reports that the stock module
will be used, if the `rm` after the report removes the module. -/
theorem modules_removed {runs : List (Kernel → Env Patches)} {s₀ : Kernel → Disk Patches}
    (hdirs : dirs.Nodup) (h₀ : ∀ k, (s₀ k).ko = none) (hruns : AllStamp ids dirs runs s₀) :
    (∀ r s, uninstall dirs r (afterAll ids dirs runs s₀) = .ok () s → ∀ k, (s k).ko = none) ∧
      ∀ pre run post k, runs = pre ++ run :: post →
        (rebuildAll ids dirs run (afterAll ids dirs pre s₀) k).stock = true →
        (run k).RemovesModule →
          (rebuildAll ids dirs run (afterAll ids dirs pre s₀) k).disk.ko = none := by
  have hs₀ : ∀ k, Stamped (s₀ k) := fun k => Stamped.of_ko (h₀ k)
  constructor
  · intro r s h k
    refine uninstall_removes hdirs (afterAll_stamped hdirs hs₀ hruns) (fun k hk => ?_) h k
    rw [afterAll_of_notMem hdirs hk, h₀]
  · rintro pre run post k rfl hstock hremoves
    have hpre : AllStamp ids dirs pre s₀ :=
      fun pre' run' post' hsplit => hruns pre' run' (post' ++ run :: post) (by simp [hsplit])
    exact (rebuildAll_done hdirs (afterAll_stamped hdirs hs₀ hpre) (hruns pre run post rfl) k).removed
      hstock hremoves

/-- Two kernels, an installation without trouble and a run that finds every patch upstream. -/
theorem quiet_removed :
    (rebuildAll twoSets ["7.1.13-asahi", "7.1.14-asahi"] upstreamFixed
        (afterAll twoSets ["7.1.13-asahi", "7.1.14-asahi"] [fun _ => quiet] fun _ => {})
        "7.1.14-asahi").disk.ko = none := by
  have hstamps : AllStamp twoSets ["7.1.13-asahi", "7.1.14-asahi"] [fun _ => quiet, upstreamFixed]
      fun _ => {} := by
    intro pre run post hsplit k
    have hmem : run ∈ [fun _ => quiet, upstreamFixed] := by rw [hsplit]; simp
    rcases List.mem_pair.mp hmem with rfl | rfl
    · exact ⟨fun _ => Or.inl ⟨rfl, rfl⟩, nofun⟩
    · exact ⟨fun _ => Or.inl ⟨rfl, rfl⟩, nofun⟩
  exact (modules_removed (by decide) (fun _ => rfl) hstamps).2 [fun _ => quiet] upstreamFixed []
    "7.1.14-asahi" rfl (by decide +kernel) (Or.inl rfl)

end OmarchyM1Video.Rebuild
