import OmarchyM1Video.Driver.Lifecycle

/-!
Which job a watchdog times out.

The work of the watchdog compares the job with `ctx->wd_seq`, which the next job of the context
overwrites when it goes to the hardware.  A watchdog that has begun and has not taken `job_lock` by
then times out that next job; no other order of steps does so.

* `Unhurried`: the step hands no job to the hardware past a watchdog that has begun;
* `Armed`, `step_armed`: what the armed and the begun watchdogs know of their job;
* `lateWatchdog_claims`: the order of steps that goes wrong;
* `watchdog_claims_own`: without it a watchdog claims the job it was armed for.
-/

namespace OmarchyM1Video.Driver

open OmarchyM1Video.Py

variable {Ctx : Type}

/-- The step does not hand a job to the hardware while a watchdog of its context has begun and has
not taken the lock. -/
def Unhurried (w : World Ctx) : Event Ctx → Prop
  | .returnOk j => ∀ c s, w.pc (.run j) = .building c s ∨ w.pc (.run j) = .ended c s →
      w.dev.jobPending = false → ∀ c' n, w.pc (.watchdog c) ≠ .begun c' n
  | _ => True

/-- A pending watchdog belongs to the job that is with the hardware, or that an interrupt has
claimed from it; one that has begun is not pending as well. -/
structure World.Armed (w : World Ctx) : Prop where
  pending : ∀ c n, w.timer c = some n → n = w.wdSeq c ∧
    ((w.dev.jobState = .submitted ∧ w.dev.jobCtx = some c) ∨
      ∃ i state, w.pc (.irq i) = .claimed c state)
  begun : ∀ c c' n, w.pc (.watchdog c) = .begun c' n → n = w.wdSeq c ∧ w.timer c = none
  own : ∀ p ∈ w.wdClaims, p.1 = p.2

namespace World

variable {w w' : World Ctx} {t : Thread Ctx} {c : Ctx}

/-- No watchdog is pending while a party has the job in hand, but for the interrupt that is about to
cancel it. -/
lemma Armed.quiet (ha : w.Armed) (hw : w.Inv) (ht : (w.pc t).Holds)
    (hclaimed : ∀ c state, w.pc t ≠ .claimed c state) (c : Ctx) : w.timer c = none := by
  by_contra hne
  obtain ⟨n, hn⟩ := Option.ne_none_iff_exists'.mp hne
  obtain ⟨-, ⟨hsub, -⟩ | ⟨i, state, hi⟩⟩ := ha.pending c n hn
  · obtain ⟨-, -, -, hfree, -⟩ := hw.owned_of_submitted hsub
    exact hfree t ht
  · obtain ⟨-, -, -, -, hsole, -⟩ := hw.held ht
    obtain rfl := hsole (.irq i) (by rw [hi]; trivial)
    exact hclaimed c state hi

/-- No watchdog is pending between two jobs. -/
lemma Armed.quiet_of_none (ha : w.Armed) (hw : w.Inv) (hcur : w.current = none) (c : Ctx) :
    w.timer c = none := by
  obtain ⟨hfree, hidle, -⟩ := hw.phase.1 hcur
  by_contra hne
  obtain ⟨n, hn⟩ := Option.ne_none_iff_exists'.mp hne
  obtain ⟨-, ⟨hsub, -⟩ | ⟨i, state, hi⟩⟩ := ha.pending c n hn
  · exact absurd (hidle.symm.trans hsub) (by decide)
  · exact hfree (.irq i) (by rw [hi]; trivial)

/-- A step with no watchdog pending before it, which begins none. -/
lemma Armed.of_quiet (ha : w.Armed) (hquiet : ∀ c, w.timer c = none) (htimer : w'.timer = w.timer)
    (hseq : w'.wdSeq = w.wdSeq) (hclaims : w'.wdClaims = w.wdClaims)
    (hpc : ∀ c c' n, w'.pc (.watchdog c) = .begun c' n → w.pc (.watchdog c) = .begun c' n) :
    w'.Armed where
  pending c n hn := by
    rw [htimer, hquiet c] at hn
    simp at hn
  begun c c' n hn := by
    rw [htimer, hseq]
    exact ha.begun c c' n (hpc c c' n hn)
  own := hclaims ▸ ha.own

/-- A step that leaves the device to the same job, and moves a party that is neither a watchdog that
begins nor an interrupt with a claim. -/
lemma Armed.aside [DecidableEq Ctx] {p : Pc Ctx} (ha : w.Armed)
    (hpc : w'.pc = Function.update w.pc t p) (hstate : w'.dev.jobState = w.dev.jobState)
    (hctx : w'.dev.jobCtx = w.dev.jobCtx)
    (htimer : w'.timer = w.timer) (hseq : w'.wdSeq = w.wdSeq) (hclaims : w'.wdClaims = w.wdClaims)
    (ht : ∀ c state, w.pc t ≠ .claimed c state) (hp : ∀ c n, p ≠ .begun c n) : w'.Armed where
  pending c n hn := by
    rw [htimer] at hn
    rw [hseq, hstate, hctx]
    obtain ⟨hn', hsub | ⟨i, state, hi⟩⟩ := ha.pending c n hn
    · exact ⟨hn', Or.inl hsub⟩
    · refine ⟨hn', Or.inr ⟨i, state, ?_⟩⟩
      have hne : .irq i ≠ t := by
        rintro rfl
        exact ht c state hi
      rwa [pc_of_ne hpc hne]
  begun c c' n hn := by
    have hne : .watchdog c ≠ t := by
      rintro rfl
      rw [pc_self hpc] at hn
      exact hp c' n hn
    rw [pc_of_ne hpc hne] at hn
    rw [htimer, hseq]
    exact ha.begun c c' n hn
  own := hclaims ▸ ha.own

section Step

variable [DecidableEq Ctx]

/-- A job goes to the hardware, and its watchdog is armed. -/
lemma Armed.arm {j s : ℕ} (ha : w.Armed) (hquiet : ∀ c, w.timer c = none)
    (hwait : ∀ c' n, w.pc (.watchdog c) ≠ .begun c' n)
    (hpc : w'.pc = Function.update w.pc (.run j) .off) (hstate : w'.dev.jobState = .submitted)
    (hctx : w'.dev.jobCtx = some c)
    (htimer : w'.timer = Function.update w.timer c (some ((w.timer c).getD s)))
    (hseq : w'.wdSeq = Function.update w.wdSeq c s) (hclaims : w'.wdClaims = w.wdClaims) :
    w'.Armed where
  pending c' n hn := by
    rw [htimer] at hn
    rcases eq_or_ne c' c with rfl | hne
    · rw [Function.update_self, hquiet c', Option.getD_none, Option.some_inj] at hn
      rw [hseq, Function.update_self]
      exact ⟨hn.symm, Or.inl ⟨hstate, hctx⟩⟩
    · rw [Function.update_of_ne hne, hquiet c'] at hn
      simp at hn
  begun c' c'' n hn := by
    rw [pc_of_ne hpc (by simp)] at hn
    have hne : c' ≠ c := by
      rintro rfl
      exact hwait c'' n hn
    rw [hseq, htimer, Function.update_of_ne hne, Function.update_of_ne hne]
    exact ha.begun c' c'' n hn
  own := hclaims ▸ ha.own

/-- An interrupt claims the job: a watchdog that is pending is the one of its context. -/
lemma Armed.claim {i : ℕ} {state state' : BufState} (ha : w.Armed)
    (hi : w.pc (.irq i) = .arrived c state') (hctx : w.dev.jobCtx = some c)
    (hpc : w'.pc = Function.update w.pc (.irq i) (.claimed c state)) (htimer : w'.timer = w.timer)
    (hseq : w'.wdSeq = w.wdSeq) (hclaims : w'.wdClaims = w.wdClaims) : w'.Armed where
  pending c' n hn := by
    rw [htimer] at hn
    rw [hseq]
    obtain ⟨hn', ⟨-, hctx'⟩ | ⟨k, state'', hk⟩⟩ := ha.pending c' n hn
    · obtain rfl : c = c' := Option.some.inj (hctx.symm.trans hctx')
      exact ⟨hn', Or.inr ⟨i, state, pc_self hpc⟩⟩
    · have hne : (.irq k : Thread Ctx) ≠ .irq i := by
        intro heq
        rw [heq, hi] at hk
        simp at hk
      exact ⟨hn', Or.inr ⟨k, state'', (pc_of_ne hpc hne).trans hk⟩⟩
  begun c' c'' n hn := by
    rw [pc_of_ne hpc (by simp)] at hn
    rw [htimer, hseq]
    exact ha.begun c' c'' n hn
  own := hclaims ▸ ha.own

/-- A pending watchdog begins. -/
lemma Armed.expires {n : ℕ} (ha : w.Armed) (ht : w.timer c = some n)
    (hpc : w'.pc = Function.update w.pc (.watchdog c) (.begun c n)) (hdev : w'.dev = w.dev)
    (htimer : w'.timer = Function.update w.timer c none) (hseq : w'.wdSeq = w.wdSeq)
    (hclaims : w'.wdClaims = w.wdClaims) : w'.Armed where
  pending c' m hm := by
    rw [htimer] at hm
    have hne : c' ≠ c := by
      rintro rfl
      rw [Function.update_self] at hm
      simp at hm
    rw [Function.update_of_ne hne] at hm
    rw [hseq, hdev]
    obtain ⟨hm', hsub | ⟨i, state, hi⟩⟩ := ha.pending c' m hm
    · exact ⟨hm', Or.inl hsub⟩
    · exact ⟨hm', Or.inr ⟨i, state, (pc_of_ne hpc (by simp)).trans hi⟩⟩
  begun c' c'' m hm := by
    rw [htimer, hseq]
    rcases eq_or_ne c' c with rfl | hne
    · rw [pc_self hpc, Pc.begun.injEq] at hm
      obtain ⟨-, rfl⟩ := hm
      exact ⟨(ha.pending c' n ht).1, Function.update_self ..⟩
    · rw [pc_of_ne hpc (by simpa using hne)] at hm
      rw [Function.update_of_ne hne]
      exact ha.begun c' c'' m hm
  own := hclaims ▸ ha.own

/-- The watchdog of a context claims the job. -/
lemma Armed.timeOut {c' : Ctx} {n : ℕ} (ha : w.Armed) (hw : w.Inv)
    (hp : w.pc (.watchdog c) = .begun c' n) (hclaimed : w.dev.claims c (w.wdSeq c))
    (hpc : w'.pc = Function.update w.pc (.watchdog c) (.finish c .error none))
    (htimer : w'.timer = w.timer) (hseq : w'.wdSeq = w.wdSeq)
    (hclaims : w'.wdClaims = (n, w.dev.jobSeq) :: w.wdClaims) : w'.Armed := by
  obtain ⟨hn, hnone⟩ := ha.begun c c' n hp
  obtain ⟨hctx, hjob, hsub⟩ := hclaimed
  obtain ⟨-, -, -, hfree, -⟩ := hw.owned_of_submitted hsub
  refine ⟨?_, ?_, ?_⟩
  · intro c₁ m hm
    rw [htimer] at hm
    exfalso
    obtain ⟨-, ⟨-, hctx'⟩ | ⟨i, state, hi⟩⟩ := ha.pending c₁ m hm
    · obtain rfl : c = c₁ := Option.some.inj (hctx.symm.trans hctx')
      simp [hnone] at hm
    · exact hfree (.irq i) (by rw [hi]; trivial)
  · intro c₁ c₂ m hm
    have hne : Thread.watchdog c₁ ≠ .watchdog c := by
      intro heq
      rw [heq, pc_self hpc] at hm
      simp at hm
    rw [pc_of_ne hpc hne] at hm
    rw [htimer, hseq]
    exact ha.begun c₁ c₂ m hm
  · rw [hclaims, List.forall_mem_cons]
    exact ⟨hn.trans hjob.symm, ha.own⟩

lemma Armed.returnOk {j s : ℕ} (ha : w.Armed) (hw : w.Inv)
    (hp : w.pc (.run j) = .building c s ∨ w.pc (.run j) = .ended c s)
    (hwait : w.dev.jobPending = false → ∀ c' n, w.pc (.watchdog c) ≠ .begun c' n) :
    (w.returnOk j c s).Armed := by
  have hholds : (w.pc (.run j)).Holds := by
    obtain hp | hp := hp <;> rw [hp] <;> trivial
  have hquiet : ∀ c, w.timer c = none := by
    refine ha.quiet hw hholds ?_
    obtain hp | hp := hp <;> simp [hp]
  obtain ⟨j', c', -, -, -, hheld⟩ := hw.held hholds
  obtain ⟨rfl, rfl, hstate, hctx, hseq, -⟩ := hheld.running hp
  rcases hpending : w.dev.jobPending with _ | _
  · rw [World.returnOk, AvdDev.runReturn, if_pos ⟨hseq, hstate⟩, if_neg (by simp [hpending])]
    exact ha.arm hquiet (hwait hpending) rfl rfl hctx rfl rfl rfl
  · rw [World.returnOk, AvdDev.runReturn, if_pos ⟨hseq, hstate⟩, if_pos hpending]
    refine ha.of_quiet hquiet rfl rfl rfl fun c' c'' n hn => ?_
    exact (pc_of_ne (by rfl) (by simp)).symm.trans hn

lemma Armed.irqLock {i : ℕ} {state : BufState} (ha : w.Armed)
    (hi : w.pc (.irq i) = .arrived c state) : (w.irqLock i c state).Armed := by
  by_cases hctx : w.dev.jobCtx = some c
  · by_cases hsub : w.dev.jobState = .submitted
    · rw [World.irqLock, AvdDev.irq, if_neg (not_not.mpr hctx), if_pos hsub]
      exact ha.claim hi hctx rfl rfl rfl rfl
    · by_cases hrun : w.dev.jobState = .running ∧ w.dev.jobEndSent = true
      · rw [World.irqLock, AvdDev.irq, if_neg (not_not.mpr hctx), if_neg hsub, if_pos hrun]
        exact ha.aside (t := .irq i) (p := .off) rfl rfl rfl rfl rfl rfl (by simp [hi]) (by simp)
      · have hdeaf : w.dev.Deaf := ⟨hsub, hrun⟩
        rw [World.irqLock, hdeaf.irq]
        exact ha.aside (t := .irq i) (p := .off) rfl rfl rfl rfl rfl rfl (by simp [hi]) (by simp)
  · rw [World.irqLock, AvdDev.irq, if_pos hctx]
    exact ha.aside (t := .irq i) (p := .off) rfl rfl rfl rfl rfl rfl (by simp [hi]) (by simp)

lemma Armed.watchdogLock {c' : Ctx} {n : ℕ} (ha : w.Armed) (hw : w.Inv)
    (hp : w.pc (.watchdog c) = .begun c' n) : (w.watchdogLock c n).Armed := by
  rw [World.watchdogLock]
  split_ifs with hclaims
  · exact ha.timeOut hw hp hclaims rfl rfl rfl rfl
  · exact ha.aside (t := .watchdog c) (p := .off) rfl rfl rfl rfl rfl rfl (by simp [hp]) (by simp)

end Step

end World

section Run

variable [DecidableEq Ctx] {w w' : World Ctx} {e : Event Ctx}

open World

/-- A step of the party that has the job in hand, other than the interrupt that has claimed it. -/
lemma World.Armed.hand {t : Thread Ctx} {p : Pc Ctx} (ha : w.Armed) (hw : w.Inv)
    (ht : (w.pc t).Holds) (hclaimed : ∀ c state, w.pc t ≠ .claimed c state)
    (hpc : w'.pc = Function.update w.pc t p) (hp : ∀ c n, p ≠ .begun c n)
    (htimer : w'.timer = w.timer) (hseq : w'.wdSeq = w.wdSeq)
    (hclaims : w'.wdClaims = w.wdClaims) : w'.Armed := by
  refine ha.of_quiet (ha.quiet hw ht hclaimed) htimer hseq hclaims fun c c' n hn => ?_
  have hne : .watchdog c ≠ t := by
    rintro rfl
    rw [pc_self hpc] at hn
    exact hp c' n hn
  rwa [← pc_of_ne hpc hne]

/-- **Every step that hurries no watchdog keeps them with their jobs.** -/
theorem step_armed (h : step w e = some w') (hc : Unhurried w e) (hw : w.Inv) (ha : w.Armed) :
    w'.Armed := by
  cases e with
  | enter c | resumeFails c =>
      simp only [step, Option.ite_none_right_eq_some, Option.some_inj] at h
      obtain ⟨hcur, rfl⟩ := h
      refine ha.of_quiet (ha.quiet_of_none hw hcur) rfl rfl rfl fun c' c'' n hn => ?_
      exact (pc_of_ne (by rfl) (by simp)).symm.trans hn
  | endSubmission j | returnError j | selfFinish j state =>
      rcases hp : w.pc (.run j) <;> simp only [step, hp, reduceCtorEq, Option.some_inj] at h
      subst h
      exact ha.hand hw (t := .run j) (by rw [hp]; trivial) (by simp [hp]) rfl (by simp) rfl rfl rfl
  | returnOk j =>
      rcases hp : w.pc (.run j) <;> simp only [step, hp, reduceCtorEq, Option.some_inj] at h
      case building c s => exact h ▸ ha.returnOk hw (Or.inl hp) (hc c s (Or.inl hp))
      case ended c s => exact h ▸ ha.returnOk hw (Or.inr hp) (hc c s (Or.inr hp))
      case selfDone =>
        rw [(hw.returnOk_selfDone hp).2] at h
        subst h
        exact ha.aside (t := .run j) (p := .off) rfl rfl rfl rfl rfl rfl (by simp [hp]) (by simp)
  | irqArrives i state =>
      rcases hp : w.pc (.irq i) <;> rcases hcur : w.current with _ | ⟨j, c⟩ <;>
        simp only [step, hp, hcur, reduceCtorEq, Option.some_inj] at h
      subst h
      exact ha.aside (t := .irq i) rfl rfl rfl rfl rfl rfl (by simp [hp]) (by simp)
  | irqLock i =>
      rcases hp : w.pc (.irq i) <;> simp only [step, hp, reduceCtorEq, Option.some_inj] at h
      exact h ▸ ha.irqLock hp
  | irqCancel i =>
      rcases hp : w.pc (.irq i) <;> simp only [step, hp, reduceCtorEq, Option.some_inj] at h
      rename_i c state
      obtain ⟨_, _, -, -, hsole, hheld⟩ := hw.held (t := .irq i) (by rw [hp]; trivial)
      -- The watchdog that is cancelled is the only one that can be pending.
      have hquiet : ∀ c', Function.update w.timer c none c' = none := by
        intro c'
        rcases eq_or_ne c' c with rfl | hne
        · exact Function.update_self ..
        rw [Function.update_of_ne hne]
        by_contra hsome
        obtain ⟨n, hn⟩ := Option.ne_none_iff_exists'.mp hsome
        obtain ⟨-, ⟨hsub, -⟩ | ⟨k, state', hk⟩⟩ := ha.pending c' n hn
        · rw [hp] at hheld
          exact hheld.2.2.1.1 hsub
        · obtain hki := hsole (.irq k) (by rw [hk]; trivial)
          rw [hki, hp] at hk
          simp only [Pc.claimed.injEq] at hk
          exact hne hk.1.symm
      subst h
      refine ⟨fun c' n hn => absurd ((hquiet c').symm.trans hn) (by simp), ?_, ha.own⟩
      intro c' c'' n hn
      have hn' : w.pc (.watchdog c') = .begun c'' n := (pc_of_ne (by rfl) (by simp)).symm.trans hn
      exact ⟨(ha.begun c' c'' n hn').1, hquiet c'⟩
  | expires c =>
      rcases hp : w.pc (.watchdog c) <;> rcases ht : w.timer c with _ | n <;>
        simp only [step, hp, ht, reduceCtorEq, Option.some_inj] at h
      exact h ▸ ha.expires ht rfl rfl rfl rfl rfl
  | watchdogLock c =>
      rcases hp : w.pc (.watchdog c) <;> simp only [step, hp, reduceCtorEq, Option.some_inj] at h
      exact h ▸ ha.watchdogLock hw hp
  | finishLock t =>
      rcases hp : w.pc t <;> simp only [step, hp, reduceCtorEq, Option.some_inj] at h
      subst h
      exact ha.hand hw (t := t) (by rw [hp]; trivial) (by simp [hp]) rfl (by simp) rfl rfl rfl
  | finishCall t =>
      rcases hp : w.pc t <;> simp only [step, hp, reduceCtorEq, Option.some_inj] at h
      rw [← h, World.finishCall]
      rename_i c state resume
      have hnext : ∀ c' n, resume.elim .off (Pc.selfDone c) ≠ .begun c' n := by
        cases resume <;> simp
      split
      · split_ifs <;> exact ha.hand hw (t := t) (by rw [hp]; trivial) (by simp [hp]) rfl hnext rfl
          rfl rfl
      · exact ha.hand hw (t := t) (by rw [hp]; trivial) (by simp [hp]) rfl hnext rfl rfl rfl

omit [DecidableEq Ctx] in
lemma armed_init : ({} : World Ctx).Armed := ⟨by simp, by simp, by simp⟩

/-- The order of steps that goes wrong: the watchdog of the first job expires, the interrupt
finishes that job, and the next job goes to the hardware before the watchdog takes the lock. -/
def lateWatchdog : List (Event Unit) :=
  [.enter (), .endSubmission 0, .returnOk 0, .expires (),
    .irqArrives 0 .done, .irqLock 0, .irqCancel 0, .finishLock (.irq 0), .finishCall (.irq 0),
    .enter (), .endSubmission 1, .returnOk 1, .watchdogLock ()]

/-- The watchdog that was armed for the first job times out the second. -/
theorem lateWatchdog_claims :
    ∃ w : World Unit, run lateWatchdog {} = .ok () w ∧ (1, 2) ∈ w.wdClaims ∧
      w.current = some (1, ()) ∧ w.dev.jobSeq = 2 ∧ w.dev.jobState = .finishing ∧
      ¬ ∀ p ∈ w.wdClaims, p.1 = p.2 := by
  obtain ⟨w, hrun, hw⟩ := exists_run_of_any step lateWatchdog {}
    (fun w => decide ((1, 2) ∈ w.wdClaims ∧ w.current = some (1, ()) ∧ w.dev.jobSeq = 2 ∧
      w.dev.jobState = .finishing)) (by decide +kernel)
  obtain ⟨hclaim, hcur, hseq, hstate⟩ := of_decide_eq_true hw
  exact ⟨w, hrun, hclaim, hcur, hseq, hstate, fun h => absurd (h (1, 2) hclaim) (by decide)⟩

/-- **A watchdog claims the job it was armed for**, in every interleaving in which no job goes to the
hardware past a watchdog of its context that has begun and has not taken the lock. -/
theorem watchdog_claims_own {es : List (Event Ctx)} (hc : Along (attempt step) Unhurried es {})
    (h : run es {} = .ok () w) : ∀ p ∈ w.wdClaims, p.1 = p.2 := by
  have hI : w.Inv ∧ w.Armed := by
    refine each_rule (I := fun _ w => w.Inv ∧ w.Armed) ⟨inv_init, armed_init⟩ ?_ hc h
    rintro - e w w' ⟨hw, ha⟩ hcond hstep
    have hstep' := attempt_ok.mp hstep
    exact ⟨step_inv hstep' hw, step_armed hstep' hcond hw ha⟩
  exact hI.2.own

/-- A job that the hardware does not complete. -/
def timeOut : List (Event Unit) :=
  [.enter (), .endSubmission 0, .returnOk 0, .expires (), .watchdogLock ()]

theorem timeOut_claims_own :
    ∃ w : World Unit, Along (attempt step) Unhurried timeOut {} ∧ run timeOut {} = .ok () w ∧
      w.wdClaims = [(1, 1)] ∧ ∀ p ∈ w.wdClaims, p.1 = p.2 := by
  obtain ⟨w, hrun, hw⟩ := exists_run_of_any step timeOut {}
    (fun w => decide (w.wdClaims = [(1, 1)])) (by decide +kernel)
  have halong : Along (attempt step) Unhurried timeOut {} := by
    refine Along.cons trivial fun w₁ h₁ => Along.cons trivial fun w₂ h₂ => Along.cons ?_ ?_
    · obtain rfl := Option.some.inj (attempt_ok.mp h₁)
      obtain rfl := Option.some.inj (attempt_ok.mp h₂)
      intro c s _ _ c' n hn
      cases hn
    · exact fun w₃ _ => along_of_forall (by simp [Unhurried])
  exact ⟨w, halong, hrun, of_decide_eq_true hw, watchdog_claims_own halong hrun⟩

end Run

end OmarchyM1Video.Driver
