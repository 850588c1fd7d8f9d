import Mathlib.Order.Nat
import OmarchyM1Video.Driver.Job

/-!
The life of a job: it is finished at most once, and never under its own run.

At any time at most one party has the current job in hand, and the job fields say which part of its
work that party is in.  While nobody has it in hand the job is with the hardware.

* `Pc.Holds`, `World.Held`: a party has the job in hand, and what the job fields are then;
* `Inv`, `step_inv`, `inv_of_run`: the invariant, kept by every step of every party;
* `job_lifecycle`: what it says about the jobs of a run.
-/

namespace OmarchyM1Video.Driver

open OmarchyM1Video.Py

variable {Ctx : Type}

/-! ### The device -/

namespace AvdDev

/-- No job. -/
def Cleared (d : AvdDev Ctx) : Prop := d.jobState = .idle ∧ d.jobCtx = none

/-- Neither an interrupt nor a watchdog gets hold of the job. -/
def Deaf (d : AvdDev Ctx) : Prop :=
  d.jobState ≠ .submitted ∧ ¬ (d.jobState = .running ∧ d.jobEndSent)

variable {d : AvdDev Ctx} {c : Ctx} {state : BufState} {s : ℕ}

lemma Cleared.deaf (h : d.Cleared) : d.Deaf := by
  rw [Deaf, h.1]
  simp

lemma deaf_building (hstate : d.jobState = .running) (hsent : d.jobEndSent = false) : d.Deaf := by
  simp [Deaf, hstate, hsent]

lemma deaf_finishing : ({ d with jobState := .finishing } : AvdDev Ctx).Deaf := by simp [Deaf]

variable [DecidableEq Ctx]

lemma Deaf.irq (h : d.Deaf) : d.irq c state = (d, .stale) := by
  rw [AvdDev.irq, if_neg h.1, if_neg h.2, ite_self]

omit [DecidableEq Ctx] in
lemma Deaf.not_claims (h : d.Deaf) : ¬ d.claims c s := fun hclaims => h.1 hclaims.2.2

lemma finish_cleared (h : d.Cleared ∨ d.jobCtx = some c) : (d.finish c).Cleared := by
  rw [finish]
  split_ifs with hc
  · exact ⟨rfl, rfl⟩
  · exact h.resolve_right hc

lemma finish_running (h : (d.finish c).jobState = .running) : d.jobState = .running := by
  rw [finish] at h
  split_ifs at h
  exact h

@[simp] lemma finish_jobSeq : (d.finish c).jobSeq = d.jobSeq := by
  rw [finish]
  split_ifs <;> rfl

end AvdDev

/-! ### The party that has the job in hand -/

/-- The party has the current job in hand. -/
def Pc.Holds : Pc Ctx → Prop
  | .building _ _ | .ended _ _ | .claimed _ _ | .finish _ _ _ | .call _ _ _ => True
  | .off | .selfDone _ _ | .arrived _ _ | .begun _ _ => False

namespace World

variable (w : World Ctx)

/-- Nobody has a job in hand. -/
def Free : Prop := ∀ t, ¬ (w.pc t).Holds

/-- Nobody else has a job in hand. -/
def Sole (t : Thread Ctx) : Prop := ∀ u, (w.pc u).Holds → u = t

/-- How a party ends the job `j`: its run with the completion that came, if one did; another party
only after the run has returned. -/
def Closes (j : ℕ) (t : Thread Ctx) (state : BufState) (resume : Option ℕ) : Prop :=
  (t = .run j ∧ (w.completion j = none ∨ w.completion j = some state) ∧
      ∀ s, resume = some s → s = w.dev.jobSeq) ∨
    (w.pc (.run j) = .off ∧ w.completion j = none ∧ resume = none)

/-- The job `j` of `c` in the hand of a party. -/
def Held (j : ℕ) (c : Ctx) (t : Thread Ctx) : Pc Ctx → Prop
  | .building c' s => c' = c ∧ t = .run j ∧ w.dev.jobState = .running ∧ w.dev.jobCtx = some c ∧
      w.dev.jobSeq = s ∧ w.dev.jobEndSent = false ∧ w.dev.jobPending = false ∧
      w.completion j = none
  | .ended c' s => c' = c ∧ t = .run j ∧ w.dev.jobState = .running ∧ w.dev.jobCtx = some c ∧
      w.dev.jobSeq = s ∧ w.dev.jobEndSent = true ∧
      w.completion j = if w.dev.jobPending then some w.dev.jobPendingResult else none
  | .claimed c' _ => c' = c ∧ w.dev.jobCtx = some c ∧ w.dev.Deaf ∧ w.pc (.run j) = .off ∧
      w.completion j = none
  | .finish c' state resume => c' = c ∧ (w.dev.Cleared ∨ w.dev.jobCtx = some c) ∧ w.dev.Deaf ∧
      w.Closes j t state resume
  | .call c' state resume => c' = c ∧ w.dev.Cleared ∧ w.Closes j t state resume
  | .off | .selfDone _ _ | .arrived _ _ | .begun _ _ => False

/-- The job `j` of `c` with the hardware. -/
def Owned (j : ℕ) (c : Ctx) : Prop :=
  w.Free ∧ w.dev.jobState = .submitted ∧ w.dev.jobCtx = some c ∧ w.pc (.run j) = .off ∧
    w.completion j = none

/-- The job in the hand of the one party that has one in hand. -/
def InHand (j : ℕ) (c : Ctx) (t : Thread Ctx) : Prop := w.Sole t ∧ w.Held j c t (w.pc t)

/-- Where the current job is. -/
def Phase : Prop :=
  (w.current = none → w.Free ∧ w.dev.Cleared) ∧
    ∀ j c, w.current = some (j, c) → w.Owned j c ∨ ∃ t, w.InHand j c t

/-- What has happened so far. -/
structure Ledger : Prop where
  fresh : ∀ j, w.jobs ≤ j → w.pc (.run j) = .off ∧ w.completion j = none
  started : ∀ j c, w.current = some (j, c) → j < w.jobs
  settled : ∀ t c s, w.pc t = .selfDone c s →
    s ≤ w.dev.jobSeq ∧ (w.dev.jobState = .running → s ≠ w.dev.jobSeq)
  kept : ∀ j r, w.completion j = some r →
    (∃ c, w.current = some (j, c)) ∨ ⟨.run j, some j, r⟩ ∈ w.finished
  once : (w.finished.map FinishCall.job).Nodup
  past : ∀ f ∈ w.finished, ∃ j < w.jobs, f.job = some j ∧ ∀ c, w.current ≠ some (j, c)

/-- The invariant of every run. -/
structure Inv : Prop extends w.Ledger where
  phase : w.Phase

end World

namespace World

variable {w w' : World Ctx} {t u : Thread Ctx} {p : Pc Ctx} {c c' : Ctx} {j s : ℕ}
  {state : BufState}

lemma Free.sole (h : w.Free) : w.Sole t := fun u hu => absurd hu (h u)

lemma Sole.free (h : w.Sole t) (hp : ¬ (w.pc t).Holds) : w.Free := by
  intro u hu
  obtain rfl := h u hu
  exact hp hu

lemma Held.holds (h : w.Held j c t p) : p.Holds := by
  cases p <;> first | exact h | trivial

lemma Held.congr (h : w.Held j c t p) (hdev : w'.dev = w.dev)
    (hcomp : w'.completion = w.completion) (hoff : w.pc (.run j) = .off → w'.pc (.run j) = .off) :
    w'.Held j c t p := by
  have hcloses : ∀ {state resume}, w.Closes j t state resume → w'.Closes j t state resume := by
    rintro state resume (hrun | ⟨hpc, hrest⟩)
    · exact Or.inl (by rwa [hcomp, hdev])
    · exact Or.inr ⟨hoff hpc, by rwa [hcomp]⟩
  cases p <;> simp only [Held, hdev, hcomp] at h ⊢
  case building => exact h
  case ended => exact h
  case claimed => exact ⟨h.1, h.2.1, h.2.2.1, hoff h.2.2.2.1, h.2.2.2.2⟩
  case finish => exact ⟨h.1, h.2.1, h.2.2.1, hcloses h.2.2.2⟩
  case call => exact ⟨h.1, h.2.1, hcloses h.2.2⟩

/-- The job in the hand of a run that has not come to an end. -/
lemma Held.running {i : ℕ} (h : w.Held j c' (.run i) p) (hp : p = .building c s ∨ p = .ended c s) :
    c = c' ∧ i = j ∧ w.dev.jobState = .running ∧ w.dev.jobCtx = some c ∧ w.dev.jobSeq = s ∧
      w.completion j = if w.dev.jobPending then some w.dev.jobPendingResult else none := by
  obtain rfl | rfl := hp
  · obtain ⟨rfl, hi, hstate, hctx, hseq, -, hpending, hcomp⟩ := h
    refine ⟨rfl, Thread.run.inj hi, hstate, hctx, hseq, ?_⟩
    rw [hcomp, hpending, if_neg (by simp)]
  · obtain ⟨rfl, hi, hstate, hctx, hseq, -, hcomp⟩ := h
    exact ⟨rfl, Thread.run.inj hi, hstate, hctx, hseq, hcomp⟩

/-- A party with a job in hand has the current one. -/
lemma Inv.held (hw : w.Inv) (hp : (w.pc t).Holds) :
    ∃ j c, w.current = some (j, c) ∧ j < w.jobs ∧ w.Sole t ∧ w.Held j c t (w.pc t) := by
  rcases hcur : w.current with _ | ⟨j, c⟩
  · exact absurd hp ((hw.phase.1 hcur).1 t)
  · obtain howned | ⟨t', hsole, hheld⟩ := hw.phase.2 j c hcur
    · exact absurd hp (howned.1 t)
    · obtain rfl := hsole t hp
      exact ⟨j, c, rfl, hw.started j c hcur, hsole, hheld⟩

/-- Where nobody has the current job in hand it is with the hardware. -/
lemma Inv.owned_of_submitted (hw : w.Inv) (h : w.dev.jobState = .submitted) :
    ∃ j c, w.current = some (j, c) ∧ w.Owned j c := by
  rcases hcur : w.current with _ | ⟨j, c⟩
  · have hidle := (hw.phase.1 hcur).2.1
    exact absurd (hidle.symm.trans h) (by decide)
  · obtain howned | ⟨t, -, hheld⟩ := hw.phase.2 j c hcur
    · exact ⟨j, c, rfl, howned⟩
    · exfalso
      rcases hp : w.pc t <;> simp only [hp, Held] at hheld
      case building => exact absurd (hheld.2.2.1.symm.trans h) (by decide)
      case ended => exact absurd (hheld.2.2.1.symm.trans h) (by decide)
      case claimed => exact hheld.2.2.1.1 h
      case finish => exact hheld.2.2.1.1 h
      case call => exact hheld.2.1.deaf.1 h

/-- The ledger after a step that only moves parties and the device. -/
lemma Ledger.frame (h : w.Ledger) (hjobs : w'.jobs = w.jobs) (hfin : w'.finished = w.finished)
    (hcomp : w'.completion = w.completion) (hcur : w'.current = w.current)
    (hseq : w'.dev.jobSeq = w.dev.jobSeq)
    (hstate : w'.dev.jobState = .running → w.dev.jobState = .running)
    (hrun : ∀ j, w.pc (.run j) = .off → w'.pc (.run j) = .off)
    (hself : ∀ t c s, w'.pc t = .selfDone c s → w.pc t = .selfDone c s) : w'.Ledger where
  fresh j hj := by
    rw [hcomp]
    exact ⟨hrun j (h.fresh j (hjobs ▸ hj)).1, (h.fresh j (hjobs ▸ hj)).2⟩
  started j c hc := hjobs ▸ h.started j c (hcur ▸ hc)
  settled t c s ht := by
    obtain ⟨hle, hne⟩ := h.settled t c s (hself t c s ht)
    rw [hseq]
    exact ⟨hle, fun hr => hne (hstate hr)⟩
  kept j r hr := by
    rw [hcur, hfin]
    exact h.kept j r (hcomp ▸ hr)
  once := hfin ▸ h.once
  past f hf := by
    rw [hcur, hjobs]
    exact h.past f (hfin ▸ hf)

/-- A party moves on; the device and the watchdogs may change. -/
structure Moves [DecidableEq Ctx] (w w' : World Ctx) (t : Thread Ctx) (p : Pc Ctx) : Prop where
  pc : w'.pc = Function.update w.pc t p
  jobs : w'.jobs = w.jobs
  current : w'.current = w.current
  finished : w'.finished = w.finished
  completion : w'.completion = w.completion

section Moves

variable [DecidableEq Ctx]

lemma pc_of_ne (hpc : w'.pc = Function.update w.pc t p) (h : u ≠ t) : w'.pc u = w.pc u := by
  rw [hpc, Function.update_of_ne h]

lemma pc_self (hpc : w'.pc = Function.update w.pc t p) : w'.pc t = p := by
  rw [hpc, Function.update_self]

lemma Sole.move (h : w.Sole t) (hpc : w'.pc = Function.update w.pc t p) : w'.Sole t := by
  intro u hu
  by_contra hne
  rw [pc_of_ne hpc hne] at hu
  exact hne (h u hu)

lemma Sole.of_idle (h : w.Sole t) (hpc : w'.pc = Function.update w.pc u p) (hp : ¬ p.Holds) :
    w'.Sole t := by
  intro v hv
  rcases eq_or_ne v u with rfl | hne
  · rw [pc_self hpc] at hv
    exact absurd hv hp
  · rw [pc_of_ne hpc hne] at hv
    exact h v hv

lemma Free.move (h : w.Free) (hpc : w'.pc = Function.update w.pc t p) (hp : ¬ p.Holds) : w'.Free :=
  (h.sole.move hpc).free (by rwa [pc_self hpc])

/-- The ledger after a party has moved on. -/
lemma Ledger.move (h : w.Ledger) (hm : Moves w w' t p) (hseq : w'.dev.jobSeq = w.dev.jobSeq)
    (hstate : w'.dev.jobState = .running → w.dev.jobState = .running)
    (hrun : ∀ j, t = .run j → w.pc t = .off → p = .off) (hself : ∀ c s, p ≠ .selfDone c s) :
    w'.Ledger := by
  refine h.frame hm.jobs hm.finished hm.completion hm.current hseq hstate ?_ ?_
  · intro j hj
    rcases eq_or_ne (.run j) t with rfl | hne
    · rw [pc_self hm.pc, hrun j rfl hj]
    · rwa [pc_of_ne hm.pc hne]
  · intro u c s hu
    rcases eq_or_ne u t with rfl | hne
    · rw [pc_self hm.pc] at hu
      exact absurd hu (hself c s)
    · rwa [← pc_of_ne hm.pc hne]

/-- The party that has the job in hand goes on with it. -/
lemma Inv.hand (hw : w.Inv) (hm : Moves w w' t p) (ht : (w.pc t).Holds) (hp : p.Holds)
    (hseq : w'.dev.jobSeq = w.dev.jobSeq)
    (hstate : w'.dev.jobState = .running → w.dev.jobState = .running)
    (hnew : ∀ j c, w.Held j c t (w.pc t) → w'.Held j c t p) : w'.Inv := by
  obtain ⟨j, c, hcur, -, hsole, hheld⟩ := hw.held ht
  refine ⟨hw.toLedger.move hm hseq hstate ?_ ?_, ?_, ?_⟩
  · intro i _ hoff
    rw [hoff] at ht
    exact ht.elim
  · rintro c s rfl
    exact hp
  · intro hnone
    rw [hm.current, hcur] at hnone
    simp at hnone
  · intro j' c' hcur'
    rw [hm.current, hcur, Option.some_inj, Prod.mk.injEq] at hcur'
    obtain ⟨rfl, rfl⟩ := hcur'
    refine Or.inr ⟨t, hsole.move hm.pc, ?_⟩
    rw [pc_self hm.pc]
    exact hnew j c hheld

/-- The run of the job hands it to the hardware. -/
lemma Inv.handOver (hw : w.Inv) (hm : Moves w w' t .off) (ht : (w.pc t).Holds)
    (hseq : w'.dev.jobSeq = w.dev.jobSeq) (hstate : w'.dev.jobState = .submitted)
    (hnew : ∀ j c, w.Held j c t (w.pc t) →
      t = .run j ∧ w'.dev.jobCtx = some c ∧ w.completion j = none) : w'.Inv := by
  obtain ⟨j, c, hcur, -, hsole, hheld⟩ := hw.held ht
  refine ⟨hw.toLedger.move hm hseq (by simp [hstate]) (fun _ _ _ => rfl) (by simp), ?_, ?_⟩
  · intro hnone
    rw [hm.current, hcur] at hnone
    simp at hnone
  · intro j' c' hcur'
    rw [hm.current, hcur, Option.some_inj, Prod.mk.injEq] at hcur'
    obtain ⟨rfl, rfl⟩ := hcur'
    obtain ⟨rfl, hctx, hcomp⟩ := hnew j c hheld
    refine Or.inl ⟨(hsole.move hm.pc).free ?_, hstate, hctx, pc_self hm.pc, ?_⟩
    · rw [pc_self hm.pc]
      exact id
    · rw [hm.completion, hcomp]

/-- An interrupt or a watchdog takes the job from the hardware. -/
lemma Inv.take (hw : w.Inv) (hm : Moves w w' t p) (ht : ∀ j, t ≠ .run j) (hp : p.Holds)
    (hsub : w.dev.jobState = .submitted) (hseq : w'.dev.jobSeq = w.dev.jobSeq)
    (hstate : w'.dev.jobState ≠ .running)
    (hnew : ∀ j c, w.Owned j c → w'.pc (.run j) = .off → w'.Held j c t p) : w'.Inv := by
  obtain ⟨j, c, hcur, howned⟩ := hw.owned_of_submitted hsub
  refine ⟨hw.toLedger.move hm hseq (fun h => absurd h hstate) (fun i hi => absurd hi (ht i)) ?_,
    ?_, ?_⟩
  · rintro c s rfl
    exact hp
  · intro hnone
    rw [hm.current, hcur] at hnone
    simp at hnone
  · intro j' c' hcur'
    rw [hm.current, hcur, Option.some_inj, Prod.mk.injEq] at hcur'
    obtain ⟨rfl, rfl⟩ := hcur'
    refine Or.inr ⟨t, howned.1.sole.move hm.pc, ?_⟩
    rw [pc_self hm.pc]
    refine hnew j c howned ?_
    rw [pc_of_ne hm.pc (ht j).symm]
    exact howned.2.2.2.1

/-- A party without a job in hand moves, and takes none. -/
lemma Inv.aside (hw : w.Inv) (hm : Moves w w' u p) (hdev : w'.dev = w.dev)
    (hu : ¬ (w.pc u).Holds) (hp : ¬ p.Holds) (hrun : ∀ j, u = .run j → p = .off)
    (hself : ∀ c s, p ≠ .selfDone c s) : w'.Inv := by
  have hoff : ∀ j, w.pc (.run j) = .off → w'.pc (.run j) = .off := by
    intro j hj
    rcases eq_or_ne (.run j) u with rfl | hne
    · rw [pc_self hm.pc, hrun j rfl]
    · rwa [pc_of_ne hm.pc hne]
  refine ⟨hw.toLedger.move hm (by rw [hdev]) (by rw [hdev]; exact id) (fun j hj _ => hrun j hj)
    hself, ?_, ?_⟩
  · intro hnone
    rw [hm.current] at hnone
    rw [hdev]
    exact ⟨(hw.phase.1 hnone).1.move hm.pc hp, (hw.phase.1 hnone).2⟩
  · intro j c hcur
    rw [hm.current] at hcur
    obtain ⟨hfree, hsub, hctx, hj, hcomp⟩ | ⟨t, hsole, hheld⟩ := hw.phase.2 j c hcur
    · refine Or.inl ⟨hfree.move hm.pc hp, ?_⟩
      rw [hdev, hm.completion]
      exact ⟨hsub, hctx, hoff j hj, hcomp⟩
    · refine Or.inr ⟨t, hsole.of_idle hm.pc hp, ?_⟩
      have hne : t ≠ u := by
        rintro rfl
        exact hu hheld.holds
      rw [pc_of_ne hm.pc hne]
      exact hheld.congr hdev hm.completion (hoff j)

/-- v4l2-mem2mem starts a job. -/
lemma Inv.start (hw : w.Inv) (hcur : w.current = none)
    (hpc : w'.pc = Function.update w.pc (.run w.jobs) p) (hjobs : w'.jobs = w.jobs + 1)
    (hcur' : w'.current = some (w.jobs, c)) (hfin : w'.finished = w.finished)
    (hcomp : w'.completion = w.completion) (hseq : w.dev.jobSeq ≤ w'.dev.jobSeq)
    (hstate : w'.dev.jobState = .running → w.dev.jobSeq < w'.dev.jobSeq) (hp : p.Holds)
    (hnew : w.dev.Cleared → w'.completion w.jobs = none → w'.Held w.jobs c (.run w.jobs) p) :
    w'.Inv := by
  obtain ⟨hfree, hcleared⟩ := hw.phase.1 hcur
  refine ⟨⟨?_, ?_, ?_, ?_, ?_, ?_⟩, ?_, ?_⟩
  · intro j hj
    have hne : Thread.run j ≠ (.run w.jobs : Thread Ctx) := by
      rw [Ne, Thread.run.injEq]
      omega
    rw [pc_of_ne hpc hne, hcomp]
    exact hw.fresh j (by omega)
  · intro j c' hj
    rw [hcur', Option.some_inj, Prod.mk.injEq] at hj
    omega
  · intro t c s ht
    rcases eq_or_ne t (.run w.jobs) with rfl | hne
    · rw [pc_self hpc] at ht
      rw [ht] at hp
      exact hp.elim
    · rw [pc_of_ne hpc hne] at ht
      have hle := (hw.settled t c s ht).1
      exact ⟨hle.trans hseq, fun hr => (hle.trans_lt (hstate hr)).ne⟩
  · intro j r hr
    rw [hcomp] at hr
    rw [hfin]
    refine Or.inr ((hw.kept j r hr).resolve_left ?_)
    rintro ⟨c, hc⟩
    rw [hcur] at hc
    simp at hc
  · rw [hfin]
    exact hw.once
  · intro f hf
    rw [hfin] at hf
    obtain ⟨j, hj, hfj, -⟩ := hw.past f hf
    refine ⟨j, by omega, hfj, fun c' hc' => ?_⟩
    rw [hcur', Option.some_inj, Prod.mk.injEq] at hc'
    omega
  · intro hnone
    rw [hcur'] at hnone
    simp at hnone
  · intro j c' hj
    rw [hcur', Option.some_inj, Prod.mk.injEq] at hj
    obtain ⟨rfl, rfl⟩ := hj
    refine Or.inr ⟨_, hfree.sole.move hpc, ?_⟩
    rw [pc_self hpc]
    exact hnew hcleared (by rw [hcomp]; exact (hw.fresh w.jobs le_rfl).2)

/-- The finish call ends the current job. -/
lemma Inv.finishCall {resume : Option ℕ} (hw : w.Inv) (ht : w.pc t = .call c state resume) :
    (w.finishCall t c state resume).Inv ∧ ∃ j, w.current = some (j, c) ∧ j < w.jobs ∧
      (t = .run j ∨ w.pc (.run j) = .off) ∧
      (w.finishCall t c state resume).finished = ⟨t, some j, state⟩ :: w.finished := by
  obtain ⟨j, c', hcur, hj, hsole, hheld⟩ := hw.held (t := t) (by rw [ht]; trivial)
  rw [ht] at hheld
  obtain ⟨rfl, hcleared, hcloses⟩ := hheld
  set w' := w.finishCall t c state resume with hw'
  have hfinish : w' = { w.goto t (resume.elim .off (.selfDone c)) with
      current := none, finished := ⟨t, some j, state⟩ :: w.finished } := by
    simp [hw', World.finishCall, hcur]
  have hpc : w'.pc = Function.update w.pc t (resume.elim .off (.selfDone c)) := by
    rw [hfinish]
    rfl
  have hfin : w'.finished = ⟨t, some j, state⟩ :: w.finished := by rw [hfinish]
  have hnone : w'.current = none := by rw [hfinish]
  have hdev : w'.dev = w.dev := by rw [hfinish]; rfl
  have hcomp : w'.completion = w.completion := by rw [hfinish]; rfl
  have hjobs : w'.jobs = w.jobs := by rw [hfinish]; rfl
  refine ⟨⟨⟨?_, ?_, ?_, ?_, ?_, ?_⟩, ?_, ?_⟩, j, hcur, hj, ?_, hfin⟩
  · intro i hi
    rw [hjobs] at hi
    have hne : Thread.run i ≠ t := by
      rintro rfl
      rw [(hw.fresh i hi).1] at ht
      simp at ht
    rw [pc_of_ne hpc hne, hcomp]
    exact hw.fresh i hi
  · intro i c' hi
    rw [hnone] at hi
    simp at hi
  · intro u c' s hu
    rw [hdev]
    rcases eq_or_ne u t with rfl | hne
    · rw [pc_self hpc] at hu
      rcases resume with _ | s'
      · simp at hu
      · rw [Option.elim_some, Pc.selfDone.injEq] at hu
        obtain ⟨rfl, rfl⟩ := hu
        obtain ⟨-, -, hseq⟩ | ⟨-, -, hres⟩ := hcloses
        · refine ⟨(hseq s' rfl).le, fun hr => ?_⟩
          rw [hcleared.1] at hr
          simp at hr
        · simp at hres
    · rw [pc_of_ne hpc hne] at hu
      exact hw.settled u c' s hu
  · intro i r hr
    rw [hcomp] at hr
    rw [hfin]
    refine Or.inr ?_
    obtain ⟨c', hc'⟩ | hmem := hw.kept i r hr
    · rw [hcur, Option.some_inj, Prod.mk.injEq] at hc'
      obtain ⟨rfl, rfl⟩ := hc'
      obtain ⟨rfl, hnone | hsome, -⟩ | ⟨-, hnone, -⟩ := hcloses
      · simp [hnone] at hr
      · rw [hsome, Option.some_inj] at hr
        simp [hr]
      · simp [hnone] at hr
    · exact List.mem_cons_of_mem _ hmem
  · rw [hfin, List.map_cons, List.nodup_cons]
    refine ⟨fun hmem => ?_, hw.once⟩
    obtain ⟨f, hf, hfj⟩ := List.mem_map.mp hmem
    obtain ⟨i, -, hi, hne⟩ := hw.past f hf
    rw [hfj, Option.some_inj] at hi
    exact hne c (hi ▸ hcur)
  · intro f hf
    rw [hnone, hjobs]
    rw [hfin, List.mem_cons] at hf
    obtain rfl | hf := hf
    · exact ⟨j, hj, rfl, by simp⟩
    · obtain ⟨i, hi, hfi, -⟩ := hw.past f hf
      exact ⟨i, hi, hfi, by simp⟩
  · intro _
    rw [hdev]
    refine ⟨(hsole.move hpc).free ?_, hcleared⟩
    rw [pc_self hpc]
    cases resume <;> exact id
  · intro i c' hi
    rw [hnone] at hi
    simp at hi
  · exact hcloses.imp And.left And.left

/-- A completion after the END command is remembered. -/
lemma Inv.pending (hw : w.Inv) {i : ℕ} (hstate : w.dev.jobState = .running)
    (hsent : w.dev.jobEndSent = true)
    (hw' : w' = { w.goto (.irq i) .off with
      dev := { w.dev with jobPending := true, jobPendingResult := state }
      completion := w.remember state }) : w'.Inv := by
  rcases hcur : w.current with _ | ⟨j, c'⟩
  · have hidle := (hw.phase.1 hcur).2.1
    rw [hstate] at hidle
    simp at hidle
  obtain ⟨-, hsub, -⟩ | ⟨t, hsole, hheld⟩ := hw.phase.2 j c' hcur
  · rw [hstate] at hsub
    simp at hsub
  have hnot : ¬ w.dev.Deaf := fun h => h.2 ⟨hstate, hsent⟩
  -- Only a run past its END command leaves the device open to this interrupt.
  obtain ⟨s, hpc⟩ : ∃ s, w.pc t = .ended c' s := by
    rcases hp : w.pc t <;> simp only [hp, Held] at hheld
    case building =>
      obtain ⟨-, -, -, -, -, hsent', -⟩ := hheld
      rw [hsent] at hsent'
      simp at hsent'
    case ended c'' s =>
      obtain ⟨rfl, -⟩ := hheld
      exact ⟨s, rfl⟩
    case claimed => exact absurd hheld.2.2.1 hnot
    case finish => exact absurd hheld.2.2.1 hnot
    case call => exact absurd hheld.2.1.deaf hnot
  rw [hpc] at hheld
  obtain ⟨-, rfl, -, hctx', hseq, -, -⟩ := hheld
  have hcomp : w'.completion = Function.update w.completion j (some state) := by
    rw [hw']
    simp [remember, hcur]
  have hpc' : w'.pc = Function.update w.pc (.irq i) .off := by rw [hw']; rfl
  have hcur' : w'.current = some (j, c') := by rw [hw', ← hcur]; rfl
  have hdev : w'.dev = { w.dev with jobPending := true, jobPendingResult := state } := by rw [hw']
  have hfin : w'.finished = w.finished := by rw [hw']; rfl
  have hjobs : w'.jobs = w.jobs := by rw [hw']; rfl
  refine ⟨⟨?_, ?_, ?_, ?_, ?_, ?_⟩, ?_, ?_⟩
  · intro k hk
    rw [hjobs] at hk
    have hne : k ≠ j := by
      have := hw.started j c' hcur
      omega
    rw [pc_of_ne hpc' (by simp), hcomp, Function.update_of_ne hne]
    exact hw.fresh k hk
  · intro k c'' hk
    rw [hjobs]
    rw [hcur', ← hcur] at hk
    exact hw.started k c'' hk
  · intro u c'' s hu
    rw [hdev]
    rcases eq_or_ne u (.irq i) with rfl | hne
    · rw [pc_self hpc'] at hu
      simp at hu
    · rw [pc_of_ne hpc' hne] at hu
      exact hw.settled u c'' s hu
  · intro k r hr
    rw [hcur', hfin]
    rcases eq_or_ne k j with rfl | hne
    · exact Or.inl ⟨c', rfl⟩
    · rw [hcomp, Function.update_of_ne hne] at hr
      rw [← hcur]
      exact hw.kept k r hr
  · rw [hfin]
    exact hw.once
  · intro f hf
    rw [hcur', hjobs, ← hcur]
    exact hw.past f (hfin ▸ hf)
  · intro hnone
    rw [hcur'] at hnone
    simp at hnone
  · intro k c'' hk
    rw [hcur', Option.some_inj, Prod.mk.injEq] at hk
    obtain ⟨rfl, rfl⟩ := hk
    refine Or.inr ⟨.run j, hsole.of_idle hpc' id, ?_⟩
    rw [pc_of_ne hpc' (by simp), hpc]
    refine ⟨rfl, rfl, ?_⟩
    rw [hdev, hcomp, Function.update_self]
    exact ⟨hstate, hctx', hseq, hsent, rfl⟩

end Moves

/-! ### The steps -/

section Step

variable [DecidableEq Ctx]

lemma Inv.irqLock (hw : w.Inv) {i : ℕ} (hi : w.pc (.irq i) = .arrived c state) :
    (w.irqLock i c state).Inv := by
  have hidle : ¬ (w.pc (.irq i)).Holds := by rw [hi]; exact id
  by_cases hctx : w.dev.jobCtx = some c
  · by_cases hsub : w.dev.jobState = .submitted
    · rw [World.irqLock, AvdDev.irq, if_neg (not_not.mpr hctx), if_pos hsub]
      refine hw.take (t := .irq i) (p := .claimed c state) ⟨rfl, rfl, rfl, rfl, rfl⟩ (by simp)
        trivial hsub rfl nofun ?_
      rintro j c' ⟨-, -, hctx', -, hcomp⟩ hoff
      obtain rfl : c = c' := Option.some.inj (hctx.symm.trans hctx')
      exact ⟨rfl, hctx, AvdDev.deaf_finishing, hoff, hcomp⟩
    · by_cases hrun : w.dev.jobState = .running ∧ w.dev.jobEndSent = true
      · rw [World.irqLock, AvdDev.irq, if_neg (not_not.mpr hctx), if_neg hsub, if_pos hrun]
        exact hw.pending hrun.1 hrun.2 rfl
      · have hdeaf : w.dev.Deaf := ⟨hsub, hrun⟩
        rw [World.irqLock, hdeaf.irq]
        exact hw.aside (u := .irq i) (p := .off) ⟨rfl, rfl, rfl, rfl, rfl⟩ rfl hidle id (by simp)
          (by simp)
  · rw [World.irqLock, AvdDev.irq, if_pos hctx]
    exact hw.aside (u := .irq i) (p := .off) ⟨rfl, rfl, rfl, rfl, rfl⟩ rfl hidle id (by simp)
      (by simp)

lemma Inv.watchdogLock (hw : w.Inv) {n : ℕ} (hi : w.pc (.watchdog c) = .begun c' n) :
    (w.watchdogLock c n).Inv := by
  rw [World.watchdogLock]
  split_ifs with hclaims
  · obtain ⟨hctx, -, hsub⟩ := hclaims
    refine hw.take (t := .watchdog c) (p := .finish c .error none) ⟨rfl, rfl, rfl, rfl, rfl⟩
      (by simp) trivial hsub rfl nofun ?_
    rintro j c' ⟨-, -, hctx', -, hcomp⟩ hoff
    obtain rfl : c = c' := Option.some.inj (hctx.symm.trans hctx')
    exact ⟨rfl, Or.inr hctx, AvdDev.deaf_finishing, Or.inr ⟨hoff, hcomp, rfl⟩⟩
  · refine hw.aside (u := .watchdog c) (p := .off) ⟨rfl, rfl, rfl, rfl, rfl⟩ rfl ?_ id (by simp)
      (by simp)
    rw [hi]
    exact id

lemma Inv.returnOk (hw : w.Inv)
    (hp : w.pc (.run j) = .building c s ∨ w.pc (.run j) = .ended c s) : (w.returnOk j c s).Inv := by
  have hholds : (w.pc (.run j)).Holds := by
    obtain hp | hp := hp <;> rw [hp] <;> trivial
  obtain ⟨j', c', -, -, -, hheld⟩ := hw.held hholds
  obtain ⟨rfl, rfl, hstate, hctx, hseq, hcomp⟩ := hheld.running hp
  rcases hpending : w.dev.jobPending with _ | _
  · rw [World.returnOk, AvdDev.runReturn, if_pos ⟨hseq, hstate⟩, if_neg (by simp [hpending])]
    refine hw.handOver (t := .run j) ⟨rfl, rfl, rfl, rfl, rfl⟩ hholds rfl rfl ?_
    intro i c' hheld'
    obtain ⟨rfl, rfl, -⟩ := hheld'.running hp
    rw [hpending, if_neg (by simp)] at hcomp
    exact ⟨rfl, hctx, hcomp⟩
  · rw [World.returnOk, AvdDev.runReturn, if_pos ⟨hseq, hstate⟩, if_pos hpending]
    refine hw.hand (t := .run j) (p := .finish c w.dev.jobPendingResult none)
      ⟨rfl, rfl, rfl, rfl, rfl⟩ hholds trivial rfl nofun ?_
    intro i c' hheld'
    obtain ⟨rfl, rfl, -⟩ := hheld'.running hp
    rw [hpending, if_pos rfl] at hcomp
    exact ⟨rfl, Or.inr hctx, AvdDev.deaf_finishing, Or.inl ⟨rfl, Or.inr hcomp, nofun⟩⟩

/-- The run of a job that it has finished itself has nothing left to do. -/
lemma Inv.returnOk_selfDone (hw : w.Inv) (hp : w.pc (.run j) = .selfDone c s) :
    (w.returnOk j c s).Inv ∧ w.returnOk j c s = w.goto (.run j) .off := by
  have hover : ¬ (w.dev.jobSeq = s ∧ w.dev.jobState = .running) := fun h =>
    (hw.settled _ c s hp).2 h.2 h.1.symm
  have heq : w.returnOk j c s = w.goto (.run j) .off := by
    rw [World.returnOk, AvdDev.runReturn, if_neg hover]
  rw [heq]
  refine ⟨hw.aside (u := .run j) (p := .off) ⟨rfl, rfl, rfl, rfl, rfl⟩ rfl ?_ id (fun _ _ => rfl)
    (by simp), rfl⟩
  rw [hp]
  exact id

end Step

end World

section Run

variable [DecidableEq Ctx] {w w' : World Ctx} {e : Event Ctx}

open World

/-- **Every step of every party keeps the invariant.** -/
theorem step_inv (h : step w e = some w') (hw : w.Inv) : w'.Inv := by
  cases e with
  | enter c =>
      simp only [step, Option.ite_none_right_eq_some, Option.some_inj] at h
      obtain ⟨hcur, rfl⟩ := h
      refine hw.start hcur (p := .building c (w.dev.jobSeq + 1)) rfl rfl rfl rfl rfl ?_ ?_ trivial
        ?_
      · exact Nat.le_succ _
      · exact fun _ => Nat.lt_succ_self _
      · exact fun _ hcomp => ⟨rfl, rfl, rfl, rfl, rfl, rfl, rfl, hcomp⟩
  | resumeFails c =>
      simp only [step, Option.ite_none_right_eq_some, Option.some_inj] at h
      obtain ⟨hcur, rfl⟩ := h
      have hidle := (hw.phase.1 hcur).2.1
      refine hw.start hcur (p := .finish c .error none) rfl rfl rfl rfl rfl le_rfl ?_ trivial ?_
      · intro hr
        exact absurd (hidle.symm.trans hr) (by decide)
      · exact fun hclear hcomp => ⟨rfl, Or.inl hclear, hclear.deaf,
          Or.inl ⟨rfl, Or.inl hcomp, nofun⟩⟩
  | endSubmission j =>
      rcases hp : w.pc (.run j) <;> simp only [step, hp, reduceCtorEq, Option.some_inj] at h
      subst h
      refine hw.hand ⟨rfl, rfl, rfl, rfl, rfl⟩ (by rw [hp]; trivial) trivial rfl id ?_
      intro j c hheld
      rw [hp] at hheld
      obtain ⟨rfl, hj, hstate, hctx, hseq, -, hpending, hcomp⟩ := hheld
      have hcomp' : w.completion j =
          if w.dev.jobPending then some w.dev.jobPendingResult else none := by
        rw [hcomp, hpending, if_neg (by simp)]
      exact ⟨rfl, hj, hstate, hctx, hseq, rfl, hcomp'⟩
  | returnError j =>
      rcases hp : w.pc (.run j) <;> simp only [step, hp, reduceCtorEq, Option.some_inj] at h
      subst h
      refine hw.hand ⟨rfl, rfl, rfl, rfl, rfl⟩ (by rw [hp]; trivial) trivial rfl id ?_
      intro j c hheld
      rw [hp] at hheld
      obtain ⟨rfl, hj, hstate, hctx, -, hsent, -, hcomp⟩ := hheld
      exact ⟨rfl, Or.inr hctx, AvdDev.deaf_building hstate hsent,
        Or.inl ⟨hj, Or.inl hcomp, nofun⟩⟩
  | selfFinish j state =>
      rcases hp : w.pc (.run j) <;> simp only [step, hp, reduceCtorEq, Option.some_inj] at h
      subst h
      refine hw.hand ⟨rfl, rfl, rfl, rfl, rfl⟩ (by rw [hp]; trivial) trivial rfl id ?_
      intro j c hheld
      rw [hp] at hheld
      obtain ⟨rfl, hj, hstate, hctx, hseq, hsent, -, hcomp⟩ := hheld
      exact ⟨rfl, Or.inr hctx, AvdDev.deaf_building hstate hsent,
        Or.inl ⟨hj, Or.inl hcomp, fun s hs => (Option.some.inj hs).symm.trans hseq.symm⟩⟩
  | returnOk j =>
      rcases hp : w.pc (.run j) <;> simp only [step, hp, reduceCtorEq, Option.some_inj] at h
      case building => exact h ▸ hw.returnOk (Or.inl hp)
      case ended => exact h ▸ hw.returnOk (Or.inr hp)
      case selfDone => exact h ▸ (hw.returnOk_selfDone hp).1
  | irqArrives i state =>
      rcases hp : w.pc (.irq i) <;> rcases hcur : w.current with _ | ⟨j, c⟩ <;>
        simp only [step, hp, hcur, reduceCtorEq, Option.some_inj] at h
      subst h
      exact hw.aside ⟨rfl, rfl, rfl, rfl, rfl⟩ rfl (by rw [hp]; exact id) id (by simp) (by simp)
  | irqLock i =>
      rcases hp : w.pc (.irq i) <;> simp only [step, hp, reduceCtorEq, Option.some_inj] at h
      exact h ▸ hw.irqLock hp
  | irqCancel i =>
      rcases hp : w.pc (.irq i) <;> simp only [step, hp, reduceCtorEq, Option.some_inj] at h
      subst h
      refine hw.hand ⟨rfl, rfl, rfl, rfl, rfl⟩ (by rw [hp]; trivial) trivial rfl id ?_
      intro j c hheld
      rw [hp] at hheld
      obtain ⟨rfl, hctx, hdeaf, hoff, hcomp⟩ := hheld
      refine ⟨rfl, Or.inr hctx, hdeaf, Or.inr ⟨?_, hcomp, rfl⟩⟩
      rwa [pc_of_ne rfl (by simp)]
  | expires c =>
      rcases hp : w.pc (.watchdog c) <;> rcases ht : w.timer c with _ | n <;>
        simp only [step, hp, ht, reduceCtorEq, Option.some_inj] at h
      subst h
      exact hw.aside ⟨rfl, rfl, rfl, rfl, rfl⟩ rfl (by rw [hp]; exact id) id (by simp) (by simp)
  | watchdogLock c =>
      rcases hp : w.pc (.watchdog c) <;> simp only [step, hp, reduceCtorEq, Option.some_inj] at h
      exact h ▸ hw.watchdogLock hp
  | finishLock t =>
      rcases hp : w.pc t <;> simp only [step, hp, reduceCtorEq, Option.some_inj] at h
      subst h
      refine hw.hand ⟨rfl, rfl, rfl, rfl, rfl⟩ (by rw [hp]; trivial) trivial
        AvdDev.finish_jobSeq AvdDev.finish_running ?_
      intro j c hheld
      rw [hp] at hheld
      obtain ⟨rfl, hdev, -, hcloses⟩ := hheld
      refine ⟨rfl, AvdDev.finish_cleared hdev, ?_⟩
      obtain ⟨hj, hcomp, hseq⟩ | ⟨hoff, hcomp, hres⟩ := hcloses
      · exact Or.inl ⟨hj, hcomp, fun s hs => (hseq s hs).trans AvdDev.finish_jobSeq.symm⟩
      · refine Or.inr ⟨?_, hcomp, hres⟩
        have hne : .run j ≠ t := by
          rintro rfl
          rw [hp] at hoff
          simp at hoff
        rwa [pc_of_ne rfl hne]
  | finishCall t =>
      rcases hp : w.pc t <;> simp only [step, hp, reduceCtorEq, Option.some_inj] at h
      exact h ▸ (hw.finishCall hp).1

omit [DecidableEq Ctx] in
lemma inv_init : ({} : World Ctx).Inv where
  fresh _ _ := ⟨rfl, rfl⟩
  started := by simp
  settled := by simp
  kept := by simp
  once := List.nodup_nil
  past := by simp
  phase := ⟨fun _ => ⟨fun _ => id, rfl, rfl⟩, by simp⟩

/-- The invariant holds after every interleaving. -/
theorem inv_of_run {es : List (Event Ctx)} (h : run es {} = .ok () w) : w.Inv :=
  each_invariant inv_init (fun _ _ _ hw hx => step_inv (attempt_ok.mp hx) hw) h

/-! ### What the invariant says -/

/-- The completion of a job reaches the finish call of its run: the run has not returned and will
finish with it, is finishing with it, or has finished with it. -/
def World.Delivers (w : World Ctx) (j : ℕ) (result : BufState) : Prop :=
  (∃ c s, w.pc (.run j) = .ended c s ∧
      (w.returnOk j c s).pc (.run j) = .finish c result none) ∨
    (∃ c resume, w.pc (.run j) = .finish c result resume ∨
      w.pc (.run j) = .call c result resume) ∨
    ⟨.run j, some j, result⟩ ∈ w.finished

omit [DecidableEq Ctx] in
lemma World.Closes.result {t : Thread Ctx} {j : ℕ} {r state : BufState} {resume : Option ℕ}
    (h : w.Closes j t state resume) (hr : w.completion j = some r) : t = .run j ∧ state = r := by
  obtain ⟨ht, hnone | hsome, -⟩ | ⟨-, hnone, -⟩ := h
  · simp [hnone] at hr
  · exact ⟨ht, Option.some.inj (hsome.symm.trans hr)⟩
  · simp [hnone] at hr

lemma World.Inv.delivers (hw : w.Inv) {j : ℕ} {r : BufState} (hr : w.completion j = some r) :
    w.Delivers j r := by
  obtain ⟨c, hcur⟩ | hfin := hw.kept j r hr
  · obtain ⟨-, -, -, -, hnone⟩ | ⟨t, -, hheld⟩ := hw.phase.2 j c hcur
    · simp [hnone] at hr
    · rcases hp : w.pc t <;> simp only [hp, Held] at hheld
      case building =>
        obtain ⟨-, -, -, -, -, -, -, hnone⟩ := hheld
        simp [hnone] at hr
      case ended c' s =>
        obtain ⟨rfl, rfl, hstate, -, hseq, -, hcomp⟩ := hheld
        have hpending : w.dev.jobPending = true ∧ w.dev.jobPendingResult = r := by
          rw [hcomp] at hr
          split_ifs at hr with hpending
          exact ⟨hpending, Option.some.inj hr⟩
        refine Or.inl ⟨c', s, hp, ?_⟩
        rw [World.returnOk, AvdDev.runReturn, if_pos ⟨hseq, hstate⟩, if_pos hpending.1, hpending.2]
        exact pc_self rfl
      case claimed =>
        obtain ⟨-, -, -, -, hnone⟩ := hheld
        simp [hnone] at hr
      case finish c' state resume =>
        obtain ⟨rfl, rfl⟩ := hheld.2.2.2.result hr
        exact Or.inr (Or.inl ⟨c', resume, Or.inl hp⟩)
      case call c' state resume =>
        obtain ⟨rfl, rfl⟩ := hheld.2.2.result hr
        exact Or.inr (Or.inl ⟨c', resume, Or.inr hp⟩)
  · exact Or.inr (Or.inr hfin)

omit [DecidableEq Ctx] in
/-- A party that finishes a job finishes the current one, and its own or one whose run has
returned. -/
lemma World.Inv.finisher (hw : w.Inv) {t : Thread Ctx} {c : Ctx} {state : BufState}
    {resume : Option ℕ}
    (hp : w.pc t = .finish c state resume ∨ w.pc t = .call c state resume) :
    ∃ j, w.current = some (j, c) ∧ (t = .run j ∨ w.pc (.run j) = .off) := by
  have hholds : (w.pc t).Holds := by
    obtain hp | hp := hp <;> rw [hp] <;> trivial
  obtain ⟨j, c', hcur, -, -, hheld⟩ := hw.held hholds
  obtain hp | hp := hp <;> rw [hp] at hheld
  · obtain ⟨rfl, -, -, hcloses⟩ := hheld
    exact ⟨j, hcur, hcloses.imp And.left And.left⟩
  · obtain ⟨rfl, -, hcloses⟩ := hheld
    exact ⟨j, hcur, hcloses.imp And.left And.left⟩

/-- A completion between the END command and the return of the run is remembered. -/
lemma World.Inv.remembers (hw : w.Inv) {i j s : ℕ} {c : Ctx} {state : BufState}
    (hp : w.pc (.run j) = .ended c s) : (w.irqLock i c state).completion j = some state := by
  obtain ⟨j', c', hcur, -, -, hheld⟩ := hw.held (t := .run j) (by rw [hp]; trivial)
  rw [hp] at hheld
  obtain ⟨rfl, hj, hstate, hctx, -, hsent, -⟩ := hheld
  obtain rfl := Thread.run.inj hj
  rw [World.irqLock, AvdDev.irq, if_neg (not_not.mpr hctx), if_neg (by simp [hstate]),
    if_pos ⟨hstate, hsent⟩]
  simp [remember, hcur]

lemma step_finished (h : step w e = some w') :
    w'.finished = w.finished ∨ ∃ t, e = .finishCall t := by
  cases e with
  | enter c | resumeFails c =>
      simp only [step, Option.ite_none_right_eq_some, Option.some_inj] at h
      exact Or.inl (h.2 ▸ rfl)
  | endSubmission j | returnError j | selfFinish j state =>
      rcases hp : w.pc (.run j) <;> simp only [step, hp, reduceCtorEq, Option.some_inj] at h
      exact Or.inl (h ▸ rfl)
  | returnOk j =>
      refine Or.inl ?_
      have hfin : ∀ c s, (w.returnOk j c s).finished = w.finished := by
        intro c s
        rw [World.returnOk]
        split <;> rfl
      rcases hp : w.pc (.run j) <;> simp only [step, hp, reduceCtorEq, Option.some_inj] at h <;>
        exact h ▸ hfin _ _
  | irqArrives i state =>
      rcases hp : w.pc (.irq i) <;> rcases hcur : w.current <;>
        simp only [step, hp, hcur, reduceCtorEq, Option.some_inj] at h
      exact Or.inl (h ▸ rfl)
  | irqLock i =>
      rcases hp : w.pc (.irq i) <;> simp only [step, hp, reduceCtorEq, Option.some_inj] at h
      rw [World.irqLock] at h
      refine Or.inl ?_
      split at h <;> exact h ▸ rfl
  | irqCancel i =>
      rcases hp : w.pc (.irq i) <;> simp only [step, hp, reduceCtorEq, Option.some_inj] at h
      exact Or.inl (h ▸ rfl)
  | expires c =>
      rcases hp : w.pc (.watchdog c) <;> rcases ht : w.timer c <;>
        simp only [step, hp, ht, reduceCtorEq, Option.some_inj] at h
      exact Or.inl (h ▸ rfl)
  | watchdogLock c =>
      rcases hp : w.pc (.watchdog c) <;> simp only [step, hp, reduceCtorEq, Option.some_inj] at h
      rw [World.watchdogLock] at h
      refine Or.inl ?_
      split_ifs at h <;> exact h ▸ rfl
  | finishLock t =>
      rcases hp : w.pc t <;> simp only [step, hp, reduceCtorEq, Option.some_inj] at h
      exact Or.inl (h ▸ rfl)
  | finishCall t => exact Or.inr ⟨t, rfl⟩

/-- **The life of a job**, in every interleaving of the parties.  Every finish call finishes a job,
and no job is finished twice.  Nothing but a finish call finishes a job, and while the run of the
job has not returned only that run makes it.  An interrupt before the END command finishes
nothing.  One between the END command and the return of the run is remembered, and the run
finishes the job with it.  Between two jobs the device has none. -/
theorem job_lifecycle {es : List (Event Ctx)} (h : run es {} = .ok () w) :
    (w.finished.map FinishCall.job).Nodup ∧ (∀ f ∈ w.finished, ∃ j < w.jobs, f.job = some j) ∧
      (∀ e w', step w e = some w' → w'.finished = w.finished ∨ ∃ t j c state resume,
        e = .finishCall t ∧ w.pc t = .call c state resume ∧ w.current = some (j, c) ∧
        w'.finished = ⟨t, some j, state⟩ :: w.finished ∧ (t = .run j ∨ w.pc (.run j) = .off)) ∧
      (∀ t c state resume, w.pc t = .finish c state resume →
        ∃ j, w.current = some (j, c) ∧ (t = .run j ∨ w.pc (.run j) = .off)) ∧
      (∀ i w', w.dev.jobState = .running → w.dev.jobEndSent = false →
        step w (.irqLock i) = some w' → w' = w.goto (.irq i) .off) ∧
      (∀ j c s, w.pc (.run j) = .building c s →
        w.dev.jobState = .running ∧ w.dev.jobEndSent = false ∧ w.current = some (j, c)) ∧
      (∀ i j c s state w', w.pc (.run j) = .ended c s → w.pc (.irq i) = .arrived c state →
        step w (.irqLock i) = some w' → w'.completion j = some state) ∧
      (∀ j r, w.completion j = some r → w.Delivers j r) ∧
      (w.current = none → w.dev.jobState = .idle ∧ w.dev.jobCtx = none) := by
  have hw := inv_of_run h
  refine ⟨hw.once, ?_, ?_, fun t c state resume hp => hw.finisher (Or.inl hp), ?_, ?_, ?_,
    fun j r => hw.delivers, fun hnone => (hw.phase.1 hnone).2⟩
  · intro f hf
    obtain ⟨j, hj, hfj, -⟩ := hw.past f hf
    exact ⟨j, hj, hfj⟩
  · intro e w' hstep
    obtain hfin | ⟨t, rfl⟩ := step_finished hstep
    · exact Or.inl hfin
    · rcases hp : w.pc t <;> simp only [step, hp, reduceCtorEq, Option.some_inj] at hstep
      obtain ⟨-, j, hcur, -, hrun, hfin⟩ := hw.finishCall hp
      exact Or.inr ⟨t, j, _, _, _, rfl, hp, hcur, hstep ▸ hfin, hrun⟩
  · intro i w' hstate hsent hstep
    rcases hp : w.pc (.irq i) <;> simp only [step, hp, reduceCtorEq, Option.some_inj] at hstep
    rw [← hstep, World.irqLock, (AvdDev.deaf_building hstate hsent).irq]
  · intro j c s hp
    obtain ⟨j', c', hcur, -, -, hheld⟩ := hw.held (t := .run j) (by rw [hp]; trivial)
    rw [hp] at hheld
    obtain ⟨rfl, hj, hstate, -, -, hsent, -⟩ := hheld
    obtain rfl := Thread.run.inj hj
    exact ⟨hstate, hsent, hcur⟩
  · intro i j c s state w' hp hi hstep
    simp only [step, hi, Option.some_inj] at hstep
    rw [← hstep]
    exact hw.remembers hp

/-- A job whose completion comes before its run returns. -/
def earlyCompletion : List (Event Unit) :=
  [.enter (), .endSubmission 0, .irqArrives 0 .done, .irqLock 0, .returnOk 0, .finishLock (.run 0),
    .finishCall (.run 0)]

theorem earlyCompletion_finished :
    ∃ w : World Unit, run earlyCompletion {} = .ok () w ∧
      w.finished = [⟨.run 0, some 0, .done⟩] ∧ (w.finished.map FinishCall.job).Nodup ∧
      w.Delivers 0 .done ∧ w.dev.jobState = .idle := by
  refine ⟨_, rfl, rfl, ?_⟩
  obtain ⟨honce, -, -, -, -, -, -, hdelivers, hidle⟩ := @job_lifecycle Unit _ _ earlyCompletion rfl
  exact ⟨honce, hdelivers 0 .done rfl, (hidle rfl).1⟩

end Run

end OmarchyM1Video.Driver
