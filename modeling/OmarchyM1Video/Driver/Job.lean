import Mathlib.Logic.Function.Basic
import OmarchyM1Video.Py.Exec

/-!
The one job of the AVD driver, as `patches/0005` tracks it.

Three parties share the job fields of `struct avd_dev`: `avd_device_run`, the completion interrupt and
the watchdog of a context.  Each section under `job_lock` is one step; between two sections of a party
any other party may take its steps.  The 64-bit `job_seq` counts jobs and is a natural number here.

* `AvdDev`, with one function for each section under `job_lock`;
* `Thread`, `Pc`: the parties, and where each of them is;
* `World`, `Event`, `step`, `run`: the driver with v4l2-mem2mem, and its interleavings.
-/

namespace OmarchyM1Video.Driver

open OmarchyM1Video.Py

/-! ### The sections under `job_lock` -/

/-- `enum avd_job_state`. -/
inductive JobState where
  | idle
  /-- Inside `avd_device_run`. -/
  | running
  /-- Handed to the hardware, watchdog armed. -/
  | submitted
  /-- Claimed by the interrupt handler or the watchdog. -/
  | finishing
  deriving DecidableEq, Repr

/-- The values of `enum vb2_buffer_state` that a job ends with. -/
inductive BufState where
  | done | error
  deriving DecidableEq, Repr

/-- The fields of `struct avd_dev` under `job_lock`. -/
structure AvdDev (Ctx : Type) where
  jobState : JobState := .idle
  jobCtx : Option Ctx := none
  /-- A counter of 64 bits, which fewer than `2 ^ 64` jobs do not wrap. -/
  jobSeq : ℕ := 0
  jobEndSent : Bool := false
  jobPending : Bool := false
  jobPendingResult : BufState := .done
  deriving DecidableEq

namespace AvdDev

variable {Ctx : Type} [DecidableEq Ctx] (d : AvdDev Ctx)

omit [DecidableEq Ctx] in
/-- The first section of `avd_device_run`. -/
def enter (c : Ctx) : AvdDev Ctx :=
  { d with jobSeq := d.jobSeq + 1, jobCtx := some c, jobState := .running, jobEndSent := false
           jobPending := false }

/-- What the interrupt handler does after its section. -/
inductive IrqVerdict where
  | stale | finish | pending
  deriving DecidableEq

/-- The section of the interrupt handler. -/
def irq (c : Ctx) (state : BufState) : AvdDev Ctx × IrqVerdict :=
  if d.jobCtx ≠ some c then (d, .stale)
  else if d.jobState = .submitted then ({ d with jobState := .finishing }, .finish)
  else if d.jobState = .running ∧ d.jobEndSent then
    ({ d with jobPending := true, jobPendingResult := state }, .pending)
  else (d, .stale)

/-- The watchdog of a context claims the job. -/
def claims (c : Ctx) (wdSeq : ℕ) : Prop :=
  d.jobCtx = some c ∧ d.jobSeq = wdSeq ∧ d.jobState = .submitted

instance (c : Ctx) (wdSeq : ℕ) : Decidable (d.claims c wdSeq) := inferInstanceAs (Decidable (_ ∧ _))

/-- What `avd_device_run` does after its last section. -/
inductive RunVerdict where
  | alreadyFinished | finish (result : BufState) | submitted
  deriving DecidableEq

/-- The last section of `avd_device_run`, after a run that did not fail. -/
def runReturn (seq : ℕ) : AvdDev Ctx × RunVerdict :=
  if d.jobSeq = seq ∧ d.jobState = .running then
    if d.jobPending then ({ d with jobState := .finishing }, .finish d.jobPendingResult)
    else ({ d with jobState := .submitted }, .submitted)
  else (d, .alreadyFinished)

/-- The section of `avd_job_finish_no_pm`. -/
def finish (c : Ctx) : AvdDev Ctx :=
  if d.jobCtx = some c then { d with jobState := .idle, jobCtx := none, jobPending := false } else d

end AvdDev

/-! ### The parties -/

/-- A party: the `avd_device_run` of a job, an interrupt, or the watchdog of a context. -/
inductive Thread (Ctx : Type) where
  | run (job : ℕ)
  | irq (i : ℕ)
  | watchdog (c : Ctx)
  deriving DecidableEq

/-- Where a party is. -/
inductive Pc (Ctx : Type) where
  /-- Nothing is under way. -/
  | off
  /-- `avd_device_run`: in the run of the codec, before the END command. -/
  | building (c : Ctx) (seq : ℕ)
  /-- `avd_device_run`: after the END command, the last thing that the run does. -/
  | ended (c : Ctx) (seq : ℕ)
  /-- `avd_device_run`: the run has finished the job itself, and has not returned. -/
  | selfDone (c : Ctx) (seq : ℕ)
  /-- The interrupt handler has read the current context. -/
  | arrived (c : Ctx) (state : BufState)
  /-- The interrupt handler has claimed the job; `cancel_delayed_work` is next. -/
  | claimed (c : Ctx) (state : BufState)
  /-- The watchdog that was armed for a job has expired and has not taken the lock yet. -/
  | begun (c : Ctx) (armed : ℕ)
  /-- `avd_job_finish` is next; a run that finishes its own job then goes on with its number. -/
  | finish (c : Ctx) (state : BufState) (resume : Option ℕ)
  /-- The finish call of v4l2-mem2mem is next. -/
  | call (c : Ctx) (state : BufState) (resume : Option ℕ)
  deriving DecidableEq

/-- A finish call: who made it, with which result, and the job that it finished. -/
structure FinishCall (Ctx : Type) where
  thread : Thread Ctx
  job : Option ℕ
  state : BufState
  deriving DecidableEq

/-- The driver, v4l2-mem2mem, and what has happened. -/
structure World (Ctx : Type) where
  dev : AvdDev Ctx := {}
  /-- `ctx->wd_seq`, a copy of `job_seq`. -/
  wdSeq : Ctx → ℕ := fun _ => 0
  /-- The job that a pending `ctx->watchdog_work` was armed for. -/
  timer : Ctx → Option ℕ := fun _ => none
  pc : Thread Ctx → Pc Ctx := fun _ => .off
  /-- The job that v4l2-mem2mem has started and not seen finished, with its context. -/
  current : Option (ℕ × Ctx) := none
  jobs : ℕ := 0
  /-- The finish calls so far, the last one first. -/
  finished : List (FinishCall Ctx) := []
  /-- The completion that came between the END command of a job and the return of its run. -/
  completion : ℕ → Option BufState := fun _ => none
  /-- The claims of watchdogs: the job that was armed for, and the one that was claimed. -/
  wdClaims : List (ℕ × ℕ) := []

/-- The steps of the parties. -/
inductive Event (Ctx : Type) where
  /-- v4l2-mem2mem starts a job of a context, which enters its first section. -/
  | enter (c : Ctx)
  /-- v4l2-mem2mem starts a job of a context, and the device does not resume. -/
  | resumeFails (c : Ctx)
  | endSubmission (job : ℕ)
  | returnError (job : ℕ)
  | selfFinish (job : ℕ) (state : BufState)
  | returnOk (job : ℕ)
  | irqArrives (i : ℕ) (state : BufState)
  | irqLock (i : ℕ)
  | irqCancel (i : ℕ)
  | expires (c : Ctx)
  | watchdogLock (c : Ctx)
  | finishLock (t : Thread Ctx)
  | finishCall (t : Thread Ctx)
  deriving DecidableEq

namespace World

variable {Ctx : Type} [DecidableEq Ctx] (w : World Ctx)

/-- A party moves on. -/
def goto (t : Thread Ctx) (p : Pc Ctx) : World Ctx := { w with pc := Function.update w.pc t p }

omit [DecidableEq Ctx] in
/-- v4l2-mem2mem starts a job. -/
def start (c : Ctx) : World Ctx := { w with current := some (w.jobs, c), jobs := w.jobs + 1 }

/-- The job is handed to the hardware: a watchdog that is pending already stays as it is. -/
def arm (c : Ctx) (seq : ℕ) : World Ctx :=
  { w with wdSeq := Function.update w.wdSeq c seq
           timer := Function.update w.timer c (some ((w.timer c).getD seq)) }

/-- The return of the run of a job, with its number. -/
def returnOk (job : ℕ) (c : Ctx) (seq : ℕ) : World Ctx :=
  let w' := { w with dev := (w.dev.runReturn seq).1 }
  match (w.dev.runReturn seq).2 with
  | .alreadyFinished => w'.goto (.run job) .off
  | .finish result => w'.goto (.run job) (.finish c result none)
  | .submitted => (w'.arm c seq).goto (.run job) .off

/-- The completion that is remembered for the job that is running. -/
def remember (state : BufState) : ℕ → Option BufState :=
  match w.current with
  | some (j, _) => Function.update w.completion j (some state)
  | none => w.completion

/-- The section of an interrupt. -/
def irqLock (i : ℕ) (c : Ctx) (state : BufState) : World Ctx :=
  let w' := { w with dev := (w.dev.irq c state).1 }
  match (w.dev.irq c state).2 with
  | .stale => w'.goto (.irq i) .off
  | .finish => w'.goto (.irq i) (.claimed c state)
  | .pending => { w'.goto (.irq i) .off with completion := w.remember state }

/-- The section of the watchdog. -/
def watchdogLock (c : Ctx) (armed : ℕ) : World Ctx :=
  if w.dev.claims c (w.wdSeq c) then
    { w.goto (.watchdog c) (.finish c .error none) with
      dev := { w.dev with jobState := .finishing }
      wdClaims := (armed, w.dev.jobSeq) :: w.wdClaims }
  else w.goto (.watchdog c) .off

/-- The finish call: v4l2-mem2mem finishes the current job if it is of the context. -/
def finishCall (t : Thread Ctx) (c : Ctx) (state : BufState) (resume : Option ℕ) : World Ctx :=
  let w' := w.goto t (resume.elim .off (.selfDone c))
  match w.current with
  | some (j, c') =>
      if c' = c then { w' with current := none, finished := ⟨t, some j, state⟩ :: w.finished }
      else { w' with finished := ⟨t, none, state⟩ :: w.finished }
  | none => { w' with finished := ⟨t, none, state⟩ :: w.finished }

end World

section Step

variable {Ctx : Type} [DecidableEq Ctx]

/-- One step, if it can be taken. -/
def step (w : World Ctx) : Event Ctx → Option (World Ctx)
  | .enter c =>
      if w.current = none then
        some ({ w.start c with dev := w.dev.enter c }.goto (.run w.jobs)
          (.building c (w.dev.jobSeq + 1)))
      else none
  | .resumeFails c =>
      if w.current = none then some ((w.start c).goto (.run w.jobs) (.finish c .error none))
      else none
  | .endSubmission j =>
      match w.pc (.run j) with
      | .building c s =>
          some ({ w with dev := { w.dev with jobEndSent := true } }.goto (.run j) (.ended c s))
      | _ => none
  | .returnError j =>
      match w.pc (.run j) with
      | .building c _ => some (w.goto (.run j) (.finish c .error none))
      | _ => none
  | .selfFinish j state =>
      match w.pc (.run j) with
      | .building c s => some (w.goto (.run j) (.finish c state (some s)))
      | _ => none
  | .returnOk j =>
      match w.pc (.run j) with
      | .building c s => some (w.returnOk j c s)
      | .ended c s => some (w.returnOk j c s)
      | .selfDone c s => some (w.returnOk j c s)
      | _ => none
  | .irqArrives i state =>
      match w.pc (.irq i), w.current with
      | .off, some (_, c) => some (w.goto (.irq i) (.arrived c state))
      | _, _ => none
  | .irqLock i =>
      match w.pc (.irq i) with
      | .arrived c state => some (w.irqLock i c state)
      | _ => none
  | .irqCancel i =>
      match w.pc (.irq i) with
      | .claimed c state =>
          some ({ w with timer := Function.update w.timer c none }.goto (.irq i)
            (.finish c state none))
      | _ => none
  | .expires c =>
      match w.pc (.watchdog c), w.timer c with
      | .off, some armed =>
          some ({ w with timer := Function.update w.timer c none }.goto (.watchdog c)
            (.begun c armed))
      | _, _ => none
  | .watchdogLock c =>
      match w.pc (.watchdog c) with
      | .begun _ armed => some (w.watchdogLock c armed)
      | _ => none
  | .finishLock t =>
      match w.pc t with
      | .finish c state resume =>
          some ({ w with dev := w.dev.finish c }.goto t (.call c state resume))
      | _ => none
  | .finishCall t =>
      match w.pc t with
      | .call c state resume => some (w.finishCall t c state resume)
      | _ => none

/-- The interleavings of the parties. -/
def run (es : List (Event Ctx)) : EStateM Unit (World Ctx) Unit := each (attempt step) es

end Step

end OmarchyM1Video.Driver
