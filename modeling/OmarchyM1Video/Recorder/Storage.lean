import Mathlib.Data.List.Induction
import OmarchyM1Video.Recorder.Core

/-!
The control file of a recorder and the lifetime of its captures: `control_write` of
`experiments/hevc-avd-trace/kernel/avd-trace.c` and of
`experiments/hevc-avd-command-trace/kernel/avd-cmdtrace.c`, which are the same but for their names,
and the change that `experiments/hevc-avd-command-trace/bounded.py` makes to both.

A capture lives at an address from its allocation until it is freed; the recorder has a pointer to
the current one.  An access to a capture that is not allocated, or to an array out of range, has no
result.

* `Hooks`: what a recorder brings, its captures and what its hooks do to them;
* `Store`, `Command`, `controlWrite`: the static variables, and the control file;
* `Event`, `Hooks.step`, `Hooks.run`: the control writes and the hooks, in any order;
* `Hooks.Lawful`: what the hooks keep;
* `Hooks.run_kept`: every run stays in range and frees only what a control write drops, no error bit
  is cleared, and a sealed capture does not change.
-/

namespace OmarchyM1Video.Recorder

open OmarchyM1Video.C

/-- A recorder: its captures of type `C`, its static variables besides those of `Store`, of type
`E`, and its hooks, of type `H`. -/
structure Hooks (C E H : Type) where
  core : C → Core
  /-- A zeroed capture with its run, its process and its phase. -/
  armed : ℕ → ℕ → C
  sealUp : C → C
  /-- What a hook does to the capture, if there is one. -/
  apply : H → C → Option C
  /-- What a hook does to `open_contexts`. -/
  contexts : H → ℕ → ℕ
  /-- What a hook does to the other static variables. -/
  statics : H → Option C → E → E

/-- The static variables of a recorder, and the captures that are allocated. -/
structure Store (C E : Type) where
  heap : ℕ → Option C := fun _ => none
  /-- The next address. -/
  fresh : ℕ := 0
  /-- `static struct atr_capture *capture`. -/
  capture : Option ℕ := none
  openContexts : ℕ := 0
  lastRun : ℕ := 0
  snapshotBusy : Bool := false
  env : E

/-! ### The control file -/

/-- `"arm RUN TGID"`, `"seal RUN"` or `"off"`. -/
inductive Command where
  | arm (run pid : ℕ)
  | sealUp (run : ℕ)
  | off
  deriving DecidableEq, Repr

namespace Command

def isArm : Command → Bool
  | arm _ _ => true
  | _ => false

/-- What `kstrtoull` and the checks after it admit. -/
def valid : Command → Bool
  | arm run pid => run ≠ 0 && run < 0x10000000000000000 && pid ≠ 0 && pid ≤ 0x7FFFFFFF
  | sealUp run => run ≠ 0 && run < 0x10000000000000000
  | off => true

end Command

inductive Errno where
  | inval | nomem | busy
  deriving DecidableEq, Repr

section Control

variable {C E H : Type} (R : Hooks C E H)

/-- `kvfree(p)`. -/
def Store.free (s : Store C E) (p : Option ℕ) : Store C E :=
  match p with
  | none => s
  | some p => { s with heap := Function.update s.heap p none }

section Free

variable (s : Store C E) (p : Option ℕ)

@[simp] lemma Store.free_capture : (s.free p).capture = s.capture := by cases p <;> rfl

@[simp] lemma Store.free_fresh : (s.free p).fresh = s.fresh := by cases p <;> rfl

@[simp] lemma Store.free_lastRun : (s.free p).lastRun = s.lastRun := by cases p <;> rfl

@[simp] lemma Store.free_snapshotBusy : (s.free p).snapshotBusy = s.snapshotBusy := by
  cases p <;> rfl

end Free

/-- `control_write` of `arm`: a fresh capture, freed again if it is refused; `memory` says whether
`kvzalloc` succeeds. -/
def armCapture (run pid : ℕ) (memory : Bool) (s : Store C E) : Store C E × Except Errno Unit :=
  if memory then
    let p := s.fresh
    let s₁ := { s with
      heap := Function.update s.heap p (some (R.armed run pid))
      fresh := p + 1 }
    if s.openContexts ≠ 0 ∨ run ≤ s.lastRun then (s₁.free (some p), .error .busy)
    else ({ s₁ with capture := some p, lastRun := run }.free s.capture, .ok ())
  else (s, .error .nomem)

/-- `control_write` of `seal`. -/
def sealCapture (run : ℕ) (s : Store C E) : Option (Store C E × Except Errno Unit) :=
  if s.openContexts ≠ 0 then some (s, .error .busy)
  else match s.capture with
    | none => some (s, .error .inval)
    | some p => do
        let c ← s.heap p
        if (R.core c).run ≠ run ∨ (R.core c).sealable = false then some (s, .error .inval)
        else some ({ s with heap := Function.update s.heap p (some (R.sealUp c)) }, .ok ())

/-- `control_write` of `off`. -/
def dropCapture (s : Store C E) : Store C E × Except Errno Unit :=
  if s.openContexts ≠ 0 then (s, .error .busy)
  else ({ s with capture := none }.free s.capture, .ok ())

/-- `control_write`, after the text has been read; `bounded` says whether it is the recorder that
`bounded.constrain` makes. -/
def controlWrite (bounded : Bool) (command : Command) (memory : Bool) (s : Store C E) :
    Option (Store C E × Except Errno Unit) :=
  if command.valid = false then some (s, .error .inval)
  else if bounded ∧ (s.snapshotBusy ∨ command.isArm ∧ s.capture.isSome) then some (s, .error .busy)
  else match command with
    | .arm run pid => some (armCapture R run pid memory s)
    | .sealUp run => sealCapture R run s
    | .off => some (dropCapture s)

/-- A hook: the capture, if there is one, and the static variables. -/
def runHook (h : H) (s : Store C E) : Option (Store C E) :=
  match s.capture with
  | none => some { s with
      openContexts := R.contexts h s.openContexts
      env := R.statics h none s.env }
  | some p => do
      let c ← s.heap p
      let c' ← R.apply h c
      return { s with
        heap := Function.update s.heap p (some c')
        openContexts := R.contexts h s.openContexts
        env := R.statics h (some c) s.env }

/-! ### Runs -/

/-- A control write or a hook, each under the recorder's lock. -/
inductive Event (H : Type) where
  | control (command : Command) (memory : Bool)
  | hook (h : H)

namespace Hooks

/-- One event. -/
def step (bounded : Bool) (e : Event H) (s : Store C E) : Option (Store C E) :=
  match e with
  | .control command memory => (controlWrite R bounded command memory s).map Prod.fst
  | .hook h => runHook R h s

/-- The events one after the other. -/
def run (bounded : Bool) (events : List (Event H)) (s : Store C E) : Option (Store C E) :=
  events.foldlM (fun s e => R.step bounded e s) s

/-- What the hooks keep: `I` lets every hook stay in range; no hook clears an error bit or changes a
sealed capture. -/
structure Lawful (I : C → Prop) : Prop where
  armed_inv : ∀ run pid, I (R.armed run pid)
  armed_core : ∀ run pid, R.core (R.armed run pid) = Core.armed run pid
  seal_inv : ∀ {c}, I c → I (R.sealUp c)
  seal_core : ∀ c, R.core (R.sealUp c) = (R.core c).sealUp
  total : ∀ {c}, I c → ∀ h, ∃ c', R.apply h c = some c' ∧ I c'
  errors : ∀ {h c c'}, R.apply h c = some c' → BitsKept (R.core c).errors (R.core c').errors
  sealed : ∀ {h c c'}, R.apply h c = some c' → (R.core c).phase = .sealed → c' = c

end Hooks

end Control

/-! ### What an event does -/

section Kept

variable {C E H : Type} {R : Hooks C E H} {I : C → Prop} {bounded : Bool} {s s' s'' : Store C E}
  {e : Event H}

/-- What becomes of a capture that stays allocated. -/
structure Survives (R : Hooks C E H) (c c' : C) : Prop where
  errors : BitsKept (R.core c).errors (R.core c').errors
  sealed : (R.core c).phase = .sealed → c' = c

namespace Survives

variable {c c' c'' : C}

lemma refl (c : C) : Survives R c c := ⟨BitsKept.refl _, fun _ => rfl⟩

lemma trans (h : Survives R c c') (h' : Survives R c' c'') : Survives R c c'' := by
  refine ⟨h.errors.trans h'.errors, fun hsealed => ?_⟩
  obtain rfl := h.sealed hsealed
  exact h'.sealed hsealed

end Survives

/-- The current capture is the one that is allocated. -/
structure Store.Inv (I : C → Prop) (s : Store C E) : Prop where
  unused : ∀ p, s.fresh ≤ p → s.heap p = none
  current : ∀ p c, s.heap p = some c → s.capture = some p
  present : ∀ p, s.capture = some p → ∃ c, s.heap p = some c ∧ I c

lemma Store.Inv.lt_fresh (h : s.Inv I) {p : ℕ} {c : C} (hp : s.heap p = some c) : p < s.fresh := by
  by_contra hle
  exact absurd (hp.symm.trans (h.unused p (Nat.le_of_not_lt hle))) (by simp)

/-- What an event does to the captures: nothing, a change of the current one, a drop of it, or a
fresh one in its place. -/
inductive Moved (R : Hooks C E H) (bounded : Bool) (e : Event H) (s s' : Store C E) : Prop where
  | idle (hheap : s'.heap = s.heap) (hcapture : s'.capture = s.capture) (hrun : s'.lastRun = s.lastRun)
  | changed {p c c'} (hp : s.capture = some p) (hc : s.heap p = some c)
      (hheap : s'.heap = Function.update s.heap p (some c')) (hcapture : s'.capture = s.capture)
      (hrun : s'.lastRun = s.lastRun) (hc' : Survives R c c')
  | dropped {memory} (he : e = .control .off memory) (hheap : s'.heap = fun _ => none)
      (hcapture : s'.capture = none) (hrun : s'.lastRun = s.lastRun)
      (hbusy : bounded = true → s.snapshotBusy = false)
  | armed {run pid memory} (he : e = .control (.arm run pid) memory)
      (hheap : s'.heap = Function.update (fun _ => none) s.fresh (some (R.armed run pid)))
      (hcapture : s'.capture = some s.fresh) (hrun : s'.lastRun = run) (hlater : s.lastRun < run)
      (hbusy : bounded = true → s.snapshotBusy = false ∧ s.capture = none)

/-- Freeing the current capture leaves none. -/
lemma Store.Inv.heap_free (h : s.Inv I) : (s.free s.capture).heap = fun _ => none := by
  funext p
  cases hcapture : s.capture with
  | none =>
      cases hp : s.heap p with
      | none => exact hp
      | some c => exact absurd ((h.current p c hp).symm.trans hcapture) (by simp)
  | some q =>
      by_cases hpq : p = q
      · subst hpq
        exact Function.update_self ..
      · refine (Function.update_of_ne hpq ..).trans ?_
        cases hp : s.heap p with
        | none => rfl
        | some c =>
            have := (h.current p c hp).symm.trans hcapture
            exact absurd (Option.some.inj this) hpq

lemma Store.Inv.idle (h : s.Inv I) (hheap : s'.heap = s.heap) (hcapture : s'.capture = s.capture)
    (hfresh : s.fresh ≤ s'.fresh) : s'.Inv I := by
  refine ⟨fun p hp => ?_, fun p c hc => ?_, fun p hp => ?_⟩
  · rw [hheap]
    exact h.unused p (Nat.le_trans hfresh hp)
  · rw [hcapture]
    exact h.current p c (hheap ▸ hc)
  · rw [hheap]
    exact h.present p (hcapture ▸ hp)

lemma Store.Inv.changed (h : s.Inv I) {p : ℕ} {c : C} (hp : s.capture = some p) (hc : I c)
    (hheap : s'.heap = Function.update s.heap p (some c)) (hcapture : s'.capture = s.capture)
    (hfresh : s'.fresh = s.fresh) : s'.Inv I := by
  obtain ⟨c₀, hc₀, _⟩ := h.present p hp
  have hlt := h.lt_fresh hc₀
  refine ⟨fun q hq => ?_, fun q d hd => ?_, fun q hq => ?_⟩
  · rw [hfresh] at hq
    rw [hheap, Function.update_of_ne (by omega)]
    exact h.unused q hq
  · rw [hcapture]
    by_cases hqp : q = p
    · rw [hqp, hp]
    · rw [hheap, Function.update_of_ne hqp] at hd
      exact h.current q d hd
  · obtain rfl : p = q := Option.some.inj (hp.symm.trans (hcapture ▸ hq))
    exact ⟨c, by rw [hheap, Function.update_self], hc⟩

lemma Store.Inv.dropped (hheap : s'.heap = fun _ => none) (hcapture : s'.capture = none) :
    s'.Inv I := by
  refine ⟨fun p _ => by rw [hheap], fun p c hc => ?_, fun p hp => ?_⟩
  · rw [hheap] at hc
    exact absurd hc (by simp)
  · rw [hcapture] at hp
    exact absurd hp (by simp)

lemma Store.Inv.armed {n : ℕ} {c : C} (hc : I c)
    (hheap : s'.heap = Function.update (fun _ => none) n (some c)) (hcapture : s'.capture = some n)
    (hfresh : s'.fresh = n + 1) : s'.Inv I := by
  refine ⟨fun p hp => ?_, fun p d hd => ?_, fun p hp => ?_⟩
  · rw [hheap, Function.update_of_ne (by omega)]
  · by_cases hpn : p = n
    · rw [hpn, hcapture]
    · rw [hheap, Function.update_of_ne hpn] at hd
      exact absurd hd (by simp)
  · obtain rfl : n = p := Option.some.inj (hcapture.symm.trans hp)
    exact ⟨c, by rw [hheap, Function.update_self], hc⟩

/-- What an event comes to. -/
def Comes (R : Hooks C E H) (I : C → Prop) (bounded : Bool) (e : Event H) (s s' : Store C E) : Prop :=
  s'.Inv I ∧ (s'.snapshotBusy = s.snapshotBusy ∧ s.fresh ≤ s'.fresh) ∧ Moved R bounded e s s'

/-- A hook stays in range and leaves the captures to the control file. -/
lemma hook_total (hlaw : R.Lawful I) (hinv : s.Inv I) (h : H) :
    ∃ s', R.step bounded (.hook h) s = some s' ∧ Comes R I bounded (.hook h) s s' := by
  rw [Hooks.step, runHook]
  cases hcapture : s.capture with
  | none =>
      exact ⟨_, rfl, hinv.idle rfl hcapture.symm (Nat.le_refl _), ⟨rfl, Nat.le_refl _⟩,
        .idle rfl hcapture.symm rfl⟩
  | some p =>
      obtain ⟨c, hc, hI⟩ := hinv.present p hcapture
      obtain ⟨c', happly, hI'⟩ := hlaw.total hI h
      simp only [hc, happly, Option.bind_eq_bind, Option.bind_some]
      refine ⟨_, rfl, hinv.changed hcapture hI' rfl hcapture.symm rfl, ⟨rfl, Nat.le_refl _⟩, ?_⟩
      exact .changed hcapture hc rfl hcapture.symm rfl ⟨hlaw.errors happly, hlaw.sealed happly⟩

/-- A refusal, or a write that leaves the captures as they are. -/
lemma comes_idle (hinv : s.Inv I) (e : Event H) : Comes R I bounded e s s :=
  ⟨hinv.idle rfl rfl (Nat.le_refl _), ⟨rfl, Nat.le_refl _⟩, .idle rfl rfl rfl⟩

/-- An address that has not been used is given back. -/
lemma Store.Inv.heap_refused (h : s.Inv I) (c : C) :
    Function.update (Function.update s.heap s.fresh (some c)) s.fresh none = s.heap := by
  rw [Function.update_idem, ← h.unused s.fresh (Nat.le_refl _), Function.update_eq_self]

/-- What is left once the capture before has been freed. -/
lemma Store.Inv.heap_replaced (h : s.Inv I) (c : C) {t : Store C E}
    (ht : t.heap = Function.update s.heap s.fresh (some c)) :
    (t.free s.capture).heap = Function.update (fun _ => none) s.fresh (some c) := by
  have hfree := h.heap_free
  cases hcapture : s.capture with
  | none =>
      rw [hcapture] at hfree
      rw [Store.free, ht]
      exact congrArg (Function.update · s.fresh (some c)) hfree
  | some p =>
      obtain ⟨c₀, hc₀, _⟩ := h.present p hcapture
      have hne : p ≠ s.fresh := Nat.ne_of_lt (h.lt_fresh hc₀)
      rw [hcapture] at hfree
      change Function.update t.heap p none = _
      rw [ht, Function.update_comm hne.symm]
      exact congrArg (Function.update · s.fresh (some c)) hfree

lemma arm_comes (hlaw : R.Lawful I) (hinv : s.Inv I) (run pid : ℕ) (memory : Bool)
    (hbusy : bounded = true → s.snapshotBusy = false ∧ s.capture = none) :
    Comes R I bounded (.control (.arm run pid) memory) s (armCapture R run pid memory s).1 := by
  rw [armCapture]
  split_ifs with hmemory hrefused
  · have hheap := hinv.heap_refused (R.armed run pid)
    exact ⟨hinv.idle hheap rfl (Nat.le_succ _), ⟨rfl, Nat.le_succ _⟩, .idle hheap rfl rfl⟩
  · have hlater : s.lastRun < run := Nat.lt_of_not_le fun hle => hrefused (Or.inr hle)
    dsimp only
    generalize ht : ({ s with
      heap := Function.update s.heap s.fresh (some (R.armed run pid))
      fresh := s.fresh + 1
      capture := some s.fresh
      lastRun := run } : Store C E) = t
    have hheap := hinv.heap_replaced (R.armed run pid) (t := t) (by rw [← ht])
    have hfields : (t.free s.capture).capture = some s.fresh ∧ (t.free s.capture).fresh = s.fresh + 1 ∧
        (t.free s.capture).lastRun = run ∧ (t.free s.capture).snapshotBusy = s.snapshotBusy := by
      rw [Store.free_capture, Store.free_fresh, Store.free_lastRun, Store.free_snapshotBusy, ← ht]
      exact ⟨rfl, rfl, rfl, rfl⟩
    obtain ⟨hcapture, hfresh, hrun, hflag⟩ := hfields
    exact ⟨.armed (hlaw.armed_inv run pid) hheap hcapture hfresh, ⟨hflag, by omega⟩,
      .armed rfl hheap hcapture hrun hlater hbusy⟩
  · exact comes_idle hinv _

lemma seal_comes (hlaw : R.Lawful I) (hinv : s.Inv I) (run : ℕ) (memory : Bool) :
    ∃ r, sealCapture R run s = some r ∧ Comes R I bounded (.control (.sealUp run) memory) s r.1 := by
  rw [sealCapture]
  split_ifs with hopen
  · exact ⟨_, rfl, comes_idle hinv _⟩
  · cases hcapture : s.capture with
    | none => exact ⟨_, rfl, comes_idle hinv _⟩
    | some p =>
        obtain ⟨c, hc, hI⟩ := hinv.present p hcapture
        simp only [hc, Option.bind_eq_bind, Option.bind_some]
        split_ifs with hrefused
        · exact ⟨_, rfl, comes_idle hinv _⟩
        · have hsealable : (R.core c).sealable = true := by
            simpa using fun h => hrefused (Or.inr h)
          have hsurvives : Survives R c (R.sealUp c) := by
            refine ⟨?_, fun hsealed => ?_⟩
            · rw [hlaw.seal_core]
              exact Core.sealUp_errors
            · simp [Core.sealable, hsealed] at hsealable
          exact ⟨_, rfl, hinv.changed hcapture (hlaw.seal_inv hI) rfl hcapture.symm rfl,
            ⟨rfl, Nat.le_refl _⟩, .changed hcapture hc rfl hcapture.symm rfl hsurvives⟩

lemma drop_comes (hinv : s.Inv I) (memory : Bool)
    (hbusy : bounded = true → s.snapshotBusy = false) :
    Comes R I bounded (.control .off memory) s (dropCapture s).1 := by
  rw [dropCapture]
  split_ifs with hopen
  · exact comes_idle hinv _
  · generalize ht : ({ s with capture := none } : Store C E) = t
    have hheap : (t.free s.capture).heap = fun _ => none := by
      rw [← hinv.heap_free, ← ht]
      cases s.capture <;> rfl
    have hcapture : (t.free s.capture).capture = none := by rw [Store.free_capture, ← ht]
    have hrun : (t.free s.capture).lastRun = s.lastRun := by rw [Store.free_lastRun, ← ht]
    have hflag : (t.free s.capture).snapshotBusy = s.snapshotBusy := by
      rw [Store.free_snapshotBusy, ← ht]
    have hfresh : (t.free s.capture).fresh = s.fresh := by rw [Store.free_fresh, ← ht]
    exact ⟨.dropped hheap hcapture, ⟨hflag, Nat.le_of_eq hfresh.symm⟩,
      .dropped rfl hheap hcapture hrun hbusy⟩

/-- A control write dereferences only what is allocated, and frees only the capture that it
replaces or drops. -/
lemma control_total (hlaw : R.Lawful I) (hinv : s.Inv I) (command : Command) (memory : Bool) :
    ∃ s', R.step bounded (.control command memory) s = some s' ∧
      Comes R I bounded (.control command memory) s s' := by
  rw [Hooks.step, controlWrite.eq_def]
  split_ifs with hvalid hbounded
  · exact ⟨s, rfl, comes_idle hinv _⟩
  · exact ⟨s, rfl, comes_idle hinv _⟩
  have hbusy : bounded = true → s.snapshotBusy = false ∧
      (command.isArm = true → s.capture = none) := by
    rintro rfl
    simpa using hbounded
  cases command with
  | arm run pid =>
      refine ⟨_, rfl, arm_comes hlaw hinv run pid memory fun h => ?_⟩
      exact ⟨(hbusy h).1, (hbusy h).2 rfl⟩
  | sealUp run =>
      have hseal : ∃ r, sealCapture R run s = some r ∧
          Comes R I bounded (.control (.sealUp run) memory) s r.1 := seal_comes hlaw hinv run memory
      obtain ⟨r, hr, hcomes⟩ := hseal
      exact ⟨r.1, congrArg (Option.map Prod.fst) hr, hcomes⟩
  | off => exact ⟨_, rfl, drop_comes hinv memory fun h => (hbusy h).1⟩

/-- **Every event stays in range, and what it does to the captures is one of four things.** -/
theorem step_total (hlaw : R.Lawful I) (hinv : s.Inv I) (e : Event H) :
    ∃ s', R.step bounded e s = some s' ∧ Comes R I bounded e s s' := by
  cases e with
  | control command memory => exact control_total hlaw hinv command memory
  | hook h => exact hook_total hlaw hinv h

/-- The capture at an address is there still, or a control write replaced or dropped it. -/
def Lasts (R : Hooks C E H) (bounded : Bool) (events : List (Event H)) (s s' : Store C E) : Prop :=
  ∀ p c, s.heap p = some c → (∃ c', s'.heap p = some c' ∧ Survives R c c') ∨
    (s'.heap p = none ∧ ∃ pre command memory post t, events = pre ++ .control command memory :: post ∧
      (∀ run, command ≠ .sealUp run) ∧ R.run bounded pre s = some t ∧ t.capture = some p)

lemma run_nil : R.run bounded [] s = some s := rfl

lemma run_concat {events : List (Event H)} (h : R.run bounded events s = some s') :
    R.run bounded (events ++ [e]) s = R.step bounded e s' := by
  rw [Hooks.run, List.foldlM_append]
  rw [Hooks.run] at h
  rw [h]
  simp

/-- An address that has been used is not used again. -/
lemma Moved.none_of_none (h : Moved R bounded e s s') {p : ℕ} (hp : s.heap p = none)
    (hlt : p < s.fresh) : s'.heap p = none := by
  cases h with
  | idle hheap => rw [hheap, hp]
  | @changed q c c' hq hc hheap =>
      have hne : p ≠ q := by
        rintro rfl
        exact absurd (hc.symm.trans hp) (by simp)
      rw [hheap, Function.update_of_ne hne, hp]
  | dropped _ hheap => rw [hheap]
  | armed _ hheap => rw [hheap, Function.update_of_ne (by omega)]

/-- One more event, for a capture that is there. -/
lemma Moved.lasts (h : Moved R bounded e s s') (hinv : s.Inv I) {p : ℕ} {c : C}
    (hc : s.heap p = some c) : (∃ c', s'.heap p = some c' ∧ Survives R c c') ∨
      (s'.heap p = none ∧ s.capture = some p ∧ ∃ command memory, e = .control command memory ∧
        ∀ run, command ≠ .sealUp run) := by
  have hcurrent := hinv.current p c hc
  have hlt := hinv.lt_fresh hc
  cases h with
  | idle hheap => exact Or.inl ⟨c, by rw [hheap, hc], .refl c⟩
  | @changed q d c' hq hd hheap _ _ hc' =>
      obtain rfl : p = q := Option.some.inj (hcurrent.symm.trans hq)
      obtain rfl : c = d := Option.some.inj (hc.symm.trans hd)
      exact Or.inl ⟨c', by rw [hheap, Function.update_self], hc'⟩
  | dropped he hheap => exact Or.inr ⟨by rw [hheap], hcurrent, _, _, he, by simp⟩
  | armed he hheap =>
      refine Or.inr ⟨?_, hcurrent, _, _, he, by simp⟩
      rw [hheap, Function.update_of_ne (by omega)]

/-- **Every run stays in range; no error bit of a capture is cleared, and a sealed one does not
change, until a control write replaces or drops it.** -/
theorem Hooks.run_kept (hlaw : R.Lawful I) (hinv : s.Inv I) (events : List (Event H)) :
    ∃ s', R.run bounded events s = some s' ∧ s'.Inv I ∧ s.fresh ≤ s'.fresh ∧
      Lasts R bounded events s s' := by
  induction events using List.reverseRecOn with
  | nil => exact ⟨s, rfl, hinv, Nat.le_refl _, fun p c hc => Or.inl ⟨c, hc, .refl c⟩⟩
  | append_singleton events e ih =>
      obtain ⟨t, hrun, hinvt, hfresh, hlasts⟩ := ih
      have hnext : ∃ s', R.step bounded e t = some s' ∧ Comes R I bounded e t s' :=
        step_total hlaw hinvt e
      obtain ⟨s', hstep, hinv', ⟨_, hfresh'⟩, hmoved⟩ := hnext
      refine ⟨s', (run_concat hrun).trans hstep, hinv', Nat.le_trans hfresh hfresh', fun p c hc => ?_⟩
      rcases hlasts p c hc with ⟨c₁, hc₁, hsurvives⟩ | ⟨hnone, pre, command, memory, post, t', rfl, h⟩
      · rcases hmoved.lasts hinvt hc₁ with ⟨c', hc', hsurvives'⟩ |
          ⟨hnone, hcurrent, command, memory, rfl, hnot⟩
        · exact Or.inl ⟨c', hc', hsurvives.trans hsurvives'⟩
        · exact Or.inr ⟨hnone, events, command, memory, [], t, rfl, hnot, hrun, hcurrent⟩
      · have hlt := hinv.lt_fresh hc
        refine Or.inr ⟨hmoved.none_of_none hnone (by omega), pre, command, memory, post ++ [e], t', ?_, h⟩
        simp

/-- The same over any part of a run from no capture on. -/
theorem Hooks.run_lasts (hlaw : R.Lawful I) (bounded : Bool) (env : E)
    (events events' : List (Event H)) : ∃ s s', R.run bounded events { env } = some s ∧
      R.run bounded events' s = some s' ∧ Lasts R bounded events' s s' := by
  have hempty : ({ env } : Store C E).Inv I := .dropped rfl rfl
  have hfirst : ∃ s, R.run bounded events { env } = some s ∧ s.Inv I ∧ _ ∧ _ :=
    Hooks.run_kept hlaw hempty events
  obtain ⟨s, hrun, hinv, _⟩ := hfirst
  have hsecond : ∃ s', R.run bounded events' s = some s' ∧ s'.Inv I ∧ _ ∧ Lasts R bounded events' s s' :=
    Hooks.run_kept hlaw hinv events'
  obtain ⟨s', hrun', _, _, hlasts⟩ := hsecond
  exact ⟨s, s', hrun, hrun', hlasts⟩

end Kept

end OmarchyM1Video.Recorder
