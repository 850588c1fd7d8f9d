import OmarchyM1Video.Recorder.CmdtraceHooks

/-!
Snapshot readers that share the sealed capture: the storage that
`experiments/hevc-avd-command-trace/bounded.py` gives both recorders, with `snapshot_open` and
`snapshot_release` of `kernel/bounded-snapshot.h`.

A reader holds the address of the capture that it was opened on, and reads a row at a time.  Nothing
but the busy flag keeps the capture from being freed under it.

* `Pinned`, `PinEvent`, `Hooks.pinStep`: the recorder with its readers, each call one step;
* `Pinned.Inv`: at most one reader, on the current capture, which is sealed;
* `Hooks.pin_step`, `Hooks.pin_run`: every step and every run keeps it, and what a reader holds;
* `snapshots_pinned`: the two recorders pin their snapshots.
-/

namespace OmarchyM1Video.Recorder

open OmarchyM1Video.C

/-! ### The readers -/

/-- A recorder with its open snapshot files, each with the capture that it reads. -/
structure Pinned (C E : Type) where
  store : Store C E
  readers : List (ℕ × ℕ) := []

/-- A control write, a hook, or a call on a snapshot file; `memory` says whether `seq_open`
succeeds. -/
inductive PinEvent (H : Type) where
  | base (e : Event H)
  | openSnapshot (file : ℕ) (memory : Bool)
  | readRow (file row : ℕ)
  | release (file : ℕ)

section Steps

variable {C E H : Type} (R : Hooks C E H)

/-- The current capture, if it is sealed. -/
def sealedCapture (s : Store C E) : Option (Option ℕ) :=
  match s.capture with
  | none => some none
  | some p => do
      let c ← s.heap p
      return if (R.core c).phase = .sealed then some p else none

/-- `snapshot_open`. -/
def snapshotOpen (file : ℕ) (memory : Bool) (s : Pinned C E) : Option (Pinned C E) := do
  match ← sealedCapture R s.store with
  | none => return s
  | some p =>
      if s.store.snapshotBusy = false ∧ memory = true then
        return { store := { s.store with snapshotBusy := true }, readers := (file, p) :: s.readers }
      else return s

/-- `snapshot_seq_start`, `snapshot_row`: the capture is read at the address that the file holds. -/
def snapshotRead (file : ℕ) (s : Pinned C E) : Option (Pinned C E) :=
  match s.readers.find? fun r => r.1 = file with
  | none => some s
  | some r => do
      let _ ← s.store.heap r.2
      return s

/-- `snapshot_release`, of a file that is open. -/
def snapshotRelease (file : ℕ) (s : Pinned C E) : Pinned C E :=
  if s.readers.any (fun r => r.1 = file) then
    { store := { s.store with snapshotBusy := false }
      readers := s.readers.filter fun r => r.1 ≠ file }
  else s

namespace Hooks

/-- One call. -/
def pinStep (e : PinEvent H) (s : Pinned C E) : Option (Pinned C E) :=
  match e with
  | .base e => (R.step true e s.store).map fun store => { s with store }
  | .openSnapshot file memory => snapshotOpen R file memory s
  | .readRow file _ => snapshotRead file s
  | .release file => some (snapshotRelease file s)

/-- The calls one after the other. -/
def pinRun (events : List (PinEvent H)) (s : Pinned C E) : Option (Pinned C E) :=
  events.foldlM (fun s e => R.pinStep e s) s

end Hooks

end Steps

/-! ### What is kept -/

section Kept

variable {C E H : Type} {R : Hooks C E H} {I : C → Prop} {s s' s'' : Pinned C E} {e : PinEvent H}

/-- Readers and the busy flag: none and clear, or one on the sealed current capture and set. -/
inductive Reading (R : Hooks C E H) (s : Pinned C E) : Prop where
  | free (hreaders : s.readers = []) (hbusy : s.store.snapshotBusy = false)
  | held {file p c} (hreaders : s.readers = [(file, p)]) (hbusy : s.store.snapshotBusy = true)
      (hcapture : s.store.capture = some p) (hc : s.store.heap p = some c)
      (hsealed : (R.core c).phase = .sealed)

/-- The current capture is the one that is allocated, and a reader's is the current one. -/
structure Pinned.Inv (R : Hooks C E H) (I : C → Prop) (s : Pinned C E) : Prop where
  store : s.store.Inv I
  reading : Reading R s

/-- What a step leaves to the readers that are not released, and to the last run. -/
structure Holds (released : ℕ → Prop) (s s' : Pinned C E) : Prop where
  reader : ∀ r ∈ s.readers, ¬released r.1 → r ∈ s'.readers ∧ s'.store.heap r.2 = s.store.heap r.2
  lastRun : s.store.lastRun ≤ s'.store.lastRun

lemma Holds.refl (released : ℕ → Prop) (s : Pinned C E) : Holds released s s :=
  ⟨fun _ hr _ => ⟨hr, rfl⟩, Nat.le_refl _⟩

lemma Holds.trans {P Q : ℕ → Prop} (h : Holds P s s') (h' : Holds Q s' s'') :
    Holds (fun file => P file ∨ Q file) s s'' := by
  refine ⟨fun r hr hnot => ?_, Nat.le_trans h.lastRun h'.lastRun⟩
  rw [not_or] at hnot
  obtain ⟨hmem, hheap⟩ := h.reader r hr hnot.1
  obtain ⟨hmem', hheap'⟩ := h'.reader r hmem hnot.2
  exact ⟨hmem', hheap'.trans hheap⟩

/-- The file that a call releases. -/
def PinEvent.Releases (e : PinEvent H) (file : ℕ) : Prop := e = .release file

/-- A control write or a hook leaves a reader's capture where and as it is. -/
lemma pin_base (hlaw : R.Lawful I) (hinv : s.Inv R I) (e : Event H) :
    ∃ s', R.pinStep (.base e) s = some s' ∧ s'.Inv R I ∧ Holds (PinEvent.base e).Releases s s' := by
  have hnext : ∃ store', R.step true e s.store = some store' ∧ Comes R I true e s.store store' :=
    step_total hlaw hinv.store e
  obtain ⟨store', hstep, hinv', ⟨hflag, _⟩, hmoved⟩ := hnext
  refine ⟨{ s with store := store' }, by rw [Hooks.pinStep, hstep, Option.map_some], ?_⟩
  -- The capture of a reader is the current one, sealed, and the busy flag refuses the rest.
  have hheap : ∀ r ∈ s.readers, store'.heap r.2 = s.store.heap r.2 ∧ store'.capture = some r.2 := by
    intro r hr
    cases hinv.reading with
    | free hreaders =>
        rw [hreaders] at hr
        exact absurd hr (by simp)
    | @held file p c hreaders hbusy hcapture hc hsealed =>
        obtain rfl : r = (file, p) := by simpa [hreaders] using hr
        cases hmoved with
        | idle hheap hsame => exact ⟨by rw [hheap], by rw [hsame, hcapture]⟩
        | @changed q d c' hq hd hheap hsame _ hsurvives =>
            obtain rfl : p = q := Option.some.inj (hcapture.symm.trans hq)
            obtain rfl : c = d := Option.some.inj (hc.symm.trans hd)
            obtain rfl := hsurvives.sealed hsealed
            refine ⟨?_, by rw [hsame, hcapture]⟩
            rw [hheap, Function.update_self, hc]
        | dropped _ _ _ _ hclear => exact absurd (hbusy.symm.trans (hclear rfl)) (by decide)
        | armed _ _ _ _ _ hclear => exact absurd (hbusy.symm.trans (hclear rfl).1) (by decide)
  refine ⟨⟨hinv', ?_⟩, fun r hr _ => ⟨hr, (hheap r hr).1⟩, ?_⟩
  · cases hinv.reading with
    | free hreaders hbusy => exact .free hreaders (hflag.trans hbusy)
    | @held file p c hreaders hbusy hcapture hc hsealed =>
        obtain ⟨hsame, hcurrent⟩ := hheap (file, p) (by rw [hreaders]; exact List.mem_singleton_self _)
        exact .held hreaders (hflag.trans hbusy) hcurrent (hsame.trans hc) hsealed
  · cases hmoved with
    | idle _ _ hrun => exact Nat.le_of_eq hrun.symm
    | changed _ _ _ _ hrun => exact Nat.le_of_eq hrun.symm
    | dropped _ _ _ hrun => exact Nat.le_of_eq hrun.symm
    | armed _ _ _ hrun hlater => exact hrun ▸ Nat.le_of_lt hlater

/-- Whether the current capture is sealed is read from a capture that is allocated. -/
lemma sealedCapture_total (hinv : s.store.Inv I) : sealedCapture R s.store = some none ∨
    ∃ p c, sealedCapture R s.store = some (some p) ∧ s.store.capture = some p ∧
      s.store.heap p = some c ∧ (R.core c).phase = .sealed := by
  rw [sealedCapture]
  cases hcapture : s.store.capture with
  | none => exact Or.inl rfl
  | some p =>
      obtain ⟨c, hc, _⟩ := hinv.present p hcapture
      simp only [hc, Option.bind_eq_bind, Option.bind_some]
      split_ifs with hsealed
      · exact Or.inr ⟨p, c, rfl, rfl, hc, hsealed⟩
      · exact Or.inl rfl

/-- A snapshot is opened only on a sealed capture, and only if no other is open. -/
lemma pin_open (hinv : s.Inv R I) (file : ℕ) (memory : Bool) :
    ∃ s', R.pinStep (.openSnapshot file memory) s = some s' ∧ s'.Inv R I ∧
      Holds (PinEvent.openSnapshot (H := H) file memory).Releases s s' := by
  rw [Hooks.pinStep, snapshotOpen]
  rcases sealedCapture_total (R := R) hinv.store with hnone | ⟨p, c, hsome, hcapture, hc, hsealed⟩
  · rw [hnone]
    exact ⟨s, rfl, hinv, .refl _ s⟩
  · rw [hsome]
    simp only [Option.bind_eq_bind, Option.bind_some]
    split_ifs with hopen
    · have hreaders : s.readers = [] := by
        cases hinv.reading with
        | free hreaders => exact hreaders
        | held _ hbusy => exact absurd (hbusy.symm.trans hopen.1) (by decide)
      refine ⟨_, rfl, ⟨hinv.store.idle rfl rfl (Nat.le_refl _), ?_⟩, ?_, Nat.le_refl _⟩
      · exact .held (by rw [hreaders]) rfl hcapture hc hsealed
      · rw [hreaders]
        simp
    · exact ⟨s, rfl, hinv, .refl _ s⟩

/-- A reader reads a capture that is allocated. -/
lemma pin_read (hinv : s.Inv R I) (file row : ℕ) : R.pinStep (.readRow file row) s = some s := by
  rw [Hooks.pinStep, snapshotRead]
  cases hfind : s.readers.find? fun r => r.1 = file with
  | none => rfl
  | some r =>
      have hr := List.mem_of_find?_eq_some hfind
      cases hinv.reading with
      | free hreaders =>
          rw [hreaders] at hr
          exact absurd hr (by simp)
      | @held _ p c hreaders _ _ hc =>
          obtain rfl : r = _ := by simpa [hreaders] using hr
          simp [hc]

/-- A release takes the reader away, and no other. -/
lemma pin_release (hinv : s.Inv R I) (file : ℕ) :
    ∃ s', R.pinStep (.release file) s = some s' ∧ s'.Inv R I ∧
      Holds (PinEvent.release (H := H) file).Releases s s' := by
  refine ⟨_, rfl, ?_⟩
  rw [snapshotRelease]
  split_ifs with hany
  · refine ⟨⟨hinv.store.idle rfl rfl (Nat.le_refl _), .free ?_ rfl⟩, fun r hr hnot => ⟨?_, rfl⟩,
      Nat.le_refl _⟩
    · cases hinv.reading with
      | free hreaders => simp [hreaders]
      | held hreaders =>
          rw [hreaders] at hany
          simp only [List.any_cons, List.any_nil, Bool.or_false, decide_eq_true_eq] at hany
          simp [hreaders, hany]
    · refine List.mem_filter.mpr ⟨hr, ?_⟩
      have hne : r.1 ≠ file := fun heq => hnot (by rw [PinEvent.Releases, heq])
      simpa using hne
  · exact ⟨hinv, .refl _ s⟩

/-- **Every call keeps the reader's capture**, as long as the reader is not released. -/
theorem Hooks.pin_step (hlaw : R.Lawful I) (hinv : s.Inv R I) (e : PinEvent H) :
    ∃ s', R.pinStep e s = some s' ∧ s'.Inv R I ∧ Holds e.Releases s s' := by
  cases e with
  | base e => exact pin_base hlaw hinv e
  | openSnapshot file memory => exact pin_open hinv file memory
  | readRow file row => exact ⟨s, pin_read hinv file row, hinv, .refl _ s⟩
  | release file => exact pin_release hinv file

lemma pinRun_append {pre post : List (PinEvent H)} (h : R.pinRun pre s = some s') :
    R.pinRun (pre ++ post) s = R.pinRun post s' := by
  rw [Hooks.pinRun, List.foldlM_append]
  rw [Hooks.pinRun] at h
  rw [h]
  rfl

lemma pinRun_concat {events : List (PinEvent H)} (h : R.pinRun events s = some s') :
    R.pinRun (events ++ [e]) s = R.pinStep e s' := by
  rw [pinRun_append h, Hooks.pinRun, List.foldlM_cons]
  simp

/-- **Every run keeps the reader's capture**, as long as the reader is not released. -/
theorem Hooks.pin_run (hlaw : R.Lawful I) (hinv : s.Inv R I) (events : List (PinEvent H)) :
    ∃ s', R.pinRun events s = some s' ∧ s'.Inv R I ∧ Holds (fun file => .release file ∈ events) s s' := by
  induction events using List.reverseRecOn with
  | nil => exact ⟨s, rfl, hinv, .refl _ s⟩
  | append_singleton events e ih =>
      obtain ⟨t, hrun, hinvt, hholds⟩ := ih
      obtain ⟨s', hstep, hinv', hholds'⟩ := Hooks.pin_step hlaw hinvt e
      refine ⟨s', (pinRun_concat hrun).trans hstep, hinv', fun r hr hnot => ?_, ?_⟩
      · refine (hholds.trans hholds').reader r hr fun h => hnot ?_
        rcases h with h | h
        · exact List.mem_append_left _ h
        · rw [PinEvent.Releases] at h
          exact List.mem_append_right _ (by rw [h]; exact List.mem_singleton_self _)
      · exact Nat.le_trans hholds.lastRun hholds'.lastRun

/-- An arm that is accepted raises the last run, and in the bounded recorder finds no capture. -/
lemma arm_accepted {run pid : ℕ} {memory : Bool} {t t' : Store C E}
    (h : controlWrite R true (.arm run pid) memory t = some (t', .ok ())) :
    t.capture = none ∧ t.lastRun < run ∧ t'.lastRun = run := by
  rw [controlWrite] at h
  split_ifs at h with hvalid hbounded
  · simp at h
  · simp at h
  have hcapture : t.capture = none := by
    simp only [Command.isArm, true_and] at hbounded
    cases hc : t.capture with
    | none => rfl
    | some p => simp [hc] at hbounded
  rw [armCapture] at h
  split_ifs at h with hmemory hrefused
  · simp at h
  · refine ⟨hcapture, Nat.lt_of_not_le fun hle => hrefused (Or.inr hle), ?_⟩
    simp only [Option.some.injEq, Prod.mk.injEq] at h
    obtain ⟨rfl, _⟩ := h
    exact Store.free_lastRun _ _
  · simp at h

/-- A run number that an arm was accepted with. -/
def ArmedWith (R : Hooks C E H) (env : E) (events : List (PinEvent H)) (run : ℕ) : Prop :=
  ∃ pre pid memory post t store', events = pre ++ .base (.control (.arm run pid) memory) :: post ∧
    R.pinRun pre { store := { env } } = some t ∧
    controlWrite R true (.arm run pid) memory t.store = some (store', .ok ())

/-- **Snapshots are pinned**: at most one reader; its capture is the current one, is sealed, and is
neither freed nor changed until it is released; an arm succeeds only with a later run than every
one before, and with no capture. -/
def Pins (R : Hooks C E H) (env : E) : Prop :=
  ∀ events : List (PinEvent H), ∃ s, R.pinRun events { store := { env } } = some s ∧
    s.readers.length ≤ 1 ∧
    (∀ r ∈ s.readers, ∃ c, s.store.capture = some r.2 ∧ s.store.heap r.2 = some c ∧
      (R.core c).phase = .sealed ∧
      ∀ events', .release r.1 ∉ events' → ∃ s', R.pinRun events' s = some s' ∧ r ∈ s'.readers ∧
        s'.store.capture = some r.2 ∧ s'.store.heap r.2 = some c) ∧
    ∀ run pid memory store', controlWrite R true (.arm run pid) memory s.store =
      some (store', .ok ()) → s.store.capture = none ∧ ∀ run', ArmedWith R env events run' → run' < run

/-- What the invariant says of a reader. -/
lemma Pinned.Inv.held (hinv : s.Inv R I) {r : ℕ × ℕ} (hr : r ∈ s.readers) :
    ∃ c, s.store.capture = some r.2 ∧ s.store.heap r.2 = some c ∧ (R.core c).phase = .sealed := by
  cases hinv.reading with
  | free hreaders =>
      rw [hreaders] at hr
      exact absurd hr (by simp)
  | @held file p c hreaders _ hcapture hc hsealed =>
      obtain rfl : r = (file, p) := by simpa [hreaders] using hr
      exact ⟨c, hcapture, hc, hsealed⟩

/-- A run that was armed is not later than the last run. -/
lemma ArmedWith.le_lastRun (hlaw : R.Lawful I) {env : E} {events : List (PinEvent H)} {run : ℕ}
    (h : ArmedWith R env events run) (hrun : R.pinRun events { store := { env } } = some s) :
    run ≤ s.store.lastRun := by
  obtain ⟨pre, pid, memory, post, t, store', rfl, hpre, hwrite⟩ := h
  have hfirst := Hooks.pin_run hlaw (s := { store := { env } }) ⟨.dropped rfl rfl, .free rfl rfl⟩ pre
  obtain ⟨t', ht', hinvt, _⟩ := hfirst
  obtain rfl : t = t' := Option.some.inj (hpre.symm.trans ht')
  obtain ⟨u, hu, hinvu, _⟩ := Hooks.pin_step hlaw hinvt (.base (.control (.arm run pid) memory))
  obtain rfl : u = { t with store := store' } := by
    simpa [Hooks.pinStep, Hooks.step, hwrite] using hu.symm
  -- The rest of the run only raises it.
  obtain ⟨v, hv, _, hholds⟩ := Hooks.pin_run hlaw hinvu post
  have hrest : R.pinRun (pre ++ .base (.control (.arm run pid) memory) :: post)
      { store := { env } } = some v := by
    rw [pinRun_append hpre, Hooks.pinRun, List.foldlM_cons, hu]
    exact hv
  obtain rfl : s = v := Option.some.inj (hrun.symm.trans hrest)
  have hraised := (arm_accepted hwrite).2.2
  exact hraised ▸ hholds.lastRun

/-- A recorder whose hooks are lawful pins its snapshots. -/
theorem Hooks.pins (hlaw : R.Lawful I) (env : E) : Pins R env := by
  intro events
  have hfirst := Hooks.pin_run hlaw (s := { store := { env } }) ⟨.dropped rfl rfl, .free rfl rfl⟩
    events
  obtain ⟨s, hrun, hinv, _⟩ := hfirst
  refine ⟨s, hrun, ?_, fun r hr => ?_, fun run pid memory store' hwrite => ?_⟩
  · cases hinv.reading with
    | free hreaders => simp [hreaders]
    | held hreaders => simp [hreaders]
  · obtain ⟨c, hcapture, hc, hsealed⟩ := hinv.held hr
    refine ⟨c, hcapture, hc, hsealed, fun events' hnot => ?_⟩
    obtain ⟨s', hrun', hinv', hholds⟩ := Hooks.pin_run hlaw hinv events'
    obtain ⟨hr', hheap⟩ := hholds.reader r hr hnot
    obtain ⟨_, hcapture', _⟩ := hinv'.held hr'
    exact ⟨s', hrun', hr', hcapture', hheap.trans hc⟩
  · obtain ⟨hcapture, hlater, _⟩ := arm_accepted hwrite
    exact ⟨hcapture, fun run' harmed => Nat.lt_of_le_of_lt (harmed.le_lastRun hlaw hrun) hlater⟩

end Kept

/-- **Both recorders pin their snapshots.** -/
theorem snapshots_pinned : Pins traceHooks {} ∧ Pins cmdtraceHooks () :=
  ⟨Hooks.pins traceHooks_lawful {}, Hooks.pins cmdtraceHooks_lawful ()⟩

end OmarchyM1Video.Recorder
