import Mathlib.Data.Int.Notation
import Mathlib.Data.Nat.Notation
import OmarchyM1Video.Py.Dict
import OmarchyM1Video.Py.Exec

/-!
The queue that stands for a client: `FakeQueue` of `synthetic_queue.py`.

Every method holds the lock of the queue, so a call of one is a step; `drain` gives the lock away
while it waits, and each of its turns is one.  An identity is a dictionary with the seven keys of a
writer's record: `pin` refuses any other as it refuses a stale one.

* `Queue`, `allocate`, …, `stop`: the queue and its methods;
* `Method`, `Method.after`: a call of any thread, and the queue after it;
* `Change`, `change_of_after`: what a call can do;
* `Sound`: what is true of every pin and of every job, and `Change.sound`;
* `Change.pins`, `Change.data`, `Change.inflight`: a pin does not come back, the bytes under a pin do
  not change, and no job is added while the queue is paused;
* `calls`, `pin_holds`: over all calls of all threads, a pin holds its bytes and its writer.
-/

namespace OmarchyM1Video.ReferenceContent.FakeQueue

open OmarchyM1Video.Py

/-! ### The queue -/

/-- The record of a writer. -/
structure Identity where
  run : String
  context : String
  allocation : ℤ
  generation : ℤ
  writerJob : ℕ
  picture : ℤ
  poc : ℤ
  deriving DecidableEq

/-- An allocation. -/
structure Allocation where
  generation : ℤ
  data : List UInt8
  policy : String
  writer : Option Identity

/-- A job: the picture and its count if it is a writer. -/
structure Job where
  allocation : ℤ
  generation : ℤ
  writer : Option (ℤ × ℤ)

/-- `FakeQueue`. -/
structure Queue where
  run : String
  context : String
  client : String
  paused : Bool
  closed : Bool
  allocations : Dict ℤ Allocation
  inflight : Dict ℕ Job
  completed : Dict ℕ Job
  pins : Dict ℕ Identity
  nextJob : ℕ
  nextPin : ℕ

/-- `FakeQueue(run, context, client=client)`. -/
def Queue.new (run context client : String) : Queue :=
  { run, context, client, paused := false, closed := false, allocations := ∅, inflight := ∅,
    completed := ∅, pins := ∅, nextJob := 1, nextPin := 1 }

/-- What a method computes. -/
abbrev Op (α : Type) := EStateM (Exc String) Queue α

/-- `any(p['allocation'] == allocation for p in self.pins.values())`. -/
def Queue.pinned (q : Queue) (allocation : ℤ) : Bool :=
  q.pins.values.any fun p => decide (p.allocation = allocation)

/-- `any(j['allocation'] == allocation for j in self.inflight.values())`. -/
def Queue.busy (q : Queue) (allocation : ℤ) : Bool :=
  q.inflight.values.any fun j => decide (j.allocation = allocation)

/-- `any(j['allocation'] == allocation and j['writer'] is not None for j in …)`. -/
def Queue.writing (q : Queue) (allocation : ℤ) : Bool :=
  q.inflight.values.any fun j => decide (j.allocation = allocation) && j.writer.isSome

/-- `_live`. -/
def live : Op Unit := do
  let q ← get
  raiseIf (q.closed = true ∨ q.client ≠ "self") (.raise "closed/foreign client")

/-- `allocate`. -/
def allocate (allocation generation : ℤ) (data : List UInt8) (policy : String) : Op Unit := do
  live
  let q ← get
  raiseIf (q.paused = true ∨ q.allocations.contains allocation = true ∨
      8 ≤ q.allocations.keys.length ∨ allocation < 0 ∨ generation < 0 ∨ (data.length ≠ 345600 ∧ data.length ≠ 368128))
    (.raise "allocation bounds/identity")
  let a : Allocation := { generation, data, policy, writer := none }
  set { q with allocations := q.allocations.set allocation a }

/-- `release`. -/
def release (allocation : ℤ) : Op Unit := do
  let q ← get
  raiseIf (q.pinned allocation = true ∨ q.busy allocation = true)
    (.raise "retained/inflight allocation")
  raiseIf (q.allocations.contains allocation = false) (.builtin .keyError)
  set { q with allocations := q.allocations.erase allocation }

/-- `submit`. -/
def submit (allocation generation : ℤ) (writer : Option (ℤ × ℤ)) : Op ℕ := do
  live
  let q ← get
  raiseIf (q.paused = true) (.raise "paused")
  raiseIf ((q.allocations.get? allocation).all (fun a => decide (a.generation ≠ generation)) = true)
    (.raise "stale allocation")
  raiseIf (writer.isSome = true ∧ q.pinned allocation = true) (.raise "retained writer")
  raiseIf (128 ≤ q.inflight.keys.length + q.completed.keys.length) (.raise "job budget")
  set { q with nextJob := q.nextJob + 1
               inflight := q.inflight.set q.nextJob { allocation, generation, writer } }
  return q.nextJob

/-- The record of the writer that is complete. -/
def Queue.recordOf (q : Queue) (job : ℕ) (item : Job) (picture poc : ℤ) : Identity :=
  { run := q.run, context := q.context, allocation := item.allocation
    generation := item.generation, writerJob := job, picture, poc }

/-- `complete`. -/
def complete (job : ℕ) : Op Unit := do
  live
  let q ← get
  let item ← orRaise (q.inflight.get? job) (.builtin .keyError)
  let q : Queue := { q with inflight := q.inflight.erase job }
  set q
  let a ← orRaise (q.allocations.get? item.allocation) (.builtin .keyError)
  match item.writer with
  | none => set { q with completed := q.completed.set job item }
  | some (picture, poc) => do
      raiseIf (q.pinned item.allocation = true) (.raise "writer changed while retained")
      let a : Allocation := { a with writer := some (q.recordOf job item picture poc) }
      set { q with allocations := q.allocations.set item.allocation a
                   completed := q.completed.set job item }

/-- `writer_record`. -/
def writerRecord (allocation : ℤ) : Op Identity := do
  let q ← get
  let a ← orRaise (q.allocations.get? allocation) (.builtin .keyError)
  orRaise a.writer (.raise "writer incomplete")

/-- The identity is that of the writer that is complete. -/
def Queue.Current (q : Queue) (identity : Identity) (a : Allocation) : Prop :=
  a.writer = some identity ∧ identity.run = q.run ∧ identity.context = q.context ∧
    q.completed.contains identity.writerJob = true

instance (q : Queue) (identity : Identity) (a : Allocation) : Decidable (q.Current identity a) :=
  inferInstanceAs (Decidable (_ ∧ _ ∧ _ ∧ _))

/-- `pin`: the token, and the bytes that are read. -/
def pin (identity : Identity) (length : ℤ) : Op (ℕ × List UInt8) := do
  live
  let q ← get
  let a ← orRaise (q.allocations.get? identity.allocation)
    (.raise "stale/incomplete writer identity")
  raiseIf (¬q.Current identity a ∨ q.writing identity.allocation = true)
    (.raise "stale/incomplete writer identity")
  raiseIf (a.policy ≠ "coherent-model" ∨ (a.data.length : ℤ) ≠ length ∨ 8 ≤ q.pins.keys.length)
    (.raise "unsupported exporter/plane/pin budget")
  set { q with nextPin := q.nextPin + 1, pins := q.pins.set q.nextPin identity }
  return (q.nextPin, a.data)

/-- `unpin`. -/
def unpin (token : ℕ) : Op Unit :=
  modify fun q => { q with pins := q.pins.erase token }

/-- `pause`. -/
def pause : Op Unit := do
  live
  let q ← get
  raiseIf (q.paused = true) (.raise "already paused")
  set { q with paused := true }

/-- A turn of the loop of `drain`: whether it ends; `late` when no time remains. -/
def drainTurn (late : Bool) : Op Bool := do
  let q ← get
  if q.inflight.isEmpty = true then return true
  else do
    raiseIf (late = true) (.raise "drain deadline/active job")
    return false

/-- `drain`, up to its first wait. -/
def drain (late : Bool) : Op Bool := do
  live
  let q ← get
  raiseIf (q.paused = false) (.raise "drain without pause")
  drainTurn late

/-- `drain`, after a wait. -/
def drainWoken (late : Bool) : Op Bool := do
  live
  drainTurn late

/-- `validate`. -/
def validate (token : ℕ) (identity : Identity) : Op Unit := do
  live
  let q ← get
  raiseIf (q.paused = false ∨ q.inflight.isEmpty = false ∨ q.pins.get? token ≠ some identity ∨
      (q.allocations.get? identity.allocation).all (fun a => decide (¬q.Current identity a ∨
        a.generation ≠ identity.generation ∨ a.policy ≠ "coherent-model")) = true)
    (.raise "lost retention/quiescence/identity")

/-- `resume`. -/
def resume : Op Unit := do
  live
  modify fun q => { q with paused := false }

/-- `stop`. -/
def stop : Op Unit :=
  modify fun q => { q with closed := true, paused := false }

/-! ### Calls -/

/-- The queue after a method, with its result or with an exception. -/
def after {α : Type} (x : Op α) (q : Queue) : Queue :=
  match x q with
  | .ok _ q' => q'
  | .error _ q' => q'

/-- A call of a method. -/
inductive Method where
  | allocate (allocation generation : ℤ) (data : List UInt8) (policy : String)
  | release (allocation : ℤ)
  | submit (allocation generation : ℤ) (writer : Option (ℤ × ℤ))
  | complete (job : ℕ)
  | writerRecord (allocation : ℤ)
  | pin (identity : Identity) (length : ℤ)
  | unpin (token : ℕ)
  | pause
  | drain (late : Bool)
  | drainWoken (late : Bool)
  | validate (token : ℕ) (identity : Identity)
  | resume
  | stop

/-- The queue after a call. -/
def Method.after (q : Queue) : Method → Queue
  | .allocate allocation generation data policy =>
      FakeQueue.after (FakeQueue.allocate allocation generation data policy) q
  | .release allocation => FakeQueue.after (FakeQueue.release allocation) q
  | .submit allocation generation writer =>
      FakeQueue.after (FakeQueue.submit allocation generation writer) q
  | .complete job => FakeQueue.after (FakeQueue.complete job) q
  | .writerRecord allocation => FakeQueue.after (FakeQueue.writerRecord allocation) q
  | .pin identity length => FakeQueue.after (FakeQueue.pin identity length) q
  | .unpin token => FakeQueue.after (FakeQueue.unpin token) q
  | .pause => FakeQueue.after FakeQueue.pause q
  | .drain late => FakeQueue.after (FakeQueue.drain late) q
  | .drainWoken late => FakeQueue.after (FakeQueue.drainWoken late) q
  | .validate token identity => FakeQueue.after (FakeQueue.validate token identity) q
  | .resume => FakeQueue.after FakeQueue.resume q
  | .stop => FakeQueue.after FakeQueue.stop q

/-! ### What a call can do -/

/-- What a call can do to the queue. -/
inductive Change (q : Queue) : Queue → Prop
  | same : Change q q
  | allocated (allocation : ℤ) (a : Allocation) (hnew : q.allocations.contains allocation = false)
      (hwriter : a.writer = none) :
      Change q { q with allocations := q.allocations.set allocation a }
  | released (allocation : ℤ) (hpinned : q.pinned allocation = false)
      (hbusy : q.busy allocation = false) :
      Change q { q with allocations := q.allocations.erase allocation }
  | submitted (item : Job) (hpaused : q.paused = false)
      (hlive : q.allocations.contains item.allocation = true)
      (hwriter : item.writer.isSome = true → q.pinned item.allocation = false) :
      Change q { q with nextJob := q.nextJob + 1, inflight := q.inflight.set q.nextJob item }
  | dropped (job : ℕ) : Change q { q with inflight := q.inflight.erase job }
  | finished (job : ℕ) (item : Job) :
      Change q { q with inflight := q.inflight.erase job, completed := q.completed.set job item }
  | wrote (job : ℕ) (item : Job) (a : Allocation) (identity : Identity)
      (hget : q.allocations.get? item.allocation = some a)
      (hpinned : q.pinned item.allocation = false) :
      Change q { q with
        inflight := q.inflight.erase job
        allocations := q.allocations.set item.allocation { a with writer := some identity }
        completed := q.completed.set job item }
  | pinned (identity : Identity) (a : Allocation)
      (hget : q.allocations.get? identity.allocation = some a) (hwriter : a.writer = some identity)
      (hwriting : q.writing identity.allocation = false) :
      Change q { q with nextPin := q.nextPin + 1, pins := q.pins.set q.nextPin identity }
  | unpinned (token : ℕ) : Change q { q with pins := q.pins.erase token }
  | paused : Change q { q with paused := true }
  | resumed : Change q { q with paused := false }
  | stopped : Change q { q with closed := true, paused := false }

section Calls

variable {α : Type} {q q' : Queue} {e : Exc String} {x : Op α} {a : α} {u : Unit} {late done : Bool}
  {token job : ℕ} {identity : Identity} {length : ℤ} {data : List UInt8} {allocation generation : ℤ}
  {policy : String} {writer : Option (ℤ × ℤ)}

/-! The queue after the parts of a method. -/

@[simp] lemma after_pure : after (pure a : Op α) q = q := rfl

@[simp] lemma after_set : after (set q' : Op PUnit) q = q' := rfl

@[simp] lemma after_modify {g : Queue → Queue} : after (modify g : Op PUnit) q = g q := rfl

@[simp] lemma after_get_bind {f : Queue → Op α} : after (get >>= f) q = after (f q) q := rfl

@[simp] lemma after_set_bind {f : PUnit → Op α} : after (set q' >>= f) q = after (f ⟨⟩) q' := rfl

lemma set_bind {f : PUnit → Op α} : (set q' >>= f) q = f ⟨⟩ q' := rfl

lemma raiseIf_bind {c : Prop} [Decidable c] {f : Unit → Op α} :
    (raiseIf c e >>= f) q = if c then .error e q else f () q := by
  by_cases h : c
  · rw [if_pos h, raiseIf, if_pos h]
    rfl
  · rw [if_neg h, raiseIf, if_neg h]
    rfl

lemma orRaise_some_bind {β : Type} {f : α → Op β} : (orRaise (some a) e >>= f) q = f a q := rfl

lemma orRaise_none_bind {β : Type} {f : α → Op β} :
    (orRaise (none : Option α) e >>= f) q = .error e q := rfl

lemma live_bind {f : Unit → Op α} : (live >>= f) q =
    if q.closed = true ∨ q.client ≠ "self" then .error (.raise "closed/foreign client") q
    else f () q := by
  rw [live, bind_assoc, get_bind, raiseIf_bind]

@[simp] lemma after_raiseIf {c : Prop} [Decidable c] :
    after (raiseIf c e) q = q := by
  rw [FakeQueue.after]
  by_cases h : c <;> simp [raiseIf, h]

lemma after_raiseIf_bind {c : Prop} [Decidable c] {f : Unit → Op α} :
    after (raiseIf c e >>= f) q = if c then q else after (f ()) q := by
  rw [FakeQueue.after, raiseIf_bind]
  split_ifs <;> rfl

lemma after_orRaise {o : Option α} : after (orRaise o e) q = q := by
  cases o <;> rfl

lemma after_orRaise_some {β : Type} {f : α → Op β} :
    after (orRaise (some a) e >>= f) q = after (f a) q := rfl

lemma after_live_bind {f : Unit → Op α} :
    after (live >>= f) q = if q.closed = true ∨ q.client ≠ "self" then q else after (f ()) q := by
  rw [FakeQueue.after, live_bind]
  split_ifs <;> rfl

/-! ### The methods -/

lemma Change.of_after (h : after x q = q) : Change q (after x q) := by
  rw [h]
  exact .same

lemma change_allocate : Change q (after (allocate allocation generation data policy) q) := by
  simp only [allocate, after_live_bind, after_get_bind, after_raiseIf_bind, after_set]
  split_ifs with hdead hbounds
  · exact .same
  · exact .same
  · simp only [not_or] at hbounds
    exact .allocated _ _ (Bool.eq_false_iff.mpr hbounds.2.1) rfl

lemma change_release : Change q (after (release allocation) q) := by
  simp only [release, after_get_bind, after_raiseIf_bind, after_set]
  split_ifs with hheld
  · exact .same
  · exact .same
  · rw [not_or] at hheld
    exact .released _ (Bool.eq_false_iff.mpr hheld.1) (Bool.eq_false_iff.mpr hheld.2)

lemma change_submit : Change q (after (submit allocation generation writer) q) := by
  simp only [submit, after_live_bind, after_get_bind, after_raiseIf_bind, after_set_bind,
    after_pure]
  split_ifs with hdead hpaused hstale hretained hbudget
  all_goals try exact .same
  have hlive : q.allocations.contains allocation = true := by
    rw [Dict.contains, Option.isSome_iff_ne_none]
    intro hnone
    rw [hnone] at hstale
    exact hstale rfl
  refine .submitted _ (Bool.eq_false_iff.mpr hpaused) hlive fun hwriter => ?_
  exact Bool.eq_false_iff.mpr fun hpinned => hretained ⟨hwriter, hpinned⟩

lemma change_complete : Change q (after (complete job) q) := by
  simp only [complete, after_live_bind, after_get_bind]
  split_ifs with hdead
  · exact .same
  · cases hitem : q.inflight.get? job with
    | none => exact .same
    | some item =>
        rw [after_orRaise_some, after_set_bind]
        cases ha : q.allocations.get? item.allocation with
        | none => exact .dropped job
        | some a =>
            rw [after_orRaise_some]
            cases hwriter : item.writer with
            | none => exact .finished job item
            | some p =>
                obtain ⟨picture, poc⟩ := p
                dsimp only
                rw [after_raiseIf_bind, after_set]
                split_ifs with hpinned
                · exact .dropped job
                · exact .wrote job item a _ ha (Bool.eq_false_iff.mpr hpinned)

lemma change_writerRecord : Change q (after (writerRecord allocation) q) := by
  simp only [writerRecord, after_get_bind]
  cases q.allocations.get? allocation with
  | none => exact .same
  | some a =>
      rw [after_orRaise_some, after_orRaise]
      exact .same

lemma change_pin : Change q (after (pin identity length) q) := by
  simp only [pin, after_live_bind, after_get_bind]
  split_ifs with hdead
  · exact .same
  · cases ha : q.allocations.get? identity.allocation with
    | none => exact .same
    | some a =>
        rw [after_orRaise_some, after_raiseIf_bind, after_raiseIf_bind, after_set_bind, after_pure]
        split_ifs with hstale hbudget
        · exact .same
        · exact .same
        · rw [not_or, not_not] at hstale
          exact .pinned identity a ha hstale.1.1 (Bool.eq_false_iff.mpr hstale.2)

lemma after_drainTurn : after (drainTurn late) q = q := by
  rw [drainTurn, after_get_bind]
  split_ifs
  · rfl
  · rw [after_raiseIf_bind, after_pure, ite_self]

lemma after_drain : after (drain late) q = q := by
  simp only [drain, after_live_bind, after_get_bind, after_raiseIf_bind, after_drainTurn, ite_self]

lemma after_drainWoken : after (drainWoken late) q = q := by
  simp only [drainWoken, after_live_bind, after_drainTurn, ite_self]

lemma after_validate : after (validate token identity) q = q := by
  simp only [validate, after_live_bind, after_get_bind, after_raiseIf, ite_self]

lemma change_pause : Change q (after pause q) := by
  simp only [pause, after_live_bind, after_get_bind, after_raiseIf_bind, after_set]
  split_ifs
  · exact .same
  · exact .same
  · exact .paused

lemma change_resume : Change q (after resume q) := by
  simp only [resume, after_live_bind, after_modify]
  split_ifs
  · exact .same
  · exact .resumed

lemma change_stop : Change q (after stop q) := .stopped

lemma change_unpin : Change q (after (unpin token) q) := .unpinned token

/-- **What a call does** is one of the changes. -/
theorem change_method (m : Method) : Change q (m.after q) := by
  cases m with
  | allocate => exact change_allocate
  | release => exact change_release
  | submit => exact change_submit
  | complete => exact change_complete
  | writerRecord => exact change_writerRecord
  | pin => exact change_pin
  | unpin => exact change_unpin
  | pause => exact change_pause
  | drain => exact .of_after after_drain
  | drainWoken => exact .of_after after_drainWoken
  | validate => exact .of_after after_validate
  | resume => exact change_resume
  | stop => exact change_stop

end Calls

/-! ### What stays true -/

section Sound

variable {q q' : Queue} {allocation : ℤ} {token job : ℕ} {identity : Identity} {item : Job}
  {e : Exc String}

lemma any_values_iff {κ α : Type} [DecidableEq κ] {d : Dict κ α} {p : α → Bool} :
    d.values.any p = true ↔ ∃ k v, d.get? k = some v ∧ p v = true := by
  simp only [Dict.values, List.any_eq_true, List.mem_map, Prod.exists, Dict.mem_entries_iff]
  constructor
  · rintro ⟨v, ⟨k, _, hget, rfl⟩, hv⟩
    exact ⟨k, _, hget, hv⟩
  · rintro ⟨k, v, hget, hv⟩
    exact ⟨v, ⟨k, v, hget, rfl⟩, hv⟩

lemma not_pinned (h : q.pinned allocation = false) (hpin : q.pins.get? token = some identity) :
    identity.allocation ≠ allocation := fun heq =>
  Bool.eq_false_iff.mp h (any_values_iff.mpr ⟨token, identity, hpin, decide_eq_true heq⟩)

lemma not_busy (h : q.busy allocation = false) (hjob : q.inflight.get? job = some item) :
    item.allocation ≠ allocation := fun heq =>
  Bool.eq_false_iff.mp h (any_values_iff.mpr ⟨job, item, hjob, decide_eq_true heq⟩)

lemma not_writing (h : q.writing allocation = false) (hjob : q.inflight.get? job = some item)
    (heq : item.allocation = allocation) : item.writer = none := by
  by_contra hwriter
  rw [← ne_eq, Option.ne_none_iff_isSome] at hwriter
  refine Bool.eq_false_iff.mp h (any_values_iff.mpr ⟨job, item, hjob, ?_⟩)
  rw [heq, hwriter, decide_eq_true rfl]
  rfl

/-- What is true of the pins and of the jobs: an allocation that is pinned has the writer that was
pinned and no other on its way, and a job has its allocation. -/
structure Sound (q : Queue) : Prop where
  pins : ∀ t identity, q.pins.get? t = some identity →
    ∃ a, q.allocations.get? identity.allocation = some a ∧ a.writer = some identity
  quiet : ∀ t identity, q.pins.get? t = some identity → ∀ job item,
    q.inflight.get? job = some item → item.allocation = identity.allocation → item.writer = none
  jobs : ∀ job item, q.inflight.get? job = some item →
    ∃ a, q.allocations.get? item.allocation = some a
  tokens : ∀ t identity, q.pins.get? t = some identity → t < q.nextPin

lemma sound_new (run context client : String) : Sound (Queue.new run context client) where
  pins _ _ h := absurd h (by simp [Queue.new])
  quiet _ _ h := absurd h (by simp [Queue.new])
  jobs _ _ h := absurd h (by simp [Queue.new])
  tokens _ _ h := absurd h (by simp [Queue.new])

/-- A job that is gone changes nothing. -/
lemma of_erase {job' : ℕ} (h : (q.inflight.erase job).get? job' = some item) :
    q.inflight.get? job' = some item := by
  rw [Dict.get?_erase] at h
  split_ifs at h
  exact h

/-- **The pins and the jobs stay sound.** -/
theorem Change.sound (h : Change q q') (hq : Sound q) : Sound q' := by
  cases h with
  | same => exact hq
  | paused => exact ⟨hq.pins, hq.quiet, hq.jobs, hq.tokens⟩
  | resumed => exact ⟨hq.pins, hq.quiet, hq.jobs, hq.tokens⟩
  | stopped => exact ⟨hq.pins, hq.quiet, hq.jobs, hq.tokens⟩
  | allocated allocation a hnew hwriter =>
      have hget : ∀ k b, q.allocations.get? k = some b →
          (q.allocations.set allocation a).get? k = some b := fun k b hb => by
        rw [Dict.get?_set, if_neg, hb]
        rintro rfl
        rw [Dict.not_contains_iff.mp hnew] at hb
        exact absurd hb (by simp)
      refine ⟨fun t identity ht => ?_, hq.quiet, fun job item hjob => ?_, hq.tokens⟩
      · obtain ⟨b, hb, hw⟩ := hq.pins t identity ht
        exact ⟨b, hget _ b hb, hw⟩
      · obtain ⟨b, hb⟩ := hq.jobs job item hjob
        exact ⟨b, hget _ b hb⟩
  | released allocation hpinned hbusy =>
      refine ⟨fun t identity ht => ?_, hq.quiet, fun job item hjob => ?_, hq.tokens⟩
      · obtain ⟨b, hb, hw⟩ := hq.pins t identity ht
        exact ⟨b, by rw [Dict.get?_erase, if_neg (not_pinned hpinned ht), hb], hw⟩
      · obtain ⟨b, hb⟩ := hq.jobs job item hjob
        exact ⟨b, by rw [Dict.get?_erase, if_neg (not_busy hbusy hjob), hb]⟩
  | submitted item hpaused hlive hwriter =>
      refine ⟨hq.pins, fun t identity ht job item' hjob heq => ?_, fun job item' hjob => ?_,
        hq.tokens⟩
      · rw [Dict.get?_set] at hjob
        split_ifs at hjob
        · obtain rfl := Option.some.inj hjob
          by_contra hsome
          rw [← ne_eq, Option.ne_none_iff_isSome] at hsome
          exact not_pinned (hwriter hsome) ht heq.symm
        · exact hq.quiet t identity ht job item' hjob heq
      · rw [Dict.get?_set] at hjob
        split_ifs at hjob
        · obtain rfl := Option.some.inj hjob
          exact Dict.contains_iff.mp hlive
        · exact hq.jobs job item' hjob
  | dropped job =>
      exact ⟨hq.pins, fun t identity ht job' item hjob =>
          hq.quiet t identity ht job' item (of_erase hjob),
        fun job' item hjob => hq.jobs job' item (of_erase hjob), hq.tokens⟩
  | finished job item =>
      exact ⟨hq.pins, fun t identity ht job' item hjob =>
          hq.quiet t identity ht job' item (of_erase hjob),
        fun job' item hjob => hq.jobs job' item (of_erase hjob), hq.tokens⟩
  | wrote job item a identity hget hpinned =>
      refine ⟨fun t identity' ht => ?_, fun t identity ht job' item hjob =>
        hq.quiet t identity ht job' item (of_erase hjob), fun job' item' hjob => ?_, hq.tokens⟩
      · obtain ⟨b, hb, hw⟩ := hq.pins t identity' ht
        exact ⟨b, by rw [Dict.get?_set, if_neg (not_pinned hpinned ht), hb], hw⟩
      · obtain ⟨b, hb⟩ := hq.jobs job' item' (of_erase hjob)
        rw [Dict.get?_set]
        split_ifs
        · exact ⟨_, rfl⟩
        · exact ⟨b, hb⟩
  | pinned identity a hget hwriter hwriting =>
      refine ⟨fun t identity' ht => ?_, fun t identity' ht job item hjob heq => ?_, hq.jobs,
        fun t identity' ht => ?_⟩
      all_goals
        rw [Dict.get?_set] at ht
        split_ifs at ht with hnew
      · obtain rfl := Option.some.inj ht
        exact ⟨a, hget, hwriter⟩
      · exact hq.pins t identity' ht
      · obtain rfl := Option.some.inj ht
        exact not_writing hwriting hjob heq
      · exact hq.quiet t identity' ht job item hjob heq
      · exact hnew ▸ Nat.lt_succ_self _
      · exact Nat.lt_succ_of_lt (hq.tokens t identity' ht)
  | unpinned token =>
      have hget : ∀ {t identity}, (q.pins.erase token).get? t = some identity →
          q.pins.get? t = some identity := fun {t identity} ht => by
        rw [Dict.get?_erase] at ht
        split_ifs at ht
        exact ht
      exact ⟨fun t identity ht => hq.pins t identity (hget ht),
        fun t identity ht => hq.quiet t identity (hget ht), hq.jobs,
        fun t identity ht => hq.tokens t identity (hget ht)⟩

/-- **A job that completes has its allocation**, and does not write it while it is pinned. -/
theorem Sound.complete (hq : Sound q) :
    (∀ item, q.inflight.get? job = some item → ∃ a, q.allocations.get? item.allocation = some a) ∧
      ∀ e q', FakeQueue.complete job q = .error e q' →
        e ≠ .raise "writer changed while retained" := by
  refine ⟨fun item hitem => hq.jobs job item hitem, fun e q' h => ?_⟩
  rintro rfl
  rw [FakeQueue.complete, live_bind] at h
  split_ifs at h
  · exact absurd h (by simp)
  rw [get_bind] at h
  cases hitem : q.inflight.get? job with
  | none =>
      rw [hitem] at h
      cases h
  | some item =>
      obtain ⟨a, ha⟩ := hq.jobs job item hitem
      rw [hitem, orRaise_some_bind, set_bind] at h
      dsimp only at h
      rw [ha, orRaise_some_bind] at h
      cases hwriter : item.writer with
      | none =>
          rw [hwriter] at h
          cases h
      | some p =>
          rw [hwriter] at h
          dsimp only at h
          rw [raiseIf_bind] at h
          split_ifs at h with hpinned
          · obtain ⟨t, identity, ht, heq⟩ := any_values_iff.mp hpinned
            have hnone := hq.quiet t identity ht job item hitem (of_decide_eq_true heq).symm
            exact absurd (hwriter.symm.trans hnone) (by simp)
          · cases h

/-- A pin that is there has been there, or its token is new. -/
lemma Change.pins (h : Change q q') (hpin : q'.pins.get? token = some identity) :
    q.pins.get? token = some identity ∨ token = q.nextPin := by
  cases h with
  | pinned identity' a hget hwriter hwriting =>
      rw [Dict.get?_set] at hpin
      split_ifs at hpin with hnew
      · exact Or.inr hnew
      · exact Or.inl hpin
  | unpinned token' =>
      rw [Dict.get?_erase] at hpin
      split_ifs at hpin
      exact Or.inl hpin
  | _ => exact Or.inl hpin

lemma Change.nextPin (h : Change q q') : q.nextPin ≤ q'.nextPin := by
  cases h with
  | pinned => exact Nat.le_succ _
  | _ => exact Nat.le_refl _

lemma Change.closed (h : Change q q') (hclosed : q.closed = true) : q'.closed = true := by
  cases h with
  | stopped => rfl
  | _ => exact hclosed

/-- The bytes of an allocation that is pinned stay. -/
lemma Change.data (h : Change q q') {a : Allocation} (hpin : q.pins.get? token = some identity)
    (hget : q.allocations.get? identity.allocation = some a) :
    ∃ a', q'.allocations.get? identity.allocation = some a' ∧ a'.data = a.data := by
  cases h with
  | allocated allocation a' hnew hwriter =>
      refine ⟨a, ?_, rfl⟩
      rw [Dict.get?_set, if_neg, hget]
      rintro heq
      rw [heq, Dict.not_contains_iff.mp hnew] at hget
      exact absurd hget (by simp)
  | released allocation hpinned hbusy =>
      exact ⟨a, by rw [Dict.get?_erase, if_neg (not_pinned hpinned hpin), hget], rfl⟩
  | wrote job item a' identity' hitem hpinned =>
      exact ⟨a, by rw [Dict.get?_set, if_neg (not_pinned hpinned hpin), hget], rfl⟩
  | _ => exact ⟨a, hget, rfl⟩

/-- **No job is added while the queue is paused.** -/
theorem Change.inflight (h : Change q q') (hpaused : q.paused = true)
    (hjob : q'.inflight.get? job = some item) : q.inflight.get? job = some item := by
  cases h with
  | submitted item' hnot => exact absurd hpaused (by simp [hnot])
  | dropped => exact of_erase hjob
  | finished => exact of_erase hjob
  | wrote => exact of_erase hjob
  | _ => exact hjob

end Sound

/-! ### Runs -/

/-- The queue after some calls, of any threads. -/
def calls (q : Queue) (methods : List Method) : Queue := methods.foldl Method.after q

section Runs

variable {q : Queue} {token : ℕ} {identity : Identity}

lemma calls_append (q : Queue) (before rest : List Method) :
    calls q (before ++ rest) = calls (calls q before) rest := List.foldl_append

lemma sound_calls (hq : Sound q) (methods : List Method) : Sound (calls q methods) := by
  induction methods generalizing q with
  | nil => exact hq
  | cons m methods ih => exact ih ((change_method m).sound hq)

lemma nextPin_le_calls (q : Queue) (methods : List Method) : q.nextPin ≤ (calls q methods).nextPin := by
  induction methods generalizing q with
  | nil => exact Nat.le_refl _
  | cons m methods ih => exact Nat.le_trans (change_method m).nextPin (ih (m.after q))

/-- A token that was given before some calls, and is pinned after them, was pinned all along. -/
lemma pins_of_calls (methods : List Method) (hold : token < q.nextPin)
    (hpin : (calls q methods).pins.get? token = some identity) :
    q.pins.get? token = some identity := by
  induction methods generalizing q with
  | nil => exact hpin
  | cons m methods ih =>
      have hnext := ih (Nat.lt_of_lt_of_le hold (change_method m).nextPin) hpin
      obtain hthere | hnew := (change_method m).pins hnext
      · exact hthere
      · exact absurd hnew (Nat.ne_of_lt hold)

/-- The bytes of an allocation stay while it is pinned. -/
lemma data_calls (methods : List Method) (hold : token < q.nextPin)
    (hpin : (calls q methods).pins.get? token = some identity) {a : Allocation}
    (hget : q.allocations.get? identity.allocation = some a) :
    ∃ a', (calls q methods).allocations.get? identity.allocation = some a' ∧ a'.data = a.data := by
  induction methods generalizing q a with
  | nil => exact ⟨a, hget, rfl⟩
  | cons m methods ih =>
      have hthere : q.pins.get? token = some identity := pins_of_calls (m :: methods) hold hpin
      obtain ⟨a₁, hget₁, hdata₁⟩ := (change_method m).data hthere hget
      obtain ⟨a', hget', hdata'⟩ :=
        ih (Nat.lt_of_lt_of_le hold (change_method m).nextPin) hpin hget₁
      exact ⟨a', hget', hdata'.trans hdata₁⟩

/-- **A pin holds its bytes and its writer**, over all calls of all threads: a token that is pinned at
two times stands for one identity, is pinned at every time between, and all along its allocation is
there with the same bytes, written by that identity, and with no job on its way that writes it. -/
theorem pin_holds (run context client : String) (before between : List Method)
    {identity' : Identity}
    (hpin : (calls (Queue.new run context client) before).pins.get? token = some identity)
    (hstill : (calls (Queue.new run context client) (before ++ between)).pins.get? token =
      some identity') :
    identity' = identity ∧ ∃ a, (calls (Queue.new run context client) before).allocations.get?
        identity.allocation = some a ∧ ∀ mid rest, between = mid ++ rest →
      let q := calls (Queue.new run context client) (before ++ mid)
      q.pins.get? token = some identity ∧
        (∃ a', q.allocations.get? identity.allocation = some a' ∧ a'.data = a.data ∧
          a'.writer = some identity) ∧
        ∀ job item, q.inflight.get? job = some item → item.allocation = identity.allocation →
          item.writer = none := by
  have hsound := sound_calls (sound_new run context client) before
  have hold := hsound.tokens token identity hpin
  obtain ⟨a, hget, -⟩ := hsound.pins token identity hpin
  have hsame : identity' = identity := by
    rw [calls_append] at hstill
    exact Option.some.inj ((pins_of_calls between hold hstill).symm.trans hpin)
  subst hsame
  refine ⟨rfl, a, hget, ?_⟩
  rintro mid rest rfl q
  have hsound' : Sound q := sound_calls (sound_new run context client) (before ++ mid)
  have hmid : q.pins.get? token = some identity' := by
    refine pins_of_calls rest ?_ ?_
    · refine Nat.lt_of_lt_of_le hold ?_
      rw [show q = calls (calls (Queue.new run context client) before) mid from calls_append ..]
      exact nextPin_le_calls _ mid
    · rwa [← List.append_assoc, calls_append] at hstill
  obtain ⟨b, hb, hwriter⟩ := hsound'.pins token identity' hmid
  refine ⟨hmid, ⟨b, hb, ?_, hwriter⟩, hsound'.quiet token identity' hmid⟩
  have hkept := data_calls mid hold (by rwa [← calls_append]) hget
  rw [← calls_append] at hkept
  obtain ⟨b', hb', hdata⟩ := hkept
  obtain rfl := Option.some.inj (hb.symm.trans hb')
  exact hdata

/-- The writer of the example: picture 28 of a run, in allocation 3. -/
def firstWriter : Identity := ⟨"run-1", "context-1", 3, 7, 1, 28, 32⟩

/-- A picture is written, and pinned. -/
lemma pinned_one {data : List UInt8} (hdata : data.length = 345600) :
    (calls (Queue.new "run-1" "context-1" "self") [.allocate 3 7 data "coherent-model",
      .submit 3 7 (some (28, 32)), .complete 1, .pin firstWriter 345600]).pins.get? 1 =
        some firstWriter := by
  let allocated : Queue := { Queue.new "run-1" "context-1" "self" with
    allocations := (∅ : Dict ℤ Allocation).set 3 ⟨7, data, "coherent-model", none⟩ }
  have hallocate : after (allocate 3 7 data "coherent-model")
      (Queue.new "run-1" "context-1" "self") = allocated := by
    simp only [allocate, after_live_bind, after_get_bind, after_raiseIf_bind, after_set]
    rw [if_neg (by decide), if_neg (by rw [hdata]; decide)]
    rfl
  let written : Queue := after (complete 1) (after (submit 3 7 (some (28, 32))) allocated)
  have hpin : after (pin firstWriter 345600) written =
      { written with nextPin := 2, pins := written.pins.set 1 firstWriter } := by
    have hget : written.allocations.get? firstWriter.allocation =
        some ⟨7, data, "coherent-model", some firstWriter⟩ := rfl
    have hlive : ¬(written.closed = true ∨ written.client ≠ "self") :=
      not_or.mpr ⟨Bool.false_ne_true, fun h => h rfl⟩
    have hcurrent : ¬(¬written.Current firstWriter ⟨7, data, "coherent-model", some firstWriter⟩ ∨
        written.writing firstWriter.allocation = true) :=
      not_or.mpr ⟨fun h => h ⟨rfl, rfl, rfl, rfl⟩, Bool.false_ne_true⟩
    have hbounds : ¬("coherent-model" ≠ "coherent-model" ∨ (data.length : ℤ) ≠ 345600 ∨
        8 ≤ written.pins.keys.length) :=
      not_or.mpr ⟨fun h => h rfl, not_or.mpr ⟨fun h => h (by rw [hdata]; rfl),
        fun h => absurd (show 8 ≤ 0 from h) (by decide)⟩⟩
    simp only [pin, after_live_bind, after_get_bind]
    rw [if_neg hlive, hget, after_orRaise_some, after_raiseIf_bind, if_neg hcurrent,
      after_raiseIf_bind, if_neg hbounds, after_set_bind, after_pure]
    rfl
  simp only [calls, List.foldl_cons, List.foldl_nil, Method.after, hallocate]
  rw [hpin]
  rfl

/-- It stays so when another thread stops the queue. -/
theorem pin_holds_stopped : ∃ data : List UInt8,
    (calls (Queue.new "run-1" "context-1" "self") ([.allocate 3 7 data "coherent-model",
      .submit 3 7 (some (28, 32)), .complete 1, .pin firstWriter 345600] ++ [.stop])).pins.get? 1 =
        some firstWriter := by
  obtain ⟨data, hdata⟩ : ∃ data : List UInt8, data.length = 345600 :=
    ⟨List.replicate 345600 0, List.length_replicate⟩
  have hpin := pinned_one hdata
  have hstill := hpin
  rw [show ∀ q : Queue, q.pins = (calls q [.stop]).pins from fun _ => rfl, ← calls_append] at hstill
  obtain ⟨-, a, -, hall⟩ := pin_holds "run-1" "context-1" "self" _ _ hpin hstill
  exact ⟨data, (hall [.stop] [] rfl).1⟩

end Runs

end OmarchyM1Video.ReferenceContent.FakeQueue
