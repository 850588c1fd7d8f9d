import OmarchyM1Video.ReferenceContent.Retention

/-!
Snapshots that are taken: a call that nothing disturbs, and two calls at the same time.

* `Ready`, `Prompt`: a queue at rest under a writer, and clocks within the time of a copy;
* `run_calm`, `undisturbed_returns`: such a call returns, with the digest of what it has copied;
* `uncopied_returned`, `overlapped_returned`: a call has no digest of its own without a copy, or with
  another call of its observer under way.
-/

namespace OmarchyM1Video.ReferenceContent.Snapshot

open OmarchyM1Video.Py
open OmarchyM1Video.ReferenceContent.FakeQueue

/-! ### A call that nothing disturbs -/

/-- The clocks can be read, and the copy is in time. -/
structure Prompt (env : Env) (elapsed : ℚ) : Prop where
  clocks : ∃ started ended, env.started = .ok started ∧ env.ended = .ok ended ∧ ended - started = elapsed
  inTime : ¬(elapsed < 0 ∨ 1 / 50 < elapsed)

/-- The queue is at rest, and a snapshot of this writer can be taken. -/
structure Ready (q : Queue) (identity : FakeQueue.Identity) (a : Allocation) (length : ℤ) : Prop where
  live : ¬(q.closed = true ∨ q.client ≠ "self")
  paused : q.paused = false
  idle : q.inflight = ∅
  get : q.allocations.get? identity.allocation = some a
  current : q.Current identity a
  generation : a.generation = identity.generation
  policy : a.policy = "coherent-model"
  length : (a.data.length : ℤ) = length
  pins : q.pins.keys.length < 8

section Calm

variable {sha256 : List UInt8 → String} {i : ℕ} {q : Queue} {o : Observer} {c : Call} {a : Allocation}
  {w : World} {layout : Layout} {length : ℤ}

/-- The queue under the pin of the call. -/
def pinnedBy (q : Queue) (identity : FakeQueue.Identity) : Queue :=
  { q with nextPin := q.nextPin + 1, pins := q.pins.set q.nextPin identity }

lemma pin_ready (h : Ready q c.identity a length) :
    FakeQueue.pin c.identity length q = .ok (q.nextPin, a.data) (pinnedBy q c.identity) := by
  have hwriting : q.writing c.identity.allocation = false := by
    rw [Queue.writing, h.idle]
    rfl
  have hpins := h.pins
  rw [FakeQueue.pin, live_bind, if_neg h.live, get_bind, h.get, orRaise_some_bind, raiseIf_bind,
    if_neg (by simp [h.current, hwriting]), raiseIf_bind,
    if_neg (by simp [h.policy, h.length, hpins])]
  rfl

lemma pause_ready (h : ¬(q.closed = true ∨ q.client ≠ "self")) (hpaused : q.paused = false) :
    FakeQueue.pause q = .ok ⟨⟩ { q with paused := true } := by
  rw [FakeQueue.pause, live_bind, if_neg h, get_bind, raiseIf_bind, if_neg (by simp [hpaused])]
  rfl

lemma drain_ready {late : Bool} (h : ¬(q.closed = true ∨ q.client ≠ "self")) (hpaused : q.paused = true)
    (hidle : q.inflight = ∅) : FakeQueue.drain late q = .ok true q := by
  have hempty : q.inflight.isEmpty = true := by rw [hidle]; rfl
  rw [FakeQueue.drain, live_bind, if_neg h, get_bind, raiseIf_bind, if_neg (by simp [hpaused]),
    drainTurn, get_bind, if_pos hempty]
  rfl

lemma validate_ready (h : Ready q c.identity a length) :
    FakeQueue.validate q.nextPin c.identity { pinnedBy q c.identity with paused := true } =
      .ok ⟨⟩ { pinnedBy q c.identity with paused := true } := by
  have hlive : ¬(({ pinnedBy q c.identity with paused := true } : Queue).closed = true ∨
      ({ pinnedBy q c.identity with paused := true } : Queue).client ≠ "self") := h.live
  have hidle : q.inflight.isEmpty = true := by rw [h.idle]; rfl
  have hcurrent : ({ pinnedBy q c.identity with paused := true } : Queue).Current c.identity a :=
    h.current
  rw [FakeQueue.validate, live_bind, if_neg hlive, get_bind, raiseIf, if_neg]
  · rfl
  · simp [pinnedBy, hidle, h.get, h.generation, h.policy] at hcurrent ⊢
    exact hcurrent

lemma admits_ok (h : admits (some layout) = .ok ()) :
    (layout.length = 345600 ∨ layout.length = 368128) ∧ layout.mvOffset = layout.length - mv := by
  simp only [admits, Except.bind_ok, need_ok] at h
  obtain ⟨_, hlength, _, _, _, hmotion, _⟩ := h
  exact ⟨hlength.2, hmotion.2⟩

/-- The bytes that a call copies of these. -/
def Call.bytesOf (c : Call) (data : List UInt8) : List UInt8 := ({ c with plane := data } : Call).bytes

lemma copied_ready (hlayout : c.layout = some layout) (hadmits : admits (some layout) = .ok ())
    (hplane : (c.plane.length : ℤ) = layout.length) {slot : List UInt8} (hslot : slot.length = maxCopy) :
    c.copied slot = (c.bytes, true) := by
  obtain ⟨hlengths, hoffset⟩ := admits_ok hadmits
  have hmv : mv = 7168 := rfl
  have hcompressed : c.compressed.length = (slot.take comp.2).length := by
    simp only [Call.compressed, List.length_take, List.length_drop, hslot, comp, maxCopy]
    omega
  have hmotion : c.motion.length = (slot.drop comp.2).length := by
    simp only [Call.motion, Call.length, hlayout, Option.elim_some, List.length_take, List.length_drop,
      hslot, comp, maxCopy]
    omega
  rw [Call.copied, if_neg (not_not.mpr hcompressed), if_neg (not_not.mpr hmotion)]
  rfl

lemma copy_ready {env : Env} {elapsed : ℚ} (henv : Prompt env elapsed) {slot : List UInt8}
    (hslot : o.slots.getD c.slot [] = slot) (hcopied : c.copied slot = (c.bytes, true)) :
    c.copyStep env o = ({ o with slots := o.slots.set c.slot (if c.copy then c.bytes else slot) },
      { c with elapsed, phase := .revalidate }) := by
  obtain ⟨⟨started, ended, hstarted, hended, rfl⟩, htime⟩ := henv
  rw [Call.copyStep]
  simp only [hstarted, hended, hslot, hcopied]
  cases c.copy
  · exact if_neg htime
  · exact if_neg htime

/-- The world with this queue, and with the observer and the call of this number. -/
def World.place (w : World) (i : ℕ) (q : Queue) (o : Observer) (c : Call) : World :=
  { queue := q, observers := Function.update w.observers c.observer o, calls := w.calls.set i c }

lemma step_place {env : Env} {q' : Queue} {o' : Observer} {c' : Call} (hi : i < w.calls.length)
    (hstep : c.step sha256 env i q o = (q', o', c')) (hobserver : c'.observer = c.observer) :
    step sha256 (w.place i q o c) (.advance i env) = w.place i q' o' c' := by
  have hcall : (w.calls.set i c)[i]? = some c := by rw [List.getElem?_set_self hi]
  simp [step, World.place, hcall, hstep, hobserver]

lemma run_place {labels : List Label} (hc : w.calls[i]? = some c) (ho : w.observers c.observer = o) :
    run sha256 w labels = run sha256 (w.place i w.queue o c) labels := by
  have hset : w.calls.set i c = w.calls := by
    obtain ⟨hlt, rfl⟩ := List.getElem?_eq_some_iff.mp hc
    exact List.set_getElem_self hlt
  rw [← ho, World.place, hset, Function.update_eq_self]

lemma run_append {labels more : List Label} :
    run sha256 w (labels ++ more) = run sha256 (run sha256 w labels) more := List.foldl_append

variable (sha256) in
/-- A call that nothing disturbs comes to its `finally` clause with the bytes of the allocation. -/
theorem run_calm {env : Env} {elapsed : ℚ} (henv : Prompt env elapsed) (hc : w.calls[i]? = some c)
    (hphase : c.phase = .checks) (ho : w.observers c.observer = o) (hchecks : c.checks o = .ok ())
    (hlayout : c.layout = some layout) (hadmits : admits (some layout) = .ok ())
    {slot : List UInt8} (hslot : o.slots.getD o.snapshots.length [] = slot)
    (hlength : slot.length = maxCopy) (h : Ready w.queue c.identity a layout.length) :
    run sha256 w (List.replicate 8 (.advance i env)) =
      w.place i (pinnedBy w.queue c.identity)
        { o with slots := o.slots.set o.snapshots.length (if c.copy then c.bytesOf a.data else slot) }
        { c with slot := o.snapshots.length, token := some w.queue.nextPin, plane := a.data, elapsed,
                 phase := .unpin none } := by
  obtain ⟨hi, -⟩ := List.getElem?_eq_some_iff.mp hc
  let pinned := pinnedBy w.queue c.identity
  let paused : Queue := { pinned with paused := true }
  let called : Call := { c with slot := o.snapshots.length, phase := .pin }
  let held : Call := { called with token := some w.queue.nextPin, plane := a.data, phase := .pause }
  let copied : Observer :=
    { o with slots := o.slots.set o.snapshots.length (if c.copy then c.bytesOf a.data else slot) }
  have h₁ : c.step sha256 env i w.queue o = (w.queue, o, called) := by
    rw [Call.step, hphase]
    simp only [hchecks]
    rfl
  have h₂ : called.step sha256 env i w.queue o = (pinned, o, held) := by
    have hpin : FakeQueue.pin called.identity called.length w.queue =
        .ok (w.queue.nextPin, a.data) pinned := by
      have hlen : called.length = layout.length := by simp [called, Call.length, hlayout]
      rw [hlen]
      exact pin_ready h
    simp only [Call.step, called, Call.attempt] at hpin ⊢
    rw [hpin]
  have h₃ : held.step sha256 env i pinned o = (paused, o, { held with phase := .drain }) := by
    have hpause : FakeQueue.pause pinned = .ok ⟨⟩ paused := pause_ready h.live h.paused
    simp only [Call.step, held, Call.attempt, hpause]
  have h₄ : ({ held with phase := .drain } : Call).step sha256 env i paused o =
      (paused, o, { held with phase := .validate }) := by
    have hdrain : FakeQueue.drain env.late paused = .ok true paused := drain_ready h.live rfl h.idle
    simp only [Call.step, Call.attempt, hdrain]
    rfl
  have hvalidate : FakeQueue.validate w.queue.nextPin c.identity paused = .ok ⟨⟩ paused := validate_ready h
  have h₅ : ({ held with phase := .validate } : Call).step sha256 env i paused o =
      (paused, o, { held with phase := .copy }) := by
    simp only [Call.step, Call.attempt, held, called, Option.getD_some, hvalidate]
  have h₆ : ({ held with phase := .copy } : Call).step sha256 env i paused o =
      (paused, copied, { held with elapsed, phase := .revalidate }) := by
    have hcopied : ({ held with phase := .copy } : Call).copied slot =
        (({ held with phase := .copy } : Call).bytes, true) :=
      copied_ready (c := { held with phase := .copy }) hlayout hadmits h.length hlength
    have hcopy := copy_ready (o := o) (c := { held with phase := .copy }) henv hslot hcopied
    simp only [Call.step]
    rw [hcopy]
    rfl
  have h₇ : ({ held with elapsed, phase := .revalidate } : Call).step sha256 env i paused copied =
      (paused, copied, { held with elapsed, phase := .resume }) := by
    simp only [Call.step, Call.attempt, held, called, Option.getD_some, hvalidate]
  have h₈ : ({ held with elapsed, phase := .resume } : Call).step sha256 env i paused copied =
      (pinned, copied, { held with elapsed, phase := .unpin none }) := by
    have hresume : FakeQueue.resume paused = .ok ⟨⟩ pinned := by
      have hlive : ¬(paused.closed = true ∨ paused.client ≠ "self") := h.live
      have hback : pinned = { paused with paused := false } := by
        simp [paused, pinned, pinnedBy, h.paused]
      rw [FakeQueue.resume, live_bind, if_neg hlive, hback]
      rfl
    simp only [Call.step, Call.attempt, hresume]
  rw [run_place hc ho]
  simp only [run, List.replicate, List.foldl_cons, List.foldl_nil]
  rw [step_place hi h₁ rfl, step_place hi h₂ rfl, step_place hi h₃ rfl, step_place hi h₄ rfl,
    step_place hi h₅ rfl, step_place hi h₆ rfl, step_place hi h₇ rfl, step_place hi h₈ rfl]

variable (sha256) in
/-- The rest of a call that went well. -/
lemma run_finish (env : Env) (hc : w.calls[i]? = some c) (hphase : c.phase = .unpin none)
    (ho : w.observers c.observer = o) :
    (run sha256 w (List.replicate 2 (.advance i env))).calls[i]? =
      some { c with phase := .done (.returned (c.result sha256 i o)) } := by
  obtain ⟨hi, -⟩ := List.getElem?_eq_some_iff.mp hc
  let q : Queue := c.token.elim w.queue fun token => after (FakeQueue.unpin token) w.queue
  have h₁ : c.step sha256 env i w.queue o = (q, o, { c with phase := .finish }) := by
    rw [Call.step, hphase]
    rfl
  have h₂ : ({ c with phase := .finish } : Call).step sha256 env i q o =
      (q, { o with snapshots := o.snapshots ++ [c.result sha256 i o] },
        { c with phase := .done (.returned (c.result sha256 i o)) }) := rfl
  rw [run_place hc ho]
  simp only [run, List.replicate, List.foldl_cons, List.foldl_nil]
  rw [step_place hi h₁ rfl, step_place hi h₂ rfl]
  exact List.getElem?_set_self hi

variable (sha256) in
/-- **A snapshot that nothing disturbs is taken.**  Ten steps of a call that passes its checks, on a
queue at rest that holds the allocation with this writer, return the digest of the two ranges of the
allocation, if the call copies. -/
theorem undisturbed_returns {env : Env} {elapsed : ℚ} (henv : Prompt env elapsed)
    (hc : w.calls[i]? = some c) (hphase : c.phase = .checks) (ho : w.observers c.observer = o)
    (hchecks : c.checks o = .ok ()) (hlayout : c.layout = some layout)
    (hadmits : admits (some layout) = .ok ()) (hslots : o.snapshots.length < o.slots.length)
    (hlength : ∀ slot ∈ o.slots, slot.length = maxCopy)
    (h : Ready w.queue c.identity a layout.length) :
    ∃ c' r, (run sha256 w (List.replicate 10 (.advance i env))).calls[i]? = some c' ∧
      c'.phase = .done (.returned r) ∧ r.identity = c.identity ∧ r.elapsed = elapsed ∧
        r.sha256 = if c.copy then some (sha256 (c.bytesOf a.data)) else none := by
  have hslot : o.slots.getD o.snapshots.length [] = o.slots[o.snapshots.length] := by
    rw [List.getD_eq_getElem?_getD, List.getElem?_eq_getElem hslots, Option.getD_some]
  have hcalm := run_calm sha256 henv hc hphase ho hchecks hlayout hadmits hslot
    (hlength _ (List.getElem_mem hslots)) h
  obtain ⟨hi, -⟩ := List.getElem?_eq_some_iff.mp hc
  have hcall : (run sha256 w (List.replicate 8 (.advance i env))).calls[i]? =
      some { c with slot := o.snapshots.length, token := some w.queue.nextPin, plane := a.data, elapsed,
                    phase := .unpin none } := by
    rw [hcalm]
    exact List.getElem?_set_self hi
  have hobserver : (run sha256 w (List.replicate 8 (.advance i env))).observers c.observer =
      { o with slots := o.slots.set o.snapshots.length
                 (if c.copy then c.bytesOf a.data else o.slots[o.snapshots.length]) } := by
    rw [hcalm]
    exact Function.update_self ..
  have hfinish := run_finish sha256 env hcall rfl hobserver
  rw [← run_append, List.replicate_append_replicate] at hfinish
  refine ⟨_, _, hfinish, rfl, rfl, rfl, ?_⟩
  cases c.copy <;> simp [Call.result, hslots]

end Calm

/-! ### Calls without a copy, and calls at the same time -/

section Runs

variable {data data' : List UInt8}

/-- The layout of the shorter allocations. -/
def shortLayout : Layout := ⟨448, 240, 345600, 161280, 177152, 338432, 7168⟩

/-- Time remains, and none passes. -/
def calm : Env := ⟨false, .ok 0, .ok 0⟩

lemma prompt_calm : Prompt calm (0 - 0) where
  clocks := ⟨0, 0, rfl, rfl, rfl⟩
  inTime := by decide +kernel

lemma admits_short : admits (some shortLayout) = .ok () := by decide

/-- The two ranges of such an allocation. -/
def rangesOf (data : List UInt8) : List UInt8 :=
  (data.drop comp.1).take comp.2 ++ (data.drop 338432).take mv

lemma bytes_short {c : Call} (hlayout : c.layout = some shortLayout) : c.bytes = rangesOf c.plane := by
  simp [Call.bytes, Call.compressed, Call.motion, Call.length, hlayout, shortLayout, rangesOf, mv]

lemma rangesOf_replicate (b : UInt8) : rangesOf (List.replicate 345600 b) = List.replicate maxCopy b := by
  rw [rangesOf, List.drop_replicate, List.take_replicate, List.drop_replicate, List.take_replicate,
    List.replicate_append_replicate]
  rfl

/-- The writer of allocation 4. -/
def secondWriter : FakeQueue.Identity := ⟨"run-1", "context-1", 4, 7, 2, 28, 32⟩

/-- Two allocations are written. -/
def writing (data data' : List UInt8) : List Label :=
  [.method (.allocate 3 7 data "coherent-model"), .method (.submit 3 7 (some (28, 32))),
    .method (.complete 1), .method (.allocate 4 7 data' "coherent-model"),
    .method (.submit 4 7 (some (28, 32))), .method (.complete 2)]

/-- The queue with these allocations. -/
def holding (allocations : Dict ℤ Allocation) (completed : Dict ℕ Job) (next : ℕ) : Queue :=
  { Queue.new "run-1" "context-1" "self" with allocations, completed, nextJob := next }

/-- The first allocation, written. -/
def firstHeld (data : List UInt8) : Dict ℤ Allocation :=
  (∅ : Dict ℤ Allocation).set 3 ⟨7, data, "coherent-model", some firstWriter⟩

def bothHeld (data data' : List UInt8) : Dict ℤ Allocation :=
  (firstHeld data).set 4 ⟨7, data', "coherent-model", some secondWriter⟩

def firstJob : Dict ℕ Job := (∅ : Dict ℕ Job).set 1 ⟨3, 7, some (28, 32)⟩

def bothJobs : Dict ℕ Job := firstJob.set 2 ⟨4, 7, some (28, 32)⟩

lemma after_allocate {q : Queue} {allocation : ℤ} (hlive : ¬(q.closed = true ∨ q.client ≠ "self"))
    (hbounds : ¬(q.paused = true ∨ q.allocations.contains allocation = true ∨
      8 ≤ q.allocations.keys.length ∨ allocation < 0)) (hdata : data.length = 345600) :
    after (FakeQueue.allocate allocation 7 data "coherent-model") q =
      { q with allocations := q.allocations.set allocation ⟨7, data, "coherent-model", none⟩ } := by
  simp only [FakeQueue.allocate, after_live_bind, after_get_bind, after_raiseIf_bind, after_set]
  rw [if_neg hlive, if_neg]
  simp only [not_or] at hbounds ⊢
  exact ⟨hbounds.1, hbounds.2.1, hbounds.2.2.1, hbounds.2.2.2, by decide, by simp [hdata]⟩

lemma live_holding {allocations : Dict ℤ Allocation} {completed : Dict ℕ Job} {next : ℕ} :
    ¬((holding allocations completed next).closed = true ∨
      (holding allocations completed next).client ≠ "self") :=
  not_or.mpr ⟨Bool.false_ne_true, fun h => h rfl⟩

lemma run_writing {sha256 : List UInt8 → String} (hdata : data.length = 345600)
    (hdata' : data'.length = 345600) :
    run sha256 (World.new ("run-1", "context-1", "self") fun _ => true) (writing data data') =
      { queue := holding (bothHeld data data') bothJobs 3, observers := fun _ => Observer.new true,
        calls := [] } := by
  have hallocate : after (FakeQueue.allocate 3 7 data "coherent-model") (holding ∅ ∅ 1) =
      holding ((∅ : Dict ℤ Allocation).set 3 ⟨7, data, "coherent-model", none⟩) ∅ 1 :=
    after_allocate live_holding (by decide) hdata
  have hallocate' : after (FakeQueue.allocate 4 7 data' "coherent-model")
      (holding (firstHeld data) firstJob 2) =
      holding ((firstHeld data).set 4 ⟨7, data', "coherent-model", none⟩) firstJob 2 := by
    refine after_allocate live_holding ?_ hdata'
    exact show ¬(false = true ∨ false = true ∨ 8 ≤ 1 ∨ (4 : ℤ) < 0) by decide
  have hfirst : after (complete 1) (after (submit 3 7 (some (28, 32)))
      (holding ((∅ : Dict ℤ Allocation).set 3 ⟨7, data, "coherent-model", none⟩) ∅ 1)) =
        holding (firstHeld data) firstJob 2 := rfl
  have hsecond : after (complete 2) (after (submit 4 7 (some (28, 32)))
      (holding ((firstHeld data).set 4 ⟨7, data', "coherent-model", none⟩) firstJob 2)) =
        holding (bothHeld data data') bothJobs 3 := rfl
  have hnew : (World.new ("run-1", "context-1", "self") fun _ => true).queue = holding ∅ ∅ 1 := rfl
  simp only [run, writing, List.foldl_cons, List.foldl_nil, step, Method.after]
  rw [hnew, hallocate, hfirst, hallocate', hsecond]
  rfl

lemma ready_first (hdata : data.length = 345600) :
    Ready (holding (bothHeld data data') bothJobs 3) firstWriter
      ⟨7, data, "coherent-model", some firstWriter⟩ shortLayout.length where
  live := live_holding
  paused := rfl
  idle := rfl
  get := rfl
  current := ⟨rfl, rfl, rfl, rfl⟩
  generation := rfl
  policy := rfl
  length := congrArg Int.ofNat hdata
  pins := show 0 < 8 by decide

/-- The second allocation can be taken under a pin of the first. -/
lemma ready_second (hdata : data'.length = 345600) :
    Ready (pinnedBy (holding (bothHeld data data') bothJobs 3) firstWriter) secondWriter
      ⟨7, data', "coherent-model", some secondWriter⟩ shortLayout.length where
  live := show ¬((holding (bothHeld data data') bothJobs 3).closed = true ∨ _) from live_holding
  paused := rfl
  idle := rfl
  get := rfl
  current := ⟨rfl, rfl, rfl, rfl⟩
  generation := rfl
  policy := rfl
  length := congrArg Int.ofNat hdata
  pins := show 1 < 8 by decide

/-- A call, before its checks. -/
def begun (identity : FakeQueue.Identity) (copy overlapped : Bool) : Call :=
  { observer := 0, layout := some shortLayout, identity, copy, drainSeconds := 2, overlapped }

lemma length_slot : ((Observer.new true).slots.getD 0 []).length = maxCopy := by
  simp [Observer.new, maxSnapshots]

lemma bytesOf_begun {identity : FakeQueue.Identity} {copy overlapped : Bool} :
    (begun identity copy overlapped).bytesOf data = rangesOf data := by
  rw [Call.bytesOf, bytes_short rfl]

lemma length_bytesOf {identity : FakeQueue.Identity} {copy overlapped : Bool} (h : data.length = 345600) :
    ((begun identity copy overlapped).bytesOf data).length = maxCopy := by
  simp [bytesOf_begun, rangesOf, h, comp, mv, maxCopy]

lemma checks_begun {identity : FakeQueue.Identity} {copy overlapped : Bool} {o : Observer}
    (ho : o.enabled = true ∧ o.stopped = false) (hcount : o.snapshots.length < maxSnapshots) :
    (begun identity copy overlapped).checks o = .ok () := by
  have hseconds : (0 : ℚ) < 2 ∧ (2 : ℚ) ≤ 2 := by decide +kernel
  simp [Call.checks, begun, ho, hseconds, admits_short, hcount, need]

/-- A call without a copy has no digest. -/
theorem uncopied_returned : ¬∀ (sha256 : List UInt8 → String) (context : String × String × String)
    (enabled : ℕ → Bool) (labels : List Label) (i : ℕ) (c : Call) (r : Taken),
      (run sha256 (World.new context enabled) labels).calls[i]? = some c →
        c.phase = .done (.returned r) → c.overlapped = false → r.sha256 = some (sha256 c.bytes) := by
  intro hall
  let sha256 : List UInt8 → String := fun _ => ""
  obtain ⟨data, hdata⟩ : ∃ data : List UInt8, data.length = 345600 :=
    ⟨List.replicate 345600 0, List.length_replicate⟩
  let w : World := { queue := holding (bothHeld data data) bothJobs 3,
                     observers := fun _ => Observer.new true, calls := [begun firstWriter false false] }
  have hstart : run sha256 (World.new ("run-1", "context-1", "self") fun _ => true)
      (writing data data ++ [.start 0 (some shortLayout) firstWriter false 2]) = w := by
    rw [run_append, run_writing hdata hdata]
    rfl
  have hcalm := run_calm sha256 (w := w) (i := 0) (o := Observer.new true) prompt_calm rfl rfl rfl
    (checks_begun ⟨rfl, rfl⟩ (show 0 < 8 by decide)) rfl admits_short rfl length_slot
    (ready_first hdata)
  have hfinish := run_finish sha256 calm (w := run sha256 w (List.replicate 8 (.advance 0 calm))) (i := 0)
    (c := { begun firstWriter false false with
      token := some 1, plane := data, elapsed := 0 - 0, phase := .unpin none }) (by rw [hcalm]; rfl) rfl rfl
  rw [← hstart, ← run_append, ← run_append] at hfinish
  exact absurd (hall _ _ _ _ _ _ _ hfinish rfl rfl) (by simp [Call.result, begun])

/-- Of two calls at the same time the first has the digest of what the second has copied. -/
theorem overlapped_returned : ¬∀ (sha256 : List UInt8 → String) (context : String × String × String)
    (enabled : ℕ → Bool) (labels : List Label) (i : ℕ) (c : Call) (r : Taken),
      (run sha256 (World.new context enabled) labels).calls[i]? = some c →
        c.phase = .done (.returned r) → c.copy = true → r.sha256 = some (sha256 c.bytes) := by
  intro hall
  let sha256 : List UInt8 → String := fun bytes => if bytes.head? = some 1 then "1" else "2"
  obtain ⟨data, hdata, hfirst⟩ : ∃ data : List UInt8, data.length = 345600 ∧
      rangesOf data = List.replicate maxCopy 1 :=
    ⟨List.replicate 345600 1, List.length_replicate, rangesOf_replicate 1⟩
  obtain ⟨data', hdata', hsecond⟩ : ∃ data : List UInt8, data.length = 345600 ∧
      rangesOf data = List.replicate maxCopy 2 :=
    ⟨List.replicate 345600 2, List.length_replicate, rangesOf_replicate 2⟩
  let w : World := { queue := holding (bothHeld data data') bothJobs 3,
                     observers := fun _ => Observer.new true,
                     calls := [begun firstWriter true true, begun secondWriter true true] }
  have hstart : run sha256 (World.new ("run-1", "context-1", "self") fun _ => true)
      (writing data data' ++ [.start 0 (some shortLayout) firstWriter true 2,
        .start 0 (some shortLayout) secondWriter true 2]) = w := by
    rw [run_append, run_writing hdata hdata']
    rfl
  have hcalm := run_calm sha256 (w := w) (i := 0) (o := Observer.new true) prompt_calm rfl rfl rfl
    (checks_begun ⟨rfl, rfl⟩ (show 0 < 8 by decide)) rfl admits_short rfl length_slot
    (ready_first hdata)
  let o : Observer := { Observer.new true with
    slots := (Observer.new true).slots.set 0 ((begun firstWriter true true).bytesOf data) }
  have hcalm' := run_calm sha256 (w := run sha256 w (List.replicate 8 (.advance 0 calm))) (i := 1) (o := o)
    (c := begun secondWriter true true) prompt_calm (by rw [hcalm]; rfl) rfl (by rw [hcalm]; rfl)
    (checks_begun ⟨rfl, rfl⟩ (show 0 < 8 by decide)) rfl admits_short rfl (length_bytesOf hdata)
    (by rw [hcalm]; exact ready_second hdata')
  have hfinish := run_finish sha256 calm
    (w := run sha256 (run sha256 w (List.replicate 8 (.advance 0 calm)))
      (List.replicate 8 (.advance 1 calm)))
    (i := 0) (o := { o with slots := o.slots.set 0 ((begun secondWriter true true).bytesOf data') })
    (c := { begun firstWriter true true with
      token := some 1, plane := data, elapsed := 0 - 0, phase := .unpin none })
    (by rw [hcalm', hcalm]; rfl) rfl (by rw [hcalm', hcalm]; rfl)
  rw [← hstart, ← run_append, ← run_append, ← run_append] at hfinish
  have hdigest := hall _ _ _ _ _ _ _ hfinish rfl rfl
  change some (sha256 ((begun secondWriter true true).bytesOf data')) =
    some (sha256 ((begun firstWriter true true).bytesOf data)) at hdigest
  rw [bytesOf_begun, bytesOf_begun, hfirst, hsecond] at hdigest
  have hhead : ∀ b : UInt8, (List.replicate maxCopy b).head? = some b := fun b => by
    rw [List.head?_replicate]
    exact if_neg (by decide)
  simp only [sha256, hhead] at hdigest
  exact absurd hdigest (by decide)

end Runs

end OmarchyM1Video.ReferenceContent.Snapshot
