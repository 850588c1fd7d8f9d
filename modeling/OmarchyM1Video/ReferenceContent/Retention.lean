import OmarchyM1Video.ReferenceContent.SnapshotCall

/-!
What a snapshot retains: the pins, the pause and the snapshots of all interleavings.

* `Goes`, `goes_step`: what a step of a call can do;
* `CallInv`, `Inv`: what is true of each call, and of the world;
* `CallInv.frame`, `CallInv.goes`, `inv_step`, `inv_run`: it stays true, through the steps of others
  and through its own;
* `Resumes`, `resumes_of_run`: a call that goes well has resumed the queue;
* `retention`: the pins hold, and each call that ends leaves what it should.
-/

namespace OmarchyM1Video.ReferenceContent.Snapshot

open OmarchyM1Video.Py
open OmarchyM1Video.ReferenceContent.FakeQueue

/-! ### What a step of a call can do -/

/-- The moves of a call that change nothing but the pause. -/
inductive Quiet : Phase → Phase → Prop
  | pause : Quiet .pause .drain
  | wait : Quiet .drain .waiting
  | drained : Quiet .drain .validate
  | waits : Quiet .waiting .waiting
  | woken : Quiet .waiting .validate
  | valid : Quiet .validate .copy
  | again : Quiet .revalidate .resume

/-- The call holds a pin, or did. -/
def Phase.holds : Phase → Bool
  | .pause | .drain | .waiting | .validate | .copy | .revalidate | .resume | .unpin none | .finish
  | .done (.returned _) => true
  | _ => false

/-- The copy is made. -/
def Phase.copied : Phase → Bool
  | .revalidate | .resume | .unpin none | .finish => true
  | _ => false

/-- The call has failed, and has stopped the observer. -/
def Phase.failed : Phase → Bool
  | .unpin (some _) | .done (.failed _) => true
  | _ => false

/-- The pin of the call is gone. -/
def Phase.released : Phase → Bool
  | .finish | .done _ => true
  | _ => false

/-- The call has returned. -/
def Phase.returned : Phase → Bool
  | .done (.returned _) => true
  | _ => false

/-- What a step of a call can do. -/
inductive Goes (sha256 : List UInt8 → String) (i : ℕ) (q : Queue) (o : Observer) (c : Call) :
    Queue → Observer → Call → Prop
  | refused (message : String) (stopped : Bool) (hphase : c.phase = .checks)
      (hstopped : o.stopped = true → stopped = true) :
      Goes sha256 i q o c q { o with stopped } { c with phase := .done (.refused message) }
  | admitted (hphase : c.phase = .checks) (hroom : o.snapshots.length < maxSnapshots) :
      Goes sha256 i q o c q o { c with slot := o.snapshots.length, phase := .pin }
  | pinned (a : Allocation) (hphase : c.phase = .pin)
      (hget : q.allocations.get? c.identity.allocation = some a)
      (hchange : Change q
        { q with nextPin := q.nextPin + 1, pins := q.pins.set q.nextPin c.identity }) :
      Goes sha256 i q o c
        { q with nextPin := q.nextPin + 1, pins := q.pins.set q.nextPin c.identity } o
        { c with token := some q.nextPin, plane := a.data, phase := .pause }
  | moved (q' : Queue) (next : Phase) (hquiet : Quiet c.phase next) (hchange : Change q q') :
      Goes sha256 i q o c q' o { c with phase := next }
  | raised (q' : Queue) (message : String) (slots : List (List UInt8))
      (hactive : c.phase.active = true) (hchecks : c.phase ≠ .checks)
      (hslots : slots.length = o.slots.length ∧ (o.slots = slots ∨ c.phase = .copy ∧
        ∀ j, j ≠ c.slot → slots[j]? = o.slots[j]?)) (hchange : Change q q') :
      Goes sha256 i q o c q' { o with slots } { c with phase := .stop message }
  | copied (slot : List UInt8) (elapsed : ℚ) (hphase : c.phase = .copy)
      (hslot : c.copy = true → slot = c.compressed ++ c.motion) :
      Goes sha256 i q o c q { o with slots := o.slots.set c.slot slot }
        { c with elapsed, phase := .revalidate }
  | resumed (hphase : c.phase = .resume) (hclosed : q.closed = false) :
      Goes sha256 i q o c { q with paused := false } o { c with phase := .unpin none }
  | stopped (message : String) (hphase : c.phase = .stop message) :
      Goes sha256 i q o c { q with closed := true, paused := false } { o with stopped := true }
        { c with phase := .unpin (some message) }
  | unpinned (failure : Option String) (q' : Queue) (hphase : c.phase = .unpin failure)
      (hchange : Change q q') (hgone : ∀ t, c.token = some t → q'.pins.get? t = none) :
      Goes sha256 i q o c q' o
        { c with phase := failure.elim .finish fun message => .done (.failed message) }
  | finished (hphase : c.phase = .finish) :
      Goes sha256 i q o c q { o with snapshots := o.snapshots ++ [c.result sha256 i o] }
        { c with phase := .done (.returned (c.result sha256 i o)) }
  | ended (hphase : c.phase.active = false) : Goes sha256 i q o c q o c

section Steps

variable {sha256 : List UInt8 → String} {i : ℕ} {q q' : Queue} {o o' : Observer} {c c' : Call}
  {env : Env}

lemma change_of_ok {α : Type} {x : Op α} {a : α} (hchange : Change q (after x q))
    (h : x q = .ok a q') : Change q q' := by
  rw [FakeQueue.after, h] at hchange
  exact hchange

/-- A method of a call: it raises, or the call goes on. -/
lemma goes_attempt {α : Type} {x : Op α} {next : α → Call} (hactive : c.phase.active = true)
    (hchecks : c.phase ≠ .checks) (hchange : Change q (after x q))
    (hnext : ∀ a q', x q = .ok a q' → Change q q' → Goes sha256 i q o c q' o (next a)) :
    Goes sha256 i q o c (c.attempt q o x next).1 (c.attempt q o x next).2.1
      (c.attempt q o x next).2.2 := by
  rw [Call.attempt]
  cases h : x q with
  | ok a q' => exact hnext a q' h (change_of_ok hchange h)
  | error e q' =>
      rw [FakeQueue.after, h] at hchange
      exact .raised q' _ o.slots hactive hchecks ⟨rfl, Or.inl rfl⟩ hchange

/-- A turn of the loop of `drain`. -/
lemma quiet_drain {ends : Bool} (h : c.phase = .drain ∨ c.phase = .waiting) :
    Quiet c.phase (if ends then .validate else .waiting) := by
  rcases h with h | h <;> rw [h] <;> cases ends
  · exact .wait
  · exact .drained
  · exact .waits
  · exact .woken

/-- What a pin that is granted is. -/
lemma pin_ok {identity : FakeQueue.Identity} {length : ℤ} {p : ℕ × List UInt8}
    (h : FakeQueue.pin identity length q = .ok p q') :
    ∃ a, q.allocations.get? identity.allocation = some a ∧ p = (q.nextPin, a.data) ∧
      q' = { q with nextPin := q.nextPin + 1, pins := q.pins.set q.nextPin identity } := by
  rw [FakeQueue.pin, live_bind] at h
  split_ifs at h
  rw [get_bind] at h
  cases ha : q.allocations.get? identity.allocation with
  | none =>
      rw [ha] at h
      cases h
  | some a =>
      rw [ha, orRaise_some_bind, raiseIf_bind] at h
      split_ifs at h
      rw [raiseIf_bind] at h
      split_ifs at h
      obtain ⟨rfl, rfl⟩ := EStateM.Result.ok.inj h
      exact ⟨a, rfl, rfl, rfl⟩

/-- What `resume` does. -/
lemma resume_ok {u : Unit} (h : FakeQueue.resume q = .ok u q') :
    q.closed = false ∧ q' = { q with paused := false } := by
  rw [FakeQueue.resume, live_bind] at h
  split_ifs at h with hdead
  obtain ⟨_, rfl⟩ := EStateM.Result.ok.inj h
  rw [not_or, Bool.not_eq_true] at hdead
  exact ⟨hdead.1, rfl⟩

lemma checks_error {p : String × Bool} (h : c.checks o = .error p) (hstopped : o.stopped = true) :
    p.2 = true := by
  rw [Call.checks] at h
  simp only [Except.bind_error, need_error, need_ok] at h
  rcases h with ⟨_, rfl⟩ | ⟨_, _, ⟨_, rfl⟩ | ⟨_, _, h⟩⟩
  · exact hstopped
  · exact hstopped
  · split at h
    · obtain ⟨_, rfl⟩ := need_error.mp h
      rfl
    · obtain rfl := Except.error.inj h
      exact hstopped

lemma checks_ok {u : Unit} (h : c.checks o = .ok u) : o.snapshots.length < maxSnapshots := by
  rw [Call.checks] at h
  simp only [Except.bind_ok, need_ok] at h
  obtain ⟨_, _, _, _, h⟩ := h
  split at h
  · exact need_ok.mp h
  · cases h

/-- The slots after a copy, of the observer that made it. -/
lemma goes_copy (hphase : c.phase = .copy) :
    Goes sha256 i q o c q (c.copyStep env o).1 (c.copyStep env o).2 := by
  have hraised : ∀ message, Goes sha256 i q o c q o { c with phase := .stop message } :=
    fun message => .raised q message o.slots (by rw [hphase]; rfl) (by rw [hphase]; simp) ⟨rfl, Or.inl rfl⟩ .same
  have hset : ∀ message slot, Goes sha256 i q o c q { o with slots := o.slots.set c.slot slot }
      { c with phase := .stop message } := fun message slot =>
    .raised q message _ (by rw [hphase]; rfl) (by rw [hphase]; simp)
      ⟨List.length_set, Or.inr ⟨hphase, fun j hj => List.getElem?_set_ne hj.symm⟩⟩ .same
  rw [Call.copyStep]
  cases env.started with
  | error message => exact hraised message
  | ok started =>
      dsimp only
      have hslot : ∀ p : List UInt8 × Bool,
          p = (if c.copy then c.copied (o.slots.getD c.slot [])
            else (o.slots.getD c.slot [], true)) →
            p.2 = true → c.copy = true → p.1 = c.compressed ++ c.motion := by
        intro p hp hfits hcopy
        rw [if_pos hcopy, Call.copied] at hp
        split_ifs at hp
        · rw [hp] at hfits
          cases hfits
        · rw [hp] at hfits
          cases hfits
        · rw [hp]
      generalize hp : (if c.copy then c.copied (o.slots.getD c.slot [])
        else (o.slots.getD c.slot [], true)) = p at hslot ⊢
      obtain ⟨slot, fits⟩ := p
      dsimp only
      split_ifs with hfits
      · exact hset _ slot
      · cases env.ended with
        | error message => exact hset message slot
        | ok ended =>
            dsimp only
            split_ifs
            · exact hset _ slot
            · exact .copied slot _ hphase fun hcopy =>
                hslot _ rfl (Bool.not_eq_false _ ▸ hfits) hcopy

/-- **What a step of a call does** is one of these. -/
theorem goes_step : Goes sha256 i q o c (c.step sha256 env i q o).1 (c.step sha256 env i q o).2.1
    (c.step sha256 env i q o).2.2 := by
  rw [Call.step]
  cases hphase : c.phase with
  | checks =>
      dsimp only
      cases h : c.checks o with
      | ok u => exact .admitted hphase (checks_ok h)
      | error p => exact .refused _ p.2 hphase (checks_error h)
  | pin =>
      refine goes_attempt (by rw [hphase]; rfl) (by rw [hphase]; simp) change_pin
        fun p q' h hchange => ?_
      obtain ⟨a, ha, rfl, rfl⟩ := pin_ok h
      exact .pinned a hphase ha hchange
  | pause =>
      refine goes_attempt (by rw [hphase]; rfl) (by rw [hphase]; simp) change_pause
        fun _ q' _ hchange => .moved q' _ ?_ hchange
      rw [hphase]
      exact .pause
  | drain =>
      exact goes_attempt (by rw [hphase]; rfl) (by rw [hphase]; simp) (.of_after after_drain)
        fun _ q' _ hchange => .moved q' _ (quiet_drain (Or.inl hphase)) hchange
  | waiting =>
      exact goes_attempt (by rw [hphase]; rfl) (by rw [hphase]; simp) (.of_after after_drainWoken)
        fun _ q' _ hchange => .moved q' _ (quiet_drain (Or.inr hphase)) hchange
  | validate =>
      refine goes_attempt (by rw [hphase]; rfl) (by rw [hphase]; simp) (.of_after after_validate)
        fun _ q' _ hchange => .moved q' _ ?_ hchange
      rw [hphase]
      exact .valid
  | copy => exact goes_copy hphase
  | revalidate =>
      refine goes_attempt (by rw [hphase]; rfl) (by rw [hphase]; simp) (.of_after after_validate)
        fun _ q' _ hchange => .moved q' _ ?_ hchange
      rw [hphase]
      exact .again
  | resume =>
      refine goes_attempt (by rw [hphase]; rfl) (by rw [hphase]; simp) change_resume
        fun u q' h _ => ?_
      obtain ⟨hclosed, rfl⟩ := resume_ok h
      exact .resumed hphase hclosed
  | stop message => exact .stopped message hphase
  | unpin failure =>
      refine .unpinned failure _ hphase ?_ fun t ht => ?_
      · cases c.token with
        | none => exact .same
        | some token => exact .unpinned token
      · rw [ht]
        change (q.pins.erase t).get? t = none
        rw [Dict.get?_erase, if_pos rfl]
  | finish => exact .finished hphase
  | done outcome => exact .ended (by rw [hphase]; rfl)

end Steps

/-! ### What is true of a call -/

/-- What the snapshot of a call is made of: the two ranges of the plane that was pinned. -/
def Call.bytes (c : Call) : List UInt8 := c.compressed ++ c.motion

/-- What is true of a call, in every world. -/
structure CallInv (sha256 : List UInt8 → String) (q : Queue) (o : Observer) (i : ℕ) (c : Call) :
    Prop where
  fresh : c.phase = .checks ∨ c.phase = .pin → c.token = none
  token : ∀ t, c.token = some t → t < q.nextPin
  held : ∀ t, c.token = some t → ∀ identity, q.pins.get? t = some identity →
    identity = c.identity ∧ ∃ a, q.allocations.get? identity.allocation = some a ∧ a.data = c.plane
  taken : c.phase.holds = true → c.token.isSome = true
  released : c.phase.released = true → ∀ t, c.token = some t → q.pins.get? t = none
  slot : c.phase ≠ .checks → c.phase.active = true → c.slot < maxSnapshots
  copied : c.phase.copied = true → c.copy = true → c.overlapped = false →
    o.slots[c.slot]? = some c.bytes
  failed : c.phase.failed = true → o.stopped = true ∧ q.closed = true
  count : o.snapshots.countP (fun r => decide (r.call = i)) = if c.phase.returned then 1 else 0
  returned : ∀ r, c.phase = .done (.returned r) → r ∈ o.snapshots ∧ r.call = i ∧
    r.identity = c.identity ∧ r.copy = c.copy ∧ (c.copy = false → r.sha256 = none) ∧
      (c.copy = true → c.overlapped = false → r.sha256 = some (sha256 c.bytes))

section Invariant

variable {sha256 : List UInt8 → String} {i : ℕ} {q q' : Queue} {o o' : Observer} {c c' : Call}

/-- A call that does nothing: a step of the queue, and what other calls do to the observer. -/
lemma CallInv.frame (h : CallInv sha256 q o i c) (o' : Observer) (hchange : Change q q')
    (hstopped : o.stopped = true → o'.stopped = true)
    (hsub : ∀ r ∈ o.snapshots, r ∈ o'.snapshots)
    (hcount : o'.snapshots.countP (fun r => decide (r.call = i)) =
      o.snapshots.countP fun r => decide (r.call = i))
    (hslots : c.phase.copied = true → c.overlapped = true ∨ o'.slots[c.slot]? = o.slots[c.slot]?) :
    CallInv sha256 q' o' i c where
  fresh := h.fresh
  token t ht := Nat.lt_of_lt_of_le (h.token t ht) hchange.nextPin
  held t ht identity hpin := by
    rcases hchange.pins hpin with hold | hnew
    · obtain ⟨rfl, a, ha, hdata⟩ := h.held t ht identity hold
      obtain ⟨a', ha', hsame⟩ := hchange.data hold ha
      exact ⟨rfl, a', ha', hsame.trans hdata⟩
    · exact absurd (h.token t ht) (by omega)
  taken := h.taken
  released hreleased t ht := by
    rw [Option.eq_none_iff_forall_ne_some]
    intro identity hpin
    rcases hchange.pins hpin with hold | hnew
    · exact absurd (h.released hreleased t ht) (by simp [hold])
    · exact absurd (h.token t ht) (by omega)
  slot := h.slot
  copied hcopied hcopy hover := by
    rcases hslots hcopied with hsame | hsame
    · exact absurd hover (by simp [hsame])
    · rw [hsame]
      exact h.copied hcopied hcopy hover
  failed hfailed := ⟨hstopped (h.failed hfailed).1, hchange.closed (h.failed hfailed).2⟩
  count := hcount.trans h.count
  returned r hr := by
    obtain ⟨hmem, hrest⟩ := h.returned r hr
    exact ⟨hsub r hmem, hrest⟩

lemma Quiet.phases {p next : Phase} (h : Quiet p next) : p.holds = true ∧ p.active = true ∧
    p ≠ .checks ∧ next.released = false ∧ next.failed = false ∧
      (next.copied = true → p.copied = true) ∧ (next ≠ .checks ∧ next ≠ .pin) ∧
        ∀ outcome, next ≠ .done outcome := by
  cases h <;> simp [Phase.holds, Phase.active, Phase.released, Phase.failed, Phase.copied]

lemma not_returned (h : c.phase.active = true) : c.phase.returned = false := by
  cases hphase : c.phase <;> simp_all [Phase.returned, Phase.active]

/-- A call that goes on to a phase, and does not return. -/
lemma CallInv.rephase (h : CallInv sha256 q o i c) (next : Phase) (elapsed : ℚ)
    (hactive : c.phase.active = true) (hfresh : next ≠ .checks ∧ next ≠ .pin)
    (hholds : next.holds = true → c.phase.holds = true)
    (hreleased : next.released = true → ∀ t, c.token = some t → q.pins.get? t = none)
    (hslot : next.active = true → c.slot < maxSnapshots)
    (hcopied : next.copied = true → c.copy = true → c.overlapped = false →
      o.slots[c.slot]? = some c.bytes)
    (hfailed : next.failed = true → o.stopped = true ∧ q.closed = true)
    (hreturned : ∀ r, next ≠ .done (.returned r)) :
    CallInv sha256 q o i { c with elapsed, phase := next } where
  fresh hphase := absurd hphase (not_or.mpr hfresh)
  token := h.token
  held := h.held
  taken hnext := h.taken (hholds hnext)
  released := hreleased
  slot _ := hslot
  copied := hcopied
  failed := hfailed
  count := by
    have hcount := h.count
    have hnext : next.returned = false := by
      cases next with
      | done outcome =>
          cases outcome with
          | returned r => exact absurd rfl (hreturned r)
          | _ => rfl
      | _ => rfl
    rw [not_returned hactive] at hcount
    dsimp only
    rw [hnext]
    exact hcount
  returned r hr := absurd hr (hreturned r)

/-- **A step of the call itself.** -/
theorem CallInv.goes (h : CallInv sha256 q o i c) (hgoes : Goes sha256 i q o c q' o' c')
    (hslots : o.slots.length = maxSnapshots) : CallInv sha256 q' o' i c' := by
  cases hgoes with
  | ended => exact h
  | moved q' next hquiet hchange =>
      obtain ⟨hholds, hactive, hchecks, hreleased, hfailed, hcopied, hfresh, hdone⟩ := hquiet.phases
      have hframe := h.frame o hchange id (fun _ => id) rfl fun _ => Or.inr rfl
      exact hframe.rephase _ c.elapsed hactive hfresh (fun _ => hholds)
        (fun hr => absurd hr (by simp [hreleased])) (fun _ => h.slot hchecks hactive)
        (fun hc => h.copied (hcopied hc)) (fun hf => absurd hf (by simp [hfailed]))
        fun r => hdone _
  | refused message stopped hphase hstopped =>
      have hframe := h.frame { o with stopped } .same hstopped (fun _ => id) rfl
        fun _ => Or.inr rfl
      have htoken := h.fresh (Or.inl hphase)
      refine hframe.rephase _ c.elapsed (by rw [hphase]; rfl) (by simp) (by simp [Phase.holds])
        (fun _ t ht => absurd (htoken.symm.trans ht) (by simp)) (by simp [Phase.active])
        (by simp [Phase.copied]) (by simp [Phase.failed]) (by simp)
  | admitted hphase hroom =>
      have htoken := h.fresh (Or.inl hphase)
      have hcount := h.count
      rw [not_returned (by rw [hphase]; rfl)] at hcount
      exact
        { fresh := fun _ => htoken
          token := h.token
          held := h.held
          taken := by simp [Phase.holds]
          released := by simp [Phase.released]
          slot := fun _ _ => hroom
          copied := by simp [Phase.copied]
          failed := by simp [Phase.failed]
          count := hcount
          returned := by simp }
  | pinned a hphase hget hchange =>
      have hcount := h.count
      rw [not_returned (by rw [hphase]; rfl)] at hcount
      exact
        { fresh := by simp
          token := fun t ht => by
            obtain rfl := Option.some.inj ht
            exact Nat.lt_succ_self _
          held := fun t ht identity hpin => by
            obtain rfl := Option.some.inj ht
            rw [Dict.get?_set, if_pos rfl] at hpin
            obtain rfl := Option.some.inj hpin
            exact ⟨rfl, a, hget, rfl⟩
          taken := fun _ => rfl
          released := by simp [Phase.released]
          slot := fun _ _ => h.slot (by rw [hphase]; simp) (by rw [hphase]; rfl)
          copied := by simp [Phase.copied]
          failed := by simp [Phase.failed]
          count := hcount
          returned := by simp }
  | raised q' message slots hactive hchecks hslots' hchange =>
      have hstop := h.rephase (.stop message) c.elapsed hactive (by simp) (by simp [Phase.holds])
        (by simp [Phase.released]) (fun _ => h.slot hchecks hactive) (by simp [Phase.copied])
        (by simp [Phase.failed]) (by simp)
      exact hstop.frame { o with slots } hchange id (fun _ => id) rfl (by simp [Phase.copied])
  | copied slot elapsed hphase hslot =>
      have hactive : c.phase.active = true := by rw [hphase]; rfl
      have hlt := h.slot (by rw [hphase]; simp) hactive
      have hframe := h.frame { o with slots := o.slots.set c.slot slot } .same id
        (fun _ => id) rfl (by rw [hphase]; simp [Phase.copied])
      refine hframe.rephase _ elapsed hactive (by simp) (fun _ => by rw [hphase]; rfl)
        (by simp [Phase.released]) (fun _ => hlt) (fun _ hcopy _ => ?_) (by simp [Phase.failed])
        (by simp)
      rw [List.getElem?_set_self (by omega), hslot hcopy]
      rfl
  | resumed hphase hclosed =>
      have hactive : c.phase.active = true := by rw [hphase]; rfl
      have hframe := h.frame o .resumed id (fun _ => id) rfl fun _ => Or.inr rfl
      exact hframe.rephase _ c.elapsed hactive (by simp) (fun _ => by rw [hphase]; rfl)
        (by simp [Phase.released]) (fun _ => h.slot (by rw [hphase]; simp) hactive)
        (fun _ => h.copied (by rw [hphase]; rfl)) (by simp [Phase.failed]) (by simp)
  | stopped message hphase =>
      have hactive : c.phase.active = true := by rw [hphase]; rfl
      have hframe := h.frame { o with stopped := true } .stopped (fun _ => rfl) (fun _ => id)
        rfl fun _ => Or.inr rfl
      exact hframe.rephase _ c.elapsed hactive (by simp) (by simp [Phase.holds])
        (by simp [Phase.released]) (fun _ => h.slot (by rw [hphase]; simp) hactive)
        (by simp [Phase.copied]) (fun _ => ⟨rfl, rfl⟩) (by simp)
  | unpinned failure q' hphase hchange hgone =>
      have hactive : c.phase.active = true := by rw [hphase]; rfl
      have hframe := h.frame o hchange id (fun _ => id) rfl fun _ => Or.inr rfl
      have hlt : c.slot < maxSnapshots := h.slot (by rw [hphase]; simp) hactive
      cases failure with
      | none =>
          exact hframe.rephase _ c.elapsed hactive (by simp) (fun _ => by rw [hphase]; rfl)
            (fun _ => hgone) (fun _ => hlt) (fun _ => hframe.copied (by rw [hphase]; rfl))
            (by simp [Phase.failed]) (by simp)
      | some message =>
          exact hframe.rephase _ c.elapsed hactive (by simp) (by simp [Phase.holds])
            (fun _ => hgone) (fun _ => hlt) (by simp [Phase.copied])
            (fun _ => hframe.failed (by rw [hphase]; rfl)) (by simp)
  | finished hphase =>
      have hcount := h.count
      rw [not_returned (by rw [hphase]; rfl)] at hcount
      exact
        { fresh := by simp
          token := h.token
          held := h.held
          taken := fun _ => h.taken (by rw [hphase]; rfl)
          released := fun _ => h.released (by rw [hphase]; rfl)
          slot := by simp [Phase.active]
          copied := by simp [Phase.copied]
          failed := by simp [Phase.failed]
          count := by
            rw [List.countP_append, hcount]
            simp [Call.result, Phase.returned]
          returned := fun r hr => by
            obtain rfl := Outcome.returned.inj (Phase.done.inj hr)
            refine ⟨List.mem_append_right _ (List.mem_singleton_self _), rfl, rfl, rfl, ?_, ?_⟩
            · intro hcopy
              have hcopy' : c.copy = false := hcopy
              rw [Call.result]
              simp [hcopy']
            · intro hcopy hover
              have hbytes := h.copied (by rw [hphase]; rfl) hcopy hover
              have hcopy' : c.copy = true := hcopy
              rw [Call.result]
              simp only [hcopy', if_true, List.getD_eq_getElem?_getD, hbytes, Option.getD_some]
              rfl }

/-- Another call of the observer begins. -/
lemma CallInv.mark (h : CallInv sha256 q o i c) (b : Bool) :
    CallInv sha256 q o i { c with overlapped := c.overlapped || b } where
  fresh := h.fresh
  token := h.token
  held := h.held
  taken := h.taken
  released := h.released
  slot := h.slot
  copied hcopied hcopy hover := h.copied hcopied hcopy (Bool.or_eq_false_iff.mp hover).1
  failed := h.failed
  count := h.count
  returned r hr := by
    obtain ⟨hmem, hcall, hidentity, hcopy, hnone, hsome⟩ := h.returned r hr
    exact ⟨hmem, hcall, hidentity, hcopy, hnone, fun hc hover =>
      hsome hc (Bool.or_eq_false_iff.mp hover).1⟩

/-- What a step of a call does to its observer, and to what others see of it. -/
structure Shares (i : ℕ) (q q' : Queue) (o o' : Observer) (c c' : Call) : Prop where
  change : Change q q'
  stopped : o.stopped = true → o'.stopped = true
  sub : ∀ r ∈ o.snapshots, r ∈ o'.snapshots
  others : ∀ r ∈ o'.snapshots, r ∈ o.snapshots ∨ r.call = i
  count : ∀ j, j ≠ i → o'.snapshots.countP (fun r => decide (r.call = j)) =
    o.snapshots.countP fun r => decide (r.call = j)
  slots : o'.slots = o.slots ∨ c.phase.active = true
  length : o'.slots.length = o.slots.length
  observer : c'.observer = c.observer
  overlapped : c'.overlapped = c.overlapped
  active : c'.phase.active = true → c.phase.active = true

/-- A step that leaves the snapshots. -/
lemma Shares.of_snapshots (hchange : Change q q') (hstopped : o.stopped = true → o'.stopped = true)
    (hsnapshots : o'.snapshots = o.snapshots) (hslots : o'.slots = o.slots ∨ c.phase.active = true)
    (hlength : o'.slots.length = o.slots.length) (hobserver : c'.observer = c.observer)
    (hoverlapped : c'.overlapped = c.overlapped)
    (hactive : c'.phase.active = true → c.phase.active = true) : Shares i q q' o o' c c' where
  change := hchange
  stopped := hstopped
  sub := fun r hr => by rw [hsnapshots]; exact hr
  others := fun r hr => Or.inl (by rw [← hsnapshots]; exact hr)
  count := fun _ _ => by rw [hsnapshots]
  slots := hslots
  length := hlength
  observer := hobserver
  overlapped := hoverlapped
  active := hactive

lemma Goes.shares (h : Goes sha256 i q o c q' o' c') : Shares i q q' o o' c c' := by
  cases h with
  | refused message stopped hphase hstopped =>
      exact .of_snapshots .same hstopped rfl (Or.inl rfl) rfl rfl rfl (by simp [Phase.active])
  | admitted hphase hroom =>
      exact .of_snapshots .same id rfl (Or.inl rfl) rfl rfl rfl fun _ => by rw [hphase]; rfl
  | pinned a hphase hget hchange =>
      exact .of_snapshots hchange id rfl (Or.inl rfl) rfl rfl rfl fun _ => by rw [hphase]; rfl
  | moved q' next hquiet hchange =>
      exact .of_snapshots hchange id rfl (Or.inl rfl) rfl rfl rfl fun _ => hquiet.phases.2.1
  | raised q' message slots hactive hchecks hslots hchange =>
      exact .of_snapshots hchange id rfl (Or.inr hactive) hslots.1 rfl rfl fun _ => hactive
  | copied slot elapsed hphase hslot =>
      exact .of_snapshots .same id rfl (Or.inr (by rw [hphase]; rfl)) List.length_set rfl rfl
        fun _ => by rw [hphase]; rfl
  | resumed hphase hclosed =>
      exact .of_snapshots .resumed id rfl (Or.inl rfl) rfl rfl rfl fun _ => by rw [hphase]; rfl
  | stopped message hphase =>
      exact .of_snapshots .stopped (fun _ => rfl) rfl (Or.inl rfl) rfl rfl rfl
        fun _ => by rw [hphase]; rfl
  | unpinned failure q' hphase hchange hgone =>
      exact .of_snapshots hchange id rfl (Or.inl rfl) rfl rfl rfl fun _ => by rw [hphase]; rfl
  | finished hphase =>
      exact
        { change := .same
          stopped := id
          sub := fun r hr => List.mem_append_left _ hr
          others := fun r hr => (List.mem_append.mp hr).imp id fun hr => by
            rw [List.mem_singleton.mp hr]
            rfl
          count := fun j hj => by
            rw [List.countP_append]
            simp [Call.result, hj.symm]
          slots := Or.inl rfl
          length := rfl
          observer := rfl
          overlapped := rfl
          active := by simp [Phase.active] }
  | ended hphase => exact .of_snapshots .same id rfl (Or.inl rfl) rfl rfl rfl id

end Invariant

/-! ### What is true of the world -/

/-- What is true of the world. -/
structure Inv (sha256 : List UInt8 → String) (w : World) : Prop where
  sound : Sound w.queue
  slots : ∀ o, (w.observers o).slots.length = maxSnapshots
  calls : ∀ (i : ℕ) (c : Call), w.calls[i]? = some c →
    CallInv sha256 w.queue (w.observers c.observer) i c
  overlap : ∀ (i j : ℕ) (c d : Call), w.calls[i]? = some c → w.calls[j]? = some d → i ≠ j →
    c.observer = d.observer → c.phase.active = true → d.phase.active = true → c.overlapped = true
  callers : ∀ o, ∀ r ∈ (w.observers o).snapshots, r.call < w.calls.length

section World

variable {sha256 : List UInt8 → String} {w w₀ : World} {label : Label} {labels : List Label}

lemma inv_new (context : String × String × String) (enabled : ℕ → Bool) :
    Inv sha256 (World.new context enabled) where
  sound := sound_new ..
  slots _ := List.length_replicate
  calls i c h := absurd h (by simp [World.new])
  overlap i j c d h := absurd h (by simp [World.new])
  callers o r h := absurd h (by simp [World.new, Observer.new])

/-- A call of a method of the queue. -/
lemma inv_method (h : Inv sha256 w) (m : Method) : Inv sha256 (step sha256 w (.method m)) where
  sound := (change_method m).sound h.sound
  slots := h.slots
  calls i c hc :=
    (h.calls i c hc).frame _ (change_method m) id (fun _ => id) rfl fun _ => Or.inr rfl
  overlap := h.overlap
  callers := h.callers

/-- A call after another begins, or the one that does. -/
lemma start_cases {i observer : ℕ} {layout : Option Layout} {identity : FakeQueue.Identity} {copy : Bool}
    {seconds : ℚ} {c : Call}
    (h : (step sha256 w (.start observer layout identity copy seconds)).calls[i]? = some c) :
    (∃ d, w.calls[i]? = some d ∧ c = { d with overlapped := d.overlapped || d.uses observer }) ∨
      i = w.calls.length ∧ c =
        { observer, layout, identity, copy, drainSeconds := seconds,
          overlapped := w.calls.any (Call.uses observer) } := by
  change (w.calls.map (fun c : Call => { c with overlapped := c.overlapped || c.uses observer }) ++
    [_])[i]? = some c at h
  rw [List.getElem?_append] at h
  split_ifs at h with hlt
  · rw [List.getElem?_map, Option.map_eq_some_iff] at h
    obtain ⟨d, hd, rfl⟩ := h
    exact Or.inl ⟨d, hd, rfl⟩
  · rw [List.length_map] at h hlt
    rw [List.getElem?_singleton] at h
    split_ifs at h with hzero
    exact Or.inr ⟨by omega, (Option.some.inj h).symm⟩

lemma inv_start (h : Inv sha256 w) (observer : ℕ) (layout : Option Layout) (identity : FakeQueue.Identity)
    (copy : Bool) (seconds : ℚ) :
    Inv sha256 (step sha256 w (.start observer layout identity copy seconds)) where
  sound := h.sound
  slots := h.slots
  calls i c hc := by
    rcases start_cases hc with ⟨d, hd, rfl⟩ | ⟨rfl, rfl⟩
    · exact (h.calls i d hd).mark _
    · exact
        { fresh := fun _ => rfl
          token := by simp
          held := by simp
          taken := by simp [Phase.holds]
          released := by simp
          slot := by simp
          copied := by simp [Phase.copied]
          failed := by simp [Phase.failed]
          count := by
            rw [List.countP_eq_zero.mpr fun r hr => ?_]
            · rfl
            · have := h.callers _ r hr
              simp only [decide_eq_true_eq]
              omega
          returned := by simp }
  overlap i j c d hc hd hij hobserver hactive hactive' := by
    have hany : ∀ {k : ℕ} {d : Call}, w.calls[k]? = some d → d.observer = observer →
        d.phase.active = true → w.calls.any (Call.uses observer) = true := fun hd heq hact =>
      List.any_eq_true.mpr ⟨_, List.mem_of_getElem? hd, by
        rw [Call.uses, decide_eq_true heq, hact]
        rfl⟩
    rcases start_cases hc with ⟨c, hc', rfl⟩ | ⟨rfl, rfl⟩ <;>
      rcases start_cases hd with ⟨d, hd', rfl⟩ | ⟨rfl, rfl⟩
    · have hover := h.overlap i j c d hc' hd' hij hobserver hactive hactive'
      dsimp only
      rw [hover, Bool.true_or]
    · have hon : c.uses observer = true := by
        rw [Call.uses, decide_eq_true hobserver, Bool.true_and]
        exact hactive
      dsimp only
      rw [hon, Bool.or_true]
    · exact hany hd' hobserver.symm hactive'
    · exact absurd rfl hij
  callers o r hr := by
    have hold := h.callers o r hr
    rw [show (step sha256 w (.start observer layout identity copy seconds)).calls.length =
      w.calls.length + 1 by simp [step]]
    omega

/-- A call goes on. -/
lemma inv_advance (h : Inv sha256 w) (i : ℕ) (env : Env) :
    Inv sha256 (step sha256 w (.advance i env)) := by
  rw [step]
  cases hc : w.calls[i]? with
  | none => exact h
  | some c =>
      dsimp only
      have hgoes := @goes_step sha256 i w.queue (w.observers c.observer) c env
      generalize c.step sha256 env i w.queue (w.observers c.observer) = p at hgoes ⊢
      obtain ⟨q', o', c'⟩ := p
      dsimp only at hgoes ⊢
      have hshares := hgoes.shares
      have hlt := (List.getElem?_eq_some_iff.mp hc).1
      have hget : ∀ {j d}, (w.calls.set i c')[j]? = some d →
          (j = i ∧ d = c') ∨ (j ≠ i ∧ w.calls[j]? = some d) := by
        intro j d hd
        rw [List.getElem?_set] at hd
        split_ifs at hd with hij
        · exact Or.inl ⟨hij.symm, (Option.some.inj hd).symm⟩
        · exact Or.inr ⟨Ne.symm hij, hd⟩
      exact
        { sound := hshares.change.sound h.sound
          slots := fun o => by
            dsimp only
            rw [Function.update_apply]
            split_ifs with ho
            · exact hshares.length.trans (h.slots _)
            · exact h.slots o
          calls := fun j d hd => by
            dsimp only at hd ⊢
            rcases hget hd with ⟨rfl, rfl⟩ | ⟨hij, hd⟩
            · rw [hshares.observer, Function.update_self]
              exact (h.calls j c hc).goes hgoes (h.slots _)
            · rw [Function.update_apply]
              split_ifs with ho
              · have hinv := h.calls j d hd
                rw [ho] at hinv
                refine hinv.frame _ hshares.change hshares.stopped hshares.sub (hshares.count j hij)
                  fun hcopied => ?_
                rcases hshares.slots with hsame | hactive
                · rw [hsame]
                  exact Or.inr rfl
                · refine Or.inl (h.overlap j i d c hd hc hij ho ?_ hactive)
                  cases hphase : d.phase <;> simp_all [Phase.copied, Phase.active]
              · exact (h.calls j d hd).frame _ hshares.change id (fun _ => id) rfl
                  fun _ => Or.inr rfl
          overlap := fun j k d f hd hf hjk hobserver hactive hactive' => by
            rcases hget hd with ⟨rfl, rfl⟩ | ⟨_, hold⟩ <;>
              rcases hget hf with ⟨rfl, rfl⟩ | ⟨_, hold'⟩
            · exact absurd rfl hjk
            · rw [hshares.overlapped]
              exact h.overlap j k c f hc hold' hjk (hshares.observer.symm.trans hobserver)
                (hshares.active hactive) hactive'
            · exact h.overlap j k d c hold hc hjk (hobserver.trans hshares.observer) hactive
                (hshares.active hactive')
            · exact h.overlap j k d f hold hold' hjk hobserver hactive hactive'
          callers := fun o r hr => by
            dsimp only at hr ⊢
            rw [List.length_set]
            rw [Function.update_apply] at hr
            split_ifs at hr with ho
            · rcases hshares.others r hr with hold | rfl
              · exact h.callers _ r hold
              · exact hlt
            · exact h.callers o r hr }

/-- **What is true of the world stays true.** -/
theorem inv_step (h : Inv sha256 w) (label : Label) : Inv sha256 (step sha256 w label) := by
  cases label with
  | method m => exact inv_method h m
  | start observer layout identity copy seconds =>
      exact inv_start h observer layout identity copy seconds
  | advance i env => exact inv_advance h i env

/-- In all runs. -/
theorem inv_run (h : Inv sha256 w) (labels : List Label) : Inv sha256 (run sha256 w labels) := by
  induction labels generalizing w with
  | nil => exact h
  | cons label labels ih => exact ih (inv_step h label)

/-! ### The pause -/

/-- The call has resumed the queue: in one of its steps the queue became free, and was not closed. -/
def Resumes (sha256 : List UInt8 → String) (w₀ : World) (labels : List Label) (i : ℕ) : Prop :=
  ∃ before env later c, labels = before ++ Label.advance i env :: later ∧
    (run sha256 w₀ before).calls[i]? = some c ∧ c.phase = .resume ∧
      (run sha256 w₀ (before ++ [Label.advance i env])).queue.paused = false ∧
        (run sha256 w₀ (before ++ [Label.advance i env])).queue.closed = false

lemma Resumes.append {i : ℕ} (h : Resumes sha256 w₀ labels i) (more : List Label) :
    Resumes sha256 w₀ (labels ++ more) i := by
  obtain ⟨before, env, later, c, rfl, hrest⟩ := h
  exact ⟨before, env, later ++ more, c, by rw [List.append_assoc]; rfl, hrest⟩

/-- The call has gone well so far, and has resumed. -/
def Phase.well : Phase → Bool
  | .unpin none | .finish | .done (.returned _) => true
  | _ => false

/-- A call that goes well has gone well before, or resumes. -/
lemma Goes.well {i : ℕ} {q q' : Queue} {o o' : Observer} {c c' : Call}
    (h : Goes sha256 i q o c q' o' c') (hwell : c'.phase.well = true) :
    c.phase.well = true ∨ c.phase = .resume ∧ q'.paused = false ∧ q'.closed = false := by
  cases h with
  | resumed hphase hclosed => exact Or.inr ⟨hphase, rfl, hclosed⟩
  | unpinned failure q' hphase hchange hgone =>
      cases failure with
      | none => exact Or.inl (by rw [hphase]; rfl)
      | some message => exact absurd hwell (by simp [Phase.well])
  | finished hphase => exact Or.inl (by rw [hphase]; rfl)
  | ended => exact Or.inl hwell
  | moved q' next hquiet hchange =>
      refine absurd hwell ?_
      generalize c.phase = p at hquiet
      cases hquiet <;> simp [Phase.well]
  | _ => exact absurd hwell (by simp [Phase.well])

/-- **A call that goes well has resumed the queue.** -/
theorem resumes_of_run (hnew : w₀.calls = []) {i : ℕ} {c : Call}
    (hc : (run sha256 w₀ labels).calls[i]? = some c) (hwell : c.phase.well = true) :
    Resumes sha256 w₀ labels i := by
  induction labels using List.reverseRecOn generalizing c with
  | nil =>
      rw [run, List.foldl_nil, hnew] at hc
      exact absurd hc (by simp)
  | append_singleton labels label ih =>
      have hlast : run sha256 w₀ (labels ++ [label]) =
          step sha256 (run sha256 w₀ labels) label := by
        rw [run, List.foldl_append]
        rfl
      rw [hlast] at hc
      cases label with
      | method m => exact (ih hc hwell).append _
      | start observer layout identity copy seconds =>
          rcases start_cases hc with ⟨d, hd, rfl⟩ | ⟨rfl, rfl⟩
          · exact (ih hd hwell).append _
          · exact absurd hwell (by simp [Phase.well])
      | advance j env =>
          cases hd : (run sha256 w₀ labels).calls[j]? with
          | none =>
              rw [step, hd] at hc
              exact (ih hc hwell).append _
          | some d =>
              have hgoes := @goes_step sha256 j (run sha256 w₀ labels).queue
                ((run sha256 w₀ labels).observers d.observer) d env
              have hqueue : (step sha256 (run sha256 w₀ labels) (.advance j env)).queue =
                  (d.step sha256 env j (run sha256 w₀ labels).queue
                    ((run sha256 w₀ labels).observers d.observer)).1 := by
                rw [step, hd]
              rw [step, hd] at hc
              dsimp only at hc
              rw [← hqueue] at hgoes
              generalize (d.step sha256 env j (run sha256 w₀ labels).queue
                ((run sha256 w₀ labels).observers d.observer)) = p at hgoes hc
              rw [List.getElem?_set] at hc
              split_ifs at hc with hij
              · obtain rfl := hij
                obtain rfl := Option.some.inj hc
                rcases hgoes.well hwell with hold | ⟨hphase, hpaused, hclosed⟩
                · exact (ih hd hold).append _
                · refine ⟨labels, env, [], d, rfl, hd, hphase, ?_, ?_⟩
                  · rw [hlast]
                    exact hpaused
                  · rw [hlast]
                    exact hclosed
              · exact (ih hc hwell).append _

end World

/-! ### Retention -/

/-- What a call leaves when it ends. -/
structure Leaves (sha256 : List UInt8 → String) (w₀ : World) (labels : List Label) (w : World)
    (i : ℕ) (c : Call) (outcome : Outcome) : Prop where
  released : ∀ t, c.token = some t → w.queue.pins.get? t = none
  returned : ∀ r, outcome = .returned r → (∃ t, c.token = some t) ∧ Resumes sha256 w₀ labels i ∧
    (w.observers c.observer).snapshots.countP (fun r => decide (r.call = i)) = 1 ∧
      r ∈ (w.observers c.observer).snapshots ∧ r.call = i ∧ r.identity = c.identity ∧
        (c.copy = true → c.overlapped = false → r.sha256 = some (sha256 c.bytes))
  failed : ∀ message, outcome = .failed message →
    (w.observers c.observer).snapshots.countP (fun r => decide (r.call = i)) = 0 ∧
      (w.observers c.observer).stopped = true ∧ w.queue.closed = true
  refused : ∀ message, outcome = .refused message →
    (w.observers c.observer).snapshots.countP (fun r => decide (r.call = i)) = 0

section World

variable {sha256 : List UInt8 → String} {w w₀ : World} {labels : List Label} {i : ℕ} {c : Call}
  {outcome : Outcome}

lemma change_step (w : World) (label : Label) : Change w.queue (step sha256 w label).queue := by
  cases label with
  | method m => exact change_method m
  | start => exact .same
  | advance i env =>
      rw [step]
      cases w.calls[i]? with
      | none => exact .same
      | some c => exact goes_step.shares.change

/-- The checks of a call leave the queue and the snapshots. -/
lemma step_checks (hc : w.calls[i]? = some c) (hphase : c.phase = .checks) (env : Env) :
    (step sha256 w (.advance i env)).queue = w.queue ∧
      ∀ o, ((step sha256 w (.advance i env)).observers o).snapshots =
        (w.observers o).snapshots := by
  have hobserver : ∀ o' o, o'.snapshots = (w.observers c.observer).snapshots →
      ((Function.update w.observers c.observer o') o).snapshots = (w.observers o).snapshots := by
    intro o' o ho'
    rw [Function.update_apply]
    split_ifs with ho
    · rw [ho', ho]
    · rfl
  rw [step, hc]
  dsimp only
  rw [Call.step, hphase]
  dsimp only
  cases c.checks (w.observers c.observer) with
  | ok u => exact ⟨rfl, fun o => hobserver _ o rfl⟩
  | error p => exact ⟨rfl, fun o => hobserver _ o rfl⟩

/-- What a call leaves is read off its invariant. -/
lemma leaves_of_run (h : Inv sha256 w) (hrun : w = run sha256 w₀ labels)
    (hnew : w₀.calls = []) (hc : w.calls[i]? = some c) (hphase : c.phase = .done outcome) :
    Leaves sha256 w₀ labels w i c outcome where
  released := (h.calls i c hc).released (by rw [hphase]; rfl)
  returned r hr := by
    subst hr
    have hinv := h.calls i c hc
    have hcount := hinv.count
    rw [hphase] at hcount
    obtain ⟨hmem, hcall, hidentity, hcopy, hnone, hsome⟩ := hinv.returned r hphase
    refine ⟨Option.isSome_iff_exists.mp (hinv.taken (by rw [hphase]; rfl)), ?_, hcount, hmem, hcall,
      hidentity, hsome⟩
    rw [hrun] at hc
    exact resumes_of_run hnew hc (by rw [hphase]; rfl)
  failed message hmessage := by
    subst hmessage
    have hcount := (h.calls i c hc).count
    rw [hphase] at hcount
    exact ⟨hcount, (h.calls i c hc).failed (by rw [hphase]; rfl)⟩
  refused message hmessage := by
    subst hmessage
    have hcount := (h.calls i c hc).count
    rw [hphase] at hcount
    exact hcount

end World

/-- **What a snapshot retains.**  In all interleavings, while a pin is held its allocation is there,
and its writer is the one that was pinned; `complete` finds the allocation of its job, and never a
writer of a retained one; no job is added while the queue is paused; the bytes that a call has under
its pin are those of the allocation; and a call that ends leaves its pin released and, if it returns,
one new snapshot and the queue resumed, with the digest of the compressed and of the motion range if
it copies and no other call of the observer has been under way at the same time; if it fails after
its checks, no new snapshot, the observer stopped and the queue closed.  The checks leave the queue
and the snapshots as they are. -/
theorem retention (sha256 : List UInt8 → String) (context : String × String × String)
    (enabled : ℕ → Bool) (labels : List Label) :
    let w₀ := World.new context enabled
    let w := run sha256 w₀ labels
    (∀ t identity, w.queue.pins.get? t = some identity →
      ∃ a, w.queue.allocations.get? identity.allocation = some a ∧ a.writer = some identity) ∧
    (∀ job, (∀ item, w.queue.inflight.get? job = some item →
        ∃ a, w.queue.allocations.get? item.allocation = some a) ∧
      ∀ e q', complete job w.queue = .error e q' → e ≠ .raise "writer changed while retained") ∧
    (∀ label, w.queue.paused = true → ∀ job item,
      (step sha256 w label).queue.inflight.get? job = some item →
        w.queue.inflight.get? job = some item) ∧
    ∀ i c, w.calls[i]? = some c →
      (c.phase = .checks → ∀ env, (step sha256 w (.advance i env)).queue = w.queue ∧
        ∀ o, ((step sha256 w (.advance i env)).observers o).snapshots = (w.observers o).snapshots) ∧
      (∀ t identity, c.token = some t → w.queue.pins.get? t = some identity →
        identity = c.identity ∧
          ∃ a, w.queue.allocations.get? identity.allocation = some a ∧ a.data = c.plane) ∧
      ∀ outcome, c.phase = .done outcome → Leaves sha256 w₀ labels w i c outcome := by
  intro w₀ w
  have h : Inv sha256 w := inv_run (inv_new context enabled) labels
  refine ⟨h.sound.pins, fun job => h.sound.complete, fun label hpaused job item hjob =>
    (change_step w label).inflight hpaused hjob, fun i c hc => ⟨fun hphase env =>
      step_checks hc hphase env, fun t identity ht hpin => (h.calls i c hc).held t ht identity hpin,
      fun outcome hphase => leaves_of_run h rfl rfl hc hphase⟩⟩

/-- A call that is refused leaves the observer and the queue as they are. -/
theorem refused_leaves : ¬∀ (sha256 : List UInt8 → String) (context : String × String × String)
    (enabled : ℕ → Bool) (labels : List Label) (i : ℕ) (c : Call) (message : String),
      (run sha256 (World.new context enabled) labels).calls[i]? = some c →
        c.phase = .done (.failed message) ∨ c.phase = .done (.refused message) →
          ((run sha256 (World.new context enabled) labels).observers c.observer).stopped = true ∧
            (run sha256 (World.new context enabled) labels).queue.closed = true := by
  intro hall
  have hclosed := (hall (fun _ => "") ("run-1", "context-1", "self") (fun _ => false)
    [.start 0 none ⟨"run-1", "context-1", 3, 7, 1, 28, 32⟩ true 2, .advance 0 ⟨false, .ok 0, .ok 0⟩]
    0 _ _ rfl (Or.inr rfl)).2
  exact absurd hclosed (by decide)

end OmarchyM1Video.ReferenceContent.Snapshot
