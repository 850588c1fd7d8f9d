import OmarchyM1Video.HevcControls.Ledger
import OmarchyM1Video.HevcControls.Records

/-!
The accounting of an accepted trace, told by its actions alone.

A request-queue operation is a picture; it carries the timestamp of the OUTPUT buffer that was
queued with its request.  The bookkeeping of the event loop agrees with what the actions so far say
(`Tracks`), so the checks of the loop and those after it are statements about the trace.

* `Carries`, `PictureAt`: the timestamp of a request and of a picture, read off the actions;
* `Ledger.Step.stampOf`, `Ledger.Step.stamps`, …: what one action does to each view of the ledger;
* `Tracks`, `tracks_of_run`: the bookkeeping agrees with the actions after every run of the loop;
* `Accounted`, `normalize_accounted`: no picture of an accepted trace is lost, duplicated or
  completed twice.
-/

namespace OmarchyM1Video.HevcControls

open OmarchyM1Video.Py

/-! ### What the actions say -/

namespace Action

/-- The request behind the descriptor starts over. -/
def Resets (f : ℤ) (a : Action) : Prop := a = .alloc f ∨ a = .reinit f

/-- The request behind the descriptor gets controls or an OUTPUT buffer. -/
def Fills (f : ℤ) (a : Action) : Prop := a = .setControls f ∨ ∃ bi ts, a = .queueOutput bi f ts

/-- A CAPTURE buffer is dequeued. -/
def CompletesOn (bi : ℤ) (a : Action) : Prop := ∃ ts, a = .completeCapture bi ts

/-- An OUTPUT buffer is queued or dequeued. -/
def UsesOutput (bi : ℤ) (a : Action) : Prop :=
  (∃ f ts, a = .queueOutput bi f ts) ∨ ∃ ts, a = .dequeueOutput bi ts

/-- A request-queue operation. -/
def isQueue : Action → Bool
  | .queue _ => true
  | _ => false

/-- A CAPTURE completion with the timestamp. -/
def completes (ts : ℤ) : Action → Bool
  | .completeCapture _ t => t = ts
  | _ => false

end Action

/-- The request behind the descriptor carries the timestamp: an OUTPUT buffer with it was queued,
and the request has not started over since. -/
def Carries (log : List Action) (f ts : ℤ) : Prop :=
  Since (fun a => ∃ bi, a = .queueOutput bi f ts) (Action.Resets f) log

/-- The request-queue operation after `k` others carries the timestamp. -/
def PictureAt (log : List Action) (k : ℕ) (ts : ℤ) : Prop :=
  ∃ pre f post, log = pre ++ .queue f :: post ∧ pre.countP Action.isQueue = k ∧ Carries pre f ts

lemma pictureAt_concat {log : List Action} {a : Action} {k : ℕ} {ts : ℤ} :
    PictureAt (log ++ [a]) k ts ↔
      PictureAt log k ts ∨ ∃ f, a = .queue f ∧ log.countP Action.isQueue = k ∧ Carries log f ts := by
  constructor
  · rintro ⟨pre, f, post, hsplit, hk, hts⟩
    rcases split_concat.mp hsplit with ⟨rfl, rfl, rfl⟩ | ⟨post', rfl, rfl⟩
    · exact Or.inr ⟨f, rfl, hk, hts⟩
    · exact Or.inl ⟨pre, f, post', rfl, hk, hts⟩
  · rintro (⟨pre, f, post, rfl, hk, hts⟩ | ⟨f, rfl, hk, hts⟩)
    · exact ⟨pre, f, post ++ [a], by simp, hk, hts⟩
    · exact ⟨log, f, [], rfl, hk, hts⟩

/-- **The accounting of a trace**, where `log` is what its events do. -/
structure Accounted (expected : ℤ) (log : List Action) : Prop where
  /-- There are as many request-queue operations as expected. -/
  count : (log.countP Action.isQueue : ℤ) = expected
  /-- Each of them carries one timestamp. -/
  stamped : ∀ pre f post, log = pre ++ .queue f :: post → ∃! ts, Carries pre f ts
  /-- No two of them carry the same one. -/
  distinct : ∀ j k ts, PictureAt log j ts → PictureAt log k ts → j = k
  /-- Each is completed once. -/
  completed : ∀ k ts, PictureAt log k ts → log.countP (Action.completes ts) = 1
  /-- A completion is on a buffer that is queued, and of a picture that has been queued. -/
  completion : ∀ pre bi ts post, log = pre ++ .completeCapture bi ts :: post →
    Since (fun a => a = .queueCapture bi) (Action.CompletesOn bi) pre ∧ ∃ k, PictureAt pre k ts
  /-- An OUTPUT buffer is dequeued with the timestamp it was queued with. -/
  output : ∀ pre bi f ts post, log = pre ++ .queueOutput bi f ts :: post →
    Later (fun a => a = .dequeueOutput bi ts) (Action.UsesOutput bi) post
  /-- A request that carries controls or an OUTPUT buffer is queued before it starts over. -/
  queued : ∀ pre f a post, log = pre ++ a :: post → a.Fills f →
    Later (fun b => b = .queue f) (Action.Resets f) post

/-! ### Views of the ledger -/

namespace Ledger

variable {l l' : Ledger} {a : Action}

/-- The timestamp of the request behind a descriptor. -/
def stampOf (l : Ledger) (f : ℤ) : Option ℤ :=
  (l.requests.get? f).bind fun id => (l.objects id).timestamp

/-- The timestamps of the pictures. -/
def stamps (l : Ledger) : List (Option ℤ) := l.pictures.map fun id => (l.objects id).timestamp

/-- Whether the picture with the timestamp is complete. -/
def completed (l : Ledger) (ts : ℤ) : Bool :=
  (l.byTimestamp.get? ts).any fun id => (l.objects id).complete

/-- The request behind the descriptor holds something and has not been queued. -/
def Unqueued (l : Ledger) (f : ℤ) : Prop :=
  ∃ id, l.requests.get? f = some id ∧ (l.objects id).queued = false ∧
    (l.objects id).isEmpty = false

/-- The object of a descriptor is the object of no other one. -/
lemma Inv.requestId_ne (h : l.Inv) {f g : ℤ} {id : ℕ} (hg : l.requests.get? g = some id)
    (hne : g ≠ f) : id ≠ l.requestId f := by
  rw [requestId]
  cases hf : l.requests.get? f with
  | some i =>
      rintro rfl
      exact hne (h.reqInj g f id hg hf)
  | none => exact (h.reqLt g id hg).ne

/-! ### What an action does to each view -/

/-- An assignment that keeps a key of its object keeps it in all of them. -/
lemma write_keeps {β : Type} (key : Req → β) {id : ℕ} {r : Req} (hr : key r = key (l.objects id))
    (i : ℕ) : key ((l.write id r).objects i) = key (l.objects i) := by
  rw [write_objects]
  split_ifs with hi
  · rw [hi, hr]
  · rfl

lemma opened_write_keeps {β : Type} (key : Req → β) {g : ℤ} {r : Req}
    (hr : key r = key (l.objects (l.requestId g))) (i : ℕ) :
    key (((l.opened g).write (l.requestId g) r).objects i) = key (l.objects i) := by
  rw [write_keeps key (by rw [hr, opened_objects]), opened_objects]

lemma stampOf_congr {f : ℤ} (hreq : l'.requests.get? f = l.requests.get? f)
    (hobj : ∀ id, (l'.objects id).timestamp = (l.objects id).timestamp) :
    l'.stampOf f = l.stampOf f := by
  simp only [stampOf, hreq, hobj]

lemma stampOf_erase {g f : ℤ} {allocations : Finset ℤ} :
    ({ l with allocations, requests := l.requests.erase g } : Ledger).stampOf f =
      if f = g then none else l.stampOf f := by
  simp only [stampOf, Dict.get?_erase]
  split_ifs <;> rfl

/-- The request that `setdefault` returns has the timestamp of its descriptor. -/
lemma Inv.stampOf_requestId (h : l.Inv) {f : ℤ} :
    (l.objects (l.requestId f)).timestamp = l.stampOf f := by
  rw [requestId, stampOf]
  cases hf : l.requests.get? f with
  | some id => rfl
  | none =>
      change (l.objects l.created).timestamp = none
      rw [h.fresh _ le_rfl]

lemma Inv.stampOf_opened_write (h : l.Inv) {g f : ℤ} {r : Req} :
    ((l.opened g).write (l.requestId g) r).stampOf f =
      if f = g then r.timestamp else l.stampOf f := by
  change (((l.opened g).requests.get? f).bind fun id =>
    (((l.opened g).write (l.requestId g) r).objects id).timestamp) = _
  rw [opened_requests]
  split_ifs with hf
  · rw [Option.bind_some, write_objects, if_pos rfl]
  · cases hreq : l.requests.get? f with
    | none => simp [stampOf, hreq]
    | some id =>
        rw [Option.bind_some, write_objects, if_neg (h.requestId_ne hreq hf), opened_objects]
        simp [stampOf, hreq]

/-- The timestamp of a request comes with its OUTPUT buffer and goes when the request starts
over. -/
lemma Step.stampOf (hstep : Step l a l') (h : l.Inv) {f ts : ℤ} :
    l'.stampOf f = some ts ↔
      (∃ bi, a = .queueOutput bi f ts) ∨ (l.stampOf f = some ts ∧ ¬a.Resets f) := by
  cases hstep with
  | other => simp [Action.Resets]
  | @alloc g _ =>
      rw [stampOf_erase]
      by_cases hf : g = f
      · simp [hf, Action.Resets]
      · simp [hf, Ne.symm hf, Action.Resets]
  | @reinitUnused g hreq =>
      by_cases hf : g = f
      · subst hf
        simp [Action.Resets, Ledger.stampOf, hreq]
      · simp [hf, Action.Resets]
  | @reinit g id _ _ =>
      rw [stampOf_erase]
      by_cases hf : g = f
      · simp [hf, Action.Resets]
      · simp [hf, Ne.symm hf, Action.Resets]
  | queue dp sl sps _ _ _ _ =>
      refine (Eq.congr_left (stampOf_congr (l := l) (by rfl) ?_)).trans ?_
      · exact write_keeps Req.timestamp (by rfl)
      · simp [Action.Resets]
  | @setControls g cs _ =>
      rw [h.stampOf_opened_write, h.stampOf_requestId]
      by_cases hf : f = g
      · simp [hf, Action.Resets]
      · simp [hf, Action.Resets]
  | @queueOutput index g t hunused _ =>
      have hnone : l.stampOf g = none := h.stampOf_requestId.symm.trans hunused
      refine (Eq.congr_left h.stampOf_opened_write).trans ?_
      by_cases hf : g = f
      · subst hf
        simp [hnone]
      · simp [hf, Ne.symm hf, Action.Resets]
  | dequeueOutput _ =>
      refine (Eq.congr_left (stampOf_congr (l := l) rfl fun _ => rfl)).trans ?_
      simp [Action.Resets]
  | queueCapture _ =>
      refine (Eq.congr_left (stampOf_congr (l := l) rfl fun _ => rfl)).trans ?_
      simp [Action.Resets]
  | completeCapture _ _ _ =>
      refine (Eq.congr_left (stampOf_congr (l := l) (by rfl) ?_)).trans ?_
      · exact write_keeps Req.timestamp (by rfl)
      · simp [Action.Resets]

/-- A timestamp stays with its request object. -/
lemma Step.timestamp (hstep : Step l a l') {id : ℕ} {ts : ℤ}
    (hts : (l.objects id).timestamp = some ts) : (l'.objects id).timestamp = some ts := by
  cases hstep with
  | other => exact hts
  | alloc _ => exact hts
  | reinitUnused _ => exact hts
  | reinit _ _ => exact hts
  | @queue g i t dp sl sps _ _ _ _ =>
      exact (write_keeps Req.timestamp (by rfl) id).trans hts
  | @setControls g cs _ =>
      exact (opened_write_keeps Req.timestamp (by rfl) id).trans hts
  | @queueOutput index g t hunused _ =>
      have hne : id ≠ l.requestId g := by
        rintro rfl
        exact absurd (hunused.symm.trans hts) (by simp)
      change (((l.opened g).write (l.requestId g) _).objects id).timestamp = some ts
      rw [write_objects, if_neg hne, opened_objects]
      exact hts
  | dequeueOutput _ => exact hts
  | queueCapture _ => exact hts
  | @completeCapture index t i _ _ _ =>
      exact (write_keeps Req.timestamp (by rfl) id).trans hts

/-- A queue operation adds its request to the pictures; nothing else changes them. -/
lemma Step.pictures (hstep : Step l a l') :
    (∃ f id, a = .queue f ∧ l.requests.get? f = some id ∧ (∃ ts, (l.objects id).timestamp = some ts)
      ∧ l'.pictures = l.pictures ++ [id]) ∨ (a.isQueue = false ∧ l'.pictures = l.pictures) := by
  cases hstep with
  | @queue g id t dp sl sps hreq _ hts _ => exact Or.inl ⟨g, id, rfl, hreq, ⟨t, hts⟩, rfl⟩
  | setControls cs _ => exact Or.inr ⟨rfl, opened_pictures⟩
  | queueOutput _ _ => exact Or.inr ⟨rfl, opened_pictures⟩
  | _ => exact Or.inr ⟨rfl, rfl⟩

/-- A queue operation adds the timestamp of its request to those of the pictures; nothing else
changes them. -/
lemma Step.stamps (hstep : Step l a l') (h : l.Inv) :
    (∃ f, a = .queue f ∧ l'.stamps = l.stamps ++ [l.stampOf f]) ∨
      (a.isQueue = false ∧ l'.stamps = l.stamps) := by
  have hold : (l.pictures.map fun id => (l'.objects id).timestamp) = l.stamps := by
    refine List.map_congr_left fun id hid => ?_
    obtain ⟨ts, hts⟩ := h.stamped id hid
    rw [hts, hstep.timestamp hts]
  rcases hstep.pictures with ⟨f, id, rfl, hreq, ⟨ts, hts⟩, hpics⟩ | ⟨hother, hpics⟩
  · refine Or.inl ⟨f, rfl, ?_⟩
    rw [Ledger.stamps, hpics, List.map_append, hold, List.map_singleton, hstep.timestamp hts,
      Ledger.stampOf, hreq, Option.bind_some, hts]
  · exact Or.inr ⟨hother, by rw [Ledger.stamps, hpics, hold]⟩

lemma completed_congr {ts : ℤ} (hby : l'.byTimestamp.get? ts = l.byTimestamp.get? ts)
    (hobj : ∀ id, l.byTimestamp.get? ts = some id →
      (l'.objects id).complete = (l.objects id).complete) : l'.completed ts = l.completed ts := by
  rw [completed, completed, hby]
  cases hget : l.byTimestamp.get? ts with
  | none => rfl
  | some id => exact hobj id hget

lemma completed_of_get? {ts : ℤ} {i : ℕ} (hget : l.byTimestamp.get? ts = some i) :
    l.completed ts = (l.objects i).complete := by
  rw [completed, hget, Option.any_some]

/-- A completion is of a picture that was not complete, and nothing else completes it. -/
lemma Step.completed (hstep : Step l a l') (h : l.Inv) (ts : ℤ) :
    (a.completes ts = true ∧ l.completed ts = false ∧ l'.completed ts = true) ∨
      (a.completes ts = false ∧ l'.completed ts = l.completed ts) := by
  cases hstep with
  | @queue g id t dp sl sps _ hunq _ hnew =>
      refine Or.inr ⟨rfl, ?_⟩
      have hkeep := write_keeps (l := l) Req.complete (r := l.queuedReq id dp sl sps) rfl
      by_cases hts : ts = t
      · subst hts
        rw [completed_of_get? (i := id) (by simp)]
        exact (hkeep id).trans (by simp [h.open_of_unqueued hunq, Ledger.completed, hnew])
      · exact completed_congr (by simp [hts]) fun i _ => hkeep i
  | @setControls g cs _ =>
      refine Or.inr ⟨rfl, completed_congr ?_ fun i _ => opened_write_keeps Req.complete (by rfl) i⟩
      exact congrArg (Dict.get? · ts) opened_byTimestamp
  | @queueOutput index g t _ _ =>
      refine Or.inr ⟨rfl, completed_congr ?_ fun i _ => opened_write_keeps Req.complete (by rfl) i⟩
      exact congrArg (Dict.get? · ts) opened_byTimestamp
  | @completeCapture index t id _ hts hopen =>
      by_cases hteq : t = ts
      · subst hteq
        refine Or.inl ⟨by simp [Action.completes], by rw [completed_of_get? hts, hopen], ?_⟩
        refine (completed_of_get? (i := id) (by exact hts)).trans ?_
        simp [write]
      · refine Or.inr ⟨by simp [Action.completes, hteq], completed_congr rfl fun i hi => ?_⟩
        -- The timestamps of the two pictures differ.
        have hne : i ≠ id := by
          rintro rfl
          have heq := ((h.byTs ts i).mp hi).2.symm.trans ((h.byTs t i).mp hts).2
          exact hteq (Option.some.inj heq).symm
        change ((l.write id _).objects i).complete = _
        rw [write_objects, if_neg hne]
  | _ => exact Or.inr ⟨rfl, rfl⟩

/-- A completed buffer index comes from a completion with the timestamp of the picture. -/
lemma Step.target (hstep : Step l a l') {id : ℕ} {bi : ℤ}
    (htarget : (l'.objects id).target = some bi) :
    (l.objects id).target = some bi ∨
      ∃ ts, a = .completeCapture bi ts ∧ l.byTimestamp.get? ts = some id := by
  cases hstep with
  | @queue g i t dp sl sps _ _ _ _ =>
      exact Or.inl ((write_keeps Req.target (by rfl) id).symm.trans htarget)
  | setControls cs _ =>
      exact Or.inl ((opened_write_keeps Req.target (by rfl) id).symm.trans htarget)
  | queueOutput _ _ =>
      exact Or.inl ((opened_write_keeps Req.target (by rfl) id).symm.trans htarget)
  | @completeCapture index t i _ hts _ =>
      change ((l.write i _).objects id).target = some bi at htarget
      rw [write_objects] at htarget
      split_ifs at htarget with hid
      · obtain rfl := Option.some.inj htarget
        exact Or.inr ⟨t, rfl, hid ▸ hts⟩
      · exact Or.inl htarget
  | _ => exact Or.inl htarget

/-- A CAPTURE buffer is queued until it is completed. -/
lemma Step.captureBuffers (hstep : Step l a l') {bi : ℤ} :
    bi ∈ l'.captureBuffers ↔
      a = .queueCapture bi ∨ (bi ∈ l.captureBuffers ∧ ¬a.CompletesOn bi) := by
  cases hstep with
  | queue dp sl sps _ _ _ _ =>
      change bi ∈ l.captureBuffers ↔ _
      simp [Action.CompletesOn]
  | @queueCapture index _ => simp [Action.CompletesOn, eq_comm]
  | @completeCapture index t id _ _ _ =>
      simp [Action.CompletesOn, Finset.mem_erase, and_comm, eq_comm]
  | @setControls g cs _ =>
      change bi ∈ (l.opened g).captureBuffers ↔ _
      rw [opened_captureBuffers]
      simp [Action.CompletesOn]
  | @queueOutput index g t _ _ =>
      change bi ∈ (l.opened g).captureBuffers ↔ _
      rw [opened_captureBuffers]
      simp [Action.CompletesOn]
  | _ => simp [Action.CompletesOn]

/-- An OUTPUT buffer is queued until it is dequeued with its timestamp. -/
lemma Step.outputBuffers (hstep : Step l a l') {bi ts : ℤ}
    (hbuf : l.outputBuffers.get? bi = some ts) :
    a = .dequeueOutput bi ts ∨ (l'.outputBuffers.get? bi = some ts ∧ ¬a.UsesOutput bi) := by
  cases hstep with
  | @queueOutput index g t _ hfree =>
      have hne : index ≠ bi := by
        rintro rfl
        exact absurd (hfree.symm.trans hbuf) (by simp)
      refine Or.inr ⟨?_, by simp [Action.UsesOutput, hne]⟩
      rw [Dict.get?_set, if_neg hne.symm]
      exact hbuf
  | @dequeueOutput index t hold =>
      by_cases hidx : index = bi
      · subst hidx
        obtain rfl := Option.some.inj (hold.symm.trans hbuf)
        exact Or.inl rfl
      · refine Or.inr ⟨?_, by simp [Action.UsesOutput, hidx]⟩
        rw [Dict.get?_erase, if_neg (Ne.symm hidx)]
        exact hbuf
  | @setControls g cs _ =>
      refine Or.inr ⟨?_, by simp [Action.UsesOutput]⟩
      change (l.opened g).outputBuffers.get? bi = some ts
      rw [opened_outputBuffers]
      exact hbuf
  | _ => exact Or.inr ⟨hbuf, by simp [Action.UsesOutput]⟩

lemma Step.output_queued {bi f ts : ℤ} (hstep : Step l (.queueOutput bi f ts) l') :
    l'.outputBuffers.get? bi = some ts := by
  cases hstep with
  | queueOutput _ _ => simp

lemma Unqueued.congr {f : ℤ} (hf : l.Unqueued f)
    (hreq : l'.requests.get? f = l.requests.get? f)
    (hobj : ∀ id, l.requests.get? f = some id → (l.objects id).queued = false →
      l'.objects id = l.objects id) : l'.Unqueued f := by
  obtain ⟨id, hget, hunq, hne⟩ := hf
  refine ⟨id, hreq.trans hget, ?_⟩
  rw [hobj id hget hunq]
  exact ⟨hunq, hne⟩

lemma unqueued_opened_write {f : ℤ} {r : Req} (hunq : r.queued = false) (hne : r.isEmpty = false) :
    ((l.opened f).write (l.requestId f) r).Unqueued f := by
  refine ⟨l.requestId f, opened_requests.trans (if_pos rfl), ?_⟩
  rw [write_objects, if_pos rfl]
  exact ⟨hunq, hne⟩

/-- A request with controls or an OUTPUT buffer waits for its queue operation. -/
lemma Step.filled (hstep : Step l a l') (h : l.Inv) {f : ℤ} (hfill : a.Fills f) :
    l'.Unqueued f := by
  rcases hfill with rfl | ⟨bi, ts, rfl⟩
  · cases hstep with
    | setControls cs hunq => exact unqueued_opened_write hunq (by simp [Req.isEmpty])
  · cases hstep with
    | queueOutput hunused _ =>
        have hw := unqueued_opened_write (l := l) (f := f)
          (r := { l.objects (l.requestId f) with timestamp := some ts })
          (h.unqueued_of_unstamped hunused) (by simp [Req.isEmpty])
        exact hw.congr rfl fun _ _ _ => rfl

/-- A request that waits for its queue operation does not start over. -/
lemma Step.unqueued (hstep : Step l a l') (h : l.Inv) {f : ℤ} (hf : l.Unqueued f) :
    a = .queue f ∨ (l'.Unqueued f ∧ ¬a.Resets f) := by
  by_cases hfill : a.Fills f
  · refine Or.inr ⟨hstep.filled h hfill, ?_⟩
    rcases hfill with rfl | ⟨bi, ts, rfl⟩ <;> simp [Action.Resets]
  obtain ⟨id, hget, hunq, hne⟩ := id hf
  have hopen := h.open_of_unqueued hunq
  cases hstep with
  | @alloc g hfree =>
      have hg : g ≠ f := by
        rintro rfl
        simp [pending, hget, hne, hopen] at hfree
      refine Or.inr ⟨hf.congr ?_ fun _ _ _ => rfl, by simp [Action.Resets, hg]⟩
      rw [Dict.get?_erase, if_neg hg.symm]
  | @reinitUnused g hreq =>
      have hg : g ≠ f := by
        rintro rfl
        exact absurd (hreq.symm.trans hget) (by simp)
      exact Or.inr ⟨hf, by simp [Action.Resets, hg]⟩
  | @reinit g i hreq hcomplete =>
      have hg : g ≠ f := by
        rintro rfl
        obtain rfl := Option.some.inj (hreq.symm.trans hget)
        exact absurd hcomplete (by simp [hopen])
      refine Or.inr ⟨hf.congr ?_ fun _ _ _ => rfl, by simp [Action.Resets, hg]⟩
      rw [Dict.get?_erase, if_neg hg.symm]
  | @queue g i t dp sl sps hreq _ _ _ =>
      by_cases hg : g = f
      · exact Or.inl (by rw [hg])
      · refine Or.inr ⟨hf.congr rfl fun j hj _ => ?_, by simp [Action.Resets]⟩
        have hji : j ≠ i := by
          rintro rfl
          exact hg (h.reqInj g f j hreq hj)
        change (l.write i _).objects j = l.objects j
        rw [write_objects, if_neg hji]
  | @setControls g cs _ =>
      have hg : f ≠ g := by
        rintro rfl
        exact hfill (Or.inl rfl)
      refine Or.inr ⟨hf.congr (opened_requests.trans (if_neg hg)) fun j hj _ => ?_,
        by simp [Action.Resets]⟩
      rw [write_objects, if_neg (h.requestId_ne hj hg), opened_objects]
  | @queueOutput index g t _ _ =>
      have hg : f ≠ g := by
        rintro rfl
        exact hfill (Or.inr ⟨index, t, rfl⟩)
      refine Or.inr ⟨hf.congr (opened_requests.trans (if_neg hg)) fun j hj _ => ?_,
        by simp [Action.Resets]⟩
      change ((l.opened g).write (l.requestId g) _).objects j = l.objects j
      rw [write_objects, if_neg (h.requestId_ne hj hg), opened_objects]
  | @completeCapture index t i _ hts _ =>
      -- A completed request has been queued.
      refine Or.inr ⟨hf.congr rfl fun j _ hj => ?_, by simp [Action.Resets]⟩
      have hji : j ≠ i := by
        rintro rfl
        exact absurd ((h.queued j).mpr ((h.byTs t j).mp hts).1) (by simp [hj])
      change (l.write i _).objects j = l.objects j
      rw [write_objects, if_neg hji]
  | other => exact Or.inr ⟨hf, by simp [Action.Resets]⟩
  | dequeueOutput _ => exact Or.inr ⟨hf, by simp [Action.Resets]⟩
  | queueCapture _ => exact Or.inr ⟨hf, by simp [Action.Resets]⟩

end Ledger

/-! ### The bookkeeping agrees with the actions -/

/-- The actions so far and the ledger agree. -/
structure Tracks (log : List Action) (l : Ledger) : Prop where
  capture : ∀ bi, bi ∈ l.captureBuffers ↔
    Since (fun a => a = .queueCapture bi) (Action.CompletesOn bi) log
  carries : ∀ f ts, l.stampOf f = some ts ↔ Carries log f ts
  count : log.countP Action.isQueue = l.stamps.length
  pictures : ∀ k ts, l.stamps[k]? = some (some ts) ↔ PictureAt log k ts
  completions : ∀ ts, log.countP (Action.completes ts) = if l.completed ts then 1 else 0
  target : ∀ id bi, (l.objects id).target = some bi →
    ∃ ts, (l.objects id).timestamp = some ts ∧ .completeCapture bi ts ∈ log
  stamped : Always (fun pre a _ => ∀ f, a = .queue f → ∃! ts, Carries pre f ts) log
  completion : Always (fun pre a _ => ∀ bi ts, a = .completeCapture bi ts →
    Since (fun b => b = .queueCapture bi) (Action.CompletesOn bi) pre ∧ ∃ k, PictureAt pre k ts) log
  output : Always (fun _ a post => ∀ bi f ts, a = .queueOutput bi f ts →
    Due (fun b => b = .dequeueOutput bi ts) (Action.UsesOutput bi)
      (l.outputBuffers.get? bi = some ts) post) log
  queued : Always (fun _ a post => ∀ f, a.Fills f →
    Due (fun b => b = .queue f) (Action.Resets f) (l.Unqueued f) post) log

namespace Tracks

variable {log : List Action} {l l' : Ledger} {a : Action}

lemma start : Tracks [] {} where
  capture := by simp
  carries := by simp [Carries, Ledger.stampOf]
  count := rfl
  pictures k ts := by simp [Ledger.stamps, PictureAt]
  completions ts := by simp [Ledger.completed]
  target := by simp
  stamped := always_nil
  completion := always_nil
  output := always_nil
  queued := always_nil

/-- The pictures of the log are those of the ledger. -/
lemma pictureAt_iff (h : Tracks log l) {k : ℕ} {ts : ℤ} : PictureAt log k ts ↔
    ∃ id, l.pictures[k]? = some id ∧ (l.objects id).timestamp = some ts := by
  rw [← h.pictures, Ledger.stamps, List.getElem?_map, Option.map_eq_some_iff]

/-- **An accepted event keeps the ledger and the actions in agreement.** -/
theorem step (h : Tracks log l) (hinv : l.Inv) (hstep : Ledger.Step l a l') :
    Tracks (log ++ [a]) l' where
  capture bi := by rw [hstep.captureBuffers, since_concat, h.capture]
  carries f ts := by rw [hstep.stampOf hinv, Carries, since_concat, h.carries, Carries]
  count := by
    rw [List.countP_append, h.count]
    rcases hstep.stamps hinv with ⟨f, rfl, hstamps⟩ | ⟨hother, hstamps⟩
    · simp [hstamps, Action.isQueue]
    · simp [hstamps, hother]
  pictures k ts := by
    rw [pictureAt_concat, ← h.pictures]
    rcases hstep.stamps hinv with ⟨f, rfl, hstamps⟩ | ⟨hother, hstamps⟩
    · simp only [hstamps, h.count, Action.queue.injEq, exists_eq_left', ← h.carries]
      rcases lt_trichotomy k l.stamps.length with hk | rfl | hk
      · simp [List.getElem?_append_left hk, hk.ne']
      · simp
      · have hnone : l.stamps[k]? = none := List.getElem?_eq_none hk.le
        have hnone' : (l.stamps ++ [l.stampOf f])[k]? = none := by
          refine List.getElem?_eq_none ?_
          rw [List.length_append, List.length_singleton]
          exact hk
        simp [hnone, hnone', hk.ne]
    · rw [hstamps, or_iff_left]
      rintro ⟨f, rfl, _⟩
      exact absurd hother (by simp [Action.isQueue])
  completions ts := by
    rw [List.countP_append, h.completions]
    rcases hstep.completed hinv ts with ⟨ha, hopen, hdone⟩ | ⟨ha, hsame⟩
    · simp [ha, hopen, hdone]
    · simp [ha, hsame]
  target id bi htarget := by
    rcases hstep.target htarget with hold | ⟨ts, rfl, hts⟩
    · obtain ⟨ts, hts, hmem⟩ := h.target id bi hold
      exact ⟨ts, hstep.timestamp hts, List.mem_append_left _ hmem⟩
    · exact ⟨ts, hstep.timestamp ((hinv.byTs ts id).mp hts).2, by simp⟩
  stamped := by
    refine h.stamped.concat (fun _ _ _ hold => hold) ?_
    rintro f rfl
    cases hstep with
    | @queue _ id ts dp sl sps hreq _ hts _ =>
        have hstamp : l.stampOf f = some ts := by rw [Ledger.stampOf, hreq, Option.bind_some, hts]
        refine ⟨ts, (h.carries f ts).mp hstamp, fun t ht => ?_⟩
        exact Option.some.inj (((h.carries f t).mpr ht).symm.trans hstamp)
  completion := by
    refine h.completion.concat (fun _ _ _ hold => hold) ?_
    rintro bi ts rfl
    cases hstep with
    | completeCapture hbuf hts _ =>
        obtain ⟨hid, hstamp⟩ := (hinv.byTs _ _).mp hts
        obtain ⟨k, hk⟩ := List.mem_iff_getElem?.mp hid
        exact ⟨(h.capture bi).mp hbuf, k, h.pictureAt_iff.mpr ⟨_, hk, hstamp⟩⟩
  output := by
    refine h.output.concat (fun _ x post hold bi f ts hx => ?_) ?_
    · exact (hold bi f ts hx).concat fun hbuf => hstep.outputBuffers hbuf
    · rintro bi f ts rfl
      exact due_nil hstep.output_queued
  queued := by
    refine h.queued.concat (fun _ x post hold f hx => ?_) fun f hfill => ?_
    · exact (hold f hx).concat fun hunq => hstep.unqueued hinv hunq
    · exact due_nil (hstep.filled hinv hfill)

/-- Two pictures have different timestamps. -/
lemma pictureAt_inj (h : Tracks log l) (hinv : l.Inv) {j k : ℕ} {ts : ℤ}
    (hj : PictureAt log j ts) (hk : PictureAt log k ts) : j = k := by
  obtain ⟨i, hji, hi⟩ := h.pictureAt_iff.mp hj
  obtain ⟨i', hki, hi'⟩ := h.pictureAt_iff.mp hk
  -- Both are the picture that the timestamp finds.
  have hget := (hinv.byTs ts i).mpr ⟨List.mem_of_getElem? hji, hi⟩
  have hget' := (hinv.byTs ts i').mpr ⟨List.mem_of_getElem? hki, hi'⟩
  obtain rfl := Option.some.inj (hget.symm.trans hget')
  have hnum := (hinv.numbered j i hji).symm.trans (hinv.numbered k i hki)
  exact Nat.succ_injective (Option.some.inj hnum)

end Tracks

/-- The bookkeeping agrees with the actions after every run of the loop. -/
lemma tracks_of_run {expected fd : ℤ} {start : ℕ} {ps : List (Event × ℕ)} {s : Scan}
    (hrun : each (scanEvent keepOutput expected fd start) ps {} = .ok () s) :
    Tracks (ps.map (actionAt fd start)) s.toLedger := by
  have hboth : s.toLedger.Inv ∧ Tracks (ps.map (actionAt fd start)) s.toLedger := by
    refine each_rule (C := fun _ _ => True)
      (I := fun ps (s : Scan) => s.toLedger.Inv ∧ Tracks (ps.map (actionAt fd start)) s.toLedger)
      ?_ ?_ (along_of_forall fun _ _ _ => trivial) hrun
    · exact ⟨Ledger.inv_empty, Tracks.start⟩
    · rintro pre p s s' ⟨hinv, htracks⟩ - hp
      have hstep := step_of_scanEvent hp
      refine ⟨hinv.step hstep, ?_⟩
      rw [List.map_append, List.map_singleton]
      exact htracks.step hinv hstep
  exact hboth.2

/-! ### Accepted traces -/

/-- What the events of a trace do, for the video context on the descriptor and the open. -/
def logOf (fd : ℤ) (start : ℕ) (events : List Event) : List Action :=
  events.zipIdx.map (actionAt fd start)

lemma Scanned.accounted {events : List Event} {expected fd : ℤ} {start : ℕ} {s : Scan}
    (h : Scanned events expected fd start s) : Accounted expected (logOf fd start events) where
  count := by
    rw [logOf, (tracks_of_run h.run).count, Ledger.stamps, List.length_map, h.length]
  stamped pre f post hsplit := (tracks_of_run h.run).stamped pre _ post hsplit f rfl
  distinct j k ts := (tracks_of_run h.run).pictureAt_inj (inv_of_run h.run)
  completed k ts hk := by
    have htracks := tracks_of_run h.run
    obtain ⟨id, hpic, hts⟩ := htracks.pictureAt_iff.mp hk
    have hid := List.mem_of_getElem? hpic
    have hby := ((inv_of_run h.run).byTs ts id).mpr ⟨hid, hts⟩
    rw [logOf, htracks.completions, Ledger.completed_of_get? hby, h.complete id hid, if_pos rfl]
  completion pre bi ts post hsplit := (tracks_of_run h.run).completion pre _ post hsplit bi ts rfl
  output pre bi f ts post hsplit := by
    refine ((tracks_of_run h.run).output pre _ post hsplit bi f ts rfl).later ?_
    rw [h.output bi]
    simp
  queued pre f a post hsplit hfill := by
    refine ((tracks_of_run h.run).queued pre a post hsplit f hfill).later ?_
    rintro ⟨id, hget, hunq, _⟩
    exact absurd (h.queued f id hget) (by simp [hunq])

lemma normalize_ok {events : List Event} {expected : ℤ} {run : String}
    {records : List Record} {associations : List Association} :
    normalize events expected run = .ok (records, associations) ↔
      ∃ s out, scan keepOutput events expected run = .ok s ∧
        recordLoop s.toLedger run ∅ (s.pictures.map s.objects) = .ok out ∧
        out.map Prod.fst = records ∧ out.map Prod.snd = associations := by
  simp only [normalize, normalizeWith, Except.bind_ok, Except.pure_ok, Prod.mk.injEq,
    exists_and_left]

/-- **Trace accounting**: in an accepted trace, after the open of the video context, there are as
many request-queue operations as expected, with pairwise different timestamps; each is completed
exactly once, on a CAPTURE buffer that is queued; every OUTPUT buffer comes back with its timestamp;
no request with controls or an OUTPUT buffer is left unqueued. -/
theorem normalize_accounted {events : List Event} {expected : ℤ} {run : String}
    {records : List Record} {associations : List Association}
    (h : normalize events expected run = .ok (records, associations)) :
    ∃ fd start, select events = .ok (fd, start) ∧
      Accounted expected (logOf fd start events) := by
  obtain ⟨s, _, hscan, _⟩ := normalize_ok.mp h
  obtain ⟨fd, start, hselect, hscanned⟩ := scanned_of_scan hscan
  exact ⟨fd, start, hselect, hscanned.accounted⟩

/-! ### A trace in the form of the fixture of the tests -/

def ioctl (op : String) (args : List (String × Json)) (fd : ℤ) : Event :=
  [("fd", .int fd), ("ioctl", .str op)] ++ args

def ctl (name : Control) (value : Json) : Json :=
  .obj [("id", .str name.cid), ("size", .int name.size), (name.payloadKey, value)]

/-- A buffer of the `i`-th picture. -/
def buf (i : ℕ) (kind : String) (bi : ℤ) : Json :=
  .obj [("type", .str kind), ("index", .int bi), ("length", .int 1),
    ("timestamp_ns", .int (i * 1000)),
    ("timestamp", .obj [("tv_sec", .int 0), ("tv_usec", .int i)]), ("request_fd", .int 20),
    ("flags", .str "V4L2_BUF_FLAG_TIMESTAMP_COPY|V4L2_BUF_FLAG_REQUEST_FD"),
    ("m", .obj [("planes", .arr [.obj [("bytesused", .int 32)]])])]

/-- The decode parameters of the `i`-th picture, which refers to the one before it. -/
def decodeParams (i : ℕ) (poc prevPoc : ℤ) : Json :=
  let refs : ℤ := if 0 < i then 1 else 0
  let zeros : Json := .arr (List.replicate 16 (.int 0))
  .obj [("pic_order_cnt_val", .int poc), ("num_active_dpb_entries", .int refs),
    ("num_poc_st_curr_before", .int 0), ("num_poc_st_curr_after", .int 0),
    ("num_poc_lt_curr", .int refs), ("poc_st_curr_before", zeros), ("poc_st_curr_after", zeros),
    ("poc_lt_curr", zeros),
    ("dpb", .arr (List.replicate 16 (.obj [("timestamp", .int ((i - 1 : ℕ) * 1000)),
      ("flags", .str ""), ("field_pic", .int 0), ("pic_order_cnt_val", .int prevPoc)]))),
    ("flags", .str "")]

/-- The slice parameters of the `i`-th picture. -/
def sliceParams (i : ℕ) : Json :=
  let zeros : Json := .arr (List.replicate 16 (.int 0))
  .obj [("slice_type", .int (if 0 < i then 1 else 2)),
    ("nal_unit_type", .int (if 0 < i then 1 else 19)),
    ("num_ref_idx_l0_active_minus1", .int 0), ("num_ref_idx_l1_active_minus1", .int 0),
    ("ref_idx_l0", zeros), ("ref_idx_l1", zeros), ("flags", .str "")]

/-- The events of the `i`-th picture: the request is allocated once and reinitialized. -/
def pictureEvents (i : ℕ) (poc prevPoc target : ℤ) : List Event :=
  let output := "V4L2_BUF_TYPE_VIDEO_OUTPUT_MPLANE"
  let capture := "V4L2_BUF_TYPE_VIDEO_CAPTURE_MPLANE"
  let cs := [ctl .decodeParams (decodeParams i poc prevPoc), ctl .sliceParams (sliceParams i)] ++
    if 0 < i then [] else [ctl .sps (.obj [("flags", .str "")])]
  (if 0 < i then []
    else [ioctl "MEDIA_IOC_REQUEST_ALLOC" [("from_driver", .obj [("request_fd", .int 20)])] 11]) ++
  [ioctl "VIDIOC_S_EXT_CTRLS" [("from_userspace", .obj [("v4l2_ext_controls", .obj
      [("which", .str "V4L2_CTRL_WHICH_REQUEST_VAL"), ("count", .int cs.length),
        ("request_fd", .int 20), ("controls", .arr cs)])])] 10,
    ioctl "VIDIOC_QBUF" [("from_userspace", .obj [("v4l2_buffer", buf i capture target)])] 10,
    ioctl "VIDIOC_QBUF" [("from_userspace", .obj [("v4l2_buffer", buf i output 0)])] 10,
    ioctl "MEDIA_REQUEST_IOC_QUEUE" [] 20,
    ioctl "VIDIOC_DQBUF" [("from_driver", .obj [("v4l2_buffer", buf i output 0)])] 10,
    ioctl "VIDIOC_DQBUF" [("from_driver", .obj [("v4l2_buffer", buf i capture target)])] 10,
    ioctl "MEDIA_REQUEST_IOC_REINIT" [] 20]

/-- Two pictures, with POC 0 and 2. -/
def fixture : List Event :=
  [[("package_version", .str "1.32.0")],
    [("fd", .int 10), ("open", .obj [("path", .str "/private/device")])]] ++
  pictureEvents 0 0 0 4 ++ pictureEvents 1 2 0 5 ++
  [ioctl "VIDIOC_STREAMOFF" [] 10, [("fd", .int 10), ("close", .str "/private/device")]]

/-- The targets of the records, and the buffers and POCs of their references. -/
def targets (r : Read (List Record × List Association)) :
    Option (List (ℤ × List (ℤ × ℤ))) :=
  match r with
  | .ok (records, _) =>
      some (records.map fun r => (r.target, r.dpb.map fun d => (d.buf, d.poc)))
  | .error _ => none

lemma ok_of_targets {r : Read (List Record × List Association)} {ts : List (ℤ × List (ℤ × ℤ))}
    (h : targets r = some ts) : ∃ records associations, r = .ok (records, associations) ∧
      records.map (fun r => (r.target, r.dpb.map fun d => (d.buf, d.poc))) = ts := by
  cases r with
  | error e => simp [targets] at h
  | ok out => exact ⟨out.1, out.2, rfl, Option.some.inj h⟩

lemma targets_fixture : targets (normalize fixture 2 "1234567890abcdef") =
    some [(4, []), (5, [(4, 0)])] := by
  decide +kernel

theorem fixture_accounted : ∃ fd start, select fixture = .ok (fd, start) ∧
    Accounted 2 (logOf fd start fixture) := by
  obtain ⟨records, associations, h, _⟩ := ok_of_targets targets_fixture
  exact normalize_accounted h

end OmarchyM1Video.HevcControls
