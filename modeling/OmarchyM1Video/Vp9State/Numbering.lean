import OmarchyM1Video.Py.History
import OmarchyM1Video.Vp9State.Errors

/-!
The indices and timestamps that destinations and registrations are given.

A destination takes the lowest free slot and the timestamp `(index + 1) * 1000`.  A registration
may name an index, which is compared with the slots taken so far and with nothing later, and
without a timestamp of its own it is given the next one from `1000000` on.

* `indexUnique_iff`: along an accepted run an index names at most one live buffer exactly when no
  destination is queued at a registered index and no index is registered twice;
* `TsInv`: the timestamps in use, from the slots and from the registrations of the generation;
* `timestamps_apart_iff`: in a run of default timestamps, the next event meets a taken timestamp
  exactly when a slot and a registration number of the generation coincide (`Collides`).
-/

namespace OmarchyM1Video.Vp9State

open OmarchyM1Video.Py

namespace Session

variable {s s' s₀ : Session} {evs : List Event} {ev : Event}

/-- The event queues a destination at an index, if it is accepted. -/
def QueuesAt (s : Session) (ev : Event) (i : ℕ) : Prop :=
  match ev with
  | .queueDst _ _ => s.freeIndex = some i
  | .decode args | .submit args => s.isQueued args.dst = false ∧ s.freeIndex = some i
  | _ => False

lemma queuesAt_decode {args : DecodeArgs} (he : ev.decodeArgs? = some args) {i : ℕ} :
    s.QueuesAt ev i ↔ s.isQueued args.dst = false ∧ s.freeIndex = some i := by
  cases ev <;> simp only [Event.decodeArgs?, Option.some.injEq, reduceCtorEq] at he
  · subst he
    exact Iff.rfl
  · subst he
    exact Iff.rfl

lemma CanQueue.isQueued {name : String} {backing : Option ℕ} {era : Era} {buf : Buffer} {i : ℕ}
    (h : s.CanQueue name backing era buf i) : s.isQueued name = false := by
  have hbuf := h.hbuf
  cases hold : s.buffers.get? name with
  | none => simp [Session.isQueued, hold]
  | some old =>
      obtain rfl : buf = old := by simpa [dstIn, hold] using hbuf
      simp [Session.isQueued, hold, h.unqueued]

/-! ### Indices -/

/-- An index that no registration carries. -/
def Unregistered (s : Session) (i : ℕ) : Prop :=
  ∀ name reg, s.registrations.get? name = some reg → reg.index ≠ some i

/-- An index names at most one live buffer. -/
structure IndexUnique (s : Session) : Prop where
  slot : ∀ i name, s.slot.get? i = some name → s.Unregistered i
  registration : ∀ name₁ name₂ reg₁ reg₂ i, s.registrations.get? name₁ = some reg₁ →
    s.registrations.get? name₂ = some reg₂ → reg₁.index = some i → reg₂.index = some i →
    name₁ = name₂

/-- An event that queues no destination at a registered index, and registers no index that another
buffer is registered with. -/
structure KeepsIndices (s : Session) (ev : Event) : Prop where
  queue : ∀ i, s.QueuesAt ev i → s.Unregistered i
  register : ∀ name timestamp i, ev = .register name timestamp (some i) →
    ∀ other reg, s.registrations.get? other = some reg → reg.index = some i → other = name

lemma IndexUnique.congr (h : s.IndexUnique) (hslot : s'.slot = s.slot)
    (hreg : s'.registrations = s.registrations) : s'.IndexUnique := by
  refine ⟨fun i name hi => ?_, ?_⟩
  · rw [hslot] at hi
    rw [Unregistered, hreg]
    exact h.slot i name hi
  · rw [hreg]
    exact h.registration

lemma indexUnique_congr (hslot : s'.slot = s.slot) (hreg : s'.registrations = s.registrations) :
    s'.IndexUnique ↔ s.IndexUnique :=
  ⟨fun h => h.congr hslot.symm hreg.symm, fun h => h.congr hslot hreg⟩

/-- A destination keeps the indices unique exactly when its index is not registered. -/
lemma IndexUnique.queued_iff (h : s.IndexUnique) {name : String} {buf : Buffer} {i : ℕ} :
    (s.queued name buf i).IndexUnique ↔ s.Unregistered i := by
  constructor
  · intro hq
    exact hq.slot i name (by simp [Session.queued])
  · intro hi
    refine ⟨fun j n hj => ?_, h.registration⟩
    simp only [Session.queued, Dict.get?_set] at hj
    split_ifs at hj with hji
    · rw [hji]
      exact hi
    · exact h.slot j n hj

/-- An event that neither queues nor registers keeps the indices. -/
lemma keepsIndices_of_idle (hq : ev.touchesQueue = false) : s.KeepsIndices ev := by
  constructor
  · intro i hi
    cases ev <;> first | exact hi.elim | simp [Event.touchesQueue] at hq
  · rintro name timestamp i rfl
    simp [Event.touchesQueue] at hq

/-- A registration keeps the indices unique exactly when no other buffer is registered with its
index. -/
lemma IndexUnique.registered_iff (h : s.IndexUnique) {name : String} {buf : Buffer} {ts : ℕ}
    {index : Option ℕ} (hfree : ∀ i ∈ index, s.slot.get? i = none) :
    (s.registered name buf ts index).IndexUnique ↔
      ∀ i, index = some i → ∀ other reg, s.registrations.get? other = some reg →
        reg.index = some i → other = name := by
  constructor
  · rintro hu i rfl other reg hreg hi
    by_contra hne
    refine hne (hu.registration other name reg ⟨s.captureGeneration, ts, buf.eraId, some i⟩ i
      ?_ ?_ hi rfl)
    · rw [Session.registered, Dict.get?_set, if_neg hne]
      exact hreg
    · rw [Session.registered, Dict.get?_set, if_pos rfl]
  · intro hcond
    -- The registrations after the event: the new one, and the others as they were.
    have hcases : ∀ {n reg}, (s.registered name buf ts index).registrations.get? n = some reg →
        (n = name ∧ reg.index = index) ∨ (n ≠ name ∧ s.registrations.get? n = some reg) := by
      intro n reg hget
      rw [Session.registered, Dict.get?_set] at hget
      split_ifs at hget with hn
      · obtain rfl := Option.some.inj hget
        exact Or.inl ⟨hn, rfl⟩
      · exact Or.inr ⟨hn, hget⟩
    constructor
    · intro i n hi m reg hget hidx
      rcases hcases hget with ⟨-, hnew⟩ | ⟨-, hold⟩
      · have hnone := hfree i (hnew ▸ hidx)
        exact absurd (hnone.symm.trans hi) (by simp)
      · exact h.slot i n hi m reg hold hidx
    · intro n₁ n₂ r₁ r₂ i h₁ h₂ hi₁ hi₂
      rcases hcases h₁ with ⟨rfl, hnew₁⟩ | ⟨hne₁, hold₁⟩ <;>
        rcases hcases h₂ with ⟨rfl, hnew₂⟩ | ⟨hne₂, hold₂⟩
      · rfl
      · exact (hcond i (hnew₁ ▸ hi₁) n₂ r₂ hold₂ hi₂).symm
      · exact hcond i (hnew₂ ▸ hi₂) n₁ r₁ hold₁ hi₁
      · exact h.registration n₁ n₂ r₁ r₂ i hold₁ hold₂ hi₁ hi₂

/-- **What a step needs to keep the indices unique.** -/
lemma IndexUnique.step_iff (h : s.IndexUnique) (hstep : Step s ev s') :
    s'.IndexUnique ↔ s.KeepsIndices ev := by
  cases hstep with
  | idle hq same _ _ =>
      exact iff_of_true (h.congr same.slot same.registrations) (keepsIndices_of_idle hq)
  | format hq same _ _ _ _ _ _ =>
      exact iff_of_true (h.congr same.slot same.registrations) (keepsIndices_of_idle hq)
  | @reqbufs count _ _ =>
      refine iff_of_true ⟨fun i n hi => ?_, ?_⟩ ⟨fun i hi => hi.elim, by simp⟩
      · simp [Session.tick, Session.requeued] at hi
      · by_cases hdrop : count = 0 ∨ s.captureSlots ≠ 0
        · simp [Session.tick, Session.requeued, hdrop, dropQueue]
        · have hregs : (s.requeued count).tick.registrations = s.registrations := by
            simp [Session.tick, Session.requeued, hdrop]
          rw [hregs]
          exact h.registration
  | @queue name backing era buf i hcan =>
      refine Iff.trans (b := (s.queued name buf i).IndexUnique) (indexUnique_congr rfl rfl) ?_
      rw [h.queued_iff]
      refine ⟨fun hi => ⟨fun j hj => ?_, by simp⟩, fun hk => hk.queue i hcan.free⟩
      obtain rfl : i = j := Option.some.inj (hcan.free.symm.trans hj)
      exact hi
  | decodeQueued he hcan hbuf hqueued =>
      refine iff_of_true (h.congr rfl rfl) ⟨fun i hi => ?_, ?_⟩
      · have hunq := ((queuesAt_decode he).mp hi).1
        simp [Session.isQueued, hbuf, hqueued] at hunq
      · rintro name timestamp i rfl
        simp [Event.decodeArgs?] at he
  | @decodeNew _ args era buf i he hcan hcanq =>
      refine Iff.trans (b := (s.queued args.dst buf i).IndexUnique) (indexUnique_congr rfl rfl) ?_
      rw [h.queued_iff]
      refine ⟨fun hi => ⟨fun j hj => ?_, ?_⟩,
        fun hk => hk.queue i ((queuesAt_decode he).mpr ⟨hcanq.isQueued, hcanq.free⟩)⟩
      · obtain rfl : i = j := Option.some.inj (hcanq.free.symm.trans ((queuesAt_decode he).mp hj).2)
        exact hi
      · rintro name timestamp i rfl
        simp [Event.decodeArgs?] at he
  | exportTo _ _ => exact iff_of_true (h.congr rfl rfl) ⟨fun i hi => hi.elim, by simp⟩
  | @register name timestamp index buf hr =>
      refine Iff.trans
        (b := (s.registered name buf (timestamp.getD s.nextRegTs) index).IndexUnique)
        (indexUnique_congr rfl rfl) ?_
      rw [h.registered_iff hr.index]
      refine ⟨fun hc => ⟨fun i hi => hi.elim, ?_⟩, ?_⟩
      · rintro n t i heq
        obtain ⟨rfl, -, rfl⟩ : name = n ∧ timestamp = t ∧ index = some i := by simpa using heq
        exact hc i rfl
      · rintro hk i rfl
        exact hk.register name timestamp i rfl

/-- **An index names at most one live buffer in every state of an accepted run exactly when no step
queues a destination at a registered index or registers an index a second time.** -/
theorem indexUnique_iff (h₀ : s₀.IsNew) (hrun : each apply evs s₀ = .ok () s) :
    Visits apply IndexUnique evs s₀ ↔ Along apply KeepsIndices evs s₀ := by
  refine visits_iff_along ?_ (fun pre ev t t' _ h happ => h.step_iff (step_of_apply happ)) hrun
  obtain ⟨_, _, _, _, hnew⟩ := h₀
  obtain ⟨p, pr, d, rfl⟩ := new_ok hnew
  constructor <;> simp

/-- A registration at index `0`, and a destination that takes the same index. -/
def clashRun : List Event :=
  opening 1 ++ [keyFrame "A", .export "A" none] ++ replaceQueue 1 ++
    [.register "A" none (some 0), .queueDst "B" none]

lemma clashRun_ok :
    each apply clashRun (ofPath .proposed) = .ok () (endState clashRun (ofPath .proposed)) :=
  run_of_accepts (by decide +kernel)

lemma clashRun_clashes : ¬(endState clashRun (ofPath .proposed)).IndexUnique := by
  intro h
  have hslot : (endState clashRun (ofPath .proposed)).slot.get? 0 = some "B" := by decide +kernel
  have hreg : (endState clashRun (ofPath .proposed)).registrations.get? "A"
      = some ⟨1, regTsBase, 0, some 0⟩ := by decide +kernel
  exact h.slot 0 "B" hslot "A" _ hreg rfl

/-- The index that an event registers. -/
def registersAt : Event → Option ℕ
  | .register _ _ index => index
  | _ => none

/-- No registration carries the index that is free, nor the one that is to be registered. -/
def indexCheck (s : Session) (ev : Event) : Bool :=
  let apart := fun i => s.registrations.entries.all fun r => decide (r.2.index ≠ some i)
  s.freeIndex.all apart && (registersAt ev).all apart

lemma keepsIndices_of_check (h : indexCheck s ev = true) : s.KeepsIndices ev := by
  rw [indexCheck, Bool.and_eq_true, Option.all_eq_true, Option.all_eq_true] at h
  have happart : ∀ i, (s.registrations.entries.all fun r => decide (r.2.index ≠ some i)) = true →
      s.Unregistered i := by
    intro i hi name reg hreg
    have hentry := List.all_eq_true.mp hi _ (Dict.mem_entries_iff.mpr hreg)
    exact of_decide_eq_true hentry
  constructor
  · intro i hi
    have hfree : s.freeIndex = some i := by
      cases ev with
      | queueDst _ _ => exact hi
      | decode _ | submit _ => exact hi.2
      | _ => exact hi.elim
    exact happart i (h.1 i hfree)
  · rintro name timestamp i rfl other reg hreg hindex
    exact absurd hindex (happart i (h.2 i rfl) other reg hreg)

/-- The checks along a run. -/
def checkAlong : List Event → Session → Bool
  | [], _ => true
  | ev :: evs, s => indexCheck s ev && match apply ev s with
    | .ok _ s' => checkAlong evs s'
    | .error _ _ => true

lemma along_of_checkAlong (h : checkAlong evs s = true) : Along apply KeepsIndices evs s := by
  induction evs generalizing s with
  | nil => exact along_of_forall fun _ hev => absurd hev List.not_mem_nil
  | cons ev evs ih =>
      rw [checkAlong, Bool.and_eq_true] at h
      refine Along.cons (keepsIndices_of_check h.1) fun s' hs' => ih ?_
      have hrest := h.2
      rw [hs'] at hrest
      exact hrest

/-- A registration at index `1`, and a destination that takes index `0`. -/
def keptRun : List Event :=
  opening 1 ++ [keyFrame "A", .export "A" none] ++ replaceQueue 2 ++
    [.register "A" none (some 1), .queueDst "B" none]

/-- The condition admits the run whose destination takes another index than the registration, and excludes
the clash. -/
theorem keptRun_unique :
    Visits apply IndexUnique keptRun (ofPath .proposed) ∧
      ¬Along apply KeepsIndices clashRun (ofPath .proposed) := by
  have hrun : each apply keptRun (ofPath .proposed) =
      .ok () (endState keptRun (ofPath .proposed)) := run_of_accepts (by decide +kernel)
  refine ⟨(indexUnique_iff (isNew_ofPath .proposed) hrun).mpr
    (along_of_checkAlong (by decide +kernel)), fun halong => ?_⟩
  have hvisits := (indexUnique_iff (isNew_ofPath .proposed) clashRun_ok).mpr halong
  exact clashRun_clashes (hvisits clashRun [] _ (by simp) clashRun_ok)

/-- An index can name a registered buffer and a destination at once. -/
theorem index_not_unique : ¬∀ (s₀ s : Session) (evs : List Event), s₀.IsNew →
    each apply evs s₀ = .ok () s → s.IndexUnique := fun hclaim =>
  clashRun_clashes (hclaim _ _ _ (isNew_ofPath .proposed) clashRun_ok)

/-! ### Timestamps -/

/-- A registration without a timestamp of its own, or another event. -/
def DefaultTimestamp : Event → Prop
  | .register _ (some _) _ => False
  | _ => True

def isRegister : Event → Bool
  | .register _ _ _ => true
  | _ => false

/-- The number of registrations in a list of events. -/
def registerCount (evs : List Event) : ℕ := evs.countP isRegister

/-- In the run `evs` from `s₀` a registration of the generation `g` was given the timestamp `ts`,
the one that its number in the run stands for. -/
def DrawnIn (s₀ : Session) (evs : List Event) (g ts : ℕ) : Prop :=
  ∃ pre name timestamp index post s, evs = pre ++ Event.register name timestamp index :: post ∧
    each apply pre s₀ = .ok () s ∧ s.captureGeneration = g ∧ ts = regTsBase + registerCount pre

/-- Where the timestamps of a session come from. -/
structure TsInv (s₀ : Session) (evs : List Event) (s : Session) : Prop where
  run : each apply evs s₀ = .ok () s
  next : s.nextRegTs = regTsBase + registerCount evs
  drawnGen : ∀ g ts, DrawnIn s₀ evs g ts → g ≤ s.captureGeneration
  slots : ∀ i name, s.slot.get? i = some name →
    s.tsIndex.get? (s.captureGeneration, dstTimestamp i) = some name
  drawn : ∀ ts, DrawnIn s₀ evs s.captureGeneration ts → ∃ name,
    s.tsIndex.get? (s.captureGeneration, ts) = some name ∧ s.registrations.contains name = true
  source : ∀ ts name, s.tsIndex.get? (s.captureGeneration, ts) = some name →
    (∃ i, ts = dstTimestamp i ∧ s.slot.get? i = some name) ∨
      DrawnIn s₀ evs s.captureGeneration ts

lemma dstTimestamp_inj {i j : ℕ} (h : dstTimestamp i = dstTimestamp j) : i = j := by
  simp only [dstTimestamp, tsScale] at h
  omega

lemma DrawnIn.append {g ts : ℕ} (h : DrawnIn s₀ evs g ts) : DrawnIn s₀ (evs ++ [ev]) g ts := by
  obtain ⟨pre, name, timestamp, index, post, s, rfl, h⟩ := h
  exact ⟨pre, name, timestamp, index, post ++ [ev], s, by simp, h⟩

/-- A drawn timestamp is below the next one. -/
lemma DrawnIn.lt {g ts : ℕ} (h : DrawnIn s₀ evs g ts) : ts < regTsBase + registerCount evs := by
  obtain ⟨pre, name, timestamp, index, post, s, rfl, -, -, rfl⟩ := h
  simp only [registerCount, List.countP_append, List.countP_cons, isRegister, if_true]
  omega

/-- What the last event adds to the drawn timestamps. -/
lemma drawnIn_concat {g ts : ℕ} (hrun : each apply evs s₀ = .ok () s)
    (h : DrawnIn s₀ (evs ++ [ev]) g ts) :
    DrawnIn s₀ evs g ts ∨
      (isRegister ev = true ∧ s.captureGeneration = g ∧
        ts = regTsBase + registerCount evs) := by
  obtain ⟨pre, name, timestamp, index, post, t, hsplit, hpre, hg, hts⟩ := h
  rcases split_concat.mp hsplit with ⟨rfl, rfl, rfl⟩ | ⟨post', rfl, hevs⟩
  · obtain rfl : s = t := (EStateM.Result.ok.inj (hrun.symm.trans hpre)).2
    exact Or.inr ⟨rfl, hg, hts⟩
  · exact Or.inl ⟨pre, name, timestamp, index, post', t, hevs, hpre, hg, hts⟩

lemma registerCount_concat (hev : isRegister ev = false) :
    registerCount (evs ++ [ev]) = registerCount evs := by
  simp [registerCount, List.countP_append, hev]

/-- An event that registers nothing draws no timestamp. -/
lemma drawnIn_of_concat {g ts : ℕ} (hrun : each apply evs s₀ = .ok () s)
    (hev : isRegister ev = false) (h : DrawnIn s₀ (evs ++ [ev]) g ts) : DrawnIn s₀ evs g ts :=
  (drawnIn_concat hrun h).resolve_right fun hr => absurd (hev.symm.trans hr.1) (by simp)

namespace TsInv

variable (h : TsInv s₀ evs s)
include h

/-- An event that leaves slots, timestamps and registrations alone keeps the invariant. -/
lemma congr (happ : apply ev s = .ok () s') (hev : isRegister ev = false)
    (hgen : s'.captureGeneration = s.captureGeneration) (hslot : s'.slot = s.slot)
    (hts : s'.tsIndex = s.tsIndex) (hreg : s'.registrations = s.registrations)
    (hnext : s'.nextRegTs = s.nextRegTs) : TsInv s₀ (evs ++ [ev]) s' where
  run := each_concat_ok.mpr ⟨s, h.run, happ⟩
  next := by rw [hnext, h.next, registerCount_concat hev]
  drawnGen g ts hd := hgen ▸ h.drawnGen g ts (drawnIn_of_concat h.run hev hd)
  slots := by rw [hslot, hts, hgen]; exact h.slots
  drawn ts hd := by
    rw [hgen] at hd
    rw [hts, hgen, hreg]
    exact h.drawn ts (drawnIn_of_concat h.run hev hd)
  source ts name hget := by
    rw [hts, hgen] at hget
    rw [hslot, hgen]
    exact (h.source ts name hget).imp_right DrawnIn.append

/-- A destination is queued at a timestamp that no registration of the generation has. -/
lemma queued {name : String} {backing : Option ℕ} {era : Era} {buf : Buffer} {i : ℕ}
    (hcan : s.CanQueue name backing era buf i) (happ : apply ev s = .ok () s')
    (hev : isRegister ev = false) (hgen : s'.captureGeneration = s.captureGeneration)
    (hslot : s'.slot = s.slot.set i name)
    (hts : s'.tsIndex = s.tsIndex.set (s.captureGeneration, dstTimestamp i) name)
    (hreg : s'.registrations = s.registrations) (hnext : s'.nextRegTs = s.nextRegTs) :
    TsInv s₀ (evs ++ [ev]) s' where
  run := each_concat_ok.mpr ⟨s, h.run, happ⟩
  next := by rw [hnext, h.next, registerCount_concat hev]
  drawnGen g ts hd := hgen ▸ h.drawnGen g ts (drawnIn_of_concat h.run hev hd)
  slots j n hj := by
    rw [hslot, Dict.get?_set] at hj
    rw [hts, hgen, Dict.get?_set]
    split_ifs at hj with hji
    · rw [hji, if_pos rfl]
      exact hj
    · rw [if_neg fun hkey => hji (dstTimestamp_inj (Prod.mk.inj hkey).2)]
      exact h.slots j n hj
  drawn ts hd := by
    rw [hgen] at hd
    obtain ⟨n, hn, hmem⟩ := h.drawn ts (drawnIn_of_concat h.run hev hd)
    refine ⟨n, ?_, hreg ▸ hmem⟩
    rw [hts, hgen, Dict.get?_set, if_neg]
    · exact hn
    · -- The written timestamp is free or the destination's own, and that one is not registered.
      intro hkey
      obtain ⟨reg, hget⟩ := Dict.contains_iff.mp hmem
      rw [hkey] at hn
      rcases hcan.fresh with hf | hf
      · exact absurd (hf.symm.trans hn) (by simp)
      · obtain rfl := Option.some.inj (hf.symm.trans hn)
        exact absurd (hcan.unregistered.symm.trans hget) (by simp)
  source ts n hget := by
    rw [hts, hgen, Dict.get?_set] at hget
    rw [hslot, hgen]
    split_ifs at hget with hkey
    · obtain rfl := Option.some.inj hget
      exact Or.inl ⟨i, (Prod.mk.inj hkey).2, by simp⟩
    · rcases h.source ts n hget with ⟨j, rfl, hj⟩ | hd
      · have hji : j ≠ i := fun heq => hkey (by rw [heq])
        exact Or.inl ⟨j, rfl, by rw [Dict.get?_set, if_neg hji]; exact hj⟩
      · exact Or.inr hd.append

/-- REQBUFS leaves no slot, and no timestamp of a generation that it opens. -/
lemma requeued (hinv : s.Inv) {count : ℕ}
    (happ : apply (.captureReqbufs count) s = .ok () (s.requeued count).tick) :
    TsInv s₀ (evs ++ [Event.captureReqbufs count]) (s.requeued count).tick := by
  have hslot : (s.requeued count).tick.slot = ∅ := by simp [Session.tick, Session.requeued]
  have hnext : (s.requeued count).tick.nextRegTs = s.nextRegTs := by
    simp only [Session.tick, Session.requeued]
    split_ifs <;> rfl
  have hts : (s.requeued count).tick.tsIndex = s.tsIndex := by
    simp only [Session.tick, Session.requeued]
    split_ifs <;> rfl
  have hrun : each apply (evs ++ [Event.captureReqbufs count]) s₀ = .ok () (s.requeued count).tick :=
    each_concat_ok.mpr ⟨s, h.run, happ⟩
  have hnext' : (s.requeued count).tick.nextRegTs
      = regTsBase + registerCount (evs ++ [Event.captureReqbufs count]) := by
    rw [hnext, h.next, registerCount_concat rfl]
  have hold : ∀ {g ts}, DrawnIn s₀ (evs ++ [Event.captureReqbufs count]) g ts → DrawnIn s₀ evs g ts :=
    fun hd => drawnIn_of_concat h.run rfl hd
  by_cases hdrop : count = 0 ∨ s.captureSlots ≠ 0
  · have hgen : (s.requeued count).tick.captureGeneration = s.captureGeneration + 1 := by
      simp [Session.tick, Session.requeued, hdrop, dropQueue]
    refine ⟨hrun, hnext', fun g ts hd => ?_, ?_, fun ts hd => ?_, fun ts name hget => ?_⟩
    · rw [hgen]
      exact (h.drawnGen g ts (hold hd)).trans (Nat.le_succ _)
    · simp [hslot]
    · rw [hgen] at hd
      exact absurd (h.drawnGen _ ts (hold hd)) (by omega)
    · rw [hts, hgen] at hget
      exact absurd (hinv.tsGen _ ts name hget) (by omega)
  · have hslots : s.captureSlots = 0 := not_not.mp (not_or.mp hdrop).2
    have hgen : (s.requeued count).tick.captureGeneration = s.captureGeneration := by
      simp [Session.tick, Session.requeued, hdrop]
    have hreg : (s.requeued count).tick.registrations = s.registrations := by
      simp [Session.tick, Session.requeued, hdrop]
    refine ⟨hrun, hnext', fun g ts hd => ?_, ?_, fun ts hd => ?_, fun ts name hget => ?_⟩
    · rw [hgen]
      exact h.drawnGen g ts (hold hd)
    · simp [hslot]
    · rw [hgen] at hd
      rw [hts, hgen, hreg]
      exact h.drawn ts (hold hd)
    · rw [hts, hgen] at hget
      rw [hgen]
      rcases h.source ts name hget with ⟨i, -, hi⟩ | hd
      · exact absurd (hinv.slotLt i name hi) (by omega)
      · exact Or.inr hd.append

/-- A registration is given the timestamp of its number, which was free. -/
lemma registered {name : String} {index : Option ℕ} {buf : Buffer}
    (hr : s.CanRegister name s.nextRegTs index buf)
    (happ : apply (.register name none index) s
      = .ok () (s.registered name buf s.nextRegTs index).tick) :
    TsInv s₀ (evs ++ [Event.register name none index])
      (s.registered name buf s.nextRegTs index).tick := by
  have hget : ∀ {ts n}, s.tsIndex.get? (s.captureGeneration, ts) = some n →
      (s.registered name buf s.nextRegTs index).tsIndex.get? (s.captureGeneration, ts)
        = some n := by
    intro ts n hts
    rw [Session.registered, Dict.get?_set, if_neg]
    · exact hts
    · intro hkey
      rw [hkey, hr.fresh] at hts
      exact absurd hts (by simp)
  have hcount : registerCount (evs ++ [Event.register name none index]) = registerCount evs + 1 := by
    simp [registerCount, List.countP_append, isRegister]
  refine ⟨each_concat_ok.mpr ⟨s, h.run, happ⟩, ?_, fun g ts hd => ?_, fun i n hi => ?_,
    fun ts hd => ?_, fun ts n hts => ?_⟩
  · rw [hcount]
    simp only [Session.tick, Session.registered, h.next]
    omega
  · rcases drawnIn_concat h.run hd with hd | ⟨-, rfl, -⟩
    · exact h.drawnGen g ts hd
    · exact le_refl _
  · exact hget (h.slots i n hi)
  · rcases drawnIn_concat h.run hd with hd | ⟨-, -, rfl⟩
    · obtain ⟨n, hn, hmem⟩ := h.drawn ts hd
      refine ⟨n, hget hn, ?_⟩
      simp only [Session.tick, Session.registered, Dict.contains_set, hmem, Bool.or_true]
    · refine ⟨name, ?_, by simp [Session.tick, Session.registered]⟩
      simp [Session.tick, Session.registered, h.next]
  · simp only [Session.tick, Session.registered, Dict.get?_set] at hts
    split_ifs at hts with hkey
    · exact Or.inr ⟨evs, name, none, index, [], s, rfl, h.run, rfl,
        (Prod.mk.inj hkey).2.trans h.next⟩
    · exact (h.source ts n hts).imp_right DrawnIn.append

end TsInv

lemma isRegister_of_decodeArgs {args : DecodeArgs} (he : ev.decodeArgs? = some args) :
    isRegister ev = false := by
  cases ev <;> simp [Event.decodeArgs?, isRegister] at he ⊢

lemma isRegister_of_idle (hq : ev.touchesQueue = false) : isRegister ev = false := by
  cases ev <;> simp [Event.touchesQueue, isRegister] at hq ⊢

/-- **Every step of default timestamps keeps the invariant.** -/
lemma TsInv.step (h : TsInv s₀ evs s) (hinv : s.Inv) (hdef : DefaultTimestamp ev)
    (happ : apply ev s = .ok () s') : TsInv s₀ (evs ++ [ev]) s' := by
  cases step_of_apply happ with
  | idle hq same _ _ =>
      exact h.congr happ (isRegister_of_idle hq) same.captureGeneration same.slot same.tsIndex
        same.registrations same.nextRegTs
  | format hq same _ _ _ _ _ _ =>
      exact h.congr happ (isRegister_of_idle hq) same.captureGeneration same.slot same.tsIndex
        same.registrations same.nextRegTs
  | reqbufs _ _ => exact h.requeued hinv happ
  | queue hcan => exact h.queued hcan happ rfl rfl rfl rfl rfl rfl
  | decodeQueued he _ _ _ =>
      exact h.congr happ (isRegister_of_decodeArgs he) rfl rfl rfl rfl rfl
  | decodeNew he _ hcan =>
      exact h.queued hcan happ (isRegister_of_decodeArgs he) rfl rfl rfl rfl rfl
  | exportTo _ _ => exact h.congr happ rfl rfl rfl rfl rfl rfl
  | @register name timestamp index buf hr =>
      cases timestamp with
      | none => exact h.registered hr happ
      | some ts => exact hdef.elim

/-- The invariant holds at the end of every run of default timestamps. -/
theorem tsInv_of_run (h₀ : s₀.IsNew) (hdef : ∀ ev ∈ evs, DefaultTimestamp ev)
    (hrun : each apply evs s₀ = .ok () s) : TsInv s₀ evs s := by
  have hall : TsInv s₀ evs s ∧ s.Inv := by
    refine each_rule (C := fun _ ev => DefaultTimestamp ev)
      (I := fun hist t => TsInv s₀ hist t ∧ t.Inv) ⟨?_, inv_of_isNew h₀⟩ ?_
      (along_of_forall fun ev hev _ => hdef ev hev) hrun
    · obtain ⟨_, _, _, _, hnew⟩ := h₀
      obtain ⟨p, pr, d, rfl⟩ := new_ok hnew
      refine ⟨by simp, rfl, ?_, by simp, ?_, by simp⟩
      · rintro g ts ⟨pre, _, _, _, _, _, hsplit, -⟩
        simp at hsplit
      · rintro ts ⟨pre, _, _, _, _, _, hsplit, -⟩
        simp at hsplit
    · rintro hist ev t t' ⟨hts, hinv⟩ hev happ
      exact ⟨hts.step hinv hev happ, hinv.step (step_of_apply happ)⟩
  exact hall.1

/-- A destination takes a slot whose timestamp a registration of this generation was given. -/
def CollidesQueue (s₀ : Session) (evs : List Event) (s : Session) (name : String)
    (backing : Option ℕ) : Prop :=
  ∃ era i, s.currentEra = some era ∧ s.registrations.get? name = none ∧
    (s.dstIn era name backing).queuedAsDst = false ∧
    era.sizeimage ≤ (s.dstIn era name backing).backingBytes ∧ s.freeIndex = some i ∧
    DrawnIn s₀ evs s.captureGeneration (dstTimestamp i)

/-- An event after the run `evs` at which a slot number and a registration number of the generation
meet: a destination at the timestamp of an earlier registration, or a registration whose number is
the timestamp of a taken slot. -/
def Collides (s₀ : Session) (evs : List Event) (s : Session) : Event → Prop
  | .queueDst name backing => s.failed = false ∧ CollidesQueue s₀ evs s name backing
  | .decode args | .submit args => (∃ era, s.CanDecode args era) ∧ s.isQueued args.dst = false ∧
      CollidesQueue s₀ evs s args.dst args.backingBytes
  | .register name _ _ => s.failed = false ∧ s.Registrable name ∧
      ∃ i, s.slot.contains i = true ∧ dstTimestamp i = regTsBase + registerCount evs
  | _ => False

lemma CollidesQueue.rejected (h : TsInv s₀ evs s) {name : String} {backing : Option ℕ}
    (hc : CollidesQueue s₀ evs s name backing) :
    ∃ s', opQueueDst name backing s = .error indexAlias s' := by
  obtain ⟨era, i, hera, hunreg, hunq, hfits, hfree, hdrawn⟩ := hc
  obtain ⟨other, hother, hmem⟩ := h.drawn _ hdrawn
  have hne : other ≠ name := by
    rintro rfl
    obtain ⟨reg, hreg⟩ := Dict.contains_iff.mp hmem
    exact absurd (hunreg.symm.trans hreg) (by simp)
  exact ⟨_, opQueueDst_aliased hera hunreg hunq hfits hfree hother hne⟩

/-- A collision is refused, as an alias or as a duplicate. -/
lemma Collides.rejected (h : TsInv s₀ evs s) (hdef : DefaultTimestamp ev)
    (hc : Collides s₀ evs s ev) :
    ∃ s', apply ev s = .error indexAlias s' ∨ apply ev s = .error duplicateTimestamp s' := by
  have decode_rejected : ∀ {ev : Event} {args : DecodeArgs}, handler ev = opDecode args →
      (∃ era, s.CanDecode args era) ∧ s.isQueued args.dst = false ∧
        CollidesQueue s₀ evs s args.dst args.backingBytes →
      ∃ s', apply ev s = .error indexAlias s' ∨ apply ev s = .error duplicateTimestamp s' := by
    rintro ev args hev ⟨⟨era, hcan⟩, hunq, hq⟩
    obtain ⟨s', herr⟩ := hq.rejected h
    exact ⟨s', Or.inl (apply_of_handler_error (by simp [hcan.live])
      (hev ▸ opDecode_of_queueDst_error hcan hunq herr))⟩
  cases ev with
  | queueDst name backing =>
      obtain ⟨hlive, hq⟩ := hc
      obtain ⟨s', herr⟩ := hq.rejected h
      exact ⟨s', Or.inl (apply_of_handler_error (by simp [hlive]) herr)⟩
  | decode args => exact decode_rejected rfl hc
  | submit args => exact decode_rejected rfl hc
  | register name timestamp index =>
      cases timestamp with
      | some ts => exact hdef.elim
      | none =>
          obtain ⟨hlive, hreg, i, hi, hts⟩ := hc
          obtain ⟨buf, hcheck⟩ := registrable_iff.mp hreg
          obtain ⟨n, hn⟩ := Dict.contains_iff.mp hi
          have htaken : s.tsIndex.contains (s.captureGeneration, s.nextRegTs) = true := by
            refine Dict.contains_iff.mpr ⟨n, ?_⟩
            rw [h.next, ← hts]
            exact h.slots i n hn
          have herr : opRegister name none index s
              = .error duplicateTimestamp (s.drawn s.nextRegTs) :=
            opRegister_duplicate hcheck htaken
          exact ⟨_, Or.inr (apply_of_handler_error (by simp [hlive]) herr)⟩
  | _ => exact hc.elim

/-- A destination that is refused as an alias collides. -/
lemma QueueRefusal.collides (h : TsInv s₀ evs s) {name : String} {backing : Option ℕ}
    {e : Exc Raised} (hq : QueueRefusal s name backing e s') (he : e = indexAlias) :
    CollidesQueue s₀ evs s name backing := by
  cases hq with
  | early hx => exact absurd he hx.aliased
  | short => exact absurd he (by decide)
  | noSlots => exact absurd he (by decide)
  | full => exact absurd he (by decide)
  | @aliased era i other hera hunreg hunq hfits hfree htaken hne =>
      refine ⟨era, i, hera, hunreg, hunq, hfits, hfree, ?_⟩
      -- The timestamp is not another slot's, since this slot is free.
      rcases h.source _ other htaken with ⟨j, hji, hj⟩ | hdrawn
      · obtain rfl := dstTimestamp_inj hji
        exact absurd ((freeIndex_spec hfree).2.symm.trans hj) (by simp)
      · exact hdrawn

lemma QueueRefusal.ne_duplicate {name : String} {backing : Option ℕ} {e : Exc Raised}
    (hq : QueueRefusal s name backing e s') : e ≠ duplicateTimestamp := by
  cases hq with
  | early hx => exact hx.duplicate
  | short => decide
  | noSlots => decide
  | full => decide
  | aliased => decide

lemma Refusal.collides (h : TsInv s₀ evs s) {e : Exc Raised} (hr : Refusal s ev e s')
    (hdef : DefaultTimestamp ev) (hlive : ¬(s.failed = true ∧ ev.needsLiveSession = true))
    (he : e = indexAlias ∨ e = duplicateTimestamp) : Collides s₀ evs s ev := by
  have hlive' : ev.needsLiveSession = true → s.failed = false := fun hneeds => by
    simpa [hneeds] using hlive
  cases hr with
  | early hx => exact absurd he (not_or.mpr ⟨hx.aliased, hx.duplicate⟩)
  | queue hq => exact ⟨hlive' rfl, hq.collides h (he.resolve_right hq.ne_duplicate)⟩
  | @decode ev args era _ _ hargs hcan hunq hq =>
      have hc := hq.collides h (he.resolve_right hq.ne_duplicate)
      cases ev <;> simp only [Event.decodeArgs?, Option.some.injEq, reduceCtorEq] at hargs
      · exact hargs ▸ ⟨⟨era, hcan⟩, hunq, hc⟩
      · exact hargs ▸ ⟨⟨era, hcan⟩, hunq, hc⟩
  | @registerTs name timestamp index buf other hcheck htaken =>
      cases timestamp with
      | some ts => exact hdef.elim
      | none =>
          refine ⟨hlive' rfl, registrable_iff.mpr ⟨buf, hcheck⟩, ?_⟩
          rw [Option.getD_none, h.next] at htaken
          rcases h.source _ other htaken with ⟨i, hi, hslot⟩ | hdrawn
          · exact ⟨i, Dict.contains_iff.mpr ⟨other, hslot⟩, hi.symm⟩
          · exact absurd hdrawn.lt (lt_irrefl _)
  | registerIndex => exact absurd he (by decide)
  | reconfigure => rcases he with he | he <;> cases he

/-- **The timestamps of destinations and registrations stay apart exactly when no slot number meets
a registration number of its generation**: after a run of default timestamps, the next event meets
a taken timestamp if and only if it collides. -/
theorem timestamps_apart_iff (h₀ : s₀.IsNew) (hrun : each apply evs s₀ = .ok () s)
    (hdef : ∀ ev ∈ evs, DefaultTimestamp ev) (ev : Event) (hev : DefaultTimestamp ev) :
    (∀ s', apply ev s ≠ .error indexAlias s' ∧ apply ev s ≠ .error duplicateTimestamp s') ↔
      ¬Collides s₀ evs s ev := by
  have h := tsInv_of_run h₀ hdef hrun
  have hsound := sound_of_run h₀ hrun
  constructor
  · intro hapart hc
    obtain ⟨s', herr | herr⟩ := hc.rejected h hev
    · exact (hapart s').1 herr
    · exact (hapart s').2 herr
  · intro hc s'
    by_cases hlive : s.failed = true ∧ ev.needsLiveSession = true
    · constructor <;> intro herr <;>
        simp only [apply, get_bind, raiseIf_bind_error, hlive, true_and, not_true_eq_false,
          and_self, false_and, or_false] at herr <;>
        exact absurd herr.1 (by decide)
    · exact ⟨fun herr => hc ((hsound.refusal_of_apply herr).collides h hev hlive (Or.inl rfl)),
        fun herr => hc ((hsound.refusal_of_apply herr).collides h hev hlive (Or.inr rfl))⟩

/-- In a small session a second destination meets no taken timestamp. -/
theorem registerRun_apart : ¬∃ s',
    apply (.queueDst "C" none) (endState registerRun (ofPath .proposed)) = .error indexAlias s' ∨
    apply (.queueDst "C" none) (endState registerRun (ofPath .proposed))
      = .error duplicateTimestamp s' := by
  have hdef : ∀ ev ∈ registerRun, DefaultTimestamp ev := by
    intro ev hev
    cases ev with
    | register name timestamp index =>
        simp only [registerRun, opening, keyFrame, replaceQueue, interFrame, List.cons_append,
          List.nil_append, List.mem_cons, reduceCtorEq, false_or, Event.register.injEq,
          List.not_mem_nil, or_false] at hev
        obtain ⟨-, rfl, -⟩ := hev
        trivial
    | _ => trivial
  have hfree : ¬Collides (ofPath .proposed) registerRun (endState registerRun (ofPath .proposed))
      (.queueDst "C" none) := by
    rintro ⟨-, era, i, -, -, -, -, hfree, _, _, _, _, _, _, -, -, -, hts⟩
    have hone : (endState registerRun (ofPath .proposed)).freeIndex = some 1 := by decide +kernel
    obtain rfl := Option.some.inj (hone.symm.trans hfree)
    simp only [dstTimestamp, tsScale, regTsBase] at hts
    omega
  have hapart := (timestamps_apart_iff (isNew_ofPath .proposed) registerRun_ok hdef
    (.queueDst "C" none) trivial).mpr hfree
  rintro ⟨s', herr | herr⟩
  · exact (hapart s').1 herr
  · exact (hapart s').2 herr

/-! ### A thousand slots -/

/-- The name of the destination at an index. -/
def slotName (i : ℕ) : String := String.ofList (List.replicate (i + 1) 'b')

/-- The destinations at the first `n` indices. -/
def fill (n : ℕ) : List Event := (List.range n).map fun i => .queueDst (slotName i) none

lemma slotName_inj {i j : ℕ} (h : slotName i = slotName j) : i = j := by
  have hlen := congrArg (fun text : String => text.toList.length) h
  simpa [slotName] using hlen

lemma slotName_ne {i : ℕ} : slotName i ≠ "A" := by
  intro h
  have hhead := congrArg (fun text : String => text.toList.head?) h
  simp [slotName, List.replicate_succ] at hhead

/-- A session in which the first `n` slots are taken by their destinations, `A` is registered under
the first default timestamp and every other timestamp is free. -/
structure FilledTo (n : ℕ) (s : Session) : Prop where
  live : s.failed = false
  era : s.currentEra = some ⟨0, 64, 64, 8⟩
  count : s.captureSlots = 1000
  slot : ∀ i, s.slot.contains i = decide (i < n)
  names : ∀ i, n ≤ i → s.buffers.get? (slotName i) = none
  regs : ∀ i, s.registrations.get? (slotName i) = none
  taken : s.tsIndex.get? (s.captureGeneration, regTsBase) = some "A"
  free : ∀ i, n ≤ i → i < 999 → s.tsIndex.get? (s.captureGeneration, dstTimestamp i) = none

lemma FilledTo.freeIndex {n : ℕ} (h : FilledTo n s) (hn : n < 1000) : s.freeIndex = some n := by
  rw [Session.freeIndex, h.count, List.find?_range_eq_some]
  refine ⟨by simp [h.slot], List.mem_range.mpr hn, fun j hj => ?_⟩
  simp [h.slot, hj]

/-- The next destination is queued at the next slot. -/
lemma FilledTo.queue {n : ℕ} (h : FilledTo n s) (hn : n < 999) :
    ∃ s', apply (.queueDst (slotName n) none) s = .ok () s' ∧ FilledTo (n + 1) s' := by
  have hfree := h.freeIndex (hn.trans (by decide))
  have hcan : s.CanQueue (slotName n) none ⟨0, 64, 64, 8⟩
      (s.dstIn ⟨0, 64, 64, 8⟩ (slotName n) none) n := by
    have hdst : s.dstIn ⟨0, 64, 64, 8⟩ (slotName n) none
        = Buffer.new (slotName n) ⟨0, 64, 64, 8⟩ (some (Era.mk 0 64 64 8).sizeimage) := by
      simp [dstIn, h.names n le_rfl]
    exact ⟨h.era, rfl, h.regs n, by simp [hdst, Buffer.new], by simp [hdst, Buffer.new],
      by simp [h.count], hfree, Or.inl (h.free n le_rfl hn)⟩
  refine ⟨_, apply_ok.mpr ⟨by simp [h.live], _, opQueueDst_ok.mpr ⟨_, _, n, hcan, rfl⟩, rfl⟩, ?_⟩
  refine ⟨h.live, h.era, h.count, fun i => ?_, fun i hi => ?_, h.regs, ?_, fun i hi hlt => ?_⟩
  · simp only [Session.tick, Session.queued, Dict.contains_set, h.slot]
    by_cases hin : i = n
    · simp [hin]
    · have : i < n ↔ i < n + 1 := by omega
      simp [hin, this]
  · have hne : slotName i ≠ slotName n := fun heq => by
      have := slotName_inj heq
      omega
    simp only [Session.tick, Session.queued, Dict.get?_set, if_neg hne]
    exact h.names i (by omega)
  · simp only [Session.tick, Session.queued, Dict.get?_set]
    rw [if_neg]
    · exact h.taken
    · intro hkey
      have hts := (Prod.mk.inj hkey).2
      simp only [regTsBase, dstTimestamp, tsScale] at hts
      omega
  · simp only [Session.tick, Session.queued, Dict.get?_set]
    rw [if_neg]
    · exact h.free i (by omega) hlt
    · intro hkey
      have hin := dstTimestamp_inj (Prod.mk.inj hkey).2
      omega

lemma FilledTo.fill (h : FilledTo 0 s) {n : ℕ} (hn : n ≤ 999) :
    ∃ s', each apply (Session.fill n) s = .ok () s' ∧ FilledTo n s' := by
  induction n with
  | zero => exact ⟨s, by simp [Session.fill], h⟩
  | succ n ih =>
      obtain ⟨t, hrun, ht⟩ := ih (by omega)
      obtain ⟨s', happ, hs'⟩ := ht.queue hn
      refine ⟨s', ?_, hs'⟩
      rw [Session.fill, List.range_succ, List.map_append, List.map_singleton]
      exact each_concat_ok.mpr ⟨t, hrun, happ⟩

/-- A registration in a session of a thousand slots. -/
def crowdedRun : List Event :=
  opening 1 ++ [keyFrame "A", .export "A" none] ++ replaceQueue 1000 ++ [.register "A" none none]

lemma crowdedRun_filledTo : FilledTo 0 (endState crowdedRun (ofPath .proposed)) := by
  have hbuf : (endState crowdedRun (ofPath .proposed)).buffers.keys = ["A"] := by decide +kernel
  have hreg : (endState crowdedRun (ofPath .proposed)).registrations.keys = ["A"] := by
    decide +kernel
  have hts : (endState crowdedRun (ofPath .proposed)).tsIndex.keys = [(0, 1000), (1, regTsBase)] ∧
      (endState crowdedRun (ofPath .proposed)).captureGeneration = 1 := by decide +kernel
  have hslot : (endState crowdedRun (ofPath .proposed)).slot = ∅ := by decide +kernel
  refine ⟨by decide +kernel, by decide +kernel, by decide +kernel, fun i => by simp [hslot],
    fun i _ => ?_, fun i => ?_, by decide +kernel, fun i _ hi => ?_⟩
  · refine Option.eq_none_iff_forall_ne_some.mpr fun buf hget => ?_
    have hmem := Dict.mem_keys_iff.mpr ⟨buf, hget⟩
    rw [hbuf, List.mem_singleton] at hmem
    exact slotName_ne hmem
  · refine Option.eq_none_iff_forall_ne_some.mpr fun reg hget => ?_
    have hmem := Dict.mem_keys_iff.mpr ⟨reg, hget⟩
    rw [hreg, List.mem_singleton] at hmem
    exact slotName_ne hmem
  · refine Option.eq_none_iff_forall_ne_some.mpr fun name hget => ?_
    have hmem := Dict.mem_keys_iff.mpr ⟨name, hget⟩
    rw [hts.1, hts.2] at hmem
    simp only [List.mem_cons, Prod.mk.injEq, List.not_mem_nil, or_false, dstTimestamp, tsScale,
      regTsBase] at hmem
    omega

/-- With a thousand slots the last destination has the timestamp of the first registration. -/
theorem timestamps_meet : ¬∀ (s₀ s : Session) (evs : List Event) (ev : Event), s₀.IsNew →
    each apply evs s₀ = .ok () s → (∀ ev ∈ evs, DefaultTimestamp ev) → DefaultTimestamp ev →
    ∀ s', apply ev s ≠ .error indexAlias s' ∧ apply ev s ≠ .error duplicateTimestamp s' := by
  intro hclaim
  have hrun : each apply crowdedRun (ofPath .proposed)
      = .ok () (endState crowdedRun (ofPath .proposed)) := run_of_accepts (by decide +kernel)
  obtain ⟨s, hfill, h⟩ := crowdedRun_filledTo.fill (n := 999) le_rfl
  have hdef : ∀ ev ∈ crowdedRun ++ fill 999, DefaultTimestamp ev := by
    intro ev hev
    cases ev with
    | register name timestamp index =>
        simp only [crowdedRun, opening, keyFrame, replaceQueue, Session.fill, List.cons_append,
          List.nil_append, List.mem_cons, List.mem_map, reduceCtorEq, false_or,
          Event.register.injEq, and_false, exists_false, or_false] at hev
        obtain ⟨-, rfl, -⟩ := hev
        trivial
    | _ => trivial
  have herr : opQueueDst (slotName 999) none s = .error indexAlias _ :=
    opQueueDst_aliased h.era (h.regs 999) (by simp [dstIn, h.names 999 (by decide), Buffer.new])
      (by simp [dstIn, h.names 999 (by decide), Buffer.new]) (h.freeIndex (by decide)) h.taken
      slotName_ne.symm
  exact (hclaim _ s _ (.queueDst (slotName 999) none) (isNew_ofPath .proposed)
    (each_append_ok.mpr ⟨_, hrun, hfill⟩) hdef trivial _).1
    (apply_of_handler_error (by simp [h.live]) herr)

end Session

end OmarchyM1Video.Vp9State
