import Mathlib.Data.List.Nodup
import OmarchyM1Video.ReferenceContent.GstCallsite

/-!
What a step of the Gst call site does, and what it has collected.

* `Observed`, `Move`: everything an observation, and a step, does;
* `Control`: what is on the stack belongs to the call site, and so does the native lease;
* `Callsite.Ok`: until the first failure every observation succeeded, one for each frame.
-/

namespace OmarchyM1Video.ReferenceContent.Gst

/-! ### Everything a step does -/

/-- What an observation of the call site can be. -/
inductive Observed (c : Callsite) (k selected : ℕ) (e : OutputEnv) (cancellable : Bool) :
    Observation → Prop
  | failed (pool : Pool) (a : Attempt) (fs : List Failure) (content : Content)
      (hfs : ∀ f ∈ fs, f ≠ .close) :
      Observed c k selected e cancellable
        ⟨{ c.begin cancellable with
            pool := pool, attempts := c.attempts ++ [a], failures := c.failures ++ fs },
          content, none, false⟩
  | held (pool : Pool) (a : Attempt) (fs : List Failure) (content : Content) (r : Receipt)
      (hfs : ∀ f ∈ fs, f ≠ .close) :
      Observed c k selected e cancellable
        ⟨Callsite.hold { c.begin cancellable with
            pool := pool, attempts := c.attempts ++ [a], failures := c.failures ++ fs } k r.lease,
          content, some r.lease, false⟩
  | collected (pool : Pool) (content : Content) :
      Observed c k selected e cancellable
        ⟨Callsite.collect { c.begin cancellable with
            pool := pool, attempts := c.attempts ++ [⟨k, e.frame, true, true, true, true⟩] } selected,
          content, none, true⟩

lemma lapses_ne_close {identified snapshot ended : Bool} :
    ∀ f ∈ lapses identified snapshot ended, f ≠ .close := by
  revert identified snapshot ended
  decide

lemma snapshot_observed {c : Callsite} {k selected : ℕ} {e : OutputEnv} {cancellable : Bool}
    {r : Receipt} {content : Content} :
    Observed c k selected e cancellable ((c.begin cancellable).snapshot k selected e r content) := by
  rw [Callsite.snapshot]
  generalize htaken : (if decide (r.frame = e.frame ∧ r.frame = e.picture) = true then
    gstHevcContentSnapshot (c.begin cancellable).copy e.snapshot (c.begin cancellable).pool content
    else refuse (c.begin cancellable).pool content) = taken
  by_cases hends : e.ends = false
  · rw [if_pos hends]
    exact .held taken.pool _ _ taken.content r lapses_ne_close
  · rw [if_neg hends]
    rw [Bool.not_eq_false] at hends
    by_cases hok : taken.ok = true
    · rw [if_pos hok]
      have hidentified : decide (r.frame = e.frame ∧ r.frame = e.picture) = true := by
        by_contra hne
        rw [if_neg hne] at htaken
        exact Bool.false_ne_true ((congrArg Snapshot.ok htaken).trans hok)
      rw [hidentified, hok, hends]
      simp only [lapses, Bool.true_eq_false, if_false, List.append_nil]
      exact .collected taken.pool _
    · rw [if_neg hok]
      exact .failed taken.pool _ _ _ lapses_ne_close

lemma observe_observed {c : Callsite} {k selected : ℕ} {e : OutputEnv} {cancellable : Bool}
    {content : Content} :
    Observed c k selected e cancellable (c.observe k selected e cancellable content) := by
  rw [Callsite.observe]
  split_ifs
  · exact .failed _ _ [.matching] _ (by decide)
  · exact .failed _ _ [.select] _ (by decide)
  · rcases e.begins with _ | r
    · exact .failed _ _ [.begin] _ (by decide)
    · exact snapshot_observed

/-- What a step can do to the element. -/
inductive Move (s : Element) : Element → Prop
  | stay : Move s s
  | armed (copy : Bool) (frames : Option (List UInt32)) (thread : ℕ) (hnone : s.callsite = none)
      (hframes : ∀ fs, frames = some fs → fs ≠ [] ∧ fs.Nodup) :
      Move s { s with
        callsite := some (Callsite.armed copy frames thread s.arms), arms := s.arms + 1 }
  | passed (hnone : s.callsite = none) : Move s s.called
  | refused : Move s (s.drop s.callbacks).called
  | entered (c : Callsite) (hc : s.callsite = some c) (hidle : c.inCallback = false)
      (hlease : c.lease = 0) (ok : Bool) : Move s (s.entered { c with inCallback := true } ok)
  | rejected (c : Callsite) (hc : s.callsite = some c) (hidle : c.inCallback = false)
      (hlease : c.lease = 0) (f : Failure) (hf : f ≠ .close) :
      Move s (s.entered { c with
        inCallback := true, failed := true, failures := c.failures ++ [f] } false)
  | observed (c : Callsite) (hc : s.callsite = some c) (hidle : c.inCallback = false)
      (hlease : c.lease = 0) (hfailed : c.failed = false)
      (e : OutputEnv)
      (howner : c.owner = e.thread) (selected : ℕ) (hplan : c.plan e = .observe selected)
      (o : Observation) (ho : Observed { c with inCallback := true } s.callbacks selected e
        (s.cancellable e.thread) o) :
      Move s (s.record e o)
  | left (k : ℕ) (ok : Bool) (c : Callsite) (hactive : s.active = some (k, ok))
      (hc : s.callsite = some c) (hkept : ok = false → c.heldFrame = some k) :
      Move s (contentCallbackLeave c s)
  | leftDropped (k : ℕ) (ok : Bool) (c : Callsite) (hactive : s.active = some (k, ok))
      (hc : s.callsite = some c) (hdropped : ok = false → c.heldFrame ≠ some k) :
      Move s (contentCallbackLeave c (s.drop k))
  | stuck (c : Callsite) (hc : s.callsite = some c) (hlease : c.lease ≠ 0) :
      Move s { s with callsite := some { c with failures := c.failures ++ [.ending] } }
  | finishing (c : Callsite) (hc : s.callsite = some c) (hidle : c.inCallback = false)
      (content : Content) :
      Move s { s.dropHeld c with
        callsite := some { c with
          lease := 0, heldFrame := none, heldPicture := none, inCallback := true }
        content := content, lease := none, finishing := true }
  | released (c : Callsite) (hc : s.callsite = some c) (hfinishing : s.finishing = true) :
      Move s { s.restore c c.cancelHeld with finishing := false, callsite := none }
  | retried (c : Callsite) (hc : s.callsite = some c) (hfinishing : s.finishing = true) :
      Move s { s.restore c c.cancelHeld with
        finishing := false
        callsite := some { c with
          inCallback := false, cancelHeld := false, failures := c.failures ++ [.close] } }

lemma arm_move {s : Element} {copy : Bool} {frames : Option (List UInt32)} {thread : ℕ} {opens : Bool}
    (hframes : ∀ fs, frames = some fs → fs ≠ [] ∧ fs.Nodup) :
    Move s (contentArm copy frames thread opens s) := by
  rw [contentArm]
  split_ifs with hopens
  · exact .stay
  · rw [not_or, Bool.not_eq_true, Option.isSome_eq_false_iff, Option.isNone_iff_eq_none] at hopens
    exact .armed copy frames thread hopens.1 hframes

lemma enter_move {s : Element} {e : OutputEnv} : Move s (enter e s) := by
  rw [enter]
  rcases hc : s.callsite with _ | c
  · exact .passed hc
  · dsimp only
    split_ifs with hrefused hfailed
    · exact .refused
    · simp only [not_or, Decidable.not_not, Bool.not_eq_true] at hrefused
      exact .entered c hc hrefused.2.1 hrefused.2.2 false
    · simp only [not_or, Decidable.not_not, Bool.not_eq_true] at hrefused
      exact .entered c hc hrefused.2.1 hrefused.2.2 c.success
    · simp only [not_or, Decidable.not_not, Bool.not_eq_true] at hrefused
      obtain ⟨howner, hidle, hlease⟩ := hrefused
      have hplan : Callsite.plan { c with inCallback := true } e = c.plan e := rfl
      rw [hplan]
      rcases hp : c.plan e with _ | f | selected
      · exact .entered c hc hidle hlease true
      · refine .rejected c hc hidle hlease f ?_
        rw [Callsite.plan] at hp
        split_ifs at hp
        · cases hp
          decide
        · rcases hfind : c.frames.findIdx? (· = e.frame) with _ | selected <;> rw [hfind] at hp
          · cases hp
          · dsimp only at hp
            split_ifs at hp
            cases hp
            decide
      · exact .observed c hc hidle hlease (Bool.eq_false_iff.mpr hfailed) e howner selected hp _
          observe_observed

lemma leave_move {s : Element} {delivered : Bool} : Move s (leave delivered s) := by
  rw [leave]
  rcases hactive : s.active with _ | ⟨k, ok⟩
  · exact .stay
  · rcases hc : s.callsite with _ | c
    · exact .stay
    · dsimp only
      split_ifs with hkept
      · refine .left k ok c hactive hc fun hok => ?_
        rcases hkept with ⟨hpassed, -⟩ | ⟨-, hheld⟩
        · exact absurd (hpassed.symm.trans hok) (by decide)
        · exact hheld
      · exact .leftDropped k ok c hactive hc fun hok hheld => hkept (.inr ⟨hok, hheld⟩)

lemma finish_move {s : Element} {thread : ℕ} {ends : Bool} : Move s (finish thread ends s) := by
  rw [finish]
  rcases hc : s.callsite with _ | c
  · exact .stay
  · dsimp only
    split_ifs with hrefused hstuck hlease
    · exact .stay
    · exact .stuck c hc hstuck.1
    · simp only [not_or, Bool.not_eq_true] at hrefused
      exact .finishing c hc hrefused.2 _
    · simp only [not_or, Bool.not_eq_true] at hrefused
      exact .finishing c hc hrefused.2 _

lemma finishRest_move {s : Element} {closes : Bool} : Move s (finishRest closes s) := by
  rw [finishRest]
  rcases hfinishing : s.finishing with _ | _
  · exact .stay
  · rcases hc : s.callsite with _ | c
    · exact .stay
    · dsimp only
      split_ifs
      · exact .released c hc hfinishing
      · exact .retried c hc hfinishing

lemma step_move {s : Element} {c : Call} : Move s (step s c) := by
  cases c with
  | arm copy thread opens => exact arm_move fun fs hfs => absurd hfs (Option.some_ne_none fs).symm
  | armFrames copy frames thread opens =>
      rw [step, armFrames]
      split_ifs with hbad
      · exact .stay
      · simp only [not_or, Decidable.not_not] at hbad
        refine arm_move fun fs hfs => ?_
        cases hfs
        exact ⟨hbad.1, hbad.2.2⟩
  | enter e => exact enter_move
  | leave delivered => exact leave_move
  | finish thread ends => exact finish_move
  | finishRest closes => exact finishRest_move

/-! ### Control -/

/-- A call site and what is on the stack: the callback that is active, the finish under way, and the
native lease. -/
structure Site (c : Callsite) (active : Option (ℕ × Bool)) (finishing : Bool) (lease : Option ℕ) :
    Prop where
  lease_eq : lease = if c.lease = 0 then none else some c.lease
  inCallback : c.inCallback = true ↔ active ≠ none ∨ finishing = true
  finishing : finishing = true → active = none ∧ c.lease = 0
  held : c.lease = 0 ↔ c.heldFrame = none
  stuck : c.lease ≠ 0 → c.failed = true
  own : ∀ k ok j, active = some (k, ok) → c.heldFrame = some j → j = k ∧ ok = false

/-- What is on the stack belongs to the call site, and so does the native lease. -/
structure Control (s : Element) : Prop where
  off : s.callsite = none → s.active = none ∧ s.finishing = false ∧ s.lease = none
  site : ∀ c, s.callsite = some c → Site c s.active s.finishing s.lease

lemma Control.of_some {s : Element} {c : Callsite} (hc : s.callsite = some c)
    (h : Site c s.active s.finishing s.lease) : Control s := by
  refine ⟨fun hnone => absurd (hc.symm.trans hnone) (Option.some_ne_none c), fun c' hc' => ?_⟩
  rw [Option.some.inj (hc'.symm.trans hc)]
  exact h

/-- A callback that enters while nothing is on the stack. -/
lemma Site.entered {c : Callsite} {k : ℕ} {ok : Bool} {lease : Option ℕ} {finishing : Bool}
    (hfinishing : finishing = false) (hin : c.inCallback = true)
    (hlease : lease = if c.lease = 0 then none else some c.lease)
    (hheld : (c.lease = 0 ∧ c.heldFrame = none) ∨
      (c.lease ≠ 0 ∧ c.heldFrame = some k ∧ c.failed = true ∧ ok = false)) :
    Site c (some (k, ok)) finishing lease := by
  subst hfinishing
  refine ⟨hlease, by simp [hin], fun h => absurd h Bool.false_ne_true, ?_, fun hne => ?_, ?_⟩
  · rcases hheld with ⟨h0, hnone⟩ | ⟨hne, hk, -⟩
    · exact iff_of_true h0 hnone
    · refine iff_of_false hne ?_
      rw [hk]
      exact Option.some_ne_none k
  · rcases hheld with ⟨h0, -⟩ | ⟨-, -, hfailed, -⟩
    · exact absurd h0 hne
    · exact hfailed
  · rintro k' ok' j hactive hj
    cases hactive
    rcases hheld with ⟨-, hnone⟩ | ⟨-, hk, -, hok⟩
    · exact absurd (hj.symm.trans hnone) (Option.some_ne_none j)
    · exact ⟨Option.some.inj (hj.symm.trans hk), hok⟩

lemma Site.not_finishing {c : Callsite} {active : Option (ℕ × Bool)} {finishing : Bool}
    {lease : Option ℕ} (h : Site c active finishing lease) (hidle : c.inCallback = false) :
    active = none ∧ finishing = false := by
  have hnot := mt h.inCallback.mpr (Bool.eq_false_iff.mp hidle)
  rw [not_or, Decidable.not_not, Bool.not_eq_true] at hnot
  exact hnot

lemma Site.left {c : Callsite} {active : Option (ℕ × Bool)} {finishing : Bool} {lease : Option ℕ}
    {k : ℕ} {ok : Bool} (h : Site c active finishing lease) (hactive : active = some (k, ok)) :
    Site c.left none finishing lease := by
  have hfinishing : finishing = false := by
    refine Bool.eq_false_iff.mpr fun hf => ?_
    exact absurd (hactive.symm.trans (h.finishing hf).1) (Option.some_ne_none _)
  refine ⟨h.lease_eq, ?_, fun hf => absurd (hf.symm.trans hfinishing) (by decide), h.held, h.stuck,
    fun k ok j hk => absurd hk.symm (Option.some_ne_none _)⟩
  simp [Callsite.left, hfinishing]

lemma Control.step {s s' : Element} (h : Control s) (hmove : Move s s') : Control s' := by
  cases hmove with
  | stay => exact h
  | armed copy frames thread hnone hframes =>
      obtain ⟨hactive, hfinishing, hlease⟩ := h.off hnone
      refine .of_some rfl ⟨hlease, ?_, ?_, ?_, ?_, ?_⟩
      · simp [Callsite.armed, hactive, hfinishing]
      · exact fun hf => absurd (hf.symm.trans hfinishing) (by decide)
      · simp [Callsite.armed]
      · exact fun hne => absurd rfl hne
      · exact fun k ok j hk => absurd (hk.symm.trans hactive) (Option.some_ne_none _)
  | passed hnone => exact ⟨h.off, h.site⟩
  | refused => exact ⟨h.off, h.site⟩
  | entered c hc hidle hlease ok =>
      have hsite := h.site c hc
      refine .of_some rfl (.entered (hsite.not_finishing hidle).2 rfl hsite.lease_eq ?_)
      exact .inl ⟨hlease, hsite.held.mp hlease⟩
  | rejected c hc hidle hlease f hf =>
      have hsite := h.site c hc
      refine .of_some rfl (.entered (hsite.not_finishing hidle).2 rfl hsite.lease_eq ?_)
      exact .inl ⟨hlease, hsite.held.mp hlease⟩
  | observed c hc hidle hlease hfailed e howner selected hplan o ho =>
      have hsite := h.site c hc
      refine .of_some rfl ?_
      cases ho with
      | failed pool a fs content hfs =>
          refine .entered (hsite.not_finishing hidle).2 rfl ?_ ?_
          · exact (if_pos hlease).symm
          · exact .inl ⟨hlease, hsite.held.mp hlease⟩
      | held pool a fs content r hfs =>
          refine .entered (hsite.not_finishing hidle).2 rfl ?_ ?_
          · exact (if_neg r.lease_ne).symm
          · exact .inr ⟨r.lease_ne, rfl, rfl, rfl⟩
      | collected pool content =>
          refine .entered (hsite.not_finishing hidle).2 rfl ?_ ?_
          · exact (if_pos hlease).symm
          · exact .inl ⟨hlease, hsite.held.mp hlease⟩
  | left k ok c hactive hc hkept => exact .of_some rfl ((h.site c hc).left hactive)
  | leftDropped k ok c hactive hc hdropped => exact .of_some rfl ((h.site c hc).left hactive)
  | stuck c hc hlease =>
      have hsite := h.site c hc
      exact .of_some rfl ⟨hsite.lease_eq, hsite.inCallback, hsite.finishing, hsite.held, hsite.stuck,
        hsite.own⟩
  | finishing c hc hidle content =>
      have hactive := ((h.site c hc).not_finishing hidle).1
      refine .of_some rfl ⟨rfl, by simp, fun _ => ⟨hactive, rfl⟩, iff_of_true rfl rfl,
        fun hne => absurd rfl hne, fun k ok j hk => ?_⟩
      exact absurd (hk.symm.trans hactive) (Option.some_ne_none _)
  | released c hc hfinishing =>
      have hsite := h.site c hc
      obtain ⟨hactive, hlease⟩ := hsite.finishing hfinishing
      refine ⟨fun _ => ⟨hactive, rfl, ?_⟩, fun c' hc' => absurd hc'.symm (Option.some_ne_none c')⟩
      exact hsite.lease_eq.trans (if_pos hlease)
  | retried c hc hfinishing =>
      have hsite := h.site c hc
      obtain ⟨hactive, hlease⟩ := hsite.finishing hfinishing
      refine .of_some rfl ⟨hsite.lease_eq, ?_, fun hf => absurd hf Bool.false_ne_true, hsite.held,
        hsite.stuck, hsite.own⟩
      simp [hactive]

/-! ### What a call site has collected -/

/-- A call site that has not failed: all its observations succeeded, one for each frame. -/
structure Callsite.Clean (c : Callsite) : Prop where
  failures : ∀ f ∈ c.failures, f = .close
  attempts : ∀ a ∈ c.attempts, a.Succeeded
  collected : c.collected = c.attempts.length
  success : c.success = true ↔ c.collected = c.count
  subset : c.scheduled = true → ∀ a ∈ c.attempts, a.frame ∈ c.frames
  nodup : c.scheduled = true → (c.attempts.map Attempt.frame).Nodup
  observed : c.scheduled = true → ∀ i f, c.frames[i]? = some f →
    (c.observed i = true ↔ f ∈ c.attempts.map Attempt.frame)

/-- The schedule is a selection of distinct frames, and what was collected is clean until the first
failure. -/
structure Callsite.Ok (c : Callsite) : Prop where
  count_pos : 0 < c.count
  frames : c.scheduled = true → c.frames.Nodup ∧ c.frames.length = c.count
  legacy : c.scheduled = false → c.count = 1
  clean : c.failed = false → c.Clean

lemma ok_armed {copy : Bool} {frames : Option (List UInt32)} {thread serial : ℕ}
    (hframes : ∀ fs, frames = some fs → fs ≠ [] ∧ fs.Nodup) :
    (Callsite.armed copy frames thread serial).Ok := by
  rcases frames with _ | fs
  · refine ⟨Nat.one_pos, fun h => absurd h Bool.false_ne_true, fun _ => rfl, fun _ => ?_⟩
    exact ⟨by simp [Callsite.armed], by simp [Callsite.armed], rfl, by simp [Callsite.armed],
      by simp [Callsite.armed], by simp [Callsite.armed], by simp [Callsite.armed]⟩
  · obtain ⟨hne, hnodup⟩ := hframes fs rfl
    have hpos : 0 < fs.length := List.length_pos_iff.mpr hne
    refine ⟨hpos, fun _ => ⟨hnodup, rfl⟩, fun h => absurd h.symm Bool.false_ne_true, fun _ => ?_⟩
    refine ⟨by simp [Callsite.armed], by simp [Callsite.armed], rfl, ?_, by simp [Callsite.armed],
      by simp [Callsite.armed], by simp [Callsite.armed]⟩
    refine iff_of_false Bool.false_ne_true fun h0 => ?_
    exact absurd h0 (Nat.ne_of_lt hpos)

/-- The frame that a plan selects, and that it has not been observed. -/
lemma plan_observe {c : Callsite} {e : OutputEnv} {selected : ℕ} (h : c.plan e = .observe selected)
    (hscheduled : c.scheduled = true) :
    c.frames[selected]? = some e.frame ∧ c.observed selected = false := by
  rw [Callsite.plan, if_neg (by rw [hscheduled]; decide)] at h
  split_ifs at h
  rcases hfind : c.frames.findIdx? (· = e.frame) with _ | i <;> rw [hfind] at h
  · cases h
  · dsimp only at h
    split_ifs at h with hobserved
    cases h
    refine ⟨?_, Bool.eq_false_iff.mpr hobserved⟩
    obtain ⟨hlt, hframe, -⟩ := List.findIdx?_eq_some_iff_getElem.mp hfind
    rw [List.getElem?_eq_getElem hlt, of_decide_eq_true hframe]

lemma Callsite.Clean.collect {c c' : Callsite} {k selected : ℕ} {e : OutputEnv} {cancellable : Bool}
    {pool : Pool} (h : c.Clean) (hok : c.Ok)
    (hplan : c.plan e = .observe selected)
    (hc' : c' = Callsite.collect { c.begin cancellable with
      inCallback := true, pool := pool,
      attempts := c.attempts ++ [⟨k, e.frame, true, true, true, true⟩] } selected) : c'.Clean := by
  subst hc'
  have hnew : c.scheduled = true → e.frame ∉ c.attempts.map Attempt.frame := by
    intro hscheduled hmem
    obtain ⟨hframe, hobserved⟩ := plan_observe hplan hscheduled
    rw [← h.observed hscheduled selected e.frame hframe] at hmem
    exact Bool.false_ne_true (hobserved.symm.trans hmem)
  refine ⟨h.failures, ?_, ?_, ?_, ?_, ?_, ?_⟩
  · intro a ha
    rcases List.mem_append.mp ha with ha | ha
    · exact h.attempts a ha
    · rw [List.mem_singleton.mp ha]
      exact ⟨rfl, rfl, rfl, rfl⟩
  · change c.collected + 1 = (c.attempts ++ [_]).length
    rw [h.collected, List.length_append, List.length_singleton]
  · exact decide_eq_true_iff
  · intro hscheduled a ha
    rcases List.mem_append.mp ha with ha | ha
    · exact h.subset hscheduled a ha
    · rw [List.mem_singleton.mp ha]
      exact List.mem_of_getElem? (plan_observe hplan hscheduled).1
  · intro hscheduled
    change ((c.attempts ++ [_]).map Attempt.frame).Nodup
    rw [List.map_append, List.nodup_append]
    refine ⟨h.nodup hscheduled, List.nodup_singleton _, ?_⟩
    intro f hf g hg hfg
    rw [List.map_singleton, List.mem_singleton] at hg
    rw [hfg, hg] at hf
    exact hnew hscheduled hf
  · intro hscheduled i f hf
    change Function.update c.observed selected true i = true ↔ f ∈ (c.attempts ++ [_]).map _
    rw [List.map_append, List.mem_append, List.map_singleton, List.mem_singleton]
    obtain ⟨hframe, -⟩ := plan_observe hplan hscheduled
    by_cases hi : i = selected
    · subst hi
      rw [Function.update_self]
      exact iff_of_true rfl (.inr (Option.some.inj (hf.symm.trans hframe)))
    · rw [Function.update_of_ne hi, h.observed hscheduled i f hf]
      refine (or_iff_left fun heq => hi ?_).symm
      rw [heq] at hf
      obtain ⟨hlt, hget⟩ := List.getElem?_eq_some_iff.mp hf
      obtain ⟨hlt', hget'⟩ := List.getElem?_eq_some_iff.mp hframe
      exact ((hok.frames hscheduled).1.getElem_inj_iff).mp (hget.trans hget'.symm)

/-- A call site that has changed only in what is not collected, or has failed. -/
lemma Callsite.Ok.congr {c c' : Callsite} (h : c.Ok)
    (hplan : c'.count = c.count ∧ c'.frames = c.frames ∧ c'.scheduled = c.scheduled)
    (hclean : c'.failed = false → c.failed = false ∧ c'.attempts = c.attempts ∧
      c'.collected = c.collected ∧ c'.success = c.success ∧ c'.observed = c.observed ∧
      ∀ f ∈ c'.failures, f = .close ∨ f ∈ c.failures) : c'.Ok := by
  obtain ⟨hcount, hframes, hscheduled⟩ := hplan
  refine ⟨hcount ▸ h.count_pos, ?_, ?_, fun hfailed => ?_⟩
  · rw [hscheduled, hframes, hcount]
    exact h.frames
  · rw [hscheduled, hcount]
    exact h.legacy
  · obtain ⟨hfailed', hattempts, hcollected, hsuccess, hobserved, hfailures⟩ := hclean hfailed
    have hc := h.clean hfailed'
    refine ⟨fun f hf => (hfailures f hf).elim id (hc.failures f), ?_, ?_, ?_, ?_, ?_, ?_⟩
    · rw [hattempts]
      exact hc.attempts
    · rw [hcollected, hattempts]
      exact hc.collected
    · rw [hsuccess, hcollected, hcount]
      exact hc.success
    · rw [hscheduled, hattempts, hframes]
      exact hc.subset
    · rw [hscheduled, hattempts]
      exact hc.nodup
    · rw [hscheduled, hobserved, hattempts, hframes]
      exact hc.observed

/-- The call site of the element, if there is one, is in order. -/
def Collects (s : Element) : Prop := ∀ c, s.callsite = some c → c.Ok

lemma collects_of_some {s : Element} {c : Callsite} (hc : s.callsite = some c) (h : c.Ok) :
    Collects s := by
  intro c' hc'
  rw [Option.some.inj (hc'.symm.trans hc)]
  exact h

lemma Collects.step {s s' : Element} (h : Collects s) (hctrl : Control s) (hmove : Move s s') :
    Collects s' := by
  cases hmove with
  | stay => exact h
  | armed copy frames thread hnone hframes => exact collects_of_some rfl (ok_armed hframes)
  | passed hnone => exact h
  | refused => exact h
  | entered c hc hidle hlease ok =>
      refine collects_of_some rfl ((h c hc).congr ⟨rfl, rfl, rfl⟩ fun hfailed => ?_)
      exact ⟨hfailed, rfl, rfl, rfl, rfl, fun f hf => .inr hf⟩
  | rejected c hc hidle hlease f hf =>
      refine collects_of_some rfl ((h c hc).congr ⟨rfl, rfl, rfl⟩ fun hfailed => ?_)
      exact absurd hfailed.symm Bool.false_ne_true
  | observed c hc hidle hlease hfailed e howner selected hplan o ho =>
      cases ho with
      | failed pool a fs content hfs =>
          refine collects_of_some rfl ((h c hc).congr ⟨rfl, rfl, rfl⟩ fun hfailed => ?_)
          exact absurd hfailed.symm Bool.false_ne_true
      | held pool a fs content r hfs =>
          refine collects_of_some rfl ((h c hc).congr ⟨rfl, rfl, rfl⟩ fun hfailed => ?_)
          exact absurd hfailed.symm Bool.false_ne_true
      | collected pool content =>
          have hok := h c hc
          refine collects_of_some rfl ⟨hok.count_pos, hok.frames, hok.legacy, fun _ => ?_⟩
          exact (hok.clean hfailed).collect hok hplan rfl
  | left k ok c hactive hc hkept =>
      refine collects_of_some rfl ((h c hc).congr ⟨rfl, rfl, rfl⟩ fun hfailed => ?_)
      exact ⟨hfailed, rfl, rfl, rfl, rfl, fun f hf => .inr hf⟩
  | leftDropped k ok c hactive hc hdropped =>
      refine collects_of_some rfl ((h c hc).congr ⟨rfl, rfl, rfl⟩ fun hfailed => ?_)
      exact ⟨hfailed, rfl, rfl, rfl, rfl, fun f hf => .inr hf⟩
  | stuck c hc hlease =>
      refine collects_of_some rfl ((h c hc).congr ⟨rfl, rfl, rfl⟩ fun hfailed => ?_)
      exact absurd (((hctrl.site c hc).stuck hlease).symm.trans hfailed) (by decide)
  | finishing c hc hidle content =>
      refine collects_of_some rfl ((h c hc).congr ⟨rfl, rfl, rfl⟩ fun hfailed => ?_)
      exact ⟨hfailed, rfl, rfl, rfl, rfl, fun f hf => .inr hf⟩
  | released c hc hfinishing => exact fun c' hc' => absurd hc'.symm (Option.some_ne_none c')
  | retried c hc hfinishing =>
      refine collects_of_some rfl ((h c hc).congr ⟨rfl, rfl, rfl⟩ fun hfailed => ?_)
      refine ⟨hfailed, rfl, rfl, rfl, rfl, fun f hf => ?_⟩
      rw [List.mem_append, List.mem_singleton] at hf
      exact hf.symm

end OmarchyM1Video.ReferenceContent.Gst
