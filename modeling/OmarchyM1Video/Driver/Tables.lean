import Mathlib.Data.List.Nodup
import Mathlib.Order.Nat
import OmarchyM1Video.Driver.Slices

/-!
Who owns the job table and the slice copies of an H.264 context.

Only the slice that starts a frame makes a table, and a slice that goes on with a frame pushes its
segment into whatever table is there.  So a frame whose first slice was rejected, or got no table,
has its later slices pushed into no table at all, or into the one of another frame.

* `Owned`, `Copies`, `Framed`, `Inv`: the invariant of every run of operations;
* `Continues`: the condition on a slice that goes on with a frame;
* `step_good_iff`: one operation;
* `orphanSlice_pushed`: a slice that is pushed into no table;
* `tables_good_iff`: the tables and copies stay good exactly in the runs that meet the condition.
-/

namespace OmarchyM1Video.Driver.Slices

open OmarchyM1Video.Py

namespace State

/-! ### The invariant -/

/-- A table that has been allocated is the one at hand or has been freed, once, and not both. -/
structure Owned (s : State) : Prop where
  nodup : s.frees.Nodup
  freed_lt : ∀ id ∈ s.frees, id < s.tables.length
  atHand : ∀ id, s.segments = some id → id < s.tables.length ∧ id ∉ s.frees
  kept : ∀ id < s.tables.length, id ∈ s.frees ∨ s.segments = some id

/-- The copies are the first `slice_num` entries. -/
structure Copies (s : State) : Prop where
  le : s.sliceNum ≤ maxSlices
  copied : ∀ i, s.slices i = true ↔ i < s.sliceNum

/-- The table at hand is of the frame that was opened last, and has at least `k` slices less than
have been copied if that frame is `f`. -/
structure Framed (s : State) (f k : ℕ) : Prop where
  table : ∀ id, s.segments = some id → ∃ t, s.tables[id]? = some t ∧ t.capacity = maxSlices + 1 ∧
    s.opened = some t.frame ∧ (t.frame = f → s.num + k ≤ s.sliceNum)
  opened : ∀ g, s.opened = some g → g ≤ f ∧ (g = f → s.segments ≠ none)

/-- The invariant of every run. -/
structure Inv (s : State) : Prop where
  owned : s.Owned
  copies : s.Copies
  framed : s.Framed s.frame 0
  busy : s.busy = true → s.segments = none

/-- What is asked of the tables and the copies: every segment went into the table of its frame, with
room for it; every table is freed once or at hand; the copies are counted and in bounds. -/
structure Good (s : State) : Prop where
  pushes : ∀ p ∈ s.pushes, p.Good
  owned : s.Owned
  copies : s.Copies

variable {s s' : State} {f g k id : ℕ} {sl : Slice}

/-! ### The pieces of a run -/

lemma Owned.congr (h : s.Owned) (hfrees : s'.frees = s.frees) (htables : s'.tables = s.tables)
    (hseg : s'.segments = s.segments) : s'.Owned := by
  obtain ⟨h₁, h₂, h₃, h₄⟩ := h
  constructor <;> simpa only [hfrees, htables, hseg]

lemma Copies.congr (h : s.Copies) (hslices : s'.slices = s.slices)
    (hnum : s'.sliceNum = s.sliceNum) : s'.Copies := by
  obtain ⟨h₁, h₂⟩ := h
  constructor <;> simpa only [hslices, hnum]

/-- In a later frame nothing is asked of the table at hand. -/
lemma Framed.later (h : s.Framed f k) (hlt : f < g) (hseg : s'.segments = s.segments)
    (htables : s'.tables = s.tables) (hopened : s'.opened = s.opened) : s'.Framed g 0 where
  table id hid := by
    rw [hseg] at hid
    rw [htables, hopened]
    obtain ⟨t, ht, hcap, hop, -⟩ := h.table id hid
    refine ⟨t, ht, hcap, hop, fun htg => ?_⟩
    have := (h.opened t.frame hop).1
    omega
  opened i hi := by
    rw [hopened] at hi
    have := (h.opened i hi).1
    exact ⟨by omega, fun hig => by omega⟩

/-- Without a table a later frame has none to go on with. -/
lemma Framed.dropped (h : s.Framed f k) (hlt : f < g) (hseg : s'.segments = none)
    (hopened : s'.opened = s.opened) : s'.Framed g 0 where
  table id hid := by
    rw [hseg] at hid
    simp at hid
  opened i hi := by
    rw [hopened] at hi
    have := (h.opened i hi).1
    exact ⟨by omega, fun hig => by omega⟩

lemma Framed.weaken (h : s.Framed f k) : s.Framed f 0 where
  table id hid := by
    obtain ⟨t, ht, hcap, hop, hnum⟩ := h.table id hid
    exact ⟨t, ht, hcap, hop, fun htf => by have := hnum htf; omega⟩
  opened := h.opened

lemma Owned.freed (h : s.Owned) (hfrees : s'.frees = s.segments.toList ++ s.frees)
    (htables : s'.tables = s.tables) (hseg : s'.segments = none) : s'.Owned := by
  rcases hs : s.segments with _ | id <;> rw [hs] at hfrees
  · rw [Option.toList_none, List.nil_append] at hfrees
    exact h.congr hfrees htables (hseg.trans hs.symm)
  · rw [Option.toList_some, List.singleton_append] at hfrees
    obtain ⟨hlt, hnot⟩ := h.atHand id hs
    refine ⟨?_, ?_, by simp [hseg], ?_⟩
    · rw [hfrees]
      exact List.nodup_cons.mpr ⟨hnot, h.nodup⟩
    · rw [hfrees, htables, List.forall_mem_cons]
      exact ⟨hlt, h.freed_lt⟩
    · intro i hi
      rw [htables] at hi
      rw [hfrees, List.mem_cons]
      obtain hmem | hat := h.kept i hi
      · exact Or.inl (Or.inr hmem)
      · exact Or.inl (Or.inl (Option.some.inj (hat.symm.trans hs)))

lemma Owned.allocated (h : s.Owned) (hseg : s.segments = none) {t : Table}
    (hfrees : s'.frees = s.frees) (htables : s'.tables = s.tables ++ [t])
    (hseg' : s'.segments = some s.tables.length) : s'.Owned := by
  have hlen : s'.tables.length = s.tables.length + 1 := by simp [htables]
  refine ⟨hfrees ▸ h.nodup, ?_, ?_, ?_⟩
  · intro i hi
    rw [hfrees] at hi
    have := h.freed_lt i hi
    omega
  · intro i hi
    rw [hseg', Option.some_inj] at hi
    refine ⟨by omega, fun hmem => ?_⟩
    rw [hfrees] at hmem
    have := h.freed_lt i hmem
    omega
  · intro i hi
    rw [hfrees, hseg']
    rcases Nat.lt_or_ge i s.tables.length with hlt | hge
    · obtain hmem | hat := h.kept i hlt
      · exact Or.inl hmem
      · simp [hseg] at hat
    · exact Or.inr (congrArg some (by omega))

lemma Owned.initJob (h : s.Owned) (c f : ℕ) (a : Bool) : (s.initJob c f a).Owned := by
  have hfree : ({ s.kvfree with segments := none } : State).Owned := h.freed rfl rfl rfl
  cases a with
  | true => exact hfree.allocated rfl rfl rfl rfl
  | false => exact hfree.congr rfl rfl rfl

lemma Copies.copySlice (h : s.Copies) (hlt : s.sliceNum < maxSlices) : s.copySlice.Copies := by
  refine ⟨hlt, fun i => ?_⟩
  change Function.update s.slices s.sliceNum true i = true ↔ i < s.sliceNum + 1
  rcases eq_or_ne i s.sliceNum with rfl | hne
  · simp
  · rw [Function.update_of_ne hne, h.copied]
    omega

lemma Framed.copySlice (h : s.Framed f 0) : s.copySlice.Framed f 1 where
  table id hid := by
    obtain ⟨t, ht, hcap, hop, hnum⟩ := h.table id hid
    exact ⟨t, ht, hcap, hop, fun htf => Nat.succ_le_succ (hnum htf)⟩
  opened := h.opened

lemma Copies.done (h : s.Copies) (held : Bool) : (s.done held).Copies := by
  cases held with
  | true => exact h
  | false =>
      refine ⟨Nat.zero_le _, fun i => ?_⟩
      have hfree : (s.slices i && !decide (i < s.sliceNum)) = false := by
        rcases hi : s.slices i with _ | _
        · rfl
        · simp [(h.copied i).mp hi]
      simp [State.done, hfree]

lemma Framed.initJob (hpos : 0 < s.sliceNum) (a : Bool) :
    (s.initJob (maxSlices + 1) f a).Framed f 1 := by
  cases a with
  | true =>
      refine ⟨fun id hid => ?_, fun i hi => ?_⟩
      · obtain rfl : s.tables.length = id := Option.some.inj hid
        refine ⟨⟨f, maxSlices + 1⟩, ?_, rfl, rfl, fun _ => ?_⟩
        · change (s.tables ++ _)[s.tables.length]? = _
          simp
        · change 0 + 1 ≤ s.sliceNum
          omega
      · obtain rfl : f = i := Option.some.inj hi
        exact ⟨le_rfl, fun _ => nofun⟩
  | false => exact ⟨nofun, nofun⟩

lemma Framed.push (h : s.Framed f 1) : (s.push f).Framed f 0 where
  table id hid := by
    obtain ⟨t, ht, hcap, hop, hnum⟩ := h.table id hid
    exact ⟨t, ht, hcap, hop, hnum⟩
  opened := h.opened

/-- **The segment goes into the table of its frame, with room for it, exactly when that frame was
the last to be opened.** -/
lemma push_good_iff (hown : s.Owned) (hcopies : s.Copies) (h : s.Framed f 1) :
    (⟨s.table, s.num, f⟩ : Push).Good ↔ s.opened = some f := by
  constructor
  · rintro ⟨t, ht, hframe, -⟩
    rw [table, Option.bind_eq_some_iff] at ht
    obtain ⟨id, hid, ht⟩ := ht
    rw [if_neg (hown.atHand id hid).2] at ht
    obtain ⟨t', ht', -, hop, -⟩ := h.table id hid
    obtain rfl : t = t' := Option.some.inj (ht.symm.trans ht')
    rw [hop, hframe]
  · intro hop
    obtain ⟨id, hid⟩ := Option.ne_none_iff_exists'.mp ((h.opened f hop).2 rfl)
    obtain ⟨t, ht, hcap, hop', hnum⟩ := h.table id hid
    have htf : t.frame = f := Option.some.inj (hop'.symm.trans hop)
    refine ⟨t, ?_, htf, ?_⟩
    · rw [table, Option.bind_eq_some_iff]
      exact ⟨id, hid, by rw [if_neg (hown.atHand id hid).2, ht]⟩
    · have hle := hnum htf
      have := hcopies.le
      change s.num + 1 < t.capacity
      omega

@[simp] lemma initJob_slices {c : ℕ} {a : Bool} : (s.initJob c f a).slices = s.slices := by
  cases a <;> rfl

@[simp] lemma initJob_sliceNum {c : ℕ} {a : Bool} : (s.initJob c f a).sliceNum = s.sliceNum := by
  cases a <;> rfl

@[simp] lemma initJob_busy {c : ℕ} {a : Bool} : (s.initJob c f a).busy = s.busy := by
  cases a <;> rfl

@[simp] lemma initJob_pushes {c : ℕ} {a : Bool} : (s.initJob c f a).pushes = s.pushes := by
  cases a <;> rfl

@[simp] lemma pushSlice_pushes :
    (s.pushSlice sl f).1.pushes = ⟨s.table, s.num, f⟩ :: s.pushes := by
  rw [pushSlice]
  split_ifs <;> rfl

/-! ### A run -/

/-- The state in which `avd_h264_run` leaves the context. -/
structure Leaves (sl : Slice) (f : ℕ) (r : State × Verdict) : Prop where
  owned : r.1.Owned
  copies : r.1.Copies
  finished : r.2 = .finished → r.1.Framed f 0 ∧ r.1.busy = false
  submitted : r.2 = .submitted → sl.held = false ∧ r.1.Framed (f + 1) 0 ∧ r.1.segments = none

lemma leaves_finished (hown : s.Owned) (hcopies : s.Copies) (h : s.Framed f k)
    (hbusy : s.busy = false) : Leaves sl f (s, .finished) :=
  ⟨hown, hcopies, fun _ => ⟨h.weaken, hbusy⟩, nofun⟩

lemma leaves_pushSlice (hown : s.Owned) (hcopies : s.Copies) (h : s.Framed f 1)
    (hbusy : s.busy = false) : Leaves sl f (s.pushSlice sl f) := by
  have hown' : (s.push f).Owned := hown.congr rfl rfl rfl
  have hcopies' : (s.push f).Copies := hcopies.congr rfl rfl
  rw [pushSlice]
  split_ifs with hheld hseg
  · exact leaves_finished hown' hcopies' h.push hbusy
  · exact leaves_finished hown' hcopies' h.push hbusy
  · refine ⟨hown'.freed rfl rfl rfl, hcopies'.congr rfl rfl, nofun, fun _ => ⟨?_, ?_, rfl⟩⟩
    · simpa using hheld
    · exact h.dropped (Nat.lt_succ_self f) rfl rfl

lemma leaves_h264Run (hown : s.Owned) (hcopies : s.Copies) (h : s.Framed f 0)
    (hbusy : s.busy = false) : Leaves sl f (s.h264Run sl f) := by
  rw [h264Run]
  split_ifs with hmax halloc hrefs hnew htable
  · exact leaves_finished hown hcopies h hbusy
  · exact leaves_finished hown hcopies h hbusy
  all_goals
    have hown' : s.copySlice.Owned := hown.congr rfl rfl rfl
    have hcopies' : s.copySlice.Copies := hcopies.copySlice (Nat.lt_of_not_le hmax)
    have hpos : 0 < s.copySlice.sliceNum := Nat.succ_pos _
  · exact leaves_finished hown' hcopies' h.copySlice hbusy
  · exact leaves_finished (hown'.initJob ..) (hcopies'.congr initJob_slices initJob_sliceNum)
      (Framed.initJob hpos _) (initJob_busy.trans hbusy)
  · exact leaves_pushSlice (hown'.initJob ..) (hcopies'.congr initJob_slices initJob_sliceNum)
      (Framed.initJob hpos _) (initJob_busy.trans hbusy)
  · exact leaves_pushSlice hown' hcopies' h.copySlice hbusy

/-- What a run of one slice pushes. -/
lemma h264Run_pushes_good_iff (hown : s.Owned) (hcopies : s.Copies) (h : s.Framed f 0)
    (hgood : ∀ p ∈ s.pushes, p.Good) :
    (∀ p ∈ (s.h264Run sl f).1.pushes, p.Good) ↔
      (s.Admits sl → sl.isNewFrame = false → s.opened = some f) := by
  rw [h264Run]
  split_ifs with hmax halloc hrefs hnew htable
  · exact iff_of_true hgood fun ha => absurd ha.1 (Nat.not_lt.mpr hmax)
  · exact iff_of_true hgood fun ha => by simp [ha.2.1] at halloc
  · exact iff_of_true hgood fun ha => by simp [ha.2.2] at hrefs
  all_goals
    have hown' : s.copySlice.Owned := hown.congr rfl rfl rfl
    have hcopies' : s.copySlice.Copies := hcopies.copySlice (Nat.lt_of_not_le hmax)
    have hpos : 0 < s.copySlice.sliceNum := Nat.succ_pos _
  · refine iff_of_true ?_ fun _ hold => by simp [hnew] at hold
    rw [initJob_pushes]
    exact hgood
  · refine iff_of_true ?_ fun _ hold => by simp [hnew] at hold
    rw [pushSlice_pushes, initJob_pushes, List.forall_mem_cons]
    refine ⟨(push_good_iff (hown'.initJob ..) (hcopies'.congr initJob_slices initJob_sliceNum)
      (Framed.initJob hpos _)).mpr ?_, hgood⟩
    rw [Bool.not_eq_true', Bool.not_eq_false] at htable
    rw [htable]
    rfl
  · rw [pushSlice_pushes, List.forall_mem_cons, push_good_iff hown' hcopies' h.copySlice]
    have hadmits : s.Admits sl :=
      ⟨Nat.lt_of_not_le hmax, by simpa using halloc, by simpa using hrefs⟩
    constructor
    · exact fun hpush _ _ => hpush.1
    · exact fun hcont => ⟨hcont hadmits (by simpa using hnew), hgood⟩

/-- The frame of a slice is the one at hand or the next. -/
lemma Inv.framedOf (hs : s.Inv) : s.Framed (s.frameOf sl) 0 := by
  rw [frameOf]
  split_ifs
  · exact hs.framed.later (Nat.lt_succ_self _) rfl rfl rfl
  · exact hs.framed

lemma Inv.deviceRun (hs : s.Inv) (hbusy : s.busy = false) : (s.deviceRun sl).Inv := by
  have hleaves : Leaves sl (s.frameOf sl) (s.h264Run sl (s.frameOf sl)) :=
    leaves_h264Run hs.owned hs.copies hs.framedOf hbusy
  rcases hrun : s.h264Run sl (s.frameOf sl) with ⟨s₁, _ | _⟩ <;> rw [hrun] at hleaves
  · obtain ⟨hframed, hbusy₁⟩ := hleaves.finished rfl
    have hcopies := hleaves.copies.done sl.held
    simp only [State.deviceRun, hrun]
    rcases hheld : sl.held with _ | _ <;> rw [hheld] at hcopies
    · refine ⟨hleaves.owned.congr rfl rfl rfl, hcopies.congr rfl rfl, ?_, ?_⟩
      · exact hframed.later (Nat.lt_succ_self _) rfl rfl rfl
      · intro hb
        exact absurd (hbusy₁.symm.trans hb) (by decide)
    · refine ⟨hleaves.owned.congr rfl rfl rfl, hcopies.congr rfl rfl, ?_, ?_⟩
      · exact ⟨hframed.table, hframed.opened⟩
      · intro hb
        exact absurd (hbusy₁.symm.trans hb) (by decide)
  · obtain ⟨hheld, hframed, hseg⟩ := hleaves.submitted rfl
    simp only [State.deviceRun, hrun]
    refine ⟨hleaves.owned.congr rfl rfl rfl, hleaves.copies.congr rfl rfl, ?_, fun _ => hseg⟩
    rw [hheld]
    exact ⟨hframed.table, hframed.opened⟩

lemma deviceRun_pushes :
    (s.deviceRun sl).pushes = (s.h264Run sl (s.frameOf sl)).1.pushes := by
  rw [State.deviceRun]
  rcases s.h264Run sl (s.frameOf sl) with ⟨s₁, _ | _⟩
  · rcases hheld : sl.held with _ | _ <;> rfl
  · rfl

end State

/-! ### The operations -/

open State

variable {s s' : State} {op : Op}

/-- **Every operation keeps the invariant.** -/
theorem step_keeps (h : step s op = some s') (hs : s.Inv) : s'.Inv := by
  cases op with
  | run sl =>
      simp only [step, Option.ite_none_left_eq_some, not_or, Option.some_inj] at h
      obtain ⟨⟨hbusy, -⟩, rfl⟩ := h
      exact hs.deviceRun (by simpa using hbusy)
  | complete =>
      simp only [step, Option.ite_none_right_eq_some, Option.some_inj] at h
      obtain ⟨hbusy, rfl⟩ := h
      have hnone := hs.busy hbusy
      refine ⟨hs.owned.congr rfl rfl rfl, (hs.copies.done false).congr rfl rfl, ?_, nofun⟩
      refine ⟨fun id hid => ?_, hs.framed.opened⟩
      exact absurd (hnone.symm.trans hid) (by simp)
  | streamOff | release =>
      simp only [step, Option.ite_none_left_eq_some, Option.some_inj] at h
      obtain ⟨-, rfl⟩ := h
      exact ⟨hs.owned.freed rfl rfl rfl, hs.copies.congr rfl rfl,
        hs.framed.dropped (Nat.lt_succ_self _) rfl rfl, fun _ => rfl⟩

lemma inv_init : ({} : State).Inv where
  owned := ⟨List.nodup_nil, by simp, by simp, by simp⟩
  copies := ⟨Nat.zero_le _, by simp⟩
  framed := ⟨by simp, by simp⟩
  busy := by simp

/-- The invariant holds after every run of operations. -/
theorem inv_of_run {ops : List Op} (h : run ops {} = .ok () s) : s.Inv :=
  each_invariant inv_init (fun _ _ _ hs hx => step_keeps (attempt_ok.mp hx) hs) h

/-! ### When the tables stay good -/

/-- The condition on an operation: a slice that gets past the checks and does not start a frame is of
the frame whose slice `avd_init_job` last made a table for. -/
def Continues (s : State) : Op → Prop
  | .run sl => s.Admits sl → sl.isNewFrame = false → s.opened = some (s.frameOf sl)
  | .complete | .streamOff | .release => True

/-- **One operation keeps the tables and copies good exactly when it meets the condition.** -/
theorem step_good_iff (h : step s op = some s') (hs : s.Inv) (hgood : s.Good) :
    s'.Good ↔ Continues s op := by
  have hs' := step_keeps h hs
  have hiff : s'.Good ↔ ∀ p ∈ s'.pushes, p.Good :=
    ⟨Good.pushes, fun hpushes => ⟨hpushes, hs'.owned, hs'.copies⟩⟩
  rw [hiff]
  cases op with
  | run sl =>
      simp only [step, Option.ite_none_left_eq_some, Option.some_inj] at h
      obtain ⟨-, rfl⟩ := h
      rw [deviceRun_pushes]
      exact h264Run_pushes_good_iff hs.owned hs.copies hs.framedOf hgood.pushes
  | complete =>
      simp only [step, Option.ite_none_right_eq_some, Option.some_inj] at h
      obtain ⟨-, rfl⟩ := h
      exact iff_of_true hgood.pushes trivial
  | streamOff | release =>
      simp only [step, Option.ite_none_left_eq_some, Option.some_inj] at h
      obtain ⟨-, rfl⟩ := h
      exact iff_of_true hgood.pushes trivial

lemma good_init : ({} : State).Good := ⟨by simp, inv_init.owned, inv_init.copies⟩

/-- A P slice with a reference to an entry of the DPB that is not valid. -/
def badFirst : Slice := { params := { sliceType := .p }, held := true }

/-- The slice after it, of the same frame. -/
def orphanSlice : Slice := { isNewFrame := false, held := true }

/-- The first slice of a frame is rejected; the second is pushed, and there is no table. -/
theorem orphanSlice_pushed :
    ∃ s, run [.run badFirst, .run orphanSlice] {} = .ok () s ∧ s.pushes = [⟨none, 0, 0⟩] ∧
      ¬ s.Good := by
  obtain ⟨s, hrun, hs⟩ := exists_run_of_any step [.run badFirst, .run orphanSlice] {}
    (fun s => decide (s.pushes = [⟨none, 0, 0⟩])) (by decide +kernel)
  have hpushes := of_decide_eq_true hs
  refine ⟨s, hrun, hpushes, fun hgood => ?_⟩
  obtain ⟨t, ht, -⟩ := hgood.pushes ⟨none, 0, 0⟩ (by rw [hpushes]; exact List.mem_singleton_self _)
  simp at ht

/-- **The tables and the copies of an H.264 context stay good, in every state of a run of
operations, exactly when every slice that gets past the checks and does not start a frame is of the
frame whose slice `avd_init_job` last made a table for.** -/
theorem tables_good_iff {ops : List Op} (h : run ops {} = .ok () s) :
    Visits (attempt step) State.Good ops {} ↔ Along (attempt step) Continues ops {} := by
  refine visits_iff_along good_init ?_ h
  intro pre op s s' hpre hgood hstep
  exact step_good_iff (attempt_ok.mp hstep) (inv_of_run hpre) hgood

/-- A frame of two slices. -/
def twoSlices : List Op :=
  [.run { held := true }, .run { isNewFrame := false }, .complete, .release]

theorem twoSlices_good :
    ∃ s, run twoSlices {} = .ok () s ∧ s.frees = [0] ∧ s.sliceNum = 0 ∧
      Visits (attempt step) State.Good twoSlices {} := by
  obtain ⟨s, hrun, hs⟩ := exists_run_of_any step twoSlices {}
    (fun s => decide (s.frees = [0] ∧ s.sliceNum = 0)) (by decide +kernel)
  obtain ⟨hfrees, hnum⟩ := of_decide_eq_true hs
  refine ⟨s, hrun, hfrees, hnum, (tables_good_iff hrun).mpr ?_⟩
  refine Along.cons (fun _ hold => by simp at hold) fun s₁ h₁ => Along.cons ?_ ?_
  · obtain rfl := Option.some.inj (attempt_ok.mp h₁)
    exact fun _ _ => by decide +kernel
  · exact fun s₂ _ => along_of_forall (by simp [Continues])

end OmarchyM1Video.Driver.Slices
