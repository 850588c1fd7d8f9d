import Mathlib.Data.List.Count
import Mathlib.Data.Nat.Bitwise
import OmarchyM1Video.ReferenceContent.GstRunner

/-!
The allocation of selected frames: `gst-eligibility/gst-eligibility.patch`.

The runner keeps a mask of the selected frames that have an allocation and the number of those that
have none; the source allocator keeps its free buffers in a queue.  An allocation runs under the stream
lock, so that the runner does not change inside of it; other threads release and publish buffers between
any two of its steps (`Move`).

* `PlannedRunner`, `allocationSize`, `arm`, `plan`, `commit`: the runner;
* `candidate`, `prepare`, `acquireObserverBuffer`: the allocator and its pool;
* `ensureOutputBuffer`: an allocation;
* `Inv`: the free buffers that were never published suffice for the frames that are left;
* `selected_frame_finds_unpublished`: so it is in every run.
-/

namespace OmarchyM1Video.ReferenceContent.GstEligibility

open OmarchyM1Video.ReferenceContent.Gst (Runner Status)
open OmarchyM1Video.ReferenceContent.GstRunner (setAll parseFrames parseValues strsplit)

/-! ### The runner -/

/-- `struct _GstHevcRunner` with the fields of the patch. -/
structure PlannedRunner extends Runner where
  allocationFrozen : Bool
  allocatedMask : ℕ
  remainingAllocations : ℕ

/-- `G_MAXUINT`. -/
def maxUint : ℕ := 0xffffffff

/-- `gst_hevc_runner_message (self, status, TRUE)`. -/
def refuse (status : Status) (r : PlannedRunner) : PlannedRunner :=
  { r with
    status := status
    terminal := true }

/-- `gst_hevc_runner_allocation_size`: the number of source buffers, and the runner. -/
def allocationSize (ordinary : ℕ) (r : PlannedRunner) : Option ℕ × PlannedRunner :=
  if r.allocationFrozen then
    (if r.frames.length ≤ maxUint - ordinary then some (ordinary + r.frames.length) else none, r)
  else
    let r := { r with locked := true }
    if r.invalid = true ∨ r.setMask ≠ setAll then (none, refuse .configRefused r)
    else
      let (ok, parsed) := parseFrames r.toRunner
      let r := { r with toRunner := parsed }
      if ok = false ∨ r.reportPath = none ∨ r.reportPath = some [] ∨
          maxUint - ordinary < r.frames.length then
        (none, refuse .configRefused r)
      else
        (some (ordinary + r.frames.length),
          { r with
            allocationFrozen := true
            allocatedMask := 0
            remainingAllocations := r.frames.length })

/-- `gst_hevc_runner_arm`; `opens` is what `gst_hevc_callsite_arm_frames` returns. -/
def arm (opens : Bool) (r : PlannedRunner) : Bool × PlannedRunner :=
  if r.terminal then (r.status = .success, r)
  else if r.armed then (true, r)
  else
    let r := { r with locked := true }
    if r.invalid = true ∨ r.setMask ≠ setAll ∨ r.allocationFrozen = false ∨ r.frames = [] ∨
        r.remainingAllocations ≠ r.frames.length ∨ r.allocatedMask ≠ 0 then
      (false, refuse .configRefused r)
    else if opens then
      (true,
        { r with
          armed := true
          status := .armed })
    else (false, refuse .armRefused r)

/-- What `gst_hevc_runner_allocation_plan` returns. -/
structure Plan where
  active : Bool
  selected : Bool
  remaining : ℕ
  deriving DecidableEq

/-- `gst_hevc_runner_allocation_plan`. -/
def plan (r : PlannedRunner) (frame : UInt32) : Option Plan :=
  if r.terminal then if r.status = .success then some ⟨false, false, 0⟩ else none
  else if r.allocationFrozen = false ∨ r.armed = false then none
  else
    match r.frames.findIdx? (· = frame) with
    | none => some ⟨true, false, r.remainingAllocations⟩
    | some i =>
        if r.allocatedMask.testBit i = true ∨ r.remainingAllocations = 0 then none
        else some ⟨true, true, r.remainingAllocations⟩

/-- The frame of this index has its allocation. -/
@[simps toRunner allocationFrozen allocatedMask remainingAllocations]
def PlannedRunner.mark (r : PlannedRunner) (i : ℕ) : PlannedRunner :=
  { r with
    allocatedMask := r.allocatedMask ||| 1 <<< i
    remainingAllocations := r.remainingAllocations - 1 }

/-- `gst_hevc_runner_allocation_commit`. -/
def commit (r : PlannedRunner) (frame : UInt32) : Option PlannedRunner :=
  if r.allocationFrozen = false ∨ r.armed = false ∨ r.terminal = true ∨ r.remainingAllocations = 0 then
    none
  else
    match r.frames.findIdx? (· = frame) with
    | none => none
    | some i => if r.allocatedMask.testBit i then none else some (r.mark i)

/-! ### The allocator -/

/-- The decoder with its source allocator; buffers are known by their index. -/
structure State where
  runner : PlannedRunner
  /-- `self->pool`. -/
  pool : List ℕ
  /-- How many buffers there are. -/
  total : ℕ
  /-- `observer_published`. -/
  published : ℕ → Bool
  /-- `gst_hevc_observer_busy`: a lease is held. -/
  busy : Bool
  /-- The frames that have got an output buffer. -/
  allocated : List UInt32
  /-- The frames that have been committed. -/
  committed : List UInt32
  /-- The frames whose output has been observed. -/
  collected : List UInt32

/-- The number of free buffers that were never published. -/
def free (s : State) : ℕ := s.pool.countP fun b => !s.published b

/-- The loop of `gst_v4l2_codec_allocator_observer_candidate`. -/
def candidateFrom (published : ℕ → Bool) (selected : Bool) (remaining : ℕ) :
    Option ℕ → ℕ → List ℕ → Option ℕ
  | first, unpublished, [] => if selected = true ∨ remaining < unpublished then first else none
  | first, unpublished, b :: pool =>
      if published b then
        if selected then candidateFrom published selected remaining first unpublished pool else some b
      else candidateFrom published selected remaining (first.or (some b)) (unpublished + 1) pool

/-- `gst_v4l2_codec_allocator_observer_candidate`. -/
def candidate (s : State) (selected : Bool) (remaining : ℕ) : Option ℕ :=
  candidateFrom s.published selected remaining none 0 s.pool

/-- A buffer leaves the pool. -/
@[simps] def State.take (s : State) (b : ℕ) : State := { s with pool := s.pool.erase b }

/-- `gst_v4l2_codec_allocator_prepare_observer_buffer`. -/
def prepareObserverBuffer (selected : Bool) (remaining : ℕ) (s : State) : Option (ℕ × State) :=
  if s.busy then none
  else (candidate s selected remaining).map fun b => (b, s.take b)

/-- `gst_v4l2_codec_allocator_prepare_buffer`. -/
def prepareBuffer (s : State) : Option (ℕ × State) :=
  if s.busy then none else s.pool.head?.map fun b => (b, s.take b)

/-- What other threads do to a buffer that is not in the pool. -/
inductive Move where
  | release (b : ℕ)
  | publish (b : ℕ)

/-- The buffer. -/
def Move.buffer : Move → ℕ
  | .release b => b
  | .publish b => b

/-- A buffer that is not in the pool is released to its end, or published. -/
def move (s : State) (m : Move) : State :=
  if s.total ≤ m.buffer ∨ m.buffer ∈ s.pool then s
  else
    match m with
    | .release b => { s with pool := s.pool ++ [b] }
    | .publish b => { s with published := Function.update s.published b true }

/-- Other threads at work. -/
def moves (s : State) (ms : List Move) : State := ms.foldl move s

/-- What an allocation finds: what other threads do before it, while it waits and before it commits,
and whether a flush ends the wait. -/
structure AllocEnv where
  before : List Move
  waits : List Move
  flushing : Bool
  after : List Move

/-- `gst_v4l2_codec_pool_acquire_observer_buffer`; a wait without a candidate goes on. -/
def acquireObserverBuffer (env : AllocEnv) (selected : Bool) (remaining : ℕ) (s : State) :
    Option ℕ × State :=
  let s := moves s env.before
  match prepareObserverBuffer selected remaining s with
  | some (b, s) => (some b, s)
  | none =>
      if selected then (none, s)
      else
        let s := moves s env.waits
        if env.flushing = true ∨ candidate s false remaining = none then (none, s)
        else
          match prepareObserverBuffer false remaining s with
          | some (b, s) => (some b, s)
          | none => (none, s)

/-- `gst_v4l2_codec_pool_acquire_buffer`. -/
def acquireBuffer (env : AllocEnv) (s : State) : Option ℕ × State :=
  let s := moves s env.before
  match prepareBuffer s with
  | some (b, s) => (some b, s)
  | none =>
      let s := moves s env.waits
      if env.flushing then (none, s)
      else
        match prepareBuffer s with
        | some (b, s) => (some b, s)
        | none => (none, s)

/-- `gst_v4l2_codec_h265_dec_ensure_output_buffer`; `supplied` is that the frame has a buffer. -/
def ensureOutputBuffer (frame : UInt32) (supplied : Bool) (env : AllocEnv) (s : State) : Bool × State :=
  match plan s.runner frame with
  | none => (false, s)
  | some p =>
      if supplied then (!p.active, s)
      else
        match if p.active then acquireObserverBuffer env p.selected p.remaining s
          else acquireBuffer env s with
        | (none, s) => (false, s)
        | (some b, s) =>
            let s := moves s (env.after.filter fun m => m.buffer ≠ b)
            if p.selected then
              match commit s.runner frame with
              | none => (false, move s (.release b))
              | some runner =>
                  (true,
                    { s with
                      runner := runner
                      allocated := frame :: s.allocated
                      committed := s.committed ++ [frame] })
            else (true, { s with allocated := frame :: s.allocated })

/-! ### Runs -/

/-- What happens after the runner was armed. -/
inductive Event where
  | allocate (frame : UInt32) (supplied : Bool) (env : AllocEnv)
  | move (m : Move)
  /-- The output of a frame with a buffer was observed. -/
  | collect (frame : UInt32)
  /-- A property is set: it is refused, for the configuration is locked. -/
  | property
  /-- The runner stops without success; a lease that could not be ended may be left. -/
  | stop (status : Status) (busy : Bool)
  /-- Every selected frame was observed and reported. -/
  | succeed

/-- One step. -/
def step (s : State) : Event → State
  | .allocate frame supplied env => (ensureOutputBuffer frame supplied env s).2
  | .move m => move s m
  | .collect frame =>
      if frame ∈ s.allocated ∧ s.runner.terminal = false then
        { s with collected := frame :: s.collected }
      else s
  | .property =>
      { s with runner := { s.runner with invalid := true, status := .configRefused } }
  | .stop status busy =>
      if s.runner.terminal = true ∨ status = .success then s
      else { s with runner := refuse status s.runner, busy := busy }
  | .succeed =>
      if s.runner.terminal = true ∨ s.runner.frames.any (fun frame => frame ∉ s.collected) = true then s
      else { s with runner := { refuse .success s.runner with armed := false } }

/-- A run. -/
def run (s : State) (events : List Event) : State := events.foldl step s

/-- An armed runner over an allocator whose buffers are all free and were never published. -/
def start (total : ℕ) (r : PlannedRunner) : State where
  runner := r
  pool := List.range total
  total := total
  published := fun _ => false
  busy := false
  allocated := []
  committed := []
  collected := []

/-! ### The scan -/

section Scan

variable {published : ℕ → Bool} {selected : Bool} {remaining unpublished b : ℕ} {first : Option ℕ}
  {pool : List ℕ} {s : State}

lemma candidateFrom_selected : candidateFrom published true remaining first unpublished pool =
    first.or (pool.find? fun b => !published b) := by
  induction pool generalizing first unpublished with
  | nil =>
      rw [candidateFrom, if_pos (.inl rfl), List.find?_nil, Option.or_none]
  | cons b pool ih =>
      rw [candidateFrom]
      by_cases hb : published b = true
      · have hskip : (b :: pool).find? (fun b => !published b) = pool.find? fun b => !published b :=
          List.find?_cons_of_neg (by rw [hb]; decide)
        rw [if_pos hb, if_pos rfl, ih, hskip]
      · have hfound : (b :: pool).find? (fun b => !published b) = some b :=
          List.find?_cons_of_pos (by rw [Bool.eq_false_iff.mpr hb]; decide)
        rw [if_neg hb, ih, hfound, Option.or_assoc, Option.some_or]

/-- An ordinary frame takes a buffer that was published, or one of more than are reserved. -/
lemma candidateFrom_ordinary (h : candidateFrom published false remaining first unpublished pool = some b) :
    (b ∈ pool ∧ published b = true) ∨
      (remaining < unpublished + pool.countP (fun b => !published b) ∧ (first = some b ∨ b ∈ pool)) := by
  induction pool generalizing first unpublished with
  | nil =>
      rw [candidateFrom] at h
      by_cases hmore : remaining < unpublished
      · rw [if_pos (.inr hmore)] at h
        exact .inr ⟨Nat.lt_of_lt_of_le hmore (Nat.le_add_right _ _), .inl h⟩
      · rw [if_neg (not_or.mpr ⟨Bool.false_ne_true, hmore⟩)] at h
        exact absurd h.symm (Option.some_ne_none b)
  | cons c pool ih =>
      rw [candidateFrom] at h
      by_cases hc : published c = true
      · rw [if_pos hc, if_neg Bool.false_ne_true] at h
        obtain rfl := Option.some.inj h
        exact .inl ⟨List.mem_cons_self, hc⟩
      · have hcount : (c :: pool).countP (fun b => !published b) =
            pool.countP (fun b => !published b) + 1 :=
          List.countP_cons_of_pos (by rw [Bool.eq_false_iff.mpr hc]; decide)
        rw [if_neg hc] at h
        rcases ih h with ⟨hmem, hpublished⟩ | ⟨hmore, hfirst⟩
        · exact .inl ⟨List.mem_cons_of_mem c hmem, hpublished⟩
        · refine .inr ⟨?_, ?_⟩
          · rw [hcount]
            omega
          · rcases first with _ | f
            · rcases hfirst with hfirst | hmem
              · rw [Option.none_or, Option.some.injEq] at hfirst
                exact .inr (hfirst ▸ List.mem_cons_self)
              · exact .inr (List.mem_cons_of_mem c hmem)
            · exact hfirst.imp id (List.mem_cons_of_mem c)

/-- A selected frame takes the first free buffer that was never published. -/
lemma candidate_selected : candidate s true remaining = s.pool.find? fun b => !s.published b := by
  rw [candidate, candidateFrom_selected, Option.none_or]

lemma candidate_ordinary (h : candidate s false remaining = some b) :
    b ∈ s.pool ∧ (s.published b = true ∨ remaining < free s) := by
  rcases candidateFrom_ordinary h with ⟨hmem, hpublished⟩ | ⟨hmore, hmem⟩
  · exact ⟨hmem, .inl hpublished⟩
  · rw [Nat.zero_add] at hmore
    exact ⟨hmem.resolve_left fun h => (nomatch h), .inr hmore⟩

/-- While one is free, a selected frame finds one. -/
lemma exists_candidate (h : 0 < free s) :
    ∃ b, candidate s true remaining = some b ∧ b ∈ s.pool ∧ s.published b = false := by
  obtain ⟨b, hmem, hb⟩ := List.countP_pos_iff.mp h
  have hsome : (s.pool.find? fun b => !s.published b).isSome = true :=
    List.find?_isSome.mpr ⟨b, hmem, hb⟩
  obtain ⟨c, hc⟩ := Option.isSome_iff_exists.mp hsome
  refine ⟨c, candidate_selected.trans hc, List.mem_of_find?_eq_some hc, ?_⟩
  have hpublished := List.find?_some hc
  rwa [Bool.not_eq_true'] at hpublished

/-- What is left free without a buffer. -/
lemma free_take (hmem : b ∈ s.pool) :
    free (s.take b) = if s.published b then free s else free s - 1 := by
  change (s.pool.erase b).countP (fun b => !s.published b) = _
  rw [List.countP_erase, free]
  by_cases hb : s.published b = true
  · rw [if_pos hb, if_neg, Nat.sub_zero]
    rintro ⟨-, hnot⟩
    rw [hb] at hnot
    exact absurd hnot (by decide)
  · rw [if_neg hb, if_pos]
    refine ⟨hmem, ?_⟩
    rw [Bool.eq_false_iff.mpr hb]
    rfl

end Scan

/-! ### Allocations -/

/-- Nothing but the pool and the publications has changed. -/
structure Kept (s s' : State) : Prop where
  runner : s'.runner = s.runner
  busy : s'.busy = s.busy
  allocated : s'.allocated = s.allocated
  committed : s'.committed = s.committed
  collected : s'.collected = s.collected

section Moves

variable {s s' s'' : State} {m : Move} {ms : List Move} {b remaining : ℕ} {selected : Bool}
  {env : AllocEnv} {o : Option ℕ}

lemma Kept.refl (s : State) : Kept s s := ⟨rfl, rfl, rfl, rfl, rfl⟩

lemma Kept.trans (h : Kept s s') (h' : Kept s' s'') : Kept s s'' :=
  ⟨h'.runner.trans h.runner, h'.busy.trans h.busy, h'.allocated.trans h.allocated,
    h'.committed.trans h.committed, h'.collected.trans h.collected⟩

lemma kept_take : Kept s (s.take b) := ⟨rfl, rfl, rfl, rfl, rfl⟩

lemma move_kept : Kept s (move s m) := by
  unfold move
  split_ifs
  · exact Kept.refl s
  · cases m <;> exact ⟨rfl, rfl, rfl, rfl, rfl⟩

/-- Other threads take no free buffer and publish none. -/
lemma free_move : free s ≤ free (move s m) := by
  unfold move
  split_ifs with h
  · exact Nat.le_refl _
  · rw [not_or] at h
    cases m with
    | release b =>
        change free s ≤ (s.pool ++ [b]).countP _
        rw [List.countP_append]
        exact Nat.le_add_right _ _
    | publish b =>
        refine (List.countP_congr fun c hc => ?_).le
        have hne : c ≠ b := fun heq => h.2 (heq ▸ hc)
        change _ ↔ (!Function.update s.published b true c) = true
        rw [Function.update_of_ne hne]

lemma moves_kept : Kept s (moves s ms) ∧ free s ≤ free (moves s ms) := by
  induction ms generalizing s with
  | nil => exact ⟨Kept.refl s, Nat.le_refl _⟩
  | cons m ms ih =>
      obtain ⟨hkept, hfree⟩ := ih (s := move s m)
      exact ⟨move_kept.trans hkept, free_move.trans hfree⟩

/-- What an acquisition leaves: the reserve, but for the buffer of a selected frame. -/
structure Acquired (selected : Bool) (remaining : ℕ) (s s' : State) (o : Option ℕ) : Prop where
  kept : Kept s s'
  reserve : remaining ≤ free s → remaining ≤ free s' + (if selected = true ∧ o ≠ none then 1 else 0)

lemma prepareObserverBuffer_spec (h : prepareObserverBuffer selected remaining s = some (b, s')) :
    Acquired selected remaining s s' (some b) := by
  rw [prepareObserverBuffer] at h
  split_ifs at h
  obtain ⟨c, hc, heq⟩ := Option.map_eq_some_iff.mp h
  obtain ⟨rfl, rfl⟩ := Prod.mk.inj heq
  refine ⟨kept_take, fun hreserve => ?_⟩
  cases selected with
  | true =>
      rw [candidate_selected] at hc
      have hmem := List.mem_of_find?_eq_some hc
      rw [if_pos ⟨rfl, Option.some_ne_none c⟩, free_take hmem]
      split_ifs <;> omega
  | false =>
      obtain ⟨hmem, hcandidate⟩ := candidate_ordinary hc
      rw [if_neg fun hsel => absurd hsel.1 Bool.false_ne_true, free_take hmem]
      rcases hcandidate with hpublished | hmore
      · rw [if_pos hpublished]
        exact hreserve
      · split_ifs <;> omega

lemma acquired_none (hkept : Kept s s') (hfree : free s ≤ free s') :
    Acquired selected remaining s s' none :=
  ⟨hkept, fun h => h.trans (hfree.trans (Nat.le_add_right _ _))⟩

lemma Acquired.after (h : Acquired selected remaining s' s'' o) (hkept : Kept s s')
    (hfree : free s ≤ free s') : Acquired selected remaining s s'' o :=
  ⟨hkept.trans h.kept, fun hreserve => h.reserve (hreserve.trans hfree)⟩

lemma acquireObserverBuffer_spec : Acquired selected remaining s
    (acquireObserverBuffer env selected remaining s).2
    (acquireObserverBuffer env selected remaining s).1 := by
  obtain ⟨hkept, hfree⟩ : Kept s (moves s env.before) ∧ _ := moves_kept
  obtain ⟨hkept', hfree'⟩ : Kept (moves s env.before) (moves (moves s env.before) env.waits) ∧ _ :=
    moves_kept
  rw [acquireObserverBuffer]
  rcases hprepare : prepareObserverBuffer selected remaining (moves s env.before) with _ | ⟨b, s'⟩
  · dsimp only
    split_ifs with hselected hwait
    · exact acquired_none hkept hfree
    · exact acquired_none (hkept.trans hkept') (hfree.trans hfree')
    · rcases hagain : prepareObserverBuffer false remaining (moves (moves s env.before) env.waits)
        with _ | ⟨b, s'⟩
      · exact acquired_none (hkept.trans hkept') (hfree.trans hfree')
      · obtain rfl : selected = false := Bool.eq_false_iff.mpr hselected
        exact (prepareObserverBuffer_spec hagain).after (hkept.trans hkept') (hfree.trans hfree')
  · exact (prepareObserverBuffer_spec hprepare).after hkept hfree

/-- With a reserve and no lease held, a selected frame gets a buffer that was never published. -/
lemma acquireObserverBuffer_selected (hbusy : s.busy = false) (hfree : 0 < free s) :
    ∃ b, acquireObserverBuffer env true remaining s =
        (some b, (moves s env.before).take b) ∧
      b ∈ (moves s env.before).pool ∧ (moves s env.before).published b = false := by
  obtain ⟨hkept, hmoves⟩ : Kept s (moves s env.before) ∧ _ := moves_kept
  obtain ⟨b, hcandidate, hmem, hpublished⟩ :
      ∃ b, candidate (moves s env.before) true remaining = some b ∧ b ∈ (moves s env.before).pool ∧
        (moves s env.before).published b = false := exists_candidate (Nat.lt_of_lt_of_le hfree hmoves)
  have hprepare : prepareObserverBuffer true remaining (moves s env.before) =
      some (b, (moves s env.before).take b) := by
    rw [prepareObserverBuffer, hkept.busy, hbusy, if_neg Bool.false_ne_true, hcandidate]
    rfl
  refine ⟨b, ?_, hmem, hpublished⟩
  rw [acquireObserverBuffer, hprepare]

lemma prepareBuffer_kept (h : prepareBuffer s = some (b, s')) : Kept s s' := by
  rw [prepareBuffer] at h
  split_ifs at h
  obtain ⟨c, -, heq⟩ := Option.map_eq_some_iff.mp h
  obtain ⟨rfl, rfl⟩ := Prod.mk.inj heq
  exact kept_take

lemma acquireBuffer_kept : Kept s (acquireBuffer env s).2 := by
  obtain ⟨hkept, -⟩ : Kept s (moves s env.before) ∧ _ := moves_kept
  obtain ⟨hkept', -⟩ : Kept (moves s env.before) (moves (moves s env.before) env.waits) ∧ _ := moves_kept
  rw [acquireBuffer]
  rcases hprepare : prepareBuffer (moves s env.before) with _ | ⟨b, s'⟩
  · dsimp only
    split_ifs
    · exact hkept.trans hkept'
    · rcases hagain : prepareBuffer (moves (moves s env.before) env.waits) with _ | ⟨b, s'⟩
      · exact hkept.trans hkept'
      · exact (hkept.trans hkept').trans (prepareBuffer_kept hagain)
  · exact hkept.trans (prepareBuffer_kept hprepare)

end Moves

/-! ### The invariant -/

/-- The runner is armed over its frozen configuration. -/
structure Live (r : PlannedRunner) : Prop where
  frozen : r.allocationFrozen = true
  armed : r.armed = true
  running : r.terminal = false

/-- The frame is selected and has no allocation yet; it has this index. -/
structure Awaited (r : PlannedRunner) (frame : UInt32) (i : ℕ) : Prop where
  index : r.frames.findIdx? (· = frame) = some i
  free : r.allocatedMask.testBit i = false
  remaining : r.remainingAllocations ≠ 0

section Plans

variable {r : PlannedRunner} {frame : UInt32} {p : Plan} {i : ℕ}

/-- What an accepted plan is: after success it is off; otherwise it says whether the frame is selected. -/
lemma plan_cases (h : plan r frame = some p) :
    (p.active = false ∧ p.selected = false ∧ r.terminal = true ∧ r.status = .success) ∨
    (p.active = true ∧ p.remaining = r.remainingAllocations ∧ Live r ∧
      ((p.selected = false ∧ frame ∉ r.frames) ∨ (p.selected = true ∧ ∃ i, Awaited r frame i))) := by
  rw [plan] at h
  by_cases hterminal : r.terminal = true
  · rw [if_pos hterminal] at h
    split_ifs at h with hsuccess
    obtain rfl := Option.some.inj h
    exact .inl ⟨rfl, rfl, hterminal, hsuccess⟩
  · rw [if_neg hterminal] at h
    split_ifs at h with hlive
    rw [not_or, Bool.not_eq_false, Bool.not_eq_false] at hlive
    have hlive : Live r := ⟨hlive.1, hlive.2, Bool.eq_false_iff.mpr hterminal⟩
    rcases hindex : r.frames.findIdx? (· = frame) with _ | i <;> rw [hindex] at h
    · obtain rfl := Option.some.inj h
      refine .inr ⟨rfl, rfl, hlive, .inl ⟨rfl, fun hmem => ?_⟩⟩
      exact absurd (List.findIdx?_eq_none_iff.mp hindex frame hmem) (by simp)
    · dsimp only at h
      split_ifs at h with hbit
      obtain rfl := Option.some.inj h
      rw [not_or, Bool.not_eq_true] at hbit
      exact .inr ⟨rfl, rfl, hlive, .inr ⟨rfl, i, hindex, hbit.1, hbit.2⟩⟩

lemma Awaited.getElem (h : Awaited r frame i) : r.frames[i]? = some frame := by
  obtain ⟨hlt, hframe, -⟩ := List.findIdx?_eq_some_iff_getElem.mp h.index
  rw [List.getElem?_eq_getElem hlt, of_decide_eq_true hframe]

/-- A frame that is awaited is committed. -/
lemma Awaited.commit (h : Awaited r frame i) (hlive : Live r) : commit r frame = some (r.mark i) := by
  rw [GstEligibility.commit, if_neg, h.index]
  · dsimp only
    rw [if_neg (Bool.eq_false_iff.mp h.free)]
  · rw [hlive.frozen, hlive.armed, hlive.running]
    simp [h.remaining]

lemma testBit_mark {j : ℕ} :
    (r.mark i).allocatedMask.testBit j = true ↔ r.allocatedMask.testBit j = true ∨ i = j := by
  rw [PlannedRunner.mark_allocatedMask, Nat.testBit_or, Nat.one_shiftLeft, Nat.testBit_two_pow,
    Bool.or_eq_true, decide_eq_true_eq]

end Plans

/-- What holds in every state that is reached. -/
structure Inv (s : State) : Prop where
  nodup : s.runner.frames.Nodup
  mask : ∀ i frame, s.runner.frames[i]? = some frame →
    (s.runner.allocatedMask.testBit i = true ↔ frame ∈ s.committed)
  once : s.committed.Nodup
  selected : ∀ frame ∈ s.committed, frame ∈ s.runner.frames
  count : s.runner.remainingAllocations + s.committed.length = s.runner.frames.length
  reserve : s.runner.remainingAllocations ≤ free s
  /-- A lease that is left behind has stopped the runner. -/
  busy : s.busy = true → s.runner.terminal = true ∧ s.runner.status ≠ .success
  allocated : ∀ frame ∈ s.allocated, frame ∈ s.runner.frames → frame ∈ s.committed
  collected : ∀ frame ∈ s.collected, frame ∈ s.allocated
  success : s.runner.terminal = true → s.runner.status = .success →
    ∀ frame ∈ s.runner.frames, frame ∈ s.committed

section Invariant

variable {s s' : State} {frame : UInt32} {supplied : Bool} {env : AllocEnv} {e : Event}
  {events : List Event}

/-- Once every frame is committed, none is left. -/
lemma Inv.remaining_zero (h : Inv s) (hall : ∀ frame ∈ s.runner.frames, frame ∈ s.committed) :
    s.runner.remainingAllocations = 0 := by
  have hlength : s.runner.frames.length ≤ s.committed.length :=
    (List.subperm_of_subset h.nodup hall).length_le
  have hcount := h.count
  omega

/-- A change of the pool that leaves the reserve. -/
lemma Inv.kept (h : Inv s) (hkept : Kept s s') (hfree : s.runner.remainingAllocations ≤ free s') :
    Inv s' := by
  obtain ⟨hrunner, hbusy, hallocated, hcommitted, hcollected⟩ := hkept
  constructor
  · rw [hrunner]
    exact h.nodup
  · rw [hrunner, hcommitted]
    exact h.mask
  · rw [hcommitted]
    exact h.once
  · rw [hrunner, hcommitted]
    exact h.selected
  · rw [hrunner, hcommitted]
    exact h.count
  · rw [hrunner]
    exact hfree
  · rw [hrunner, hbusy]
    exact h.busy
  · rw [hallocated, hrunner, hcommitted]
    exact h.allocated
  · rw [hallocated, hcollected]
    exact h.collected
  · rw [hrunner, hcommitted]
    exact h.success

/-- A frame that is not selected, or that has been committed, gets its buffer. -/
lemma Inv.allocate (h : Inv s) (hframe : frame ∈ s.runner.frames → frame ∈ s.committed) :
    Inv { s with allocated := frame :: s.allocated } where
  nodup := h.nodup
  mask := h.mask
  once := h.once
  selected := h.selected
  count := h.count
  reserve := h.reserve
  busy := h.busy
  allocated := List.forall_mem_cons.mpr ⟨hframe, h.allocated⟩
  collected other hother := List.mem_cons_of_mem _ (h.collected other hother)
  success := h.success

/-- The commit of a frame that has just taken a buffer out of the reserve. -/
lemma Inv.commit {t : State} {i : ℕ} (h : Inv s) (hkept : Kept s t) (hlive : Live s.runner)
    (hawaited : Awaited s.runner frame i) (hfree : s.runner.remainingAllocations ≤ free t + 1) :
    Inv { t with
      runner := s.runner.mark i
      allocated := frame :: t.allocated
      committed := t.committed ++ [frame] } := by
  have hget := hawaited.getElem
  have hnew : frame ∉ s.committed := fun hmem =>
    Bool.eq_false_iff.mp hawaited.free ((h.mask i frame hget).mpr hmem)
  have hcount := h.count
  have hpos : 0 < s.runner.remainingAllocations := Nat.pos_of_ne_zero hawaited.remaining
  obtain ⟨-, hbusy, hallocated, hcommitted, hcollected⟩ := hkept
  rw [hallocated, hcommitted]
  refine ⟨h.nodup, fun j other hother => ?_, ?_, ?_, ?_, ?_, ?_, ?_, ?_, ?_⟩
  · rw [testBit_mark, h.mask j other hother, List.mem_append, List.mem_singleton]
    -- the frames differ, so that this index is that of the frame exactly where it is the frame
    refine or_congr Iff.rfl ⟨?_, ?_⟩
    · rintro rfl
      exact Option.some.inj (hother.symm.trans hget)
    · rintro rfl
      exact (List.getElem?_inj (List.getElem?_eq_some_iff.mp hget).1 h.nodup).mp (hget.trans hother.symm)
  · exact List.nodup_append.mpr ⟨h.once, List.nodup_singleton frame, fun a ha b hb heq =>
      hnew (List.mem_singleton.mp hb ▸ heq ▸ ha)⟩
  · intro other hother
    rcases List.mem_append.mp hother with hother | hother
    · exact h.selected other hother
    · rw [List.mem_singleton.mp hother]
      exact List.mem_of_getElem? hget
  · change s.runner.remainingAllocations - 1 + (s.committed ++ [frame]).length = s.runner.frames.length
    rw [List.length_append, List.length_singleton]
    omega
  · change s.runner.remainingAllocations - 1 ≤ free t
    omega
  · intro hb
    rw [hbusy] at hb
    exact absurd ((h.busy hb).1.symm.trans hlive.running) (by decide)
  · refine List.forall_mem_cons.mpr ⟨fun _ => List.mem_append_right _ (List.mem_singleton_self frame), ?_⟩
    exact fun other hother hmem => List.mem_append_left _ (h.allocated other hother hmem)
  · intro other hother
    rw [hcollected] at hother
    exact List.mem_cons_of_mem _ (h.collected other hother)
  · intro hterminal
    exact absurd (hterminal.symm.trans hlive.running) (by decide)

/-- After an acquisition, whatever the plan was. -/
lemma Inv.ensureOutputBuffer (h : Inv s) : Inv (ensureOutputBuffer frame supplied env s).2 := by
  rw [GstEligibility.ensureOutputBuffer]
  rcases hplan : plan s.runner frame with _ | p
  · exact h
  · dsimp only
    by_cases hsupplied : supplied = true
    · rw [if_pos hsupplied]
      exact h
    rw [if_neg hsupplied]
    rcases plan_cases hplan with ⟨hactive, hselected, hterminal, hsuccess⟩ |
      ⟨hactive, hremaining, hlive, hcase⟩
    · -- after success the ordinary pool is used: no frame is left
      have hall := h.success hterminal hsuccess
      have hzero := h.remaining_zero hall
      have hkept : Kept s (acquireBuffer env s).2 := acquireBuffer_kept
      rw [hactive, if_neg Bool.false_ne_true]
      rcases hacquire : acquireBuffer env s with ⟨_ | b, t⟩ <;> rw [hacquire] at hkept
      · exact h.kept hkept (hzero ▸ Nat.zero_le _)
      · obtain ⟨hmoved, -⟩ : Kept t (moves t (env.after.filter fun m => m.buffer ≠ b)) ∧ _ := moves_kept
        have hmoves := hkept.trans hmoved
        dsimp only
        rw [hselected, if_neg Bool.false_ne_true]
        refine (h.kept hmoves (hzero ▸ Nat.zero_le _)).allocate ?_
        rw [hmoves.runner, hmoves.committed]
        exact hall frame
    · rw [hactive, if_pos rfl, hremaining]
      have hspec : Acquired p.selected s.runner.remainingAllocations s
          (acquireObserverBuffer env p.selected s.runner.remainingAllocations s).2 _ :=
        acquireObserverBuffer_spec
      rcases hacquire : acquireObserverBuffer env p.selected s.runner.remainingAllocations s
        with ⟨_ | b, t⟩ <;> rw [hacquire] at hspec
      · have hreserve := hspec.reserve h.reserve
        rw [if_neg fun hsome => hsome.2 rfl] at hreserve
        exact h.kept hspec.kept hreserve
      · obtain ⟨hmoved, hfree⟩ :
            Kept t (moves t (env.after.filter fun m => m.buffer ≠ b)) ∧ _ := moves_kept
        have hmoves := hspec.kept.trans hmoved
        have hreserve := hspec.reserve h.reserve
        dsimp only
        rcases hcase with ⟨hselected, hnot⟩ | ⟨hselected, i, hawaited⟩
        · rw [hselected, if_neg fun hsel => absurd hsel.1 Bool.false_ne_true] at hreserve
          rw [hselected, if_neg Bool.false_ne_true]
          refine (h.kept hmoves (hreserve.trans hfree)).allocate fun hmem => absurd hmem ?_
          rw [hmoves.runner]
          exact hnot
        · rw [hselected, if_pos ⟨rfl, Option.some_ne_none b⟩] at hreserve
          rw [hselected, if_pos rfl, hmoves.runner, hawaited.commit hlive]
          exact h.commit hmoves hlive hawaited (hreserve.trans (Nat.add_le_add_right hfree 1))

/-- **Every step keeps the invariant.** -/
lemma Inv.step (h : Inv s) : Inv (step s e) := by
  cases e with
  | allocate frame supplied env => exact h.ensureOutputBuffer
  | move m => exact h.kept move_kept (h.reserve.trans free_move)
  | collect frame =>
      rw [GstEligibility.step]
      split_ifs with hcollect
      · exact ⟨h.nodup, h.mask, h.once, h.selected, h.count, h.reserve, h.busy, h.allocated,
          List.forall_mem_cons.mpr ⟨hcollect.1, h.collected⟩, h.success⟩
      · exact h
  | property =>
      exact ⟨h.nodup, h.mask, h.once, h.selected, h.count, h.reserve,
        fun hbusy => ⟨(h.busy hbusy).1, fun heq => (nomatch heq)⟩, h.allocated, h.collected,
        fun _ hstatus => (nomatch hstatus)⟩
  | stop status busy =>
      rw [GstEligibility.step]
      split_ifs with hstop
      · exact h
      · rw [not_or] at hstop
        exact ⟨h.nodup, h.mask, h.once, h.selected, h.count, h.reserve, fun _ => ⟨rfl, hstop.2⟩,
          h.allocated, h.collected, fun _ hstatus => absurd hstatus hstop.2⟩
  | succeed =>
      rw [GstEligibility.step]
      split_ifs with hsucceed
      · exact h
      · rw [not_or, Bool.not_eq_true, List.any_eq_true] at hsucceed
        have hall : ∀ frame ∈ s.runner.frames, frame ∈ s.committed := by
          intro frame hframe
          have hcollected : frame ∈ s.collected := by
            by_contra hnot
            exact hsucceed.2 ⟨frame, hframe, decide_eq_true hnot⟩
          exact h.allocated frame (h.collected frame hcollected) hframe
        refine ⟨h.nodup, h.mask, h.once, h.selected, h.count, h.reserve, fun hbusy => ?_, h.allocated,
          h.collected, fun _ _ => hall⟩
        exact absurd ((h.busy hbusy).1.symm.trans hsucceed.1) (by decide)

lemma Inv.run (h : Inv s) : Inv (run s events) := by
  induction events generalizing s with
  | nil => exact h
  | cons e events ih => exact ih h.step

end Invariant

/-! ### Frozen configurations -/

/-- The configuration was frozen by `gst_hevc_runner_allocation_size`. -/
def Frozen (r : PlannedRunner) : Prop :=
  ∃ r₀ ordinary total, r₀.allocationFrozen = false ∧ allocationSize ordinary r₀ = (some total, r)

section Freezing

variable {r r' : PlannedRunner} {frames : List UInt32} {values : List (List Char)} {total : ℕ}

lemma nodup_parseValues (h : frames.Nodup) : (parseValues frames values).2.Nodup := by
  induction values generalizing frames with
  | nil => exact h
  | cons value values ih =>
      rw [parseValues]
      dsimp only
      split_ifs with hdigits hrange hseen
      · exact h
      · exact h
      · exact h
      · refine ih (List.nodup_append.mpr ⟨h, List.nodup_singleton _, fun a ha b hb heq => hseen ?_⟩)
        rw [← List.mem_singleton.mp hb, ← heq]
        exact ha

lemma nodup_parseFrames {runner : Runner} (h : (parseFrames runner).1 = true) :
    (parseFrames runner).2.frames.Nodup := by
  rw [parseFrames] at h ⊢
  rcases htext : runner.framesText with _ | _ | ⟨c, text⟩ <;> rw [htext] at h
  · exact absurd h Bool.false_ne_true
  · exact absurd h Bool.false_ne_true
  · exact nodup_parseValues List.nodup_nil

/-- A frozen configuration selects distinct frames, none of which has an allocation. -/
lemma Frozen.spec (h : Frozen r) : r.frames.Nodup ∧ r.allocatedMask = 0 ∧
    r.remainingAllocations = r.frames.length ∧ r.allocationFrozen = true := by
  obtain ⟨r₀, ordinary, total, hfrozen, hsize⟩ := h
  rw [allocationSize, if_neg (Bool.eq_false_iff.mp hfrozen)] at hsize
  dsimp only at hsize
  split_ifs at hsize with hconfigured hparsed
  · exact absurd (congrArg Prod.fst hsize).symm (Option.some_ne_none total)
  · exact absurd (congrArg Prod.fst hsize).symm (Option.some_ne_none total)
  · obtain rfl := (congrArg Prod.snd hsize).symm
    rw [not_or, Bool.not_eq_false] at hparsed
    exact ⟨nodup_parseFrames hparsed.1, rfl, rfl, rfl⟩

lemma arm_eq {opens : Bool} (h : arm opens r = (true, r')) : r'.frames = r.frames ∧
    r'.allocatedMask = r.allocatedMask ∧ r'.remainingAllocations = r.remainingAllocations ∧
    r'.allocationFrozen = r.allocationFrozen := by
  rw [arm] at h
  by_cases hterminal : r.terminal = true
  · rw [if_pos hterminal] at h
    obtain rfl := congrArg Prod.snd h
    exact ⟨rfl, rfl, rfl, rfl⟩
  · rw [if_neg hterminal] at h
    dsimp only at h
    split_ifs at h
    · obtain rfl := congrArg Prod.snd h
      exact ⟨rfl, rfl, rfl, rfl⟩
    · exact absurd (congrArg Prod.fst h) Bool.false_ne_true
    · obtain rfl := (congrArg Prod.snd h).symm
      exact ⟨rfl, rfl, rfl, rfl⟩
    · exact absurd (congrArg Prod.fst h) Bool.false_ne_true

/-- An armed runner over a fresh allocator. -/
lemma inv_start {opens : Bool} {ordinary : ℕ} (h : Frozen r) (harm : arm opens r = (true, r'))
    (hlive : r'.terminal = false) : Inv (start (ordinary + r.frames.length) r') := by
  obtain ⟨hnodup, hmask, hremaining, -⟩ := h.spec
  obtain ⟨hframes, hmask', hremaining', -⟩ := arm_eq harm
  have hfree : free (start (ordinary + r.frames.length) r') = ordinary + r.frames.length := by
    have hall : ∀ b ∈ List.range (ordinary + r.frames.length), (!false) = true := fun _ _ => rfl
    change (List.range (ordinary + r.frames.length)).countP (fun _ => !false) = _
    rw [List.countP_eq_length.mpr hall, List.length_range]
  constructor
  · change r'.frames.Nodup
    rw [hframes]
    exact hnodup
  · intro i frame _
    change r'.allocatedMask.testBit i = true ↔ frame ∈ []
    rw [hmask', hmask, Nat.zero_testBit]
    simp
  · exact List.nodup_nil
  · exact fun frame hframe => absurd hframe List.not_mem_nil
  · change r'.remainingAllocations + 0 = r'.frames.length
    rw [hremaining', hremaining, hframes, Nat.add_zero]
  · change r'.remainingAllocations ≤ _
    rw [hfree, hremaining', hremaining]
    exact Nat.le_add_left _ _
  · exact fun hbusy => absurd hbusy Bool.false_ne_true
  · exact fun frame hframe => absurd hframe List.not_mem_nil
  · exact fun frame hframe => absurd hframe List.not_mem_nil
  · exact fun hterminal => absurd (hterminal.symm.trans hlive) (by decide)

end Freezing

/-- **A selected frame always finds a buffer that was never published.**  A runner has frozen its
configuration and is armed over as many buffers as the ordinary ones and one for each frame.  After every
sequence of allocations, releases, publications and events of the runner: the free buffers that were
never published suffice for the frames that are left; an acquisition for a selected frame whose plan is
accepted takes one of them at once, whatever other threads do; no frame is committed twice, and what is
left is the count without the committed frames. -/
theorem selected_frame_finds_unpublished (r r' : PlannedRunner) (opens : Bool) (ordinary : ℕ)
    (events : List Event) (hfrozen : Frozen r) (harm : arm opens r = (true, r'))
    (hlive : r'.terminal = false) :
    let s := run (start (ordinary + r.frames.length) r') events
    s.runner.remainingAllocations ≤ free s ∧
    (∀ frame p, plan s.runner frame = some p → p.selected = true → ∀ env, ∃ b,
      acquireObserverBuffer env true p.remaining s = (some b, (moves s env.before).take b) ∧
      b ∈ (moves s env.before).pool ∧ (moves s env.before).published b = false) ∧
    s.committed.Nodup ∧
    s.runner.remainingAllocations = s.runner.frames.length - s.committed.length ∧
    s.committed.length ≤ s.runner.frames.length := by
  intro s
  have h : Inv s := (inv_start hfrozen harm hlive).run
  have hcount := h.count
  refine ⟨h.reserve, fun frame p hplan hselected env => ?_, h.once, by omega, by omega⟩
  rcases plan_cases hplan with ⟨-, hnot, -⟩ | ⟨-, -, hlive, ⟨hnot, -⟩ | ⟨-, i, hawaited⟩⟩
  · exact absurd (hselected.symm.trans hnot) (by decide)
  · exact absurd (hselected.symm.trans hnot) (by decide)
  · refine acquireObserverBuffer_selected ?_ ?_
    · rw [Bool.eq_false_iff]
      exact fun hbusy => absurd ((h.busy hbusy).1.symm.trans hlive.running) (by decide)
    · exact Nat.lt_of_lt_of_le (Nat.pos_of_ne_zero hawaited.remaining) h.reserve

/-- A runner that is configured for its third frame. -/
def configured : PlannedRunner where
  framesText := some ['3']
  reportPath := some ['r']
  frames := []
  setMask := 7
  copy := false
  invalid := false
  locked := false
  armed := false
  terminal := false
  status := .configured
  allocationFrozen := false
  allocatedMask := 0
  remainingAllocations := 0

/-- Two ordinary frames take what is not reserved; the third frame is selected and finds its buffer. -/
theorem third_frame_finds_unpublished :
    let r := (allocationSize 2 configured).2
    let r' := (arm true r).2
    let env : AllocEnv := ⟨[], [], false, []⟩
    let s := run (start (2 + r.frames.length) r') [.allocate 1 false env, .allocate 2 false env]
    free s = 1 ∧ s.runner.remainingAllocations ≤ free s ∧
      ∃ b, acquireObserverBuffer env true 1 s = (some b, s.take b) ∧ b ∈ s.pool ∧ s.published b = false := by
  intro r r' env s
  have hfrozen : Frozen r := ⟨configured, 2, 3, rfl, rfl⟩
  obtain ⟨hreserve, hacquire, -⟩ := selected_frame_finds_unpublished r r' true 2
    [.allocate 1 false env, .allocate 2 false env] hfrozen rfl rfl
  have hplan : plan s.runner 3 = some ⟨true, true, 1⟩ := by decide +kernel
  exact ⟨by decide +kernel, hreserve, hacquire 3 ⟨true, true, 1⟩ hplan rfl env⟩

/-- **Success is of every selected frame**, in every run of an armed runner: the mask has the bit of a
frame exactly if a buffer was committed to it, only selected frames are committed to, a selected frame
whose output was collected was committed to, and a runner that ends in success, which it does only after
every selected frame was collected, has committed to every selected frame and reserves nothing. -/
theorem success_commits_every_frame (r r' : PlannedRunner) (opens : Bool) (ordinary : ℕ)
    (events : List Event) (hfrozen : Frozen r) (harm : arm opens r = (true, r'))
    (hlive : r'.terminal = false) :
    let s := run (start (ordinary + r.frames.length) r') events
    (∀ i frame, s.runner.frames[i]? = some frame →
      (s.runner.allocatedMask.testBit i = true ↔ frame ∈ s.committed)) ∧
    (∀ frame ∈ s.committed, frame ∈ s.runner.frames) ∧
    (∀ frame ∈ s.collected, frame ∈ s.runner.frames → frame ∈ s.committed) ∧
    (s.runner.terminal = true → s.runner.status = .success →
      s.runner.remainingAllocations = 0 ∧ ∀ frame ∈ s.runner.frames, frame ∈ s.committed) := by
  intro s
  have h : Inv s := (inv_start hfrozen harm hlive).run
  refine ⟨h.mask, h.selected, fun frame hcollected hframe => ?_, fun hterminal hsuccess => ?_⟩
  · exact h.allocated frame (h.collected frame hcollected) hframe
  · have hall := h.success hterminal hsuccess
    exact ⟨h.remaining_zero hall, hall⟩

/-- The selected frame is committed to, and no other. -/
theorem third_frame_committed :
    let r := (allocationSize 2 configured).2
    let r' := (arm true r).2
    let env : AllocEnv := ⟨[], [], false, []⟩
    let s := run (start (2 + r.frames.length) r') [.allocate 1 false env, .allocate 3 false env]
    (s.runner.allocatedMask.testBit 0 = true ↔ 3 ∈ s.committed) ∧
      ∀ frame ∈ s.committed, frame ∈ s.runner.frames := by
  intro r r' env s
  have hfrozen : Frozen r := ⟨configured, 2, 3, rfl, rfl⟩
  obtain ⟨hmask, hselected, -⟩ := success_commits_every_frame r r' true 2
    [.allocate 1 false env, .allocate 3 false env] hfrozen rfl rfl
  exact ⟨hmask 0 3 (by decide +kernel), hselected⟩

end OmarchyM1Video.ReferenceContent.GstEligibility
