import Mathlib.Logic.Function.Basic
import OmarchyM1Video.Py.Exec

/-!
The job table and the slice copies of one H.264 context, under `patches/0002`, `0004`, `0012` and
`0013`.

`avd_h264_run` handles one slice.  The slices of a frame share its capture buffer: the source buffers
of all but the last hold it, and a slice for another capture buffer belongs to another frame.  The
table is made by the slice that starts the frame, and freed by the submission, by the next
`avd_init_job`, on stream-off of the OUTPUT queue, or on release.

* `refsValid`, `State`, `initJob`, `push`, `submitJob`, `h264Run`, `done`: the code;
* `Op`, `step`, `run`: the operations on a context, in any order that v4l2-mem2mem allows.
-/

namespace OmarchyM1Video.Driver.Slices

open OmarchyM1Video.Py

/-- `MAX_SLICES`. -/
def maxSlices : ℕ := 4096

/-! ### The references of a slice -/

inductive SliceType where
  | p | b | i | sp | si
  deriving DecidableEq, Repr

/-- What `avd_h264_refs_valid` reads: `struct v4l2_ctrl_h264_slice_params` and the flags of the
entries of the DPB. -/
structure SliceParams where
  sliceType : SliceType := .i
  numRefIdxL0ActiveMinus1 : UInt8 := 0
  numRefIdxL1ActiveMinus1 : UInt8 := 0
  /-- The indices of the 32 entries of `ref_pic_list0`. -/
  refPicList0 : Fin 32 → UInt8 := fun _ => 0
  refPicList1 : Fin 32 → UInt8 := fun _ => 0
  dpbFlags : Fin 16 → UInt32 := fun _ => 0

/-- `V4L2_H264_DPB_ENTRY_FLAG_VALID` is set. -/
def SliceParams.entryValid (sl : SliceParams) (index : UInt8) : Bool :=
  if h : index.toNat < 16 then sl.dpbFlags ⟨index.toNat, h⟩ &&& 1 != 0 else false

/-- The references of one list: `num` of them, all valid. -/
def SliceParams.listValid (sl : SliceParams) (list : Fin 32 → UInt8) (num : ℕ) : Bool :=
  num ≤ 32 && (List.finRange 32).all fun i => i < num → sl.entryValid (list i)

/-- `avd_h264_refs_valid`. -/
def refsValid (sl : SliceParams) : Bool :=
  match sl.sliceType with
  | .p => sl.listValid sl.refPicList0 (sl.numRefIdxL0ActiveMinus1.toNat + 1)
  | .b => sl.listValid sl.refPicList0 (sl.numRefIdxL0ActiveMinus1.toNat + 1) &&
      sl.listValid sl.refPicList1 (sl.numRefIdxL1ActiveMinus1.toNat + 1)
  | .i | .sp | .si => true

/-! ### The context -/

/-- A table of segments: the frame it was made for, and how many segments it has room for. -/
structure Table where
  frame : ℕ
  capacity : ℕ
  deriving DecidableEq, Repr

/-- One segment, pushed for a slice: the table that took it, if there was one, how many slices it had
before, and the frame of the slice. -/
structure Push where
  table : Option Table
  num : ℕ
  frame : ℕ
  deriving DecidableEq, Repr

/-- The table is there, is the one of the frame, and has room after its header segment. -/
def Push.Good (p : Push) : Prop :=
  ∃ t, p.table = some t ∧ t.frame = p.frame ∧ p.num + 1 < t.capacity

/-- `struct avd_ctx` with its `struct avd_h264_ctx`, and what has happened to them. -/
structure State where
  /-- `ctx->job.segments`: the number of a table, or `NULL`. -/
  segments : Option ℕ := none
  /-- `ctx->job.num`. -/
  num : ℕ := 0
  /-- The tables that have been allocated, in order. -/
  tables : List Table := []
  /-- The tables that `kvfree` was called for, the last one first. -/
  frees : List ℕ := []
  /-- Which entries of `h264_ctx->slices` have a buffer. -/
  slices : ℕ → Bool := fun _ => false
  sliceNum : ℕ := 0
  /-- The number of the frame that the capture buffer at hand is for. -/
  frame : ℕ := 0
  /-- The frame that `avd_init_job` last made a table for; none if its last call failed. -/
  opened : Option ℕ := none
  /-- A job is with the hardware. -/
  busy : Bool := false
  released : Bool := false
  pushes : List Push := []

/-- A slice, and what the allocator does for it. -/
structure Slice where
  params : SliceParams := {}
  /-- The answer of `is_new_frame`, of which the patches show the call only. -/
  isNewFrame : Bool := true
  /-- The source buffer comes with another capture buffer than the one before. -/
  newBuffer : Bool := false
  /-- `V4L2_BUF_FLAG_M2M_HOLD_CAPTURE_BUF` of the source buffer. -/
  held : Bool := false
  sliceAlloc : Bool := true
  tableAlloc : Bool := true

namespace State

variable (s : State)

/-- The table that `ctx->job.segments` points to. -/
def table : Option Table :=
  s.segments.bind fun id => if id ∈ s.frees then none else s.tables[id]?

/-- `kvfree(ctx->job.segments)`. -/
def kvfree : State := { s with frees := s.segments.toList ++ s.frees }

/-- `avd_init_job`. -/
def initJob (segments frame : ℕ) (allocated : Bool) : State :=
  if allocated then
    { s.kvfree with num := 0, segments := some s.tables.length, opened := some frame
                    tables := s.tables ++ [⟨frame, segments⟩] }
  else { s.kvfree with num := 0, segments := none, opened := none }

/-- The segment of a slice. -/
def push (frame : ℕ) : State :=
  { s with num := s.num + 1, pushes := ⟨s.table, s.num, frame⟩ :: s.pushes }

/-- The end of `avd_submit_job`. -/
def submitJob : State := { s.kvfree with segments := none, busy := true }

/-- `avd_h264_done`. -/
def done (held : Bool) : State :=
  if held then s else { s with slices := fun i => s.slices i && !(i < s.sliceNum), sliceNum := 0 }

/-- The copy of the payload. -/
def copySlice : State :=
  { s with slices := Function.update s.slices s.sliceNum true, sliceNum := s.sliceNum + 1 }

/-- How `avd_h264_run` ends. -/
inductive Verdict where
  /-- With an error, or the run has finished the job itself: the job is done. -/
  | finished
  | submitted
  deriving DecidableEq

/-- The slice gets past the checks, up to the table. -/
def Admits (sl : Slice) : Prop :=
  s.sliceNum < maxSlices ∧ sl.sliceAlloc = true ∧ refsValid sl.params = true

instance (sl : Slice) : Decidable (s.Admits sl) := inferInstanceAs (Decidable (_ ∧ _))

/-- The rest of `avd_h264_run`, once the table is there. -/
def pushSlice (sl : Slice) (frame : ℕ) : State × Verdict :=
  let s := s.push frame
  if sl.held then (s, .finished)
  else if s.segments = none then (s, .finished)
  else (s.submitJob, .submitted)

/-- `avd_h264_run`. -/
def h264Run (sl : Slice) (frame : ℕ) : State × Verdict :=
  if maxSlices ≤ s.sliceNum then (s, .finished)
  else if !sl.sliceAlloc then (s, .finished)
  else
    let s := s.copySlice
    if !refsValid sl.params then (s, .finished)
    else if sl.isNewFrame then
      let s := s.initJob (maxSlices + 1) frame sl.tableAlloc
      if !sl.tableAlloc then (s, .finished) else s.pushSlice sl frame
    else s.pushSlice sl frame

/-- The frame of a slice. -/
def frameOf (sl : Slice) : ℕ := s.frame + if sl.newBuffer then 1 else 0

/-- `avd_device_run`: a job that is not with the hardware is done.  A source buffer that does not
hold the capture buffer ends the frame. -/
def deviceRun (sl : Slice) : State :=
  let (s', v) := s.h264Run sl (s.frameOf sl)
  let s' := match v with
    | .finished => s'.done sl.held
    | .submitted => s'
  { s' with frame := s.frameOf sl + if sl.held then 0 else 1 }

end State

/-- The operations on a context. -/
inductive Op where
  | run (sl : Slice)
  /-- The job that is with the hardware is finished; its source buffer does not hold the capture
  buffer. -/
  | complete
  | streamOff
  | release

/-- One operation.  Jobs run one at a time, and stream-off and release wait for the job.  Stream-off leaves
`slice_num` and the copies as they are; a stream-on after it, of which the patches say nothing, is taken to
keep them. -/
def step (s : State) : Op → Option State
  | .run sl => if s.busy ∨ s.released then none else some (s.deviceRun sl)
  | .complete => if s.busy then some { s.done false with busy := false } else none
  | .streamOff =>
      if s.busy ∨ s.released then none
      else some { s.kvfree with segments := none, frame := s.frame + 1 }
  | .release =>
      if s.busy ∨ s.released then none
      else some { s.kvfree with segments := none, frame := s.frame + 1, released := true }

/-- The operations, in any order. -/
def run (ops : List Op) : EStateM Unit State Unit := each (attempt step) ops

end OmarchyM1Video.Driver.Slices
