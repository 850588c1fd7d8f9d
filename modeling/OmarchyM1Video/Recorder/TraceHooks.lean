import Mathlib.Data.List.OfFn
import OmarchyM1Video.Recorder.AvdTrace
import OmarchyM1Video.Recorder.Controls
import OmarchyM1Video.Recorder.Storage

/-!
The hooks of the reference recorder: `experiments/hevc-avd-trace/kernel/avd-trace.c`.

A hook is called with the driver's structures.  Here it gets their values, so that whatever the
driver holds is covered; `context` and `pid` stand for `ctx->trace_context` and `ctx->trace_pid`.

* `AvdCtx`, `DecodedBuffer`, `DpbEntry`: what the hooks read of the driver;
* `bufferValues`, `relativeAddress`: the values that are recorded of a buffer;
* `avdTraceOpen`, `avdTraceJob`, `avdTraceClose`, `avdTraceBufInit`, `avdTraceBufCleanup`,
  `avdTraceStart`, `avdTraceDone`, `avdTraceTable`, `avdTraceList`, `avdTraceMotion`: the hooks;
* `traceMachine`: the recorder whose operations they are;
* `traceHooks`, `traceHooks_lawful`: they stay in range, clear no error bit, and leave a sealed
  capture as it is.
-/

namespace OmarchyM1Video.Recorder

open OmarchyM1Video.C

/-! ### What the hooks read of the driver -/

/-- `struct avd_segment`: the commands of a job. -/
structure Segment where
  num : UInt32 := 0
  instructions : UInt32 → UInt32 := fun _ => 0

/-- `struct avd_ctx`, the fields that the recorders read; `lsr` says whether the variant has
`AVD_QUIRK_LSR`. -/
structure AvdCtx where
  width : UInt32 := 0
  height : UInt32 := 0
  lsr : Bool := false
  quirks : UInt32 := 0
  revision : UInt32 := 0
  decomp : UInt32 := 0
  bytesperline : UInt32 := 0
  segment : Segment := {}

/-- `struct avd_decoded_buffer`, the fields that the recorder reads and writes. -/
structure DecodedBuffer where
  index : UInt32 := 0
  timestamp : UInt64 := 0
  copiedTimestamp : Bool := false
  isIntra : Bool := false
  traceWriter : UInt64 := 0
  traceCompleted : Bool := false
  traceAllocation : UInt64 := 0
  length : UInt32 := 0
  compStart : UInt32 := 0
  compSize : UInt32 := 0
  compOffsets : Fin 4 → UInt32 := fun _ => 0
  memory : UInt32 := 0
  /-- `vb2_dma_contig_plane_dma_addr(vb, 0)`. -/
  dmaAddr : UInt64 := 0

/-- `struct v4l2_hevc_dpb_entry`, the fields that the recorder reads. -/
structure DpbEntry where
  timestamp : UInt64 := 0
  flags : UInt8 := 0
  picOrderCntVal : Int32 := 0

/-- A truth value as it is recorded. -/
def flag (b : Bool) : UInt64 := if b then 1 else 0

/-- `DIV_ROUND_UP(n, 64)`. -/
def divRoundUp64 (n : UInt32) : UInt32 := (n + 63) / 64

/-- The size of the motion vectors of a picture. -/
def mvSize (ctx : AvdCtx) : UInt64 :=
  (divRoundUp64 ctx.width).toUInt64 * (divRoundUp64 ctx.height).toUInt64 * 256

/-- `buffer_values`: the 18 values of a buffer. -/
def bufferValues (ctx : AvdCtx) (buf : DecodedBuffer) : List UInt64 :=
  let len := buf.length.toUInt64
  let mv := mvSize ctx
  let last := buf.compStart.toUInt64 + buf.compSize.toUInt64
  let bounds := decide (mv ≤ len) && decide (last ≤ len - mv) &&
    (List.ofFn buf.compOffsets).all fun offset => decide (offset < buf.compSize)
  [buf.index.toUInt64, buf.timestamp, flag buf.copiedTimestamp, flag buf.isIntra, buf.traceWriter,
    flag buf.traceCompleted, buf.traceAllocation, len, buf.compStart.toUInt64,
    buf.compSize.toUInt64] ++
  (List.ofFn buf.compOffsets).map UInt32.toUInt64 ++
  [mv, if mv ≤ len then len - mv else 0, flag bounds, buf.memory.toUInt64]

@[simp] lemma length_bufferValues (ctx : AvdCtx) (buf : DecodedBuffer) :
    (bufferValues ctx buf).length = 18 := by
  simp [bufferValues]

/-- `relative_address`: where the address that has been emitted lies in the buffer. -/
def relativeAddress (ctx : AvdCtx) (ref : DecodedBuffer) (last shift : UInt32) : UInt64 :=
  let seg := ctx.segment
  let stride : UInt32 := if ctx.lsr then 1 else 2
  let i := seg.num - (last + 1) * stride
  let word := (seg.instructions i).toUInt64
  let addr := if stride = 1 then word <<< shift.toUInt64
    else word ||| (seg.instructions (i + 1)).toUInt64 <<< 32
  if addr < ref.dmaAddr ∨ ref.length.toUInt64 ≤ addr - ref.dmaAddr then 0xFFFFFFFFFFFFFFFF
  else addr - ref.dmaAddr

/-! ### The kinds of records -/

/-- `enum atr_kind`. -/
inductive Kind where
  | start | done | table | list | motion
  deriving DecidableEq, Repr

def Kind.code : Kind → ℕ
  | start => 1
  | done => 2
  | table => 3
  | list => 4
  | motion => 5

/-- A record is appended, and filled in if there is room for it. -/
def atrRecord (c : AtrCapture) (context : ℕ) (kind : Kind)
    (fill : (Fin 72 → UInt64) → Option (Fin 72 → UInt64)) : Option AtrCapture := do
  let (c₁, r) ← atrAppend c context kind.code
  match r with
  | none => return c₁
  | some k =>
      let record ← load c₁.records k
      let v ← fill record.v
      let records ← store c₁.records k { record with v }
      return { c₁ with records }

/-- `detail(ctx)`. -/
def atrDetail (c : AtrCapture) (context : ℕ) : Bool :=
  atrSelected c context && firstDetail ≤ c.pictures && c.pictures ≤ lastDetail

/-! ### The hooks -/

/-- The arguments of `avd_trace_start`. -/
structure StartCall where
  ctx : AvdCtx := {}
  dst : DecodedBuffer := {}
  decode : HevcDecodeParams := {}
  sl : HevcSliceParams := {}
  slices : UInt32 := 0
  entryCapacity : UInt32 := 0

/-- What `atr_start` is called with. -/
def StartCall.shape (a : StartCall) : AtrShape :=
  { slices := a.slices.toNat
    entryCapacity := a.entryCapacity.toNat
    entryPoints := a.sl.numEntryPointOffsets.toNat }

/-- The arguments of `avd_trace_done`, with the buffer that `v4l2_m2m_next_dst_buf` returns. -/
structure DoneCall where
  ctx : AvdCtx := {}
  dst : Option DecodedBuffer := none
  result : UInt32 := 0

/-- `VB2_BUF_STATE_DONE`. -/
def vb2BufStateDone : UInt32 := 5

def DoneCall.success (a : DoneCall) : Bool := a.result = vb2BufStateDone

/-- The arguments of `avd_trace_table`. -/
structure TableCall where
  ctx : AvdCtx := {}
  slot : UInt32 := 0
  dpb : DpbEntry := {}
  ref : DecodedBuffer := {}
  matched : Bool := false
  word : UInt32 := 0

/-- The arguments of `avd_trace_list`. -/
structure ListCall where
  list : UInt32 := 0
  position : UInt32 := 0
  slot : UInt32 := 0
  word : UInt32 := 0

/-- The arguments of `avd_trace_motion`; the driver emits an address only of a reference that it
has. -/
structure MotionCall where
  ctx : AvdCtx := {}
  sl : HevcSliceParams := {}
  first : Bool := false
  ref : Option DecodedBuffer := none
  matched : Bool := false
  slot : UInt32 := 0
  timestamp : UInt64 := 0
  valid : Bool := false
  word : UInt32 := 0
  emitted : Bool := false
  emitted_ref : emitted = true → ref.isSome = true := by decide

/-- The destination once it has been started as a picture. -/
def StartCall.started (a : StartCall) (picture : ℕ) : DecodedBuffer :=
  { a.dst with traceWriter := UInt64.ofNat picture, traceCompleted := false }

/-- The values of a START record. -/
def StartCall.fill (a : StartCall) (dst : DecodedBuffer) (v : Fin 72 → UInt64) :
    Option (Fin 72 → UInt64) := do
  let v ← storeAll v 0 [a.dst.traceWriter, a.decode.picOrderCntVal.toUInt32.toUInt64,
    a.sl.slicePicOrderCnt.toUInt32.toUInt64, a.sl.sliceType.toUInt64, a.slices.toUInt64,
    a.entryCapacity.toUInt64, a.decode.numActiveDpbEntries.toUInt64, a.ctx.width.toUInt64,
    a.ctx.height.toUInt64]
  let v ← storeAll v 9 (bufferValues a.ctx dst)
  store v 27 a.sl.numEntryPointOffsets.toUInt64

/-- `avd_trace_start`: the capture, and the destination that it marks. -/
def avdTraceStart (c : AtrCapture) (context : ℕ) (a : StartCall) :
    Option (AtrCapture × DecodedBuffer) :=
  if atrSelected c context then do
    let c₁ := atrStart c context a.shape
    let dst := a.started c₁.pictures
    let c₂ ← atrRecord c₁ context .start (a.fill dst)
    return (c₂, dst)
  else some (c, a.dst)

/-- The values of a DONE record. -/
def DoneCall.fill (a : DoneCall) (dst : DecodedBuffer) (v : Fin 72 → UInt64) :
    Option (Fin 72 → UInt64) := do
  let v ← store v 0 a.result.toUInt64
  storeAll v 1 (bufferValues a.ctx dst)

/-- `avd_trace_done`: the capture, and the buffer that it marks. -/
def avdTraceDone (c : AtrCapture) (context : ℕ) (a : DoneCall) :
    Option (AtrCapture × Option DecodedBuffer) :=
  if atrSelected c context then
    match a.dst with
    | some dst => do
        let dst := { dst with traceCompleted := a.success }
        let c₁ ← atrRecord c context .done (a.fill dst)
        return (atrDone c₁ context a.success, some dst)
    | none => do
        let c₁ ← atrRecord c context .done some
        return (atrDone { c₁ with toCore := c₁.toCore.raise .order } context a.success, none)
  else some (c, a.dst)

/-- The values of a TABLE record. -/
def TableCall.fill (a : TableCall) (v : Fin 72 → UInt64) : Option (Fin 72 → UInt64) := do
  let v ← storeAll v 0 [a.slot.toUInt64, a.dpb.picOrderCntVal.toUInt32.toUInt64,
    a.dpb.flags.toUInt64, a.dpb.timestamp, a.word.toUInt64, flag a.matched]
  let v ← storeAll v 6 (bufferValues a.ctx a.ref)
  storeAll v 24 [relativeAddress a.ctx a.ref 3 7, relativeAddress a.ctx a.ref 2 7,
    relativeAddress a.ctx a.ref 1 7, relativeAddress a.ctx a.ref 0 7]

/-- `avd_trace_table`. -/
def avdTraceTable (c : AtrCapture) (context : ℕ) (a : TableCall) : Option AtrCapture :=
  if atrDetail c context then atrRecord c context .table a.fill else some c

/-- The values of a LIST record. -/
def ListCall.fill (a : ListCall) (v : Fin 72 → UInt64) : Option (Fin 72 → UInt64) :=
  storeAll v 0 [a.list.toUInt64, a.position.toUInt64, a.slot.toUInt64, a.word.toUInt64]

/-- `avd_trace_list`. -/
def avdTraceList (c : AtrCapture) (context : ℕ) (a : ListCall) : Option AtrCapture :=
  if atrDetail c context then atrRecord c context .list a.fill else some c

/-- `if (ref) buffer_values(ctx, ref, &r->v[14])`. -/
def MotionCall.fillBuffer (a : MotionCall) (v : Fin 72 → UInt64) : Option (Fin 72 → UInt64) :=
  match a.ref with
  | none => some v
  | some ref => storeAll v 14 (bufferValues a.ctx ref)

/-- `if (emitted) r->v[64] = relative_address(ctx, ref, 0, 8)`. -/
def MotionCall.fillAddress (a : MotionCall) (v : Fin 72 → UInt64) : Option (Fin 72 → UInt64) :=
  if a.emitted then a.ref.bind fun ref => store v 64 (relativeAddress a.ctx ref 0 8) else some v

/-- The values of a MOTION record. -/
def MotionCall.fill (a : MotionCall) (v : Fin 72 → UInt64) : Option (Fin 72 → UInt64) := do
  let v ← storeAll v 0 [a.sl.flags, a.sl.sliceType.toUInt64,
    a.sl.fiveMinusMaxNumMergeCand.toUInt64, a.sl.numRefIdxL0ActiveMinus1.toUInt64,
    a.sl.numRefIdxL1ActiveMinus1.toUInt64, a.sl.collocatedRefIdx.toUInt64, flag a.first,
    a.slot.toUInt64, a.timestamp, flag a.ref.isSome, flag a.matched, flag a.valid,
    a.word.toUInt64, flag a.emitted]
  let v ← a.fillBuffer v
  let v ← storeAll v 32 ((List.ofFn a.sl.refIdxL0).map UInt8.toUInt64)
  let v ← storeAll v 48 ((List.ofFn a.sl.refIdxL1).map UInt8.toUInt64)
  let v ← a.fillAddress v
  store v 65 a.ctx.quirks.toUInt64

/-- `avd_trace_motion`. -/
def avdTraceMotion (c : AtrCapture) (context : ℕ) (a : MotionCall) : Option AtrCapture :=
  if atrDetail c context then atrRecord c context .motion a.fill else some c

/-! ### A record that is filled in -/

section Record

variable {c c' : AtrCapture} {context : ℕ} {kind : Kind}
  {fill : (Fin 72 → UInt64) → Option (Fin 72 → UInt64)}

/-- What becomes of the capture: nothing, an overflow, or one more record. -/
lemma atrRecord_eq_some : atrRecord c context kind fill = some c' ↔
    (c.selected context = false ∧ c = c') ∨
    (c.selected context = true ∧ c.count = traceCapacity ∧
      { c with attempted := wrap64 (c.attempted + 1), toCore := c.toCore.raise .overflow } = c') ∨
    (c.selected context = true ∧ ∃ (h : c.count < 2048) (v : Fin 72 → UInt64),
      fill (c.records ⟨c.count, h⟩).v = some v ∧
      { c with
        attempted := wrap64 (c.attempted + 1)
        count := wrap64 (c.count + 1)
        records := Function.update c.records ⟨c.count, h⟩
          { run := c.run
            context
            sequence := wrap64 (c.attempted + 1)
            kind := kind.code
            picture := c.pictures
            v } } = c') := by
  rw [atrRecord]
  simp only [Option.bind_eq_bind, Option.bind_eq_some_iff, Prod.exists, atrAppend_eq_some]
  constructor
  · rintro ⟨c₁, r, (⟨hsel, rfl, rfl⟩ | ⟨hsel, hfull, rfl, rfl⟩ | ⟨hsel, hlt, rfl, rfl⟩), h⟩
    · exact Or.inl ⟨hsel, Option.some.inj h⟩
    · exact Or.inr (Or.inl ⟨hsel, hfull, Option.some.inj h⟩)
    · simp only [load_of_lt hlt, store_of_lt hlt, Option.bind_some, Option.bind_eq_some_iff,
        Function.update_self, Function.update_idem] at h
      obtain ⟨v, hv, h⟩ := h
      exact Or.inr (Or.inr ⟨hsel, hlt, v, hv, Option.some.inj h⟩)
  · rintro (⟨hsel, rfl⟩ | ⟨hsel, hfull, rfl⟩ | ⟨hsel, hlt, v, hv, rfl⟩)
    · exact ⟨c, none, Or.inl ⟨hsel, rfl, rfl⟩, rfl⟩
    · exact ⟨_, none, Or.inr (Or.inl ⟨hsel, hfull, rfl, rfl⟩), rfl⟩
    · refine ⟨_, some c.count, Or.inr (Or.inr ⟨hsel, hlt, rfl, rfl⟩), ?_⟩
      simp only [load_of_lt hlt, store_of_lt hlt, Option.bind_some, Function.update_self, hv,
        Function.update_idem]
      rfl

/-- The record leaves the shared state as it is, up to an error bit. -/
lemma atrRecord_core (h : atrRecord c context kind fill = some c') :
    ∃ e, c'.toCore = { c.toCore with errors := c.errors ||| e } := by
  rcases atrRecord_eq_some.mp h with ⟨_, rfl⟩ | ⟨_, _, rfl⟩ | ⟨_, _, _, _, rfl⟩
  · exact ⟨0, by rw [Nat.or_zero]⟩
  · exact ⟨Fault.overflow.bit, rfl⟩
  · exact ⟨0, by rw [Nat.or_zero]⟩

/-- A record stays in range if its values do. -/
lemma atrRecord_total (hcount : c.count ≤ traceCapacity) (hfill : ∀ v, ∃ v', fill v = some v') :
    ∃ c', atrRecord c context kind fill = some c' ∧ c'.count ≤ traceCapacity := by
  cases hsel : c.selected context with
  | false => exact ⟨c, atrRecord_eq_some.mpr (Or.inl ⟨hsel, rfl⟩), hcount⟩
  | true =>
      by_cases hfull : c.count = traceCapacity
      · exact ⟨_, atrRecord_eq_some.mpr (Or.inr (Or.inl ⟨hsel, hfull, rfl⟩)), hcount⟩
      · have hlt : c.count < 2048 := Nat.lt_of_le_of_ne hcount hfull
        obtain ⟨v, hv⟩ := hfill (c.records ⟨c.count, hlt⟩).v
        refine ⟨_, atrRecord_eq_some.mpr (Or.inr (Or.inr ⟨hsel, hlt, v, hv, rfl⟩)), ?_⟩
        rw [wrap64_of_lt (by omega)]
        exact hlt

end Record

/-! ### The values that are recorded -/

/-- The values of a START record, in order. -/
def StartCall.values (a : StartCall) (dst : DecodedBuffer) : List UInt64 :=
  [a.dst.traceWriter, a.decode.picOrderCntVal.toUInt32.toUInt64,
    a.sl.slicePicOrderCnt.toUInt32.toUInt64, a.sl.sliceType.toUInt64, a.slices.toUInt64,
    a.entryCapacity.toUInt64, a.decode.numActiveDpbEntries.toUInt64, a.ctx.width.toUInt64,
    a.ctx.height.toUInt64] ++ (bufferValues a.ctx dst ++ [a.sl.numEntryPointOffsets.toUInt64])

lemma StartCall.fill_eq (a : StartCall) (dst : DecodedBuffer) (v : Fin 72 → UInt64) :
    a.fill dst v = storeAll v 0 (a.values dst) := by
  simp only [StartCall.values, storeAll_append, storeAll_singleton, length_bufferValues]
  rfl

/-- The values of a DONE record, in order. -/
def DoneCall.values (a : DoneCall) (dst : DecodedBuffer) : List UInt64 :=
  [a.result.toUInt64] ++ bufferValues a.ctx dst

lemma DoneCall.fill_eq (a : DoneCall) (dst : DecodedBuffer) (v : Fin 72 → UInt64) :
    a.fill dst v = storeAll v 0 (a.values dst) := by
  simp only [DoneCall.values, storeAll_append, storeAll_singleton]
  rfl

/-- The values of a TABLE record, in order. -/
def TableCall.values (a : TableCall) : List UInt64 :=
  [a.slot.toUInt64, a.dpb.picOrderCntVal.toUInt32.toUInt64, a.dpb.flags.toUInt64, a.dpb.timestamp,
    a.word.toUInt64, flag a.matched] ++ (bufferValues a.ctx a.ref ++
  [relativeAddress a.ctx a.ref 3 7, relativeAddress a.ctx a.ref 2 7,
    relativeAddress a.ctx a.ref 1 7, relativeAddress a.ctx a.ref 0 7])

lemma TableCall.fill_eq (a : TableCall) (v : Fin 72 → UInt64) :
    a.fill v = storeAll v 0 a.values := by
  simp only [TableCall.values, storeAll_append, length_bufferValues]
  rfl

/-- The values of a LIST record, in order. -/
def ListCall.values (a : ListCall) : List UInt64 :=
  [a.list.toUInt64, a.position.toUInt64, a.slot.toUInt64, a.word.toUInt64]

lemma ListCall.fill_eq (a : ListCall) (v : Fin 72 → UInt64) : a.fill v = storeAll v 0 a.values := rfl

/-- The values of a MOTION record stay in range. -/
lemma MotionCall.fill_total (a : MotionCall) (v : Fin 72 → UInt64) : ∃ v', a.fill v = some v' := by
  simp only [MotionCall.fill, Option.bind_eq_bind]
  refine bind_total ?_ fun v₁ _ => ?_
  · exact storeAll_total v (by simp)
  refine bind_total ?_ fun v₂ _ => ?_
  · rw [MotionCall.fillBuffer]
    cases a.ref with
    | none => exact ⟨v₁, rfl⟩
    | some ref => exact storeAll_total v₁ (by simp)
  refine bind_total ?_ fun v₃ _ => ?_
  · exact storeAll_total v₂ (by simp)
  refine bind_total ?_ fun v₄ _ => ?_
  · exact storeAll_total v₃ (by simp)
  refine bind_total ?_ fun v₅ _ => ⟨_, store_of_lt (by decide)⟩
  rw [MotionCall.fillAddress]
  split_ifs with hemitted
  · obtain ⟨ref, href⟩ := Option.isSome_iff_exists.mp (a.emitted_ref hemitted)
    rw [href]
    exact ⟨_, store_of_lt (by decide)⟩
  · exact ⟨v₄, rfl⟩

/-! ### The recorder -/

/-- The arguments of the hooks that record a picture in detail. -/
inductive DetailCall where
  | table (a : TableCall)
  | list (a : ListCall)
  | motion (a : MotionCall)

/-- A hook that records a picture in detail, with its context. -/
structure Detail where
  context : ℕ
  call : DetailCall

abbrev TraceOp := Op StartCall DoneCall Detail

/-- `avd_trace_table`, `avd_trace_list`, `avd_trace_motion`. -/
def avdTraceDetail (c : AtrCapture) (d : Detail) : Option AtrCapture :=
  match d.call with
  | .table a => avdTraceTable c d.context a
  | .list a => avdTraceList c d.context a
  | .motion a => avdTraceMotion c d.context a

/-- What the hooks, and the seal of the control file, do to a capture. -/
def traceStep (op : TraceOp) (c : AtrCapture) : Option AtrCapture :=
  match op with
  | .opened pid => some (atrOpen c pid)
  | .bind pid context hevc => some (atrBind c pid context hevc)
  | .start context a => (avdTraceStart c context a).map Prod.fst
  | .done context a => (avdTraceDone c context a).map Prod.fst
  | .close context => some (atrClose c context)
  | .sealUp => some (atrSeal c)
  | .extra d => avdTraceDetail c d

section Steps

variable {c c' : AtrCapture} {context : ℕ}

/-- `avd_trace_start` on a context that is recorded. -/
lemma avdTraceStart_of_selected (h : c.selected context = true) (a : StartCall) :
    (avdTraceStart c context a).map Prod.fst = atrRecord (atrStart c context a.shape) context .start
      (a.fill (a.started (atrStart c context a.shape).pictures)) := by
  rw [avdTraceStart, if_pos (show atrSelected c context = true from h)]
  simp only [Option.bind_eq_bind, Option.map_bind]
  exact Option.bind_fun_some _

lemma avdTraceStart_of_not_selected (h : c.selected context = false) (a : StartCall) :
    (avdTraceStart c context a).map Prod.fst = some c := by
  rw [avdTraceStart, if_neg (by simp [atrSelected, h])]
  rfl

/-- The error bits of a completion without a buffer. -/
def DoneCall.unplaced (a : DoneCall) : ℕ := if a.dst.isSome then 0 else Fault.order.bit

/-- The values of a DONE record, if there is a buffer. -/
def DoneCall.fill? (a : DoneCall) (v : Fin 72 → UInt64) : Option (Fin 72 → UInt64) :=
  match a.dst with
  | some dst => a.fill { dst with traceCompleted := a.success } v
  | none => some v

/-- `avd_trace_done` on a context that is recorded. -/
lemma avdTraceDone_of_selected (h : c.selected context = true) (a : DoneCall) :
    (avdTraceDone c context a).map Prod.fst =
      (atrRecord c context .done a.fill?).map fun c₁ =>
        atrDone { c₁ with toCore := { c₁.toCore with errors := c₁.errors ||| a.unplaced } } context
          a.success := by
  rw [avdTraceDone, if_pos (show atrSelected c context = true from h)]
  cases hdst : a.dst with
  | none =>
      have hfill : a.fill? = some := by
        funext v
        rw [DoneCall.fill?, hdst]
      rw [hfill, DoneCall.unplaced, hdst]
      cases atrRecord c context .done some <;> rfl
  | some dst =>
      have hfill : a.fill? = a.fill { dst with traceCompleted := a.success } := by
        funext v
        rw [DoneCall.fill?, hdst]
      rw [hfill, DoneCall.unplaced, hdst]
      simp only [Option.isSome_some, if_true, Nat.or_zero]
      cases atrRecord c context .done (a.fill { dst with traceCompleted := a.success }) <;> rfl

lemma avdTraceDone_of_not_selected (h : c.selected context = false) (a : DoneCall) :
    (avdTraceDone c context a).map Prod.fst = some c := by
  rw [avdTraceDone, if_neg (by simp [atrSelected, h])]
  rfl

end Steps

/-- The hooks that record a picture in detail append at most one record. -/
lemma avdTraceDetail_eq (c : AtrCapture) (d : Detail) : ∃ kind fill, (∀ v, ∃ v', fill v = some v') ∧
    avdTraceDetail c d = if atrDetail c d.context then atrRecord c d.context kind fill else some c := by
  rw [avdTraceDetail]
  cases d.call with
  | table a =>
      refine ⟨.table, a.fill, fun v => ?_, rfl⟩
      rw [a.fill_eq]
      exact storeAll_total v (by simp [TableCall.values])
  | list a => exact ⟨.list, a.fill, fun v => storeAll_total v (by simp), rfl⟩
  | motion a => exact ⟨.motion, a.fill, a.fill_total, rfl⟩

/-- The reference recorder, with its hooks. -/
def traceMachine : Machine StartCall DoneCall Detail AtrCapture where
  core := AtrCapture.toCore
  step := traceStep
  malformed a := a.shape.malformed
  succeeded := DoneCall.success
  lawful := by
    intro op c c' h
    cases op with
    | start context a =>
        rw [traceStep] at h
        cases hsel : c.selected context with
        | false =>
            rw [avdTraceStart_of_not_selected hsel] at h
            obtain rfl := Option.some.inj h
            exact ⟨0, by simp [Core.next, Core.start, hsel]⟩
        | true =>
            rw [avdTraceStart_of_selected hsel] at h
            exact atrRecord_core h
    | done context a =>
        rw [traceStep] at h
        cases hsel : c.selected context with
        | false =>
            rw [avdTraceDone_of_not_selected hsel] at h
            obtain rfl := Option.some.inj h
            exact ⟨0, by simp [Core.next, Core.done, hsel]⟩
        | true =>
            rw [avdTraceDone_of_selected hsel] at h
            obtain ⟨c₁, hrecord, rfl⟩ := Option.map_eq_some_iff.mp h
            obtain ⟨e, hcore⟩ := atrRecord_core hrecord
            refine ⟨e ||| a.unplaced, ?_⟩
            change Core.done _ context a.success = _
            rw [hcore]
            exact (congrArg (Core.done · context a.success) (by rw [Nat.or_assoc])).trans
              (Core.done_or context a.success _)
    | extra d =>
        obtain ⟨kind, fill, _, heq⟩ := avdTraceDetail_eq c d
        rw [traceStep, heq] at h
        split_ifs at h with hdetail
        · exact atrRecord_core h
        · obtain rfl := Option.some.inj h
          exact ⟨0, by simp [Core.next]⟩
    | _ =>
        obtain rfl := Option.some.inj h
        exact ⟨0, by rw [Nat.or_zero]; rfl⟩

/-- Every hook stays in range. -/
lemma traceStep_total {c : AtrCapture} (h : c.count ≤ traceCapacity) (op : TraceOp) :
    ∃ c', traceMachine.step op c = some c' ∧ c'.count ≤ traceCapacity := by
  cases op with
  | start context a =>
      change ∃ c', (avdTraceStart c context a).map Prod.fst = some c' ∧ _
      cases hsel : c.selected context with
      | false => exact ⟨c, avdTraceStart_of_not_selected hsel a, h⟩
      | true =>
          rw [avdTraceStart_of_selected hsel]
          refine atrRecord_total h fun v => ?_
          rw [a.fill_eq]
          exact storeAll_total v (by simp [StartCall.values])
  | done context a =>
      change ∃ c', (avdTraceDone c context a).map Prod.fst = some c' ∧ _
      cases hsel : c.selected context with
      | false => exact ⟨c, avdTraceDone_of_not_selected hsel a, h⟩
      | true =>
          have hfill : ∀ v, ∃ v', a.fill? v = some v' := by
            intro v
            rw [DoneCall.fill?]
            split
            · rw [a.fill_eq]
              exact storeAll_total v (by simp [DoneCall.values])
            · exact ⟨v, rfl⟩
          have htotal : ∃ c₁, atrRecord c context .done a.fill? = some c₁ ∧
              c₁.count ≤ traceCapacity := atrRecord_total h hfill
          obtain ⟨c₁, hrecord, hcount⟩ := htotal
          rw [avdTraceDone_of_selected hsel, hrecord]
          exact ⟨_, rfl, hcount⟩
  | extra d =>
      obtain ⟨kind, fill, hfill, heq⟩ := avdTraceDetail_eq c d
      change ∃ c', avdTraceDetail c d = some c' ∧ _
      rw [heq]
      split_ifs with hdetail
      · exact atrRecord_total h hfill
      · exact ⟨c, rfl, h⟩
  | _ => exact ⟨_, rfl, h⟩

/-- No hook changes a sealed capture. -/
lemma traceStep_sealed {c c' : AtrCapture} {op : TraceOp} (h : traceMachine.step op c = some c')
    (hsealed : c.phase = .sealed) : c' = c := by
  have hsel : ∀ context, c.selected context = false := by simp [Core.selected, hsealed]
  have hnext : c.toCore.next traceMachine.malformed traceMachine.succeeded op = c.toCore :=
    Core.next_sealed hsealed op
  cases op with
  | start context a =>
      exact (Option.some.inj ((avdTraceStart_of_not_selected (hsel context) a).symm.trans h)).symm
  | done context a =>
      exact (Option.some.inj ((avdTraceDone_of_not_selected (hsel context) a).symm.trans h)).symm
  | extra d =>
      obtain ⟨kind, fill, _, heq⟩ := avdTraceDetail_eq c d
      rw [if_neg (by simp [atrDetail, atrSelected, hsel])] at heq
      exact (Option.some.inj (heq.symm.trans h)).symm
  | _ =>
      obtain rfl := Option.some.inj h
      exact AtrCapture.ext (congrArg Core.run hnext) (congrArg Core.context hnext)
        (congrArg Core.pid hnext) (congrArg Core.phase hnext) (congrArg Core.errors hnext)
        (congrArg Core.pictures hnext) (congrArg Core.completions hnext)
        (congrArg Core.pending hnext) rfl rfl rfl

/-! ### The hooks and the control file -/

/-- `next_context` and `next_allocation`. -/
structure TraceStatics where
  nextContext : UInt64 := 0
  nextAllocation : UInt64 := 0

/-- `avd_trace_open`: the number that the context gets. -/
def avdTraceOpen (st : TraceStatics) : TraceStatics × UInt64 :=
  ({ st with nextContext := st.nextContext + 1 }, st.nextContext + 1)

/-- `avd_trace_buf_init`: a buffer of the recorded process gets a number of its own. -/
def avdTraceBufInit (st : TraceStatics) (c : Option AtrCapture) (output : Bool) (pid context : ℕ)
    (buf : DecodedBuffer) : TraceStatics × DecodedBuffer :=
  if output then (st, buf)
  else match c with
    | none => (st, buf)
    | some c =>
        if (c.phase = .armed ∨ atrSelected c context = true) ∧ pid = c.pid then
          ({ st with nextAllocation := st.nextAllocation + 1 },
            { buf with
              traceAllocation := st.nextAllocation + 1
              traceWriter := 0
              traceCompleted := false })
        else (st, buf)

/-- `avd_trace_buf_cleanup`. -/
def avdTraceBufCleanup (output : Bool) (buf : DecodedBuffer) : DecodedBuffer :=
  if output then buf
  else { buf with traceAllocation := 0, traceWriter := 0, traceCompleted := false }

/-- A hook with what it is called with. -/
inductive TraceHook where
  | opened (pid : ℕ)
  | job (pid context : ℕ) (hevc : Bool)
  | close (context : ℕ)
  | bufInit (output : Bool) (pid context : ℕ) (buf : DecodedBuffer)
  | bufCleanup (output : Bool) (buf : DecodedBuffer)
  | start (context : ℕ) (a : StartCall)
  | done (context : ℕ) (a : DoneCall)
  | detail (d : Detail)

/-- What a hook does to the capture; the buffer hooks only read it. -/
def TraceHook.op : TraceHook → Option TraceOp
  | opened pid => some (.opened pid)
  | job pid context hevc => some (.bind pid context hevc)
  | close context => some (.close context)
  | bufInit _ _ _ _ => none
  | bufCleanup _ _ => none
  | start context a => some (.start context a)
  | done context a => some (.done context a)
  | detail d => some (.extra d)

/-- The reference recorder. -/
def traceHooks : Hooks AtrCapture TraceStatics TraceHook where
  core := AtrCapture.toCore
  armed := atrArmed
  sealUp := atrSeal
  apply h c := traceMachine.apply h.op c
  contexts h n := match h with
    | .opened _ => wrap64 (n + 1)
    | .close _ => wrap64 (n + 0xFFFFFFFFFFFFFFFF)
    | _ => n
  statics h c st := match h with
    | .opened _ => (avdTraceOpen st).1
    | .bufInit output pid context buf => (avdTraceBufInit st c output pid context buf).1
    | _ => st

/-- **The hooks of the reference recorder** stay in range, clear no error bit, and leave a sealed
capture as it is. -/
theorem traceHooks_lawful : traceHooks.Lawful fun c => c.count ≤ traceCapacity where
  armed_inv _ _ := Nat.zero_le _
  armed_core _ _ := rfl
  seal_inv h := h
  seal_core _ := rfl
  total hc h := Machine.apply_total (traceStep_total hc) hc h.op
  errors hstep := Machine.apply_errors hstep
  sealed hstep hsealed := Machine.apply_eq (fun _ _ h => traceStep_sealed h hsealed) hstep

end OmarchyM1Video.Recorder
