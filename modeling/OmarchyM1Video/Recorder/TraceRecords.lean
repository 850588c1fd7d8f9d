import Mathlib.Data.List.GetD
import OmarchyM1Video.Recorder.TraceHooks

/-!
What the hooks of the reference recorder leave in a capture.

The values of a record stand at fixed places, and the offline reader names them by their order.  Here
each hook's values have their names and what they are of the driver's structures, and the places
follow.

* `FieldValue`, `Call.fields`: the named values of a call;
* `Call.fill_zero`: the hook stores exactly these, in this order, and nothing behind them;
* `Entry`, `entries`: the calls that are recorded, with their pictures; `Entry.record`, `Entry.items`:
  a record as it is stored, and as it is read;
* `TraceKept`, `trace_keeps`: the capture holds exactly these.
-/

namespace OmarchyM1Video.Recorder

open OmarchyM1Video.C

/-! ### Named values -/

/-- A value of a record: unsigned, or a picture order count. -/
inductive FieldValue where
  | u64 (x : UInt64)
  | s32 (x : Int32)

namespace FieldValue

/-- What is stored. -/
def stored : FieldValue → UInt64
  | u64 x => x
  | s32 x => x.toUInt32.toUInt64

/-- What it stands for. -/
def toInt : FieldValue → ℤ
  | u64 x => x.toNat
  | s32 x => x.toInt

def isSigned : FieldValue → Bool
  | u64 _ => false
  | s32 _ => true

lemma eq_of_toInt {x y : FieldValue} (hsigned : x.isSigned = y.isSigned) (h : x.toInt = y.toInt) :
    x = y := by
  cases x with
  | u64 x =>
      cases y with
      | u64 y => exact congrArg u64 (UInt64.toNat_inj.mp (Int.ofNat_inj.mp h))
      | s32 y => exact absurd hsigned Bool.false_ne_true
  | s32 x =>
      cases y with
      | u64 y => exact absurd hsigned.symm Bool.false_ne_true
      | s32 y => exact congrArg s32 (Int32.toInt_inj.mp h)

end FieldValue

/-- The values of a buffer. -/
def bufferFields (ctx : AvdCtx) (buf : DecodedBuffer) : List (String × FieldValue) :=
  let len := buf.length.toUInt64
  let mv := mvSize ctx
  [("buffer", .u64 buf.index.toUInt64), ("timestamp", .u64 buf.timestamp),
    ("copied", .u64 (flag buf.copiedTimestamp)), ("intra", .u64 (flag buf.isIntra)),
    ("writer", .u64 buf.traceWriter), ("completed", .u64 (flag buf.traceCompleted)),
    ("allocation", .u64 buf.traceAllocation), ("length", .u64 len),
    ("comp_start", .u64 buf.compStart.toUInt64), ("comp_size", .u64 buf.compSize.toUInt64),
    ("off0", .u64 (buf.compOffsets 0).toUInt64), ("off1", .u64 (buf.compOffsets 1).toUInt64),
    ("off2", .u64 (buf.compOffsets 2).toUInt64), ("off3", .u64 (buf.compOffsets 3).toUInt64),
    ("mv_size", .u64 mv), ("mv_offset", .u64 (if mv ≤ len then len - mv else 0)),
    ("bounds", .u64 (flag (decide (mv ≤ len) &&
      decide (buf.compStart.toUInt64 + buf.compSize.toUInt64 ≤ len - mv) &&
      (List.ofFn buf.compOffsets).all fun offset => decide (offset < buf.compSize)))),
    ("memory", .u64 buf.memory.toUInt64)]

lemma bufferFields_stored (ctx : AvdCtx) (buf : DecodedBuffer) :
    (bufferFields ctx buf).map (fun p => p.2.stored) = bufferValues ctx buf := by
  simp [bufferFields, bufferValues, FieldValue.stored, List.ofFn_succ]

/-- The values of a buffer that there is none of. -/
def noBufferFields : List (String × FieldValue) :=
  [("buffer", .u64 0), ("timestamp", .u64 0), ("copied", .u64 0), ("intra", .u64 0),
    ("writer", .u64 0), ("completed", .u64 0), ("allocation", .u64 0), ("length", .u64 0),
    ("comp_start", .u64 0), ("comp_size", .u64 0), ("off0", .u64 0), ("off1", .u64 0),
    ("off2", .u64 0), ("off3", .u64 0), ("mv_size", .u64 0), ("mv_offset", .u64 0),
    ("bounds", .u64 0), ("memory", .u64 0)]

open FieldValue in
/-- The values of a START record. -/
def StartCall.fields (a : StartCall) (dst : DecodedBuffer) : List (String × FieldValue) :=
  [("previous_writer", u64 a.dst.traceWriter), ("poc", s32 a.decode.picOrderCntVal),
    ("slice_poc", s32 a.sl.slicePicOrderCnt), ("type", u64 a.sl.sliceType.toUInt64),
    ("slices", u64 a.slices.toUInt64), ("entry_capacity", u64 a.entryCapacity.toUInt64),
    ("dpb_count", u64 a.decode.numActiveDpbEntries.toUInt64), ("width", u64 a.ctx.width.toUInt64),
    ("height", u64 a.ctx.height.toUInt64)] ++ bufferFields a.ctx dst ++
  [("slice_entries", u64 a.sl.numEntryPointOffsets.toUInt64)]

/-- The values of a DONE record. -/
def DoneCall.fields (a : DoneCall) (dst : DecodedBuffer) : List (String × FieldValue) :=
  [("result", .u64 a.result.toUInt64)] ++ bufferFields a.ctx dst

open FieldValue in
/-- The values of a TABLE record. -/
def TableCall.fields (a : TableCall) : List (String × FieldValue) :=
  [("slot", u64 a.slot.toUInt64), ("poc", s32 a.dpb.picOrderCntVal),
    ("flags", u64 a.dpb.flags.toUInt64), ("requested_timestamp", u64 a.dpb.timestamp),
    ("word", u64 a.word.toUInt64), ("matched", u64 (flag a.matched))] ++
  bufferFields a.ctx a.ref ++
  [("emitted_comp0", u64 (relativeAddress a.ctx a.ref 3 7)),
    ("emitted_comp1", u64 (relativeAddress a.ctx a.ref 2 7)),
    ("emitted_comp2", u64 (relativeAddress a.ctx a.ref 1 7)),
    ("emitted_comp3", u64 (relativeAddress a.ctx a.ref 0 7))]

/-- The values of a LIST record. -/
def ListCall.fields (a : ListCall) : List (String × FieldValue) :=
  [("list", .u64 a.list.toUInt64), ("position", .u64 a.position.toUInt64),
    ("slot", .u64 a.slot.toUInt64), ("word", .u64 a.word.toUInt64)]

/-- The names of a reference list. -/
def l0Names : List String :=
  ["l0_0", "l0_1", "l0_2", "l0_3", "l0_4", "l0_5", "l0_6", "l0_7", "l0_8", "l0_9", "l0_10", "l0_11",
    "l0_12", "l0_13", "l0_14", "l0_15"]

def l1Names : List String :=
  ["l1_0", "l1_1", "l1_2", "l1_3", "l1_4", "l1_5", "l1_6", "l1_7", "l1_8", "l1_9", "l1_10", "l1_11",
    "l1_12", "l1_13", "l1_14", "l1_15"]

/-- The entries of a reference list. -/
def listFields (names : List String) (list : Fin 16 → UInt8) : List (String × FieldValue) :=
  names.zip ((List.ofFn list).map fun x => .u64 x.toUInt64)

/-- The values of the reference, if there is one. -/
def MotionCall.refFields (a : MotionCall) : List (String × FieldValue) :=
  match a.ref with
  | none => noBufferFields
  | some ref => bufferFields a.ctx ref

/-- The address that was emitted, or zero. -/
def MotionCall.address (a : MotionCall) : UInt64 :=
  match a.ref with
  | none => 0
  | some ref => if a.emitted then relativeAddress a.ctx ref 0 8 else 0

open FieldValue in
/-- The values of a MOTION record. -/
def MotionCall.fields (a : MotionCall) : List (String × FieldValue) :=
  [("flags", u64 a.sl.flags), ("type", u64 a.sl.sliceType.toUInt64),
    ("merge", u64 a.sl.fiveMinusMaxNumMergeCand.toUInt64),
    ("l0_minus1", u64 a.sl.numRefIdxL0ActiveMinus1.toUInt64),
    ("l1_minus1", u64 a.sl.numRefIdxL1ActiveMinus1.toUInt64),
    ("col_index", u64 a.sl.collocatedRefIdx.toUInt64), ("first", u64 (flag a.first)),
    ("slot", u64 a.slot.toUInt64), ("requested_timestamp", u64 a.timestamp),
    ("lookup", u64 (flag a.ref.isSome)), ("matched", u64 (flag a.matched)),
    ("valid", u64 (flag a.valid)), ("word", u64 a.word.toUInt64),
    ("emitted", u64 (flag a.emitted))] ++ a.refFields ++ listFields l0Names a.sl.refIdxL0 ++
  listFields l1Names a.sl.refIdxL1 ++
  [("emitted_mv", u64 a.address), ("quirks", u64 a.ctx.quirks.toUInt64)]

/-! ### Calls -/

/-- A call that is recorded; a completion has its buffer. -/
inductive Call where
  | start (a : StartCall)
  | done (a : DoneCall) (dst : DecodedBuffer)
  | detail (d : DetailCall)

def DetailCall.kind : DetailCall → Kind
  | table _ => .table
  | list _ => .list
  | motion _ => .motion

def DetailCall.fields : DetailCall → List (String × FieldValue)
  | table a => a.fields
  | list a => a.fields
  | motion a => a.fields

def DetailCall.fill : DetailCall → (Fin 72 → UInt64) → Option (Fin 72 → UInt64)
  | table a => a.fill
  | list a => a.fill
  | motion a => a.fill

namespace Call

def kind : Call → Kind
  | start _ => .start
  | done _ _ => .done
  | detail d => d.kind

/-- The values of a call that is recorded for a picture. -/
def fields (picture : ℕ) : Call → List (String × FieldValue)
  | start a => a.fields (a.started picture)
  | done a dst => a.fields { dst with traceCompleted := a.success }
  | detail d => d.fields

/-- What the hook does to the values of its record. -/
def fill (picture : ℕ) : Call → (Fin 72 → UInt64) → Option (Fin 72 → UInt64)
  | start a => a.fill (a.started picture)
  | done a dst => a.fill { dst with traceCompleted := a.success }
  | detail d => d.fill

end Call

/-- The values of a record: those that are given, and zeros behind them. -/
def recordValues (fields : List (String × FieldValue)) (j : Fin 72) : UInt64 :=
  (fields.map fun p => p.2.stored).getD j 0

/-! ### The values stand where the hook stores them -/

section Fill

variable {xs ys : List UInt64} {v w : Fin 72 → UInt64}

/-- Zeros behind what has been stored in a zeroed record are there already. -/
lemma storeAll_gap (h : storeAll (fun _ => 0) 0 xs = some v) {k : ℕ} (hk : xs.length + k ≤ 72) :
    storeAll v xs.length (List.replicate k 0) = some v := by
  have hfits : 0 + xs.length ≤ 72 := by omega
  obtain ⟨b, hb, hget⟩ := storeAll_of_le (a := fun _ : Fin 72 => (0 : UInt64)) hfits
  obtain rfl : b = v := Option.some.inj (hb.symm.trans h)
  refine storeAll_self (by simpa using hk) fun j hj => ?_
  have hzero : b j = 0 := by
    rw [hget j, if_pos (Nat.zero_le _), List.getD_eq_default _ _ (by omega)]
  rw [hzero]
  by_cases hlt : (j : ℕ) - xs.length < k
  · rw [List.getD_eq_getElem _ _ (by simpa using hlt), List.getElem_replicate]
  · rw [List.getD_eq_default _ _ (by simpa using hlt)]

/-- What a list that fits leaves in a zeroed record. -/
lemma storeAll_zero (h : xs.length ≤ 72) :
    storeAll (fun _ => 0) 0 xs = some fun j : Fin 72 => xs.getD j 0 := by
  have hfits : 0 + xs.length ≤ 72 := by omega
  obtain ⟨b, hb, hget⟩ := storeAll_of_le (a := fun _ : Fin 72 => (0 : UInt64)) hfits
  rw [hb]
  refine congrArg some (funext fun j => ?_)
  rw [hget j, if_pos (Nat.zero_le _), Nat.sub_zero]

end Fill

lemma StartCall.fields_stored (a : StartCall) (dst : DecodedBuffer) :
    (a.fields dst).map (fun p => p.2.stored) = a.values dst := by
  simp only [StartCall.fields, StartCall.values, List.map_append, bufferFields_stored,
    List.append_assoc]
  rfl

lemma DoneCall.fields_stored (a : DoneCall) (dst : DecodedBuffer) :
    (a.fields dst).map (fun p => p.2.stored) = a.values dst := by
  simp only [DoneCall.fields, DoneCall.values, List.map_append, bufferFields_stored]
  rfl

lemma TableCall.fields_stored (a : TableCall) :
    a.fields.map (fun p => p.2.stored) = a.values := by
  simp only [TableCall.fields, TableCall.values, List.map_append, bufferFields_stored,
    List.append_assoc]
  rfl

lemma listFields_stored {names : List String} (h : names.length = 16) (list : Fin 16 → UInt8) :
    (listFields names list).map (fun p => p.2.stored) = (List.ofFn list).map UInt8.toUInt64 := by
  have hsnd : (listFields names list).map Prod.snd =
      (List.ofFn list).map fun x => FieldValue.u64 x.toUInt64 :=
    List.map_snd_zip (by simp [h])
  have hmap : (listFields names list).map (fun p => p.2.stored) =
      ((listFields names list).map Prod.snd).map FieldValue.stored := by
    rw [List.map_map]
    rfl
  rw [hmap, hsnd, List.map_map]
  rfl

/-- The values of a MOTION record up to the reference. -/
def MotionCall.head (a : MotionCall) : List UInt64 :=
  [a.sl.flags, a.sl.sliceType.toUInt64, a.sl.fiveMinusMaxNumMergeCand.toUInt64,
    a.sl.numRefIdxL0ActiveMinus1.toUInt64, a.sl.numRefIdxL1ActiveMinus1.toUInt64,
    a.sl.collocatedRefIdx.toUInt64, flag a.first, a.slot.toUInt64, a.timestamp,
    flag a.ref.isSome, flag a.matched, flag a.valid, a.word.toUInt64, flag a.emitted]

/-- The values of the reference, or zeros. -/
def MotionCall.buffer (a : MotionCall) : List UInt64 :=
  match a.ref with
  | none => List.replicate 18 0
  | some ref => bufferValues a.ctx ref

lemma MotionCall.length_buffer (a : MotionCall) : a.buffer.length = 18 := by
  rw [MotionCall.buffer]
  split <;> simp

lemma MotionCall.refFields_stored (a : MotionCall) :
    a.refFields.map (fun p => p.2.stored) = a.buffer := by
  rw [MotionCall.refFields, MotionCall.buffer]
  cases a.ref with
  | none => rfl
  | some ref => exact bufferFields_stored a.ctx ref

/-- The values of both reference lists. -/
def MotionCall.lists (a : MotionCall) : List UInt64 :=
  (List.ofFn a.sl.refIdxL0).map UInt8.toUInt64 ++ (List.ofFn a.sl.refIdxL1).map UInt8.toUInt64

lemma MotionCall.fields_stored (a : MotionCall) :
    a.fields.map (fun p => p.2.stored) =
      a.head ++ a.buffer ++ a.lists ++ [a.address] ++ [a.ctx.quirks.toUInt64] := by
  simp only [MotionCall.fields, List.map_append, MotionCall.refFields_stored,
    listFields_stored (show l0Names.length = 16 from rfl),
    listFields_stored (show l1Names.length = 16 from rfl), MotionCall.lists, List.append_assoc]
  rfl

/-- Without a reference the places of its values keep their zeros. -/
lemma MotionCall.fillBuffer_eq (a : MotionCall) {v : Fin 72 → UInt64}
    (h : storeAll (fun _ => 0) 0 a.head = some v) : a.fillBuffer v = storeAll v 14 a.buffer := by
  rw [MotionCall.fillBuffer, MotionCall.buffer]
  cases a.ref with
  | none => exact (storeAll_gap h (k := 18) (by simp [MotionCall.head])).symm
  | some ref => rfl

/-- Where no address is emitted its place keeps its zero. -/
lemma MotionCall.fillAddress_eq (a : MotionCall) {v : Fin 72 → UInt64}
    (h : storeAll (fun _ => 0) 0 (a.head ++ a.buffer ++ a.lists) = some v) :
    a.fillAddress v = storeAll v 64 [a.address] := by
  have hlength : (a.head ++ a.buffer ++ a.lists).length = 64 := by
    simp [a.length_buffer, MotionCall.head, MotionCall.lists]
  have hgap : storeAll v 64 [0] = some v := by
    have h' := storeAll_gap h (k := 1) (by omega)
    rwa [hlength] at h'
  rw [MotionCall.fillAddress, MotionCall.address]
  cases href : a.ref with
  | none =>
      have hnot : a.emitted ≠ true := fun hemitted => by
        have := a.emitted_ref hemitted
        rw [href] at this
        exact absurd this (by decide)
      rw [if_neg hnot]
      exact hgap.symm
  | some ref =>
      split_ifs with hemitted
      · rw [storeAll_singleton, Option.bind_some]
      · exact hgap.symm

/-- The values of a MOTION record stand one after the other. -/
lemma MotionCall.fill_zero (a : MotionCall) : a.fill (fun _ => 0) = storeAll (fun _ => 0) 0
    (a.head ++ a.buffer ++ a.lists ++ [a.address] ++ [a.ctx.quirks.toUInt64]) := by
  have hlists : ∀ v, (storeAll v 32 ((List.ofFn a.sl.refIdxL0).map UInt8.toUInt64)).bind
      (fun w => storeAll w 48 ((List.ofFn a.sl.refIdxL1).map UInt8.toUInt64)) =
      storeAll (n := 72) v 32 a.lists := by
    intro v
    rw [MotionCall.lists, storeAll_append]
    rfl
  have hbuffer : (storeAll (fun _ => 0) 0 a.head).bind a.fillBuffer =
      storeAll (n := 72) (fun _ => 0) 0 (a.head ++ a.buffer) := by
    rw [storeAll_append]
    cases hhead : storeAll (n := 72) (fun _ => 0) 0 a.head with
    | none => rfl
    | some v => exact a.fillBuffer_eq hhead
  have hmiddle : (storeAll (fun _ => 0) 0 (a.head ++ a.buffer)).bind
      (fun v => storeAll v 32 a.lists) =
      storeAll (n := 72) (fun _ => 0) 0 (a.head ++ a.buffer ++ a.lists) := by
    rw [storeAll_append _ _ (a.head ++ a.buffer), List.length_append, a.length_buffer]
    rfl
  have haddress : (storeAll (fun _ => 0) 0 (a.head ++ a.buffer ++ a.lists)).bind a.fillAddress =
      storeAll (n := 72) (fun _ => 0) 0 (a.head ++ a.buffer ++ a.lists ++ [a.address]) := by
    have hlength : (a.head ++ a.buffer ++ a.lists).length = 64 := by
      simp [a.length_buffer, MotionCall.head, MotionCall.lists]
    rw [storeAll_append _ _ (a.head ++ a.buffer ++ a.lists), hlength]
    cases hmid : storeAll (n := 72) (fun _ => 0) 0 (a.head ++ a.buffer ++ a.lists) with
    | none => rfl
    | some v => exact a.fillAddress_eq hmid
  have hlast : (a.head ++ a.buffer ++ a.lists ++ [a.address]).length = 65 := by
    simp [a.length_buffer, MotionCall.head, MotionCall.lists]
  rw [storeAll_append _ _ (a.head ++ a.buffer ++ a.lists ++ [a.address]), hlast, ← haddress,
    ← hmiddle, ← hbuffer]
  simp only [Option.bind_assoc, ← hlists, storeAll_singleton]
  rfl

/-- **The hook stores the named values**, in their order, and nothing behind them. -/
theorem Call.fill_zero (call : Call) (picture : ℕ) :
    call.fill picture (fun _ => 0) = some (recordValues (call.fields picture)) := by
  have hfits : ∀ {fields : List (String × FieldValue)}, fields.length ≤ 72 →
      storeAll (fun _ => 0) 0 (fields.map fun p => p.2.stored) = some (recordValues fields) :=
    fun h => storeAll_zero (by simpa using h)
  cases call with
  | start a =>
      rw [Call.fill, a.fill_eq, ← a.fields_stored]
      exact hfits (by simp [StartCall.fields, bufferFields])
  | done a dst =>
      rw [Call.fill, a.fill_eq, ← a.fields_stored]
      exact hfits (by simp [DoneCall.fields, bufferFields])
  | detail d =>
      cases d with
      | table a =>
          change a.fill _ = _
          rw [a.fill_eq, ← a.fields_stored]
          exact hfits (by simp [TableCall.fields, bufferFields])
      | list a =>
          have hlength : a.fields.length ≤ 72 := by simp [ListCall.fields]
          exact hfits hlength
      | motion a =>
          change a.fill _ = _
          rw [a.fill_zero, ← a.fields_stored]
          have hlength : a.fields.length = 66 := by
            have h := congrArg List.length a.fields_stored
            simpa [a.length_buffer, MotionCall.head, MotionCall.lists] using h
          exact hfits (by omega)

/-! ### The calls that are recorded -/

/-- A call with the picture that it is recorded for. -/
structure Entry where
  picture : ℕ
  call : Call

namespace Entry

/-- The named values of the record. -/
def fields (e : Entry) : List (String × FieldValue) := e.call.fields e.picture

/-- The record, with its place in the sequence. -/
def record (e : Entry) (run ctx sequence : ℕ) : AtrRecord :=
  { run
    context := ctx
    sequence
    kind := e.call.kind.code
    picture := e.picture
    v := recordValues e.fields }

/-- The record under the reader's names: its values, its kind and its picture. -/
def items (e : Entry) : List (String × ℤ) :=
  e.fields.map (fun p => (p.1, p.2.toInt)) ++
    [("kind", (e.call.kind.code : ℤ)), ("picture", (e.picture : ℤ))]

end Entry

/-- What an operation records of the context after `n` starts: a start its own picture, everything
else the last one. -/
def entryOf (ctx n : ℕ) : TraceOp → Option Entry
  | .start context a => if context = ctx then some ⟨n + 1, .start a⟩ else none
  | .done context a => if context = ctx then a.dst.map fun dst => ⟨n, .done a dst⟩ else none
  | .extra d =>
      if d.context = ctx ∧ firstDetail ≤ n ∧ n ≤ lastDetail then some ⟨n, .detail d.call⟩ else none
  | _ => none

/-- What operations record of the context after `n` starts. -/
def entriesFrom (ctx : ℕ) : ℕ → List TraceOp → List Entry
  | _, [] => []
  | n, op :: ops =>
      (entryOf ctx n op).toList ++ entriesFrom ctx (n + if isStart ctx op then 1 else 0) ops

/-- What operations record of the context. -/
def entries (ctx : ℕ) (ops : List TraceOp) : List Entry := entriesFrom ctx 0 ops

lemma entriesFrom_concat {ctx n : ℕ} {ops : List TraceOp} {op : TraceOp} :
    entriesFrom ctx n (ops ++ [op]) =
      entriesFrom ctx n ops ++ (entryOf ctx (n + starts ctx ops) op).toList := by
  induction ops generalizing n with
  | nil => simp [entriesFrom, starts]
  | cons o ops ih =>
      have hstarts : n + starts ctx (o :: ops) =
          n + (if isStart ctx o then 1 else 0) + starts ctx ops := by
        rw [starts, List.countP_cons, starts]
        omega
      rw [List.cons_append, entriesFrom, ih, entriesFrom, hstarts, List.append_assoc]

lemma entries_concat {ctx : ℕ} {ops : List TraceOp} {op : TraceOp} :
    entries ctx (ops ++ [op]) = entries ctx ops ++ (entryOf ctx (starts ctx ops) op).toList := by
  rw [entries, entriesFrom_concat, Nat.zero_add, entries]

/-- The records of a capture: those of the entries, and zeroed ones behind them. -/
def recordsOf (run ctx : ℕ) (es : List Entry) (k : Fin 2048) : AtrRecord :=
  match es[(k : ℕ)]? with
  | some e => e.record run ctx (k + 1)
  | none => {}

lemma recordsOf_concat {run ctx : ℕ} {es : List Entry} {e : Entry} (h : es.length < 2048) :
    recordsOf run ctx (es ++ [e]) =
      Function.update (recordsOf run ctx es) ⟨es.length, h⟩ (e.record run ctx (es.length + 1)) := by
  funext k
  by_cases hk : k = ⟨es.length, h⟩
  · subst hk
    rw [Function.update_self, recordsOf, List.getElem?_concat_length]
  · have hne : (k : ℕ) ≠ es.length := fun heq => hk (Fin.ext heq)
    rw [Function.update_of_ne hk, recordsOf, recordsOf]
    by_cases hlt : (k : ℕ) < es.length
    · rw [List.getElem?_append_left hlt]
    · have hnone : es[(k : ℕ)]? = none := List.getElem?_eq_none (by omega)
      have hnone' : (es ++ [e])[(k : ℕ)]? = none :=
        List.getElem?_eq_none (by rw [List.length_append, List.length_singleton]; omega)
      rw [hnone, hnone']

/-- The capture holds the records of the entries. -/
structure Holding (ctx : ℕ) (es : List Entry) (c : AtrCapture) : Prop where
  count : c.count = es.length
  attempted : c.attempted = es.length
  room : es.length ≤ traceCapacity
  records : c.records = recordsOf c.run ctx es

lemma Holding.of_eq {ctx : ℕ} {es : List Entry} {c c' : AtrCapture} (h : Holding ctx es c)
    (hcount : c'.count = c.count) (hattempted : c'.attempted = c.attempted)
    (hrecords : c'.records = c.records) (hrun : c'.run = c.run) : Holding ctx es c' := by
  refine ⟨hcount.trans h.count, hattempted.trans h.attempted, h.room, ?_⟩
  rw [hrecords, hrun, h.records]

/-- One more record. -/
lemma Holding.record {ctx : ℕ} {es : List Entry} {c c' : AtrCapture} (h : Holding ctx es c)
    (hsel : c.selected ctx = true) (call : Call)
    (hrecord : atrRecord c ctx call.kind (call.fill c.pictures) = some c') (hclean : c'.errors = 0) :
    Holding ctx (es ++ [⟨c.pictures, call⟩]) c' := by
  rcases atrRecord_eq_some.mp hrecord with ⟨hnot, _⟩ | ⟨_, _, rfl⟩ | ⟨_, hlt, v, hv, rfl⟩
  · exact absurd (hsel.symm.trans hnot) (by decide)
  · exact absurd hclean Core.raise_errors_ne
  · have hlength : es.length < 2048 := h.count ▸ hlt
    have hzero : (c.records ⟨c.count, hlt⟩).v = fun _ => 0 := by
      rw [h.records, recordsOf, List.getElem?_eq_none (Nat.le_of_eq h.count.symm)]
    rw [hzero, call.fill_zero] at hv
    obtain rfl := Option.some.inj hv
    have hwrap : ∀ {n : ℕ}, n = es.length → wrap64 (n + 1) = es.length + 1 := by
      rintro _ rfl
      exact wrap64_of_lt (by omega)
    have hindex : (⟨c.count, hlt⟩ : Fin 2048) = ⟨es.length, hlength⟩ := Fin.ext h.count
    refine ⟨?_, ?_, ?_, ?_⟩
    · rw [List.length_append, List.length_singleton]
      exact hwrap h.count
    · rw [List.length_append, List.length_singleton]
      exact hwrap h.attempted
    · rw [List.length_append, List.length_singleton]
      exact hlength
    · change _ = recordsOf c.run ctx (es ++ [⟨c.pictures, call⟩])
      rw [recordsOf_concat hlength, ← h.records, ← hwrap h.attempted, hindex]
      rfl

/-! ### The hooks keep it so -/

section Kept

variable {ctx : ℕ} {during : List TraceOp} {op : TraceOp} {c c' : AtrCapture}

/-- What the capture holds of the operations since the binding. -/
structure TraceKept (ctx : ℕ) (during : List TraceOp) (c : AtrCapture) : Prop where
  holding : Holding ctx (entries ctx during) c
  pictures : c.pictures = starts ctx during
  bound : c.pictures ≤ pictureCount
  pending : c.pending ≤ c.pictures
  numbered : ∀ e ∈ entries ctx during, 1 ≤ e.picture ∧ e.picture ≤ pictureCount

/-- A capture that has recorded nothing. -/
structure TraceFresh (c : AtrCapture) : Prop where
  holding : ∀ ctx, Holding ctx [] c
  pictures : c.pictures = 0
  pending : c.pending = 0

/-- What an operation leaves as it is. -/
def SameRecords (c c' : AtrCapture) : Prop :=
  c'.count = c.count ∧ c'.attempted = c.attempted ∧ c'.records = c.records

/-- The operations on the shared state leave the records alone. -/
lemma traceStep_frame (h : traceMachine.step op c = some c') (hstart : ∀ context a, op ≠ .start context a)
    (hdone : ∀ context a, op ≠ .done context a) (hextra : ∀ d, op ≠ .extra d) : SameRecords c c' := by
  cases op with
  | start context a => exact absurd rfl (hstart context a)
  | done context a => exact absurd rfl (hdone context a)
  | extra d => exact absurd rfl (hextra d)
  | _ =>
      obtain rfl := Option.some.inj h
      exact ⟨rfl, rfl, rfl⟩

/-- A hook of a context that is not recorded does nothing. -/
lemma traceStep_start_of_not_selected {context : ℕ} {a : StartCall}
    (h : traceMachine.step (.start context a) c = some c') (hsel : c.selected context = false) :
    c' = c :=
  (Option.some.inj ((avdTraceStart_of_not_selected hsel a).symm.trans h)).symm

lemma traceStep_done_of_not_selected {context : ℕ} {a : DoneCall}
    (h : traceMachine.step (.done context a) c = some c') (hsel : c.selected context = false) :
    c' = c :=
  (Option.some.inj ((avdTraceDone_of_not_selected hsel a).symm.trans h)).symm

/-- What a hook that records a picture in detail does. -/
lemma traceStep_extra {d : Detail} (h : traceMachine.step (.extra d) c = some c') :
    (if atrDetail c d.context then atrRecord c d.context d.call.kind d.call.fill else some c) =
      some c' := by
  change avdTraceDetail c d = some c' at h
  rw [avdTraceDetail] at h
  cases hcall : d.call <;> rw [hcall] at h <;> exact h

/-- A record is appended only while its context is recorded. -/
lemma traceStep_idle (h : traceMachine.step op c = some c') (hphase : c.phase ≠ .active) :
    SameRecords c c' := by
  have hsel : ∀ context, c.selected context = false := by
    intro context
    simp [Core.selected, hphase]
  cases op with
  | start context a =>
      obtain rfl := traceStep_start_of_not_selected h (hsel context)
      exact ⟨rfl, rfl, rfl⟩
  | done context a =>
      obtain rfl := traceStep_done_of_not_selected h (hsel context)
      exact ⟨rfl, rfl, rfl⟩
  | extra d =>
      have h' := traceStep_extra h
      rw [if_neg (by simp [atrDetail, atrSelected, hsel])] at h'
      obtain rfl := Option.some.inj h'
      exact ⟨rfl, rfl, rfl⟩
  | _ => exact traceStep_frame h (by simp) (by simp) (by simp)

lemma Holding.same {es : List Entry} (h : Holding ctx es c) (hsame : SameRecords c c')
    (hrun : c'.run = c.run) : Holding ctx es c' :=
  h.of_eq hsame.1 hsame.2.1 hsame.2.2 hrun

/-- Nothing is recorded before the binding. -/
lemma TraceFresh.step (h : TraceFresh c) (hphase : c.phase = .armed)
    (hstep : traceMachine.step op c = some c') : TraceFresh c' := by
  have hidle : c.phase ≠ .active := by simp [hphase]
  have hrun : c'.run = c.run := Machine.step_run hstep
  have hpictures : c'.pictures = c.pictures :=
    Machine.step_pictures hstep fun hactive => absurd hactive hidle
  have hpending : c'.pending = c.pending :=
    Machine.step_pending hstep (fun hactive => absurd hactive hidle)
      fun hactive => absurd hactive hidle
  exact ⟨fun ctx => (h.holding ctx).same (traceStep_idle hstep hidle) hrun,
    hpictures.trans h.pictures, hpending.trans h.pending⟩

/-- A picture of the recorded context starts. -/
lemma Holding.start {es : List Entry} {a : StartCall} (h : Holding ctx es c)
    (hsel : c.selected ctx = true) (hstep : traceMachine.step (.start ctx a) c = some c')
    (hclean : c'.errors = 0) (hpictures : c'.pictures = c.pictures + 1) :
    Holding ctx (es ++ [⟨c.pictures + 1, .start a⟩]) c' := by
  change (avdTraceStart c ctx a).map Prod.fst = some c' at hstep
  rw [avdTraceStart_of_selected hsel] at hstep
  obtain ⟨e, hcore⟩ := atrRecord_core hstep
  have hstarted : (atrStart c ctx a.shape).pictures = c.pictures + 1 :=
    (congrArg Core.pictures hcore).symm.trans hpictures
  have hheld : Holding ctx es (atrStart c ctx a.shape) := h.of_eq rfl rfl rfl (Core.start_run ctx _)
  have hsel' : (atrStart c ctx a.shape).selected ctx = true := (Core.start_selected ctx _).trans hsel
  have hrecord := hheld.record hsel' (.start a) hstep hclean
  rwa [hstarted] at hrecord

/-- A picture of the recorded context is complete. -/
lemma Holding.done {es : List Entry} {a : DoneCall} (h : Holding ctx es c)
    (hsel : c.selected ctx = true) (hstep : traceMachine.step (.done ctx a) c = some c')
    (hclean : c'.errors = 0) :
    ∃ dst, a.dst = some dst ∧ Holding ctx (es ++ [⟨c.pictures, .done a dst⟩]) c' := by
  change (avdTraceDone c ctx a).map Prod.fst = some c' at hstep
  rw [avdTraceDone_of_selected hsel] at hstep
  obtain ⟨c₁, hrecord, rfl⟩ := Option.map_eq_some_iff.mp hstep
  -- No error bit is left, so there was a buffer, and the record had room.
  have hplaced : c₁.errors ||| a.unplaced = 0 :=
    (Core.done_errors ctx a.success).eq_zero hclean
  obtain ⟨hclean₁, hunplaced⟩ := Nat.or_eq_zero_iff.mp hplaced
  cases hdst : a.dst with
  | none => simp [DoneCall.unplaced, hdst, Fault.bit] at hunplaced
  | some dst =>
      have hfill : a.fill? = (Call.done a dst).fill c.pictures := by
        funext v
        rw [DoneCall.fill?, hdst]
        rfl
      rw [hfill] at hrecord
      refine ⟨dst, rfl, (h.record hsel (.done a dst) hrecord hclean₁).of_eq rfl rfl rfl ?_⟩
      exact Core.done_run ctx a.success

/-- A record in detail of the recorded context. -/
lemma Holding.detail {es : List Entry} {d : Detail} (h : Holding ctx es c) (hactive : c.phase = .active)
    (hctx : c.context = ctx) (hstep : traceMachine.step (.extra d) c = some c')
    (hclean : c'.errors = 0) : Holding ctx (es ++ (entryOf ctx c.pictures (.extra d)).toList) c' := by
  have hstep' := traceStep_extra hstep
  have hdetail : atrDetail c d.context = true ↔
      d.context = ctx ∧ firstDetail ≤ c.pictures ∧ c.pictures ≤ lastDetail := by
    simp [atrDetail, atrSelected, Core.selected, hactive, hctx, and_assoc]
  rw [entryOf]
  by_cases hentry : d.context = ctx ∧ firstDetail ≤ c.pictures ∧ c.pictures ≤ lastDetail
  · rw [if_pos (hdetail.mpr hentry)] at hstep'
    rw [if_pos hentry]
    obtain rfl := hentry.1
    have hsel : c.selected d.context = true := Core.selected_iff.mpr ⟨hactive, hctx.symm⟩
    exact h.record hsel (.detail d.call) hstep' hclean
  · rw [if_neg fun hrec => hentry (hdetail.mp hrec)] at hstep'
    rw [if_neg hentry, Option.toList_none, List.append_nil]
    obtain rfl := Option.some.inj hstep'
    exact h

/-- What is recorded next is of a picture that has been started. -/
lemma TraceKept.entry_numbered (h : TraceKept ctx during c) (hactive : c.phase = .active)
    (hctx : c.context = ctx) (hstep : traceMachine.step op c = some c') (hclean : c'.errors = 0)
    {e : Entry} (he : entryOf ctx c.pictures op = some e) :
    1 ≤ e.picture ∧ e.picture ≤ pictureCount := by
  obtain ⟨_, hop⟩ := Machine.step_clean hstep hclean
  obtain ⟨hpictures, hbound⟩ := hop.pictures hactive h.bound
  have hsel : c.selected ctx = true := Core.selected_iff.mpr ⟨hactive, hctx.symm⟩
  cases op with
  | start context a =>
      obtain ⟨rfl, rfl⟩ : context = ctx ∧ ⟨c.pictures + 1, .start a⟩ = e := by
        simpa [entryOf] using he
      have hnext : c'.pictures = c.pictures + 1 := by
        change c'.pictures = c.pictures + if decide (context = c.context) = true then 1 else 0 at hpictures
        rwa [if_pos (decide_eq_true hctx.symm)] at hpictures
      exact ⟨Nat.le_add_left 1 _, hnext ▸ hbound⟩
  | done context a =>
      obtain ⟨rfl, dst, _, rfl⟩ : context = ctx ∧ ∃ dst, a.dst = some dst ∧
          (⟨c.pictures, .done a dst⟩ : Entry) = e := by
        simpa [entryOf] using he
      refine ⟨?_, h.bound⟩
      generalize traceMachine.core c' = d at hop
      cases hop with
      | done _ hpending => exact Nat.le_trans (Nat.pos_of_ne_zero hpending) h.pending
      | strayDone hstray => exact absurd (hsel.symm.trans hstray) (by decide)
  | extra d =>
      obtain ⟨⟨_, hfirst, _⟩, rfl⟩ : (d.context = ctx ∧ firstDetail ≤ c.pictures ∧
          c.pictures ≤ lastDetail) ∧ (⟨c.pictures, .detail d.call⟩ : Entry) = e := by
        simpa [entryOf] using he
      exact ⟨Nat.le_trans (by decide) hfirst, h.bound⟩
  | _ => exact absurd he (by simp [entryOf])

/-- An operation of a context that is recorded. -/
lemma TraceKept.active (h : TraceKept ctx during c) (hactive : c.phase = .active)
    (hctx : c.context = ctx) (hstep : traceMachine.step op c = some c') (hclean : c'.errors = 0) :
    TraceKept ctx (during ++ [op]) c' := by
  obtain ⟨_, hop⟩ := Machine.step_clean hstep hclean
  obtain ⟨hpictures, hbound⟩ := hop.pictures hactive h.bound
  have hpictures' : c'.pictures = starts ctx (during ++ [op]) := by
    rw [starts_concat, ← h.pictures, ← hctx]
    exact hpictures
  have hnumbered : ∀ e ∈ entries ctx (during ++ [op]), 1 ≤ e.picture ∧ e.picture ≤ pictureCount := by
    intro e he
    rw [entries_concat, ← h.pictures] at he
    rcases List.mem_append.mp he with he | he
    · exact h.numbered e he
    · exact h.entry_numbered hactive hctx hstep hclean (Option.mem_toList.mp he)
  refine ⟨?_, hpictures', hbound, hop.pending_le h.pending, hnumbered⟩
  rw [entries_concat, ← h.pictures]
  have hrun : c'.run = c.run := Machine.step_run hstep
  -- Whatever records nothing leaves the records as they are.
  have hkeep : SameRecords c c' → entryOf ctx c.pictures op = none →
      Holding ctx (entries ctx during ++ (entryOf ctx c.pictures op).toList) c' := by
    intro hsame hnone
    rw [hnone, Option.toList_none, List.append_nil]
    exact h.holding.same hsame hrun
  have hstray : ∀ {context}, context ≠ ctx → c.selected context = false := by
    intro context hne
    simpa [Core.selected, hactive, hctx] using hne
  have hsel : c.selected ctx = true := Core.selected_iff.mpr ⟨hactive, hctx.symm⟩
  cases op with
  | start context a =>
      by_cases hcontext : context = ctx
      · subst hcontext
        have hnext : c'.pictures = c.pictures + 1 := by
          rw [hpictures', starts_concat, ← h.pictures, isStart, if_pos (by simp)]
        rw [entryOf, if_pos rfl]
        exact h.holding.start hsel hstep hclean hnext
      · obtain rfl := traceStep_start_of_not_selected hstep (hstray hcontext)
        exact hkeep ⟨rfl, rfl, rfl⟩ (if_neg hcontext)
  | done context a =>
      by_cases hcontext : context = ctx
      · subst hcontext
        obtain ⟨dst, hdst, hheld⟩ := h.holding.done hsel hstep hclean
        rw [entryOf, if_pos rfl, hdst]
        exact hheld
      · obtain rfl := traceStep_done_of_not_selected hstep (hstray hcontext)
        exact hkeep ⟨rfl, rfl, rfl⟩ (if_neg hcontext)
  | extra d => exact h.holding.detail hactive hctx hstep hclean
  | _ => exact hkeep (traceStep_frame hstep (by simp) (by simp) (by simp)) rfl

lemma TraceKept.of_same (h : TraceKept ctx during c) (hsame : SameRecords c c')
    (hrun : c'.run = c.run) (hpictures : c'.pictures = c.pictures)
    (hpending : c'.pending = c.pending) : TraceKept ctx during c' := by
  refine ⟨h.holding.same hsame hrun, hpictures.trans h.pictures, hpictures ▸ h.bound, ?_, h.numbered⟩
  rw [hpending, hpictures]
  exact h.pending

/-- **The capture holds exactly what the hooks recorded** of the bound context. -/
theorem trace_keeps : traceMachine.Keeps TraceFresh TraceKept where
  fresh h hphase hstep _ := h.step hphase hstep
  bind := by
    intro pid ctx c c' h hphase hstep _
    have h' := h.step hphase hstep
    refine ⟨h'.holding ctx, h'.pictures, h'.pictures ▸ Nat.zero_le _, ?_, by simp [entries, entriesFrom]⟩
    exact h'.pending ▸ Nat.zero_le _
  active h hactive hctx hstep hclean _ := h.active hactive hctx hstep hclean
  close := by
    intro ctx during c c' h _ hstep
    refine h.of_same (traceStep_frame hstep (by simp) (by simp) (by simp))
      (Machine.step_run hstep) (Machine.step_pictures hstep (by simp)) ?_
    exact Machine.step_pending hstep (by simp) (by simp)
  idle := by
    intro ctx during op c c' h hphase hstep
    have hidle : c.phase ≠ .active := by
      rcases hphase with hphase | hphase
      · exact hphase ▸ by decide
      · exact hphase ▸ by decide
    refine h.of_same (traceStep_idle hstep hidle) (Machine.step_run hstep)
      (Machine.step_pictures hstep fun hactive => absurd hactive hidle) ?_
    exact Machine.step_pending hstep (fun hactive => absurd hactive hidle)
      fun hactive => absurd hactive hidle

end Kept

end OmarchyM1Video.Recorder
