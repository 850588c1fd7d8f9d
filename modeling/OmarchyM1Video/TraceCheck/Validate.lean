import Mathlib.Data.List.Sort
import Mathlib.Data.UInt
import OmarchyM1Video.AvdMap.Model
import OmarchyM1Video.TraceCheck.Records

/-!
The offline validator of a capture: `validate` of `experiments/hevc-avd-trace/check.py`.

Malformed evidence is rejected; a discrepancy in well-formed evidence is a finding.  The findings of
a check are the list that it would append, so that checks compose by `++`.

* `State`: the starts, histories, allocations and current writers of the pictures so far;
* `checkBuffer`, `checkTable`, `checkLists`, `checkLookup`, `checkGroup`: the checks of a group;
* `resolve`, `normalizeRow`: the writers that timestamps resolve to;
* `validateLoop`, `validate`: the loop over the records.
-/

namespace OmarchyM1Video.TraceCheck

open OmarchyM1Video.Py OmarchyM1Video.AvdMap

/-- A discrepancy. -/
structure Finding where
  picture : ℕ
  kind : ℕ
  code : String
  deriving DecidableEq, Repr

/-- `check_value(row, condition, code)`. -/
def checkValue {τ : Type} (row : TraceRow τ) (condition : Prop) [Decidable condition]
    (code : String) : List Finding :=
  if condition then [] else [{ picture := row.picture, kind := row.kind, code }]

/-- `int(condition)`. -/
def ofCond (c : Prop) [Decidable c] : ℕ := if c then 1 else 0

/-- `flags & bit`, for a single bit. -/
def flagSet (flags bit : ℕ) : Prop := flags &&& bit ≠ 0

instance (flags bit : ℕ) : Decidable (flagSet flags bit) := inferInstanceAs (Decidable (_ ≠ _))

/-- What is known of the pictures so far. -/
structure State where
  /-- Picture to START. -/
  starts : Dict ℕ (StartRow UInt64) := ∅
  /-- Buffer and allocation to the last picture that was started on them. -/
  histories : Dict (ℕ × ℕ) ℕ := ∅
  /-- Allocation to buffer. -/
  allocations : Dict ℕ ℕ := ∅
  /-- Buffer to the last START on it. -/
  currentWriters : Dict ℕ (StartRow UInt64) := ∅
  /-- Buffer to the allocation of the last START on it. -/
  currentAllocations : Dict ℕ ℕ := ∅

/-- The history with a START. -/
def State.begin (st : State) (s : StartRow UInt64) : State :=
  { st with
    starts := st.starts.set s.picture s
    currentWriters := st.currentWriters.set s.buf.buffer s
    currentAllocations := st.currentAllocations.set s.buf.buffer s.buf.allocation
    histories := st.histories.set (s.buf.buffer, s.buf.allocation) s.picture }

/-! ### Buffers -/

namespace BufferRow

variable {τ : Type} (b : BufferRow τ)

def offsets : List ℕ := [b.off0, b.off1, b.off2, b.off3]

/-- The compressed data and the motion vectors fit in the plane. -/
def InPlane (mv : ℕ) : Prop :=
  mv ≤ b.length ∧ b.compStart + b.compSize ≤ b.length - mv ∧ ∀ x ∈ b.offsets, x < b.compSize

instance (mv : ℕ) : Decidable (b.InPlane mv) := inferInstanceAs (Decidable (_ ∧ _))

end BufferRow

/-- The size of the motion vectors of a picture. -/
def StartRow.mv {τ : Type} (s : StartRow τ) : ℕ := (s.width + 63) / 64 * ((s.height + 63) / 64) * 256

/-- The findings of a buffer that is referred to. -/
def referenceFindings (st : State) (row : TraceRow UInt64) (b : BufferRow UInt64) : List Finding :=
  checkValue row (st.currentAllocations.get? b.buffer = some b.allocation)
      "stale-or-unwritten-allocation" ++
    checkValue row (st.histories.get? (b.buffer, b.allocation) = some b.writer ∧
      st.starts.contains b.writer) "stale-or-unknown-writer" ++
    (match st.starts.get? b.writer with
      | some known =>
          checkValue row (b.timestamp = known.buf.timestamp) "writer-timestamp-mismatch" ++
            checkValue row (b.intra = ofCond (known.type = 2)) "writer-intra-mismatch"
      | none => []) ++
    checkValue row (b.completed = 1) "reference-writer-not-completed"

/-- The findings of `buffer(row, start, destination)`. -/
def bufferFindings (st : State) (mv : ℕ) (row : TraceRow UInt64) (b : BufferRow UInt64)
    (destination : Bool) : List Finding :=
  checkValue row (b.InPlane mv) "allocation-range-out-of-bounds" ++
    checkValue row (b.copied = 1) "copied-timestamp-invalid" ++
    if destination then [] else referenceFindings st row b

/-- What `buffer(row, start, destination)` asks of a buffer. -/
def needBuffer (st : State) (mv : ℕ) (b : BufferRow UInt64) : Except String Unit := do
  need (∀ x ∈ [b.copied, b.intra, b.completed, b.bounds], x = 0 ∨ x = 1) "invalid buffer boolean"
  need (b.buffer < 0x100000000 ∧ 0 < b.allocation ∧ (b.memory = 1 ∨ b.memory = 4))
    "invalid buffer/allocation/memory identity"
  need (0 < b.length ∧ b.length < 0x100000000 ∧ b.compStart < 0x100000000 ∧
    b.compSize < 0x100000000) "layout outside plane domain"
  need (∀ x ∈ b.offsets, x < 0x100000000) "invalid compressed offset"
  need (b.mvSize = mv ∧ b.mvOffset = b.length - mv ∧ b.bounds = ofCond (b.InPlane mv))
    "inconsistent layout snapshot"
  need ((st.allocations.get? b.allocation).all (· = b.buffer))
    "allocation identity aliases buffer indices"

/-- `buffer(row, start, destination)`. -/
def checkBuffer (st : State) (mv : ℕ) (row : TraceRow UInt64) (b : BufferRow UInt64)
    (destination : Bool) : Except String (State × List Finding) := do
  needBuffer st mv b
  return ({ st with allocations := st.allocations.set b.allocation b.buffer },
    bufferFindings st mv row b destination)

/-! ### The reference table and the reference lists -/

/-- The findings of a slot of the table beyond those of its buffer. -/
def tableFindings (st : State) (pic : ℕ) (t : TableRow UInt64) (header : ℕ) : List Finding :=
  let row : TraceRow UInt64 := .table t
  checkValue row (t.matched = 1) "reference-lookup-fallback" ++
    checkValue row (t.requestedTimestamp = t.buf.timestamp) "lookup-timestamp-mismatch" ++
    checkValue row (t.buf.writer < pic) "reference-aliases-current-destination" ++
    (match st.starts.get? t.buf.writer with
      | some known => checkValue row (known.poc = t.poc) "reference-poc-mismatch"
      | none => []) ++
    checkValue row (t.word = header) "reference-header-word-mismatch" ++
    checkValue row ([t.emittedComp0, t.emittedComp1, t.emittedComp2, t.emittedComp3] =
      t.buf.offsets.map (t.buf.compStart + ·)) "compressed-address-mismatch"

/-- A slot of the table. -/
def checkSlot (st : State) (start : StartRow UInt64) (i : ℕ) (t : TableRow UInt64) :
    Except String (State × List Finding) := do
  need (t.slot = i ∧ (t.matched = 0 ∨ t.matched = 1)) "missing/duplicate table slot"
  let (st', found₁) ← checkBuffer st start.mv (.table t) t.buf false
  let header ← refHeader start.dpbCount (t.flags &&& 1 : ℕ) (some (start.slicePoc, t.poc))
  let value ← found header.value "TypeError"
  return (st', found₁ ++ tableFindings st' start.picture t value)

/-- The slots of the table, from one on. -/
def checkTable (start : StartRow UInt64) :
    State → ℕ → List (TableRow UInt64) → Except String (State × List Finding)
  | st, _, [] => .ok (st, [])
  | st, i, t :: rest => do
      let (st₁, found₁) ← checkSlot st start i t
      let (st₂, found₂) ← checkTable start st₁ (i + 1) rest
      return (st₂, found₁ ++ found₂)

/-- `m['l0_minus1']` and `m['l1_minus1']`. -/
def MotionRow.minus1 {τ : Type} (m : MotionRow τ) (li : ℕ) : ℕ :=
  if li = 0 then m.l0Minus1 else m.l1Minus1

/-- `m[f'l{li}_{i}']`. -/
def MotionRow.raw {τ : Type} (m : MotionRow τ) (li i : ℕ) : Except String ℕ :=
  if h : i < 16 then .ok (if li = 0 then m.l0 ⟨i, h⟩ else m.l1 ⟨i, h⟩) else .error "KeyError"

/-- The entry of an active list that is expected. -/
def expectedEntry (m : MotionRow UInt64) (slots : ℕ) (p : ℕ × ℕ) :
    Except String (ℕ × ℕ × ℕ × ℕ) := do
  let slot ← m.raw p.1 p.2
  need (slot < slots) "active list outside recorded table"
  let word ← refListWord p.1 p.2 slot
  return (p.1, p.2, slot, word)

/-- The active lists that are expected: both for a B slice, the first for a P slice. -/
def expectedLists (start : StartRow UInt64) (m : MotionRow UInt64) (slots : ℕ) :
    Except String (List (ℕ × ℕ × ℕ × ℕ)) :=
  if start.type = 2 then .ok []
  else do
    need (m.l0Minus1 < 16 ∧ m.l1Minus1 < 16) "oversized lists"
    let positions := (List.range (if start.type = 0 then 2 else 1)).flatMap fun li =>
      (List.range (m.minus1 li + 1)).map fun i => (li, i)
    positions.mapM (expectedEntry m slots)

/-- The entries of the active lists. -/
def checkLists : List ListRow → List (ℕ × ℕ × ℕ × ℕ) → Except String (List Finding)
  | a :: as, w :: ws => do
      need ((a.list, a.position) = (w.1, w.2.1)) "missing/duplicate list position"
      let more ← checkLists as ws
      return checkValue (.list a : TraceRow UInt64) ((a.list, a.position, a.slot, a.word) = w)
        "reference-list-word-mismatch" ++ more
  | _, _ => .ok []

/-! ### The motion reference -/

/-- `TMVP`, `MVD_ZERO`, `CABAC`, `COL_L0`, `DEPENDENT`. -/
def tmvpFlag : ℕ := 4
def mvdZeroFlag : ℕ := 8
def cabacFlag : ℕ := 16
def colL0Flag : ℕ := 32
def dependentFlag : ℕ := 512

/-- `motion_word(m)`. -/
def motionWord (m : MotionRow UInt64) : Except String ℕ :=
  if m.type = 2 then .ok 0x2d020000
  else do
    need (m.merge ≤ 4 ∧ m.l0Minus1 < 16 ∧ m.l1Minus1 < 16) "motion controls outside experiment domain"
    return 0x2d000000 ||| (5 - m.merge) * 2 |||
      ofCond (flagSet m.flags tmvpFlag ∧ ¬flagSet m.flags colL0Flag) * 0x10 |||
      ofCond (flagSet m.flags cabacFlag) * 0x20 ||| ofCond (¬flagSet m.flags mvdZeroFlag) * 0x40 |||
      m.l0Minus1 * 0x800 ||| m.l1Minus1 * 0x80 |||
      ofCond (flagSet m.flags (tmvpFlag ||| dependentFlag)) * 0x8000 |||
      ofCond (m.type = 1) * 0x10000 ||| m.valid * 0x40000

/-- The address of the motion vectors is emitted. -/
def Gated (m : MotionRow UInt64) : Prop :=
  ¬flagSet m.flags dependentFlag ∧ flagSet m.flags tmvpFlag ∧ m.first ≠ 0 ∧ m.buf.intra = 0

instance (m : MotionRow UInt64) : Decidable (Gated m) := inferInstanceAs (Decidable (_ ∧ _))

/-- The findings of a lookup beyond those of its buffer, with the slot that it should have found. -/
def lookupFindings (m : MotionRow UInt64) (t : TableRow UInt64) : List Finding :=
  let row : TraceRow UInt64 := .motion m
  checkValue row (m.matched = 1) "motion-lookup-fallback" ++
    checkValue row (m.requestedTimestamp = t.requestedTimestamp ∧
      t.requestedTimestamp = m.buf.timestamp) "motion-lookup-timestamp-mismatch" ++
    checkValue row (m.buf = t.buf) "motion-table-state-mismatch" ++
    checkValue row (m.valid = ofCond (Gated m) ∧ m.emitted = ofCond (Gated m))
      "motion-gate-mismatch" ++
    checkValue row (m.emittedMv = if m.emitted ≠ 0 then m.buf.mvOffset else 0)
      "motion-address-mismatch"

/-- The buffer of an I slice: every field is zero. -/
def BufferRow.zero : BufferRow UInt64 :=
  { buffer := 0, timestamp := 0, copied := 0, intra := 0, writer := 0, completed := 0
    allocation := 0, length := 0, compStart := 0, compSize := 0, off0 := 0, off1 := 0, off2 := 0
    off3 := 0, mvSize := 0, mvOffset := 0, bounds := 0, memory := 0 }

/-- The lookup of a slice that is no I slice. -/
def checkLookup (st : State) (start : StartRow UInt64) (table : List (TableRow UInt64))
    (m : MotionRow UInt64) : Except String (State × List Finding) := do
  need (m.lookup = 1 ∧ m.colIndex < 16) "non-I lookup omitted/invalid (including TMVP off)"
  let li := if start.type = 1 ∨ flagSet m.flags colL0Flag then 0 else 1
  let slot ← m.raw li m.colIndex
  let t ← found table[slot]? "collocated slot outside experiment domain"
  let (st', found₁) ← checkBuffer st start.mv (.motion m) m.buf false
  return (st', checkValue (.motion m : TraceRow UInt64) (m.slot = slot) "collocated-slot-mismatch" ++
    found₁ ++ lookupFindings m t)

/-- The motion reference: none for an I slice. -/
def checkMotion (st : State) (start : StartRow UInt64) (table : List (TableRow UInt64))
    (m : MotionRow UInt64) : Except String (State × List Finding) :=
  if start.type = 2 then do
    need (m.lookup = 0 ∧ m.matched = 0 ∧ m.valid = 0 ∧ m.emitted = 0 ∧ m.slot = 0 ∧
      m.requestedTimestamp = 0 ∧ m.emittedMv = 0 ∧ m.buf = BufferRow.zero)
      "I-slice lookup/address violates early return"
    return (st, [])
  else checkLookup st start table m

/-! ### The map of the same campaign -/

/-- `TYPES`. -/
def typeName (type : ℕ) : String := if type = 0 then "B" else if type = 1 then "P" else "I"

/-- The prediction of a picture. -/
def prediction (expected : List Mapped) (picture : ℕ) : Except String Mapped :=
  found expected[picture - 1]? "IndexError"

/-- A slot of the table is the predicted one. -/
def SlotPredicted (t : TableRow UInt64) (ref : Reference) : Prop :=
  t.slot = ref.slot ∧ t.poc = ref.writer.poc ∧ ((t.flags &&& 1 : ℕ) : ℤ) = ref.longTerm ∧
    (t.buf.buffer : ℤ) = ref.writer.buffer ∧ t.buf.writer = ref.writer.picture ∧
    t.buf.intra = ofCond (ref.writer.isIntra = true)

instance (t : TableRow UInt64) (ref : Reference) : Decidable (SlotPredicted t ref) :=
  inferInstanceAs (Decidable (_ ∧ _))

/-- The findings of the table against the prediction. -/
def predictedTable (start : StartRow UInt64) (table : List (TableRow UInt64)) (pred : Mapped) :
    List Finding :=
  if start.type = 2 then []
  else
    checkValue (.start start) (table.length = pred.dpb.length) "userspace-dpb-count-mismatch" ++
      (table.zip pred.dpb).flatMap fun p =>
        checkValue (.table p.1) (SlotPredicted p.1 p.2) "userspace-reference-mismatch"

/-- The findings of an active list against the prediction. -/
def predictedList (start : StartRow UInt64) (lists : List ListRow) (li : ℕ)
    (wanted : List ListEntry) : List Finding :=
  checkValue (.start start) (((lists.filter fun a => a.list = li).map fun a => ((a.slot : ℤ), a.word))
    = wanted.map fun w => (w.slot, w.word)) "userspace-list-mismatch"

/-- `compare_expected(start, table, lists, motion)`. -/
def compareExpected (expected : Option (List Mapped)) (start : StartRow UInt64)
    (table : List (TableRow UInt64)) (lists : List ListRow) (m : MotionRow UInt64) :
    Except String (List Finding) :=
  match expected with
  | none => .ok []
  | some expected => do
      let pred ← prediction expected start.picture
      return predictedTable start table pred ++ predictedList start lists 0 pred.l0 ++
        predictedList start lists 1 pred.l1 ++
        checkValue (.motion m : TraceRow UInt64)
          (m.word &&& pred.motion.word.knownMask = pred.motion.word.knownValue)
          "userspace-known-motion-bit-mismatch"

/-- The findings of a START against the prediction. -/
def predictedStart (expected : Option (List Mapped)) (start : StartRow UInt64) :
    Except String (List Finding) :=
  match expected with
  | none => .ok []
  | some expected => do
      let pred ← prediction expected start.picture
      return checkValue (.start start)
        (start.poc = pred.poc ∧ typeName start.type = pred.sliceType ∧
          (start.buf.buffer : ℤ) = pred.destination.buffer) "userspace-picture-mismatch"

/-! ### Groups -/

/-- The checks of the first and the last record of a group. -/
def checkShape (g : List (TraceRow UInt64)) (start : StartRow UInt64) (done : DoneRow UInt64) :
    Except String Unit := do
  need (∀ r ∈ g, r.picture = start.picture) "incomplete/mixed picture group"
  need (start.type ≤ 2 ∧ start.slices = 1 ∧ start.sliceEntries = 0 ∧ 1 ≤ start.entryCapacity ∧
    start.entryCapacity ≤ 256 ∧ start.dpbCount ≤ 16) "unsupported slice/extent"
  need (0 < start.width ∧ start.width ≤ 16384 ∧ 0 < start.height ∧ start.height ≤ 16384)
    "invalid negotiated dimensions"
  need (start.buf.writer = start.picture ∧ start.buf.completed = 0 ∧ done.result = 5 ∧
    done.buf.completed = 1) "invalid start/completion state"
  need ({ start.buf with completed := done.buf.completed } = done.buf)
    "destination changed before completion"

/-- The findings of a START beyond those of its buffer. -/
def startFindings (st : State) (start : StartRow UInt64) : List Finding :=
  checkValue (.start start) (start.previousWriter =
      (st.histories.get? (start.buf.buffer, start.buf.allocation)).getD 0)
      "destination-previous-writer-mismatch" ++
    checkValue (.start start) (start.buf.intra = ofCond (start.type = 2)) "destination-intra-mismatch"

/-- `detail`: the pictures whose commands are recorded. -/
def Detail (picture : ℕ) : Prop := 24 ≤ picture ∧ picture ≤ 34

instance (picture : ℕ) : Decidable (Detail picture) := inferInstanceAs (Decidable (_ ∧ _))

/-- The records of a group are there, in order. -/
def checkOrder (g : List (TraceRow UInt64)) (start : StartRow UInt64)
    (table lists motion : ℕ) : Except String Unit := do
  need (motion = ofCond (Detail start.picture)) "missing/duplicate motion record"
  need (table = if Detail start.picture ∧ start.type ≠ 2 then start.dpbCount else 0)
    "missing/extra table records"
  need (g.map TraceRow.kind = [1] ++ List.replicate table 3 ++ List.replicate lists 4 ++
    List.replicate motion 5 ++ [2]) "unexpected emission ordering"

/-- What the motion record of a group has to be. -/
def needMotion (start : StartRow UInt64) (m : MotionRow UInt64) : Except String Unit := do
  need (m.type = start.type ∧ m.first = 1) "missing/invalid slice inputs"
  need (∀ x ∈ [m.lookup, m.matched, m.valid, m.emitted], x = 0 ∨ x = 1) "invalid motion boolean"
  need (∀ i, m.l0 i ≤ 255 ∧ m.l1 i ≤ 255) "invalid raw reference byte"

/-- The commands of a picture. -/
def checkDetail (expected : Option (List Mapped)) (st : State) (start : StartRow UInt64)
    (table : List (TableRow UInt64)) (lists : List ListRow) (m : MotionRow UInt64) :
    Except String (State × List Finding) := do
  needMotion start m
  let (st₁, found₁) ← checkTable start st 0 table
  let wanted ← expectedLists start m table.length
  need (lists.length = wanted.length) "missing/extra list records"
  let found₂ ← checkLists lists wanted
  let (st₂, found₃) ← checkMotion st₁ start table m
  let word ← motionWord m
  let found₄ ← compareExpected expected start table lists m
  return (st₂, found₁ ++ found₂ ++ found₃ ++
    checkValue (.motion m : TraceRow UInt64) (m.word = word) "full-motion-word-mismatch" ++
    checkValue (.start start) (start.slicePoc = start.poc) "slice-decode-poc-difference" ++ found₄)

/-- The commands of a picture, if they are recorded. -/
def checkCommands (expected : Option (List Mapped)) (st : State) (start : StartRow UInt64)
    (table : List (TableRow UInt64)) (lists : List ListRow) (motion : List (MotionRow UInt64)) :
    Except String (State × List Finding) :=
  if Detail start.picture then do
    let m ← found motion.head? "IndexError"
    checkDetail expected st start table lists m
  else do
    need (lists = []) "command records outside window"
    return (st, [])

/-- The checks of a group with its first and its last record. -/
def checkPicture (expected : Option (List Mapped)) (st : State) (g : List (TraceRow UInt64))
    (start : StartRow UInt64) (done : DoneRow UInt64) : Except String (State × List Finding) := do
  checkShape g start done
  let found₁ ← predictedStart expected start
  let (st₁, found₂) ← checkBuffer (st.begin start) start.mv (.start start) start.buf true
  let table := g.filterMap TraceRow.table?
  let lists := g.filterMap TraceRow.list?
  let motion := g.filterMap TraceRow.motion?
  checkOrder g start table.length lists.length motion.length
  let (st₂, found₃) ← checkCommands expected st₁ start table lists motion
  return (st₂, startFindings st start ++ found₁ ++ found₂ ++ found₃)

/-- `check_group(g)`. -/
def checkGroup (expected : Option (List Mapped)) (st : State) (g : List (TraceRow UInt64)) :
    Except String (State × List Finding) :=
  match g.head?, g.getLast? with
  | some (.start start), some (.done done) => checkPicture expected st g start done
  | _, _ => .error "incomplete/mixed picture group"

/-! ### Resolved timestamps -/

/-- `field_writer` and `field_writer_candidates` of a timestamp field. -/
structure Resolved where
  writer : Option ℕ
  candidates : List ℕ
  deriving DecidableEq, Repr

/-- The pictures that hold a timestamp, in order. -/
def candidatesOf (currentWriters : Dict ℕ (StartRow UInt64)) (stamp : UInt64) : List ℕ :=
  ((currentWriters.values.filter fun s => s.buf.timestamp = stamp).map
    StartRow.picture).insertionSort (· ≤ ·)

/-- A timestamp as the writer it resolves to; a record without a buffer has no candidates. -/
def resolve (currentWriters : Dict ℕ (StartRow UInt64)) (hasBuffer : Bool) (stamp : UInt64) :
    Resolved :=
  let candidates := if hasBuffer then candidatesOf currentWriters stamp else []
  { writer := if candidates.length = 1 then candidates.head? else none, candidates }

/-- `record['kind'] != 5 or record['lookup']`. -/
def hasBuffer : TraceRow UInt64 → Bool
  | .motion m => m.lookup ≠ 0
  | _ => true

/-- A timestamp of a record resolves to at most one writer. -/
def ambiguousFindings (row : TraceRow UInt64) (name : String) (r : Resolved) : List Finding :=
  checkValue row (r.candidates.length ≤ 1) (name ++ "-ambiguous-current-writers")

/-- The findings of the timestamps of a record. -/
def stampFindings (row : TraceRow UInt64) : TraceRow Resolved → List Finding
  | .start s => ambiguousFindings row "timestamp" s.buf.timestamp
  | .done d => ambiguousFindings row "timestamp" d.buf.timestamp
  | .table t => ambiguousFindings row "timestamp" t.buf.timestamp ++
      ambiguousFindings row "requested_timestamp" t.requestedTimestamp
  | .list _ => []
  | .motion m => ambiguousFindings row "timestamp" m.buf.timestamp ++
      ambiguousFindings row "requested_timestamp" m.requestedTimestamp

/-- A record with the writers that its timestamps resolve to. -/
def normalizeRow (currentWriters : Dict ℕ (StartRow UInt64)) (row : TraceRow UInt64) :
    TraceRow Resolved := row.map (resolve currentWriters (hasBuffer row))

/-- The findings of the timestamps of a group. -/
def groupStampFindings (currentWriters : Dict ℕ (StartRow UInt64)) (g : List (TraceRow UInt64)) :
    List Finding :=
  g.flatMap fun row => stampFindings row (normalizeRow currentWriters row)

/-! ### The loop -/

/-- A record belongs to the open group, or opens the next one. -/
def checkPosition (group : List (TraceRow UInt64)) (next : ℕ) (row : TraceRow UInt64) :
    Except String Unit :=
  if row.kind = 1 then
    need (group = [] ∧ row.picture = next) "missing/duplicate/out-of-order picture"
  else need (group ≠ []) "record outside picture"

/-- The findings and the normalized records of the records from one on; the open group, and the
number of the next picture. -/
def validateLoop (expected : Option (List Mapped)) :
    State → List (TraceRow UInt64) → ℕ → List (TraceRow UInt64) →
      Except String (List Finding × List (TraceRow Resolved))
  | _, group, next, [] => do
      need (group = [] ∧ next = 301) "missing final completion"
      return ([], [])
  | st, group, next, row :: rest => do
      checkPosition group next row
      if row.kind = 2 then do
        let (st', found₁) ← checkGroup expected st (group ++ [row])
        let (found₂, more) ← validateLoop expected st' [] (next + 1) rest
        return (found₁ ++ groupStampFindings st'.currentWriters (group ++ [row]) ++ found₂,
          (group ++ [row]).map (normalizeRow st'.currentWriters) ++ more)
      else validateLoop expected st (group ++ [row]) next rest

/-- A capture. -/
structure TraceCapture where
  run : ℕ
  context : ℕ
  records : List (TraceRow UInt64)

/-- What `validate` returns. -/
structure Validated where
  schema : String := "hevc-avd-trace.normalized/3"
  run : ℕ
  context : ℕ
  structuralValidation : String := "passed"
  userspaceCorrelated : Bool
  findings : List Finding
  records : List (TraceRow Resolved)
  limitations : List String :=
    ["No pixel, firmware, boot or stability conclusion.",
      "Allocation identities are vb2 attachment lifetimes, not proof of physical contents.",
      "Matching commands do not exhaust decoder controls or firmware state."]
  deriving DecidableEq

/-- `need(len(expected) == PICTURES)`, if there is a map. -/
def needExpected : Option (List Mapped) → Except String Unit
  | none => .ok ()
  | some expected => need (expected.length = 300) "incomplete userspace oracle"

/-- `validate(capture, expected)`. -/
def validate (c : TraceCapture) (expected : Option (List Mapped)) : Except String Validated := do
  needExpected expected
  let (findings, records) ← validateLoop expected {} [] 1 c.records
  return { run := c.run, context := c.context, userspaceCorrelated := expected.isSome
           findings, records }

/-! ### A capture -/

/-- The buffer of a picture: two buffers take turns. -/
def sampleBuffer (n intra completed : ℕ) : BufferRow UInt64 :=
  { buffer := n % 2, timestamp := UInt64.ofNat n, copied := 1, intra, writer := n, completed
    allocation := n % 2 + 1, length := 4096, compStart := 0, compSize := 1024, off0 := 0, off1 := 0
    off2 := 0, off3 := 0, mvSize := 256, mvOffset := 3840, bounds := 1, memory := 1 }

/-- The commands of a picture: picture 25 refers to picture 24, and the others are I slices. -/
def sampleCommands (n : ℕ) : List (TraceRow UInt64) :=
  if n = 25 then
    [.table { picture := n, slot := 0, poc := 24, flags := 0, requestedTimestamp := 24
              word := 0x1000001, matched := 1, buf := sampleBuffer 24 1 1, emittedComp0 := 0
              emittedComp1 := 0, emittedComp2 := 0, emittedComp3 := 0 },
      .list { picture := n, list := 0, position := 0, slot := 0, word := 0x2dc00000 },
      .motion { picture := n, flags := 0, type := 1, merge := 0, l0Minus1 := 0, l1Minus1 := 0
                colIndex := 0, first := 1, slot := 0, requestedTimestamp := 24, lookup := 1
                matched := 1, valid := 0, word := 0x2d01004a, emitted := 0
                buf := sampleBuffer 24 1 1, l0 := fun _ => 0, l1 := fun _ => 0, emittedMv := 0
                quirks := 0 }]
  else if Detail n then
    [.motion { picture := n, flags := 0, type := 2, merge := 0, l0Minus1 := 0, l1Minus1 := 0
               colIndex := 0, first := 1, slot := 0, requestedTimestamp := 0, lookup := 0
               matched := 0, valid := 0, word := 0x2d020000, emitted := 0, buf := BufferRow.zero
               l0 := fun _ => 0, l1 := fun _ => 0, emittedMv := 0, quirks := 0 }]
  else []

def samplePicture (n : ℕ) : List (TraceRow UInt64) :=
  let intra := if n = 25 then 0 else 1
  [.start { picture := n, previousWriter := n - 2, poc := n, slicePoc := n
            type := if n = 25 then 1 else 2, slices := 1, entryCapacity := 1
            dpbCount := if n = 25 then 1 else 0, width := 64, height := 64
            buf := sampleBuffer n intra 0, sliceEntries := 0 }] ++
    sampleCommands n ++ [.done { picture := n, result := 5, buf := sampleBuffer n intra 1 }]

/-- A capture without findings. -/
def sample : TraceCapture :=
  { run := 1, context := 1, records := (List.range 300).flatMap fun n => samplePicture (n + 1) }

lemma sample_validated : ∃ result, validate sample none = .ok result ∧ result.findings = [] := by
  have hcheck : ((validate sample none).toOption.any fun r => decide (r.findings = [])) = true := by
    decide +kernel
  obtain ⟨result, h, hfindings⟩ := ok_of_any hcheck
  exact ⟨result, h, of_decide_eq_true hfindings⟩

end OmarchyM1Video.TraceCheck
