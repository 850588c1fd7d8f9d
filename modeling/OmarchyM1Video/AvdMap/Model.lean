import Mathlib.Data.Int.Notation
import OmarchyM1Video.Py.Dict
import OmarchyM1Video.Py.Exec

/-!
The predicted reference map of a decode, `map_records` of `experiments/hevc-avd-map/model.py`.

The records of a decode come in order, one for each picture.  The map keeps the last writer of every
buffer and how often it has been written, and reports for each picture what its references and its
command words are expected to be.  A word is kept as a number; the source spells it in hexadecimal.

* `Record`, `SliceRecord`, `DpbEntry`: what is mapped;
* `Writer`, `Reference`, `Mapped`: what is reported;
* `word`, `refHeader`, `refListWord`, `motion`: the command words;
* `mapRecords`: the map.
-/

namespace OmarchyM1Video.AvdMap

open OmarchyM1Video.Py

/-! ### What is mapped -/

/-- An entry of the DPB. -/
structure DpbEntry where
  i : ℤ
  buf : ℤ
  poc : ℤ
  lt : ℤ
  field : ℤ
  deriving DecidableEq, Repr

/-- A slice; the collocated reference may be missing. -/
structure SliceRecord where
  i : ℤ
  type : String
  nal : ℤ
  tmvp : ℤ
  l0 : List ℤ
  l1 : List ℤ
  colL0 : Option ℤ := none
  col : Option ℤ := none
  deriving DecidableEq, Repr

/-- A picture. -/
structure Record where
  schema : String
  run : String
  ctx : ℤ
  seq : ℤ
  pic : ℤ
  req : ℤ
  first : ℤ
  last : ℤ
  slicesOmitted : ℤ := 0
  target : ℤ
  poc : ℤ
  dpb : List DpbEntry
  slices : List SliceRecord
  stBefore : List ℤ
  stAfter : List ℤ
  ltCurr : List ℤ
  deriving DecidableEq, Repr

/-! ### Command words -/

/-- `integer(value, low, high)`. -/
def integer (value low high : ℤ) : Except String ℤ := do
  need (low ≤ value ∧ value ≤ high) "invalid integer/range"
  return value

/-- A predicted command word: the bits that are known, and the inputs that are not. -/
structure Word where
  knownMask : ℕ
  knownValue : ℕ
  value : Option ℕ
  unknownInputs : List String
  deriving DecidableEq, Repr

/-- The known bits, the unknown bits and the unknown inputs of fields. -/
def wordBits : List (String × ℕ × Option ℕ) → Except String (ℕ × ℕ × List String)
  | [] => .ok (0, 0, [])
  | (name, mask, none) :: fields => do
      let (value, unknown, missing) ← wordBits fields
      return (value, unknown ||| mask, name :: missing)
  | (_, mask, some bits) :: fields => do
      need (bits &&& mask = bits) "word field outside mask"
      let (value, unknown, missing) ← wordBits fields
      return (value ||| bits, unknown, missing)

/-- `word(fields)`. -/
def word (fields : List (String × ℕ × Option ℕ)) : Except String Word := do
  let (value, unknown, missing) ← wordBits fields
  let unknown := unknown ^^^ (unknown &&& value)
  return { knownMask := 0xffffffff ^^^ unknown, knownValue := value
           value := if unknown = 0 then some value else none, unknownInputs := missing }

/-- The difference of two picture order counts in a header, if both are given. -/
def pocDelta : Option (ℤ × ℤ) → Except String (Option ℕ)
  | none => .ok none
  | some (slicePoc, referencePoc) => do
      let slicePoc ← integer slicePoc (-0x80000000) 0x7FFFFFFF
      let referencePoc ← integer referencePoc (-0x80000000) 0x7FFFFFFF
      let delta ← integer (slicePoc - referencePoc) (-0x80000000) 0x7FFFFFFF
      return some (delta % 0x20000).toNat

/-- `ref_header(count, long_term, slice_poc, reference_poc)`. -/
def refHeader (count longTerm : ℤ) (pocs : Option (ℤ × ℤ)) : Except String Word := do
  let count ← integer count 1 16
  let longTerm ← integer longTerm 0 1
  let delta ← pocDelta pocs
  word [("count_minus_one", 0xf0000000, some ((count - 1).toNat * 0x10000000)),
    ("constant", 0x1000000, some 0x1000000),
    ("long_term", 0x20000, some (longTerm.toNat * 0x20000)),
    ("slice_pic_order_cnt", 0x1ffff, delta)]

/-- `ref_list_word(which, position, slot)`. -/
def refListWord (which position slot : ℤ) : Except String ℕ := do
  let which ← integer which 0 1
  let position ← integer position 0 15
  let slot ← integer slot 0 15
  return 0x2dc00000 ||| which.toNat * 0x100 ||| position.toNat * 0x10 ||| slot.toNat

/-! ### What is reported -/

/-- A picture as the writer of its buffer. -/
structure Writer where
  picture : ℕ
  poc : ℤ
  buffer : ℤ
  generation : ℕ
  isIntra : Bool
  deriving DecidableEq, Repr

/-- A slot of the DPB. -/
structure Reference where
  slot : ℕ
  writer : Writer
  longTerm : ℤ
  header : Word
  headerIfSlicePocEqualsDecodePoc : Option ℕ
  compressedBuffer : ℤ
  deriving DecidableEq, Repr

/-- An entry of a reference list. -/
structure ListEntry where
  position : ℕ
  slot : ℤ
  word : ℕ
  writer : Writer
  deriving DecidableEq, Repr

/-- The motion reference of a picture. -/
structure Motion where
  lookup : String
  collocated : Option Writer
  expectedRefValid : Option Bool
  gateReason : Option String
  addressEmission : String
  word : Word
  deriving DecidableEq, Repr

/-- What is reported of a picture. -/
structure Mapped where
  picture : ℕ
  poc : ℤ
  sliceType : String
  nal : ℤ
  destination : Writer
  previousDestinationWriter : Option Writer
  dpb : List Reference
  referenceTableEmitted : Bool
  l0 : List ListEntry
  l1 : List ListEntry
  motion : Motion
  deriving DecidableEq, Repr

/-! ### The motion reference -/

/-- `xs[i]` at an index that has been checked. -/
def itemAt {α : Type} (xs : List α) (i : ℤ) : Except String α := found xs[i.toNat]? "IndexError"

/-- The slot of the collocated reference, and its writer. -/
def collocated (s : SliceRecord) (refs : List Reference) : Except String Writer := do
  let colL0 ← found s.colL0 "KeyError"
  let col ← found s.col "KeyError"
  let selected := if s.type = "P" ∨ colL0 ≠ 0 then s.l0 else s.l1
  let index ← integer col 0 (selected.length - 1)
  let slot ← itemAt selected index
  let reference ← itemAt refs slot
  return reference.writer

/-- The fields of the motion word; `refValid` is none where it is not known. -/
def motionFields (s : SliceRecord) (refValid : Option Bool) : List (String × ℕ × Option ℕ) :=
  [("opcode", 0xff000000, some 0x2d000000),
    ("five_minus_max_num_merge_cand", 0xe, none),
    ("col_from_l1_flag", 0x10, some (if s.tmvp ≠ 0 ∧ s.colL0.getD 0 = 0 then 0x10 else 0)),
    ("CABAC_INIT", 0x20, none),
    ("MVD_L1_ZERO", 0x40, none),
    ("num_ref_idx_l0_active_minus1", 0xf800, some ((s.l0.length - 1) * 0x800)),
    ("num_ref_idx_l1_active_minus1", 0x780,
      if s.type = "B" then some ((s.l1.length - 1) * 0x80) else none),
    ("DEPENDENT_SLICE_SEGMENT/FLAG2", 0x8000, if s.tmvp ≠ 0 then some 0x8000 else none),
    ("P-slice", 0x10000, some (if s.type = "P" then 0x10000 else 0)),
    ("ref_valid", 0x40000, refValid.map fun valid => if valid then 0x40000 else 0)]

/-- The motion reference of a slice that is no I slice. -/
def interMotion (s : SliceRecord) (col : Option Writer) : Except String Motion := do
  let intra := col.elim false Writer.isIntra
  let refValid := if s.tmvp = 0 ∨ intra = true then some false else none
  let word ← word (motionFields s refValid)
  return {
    lookup := if s.tmvp ≠ 0 then "unobserved; expected writer from submitted trace"
      else "unavailable: raw inactive collocated fields not recorded"
    collocated := col
    expectedRefValid := refValid
    gateReason := some (if s.tmvp = 0 then "TMVP disabled"
      else if intra then "expected referenced writer is intra"
      else "dependent-segment flag is unrecorded")
    addressEmission := if refValid = some false then "absent" else "unknown: dependent-segment flag"
    word }

/-- The collocated writer, if there is one. -/
def collocated? (s : SliceRecord) (refs : List Reference) : Except String (Option Writer) :=
  if s.tmvp = 0 then .ok none else (collocated s refs).map some

/-- `motion(slice_, refs)`; what the address would be is said by the collocated writer. -/
def motion (s : SliceRecord) (refs : List Reference) : Except String Motion :=
  if s.type = "I" then do
    let word ← word [("I early return", 0xffffffff, some 0x2d020000)]
    return { lookup := "skipped: I-slice early return", collocated := none,
             expectedRefValid := some false, gateReason := none, addressEmission := "absent", word }
  else do
    let col ← collocated? s refs
    interMotion s col

/-! ### The map -/

/-- The history of the pictures so far. -/
structure State where
  writers : Dict ℤ Writer := ∅
  generations : Dict ℤ ℕ := ∅
  pocs : List ℤ := []

/-- `SCHEMA`. -/
def schema : String := "libva-v4l2request.hevc-refs/1"

/-- An entry of the DPB of a picture. -/
def mapEntry (writers : Dict ℤ Writer) (r : Record) (seen : List ℤ) (slot : ℕ) (e : DpbEntry) :
    Except String Reference := do
  need (e.i = slot ∧ e.field = 0) "unsupported DPB layout/field"
  let lt ← integer e.lt 0 1
  need (e.buf ≠ r.target ∧ e.buf ∉ seen) "destination/duplicate DPB alias"
  let previous ← found (writers.get? e.buf) "unresolved/stale buffer writer"
  need (previous.poc = e.poc) "unresolved/stale buffer writer"
  let header ← refHeader r.dpb.length e.lt none
  let full ← refHeader r.dpb.length e.lt (some (r.poc, e.poc))
  return { slot, writer := previous, longTerm := lt, header
           headerIfSlicePocEqualsDecodePoc := full.value, compressedBuffer := e.buf }

/-- The entries of the DPB, from a slot on, with the buffers before it. -/
def mapDpb (writers : Dict ℤ Writer) (r : Record) :
    List ℤ → ℕ → List DpbEntry → Except String (List Reference)
  | _, _, [] => .ok []
  | seen, slot, e :: rest => do
      let reference ← mapEntry writers r seen slot e
      let more ← mapDpb writers r (e.buf :: seen) (slot + 1) rest
      return reference :: more

/-- An entry of a reference list. -/
def mapListEntry (refs : List Reference) (li position : ℕ) (slot : ℤ) : Except String ListEntry := do
  let slot ← integer slot 0 (refs.length - 1)
  let word ← refListWord li position slot
  let reference ← itemAt refs slot
  return { position, slot, word, writer := reference.writer }

/-- A reference list. -/
def mapList (refs : List Reference) (li : ℕ) (slots : List ℤ) : Except String (List ListEntry) := do
  need (slots.length ≤ 16) "oversized active list"
  slots.zipIdx.mapM fun p => mapListEntry refs li p.2 p.1

/-- The indices of the current references are in the DPB. -/
def checkIndices (n : ℕ) (indices : List ℤ) : Except String Unit :=
  indices.forM fun i => do
    let _ ← integer i 0 (n - 1)

/-- The checks of a record before its DPB is read; what is returned is its only slice. -/
def checkRecord (st : State) (context : ℤ) (run : String) (ordinal : ℕ) (r : Record) :
    Except String SliceRecord := do
  need (r.schema = schema) "unsupported schema"
  need (r.ctx = context ∧ r.run = run) "mixed context/run"
  [r.seq, r.pic, r.req].forM fun v => do
    let n ← integer v 1 10000
    need (n = ordinal) "incomplete or reordered picture"
  need (r.first = r.last ∧ r.last = 1 ∧ r.slicesOmitted = 0) "batched/omitted picture"
  let _ ← integer r.poc (-0x80000000) 0x7FFFFFFF
  need (r.poc ∉ st.pocs) "repeated POC/epoch outside model domain"
  let _ ← integer r.target 0 0xFFFFFFFF
  need (r.slices.length = 1) "model requires exactly one slice"
  let s ← found r.slices.head? "IndexError"
  need (s.i = 0 ∧ (s.type = "I" ∨ s.type = "P" ∨ s.type = "B")) "unsupported slice"
  let _ ← integer s.tmvp 0 1
  need (r.dpb.length ≤ 16) "oversized DPB"
  return s

/-- The checks of the collocated reference. -/
def checkCollocated (s : SliceRecord) : Except String Unit :=
  if s.tmvp = 0 then .ok ()
  else do
    let colL0 ← found s.colL0 "KeyError"
    let _ ← integer colL0 0 1
    let col ← found s.col "KeyError"
    let _ ← integer col 0 255

/-- The picture as a writer. -/
def State.current (st : State) (ordinal : ℕ) (r : Record) (s : SliceRecord) : Writer :=
  { picture := ordinal, poc := r.poc, buffer := r.target
    generation := (st.generations.get? r.target).getD 0 + 1, isIntra := s.type = "I" }

/-- The history after a picture. -/
def State.next (st : State) (ordinal : ℕ) (r : Record) (s : SliceRecord) : State :=
  { writers := st.writers.set r.target (st.current ordinal r s)
    generations := st.generations.set r.target ((st.generations.get? r.target).getD 0 + 1)
    pocs := r.poc :: st.pocs }

/-- One iteration of the loop of `map_records`. -/
def mapRecord (st : State) (context : ℤ) (run : String) (ordinal : ℕ) (r : Record) :
    Except String (Mapped × State) := do
  let s ← checkRecord st context run ordinal r
  let refs ← mapDpb st.writers r [] 0 r.dpb
  checkIndices refs.length (r.stBefore ++ r.stAfter ++ r.ltCurr)
  let l0 ← mapList refs 0 s.l0
  let l1 ← mapList refs 1 s.l1
  need ((s.type = "I" ∧ s.l0 = [] ∧ s.l1 = []) ∨ (s.type = "P" ∧ s.l0 ≠ [] ∧ s.l1 = []) ∨
    (s.type = "B" ∧ s.l0 ≠ [] ∧ s.l1 ≠ [])) "slice/list mismatch"
  checkCollocated s
  let motion ← motion s refs
  return (
    { picture := ordinal, poc := r.poc, sliceType := s.type, nal := s.nal
      destination := st.current ordinal r s
      previousDestinationWriter := st.writers.get? r.target
      dpb := refs, referenceTableEmitted := s.type ≠ "I", l0, l1, motion },
    st.next ordinal r s)

/-- The loop of `map_records`. -/
def mapLoop (context : ℤ) (run : String) : State → ℕ → List Record → Except String (List Mapped)
  | _, _, [] => .ok []
  | st, ordinal, r :: rest => do
      let (mapped, st') ← mapRecord st context run ordinal r
      let more ← mapLoop context run st' (ordinal + 1) rest
      return mapped :: more

/-- `map_records(records, expected)`: the first record gives the context and the run. -/
def mapRecords (records : List Record) (expected : ℤ) : Except String (List Mapped) := do
  let _ ← integer expected 1 10000
  need ((records.length : ℤ) = expected) "incomplete extent"
  let first ← found records.head? "IndexError"
  mapLoop first.ctx first.run {} 1 records

end OmarchyM1Video.AvdMap
