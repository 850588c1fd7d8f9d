import OmarchyM1Video.HevcControls.Scan

/-!
The record loop of `normalize` in `experiments/hevc-controls/normalize.py`.

The pictures are taken in the order of their requests.  A reference is found by its timestamp among
all pictures; it must have been requested earlier, and the buffer it was decoded into must not have
been written again (`lastWriter`).

* `DpbEntry`, `SliceRecord`, `Record`, `Association`: what the adapter returns;
* `readDpb`, `readRefs`, `readSlice`, `readPicture`: one record;
* `recordLoop`, `normalizeWith`, `normalize`: all records.
-/

namespace OmarchyM1Video.HevcControls

open OmarchyM1Video.Py

/-! ### Records -/

structure DpbEntry where
  i : ℕ
  buf : ℤ
  poc : ℤ
  lt : ℤ
  field : ℤ
  deriving DecidableEq, Repr

/-- The slice of a picture; the collocated reference is there with `tmvp` only. -/
structure SliceRecord where
  i : ℕ
  type : String
  nal : ℤ
  l0 : List ℤ
  l1 : List ℤ
  tmvp : ℤ
  col : Option (ℤ × ℤ)
  deriving DecidableEq, Repr

structure Record where
  schema : String := "libva-v4l2request.hevc-refs/1"
  run : String
  seq : ℕ
  ctx : ℕ := 1
  vaContext : String := "direct-v4l2"
  pic : ℕ
  req : ℕ
  first : ℕ := 1
  last : ℕ := 1
  target : ℤ
  poc : ℤ
  irap : ℤ
  idr : ℤ
  ltrSps : ℤ
  reorder : ℕ := 0
  totalCurr : ℕ
  dpb : List DpbEntry
  slices : List SliceRecord
  stBefore : List ℤ
  stAfter : List ℤ
  ltCurr : List ℤ
  deriving DecidableEq, Repr

structure Association where
  pic : ℕ
  poc : ℤ
  systemFrameNumber : ℤ
  deriving DecidableEq, Repr

/-- `int(condition)`. -/
def ofBool (b : Bool) : ℤ := if b then 1 else 0

/-- `-(2**31)`. -/
def pocMin : ℤ := -0x80000000

/-- `2**31 - 1`. -/
def pocMax : ℤ := 0x7FFFFFFF

/-- `SPS_FLAGS`. -/
def spsFlags : List String :=
  ["SEPARATE_COLOUR_PLANE", "SCALING_LIST_ENABLED", "AMP_ENABLED", "SAMPLE_ADAPTIVE_OFFSET",
    "PCM_ENABLED", "PCM_LOOP_FILTER_DISABLED", "LONG_TERM_REF_PICS_PRESENT",
    "SPS_TEMPORAL_MVP_ENABLED", "STRONG_INTRA_SMOOTHING_ENABLED"]

/-- `SLICE_FLAGS`. -/
def sliceFlags : List String :=
  ["SLICE_SAO_LUMA", "SLICE_SAO_CHROMA", "SLICE_TEMPORAL_MVP_ENABLED", "MVD_L1_ZERO", "CABAC_INIT",
    "COLLOCATED_FROM_L0", "USE_INTEGER_MV", "SLICE_DEBLOCKING_FILTER_DISABLED",
    "SLICE_LOOP_FILTER_ACROSS_SLICES_ENABLED", "DEPENDENT_SLICE_SEGMENT"]

/-- A list of 16 values, with the message of the check. -/
def readArray (v : Json) (message : String) : Read (List Json) :=
  match v with
  | .arr xs => do
      need (xs.length = 16) (reject message)
      return xs
  | _ => .error (reject message)

/-! ### References -/

section Picture

variable (s : Ledger) (lastWriter : Dict ℤ ℕ) (req : Req)

/-- One entry of the DPB: its timestamp names an earlier picture, whose buffer still holds it. -/
def readEntry (slot : ℕ) (ent : Json) : Read DpbEntry := do
  let ts ← integer (← ent.item "timestamp") 0 u64Max
  let id ← found (s.byTimestamp.get? ts) (reject "unresolved/future/self reference")
  let ref := s.objects id
  let refPic ← found ref.pic (.builtin .keyError)
  let pic ← found req.pic (.builtin .keyError)
  need (refPic < pic) (reject "unresolved/future/self reference")
  let target ← found ref.target (.builtin .keyError)
  let own ← found req.target (.builtin .keyError)
  need (lastWriter.get? target = some refPic ∧ target ≠ own)
    (reject "reference aliases a reused/destination capture buffer")
  let rpoc ← integer (← ent.item "pic_order_cnt_val") pocMin pocMax
  let refDp ← found ref.dp (.builtin .keyError)
  let refPoc ← refDp.item "pic_order_cnt_val"
  need (refPoc.eqInt rpoc) (reject "reference POC mismatch")
  -- The pinned tracer decodes the DPB flags with the PPS flag table.
  let ef ← flags (← ent.item "flags") "V4L2_HEVC_PPS_FLAG_" ["DEPENDENT_SLICE_SEGMENT_ENABLED"]
  let field ← integer (← ent.item "field_pic") 0 1
  return { i := slot, buf := target, poc := rpoc, lt := ofBool (!ef.isEmpty), field }

/-- The entries of the DPB, from a slot on. -/
def readDpb : ℕ → List Json → Read (List DpbEntry)
  | _, [] => .ok []
  | slot, ent :: rest => do
      let entry ← readEntry s lastWriter req slot ent
      let more ← readDpb (slot + 1) rest
      return entry :: more

end Picture

/-- `[integer(v, high=n - 1) for v in values]`. -/
def readIndices (n : ℤ) : List Json → Read (List ℤ)
  | [] => .ok []
  | v :: rest => do
      let i ← integer v 0 (n - 1)
      let more ← readIndices n rest
      return i :: more

/-- A value of a reference array. -/
def isByte : Json → Bool
  | .int n => decide (0 ≤ n ∧ n ≤ 255)
  | _ => false

/-- `refs(array, count)` in a picture with `n` DPB entries. -/
def readRefs (n : ℤ) (array : Json) (count : ℤ) : Read (List ℤ) := do
  let xs ← readArray array "incomplete reference array"
  need (xs.all isByte) (reject "invalid reference array")
  readIndices n (xs.take count.toNat)

/-- One of the three lists of current references. -/
def readCurrent (n : ℤ) (dp : Json) (suffix : String) : Read (List ℤ) := do
  let count ← integer (← dp.item ("num_poc_" ++ suffix)) 0 16
  readRefs n (← dp.item ("poc_" ++ suffix)) count

/-- The collocated reference of a slice with `tmvp`. -/
def readCollocated (sl : Json) (lf : List String) (typ : ℤ) (l0 l1 : List ℤ) :
    Read (Option (ℤ × ℤ)) :=
  if "SLICE_TEMPORAL_MVP_ENABLED" ∈ lf then do
    let colL0 := ofBool (decide ("COLLOCATED_FROM_L0" ∈ lf))
    let col ← integer (← sl.item "collocated_ref_idx") 0 255
    let selected := if typ = 1 ∨ colL0 = 1 then l0 else l1
    -- I slices can carry the flag, but do not use a collocated picture.
    need (typ = 2 ∨ col < selected.length) (reject "unresolved collocated reference")
    return some (colL0, col)
  else .ok none

/-- The number of active references of a list, if the slice type has it. -/
def activeCount (sl : Json) (key : String) (present : Bool) : Read ℤ :=
  if present then do
    let n ← integer (← sl.item key) 0 15
    return n + 1
  else .ok 0

/-- The slice of a picture with `n` DPB entries. -/
def readSlice (n : ℤ) (sl : Json) (lf : List String) : Read SliceRecord := do
  let typ ← integer (← sl.item "slice_type") 0 2
  let n0 ← activeCount sl "num_ref_idx_l0_active_minus1" (typ ≠ 2)
  let n1 ← activeCount sl "num_ref_idx_l1_active_minus1" (typ = 0)
  let nal ← integer (← sl.item "nal_unit_type") 0 63
  let l0 ← readRefs n (← sl.item "ref_idx_l0") n0
  let l1 ← readRefs n (← sl.item "ref_idx_l1") n1
  let col ← readCollocated sl lf typ l0 l1
  return {
    i := 0
    type := if typ = 0 then "B" else if typ = 1 then "P" else "I"
    nal
    l0
    l1
    tmvp := ofBool (decide ("SLICE_TEMPORAL_MVP_ENABLED" ∈ lf))
    col }

/-- One iteration of the record loop. -/
def readPicture (s : Ledger) (run : String) (lastWriter : Dict ℤ ℕ) (req : Req) :
    Read (Record × Association) := do
  let dp ← found req.dp (.builtin .keyError)
  let sl ← found req.sl (.builtin .keyError)
  let sps ← found req.sps (.builtin .keyError)
  let sf ← flags (← sps.item "flags") "V4L2_HEVC_SPS_FLAG_" spsFlags
  let df ← flags (← dp.item "flags") "V4L2_HEVC_DECODE_PARAM_FLAG_"
    ["IRAP_PIC", "IDR_PIC", "NO_OUTPUT_OF_PRIOR"]
  let lf ← flags (← sl.item "flags") "V4L2_HEVC_SLICE_PARAMS_FLAG_" sliceFlags
  let pic ← found req.pic (.builtin .keyError)
  let poc ← integer (← dp.item "pic_order_cnt_val") pocMin pocMax
  let entries ← readArray (← dp.item "dpb") "incomplete DPB array"
  let n ← integer (← dp.item "num_active_dpb_entries") 0 16
  let dpb ← readDpb s lastWriter req 0 (entries.take n.toNat)
  let stBefore ← readCurrent n dp "st_curr_before"
  let stAfter ← readCurrent n dp "st_curr_after"
  let ltCurr ← readCurrent n dp "lt_curr"
  let total := stBefore.length + stAfter.length + ltCurr.length
  need ((total : ℤ) ≤ n) (reject "current reference count exceeds DPB")
  let st ← readSlice n sl lf
  let target ← found req.target (.builtin .keyError)
  let ts ← found req.timestamp (.builtin .keyError)
  return (
    { run, seq := pic, pic, req := pic, target, poc
      irap := ofBool (decide ("IRAP_PIC" ∈ df))
      idr := ofBool (decide ("IDR_PIC" ∈ df))
      ltrSps := ofBool (decide ("LONG_TERM_REF_PICS_PRESENT" ∈ sf))
      totalCurr := total
      dpb, slices := [st], stBefore, stAfter, ltCurr },
    { pic, poc, systemFrameNumber := ts / 1000 })

/-- The record loop, with the number of the last picture written to each buffer. -/
def recordLoop (s : Ledger) (run : String) :
    Dict ℤ ℕ → List Req → Read (List (Record × Association))
  | _, [] => .ok []
  | lastWriter, req :: rest => do
      let out ← readPicture s run lastWriter req
      let more ← recordLoop s run (lastWriter.set out.1.target out.1.pic) rest
      return out :: more

/-- `normalize` up to what STREAMOFF does with queued OUTPUT buffers. -/
def normalizeWith (streamoff : Streamoff) (events : List Event) (expected : ℤ) (run : String) :
    Read (List Record × List Association) := do
  let s ← scan streamoff events expected run
  let out ← recordLoop s.toLedger run ∅ (s.pictures.map s.objects)
  return (out.map Prod.fst, out.map Prod.snd)

/-- `normalize(events, expected, run)`: STREAMOFF leaves the OUTPUT buffers as they are. -/
def normalize (events : List Event) (expected : ℤ) (run : String) :
    Read (List Record × List Association) :=
  normalizeWith keepOutput events expected run

end OmarchyM1Video.HevcControls
