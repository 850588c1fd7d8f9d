import Mathlib.Algebra.GroupWithZero.Nat
import OmarchyM1Video.CommandTrace.Parser

/-!
The comparison of the copied control bytes with the controls of the ioctls:
`experiments/hevc-avd-command-capture/compare.py`.

Each field of the layout is read from the controls of a picture, as a number: the flags of a control are
the sum of their bits, and a signed byte is taken modulo 256.  What is read is then compared with what
the control bytes of the picture unpack to, field by field.

* `Row`: the controls of a picture;
* `copiedLayout`, `copiedFields`: the fields and their values;
* `ownFlags`, `uapiFlags`: the names of the flags, with their bits;
* `Difference`, `compare`: the comparison.
-/

namespace OmarchyM1Video.CommandTrace

open OmarchyM1Video.Py OmarchyM1Video.Recorder

/-! ### The controls of a picture -/

/-- A row of ioctl controls. -/
structure Row where
  picture : ℤ
  run : String
  poc : ℤ
  target : ℤ
  controls : Json

/-- `value[name]`. -/
def subscript (value : Json) (name : String) : Except String Json :=
  match value with
  | .obj members => found (Json.member? members name) "KeyError"
  | _ => .error "TypeError"

/-- What a field of the layout is copied from: `sps`, `pps`, `sc`, `sl`, `w`, or the decode parameters. -/
inductive Base where
  | sps | pps | sc | sl | w | decode
  deriving DecidableEq, Repr

/-- The bases of the fields of `control-layout.inc`, in its order. -/
def bases : List Base :=
  List.replicate 25 Base.sps ++ List.replicate 16 Base.pps ++ List.replicate 6 Base.sc ++
    List.replicate 27 Base.sl ++ List.replicate 10 Base.w ++ [Base.decode]

/-- The fields with their bases. -/
def copiedLayout : List (Field × Base) := controlLayout.zip bases

/-- `name.endswith('_flags')`: the four fields of the layout that end so. -/
def isFlags (name : String) : Bool :=
  ["sps_flags", "pps_flags", "slice_flags", "decode_flags"].contains name

/-- The member that a field is copied from has its name, except for the flags. -/
def memberName (name : String) : String := if isFlags name then "flags" else name

/-- `sources`. -/
structure Sources where
  sps : Json
  pps : Json
  sc : Json
  sl : Json
  w : Json
  controls : Json

def sourcesOf (controls : Json) : Except String Sources := do
  let sl ← subscript controls "SLICE_PARAMS"
  let sps ← subscript controls "SPS"
  let pps ← subscript controls "PPS"
  let sc ← subscript controls "SCALING_MATRIX"
  let w ← subscript sl "v4l2_hevc_pred_weight_table"
  return { sps, pps, sc, sl, w, controls }

/-- The structure that a field is copied from. -/
def Sources.base (sources : Sources) : Base → Except String Json
  | .sps => .ok sources.sps
  | .pps => .ok sources.pps
  | .sc => .ok sources.sc
  | .sl => .ok sources.sl
  | .w => .ok sources.w
  | .decode => subscript sources.controls "DECODE_PARAMS"

/-- The value that a field is copied from. -/
def Sources.value (sources : Sources) (p : Field × Base) : Except String Json := do
  let base ← sources.base p.2
  subscript base (memberName p.1.name)

/-- The names of a control's own flags; each stands for the bit of its place. -/
def ownFlags : Base → List String
  | .sps => [
      "V4L2_HEVC_SPS_FLAG_SEPARATE_COLOUR_PLANE",
      "V4L2_HEVC_SPS_FLAG_SCALING_LIST_ENABLED",
      "V4L2_HEVC_SPS_FLAG_AMP_ENABLED",
      "V4L2_HEVC_SPS_FLAG_SAMPLE_ADAPTIVE_OFFSET",
      "V4L2_HEVC_SPS_FLAG_PCM_ENABLED",
      "V4L2_HEVC_SPS_FLAG_PCM_LOOP_FILTER_DISABLED",
      "V4L2_HEVC_SPS_FLAG_LONG_TERM_REF_PICS_PRESENT",
      "V4L2_HEVC_SPS_FLAG_SPS_TEMPORAL_MVP_ENABLED",
      "V4L2_HEVC_SPS_FLAG_STRONG_INTRA_SMOOTHING_ENABLED"]
  | .pps => [
      "V4L2_HEVC_PPS_FLAG_DEPENDENT_SLICE_SEGMENT_ENABLED",
      "V4L2_HEVC_PPS_FLAG_OUTPUT_FLAG_PRESENT",
      "V4L2_HEVC_PPS_FLAG_SIGN_DATA_HIDING_ENABLED",
      "V4L2_HEVC_PPS_FLAG_CABAC_INIT_PRESENT",
      "V4L2_HEVC_PPS_FLAG_CONSTRAINED_INTRA_PRED",
      "V4L2_HEVC_PPS_FLAG_TRANSFORM_SKIP_ENABLED",
      "V4L2_HEVC_PPS_FLAG_CU_QP_DELTA_ENABLED",
      "V4L2_HEVC_PPS_FLAG_PPS_SLICE_CHROMA_QP_OFFSETS_PRESENT",
      "V4L2_HEVC_PPS_FLAG_WEIGHTED_PRED",
      "V4L2_HEVC_PPS_FLAG_WEIGHTED_BIPRED",
      "V4L2_HEVC_PPS_FLAG_TRANSQUANT_BYPASS_ENABLED",
      "V4L2_HEVC_PPS_FLAG_TILES_ENABLED",
      "V4L2_HEVC_PPS_FLAG_ENTROPY_CODING_SYNC_ENABLED",
      "V4L2_HEVC_PPS_FLAG_LOOP_FILTER_ACROSS_TILES_ENABLED",
      "V4L2_HEVC_PPS_FLAG_PPS_LOOP_FILTER_ACROSS_SLICES_ENABLED",
      "V4L2_HEVC_PPS_FLAG_DEBLOCKING_FILTER_OVERRIDE_ENABLED",
      "V4L2_HEVC_PPS_FLAG_PPS_DISABLE_DEBLOCKING_FILTER",
      "V4L2_HEVC_PPS_FLAG_LISTS_MODIFICATION_PRESENT",
      "V4L2_HEVC_PPS_FLAG_SLICE_SEGMENT_HEADER_EXTENSION_PRESENT",
      "V4L2_HEVC_PPS_FLAG_DEBLOCKING_FILTER_CONTROL_PRESENT",
      "V4L2_HEVC_PPS_FLAG_UNIFORM_SPACING"]
  | .sl => [
      "V4L2_HEVC_SLICE_PARAMS_FLAG_SLICE_SAO_LUMA",
      "V4L2_HEVC_SLICE_PARAMS_FLAG_SLICE_SAO_CHROMA",
      "V4L2_HEVC_SLICE_PARAMS_FLAG_SLICE_TEMPORAL_MVP_ENABLED",
      "V4L2_HEVC_SLICE_PARAMS_FLAG_MVD_L1_ZERO",
      "V4L2_HEVC_SLICE_PARAMS_FLAG_CABAC_INIT",
      "V4L2_HEVC_SLICE_PARAMS_FLAG_COLLOCATED_FROM_L0",
      "V4L2_HEVC_SLICE_PARAMS_FLAG_USE_INTEGER_MV",
      "V4L2_HEVC_SLICE_PARAMS_FLAG_SLICE_DEBLOCKING_FILTER_DISABLED",
      "V4L2_HEVC_SLICE_PARAMS_FLAG_SLICE_LOOP_FILTER_ACROSS_SLICES_ENABLED",
      "V4L2_HEVC_SLICE_PARAMS_FLAG_DEPENDENT_SLICE_SEGMENT"]
  | .decode => [
      "V4L2_HEVC_DECODE_PARAM_FLAG_IRAP_PIC",
      "V4L2_HEVC_DECODE_PARAM_FLAG_IDR_PIC",
      "V4L2_HEVC_DECODE_PARAM_FLAG_NO_OUTPUT_OF_PRIOR"]
  | _ => []

/-- The names with their bits. -/
def bitValues (names : List String) : List (String × ℕ) :=
  names.zipIdx.map fun p => (p.1, 2 ^ p.2)

/-- `uapi-flags.json`. -/
def uapiFlags : Dict String ℕ :=
  (∅ : Dict String ℕ).update ([Base.sps, .pps, .sl, .decode].flatMap (bitValues ∘ ownFlags) ++
    [("V4L2_HEVC_EXT_SPS_ST_RPS_FLAG_INTER_REF_PIC_SET_PRED", 1),
     ("V4L2_HEVC_EXT_SPS_LT_RPS_FLAG_USED_LT", 1)])

/-- A name of a flag, with its bit. -/
def flagOf (flags : Dict String ℕ) : Json → Option (String × ℕ)
  | .str name => (flags.get? name).map fun bit => (name, bit)
  | _ => none

/-- A list or an object cannot be in a set. -/
def hashable : Json → Bool
  | .arr _ => false
  | .obj _ => false
  | _ => true

/-- The mask of a list of flags. -/
def flagsValue (flags : Dict String ℕ) : Json → Except String Json
  | .arr xs => do
      need (xs.all hashable = true) "TypeError"
      let named ← found (xs.mapM (flagOf flags)) "unmapped flags"
      need (named.map Prod.fst).Nodup "unmapped flags"
      return .int (named.map Prod.snd).sum
  | _ => .error "unmapped flags"

/-- An element of an array, in the domain of its sign. -/
def intIn (signed : Bool) : Json → Option ℤ
  | .int n => if (if signed then -128 ≤ n ∧ n ≤ 127 else 0 ≤ n ∧ n ≤ 255) then some n else none
  | _ => none

/-- The bytes of an array: `v & 255` of each element. -/
def bytesValue (signed : Bool) (count : ℕ) : Json → Except String Json
  | .arr xs => do
      need (xs.length = count) "array extent"
      let ns ← found (xs.mapM (intIn signed)) "array domain"
      return .arr (ns.map fun n => .int (n % 256))
  | _ => .error "array extent"

/-- The value of a field, as the control bytes have it. -/
def copiedValue (flags : Dict String ℕ) (p : Field × Base) (value : Json) : Except String Json :=
  if isFlags p.1.name then flagsValue flags value
  else if isBytes p.1.member then bytesValue (p.2 = .w) p.1.member.count value
  else .ok value

/-- What a field of a row of controls is copied from. -/
def fieldInput (controls : Json) (p : Field × Base) : Except String Json := do
  let sources ← sourcesOf controls
  sources.value p

/-- The loop of `copied_fields`. -/
def copyFields (flags : Dict String ℕ) (sources : Sources) :
    List (Field × Base) → Dict String Json → Except String (Dict String Json)
  | [], result => .ok result
  | p :: rest, result => do
      let value ← sources.value p
      let value ← copiedValue flags p value
      copyFields flags sources rest (result.set p.1.name value)

/-- `copied_fields(row, flags)`. -/
def copiedFields (controls : Json) (flags : Dict String ℕ) : Except String (Dict String Json) := do
  let sources ← sourcesOf controls
  let result ← copyFields flags sources copiedLayout ∅
  validateControls result
  let _ ← packControls result
  return result

/-! ### The comparison -/

def intOf : Json → Option ℤ
  | .int n => some n
  | _ => none

/-- An integer, or a list of them: all that is compared. -/
def wireValue : Json → Option (ℤ ⊕ List ℤ)
  | .int n => some (.inl n)
  | .arr xs => (xs.mapM intOf).map .inr
  | _ => none

/-- A field whose copied value differs. -/
structure Difference where
  picture : ℕ
  poc : ℤ
  field : String
  ioctl : Json
  kernel : Json

/-- The loop over the fields of a window. -/
def fieldDifferences (w : Window) (actual : Dict String Json) :
    List (String × Json) → Except String (List Difference)
  | [] => .ok []
  | (name, value) :: rest => do
      let kernel ← found (actual.get? name) "KeyError"
      let more ← fieldDifferences w actual rest
      if wireValue kernel = wireValue value then return more
      else return { picture := w.picture, poc := w.poc, field := name, ioctl := value, kernel } :: more

/-- The comparison of a window; pictures are counted from one. -/
def compareWindow (rows : List Row) (flags : Dict String ℕ) (w : Window) :
    Except String (List Difference) := do
  let row ← found rows[w.picture - 1]? "IndexError"
  let expected ← copiedFields row.controls flags
  let actual ← unpackControls w.controls
  fieldDifferences w actual expected.entries

/-- The history row of a picture is that of its controls. -/
def checkHistory (p : History × Row) : Except String Unit := do
  let sl ← subscript p.2.controls "SLICE_PARAMS"
  let kind ← subscript sl "slice_type"
  need (p.1.picture = p.2.picture ∧ p.1.poc = p.2.poc ∧ p.1.target = p.2.target ∧
    kind.eqInt p.1.type = true) "ioctl/kernel full history mismatch"

/-- `compare(capture, rows, flags)`. -/
def compare (capture : Snapshot) (rows : List Row) (flags : Dict String ℕ) :
    Except String (List Difference) := do
  need (rows.length = 300 ∧ rows.map Row.picture = (List.range 300).map fun n : ℕ => (n : ℤ) + 1)
    "ioctl picture extent"
  need (∀ row ∈ rows, some row.run = rows.head?.map Row.run) "mixed ioctl runs"
  (capture.pictures.zip rows).forM checkHistory
  let differences ← capture.windows.mapM (compareWindow rows flags)
  return differences.flatten

end OmarchyM1Video.CommandTrace
