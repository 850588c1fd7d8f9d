import OmarchyM1Video.Py.Json

/-!
The inventories of H.264 streams that `experiments/h264-profile-selection/selection.py` decides on,
and their validation.

* `Sps`, `Pps`, `Slice`, `Picture`, `Inventory`: the typed evidence.  A field is of the range that
  its check admits, and no list of pictures or slices is empty;
* `validateInventory`: the check, which returns the evidence that the rest of the program reads.
-/

namespace OmarchyM1Video.ProfileSelection

open OmarchyM1Video.Py

/-! ### The evidence -/

/-- `SLICE_TYPE_NAMES`. -/
inductive SliceType where
  | i | p | b | sp | si
  deriving DecidableEq, Repr

def SliceType.ofName? : String → Option SliceType
  | "I" => some i
  | "P" => some p
  | "B" => some b
  | "SP" => some sp
  | "SI" => some si
  | _ => none

/-- The VA profiles of H.264, `DEFAULT_ADVERTISED`. -/
inductive VaProfile where
  | constrainedBaseline | main | high | high10
  deriving DecidableEq, Repr

def VaProfile.ofName? : String → Option VaProfile
  | "VAProfileH264ConstrainedBaseline" => some constrainedBaseline
  | "VAProfileH264Main" => some main
  | "VAProfileH264High" => some high
  | "VAProfileH264High10" => some high10
  | _ => none

/-- A sequence parameter set, `SPS_FIELDS`. -/
structure Sps where
  profileIdc : Fin 256
  constraintSet1Flag : Fin 2
  constraintSet3Flag : Fin 2
  frameMbsOnlyFlag : Fin 2
  mbAdaptiveFrameFieldFlag : Fin 2
  chromaFormatIdc : Fin 4
  bitDepthLumaMinus8 : Fin 7
  bitDepthChromaMinus8 : Fin 7
  parseOk : Bool
  deriving DecidableEq, Repr

/-- A picture parameter set, `PPS_FIELDS`. -/
structure Pps where
  numSliceGroupsMinus1 : Fin 8
  entropyCodingModeFlag : Fin 2
  redundantPicCntPresentFlag : Fin 2
  transform8x8ModeFlag : Fin 2
  parseOk : Bool
  deriving DecidableEq, Repr

/-- A slice, `SLICE_FIELDS`. -/
structure Slice where
  nalUnitType : Fin 32
  sliceType : SliceType
  fieldPicFlag : Fin 2
  firstMbInSlice : Fin 0x100000000
  redundantPicCnt : Fin 128
  parseOk : Bool
  deriving DecidableEq, Repr

/-- A picture with its parameter sets. -/
structure Picture where
  sps : Sps
  pps : Pps
  slices : List Slice
  nonempty : slices ≠ []

/-- A validated inventory, with the profiles that are advertised. -/
structure Inventory where
  pictures : List Picture
  nonempty : pictures ≠ []
  advertised : List VaProfile
  allowProfileMismatch : Option Bool

/-- `pictures[0]`. -/
def Inventory.first (inv : Inventory) : Picture := inv.pictures.head inv.nonempty

lemma Inventory.first_mem (inv : Inventory) : inv.first ∈ inv.pictures := List.head_mem _

/-! ### Validation -/

/-- `isinstance(value, dict) and set(value) == set(keys)`. -/
def hasExactly (keys : List String) : Json → Bool
  | .obj members => members.all (fun p => keys.contains p.1) &&
      keys.all fun key => (Json.member? members key).isSome
  | _ => false

lemma toNat_lt {v : ℤ} {n : ℕ} (h : 0 ≤ v ∧ v < n) : v.toNat < n := by omega

section Fields

variable (value : Json) (place : String)

/-- The message of a field that does not have its value or type. -/
def invalid (key : String) : String := place ++ "." ++ key ++ ": invalid value/type"

/-- `_object`: the object has just these keys. -/
def checkObject (keys : List String) : Except String Unit :=
  need (hasExactly keys value = true) (place ++ ": expected exactly " ++ ", ".intercalate keys)

/-- `_object`: an integer from 0 to `n - 1`. -/
def number (key : String) (n : ℕ) : Except String (Fin n) :=
  match value.get? key with
  | some (.int v) =>
      if h : 0 ≤ v ∧ v < n then .ok ⟨v.toNat, toNat_lt h⟩ else .error (invalid place key)
  | _ => .error (invalid place key)

/-- `_object`: a Boolean. -/
def boolean (key : String) : Except String Bool :=
  match value.get? key with
  | some (.bool b) => .ok b
  | _ => .error (invalid place key)

/-- `_object`: the name of a slice type. -/
def sliceName (key : String) : Except String SliceType :=
  match value.get? key with
  | some (.str s) => found (SliceType.ofName? s) (invalid place key)
  | _ => .error (invalid place key)

/-- `_object(value, SPS_FIELDS, where)`. -/
def readSps : Except String Sps := do
  checkObject value place ["profile_idc", "constraint_set1_flag", "constraint_set3_flag",
    "frame_mbs_only_flag", "mb_adaptive_frame_field_flag", "chroma_format_idc",
    "bit_depth_luma_minus8", "bit_depth_chroma_minus8", "parse_ok"]
  return {
    profileIdc := ← number value place "profile_idc" 256
    constraintSet1Flag := ← number value place "constraint_set1_flag" 2
    constraintSet3Flag := ← number value place "constraint_set3_flag" 2
    frameMbsOnlyFlag := ← number value place "frame_mbs_only_flag" 2
    mbAdaptiveFrameFieldFlag := ← number value place "mb_adaptive_frame_field_flag" 2
    chromaFormatIdc := ← number value place "chroma_format_idc" 4
    bitDepthLumaMinus8 := ← number value place "bit_depth_luma_minus8" 7
    bitDepthChromaMinus8 := ← number value place "bit_depth_chroma_minus8" 7
    parseOk := ← boolean value place "parse_ok" }

/-- `_object(value, PPS_FIELDS, where)`. -/
def readPps : Except String Pps := do
  checkObject value place ["num_slice_groups_minus1", "entropy_coding_mode_flag",
    "redundant_pic_cnt_present_flag", "transform_8x8_mode_flag", "parse_ok"]
  return {
    numSliceGroupsMinus1 := ← number value place "num_slice_groups_minus1" 8
    entropyCodingModeFlag := ← number value place "entropy_coding_mode_flag" 2
    redundantPicCntPresentFlag := ← number value place "redundant_pic_cnt_present_flag" 2
    transform8x8ModeFlag := ← number value place "transform_8x8_mode_flag" 2
    parseOk := ← boolean value place "parse_ok" }

/-- `_object(value, SLICE_FIELDS, where)`. -/
def readSlice : Except String Slice := do
  checkObject value place ["nal_unit_type", "slice_type", "field_pic_flag", "first_mb_in_slice",
    "redundant_pic_cnt", "parse_ok"]
  return {
    nalUnitType := ← number value place "nal_unit_type" 32
    sliceType := ← sliceName value place "slice_type"
    fieldPicFlag := ← number value place "field_pic_flag" 2
    firstMbInSlice := ← number value place "first_mb_in_slice" 0x100000000
    redundantPicCnt := ← number value place "redundant_pic_cnt" 128
    parseOk := ← boolean value place "parse_ok" }

end Fields

/-- `value.get(key)`. -/
def itemOf (value : Json) (key : String) : Json := (value.get? key).getD .null

/-- The slices of a picture. -/
def readSlices (sps : Sps) (pps : Pps) (value : Json) (place : String) : Except String Picture :=
  match value with
  | .arr (x :: xs) => do
      let s ← readSlice x (place ++ ".slice")
      let slices ← xs.mapM fun x => readSlice x (place ++ ".slice")
      return { sps, pps, slices := s :: slices, nonempty := List.cons_ne_nil _ _ }
  | _ => .error (place ++ ".slices must be nonempty")

/-- A picture of the inventory. -/
def readPicture (index : ℕ) (pic : Json) : Except String Picture := do
  let place := "pictures[" ++ toString index ++ "]"
  need (hasExactly ["sps", "pps", "slices"] pic = true) (place ++ ": sps, pps and slices required")
  let sps ← readSps (itemOf pic "sps") (place ++ ".sps")
  let pps ← readPps (itemOf pic "pps") (place ++ ".pps")
  readSlices sps pps (itemOf pic "slices") place

/-- The pictures of the inventory. -/
def readPictures : Json → Except String { pictures : List Picture // pictures ≠ [] }
  | .arr (x :: xs) => do
      let picture ← readPicture 0 x
      let pictures ← (xs.zipIdx 1).mapM fun p => readPicture p.2 p.1
      return ⟨picture :: pictures, List.cons_ne_nil _ _⟩
  | _ => .error "pictures must be a nonempty list"

/-- A profile that is advertised. -/
def profileOf? : Json → Option VaProfile
  | .str s => VaProfile.ofName? s
  | _ => none

/-- The profiles that are advertised. -/
def readAdvertised : Json → Except String (List VaProfile)
  | .arr xs => do
      let profiles ← found (xs.mapM profileOf?)
        "advertised must be an explicit list of modelled VA profiles"
      need profiles.Nodup "duplicate advertised profiles"
      return profiles
  | _ => .error "advertised must be an explicit list of modelled VA profiles"

/-- `allow_profile_mismatch` of the stream, if it is there. -/
def readAllow : Option Json → Except String (Option Bool)
  | none => .ok none
  | some (.bool b) => .ok (some b)
  | some _ => .error "allow_profile_mismatch must be boolean"

/-- `stream.get("advertised") if advertised is None else advertised`. -/
def profilesOf (stream : Json) : Json → Json
  | .null => itemOf stream "advertised"
  | advertised => advertised

/-- `validate_inventory(stream, advertised)`; `null` is `None`. -/
def validateInventory (stream advertised : Json) : Except String Inventory := do
  need (stream.isObj = true) "stream must be an object"
  let pictures ← readPictures (itemOf stream "pictures")
  let profiles ← readAdvertised (profilesOf stream advertised)
  let allowProfileMismatch ← readAllow (stream.get? "allow_profile_mismatch")
  return { pictures := pictures.1, nonempty := pictures.2, advertised := profiles,
           allowProfileMismatch }

end OmarchyM1Video.ProfileSelection
