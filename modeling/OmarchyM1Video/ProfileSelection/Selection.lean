import OmarchyM1Video.ProfileSelection.Inventory

/-!
The selection of a VA profile: what FFmpeg does today, `select_current`, and the proposal that looks
at the features of every picture, `select_proposed`.

* `ffmpegProfileFromSps`: the profile that FFmpeg reads from a sequence parameter set;
* `vaapiCurrentMatch`, `selectCurrent`: the exact match;
* `pictureDisallowed`, `pictureSliceDisallowed`, `spsIncompatibleWithVa`: the checks of the proposal;
* `selectProposed`: the proposal.
-/

namespace OmarchyM1Video.ProfileSelection

open OmarchyM1Video.Py

/-! ### Profiles -/

/-- The H.264 profiles of FFmpeg. -/
inductive FfProfile where
  | baseline | constrainedBaseline | main | extended | high | high10 | high10Intra
  | unknown (profileIdc : ℕ)
  deriving DecidableEq, Repr

/-- `VAAPI_PROFILE_MAP`. -/
def vaapiProfileMap : List (FfProfile × VaProfile) :=
  [(.high10Intra, .high10), (.high10, .high10), (.constrainedBaseline, .constrainedBaseline),
    (.main, .main), (.high, .high)]

/-- `VA_PROFILE_ALLOWED_FF`. -/
def vaProfileAllowedFf : VaProfile → List FfProfile
  | .constrainedBaseline => [.baseline, .constrainedBaseline]
  | .main => [.baseline, .constrainedBaseline, .main, .extended]
  | .high => [.baseline, .constrainedBaseline, .main, .extended, .high]
  | .high10 => [.baseline, .constrainedBaseline, .main, .extended, .high, .high10, .high10Intra]

/-- `VA_PROFILE_MAX_BIT_DEPTH_MINUS8`. -/
def vaProfileMaxBitDepthMinus8 : VaProfile → ℕ
  | .constrainedBaseline => 0
  | .main => 0
  | .high => 0
  | .high10 => 2

/-- `ffmpeg_profile_from_sps(sps)`. -/
def ffmpegProfileFromSps (sps : Sps) : Option FfProfile :=
  if sps.parseOk = false then none
  else if sps.profileIdc = 66 then
    some (if sps.constraintSet1Flag ≠ 0 then .constrainedBaseline else .baseline)
  else if sps.profileIdc = 77 then some .main
  else if sps.profileIdc = 88 then some .extended
  else if sps.profileIdc = 100 then some .high
  else if sps.profileIdc = 110 then
    some (if sps.constraintSet3Flag ≠ 0 then .high10Intra else .high10)
  else some (.unknown sps.profileIdc)

/-! ### What is returned -/

inductive Status where
  | select | refuse | reject
  deriving DecidableEq, Repr

/-- A selection or a refusal; a key that is missing is `none`. -/
structure Result where
  status : Status
  reason : String
  vaProfile : Option VaProfile := none
  ffmpegProfile : Option FfProfile
  exactMatch : Option Bool := none
  mismatchUses : Option FfProfile := none
  wouldMismatchTo : Option VaProfile := none
  wantedVaProfile : Option VaProfile := none
  pictureIndex : Option ℕ := none
  path : String
  decodedFrameEvidence : Bool := false
  deriving DecidableEq, Repr

/-! ### The exact match -/

/-- The best match so far. -/
structure Match where
  va : Option VaProfile := none
  ff : Option FfProfile := none
  exact : Bool := false

/-- The loop of `vaapi_current_match`. -/
def matchLoop (ffProfile : Option FfProfile) (advertised : List VaProfile) :
    List (FfProfile × VaProfile) → Match → Match
  | [], m => m
  | (mapFf, mapVa) :: rest, m =>
      if mapVa ∉ advertised then matchLoop ffProfile advertised rest m
      else if ffProfile = some mapFf then { va := some mapVa, ff := some mapFf, exact := true }
      else matchLoop ffProfile advertised rest { va := some mapVa, ff := some mapFf, exact := false }

/-- `vaapi_current_match(ff_profile, advertised, allow_profile_mismatch)`, with the path that
`select_current` adds. -/
def vaapiCurrentMatch (ffProfile : Option FfProfile) (advertised : List VaProfile) (allow : Bool) :
    Result :=
  let m := matchLoop ffProfile advertised vaapiProfileMap {}
  match m.va with
  | none =>
      { status := .refuse, reason := "no_h264_va_profile_advertised", ffmpegProfile := ffProfile,
        exactMatch := some false, path := "current" }
  | some va =>
      if m.exact then
        { status := .select, reason := "exact_profile_match", vaProfile := some va,
          ffmpegProfile := ffProfile, exactMatch := some true, path := "current" }
      else if allow then
        { status := .select, reason := "allow_profile_mismatch", vaProfile := some va,
          ffmpegProfile := ffProfile, exactMatch := some false, mismatchUses := m.ff,
          path := "current" }
      else
        { status := .refuse, reason := "profile_mismatch", ffmpegProfile := ffProfile,
          exactMatch := some false, wouldMismatchTo := some va, path := "current" }

/-- `select_current(stream, advertised, allow_profile_mismatch)`. -/
def selectCurrent (stream advertised : Json) (allow : Bool) : Except String Result := do
  let inv ← validateInventory stream advertised
  return vaapiCurrentMatch (ffmpegProfileFromSps inv.first.sps) inv.advertised
    (inv.allowProfileMismatch.getD allow)

/-! ### The proposal -/

/-- The checks of the proposal; `checks.get(name, True)`. -/
structure Checks where
  fmo : Bool := true
  fields : Bool := true
  partitions : Bool := true
  malformed : Bool := true
  scanAllPictures : Bool := true
  spsCompat : Bool := true
  sliceTypes : Bool := true

/-- `DEFAULT_CHECKS`. -/
def defaultChecks : Checks := {}

/-- `if c: return reason`. -/
def reasonIf (c : Prop) [Decidable c] (reason : String) : Option String :=
  if c then some reason else none

lemma reasonIf_eq_none {c : Prop} [Decidable c] {reason : String} :
    reasonIf c reason = none ↔ ¬c := by
  by_cases h : c <;> simp [reasonIf, h]

/-- `_nal_is_partition(nal_unit_type)`. -/
def nalIsPartition (nalUnitType : Fin 32) : Prop :=
  nalUnitType = 2 ∨ nalUnitType = 3 ∨ nalUnitType = 4

instance (nalUnitType : Fin 32) : Decidable (nalIsPartition nalUnitType) :=
  inferInstanceAs (Decidable (_ ∨ _ ∨ _))

/-- `starts[0] != 0 or any(b <= a for a, b in zip(starts, starts[1:]))`. -/
def slicesOutOfOrder (starts : List ℕ) : Prop :=
  starts.head? ≠ some 0 ∨ ∃ p ∈ starts.zip starts.tail, p.2 ≤ p.1

instance (starts : List ℕ) : Decidable (slicesOutOfOrder starts) :=
  inferInstanceAs (Decidable (_ ∨ _))

/-- `picture_disallowed(picture, checks)`; that a slice has one of the known types is already in its
type. -/
def pictureDisallowed (picture : Picture) (checks : Checks) : Option String :=
  let sps := picture.sps
  let pps := picture.pps
  let slices := picture.slices
  reasonIf (checks.malformed = true ∧ (sps.parseOk = false ∨ pps.parseOk = false))
      "malformed_header" <|>
    reasonIf (checks.malformed = true ∧ ∃ s ∈ slices, s.parseOk = false) "malformed_header" <|>
    reasonIf (checks.partitions = true ∧ ∃ s ∈ slices, nalIsPartition s.nalUnitType)
      "data_partition" <|>
    reasonIf (checks.fmo = true ∧ 0 < pps.numSliceGroupsMinus1) "fmo" <|>
    reasonIf (checks.fields = true ∧ sps.frameMbsOnlyFlag = 0) "fields" <|>
    reasonIf (checks.fields = true ∧ sps.mbAdaptiveFrameFieldFlag ≠ 0) "fields" <|>
    reasonIf (checks.fields = true ∧ ∃ s ∈ slices, s.fieldPicFlag ≠ 0) "fields" <|>
    reasonIf (∃ s ∈ slices, s.nalUnitType ∉ ([1, 2, 3, 4, 5] : List (Fin 32))) "unsupported_nal" <|>
    reasonIf (pps.redundantPicCntPresentFlag ≠ 0 ∨ ∃ s ∈ slices, s.redundantPicCnt ≠ 0)
      "redundant_picture" <|>
    reasonIf (slicesOutOfOrder (slices.map fun s => (s.firstMbInSlice : ℕ))) "slice_order" <|>
    reasonIf ((sps.profileIdc = 66 ∨ sps.profileIdc = 77 ∨ sps.profileIdc = 88) ∧
      pps.transform8x8ModeFlag ≠ 0) "unsupported_transform" <|>
    reasonIf ((sps.profileIdc = 66 ∨ sps.profileIdc = 88) ∧ pps.entropyCodingModeFlag ≠ 0)
      "unsupported_entropy"

/-- `allowed_slices_for_ff_profile(ff_profile)`. -/
def allowedSlicesForFfProfile (ffProfile : Option FfProfile) : List SliceType :=
  if ffProfile = some .baseline ∨ ffProfile = some .constrainedBaseline then [.i, .p]
  else if ffProfile = some .high10Intra then [.i]
  else [.i, .p, .b]

/-- The body of the loop of `picture_slice_disallowed`. -/
def sliceDisallowed (allowed : List SliceType) (kind : SliceType) : Option String :=
  reasonIf (kind = .sp) "sp_slice" <|>
    reasonIf (kind = .si) "si_slice" <|>
    reasonIf (kind = .b ∧ .b ∉ allowed) "baseline_with_b_slices" <|>
    reasonIf (kind ∉ allowed) "disallowed_slice"

/-- `picture_slice_disallowed(picture, ff_profile)`. -/
def pictureSliceDisallowed (picture : Picture) (ffProfile : Option FfProfile) : Option String :=
  picture.slices.findSome? fun s =>
    sliceDisallowed (allowedSlicesForFfProfile ffProfile) s.sliceType

/-- `sps_incompatible_with_va(sps, va_profile)`. -/
def spsIncompatibleWithVa (sps : Sps) (va : VaProfile) : Option String :=
  let ff := ffmpegProfileFromSps sps
  let luma := (sps.bitDepthLumaMinus8 : ℕ)
  let chromaDepth := (sps.bitDepthChromaMinus8 : ℕ)
  reasonIf (ff ∉ (vaProfileAllowedFf va).map some) "sps_incompatible" <|>
    reasonIf (luma ≠ chromaDepth ∨ luma ∉ [0, 2] ∨ vaProfileMaxBitDepthMinus8 va < luma)
      "sps_incompatible" <|>
    reasonIf ((sps.chromaFormatIdc : ℕ) ≠ 1) "sps_incompatible"

/-- `_has_b_slice(pictures)`. -/
def hasBSlice (pictures : List Picture) : Bool :=
  pictures.any fun pic => pic.slices.any fun s => s.sliceType = .b

/-- `proposed_va_for_safe_stream(ff_profile, pictures)`. -/
def proposedVaForSafeStream (ffProfile : Option FfProfile) (pictures : List Picture) :
    Option VaProfile × String :=
  match ffProfile with
  | some .constrainedBaseline => (some .constrainedBaseline, "exact_profile_match")
  | some .main => (some .main, "exact_profile_match")
  | some .high => (some .high, "exact_profile_match")
  | some .high10 => (some .high10, "exact_profile_match")
  | some .high10Intra => (some .high10, "exact_profile_match")
  | some .baseline =>
      if hasBSlice pictures then (none, "baseline_with_b_slices")
      else (some .constrainedBaseline, "baseline_constrained_subset")
  | some .extended => (some .main, "extended_main_subset")
  | _ => (none, "unmapped_profile")

/-- The body of the first loop of `select_proposed`. -/
def pictureReason (checks : Checks) (picture : Picture) : Option String :=
  pictureDisallowed picture checks <|>
    if checks.sliceTypes then pictureSliceDisallowed picture (ffmpegProfileFromSps picture.sps)
    else none

/-- The first picture for which there is a reason, with its index. -/
def firstReason (reason : Picture → Option String) (pictures : List Picture) : Option (String × ℕ) :=
  pictures.zipIdx.findSome? fun p => (reason p.1).map fun r => (r, p.2)

/-- `_reject(reason, picture_index)`. -/
def rejected (ffProfile : Option FfProfile) (reason : String) (pictureIndex : Option ℕ) : Result :=
  { status := .reject, reason, ffmpegProfile := ffProfile, exactMatch := some false, pictureIndex,
    path := "proposed" }

/-- The selection of a profile that is compatible with every picture. -/
def selected (ffProfile : Option FfProfile) (advertised : List VaProfile) (va : VaProfile)
    (why : String) : Result :=
  if va ∉ advertised then
    { status := .reject, reason := "va_profile_not_advertised", ffmpegProfile := ffProfile,
      wantedVaProfile := some va, path := "proposed" }
  else
    { status := .select, reason := why, vaProfile := some va, ffmpegProfile := ffProfile,
      exactMatch := some (why = "exact_profile_match"), path := "proposed" }

/-- `select_proposed` on a validated inventory. -/
def proposal (inv : Inventory) (checks : Checks) : Result :=
  let ffProfile := ffmpegProfileFromSps inv.first.sps
  let scan := if checks.scanAllPictures then inv.pictures else inv.pictures.take 1
  match firstReason (pictureReason checks) scan with
  | some (reason, index) => rejected ffProfile reason (some index)
  | none =>
      match proposedVaForSafeStream ffProfile scan with
      | (none, why) => rejected ffProfile why none
      | (some va, why) =>
          match firstReason (fun picture => if checks.spsCompat then
            spsIncompatibleWithVa picture.sps va else none) scan with
          | some (reason, index) => rejected ffProfile reason (some index)
          | none => selected ffProfile inv.advertised va why

/-- `select_proposed(stream, advertised, checks)`. -/
def selectProposed (stream advertised : Json) (checks : Checks) : Except String Result := do
  let inv ← validateInventory stream advertised
  return proposal inv checks

end OmarchyM1Video.ProfileSelection
