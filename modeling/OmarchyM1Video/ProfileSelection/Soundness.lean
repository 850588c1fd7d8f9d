import Mathlib.Data.List.Chain
import OmarchyM1Video.ProfileSelection.Selection

/-!
A selected profile fits the whole stream.

The profile is chosen by the first picture alone; what makes the choice sound is that every picture
passes the checks under its own sequence parameter set, and that the profile of each one is in the
subset of the profile that was chosen.

* `Fits`: what a picture must be for a VA profile;
* `fits_of_checks`: the checks make a picture fit;
* `selection_sound`: a profile that is selected is advertised and fits every picture, and the
  selection is exact just where the current match is.
-/

namespace OmarchyM1Video.ProfileSelection

open OmarchyM1Video.Py

/-- A picture that a VA profile can take. -/
structure Fits (va : VaProfile) (pic : Picture) : Prop where
  parsed : pic.sps.parseOk = true ∧ pic.pps.parseOk = true ∧ ∀ s ∈ pic.slices, s.parseOk = true
  progressive : pic.sps.frameMbsOnlyFlag = 1 ∧ pic.sps.mbAdaptiveFrameFieldFlag = 0 ∧
    ∀ s ∈ pic.slices, s.fieldPicFlag = 0
  oneSliceGroup : pic.pps.numSliceGroupsMinus1 = 0
  nal : ∀ s ∈ pic.slices, s.nalUnitType = 1 ∨ s.nalUnitType = 5
  notRedundant : pic.pps.redundantPicCntPresentFlag = 0 ∧ ∀ s ∈ pic.slices, s.redundantPicCnt = 0
  starts : (pic.slices.map fun s => (s.firstMbInSlice : ℕ)).head? = some 0 ∧
    (pic.slices.map fun s => (s.firstMbInSlice : ℕ)).Pairwise (· < ·)
  chroma : pic.sps.chromaFormatIdc = 1
  depth : pic.sps.bitDepthLumaMinus8 = pic.sps.bitDepthChromaMinus8 ∧
    (pic.sps.bitDepthLumaMinus8 = 0 ∨ pic.sps.bitDepthLumaMinus8 = 2) ∧
    (pic.sps.bitDepthLumaMinus8 : ℕ) ≤ vaProfileMaxBitDepthMinus8 va
  noSwitching : ∀ s ∈ pic.slices, s.sliceType ≠ .sp ∧ s.sliceType ≠ .si
  baseline : va = .constrainedBaseline → (∀ s ∈ pic.slices, s.sliceType = .i ∨ s.sliceType = .p) ∧
    pic.pps.entropyCodingModeFlag = 0 ∧ pic.pps.transform8x8ModeFlag = 0
  main : va = .main → (∀ s ∈ pic.slices, s.sliceType = .i ∨ s.sliceType = .p ∨ s.sliceType = .b) ∧
    pic.pps.transform8x8ModeFlag = 0
  intra : ffmpegProfileFromSps pic.sps = some .high10Intra → ∀ s ∈ pic.slices, s.sliceType = .i

/-! ### One picture -/

section Picture

variable {pic : Picture} {va : VaProfile} {ff : Option FfProfile}

lemma reason_orElse {a b : Option String} : (a <|> b) = none ↔ a = none ∧ b = none := by
  cases a <;> simp

/-- Starts that are in order increase from zero on. -/
lemma pairwise_of_zip {starts : List ℕ} (h : ∀ p ∈ starts.zip starts.tail, p.1 < p.2) :
    starts.Pairwise (· < ·) := by
  rw [← List.isChain_iff_pairwise]
  induction starts with
  | nil => exact List.isChain_nil
  | cons a starts ih =>
      cases starts with
      | nil => exact List.isChain_singleton a
      | cons b starts =>
          refine List.isChain_cons_cons.mpr ⟨h (a, b) List.mem_cons_self, ih fun p hp => ?_⟩
          exact h p (List.mem_cons_of_mem _ hp)

/-- The number of a profile. -/
def FfProfile.profileIdc : FfProfile → ℕ
  | baseline | constrainedBaseline => 66
  | main => 77
  | extended => 88
  | high => 100
  | high10 | high10Intra => 110
  | unknown profileIdc => profileIdc

/-- The profile that is read from a sequence parameter set has its number. -/
lemma profileIdc_of_ffmpegProfileFromSps {sps : Sps} {ff : FfProfile}
    (h : ffmpegProfileFromSps sps = some ff) : (sps.profileIdc : ℕ) = ff.profileIdc := by
  simp only [ffmpegProfileFromSps] at h
  split_ifs at h with _ hidc _ hidc hidc hidc hidc _ <;> obtain rfl := Option.some.inj h
  any_goals rw [hidc]
  all_goals rfl

/-- What the check of the slice types lets through. -/
lemma slices_of_pictureSliceDisallowed (h : pictureSliceDisallowed pic ff = none) :
    ∀ s ∈ pic.slices, s.sliceType ∈ allowedSlicesForFfProfile ff ∧ s.sliceType ≠ .sp ∧
      s.sliceType ≠ .si := by
  intro s hs
  have hslice := List.findSome?_eq_none_iff.mp h s hs
  simp only [sliceDisallowed, reason_orElse, reasonIf_eq_none, not_not] at hslice
  obtain ⟨hsp, hsi, _, hallowed⟩ := hslice
  exact ⟨hallowed, hsp, hsi⟩

/-- **A picture that passes every check fits.** -/
theorem fits_of_checks (hpicture : pictureReason defaultChecks pic = none)
    (hsps : spsIncompatibleWithVa pic.sps va = none) : Fits va pic := by
  simp only [pictureReason, reason_orElse, defaultChecks, if_true] at hpicture
  obtain ⟨hfeatures, hslices⟩ := hpicture
  simp only [pictureDisallowed, reason_orElse, reasonIf_eq_none, true_and, not_or, not_exists,
    not_and, Bool.not_eq_false, not_not] at hfeatures
  obtain ⟨⟨hspsOk, hppsOk⟩, hsliceOk, hpartition, hgroups, hframes, hmbaff, hfields, hnal,
    ⟨hpresent, hredundant⟩, horder, htransform, hentropy⟩ := hfeatures
  simp only [spsIncompatibleWithVa, reason_orElse, reasonIf_eq_none, not_or, not_not] at hsps
  obtain ⟨hallowed, ⟨hequal, hdepth, hmax⟩, hchroma⟩ := hsps
  have htypes := slices_of_pictureSliceDisallowed hslices
  obtain ⟨ff, hff, hprofile⟩ := List.mem_map.mp hallowed
  have hidc := profileIdc_of_ffmpegProfileFromSps hprofile.symm
  rw [← hprofile] at htypes
  simp only [slicesOutOfOrder, not_or, not_not, not_exists, not_and, Nat.not_le] at horder
  refine ⟨⟨hspsOk, hppsOk, hsliceOk⟩, ⟨by omega, hmbaff, hfields⟩, by omega, fun s hs => ?_,
    ⟨hpresent, hredundant⟩, ⟨horder.1, pairwise_of_zip horder.2⟩, Fin.ext hchroma,
    ⟨Fin.ext hequal, ?_, by omega⟩, fun s hs => (htypes s hs).2, ?_, ?_, ?_⟩
  · have hone := hnal s hs
    have hwhole := hpartition s hs
    simp only [nalIsPartition, not_or] at hwhole
    simp only [List.mem_cons, List.not_mem_nil, or_false] at hone
    tauto
  · simp only [List.mem_cons, List.not_mem_nil, or_false] at hdepth
    exact hdepth.imp Fin.ext Fin.ext
  · rintro rfl
    have hkind : ff = .baseline ∨ ff = .constrainedBaseline := by simpa [vaProfileAllowedFf] using hff
    have h₆₆ : pic.sps.profileIdc = 66 := by
      refine Fin.ext (hidc.trans ?_)
      rcases hkind with rfl | rfl <;> rfl
    refine ⟨fun s hs => ?_, hentropy (Or.inl h₆₆), htransform (Or.inl h₆₆)⟩
    have hs' := (htypes s hs).1
    rw [allowedSlicesForFfProfile, if_pos (by simpa using hkind)] at hs'
    simpa using hs'
  · rintro rfl
    have hkind : ff = .baseline ∨ ff = .constrainedBaseline ∨ ff = .main ∨ ff = .extended := by
      simpa [vaProfileAllowedFf] using hff
    refine ⟨fun s hs => ?_, htransform ?_⟩
    · have hs' := htypes s hs
      revert hs'
      cases s.sliceType <;> simp
    · rcases hkind with rfl | rfl | rfl | rfl
      · exact Or.inl (Fin.ext hidc)
      · exact Or.inl (Fin.ext hidc)
      · exact Or.inr (Or.inl (Fin.ext hidc))
      · exact Or.inr (Or.inr (Fin.ext hidc))
  · intro hintra s hs
    rw [← hprofile] at hintra
    have hs' := (htypes s hs).1
    rw [hintra, allowedSlicesForFfProfile, if_neg (by simp), if_pos rfl] at hs'
    simpa using hs'

end Picture

/-! ### The whole stream -/

section Stream

variable {inv : Inventory} {pictures : List Picture} {reason : Picture → Option String}

lemma firstReason_eq_none : firstReason reason pictures = none ↔ ∀ pic ∈ pictures, reason pic = none := by
  rw [firstReason, List.findSome?_eq_none_iff]
  refine ⟨fun h pic hpic => ?_, fun h p hp => ?_⟩
  · obtain ⟨k, hk, rfl⟩ := List.mem_iff_getElem.mp hpic
    have hp := h (pictures[k], k) (List.mk_mem_zipIdx_iff_getElem?.mpr (List.getElem?_eq_getElem hk))
    simpa using hp
  · rw [h p.1 (List.fst_mem_of_mem_zipIdx hp), Option.map_none]

/-- What has been checked of a stream for which a profile is selected. -/
structure Chosen (inv : Inventory) (va : VaProfile) (why : String) : Prop where
  pictures : ∀ pic ∈ inv.pictures, pictureReason defaultChecks pic = none
  safe : proposedVaForSafeStream (ffmpegProfileFromSps inv.first.sps) inv.pictures = (some va, why)
  compatible : ∀ pic ∈ inv.pictures, spsIncompatibleWithVa pic.sps va = none
  advertised : va ∈ inv.advertised

/-- A selection by the proposal has passed all its checks. -/
lemma chosen_of_select (h : (proposal inv defaultChecks).status = .select) : ∃ va why,
    Chosen inv va why ∧ proposal inv defaultChecks = selected (ffmpegProfileFromSps inv.first.sps)
      inv.advertised va why := by
  simp only [proposal, defaultChecks, if_true] at h ⊢
  cases hpictures : firstReason (pictureReason {}) inv.pictures with
  | some r => simp [hpictures, rejected] at h
  | none =>
      cases hsafe : proposedVaForSafeStream (ffmpegProfileFromSps inv.first.sps) inv.pictures with
      | mk va? why =>
          cases va? with
          | none => simp [hpictures, hsafe, rejected] at h
          | some va =>
              simp only [hpictures, hsafe] at h ⊢
              cases hcompat : firstReason (fun pic => spsIncompatibleWithVa pic.sps va) inv.pictures with
              | some r => simp [hcompat, rejected] at h
              | none =>
                  simp only [hcompat] at h ⊢
                  refine ⟨va, why, ⟨firstReason_eq_none.mp hpictures, hsafe,
                    firstReason_eq_none.mp hcompat, ?_⟩, rfl⟩
                  by_contra hnot
                  simp [selected, hnot] at h

end Stream

/-! ### The current match -/

section Current

variable {ff : FfProfile} {va : VaProfile} {advertised : List VaProfile}
  {rows : List (FfProfile × VaProfile)} {m : Match}

/-- A profile of the table is matched exactly if its VA profile is advertised. -/
lemma matchLoop_exact (hrow : (ff, va) ∈ rows) (honly : ∀ va', (ff, va') ∈ rows → va' = va)
    (hva : va ∈ advertised) : matchLoop (some ff) advertised rows m =
      { va := some va, ff := some ff, exact := true } := by
  induction rows generalizing m with
  | nil => exact absurd hrow List.not_mem_nil
  | cons row rows ih =>
      obtain ⟨mapFf, mapVa⟩ := row
      have hrest : (ff, va) ∈ rows → ∀ m, matchLoop (some ff) advertised rows m = _ := fun hrest m =>
        ih hrest fun va' h => honly va' (List.mem_cons_of_mem _ h)
      by_cases hout : mapVa ∉ advertised
      · rw [matchLoop, if_pos hout]
        refine hrest ((List.mem_cons.mp hrow).resolve_left ?_) m
        rintro heq
        obtain ⟨rfl, rfl⟩ := Prod.mk.inj heq
        exact hout hva
      by_cases hsame : some ff = some mapFf
      · rw [matchLoop, if_neg hout, if_pos hsame]
        obtain rfl := Option.some.inj hsame
        rw [honly mapVa List.mem_cons_self]
      · rw [matchLoop, if_neg hout, if_neg hsame]
        refine hrest ((List.mem_cons.mp hrow).resolve_left ?_) _
        rintro heq
        obtain ⟨rfl, rfl⟩ := Prod.mk.inj heq
        exact hsame rfl

/-- A profile that is not in the table is never matched exactly; some VA profile is matched if one of
the table is advertised. -/
lemma matchLoop_inexact (hnone : ∀ va', (ff, va') ∉ rows) (hm : m.exact = false)
    (hva : m.va.isSome = true ∨ ∃ row ∈ rows, row.2 ∈ advertised) :
    (matchLoop (some ff) advertised rows m).exact = false ∧
      (matchLoop (some ff) advertised rows m).va.isSome = true := by
  induction rows generalizing m with
  | nil =>
      refine ⟨hm, hva.resolve_right ?_⟩
      rintro ⟨row, hrow, _⟩
      exact absurd hrow List.not_mem_nil
  | cons row rows ih =>
      obtain ⟨mapFf, mapVa⟩ := row
      have hnone' : ∀ va', (ff, va') ∉ rows := fun va' h => hnone va' (List.mem_cons_of_mem _ h)
      have hsame : some ff ≠ some mapFf := by
        rintro heq
        obtain rfl := Option.some.inj heq
        exact hnone mapVa List.mem_cons_self
      by_cases hout : mapVa ∉ advertised
      · rw [matchLoop, if_pos hout]
        refine ih hnone' hm (hva.imp_right ?_)
        rintro ⟨row, hrow, hadvertised⟩
        refine ⟨row, (List.mem_cons.mp hrow).resolve_left ?_, hadvertised⟩
        rintro rfl
        exact hout hadvertised
      · rw [matchLoop, if_neg hout, if_neg hsame]
        exact ih hnone' rfl (Or.inl rfl)

/-- A profile that the proposal maps is in the table, or is Baseline or Extended. -/
lemma proposedVaForSafeStream_cases {ff? : Option FfProfile} {pictures : List Picture} {why : String}
    (h : proposedVaForSafeStream ff? pictures = (some va, why)) :
    (∃ ff, ff? = some ff ∧ (ff, va) ∈ vaapiProfileMap ∧ why = "exact_profile_match") ∨
      (∃ ff, ff? = some ff ∧ (ff = .baseline ∨ ff = .extended) ∧ why ≠ "exact_profile_match") := by
  rw [proposedVaForSafeStream.eq_def] at h
  split at h
  case h_6 =>
    split_ifs at h
    · exact absurd (congrArg Prod.fst h) (by simp)
    · obtain ⟨_, rfl⟩ := Prod.mk.inj h
      exact Or.inr ⟨_, rfl, Or.inl rfl, by decide⟩
  case h_7 =>
    obtain ⟨_, rfl⟩ := Prod.mk.inj h
    exact Or.inr ⟨_, rfl, Or.inr rfl, by decide⟩
  case h_8 => exact absurd (congrArg Prod.fst h) (by simp)
  all_goals
    obtain ⟨hva, rfl⟩ := Prod.mk.inj h
    obtain rfl := Option.some.inj hva
    exact Or.inl ⟨_, rfl, by decide, rfl⟩

/-- A profile of the table is selected exactly. -/
lemma vaapiCurrentMatch_exact (hrow : (ff, va) ∈ vaapiProfileMap) (hva : va ∈ advertised)
    (allow : Bool) : vaapiCurrentMatch (some ff) advertised allow =
      { status := .select, reason := "exact_profile_match", vaProfile := some va,
        ffmpegProfile := some ff, exactMatch := some true, path := "current" } := by
  have honly : ∀ va', (ff, va') ∈ vaapiProfileMap → va' = va := by
    revert hrow
    clear hva
    revert va
    cases ff <;> simp [vaapiProfileMap]
  rw [vaapiCurrentMatch, matchLoop_exact hrow honly hva]
  rfl

/-- Baseline and Extended are refused. -/
lemma vaapiCurrentMatch_refuse (hff : ff = .baseline ∨ ff = .extended) (hva : va ∈ advertised) :
    (vaapiCurrentMatch (some ff) advertised false).status = .refuse ∧
      (vaapiCurrentMatch (some ff) advertised false).reason = "profile_mismatch" := by
  have hnone : ∀ va', (ff, va') ∉ vaapiProfileMap := by
    rcases hff with rfl | rfl <;> simp [vaapiProfileMap]
  have hrow : ∃ row ∈ vaapiProfileMap, row.2 ∈ advertised := by
    cases va with
    | constrainedBaseline => exact ⟨(.constrainedBaseline, .constrainedBaseline), by decide, hva⟩
    | main => exact ⟨(.main, .main), by decide, hva⟩
    | high => exact ⟨(.high, .high), by decide, hva⟩
    | high10 => exact ⟨(.high10, .high10), by decide, hva⟩
  obtain ⟨hexact, hsome⟩ := matchLoop_inexact (m := {}) hnone rfl (Or.inr hrow)
  obtain ⟨va', hva'⟩ := Option.isSome_iff_exists.mp hsome
  simp [vaapiCurrentMatch, hexact, hva']

end Current

/-- **Profile selection is sound for the whole stream.**  A profile that the proposal selects is
advertised and fits every picture; a selection that is marked exact is the exact match of the current
selection, and one that is not is refused there unless a mismatch is allowed. -/
theorem selection_sound {stream advertised : Json} {r : Result}
    (h : selectProposed stream advertised defaultChecks = .ok r) (hselect : r.status = .select) :
    ∃ inv va, validateInventory stream advertised = .ok inv ∧ r.vaProfile = some va ∧
      va ∈ inv.advertised ∧ (∀ pic ∈ inv.pictures, Fits va pic) ∧
      (r.exactMatch = some true → ∀ allow, ∃ r', selectCurrent stream advertised allow = .ok r' ∧
        r'.status = .select ∧ r'.exactMatch = some true ∧ r'.vaProfile = some va) ∧
      (r.exactMatch ≠ some true → ∀ allow, inv.allowProfileMismatch.getD allow = false →
        ∃ r', selectCurrent stream advertised allow = .ok r' ∧ r'.status = .refuse) := by
  simp only [selectProposed, Except.bind_ok, Except.pure_ok] at h
  obtain ⟨inv, hinv, rfl⟩ := h
  obtain ⟨va, why, hchosen, hselected⟩ := chosen_of_select hselect
  rw [selected, if_neg (not_not.mpr hchosen.advertised)] at hselected
  rw [hselected]
  have hcurrent : ∀ allow, selectCurrent stream advertised allow = .ok (vaapiCurrentMatch
      (ffmpegProfileFromSps inv.first.sps) inv.advertised (inv.allowProfileMismatch.getD allow)) := by
    intro allow
    simp only [selectCurrent, Except.bind_ok, Except.pure_ok]
    exact ⟨inv, hinv, rfl⟩
  have hcases := proposedVaForSafeStream_cases hchosen.safe
  refine ⟨inv, va, hinv, rfl, hchosen.advertised, fun pic hpic => ?_, fun hexact allow => ?_,
    fun hexact allow hallow => ⟨_, hcurrent allow, ?_⟩⟩
  · exact fits_of_checks (hchosen.pictures pic hpic) (hchosen.compatible pic hpic)
  · rcases hcases with ⟨ff, hff, hrow, _⟩ | ⟨_, _, _, hwhy⟩
    · refine ⟨_, hcurrent allow, ?_⟩
      rw [hff, vaapiCurrentMatch_exact hrow hchosen.advertised]
      exact ⟨rfl, rfl, rfl⟩
    · simp [hwhy] at hexact
  · rcases hcases with ⟨_, _, _, hwhy⟩ | ⟨ff, hff, hkind, _⟩
    · simp [hwhy] at hexact
    · rw [hff, hallow]
      exact (vaapiCurrentMatch_refuse hkind hchosen.advertised).1

/-- A Baseline picture of two slices, an I and a P slice. -/
def baselinePicture : Json := .obj [
  ("sps", .obj [("profile_idc", .int 66), ("constraint_set1_flag", .int 0),
    ("constraint_set3_flag", .int 0), ("frame_mbs_only_flag", .int 1),
    ("mb_adaptive_frame_field_flag", .int 0), ("chroma_format_idc", .int 1),
    ("bit_depth_luma_minus8", .int 0), ("bit_depth_chroma_minus8", .int 0),
    ("parse_ok", .bool true)]),
  ("pps", .obj [("num_slice_groups_minus1", .int 0), ("entropy_coding_mode_flag", .int 0),
    ("redundant_pic_cnt_present_flag", .int 0), ("transform_8x8_mode_flag", .int 0),
    ("parse_ok", .bool true)]),
  ("slices", .arr [
    .obj [("nal_unit_type", .int 5), ("slice_type", .str "I"), ("field_pic_flag", .int 0),
      ("first_mb_in_slice", .int 0), ("redundant_pic_cnt", .int 0), ("parse_ok", .bool true)],
    .obj [("nal_unit_type", .int 5), ("slice_type", .str "P"), ("field_pic_flag", .int 0),
      ("first_mb_in_slice", .int 22), ("redundant_pic_cnt", .int 0), ("parse_ok", .bool true)]])]

/-- Two such pictures, with two profiles advertised. -/
def baselineStream : Json := .obj [
  ("pictures", .arr [baselinePicture, baselinePicture]),
  ("advertised", .arr [.str "VAProfileH264ConstrainedBaseline", .str "VAProfileH264Main"])]

/-- Constrained Baseline is selected for the two pictures, and they fit it. -/
theorem baselineStream_sound : ∃ r inv va,
    selectProposed baselineStream .null defaultChecks = .ok r ∧ r.status = .select ∧
      validateInventory baselineStream .null = .ok inv ∧ r.vaProfile = some va ∧
      va ∈ inv.advertised ∧ ∀ pic ∈ inv.pictures, Fits va pic := by
  have hselect : selectProposed baselineStream .null defaultChecks = .ok
      { status := .select, reason := "baseline_constrained_subset",
        vaProfile := some .constrainedBaseline, ffmpegProfile := some .baseline,
        exactMatch := some false, path := "proposed" } := by decide +kernel
  obtain ⟨inv, va, hinv, hva, hadvertised, hfits, _⟩ := selection_sound hselect rfl
  exact ⟨_, inv, va, hselect, rfl, hinv, hva, hadvertised, hfits⟩

end OmarchyM1Video.ProfileSelection
