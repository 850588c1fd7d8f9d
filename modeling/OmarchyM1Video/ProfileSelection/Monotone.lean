import OmarchyM1Video.ProfileSelection.Soundness

/-!
The selection of a profile and the prefixes of a stream.

Every check of the proposal is a check of one picture, or of all pictures that have come so far, and
the profile is chosen by the first picture.  So a profile that is selected for a stream is selected for
every prefix of it.

* `Shortens`: the stream that keeps only the first pictures;
* `readPictures_append`, `validateInventory_shorter`: the inventory of a prefix;
* `proposedVaForSafeStream_append`, `Chosen.shorter`: what has been checked of a stream has been checked
  of its prefix;
* `select_shorter`: the selection is the same.
-/

namespace OmarchyM1Video.ProfileSelection

open OmarchyM1Video.Py

/-- A stream with the first pictures of another: everything else in the two is the same. -/
structure Shortens (shorter stream : Json) (first rest : List Json) : Prop where
  objects : shorter.isObj = true ∧ stream.isObj = true
  pictures : stream.get? "pictures" = some (.arr (first ++ rest))
  kept : shorter.get? "pictures" = some (.arr first)
  others : ∀ key, key ≠ "pictures" → shorter.get? key = stream.get? key

section Validation

variable {shorter stream advertised : Json} {first rest : List Json}

/-- The pictures of a prefix are a prefix of the pictures. -/
lemma readPictures_append (hne : first ≠ []) {pictures : { pictures : List Picture // pictures ≠ [] }}
    (h : readPictures (.arr (first ++ rest)) = .ok pictures) :
    ∃ shorterPictures, readPictures (.arr first) = .ok shorterPictures ∧
      ∃ more, pictures.1 = shorterPictures.1 ++ more := by
  obtain ⟨x, xs, rfl⟩ := List.exists_cons_of_ne_nil hne
  simp only [List.cons_append, readPictures, List.zipIdx_append, List.mapM_append, Except.bind_ok,
    Except.pure_ok] at h ⊢
  obtain ⟨picture, hx, all, ⟨head, hhead, more, _, rfl⟩, rfl⟩ := h
  exact ⟨_, ⟨picture, hx, head, hhead, rfl⟩, more, rfl⟩

/-- The inventory of a prefix has a prefix of the pictures, and the same profiles. -/
lemma validateInventory_shorter (hshort : Shortens shorter stream first rest) (hne : first ≠ [])
    {inv : Inventory} (h : validateInventory stream advertised = .ok inv) :
    ∃ inv', validateInventory shorter advertised = .ok inv' ∧ inv'.advertised = inv.advertised ∧
      ∃ more, inv.pictures = inv'.pictures ++ more := by
  have hprofiles : profilesOf shorter advertised = profilesOf stream advertised := by
    cases advertised with
    | null =>
        rw [profilesOf, profilesOf, itemOf, itemOf, hshort.others "advertised" (by decide)]
    | _ => rfl
  have hallowed := hshort.others "allow_profile_mismatch" (by decide)
  simp only [validateInventory, Except.bind_ok, Except.pure_ok, need_ok, itemOf, hshort.pictures,
    hshort.kept, hprofiles, hallowed, Option.getD_some] at h ⊢
  obtain ⟨_, _, pictures, hpictures, profiles, hadvertised, allow, hallow, rfl⟩ := h
  obtain ⟨pictures', hpictures', more, hmore⟩ := readPictures_append hne hpictures
  exact ⟨_, ⟨(), hshort.objects.1, pictures', hpictures', profiles, hadvertised, allow, hallow, rfl⟩,
    rfl, more, hmore⟩

end Validation

section Proposal

variable {inv inv' : Inventory} {va : VaProfile} {why : String} {more : List Picture}

/-- A stream without B slices has a prefix without them. -/
lemma proposedVaForSafeStream_append {ff : Option FfProfile} {pictures : List Picture}
    (h : proposedVaForSafeStream ff (pictures ++ more) = (some va, why)) :
    proposedVaForSafeStream ff pictures = (some va, why) := by
  by_cases hbaseline : ff = some .baseline
  · subst hbaseline
    simp only [proposedVaForSafeStream] at h ⊢
    have hnone : hasBSlice pictures = false := by
      have hall : hasBSlice (pictures ++ more) = false := by
        by_contra hb
        rw [if_pos (by simpa using hb)] at h
        exact absurd (congrArg Prod.fst h) (by simp)
      rw [hasBSlice, List.any_append, Bool.or_eq_false_iff] at hall
      exact hall.1
    rw [hnone, if_neg (by decide)]
    rw [hasBSlice] at h
    split_ifs at h
    · exact absurd (congrArg Prod.fst h) (by simp)
    · exact h
  · rw [← h]
    cases ff with
    | none => rfl
    | some ff => cases ff <;> first | rfl | exact absurd rfl hbaseline

lemma first_eq (hmore : inv.pictures = inv'.pictures ++ more) : inv.first = inv'.first := by
  rw [Inventory.first, Inventory.first]
  simp only [hmore]
  exact List.head_append_of_ne_nil _

/-- What has been checked of a stream has been checked of its prefix. -/
lemma Chosen.shorter (h : Chosen inv va why) (hadvertised : inv'.advertised = inv.advertised)
    (hmore : inv.pictures = inv'.pictures ++ more) : Chosen inv' va why where
  pictures pic hpic := h.pictures pic (hmore ▸ List.mem_append_left more hpic)
  safe := by
    have hsafe := h.safe
    rw [first_eq hmore, hmore] at hsafe
    exact proposedVaForSafeStream_append hsafe
  compatible pic hpic := h.compatible pic (hmore ▸ List.mem_append_left more hpic)
  advertised := hadvertised ▸ h.advertised

/-- A stream that passes the checks gets its profile. -/
lemma Chosen.proposal (h : Chosen inv va why) : proposal inv defaultChecks =
    selected (ffmpegProfileFromSps inv.first.sps) inv.advertised va why := by
  have hpictures := firstReason_eq_none.mpr h.pictures
  have hcompatible : firstReason (fun pic => spsIncompatibleWithVa pic.sps va) inv.pictures = none :=
    firstReason_eq_none.mpr h.compatible
  simp only [defaultChecks] at hpictures
  simp only [ProfileSelection.proposal, defaultChecks, if_true, hpictures, h.safe, hcompatible]

end Proposal

/-- **The selection is monotone in the prefix.**  A profile that is selected for a stream is selected
for every nonempty prefix of its pictures, for the same reason: once a prefix is not accepted, no
continuation of it is. -/
theorem select_shorter {shorter stream advertised : Json} {first rest : List Json} {r : Result}
    (hshort : Shortens shorter stream first rest) (hne : first ≠ [])
    (h : selectProposed stream advertised defaultChecks = .ok r) (hselect : r.status = .select) :
    selectProposed shorter advertised defaultChecks = .ok r := by
  simp only [selectProposed, Except.bind_ok, Except.pure_ok] at h ⊢
  obtain ⟨inv, hinv, rfl⟩ := h
  obtain ⟨inv', hinv', hadvertised, more, hmore⟩ := validateInventory_shorter hshort hne hinv
  obtain ⟨va, why, hchosen, hselected⟩ := chosen_of_select hselect
  refine ⟨inv', hinv', ?_⟩
  rw [(hchosen.shorter hadvertised hmore).proposal, hselected, first_eq hmore, hadvertised]

/-- The first of the two Baseline pictures. -/
def baselineStart : Json := .obj [
  ("pictures", .arr [baselinePicture]),
  ("advertised", .arr [.str "VAProfileH264ConstrainedBaseline", .str "VAProfileH264Main"])]

lemma baselineStart_shortens :
    Shortens baselineStart baselineStream [baselinePicture] [baselinePicture] where
  objects := ⟨rfl, rfl⟩
  pictures := rfl
  kept := rfl
  others key hkey := by
    simp only [baselineStart, baselineStream, Json.get?, Json.member?, List.find?]
    rw [decide_eq_false (Ne.symm hkey)]

/-- Constrained Baseline is selected for the first of the two pictures as it is for both. -/
theorem baselineStart_selected : selectProposed baselineStart .null defaultChecks = .ok
    { status := .select, reason := "baseline_constrained_subset",
      vaProfile := some .constrainedBaseline, ffmpegProfile := some .baseline,
      exactMatch := some false, path := "proposed" } := by
  have hselect : selectProposed baselineStream .null defaultChecks = .ok
      { status := .select, reason := "baseline_constrained_subset",
        vaProfile := some .constrainedBaseline, ffmpegProfile := some .baseline,
        exactMatch := some false, path := "proposed" } := by decide +kernel
  exact select_shorter baselineStart_shortens (List.cons_ne_nil _ _) hselect rfl

end OmarchyM1Video.ProfileSelection
