import Mathlib.Data.List.Induction
import OmarchyM1Video.HevcParamSets.Model

/-!
What each function does to the tables.

* `Linked`: the SPS of a stored PPS is the one stored under its id, and so is the VPS of an SPS;
* `Removed`: sequence parameter sets are removed with what depends on them, which waits for its
  replacement; this is what `removeSps` and `removeVps` do;
* `DecodedVps`, `DecodedSps`, `DecodedPps`: the ways in which a set can be decoded;
* `Resolved`: the ways in which a pending entry can be resolved.
-/

namespace OmarchyM1Video.HevcParamSets

variable {B V S P : Type} {ps ps' ps'' : ParamSets B V S P}

/-! ### Removing sets -/

lemma moved_eq_some_iff {α D : Type} {stored : Option α} {hit : α → Bool}
    {entry : α → PendingPS B D} {pending : Option (PendingPS B D)} {q : PendingPS B D} :
    moved stored hit entry pending = some q ↔
      pending = some q ∨ pending = none ∧ ∃ a, stored = some a ∧ hit a = true ∧ q = entry a := by
  rw [moved]
  rcases hstored : stored.filter hit with _ | a
  · have hmiss : ∀ a, stored = some a → ¬ hit a = true := by
      rintro a rfl hhit
      simp [hhit] at hstored
    refine ⟨Or.inl, ?_⟩
    rintro (h | ⟨-, a, ha, hhit, -⟩)
    · exact h
    · exact absurd hhit (hmiss a ha)
  · obtain ⟨hsome, hhit⟩ := Option.filter_eq_some_iff.mp hstored
    cases pending with
    | none =>
        simp only [Option.getD_none, Option.some.injEq, reduceCtorEq, true_and, false_or, hsome]
        constructor
        · rintro rfl
          exact ⟨a, rfl, hhit, rfl⟩
        · rintro ⟨a', rfl, -, rfl⟩
          rfl
    | some p => simp

/-- The SPS of a stored PPS is the one stored under its id. -/
def PpsLinked (ps : ParamSets B V S P) : Prop := ∀ k p, ps.pps k = some p → ps.sps p.spsId = some p.sps

/-- The VPS of a stored SPS is the one stored under its id. -/
def SpsLinked (ps : ParamSets B V S P) : Prop := ∀ i s, ps.sps i = some s → ps.vps s.vpsId = some s.vps

/-- The sequence parameter sets in `D` are removed, and what depends on them becomes pending. -/
structure Removed (D : SpsId → Prop) (ps ps' : ParamSets B V S P) : Prop where
  sps : ∀ i s, ps'.sps i = some s ↔ ps.sps i = some s ∧ ¬ D i
  pps : ∀ k p, ps'.pps k = some p ↔ ps.pps k = some p ∧ ¬ D p.spsId
  pendingPps : ∀ k q, ps'.pendingPps k = some q ↔ ps.pendingPps k = some q ∨
    ps.pendingPps k = none ∧ ∃ p, ps.pps k = some p ∧ D p.spsId ∧
      q = { data := p.data, depId := p.spsId, received := ps.ppsTime k }
  next : ps'.next = ps.next
  arrived : ps'.arrived = ps.arrived
  spsTime : ps'.spsTime = ps.spsTime
  ppsTime : ps'.ppsTime = ps.ppsTime
  reparsed : ps'.reparsed = ps.reparsed

lemma Removed.refl {D : SpsId → Prop} (hD : ∀ i, ¬ D i) : Removed D ps ps := by
  refine ⟨fun i s => ?_, fun k p => ?_, fun k q => ?_, rfl, rfl, rfl, rfl, rfl⟩
  · simp [hD]
  · simp [hD]
  · simp [hD]

lemma Removed.pendingPps_none {D : SpsId → Prop} (h : Removed D ps ps') {k : PpsId} :
    ps'.pendingPps k = none ↔
      ps.pendingPps k = none ∧ ∀ p, ps.pps k = some p → ¬ D p.spsId := by
  simp only [Option.eq_none_iff_forall_ne_some, ne_eq, h.pendingPps, not_or, not_and, not_exists]
  constructor
  · intro hnone
    refine ⟨fun q => (hnone q).1, fun p hp hD => ?_⟩
    exact (hnone _).2 (fun q => (hnone q).1) p hp hD rfl
  · rintro ⟨hnone, hpps⟩ q
    exact ⟨hnone q, fun _ p hp hD _ => hpps p hp hD⟩

lemma Removed.trans {D E : SpsId → Prop} (h : Removed D ps ps') (h' : Removed E ps' ps'') :
    Removed (fun i => D i ∨ E i) ps ps'' := by
  refine ⟨fun i s => ?_, fun k p => ?_, fun k q => ?_, h'.next.trans h.next,
    h'.arrived.trans h.arrived, h'.spsTime.trans h.spsTime, h'.ppsTime.trans h.ppsTime,
    h'.reparsed.trans h.reparsed⟩
  · rw [h'.sps, h.sps, not_or, and_assoc]
  · rw [h'.pps, h.pps, not_or, and_assoc]
  · rw [h'.pendingPps, h.pendingPps, h.pendingPps_none, h.ppsTime]
    constructor
    · rintro ((hq | ⟨hnone, p, hp, hD, rfl⟩) | ⟨⟨hnone, -⟩, p, hp, hE, rfl⟩)
      · exact Or.inl hq
      · exact Or.inr ⟨hnone, p, hp, Or.inl hD, rfl⟩
      · exact Or.inr ⟨hnone, p, ((h.pps k p).mp hp).1, Or.inr hE, rfl⟩
    · rintro (hq | ⟨hnone, p, hp, hDE, rfl⟩)
      · exact Or.inl (Or.inl hq)
      · by_cases hD : D p.spsId
        · exact Or.inl (Or.inr ⟨hnone, p, hp, hD, rfl⟩)
        · refine Or.inr ⟨⟨hnone, fun p' hp' => ?_⟩, p, (h.pps k p).mpr ⟨hp, hD⟩,
            hDE.resolve_left hD, rfl⟩
          rwa [Option.some.inj (hp'.symm.trans hp)]

lemma Removed.congr {D E : SpsId → Prop} (h : Removed D ps ps') (hDE : ∀ i, D i ↔ E i) :
    Removed E ps ps' := by
  rwa [← funext fun i => propext (hDE i)]

/-- What is left is linked. -/
lemma Removed.ppsLinked {D : SpsId → Prop} (h : Removed D ps ps') (hps : PpsLinked ps) :
    PpsLinked ps' := by
  intro k p hp
  obtain ⟨hp, hD⟩ := (h.pps k p).mp hp
  exact (h.sps _ _).mpr ⟨hps k p hp, hD⟩

@[simp] lemma removeSps_vps (ps : ParamSets B V S P) (id : SpsId) : (removeSps ps id).vps = ps.vps := by
  rw [removeSps]
  split_ifs <;> rfl

@[simp] lemma removeSps_pendingSps (ps : ParamSets B V S P) (id : SpsId) :
    (removeSps ps id).pendingSps = ps.pendingSps := by
  rw [removeSps]
  split_ifs <;> rfl

/-- `remove_sps` removes one SPS. -/
lemma removeSps_removed (hps : PpsLinked ps) (id : SpsId) :
    Removed (fun i => i = id) ps (removeSps ps id) := by
  rw [removeSps]
  split_ifs with hsome
  · refine ⟨fun i s => ?_, fun k p => ?_, fun k q => ?_, rfl, rfl, rfl, rfl, rfl⟩
    · by_cases hi : i = id
      · simp [hi]
      · simp [hi, Function.update_of_ne]
    · simp [Option.filter_eq_some_iff]
    · simp only [moved_eq_some_iff, beq_iff_eq]
      constructor
      · rintro (hq | ⟨hnone, p, hp, rfl, rfl⟩)
        · exact Or.inl hq
        · exact Or.inr ⟨hnone, p, hp, rfl, rfl⟩
      · rintro (hq | ⟨hnone, p, hp, rfl, rfl⟩)
        · exact Or.inl hq
        · exact Or.inr ⟨hnone, p, hp, rfl, rfl⟩
  · -- There is no such SPS, and so no PPS of it.
    have hnone : ps.sps id = none := Option.not_isSome_iff_eq_none.mp hsome
    have hpps : ∀ k p, ps.pps k = some p → p.spsId ≠ id := by
      rintro k p hp rfl
      simp [hps k p hp] at hnone
    refine ⟨fun i s => ?_, fun k p => ?_, fun k q => ?_, rfl, rfl, rfl, rfl, rfl⟩
    · constructor
      · intro hs
        refine ⟨hs, ?_⟩
        rintro rfl
        simp [hs] at hnone
      · exact And.left
    · exact ⟨fun hp => ⟨hp, hpps k p hp⟩, And.left⟩
    · refine ⟨Or.inl, ?_⟩
      rintro (hq | ⟨-, p, hp, hid, -⟩)
      · exact hq
      · exact absurd hid (hpps k p hp)

/-- The pending entries of the sequence parameter sets in `D`, when their VPS is removed. -/
def MovedSps (D : SpsId → Prop) (v : VpsId) (ps ps' : ParamSets B V S P) : Prop :=
  ∀ i q, ps'.pendingSps i = some q ↔ ps.pendingSps i = some q ∨
    ps.pendingSps i = none ∧ ∃ s, ps.sps i = some s ∧ D i ∧
      q = { data := s.data, depId := v, received := ps.spsTime i }

/-- The stored SPS `i` depends on VPS `v`. -/
def DependsOn (ps : ParamSets B V S P) (v : VpsId) (i : SpsId) : Prop :=
  ∃ s, ps.sps i = some s ∧ s.vpsId = v

/-- The sets that depend on a VPS are removed, as far as `D` goes. -/
structure Swept (D : SpsId → Prop) (v : VpsId) (ps ps' : ParamSets B V S P) : Prop
    extends Removed D ps ps' where
  vps : ps'.vps = ps.vps
  pendingSps : MovedSps D v ps ps'

lemma MovedSps.none_iff {D : SpsId → Prop} {v : VpsId} (h : MovedSps D v ps ps') {i : SpsId} :
    ps'.pendingSps i = none ↔
      ps.pendingSps i = none ∧ ∀ s, ps.sps i = some s → ¬ D i := by
  simp only [Option.eq_none_iff_forall_ne_some, ne_eq, h i, not_or, not_and, not_exists]
  constructor
  · intro hnone
    refine ⟨fun q => (hnone q).1, fun s hs hD => ?_⟩
    exact (hnone _).2 (fun q => (hnone q).1) s hs hD rfl
  · rintro ⟨hnone, hsps⟩ q
    exact ⟨hnone q, fun _ s hs hD _ => hsps s hs hD⟩

lemma Swept.trans {D E : SpsId → Prop} {v : VpsId} (h : Swept D v ps ps') (h' : Swept E v ps' ps'') :
    Swept (fun i => D i ∨ E i) v ps ps'' := by
  refine ⟨h.toRemoved.trans h'.toRemoved, h'.vps.trans h.vps, fun i q => ?_⟩
  rw [h'.pendingSps i q, h.pendingSps i q, h.pendingSps.none_iff, h.spsTime]
  constructor
  · rintro ((hq | ⟨hnone, s, hs, hD, rfl⟩) | ⟨⟨hnone, -⟩, s, hs, hE, rfl⟩)
    · exact Or.inl hq
    · exact Or.inr ⟨hnone, s, hs, Or.inl hD, rfl⟩
    · exact Or.inr ⟨hnone, s, ((h.sps i s).mp hs).1, Or.inr hE, rfl⟩
  · rintro (hq | ⟨hnone, s, hs, hDE, rfl⟩)
    · exact Or.inl (Or.inl hq)
    · by_cases hD : D i
      · exact Or.inl (Or.inr ⟨hnone, s, hs, hD, rfl⟩)
      · exact Or.inr ⟨⟨hnone, fun _ _ => hD⟩, s, (h.sps i s).mpr ⟨hs, hD⟩, hDE.resolve_left hD, rfl⟩

lemma Swept.congr {D E : SpsId → Prop} {v : VpsId} (h : Swept D v ps ps') (hDE : ∀ i, D i ↔ E i) :
    Swept E v ps ps' := by
  rwa [← funext fun i => propext (hDE i)]

lemma Swept.refl {D : SpsId → Prop} {v : VpsId} (hD : ∀ i, ¬ D i) : Swept D v ps ps :=
  ⟨Removed.refl hD, rfl, fun i q => by simp [hD]⟩

lemma removeSpsOf_of_not {v : VpsId} {i : SpsId} (h : ¬ DependsOn ps v i) :
    removeSpsOf v ps i = ps := by
  rcases hs : ps.sps i with _ | s
  · simp [removeSpsOf, hs]
  · have hv : s.vpsId ≠ v := fun hv => h ⟨s, hs, hv⟩
    simp [removeSpsOf, hs, hv, Option.filter]

lemma removeSpsOf_of_dependsOn {v : VpsId} {i : SpsId} {s : Sps B V S} (hs : ps.sps i = some s)
    (hv : s.vpsId = v) :
    removeSpsOf v ps i = removeSps (ps.keepPendingSps i ((ps.pendingSps i).getD
      { data := s.data, depId := v, received := ps.spsTime i })) i := by
  simp [removeSpsOf, hs, hv, Option.filter]

/-- One round of the loop of `remove_vps`. -/
lemma removeSpsOf_swept (hps : PpsLinked ps) (v : VpsId) (i : SpsId) :
    Swept (fun j => j = i ∧ DependsOn ps v i) v ps (removeSpsOf v ps i) := by
  by_cases hdep : DependsOn ps v i
  · obtain ⟨s, hs, hv⟩ := id hdep
    rw [removeSpsOf_of_dependsOn hs hv]
    generalize hentry : (ps.pendingSps i).getD _ = entry
    -- Keeping the entry of the SPS touches nothing that `remove_sps` looks at.
    have hlinked : PpsLinked (ps.keepPendingSps i entry) := hps
    have hremoved := removeSps_removed hlinked i
    refine ⟨?_, by rw [removeSps_vps]; rfl, fun j q => ?_⟩
    · refine Removed.congr (D := fun j => j = i) ?_ fun j => ?_
      · exact ⟨hremoved.sps, hremoved.pps, hremoved.pendingPps, hremoved.next, hremoved.arrived,
          hremoved.spsTime, hremoved.ppsTime, hremoved.reparsed⟩
      · exact ⟨fun hj => ⟨hj, hdep⟩, And.left⟩
    · rw [removeSps_pendingSps, ParamSets.keepPendingSps_pendingSps]
      by_cases hj : j = i
      · subst hj
        rw [Function.update_self, ← hentry]
        rcases hpending : ps.pendingSps j with _ | q'
        · simp [hs, hdep, eq_comm]
        · simp
      · simp [hj]
  · rw [removeSpsOf_of_not hdep]
    exact Swept.refl fun j hj => hdep hj.2

/-- The loop of `remove_vps`, over any of the ids. -/
lemma foldl_removeSpsOf_swept (hps : PpsLinked ps) (v : VpsId) (ids : List SpsId) :
    Swept (fun j => j ∈ ids ∧ DependsOn ps v j) v ps (ids.foldl (removeSpsOf v) ps) := by
  induction ids using List.reverseRecOn with
  | nil => exact Swept.refl (by simp)
  | append_singleton ids i ih =>
      rw [List.foldl_concat]
      have hstep := removeSpsOf_swept (ih.ppsLinked hps) v i
      refine (ih.trans hstep).congr fun j => ?_
      have hleft : DependsOn (ids.foldl (removeSpsOf v) ps) v i ↔
          DependsOn ps v i ∧ ¬ (i ∈ ids ∧ DependsOn ps v i) := by
        simp only [DependsOn, ih.sps]
        constructor
        · rintro ⟨s, ⟨hs, hnot⟩, hv⟩
          exact ⟨⟨s, hs, hv⟩, hnot⟩
        · rintro ⟨⟨s, hs, hv⟩, hnot⟩
          exact ⟨s, ⟨hs, hnot⟩, hv⟩
      rw [hleft, List.mem_append, List.mem_singleton]
      constructor
      · rintro (⟨hmem, hdep⟩ | ⟨rfl, hdep, -⟩)
        · exact ⟨Or.inl hmem, hdep⟩
        · exact ⟨Or.inr rfl, hdep⟩
      · rintro ⟨hmem, hdep⟩
        by_cases hids : j ∈ ids
        · exact Or.inl ⟨hids, hdep⟩
        · obtain rfl := hmem.resolve_left hids
          exact Or.inr ⟨rfl, hdep, fun h => hids h.1⟩

/-- `remove_vps` removes what depends on the VPS, and the VPS. -/
structure RemovedVps (v : VpsId) (ps ps' : ParamSets B V S P) : Prop
    extends Removed (DependsOn ps v) ps ps' where
  vps : ∀ w o, ps'.vps w = some o ↔ ps.vps w = some o ∧ w ≠ v
  pendingSps : MovedSps (DependsOn ps v) v ps ps'

lemma removeVps_removed (hpps : PpsLinked ps) (hsps : SpsLinked ps) (v : VpsId) :
    RemovedVps v ps (removeVps ps v) := by
  rw [removeVps]
  split_ifs with hsome
  · have hswept := (foldl_removeSpsOf_swept hpps v (List.finRange 16)).congr
      (E := DependsOn ps v) fun j => by simp
    refine ⟨⟨hswept.sps, hswept.pps, hswept.pendingPps, hswept.next, hswept.arrived,
      hswept.spsTime, hswept.ppsTime, hswept.reparsed⟩, fun w o => ?_, hswept.pendingSps⟩
    by_cases hw : w = v
    · simp [hw]
    · simp [hw, hswept.vps]
  · have hnone : ps.vps v = none := Option.not_isSome_iff_eq_none.mp hsome
    have hdep : ∀ i, ¬ DependsOn ps v i := by
      rintro i ⟨s, hs, rfl⟩
      simp [hsps i s hs] at hnone
    refine ⟨Removed.refl hdep, fun w o => ⟨fun ho => ⟨ho, ?_⟩, And.left⟩, fun i q => ?_⟩
    · rintro rfl
      simp [ho] at hnone
    · simp [hdep]

/-! ### Decoding a set -/

section Decoder

variable [DecidableEq B] {pr : Parser B V S P} {data : B} {time : ℕ}

/-- The ways in which a VPS is decoded. -/
inductive DecodedVps (pr : Parser B V S P) (ps : ParamSets B V S P) (data : B) :
    ParamSets B V S P → Prop
  | kept (h : pr.parseVps data = none ∨ ∃ o, ps.vps (pr.vpsId data) = some o ∧ o.data = data) :
      DecodedVps pr ps data ps
  | stored {content : V} (hparse : pr.parseVps data = some content) :
      DecodedVps pr ps data
        ((removeVps ps (pr.vpsId data)).storeVps (pr.vpsId data) data content)

lemma decodeNalVps_decoded : DecodedVps pr ps data (decodeNalVps pr ps data) := by
  rw [decodeNalVps]
  split_ifs with hrepeat
  · obtain ⟨o, ho, hdata⟩ := (Option.any_eq_true _ _).mp hrepeat
    exact .kept (Or.inr ⟨o, ho, of_decide_eq_true hdata⟩)
  · rcases hparse : pr.parseVps data with _ | content
    · exact .kept (Or.inl hparse)
    · exact .stored hparse

/-- The ways in which an SPS is decoded. -/
inductive DecodedSps (pr : Parser B V S P) (ps : ParamSets B V S P) (data : B) (time : ℕ) :
    ParamSets B V S P → Prop
  | unreadable (h : pr.spsIds data = none) : DecodedSps pr ps data time ps
  | deferred {v : VpsId} {i : SpsId} (hids : pr.spsIds data = some (v, i))
      (hvps : ps.vps v = none) :
      DecodedSps pr ps data time
        (ps.keepPendingSps i { data := data, depId := v, received := time })
  | failed {v : VpsId} {i : SpsId} {vps : Vps B V} (hids : pr.spsIds data = some (v, i))
      (hvps : ps.vps v = some vps) (hparse : pr.parseSps data vps.content = none) :
      DecodedSps pr ps data time
        (ps.keepPendingSps i
          { data := data, depId := v, failedDep := some vps.ref, received := time })
  | repeated {v : VpsId} {i : SpsId} {s : Sps B V S} (hids : pr.spsIds data = some (v, i))
      (hs : ps.sps i = some s) (hdata : s.data = data) :
      DecodedSps pr ps data time ((ps.releaseSps i).stampSps i time)
  | stored {v : VpsId} {i : SpsId} {vps : Vps B V} {content : S}
      (hids : pr.spsIds data = some (v, i)) (hvps : ps.vps v = some vps)
      (hparse : pr.parseSps data vps.content = some content)
      (hnew : ∀ s, ps.sps i = some s → s.data ≠ data) :
      DecodedSps pr ps data time
        (((removeSps (ps.releaseSps i) i).storeSps i data content v vps).stampSps i time)

lemma decodeNalSps_decoded : DecodedSps pr ps data time (decodeNalSps pr ps data time) := by
  rw [decodeNalSps]
  rcases hids : pr.spsIds data with _ | ⟨v, i⟩
  · exact .unreadable hids
  rcases hvps : ps.vps v with _ | vps
  · simp only [hvps]
    exact .deferred hids hvps
  rcases hparse : pr.parseSps data vps.content with _ | content
  · simp only [hvps, hparse]
    exact .failed hids hvps hparse
  simp only [hvps, hparse]
  split_ifs with hrepeat
  · obtain ⟨s, hs, hdata⟩ := (Option.any_eq_true _ _).mp hrepeat
    exact .repeated hids hs (of_decide_eq_true hdata)
  · refine .stored hids hvps hparse fun s hs hdata => hrepeat ?_
    simp [hs, hdata]

/-- The ways in which a PPS is decoded. -/
inductive DecodedPps (pr : Parser B V S P) (ps : ParamSets B V S P) (data : B) (time : ℕ) :
    ParamSets B V S P → Prop
  | unreadable (h : pr.ppsIds data = none) : DecodedPps pr ps data time ps
  | repeated {k : PpsId} {i : SpsId} {p : Pps B V S P} (hids : pr.ppsIds data = some (k, i))
      (hp : ps.pps k = some p) (hdata : p.data = data) :
      DecodedPps pr ps data time ((ps.releasePps k).stampPps k time)
  | deferred {k : PpsId} {i : SpsId} (hids : pr.ppsIds data = some (k, i))
      (hsps : ps.sps i = none) :
      DecodedPps pr ps data time
        (ps.keepPendingPps k { data := data, depId := i, received := time })
  | failed {k : PpsId} {i : SpsId} {sps : Sps B V S} (hids : pr.ppsIds data = some (k, i))
      (hsps : ps.sps i = some sps) (hparse : pr.parsePps data sps.content = none) :
      DecodedPps pr ps data time
        (ps.keepPendingPps k
          { data := data, depId := i, failedDep := some sps.ref, received := time })
  | stored {k : PpsId} {i : SpsId} {sps : Sps B V S} {content : P}
      (hids : pr.ppsIds data = some (k, i)) (hsps : ps.sps i = some sps)
      (hparse : pr.parsePps data sps.content = some content) :
      DecodedPps pr ps data time
        (((ps.releasePps k).storePps k ⟨data, content, i, sps⟩).stampPps k time)

lemma decodeNalPps_decoded : DecodedPps pr ps data time (decodeNalPps pr ps data time) := by
  rw [decodeNalPps]
  rcases hids : pr.ppsIds data with _ | ⟨k, i⟩
  · exact .unreadable hids
  simp only
  split_ifs with hrepeat
  · obtain ⟨p, hp, hdata⟩ := (Option.any_eq_true _ _).mp hrepeat
    exact .repeated hids hp (of_decide_eq_true hdata)
  rcases hsps : ps.sps i with _ | sps
  · exact .deferred hids hsps
  rcases hparse : pr.parsePps data sps.content with _ | content
  · simp only [hparse]
    exact .failed hids hsps hparse
  · simp only [hparse]
    exact .stored hids hsps hparse

/-! ### Links -/

/-- Every stored set belongs to what is stored under the id of its dependency. -/
structure Linked (ps : ParamSets B V S P) : Prop where
  pps : PpsLinked ps
  sps : SpsLinked ps

omit [DecidableEq B] in
lemma Linked.stampSps (h : Linked ps) {i : SpsId} {time : ℕ} : Linked (ps.stampSps i time) :=
  ⟨h.pps, h.sps⟩

omit [DecidableEq B] in
lemma Linked.stampPps (h : Linked ps) {k : PpsId} {time : ℕ} : Linked (ps.stampPps k time) :=
  ⟨h.pps, h.sps⟩

omit [DecidableEq B] in
/-- After `remove_sps` an object can be stored in the slot. -/
lemma Linked.storeSps (h : Linked ps) {v : VpsId} {vps : Vps B V} (hvps : ps.vps v = some vps)
    (i : SpsId) (data : B) (content : S) :
    Linked ((removeSps ps i).storeSps i data content v vps) := by
  have hremoved := removeSps_removed h.pps i
  refine ⟨fun k p hp => ?_, fun j s hs => ?_⟩
  · obtain ⟨hp, hne⟩ := (hremoved.pps k p).mp hp
    rw [ParamSets.storeSps_sps, Function.update_of_ne hne]
    exact hremoved.ppsLinked h.pps k p ((hremoved.pps k p).mpr ⟨hp, hne⟩)
  · rw [ParamSets.storeSps_vps, removeSps_vps]
    rw [ParamSets.storeSps_sps] at hs
    by_cases hj : j = i
    · subst hj
      obtain rfl : _ = s := by simpa using hs
      exact hvps
    · rw [Function.update_of_ne hj] at hs
      exact h.sps j s ((hremoved.sps j s).mp hs).1

omit [DecidableEq B] in
/-- After `remove_vps` an object can be stored in the slot. -/
lemma Linked.storeVps (h : Linked ps) (v : VpsId) (data : B) (content : V) :
    Linked ((removeVps ps v).storeVps v data content) := by
  have hremoved := removeVps_removed h.pps h.sps v
  refine ⟨fun k p hp => hremoved.ppsLinked h.pps k p hp, fun j s hs => ?_⟩
  obtain ⟨hs, hdep⟩ := (hremoved.sps j s).mp hs
  have hne : s.vpsId ≠ v := fun hv => hdep ⟨s, hs, hv⟩
  rw [ParamSets.storeVps_vps, Function.update_of_ne hne]
  exact (hremoved.vps _ _).mpr ⟨h.sps j s hs, hne⟩

omit [DecidableEq B] in
lemma Linked.decodedVps (h : Linked ps) (hd : DecodedVps pr ps data ps') : Linked ps' := by
  cases hd with
  | kept => exact h
  | stored => exact h.storeVps _ _ _

omit [DecidableEq B] in
lemma Linked.decodedSps (h : Linked ps) (hd : DecodedSps pr ps data time ps') : Linked ps' := by
  cases hd with
  | unreadable => exact h
  | deferred => exact ⟨h.pps, h.sps⟩
  | failed => exact ⟨h.pps, h.sps⟩
  | repeated => exact ⟨h.pps, h.sps⟩
  | @stored v i vps content hids hvps hparse hnew =>
      have hreleased : Linked (ps.releaseSps i) := ⟨h.pps, h.sps⟩
      exact (hreleased.storeSps hvps i data content).stampSps

omit [DecidableEq B] in
lemma Linked.decodedPps (h : Linked ps) (hd : DecodedPps pr ps data time ps') : Linked ps' := by
  cases hd with
  | unreadable => exact h
  | repeated => exact ⟨h.pps, h.sps⟩
  | deferred => exact ⟨h.pps, h.sps⟩
  | failed => exact ⟨h.pps, h.sps⟩
  | @stored k i sps content hids hsps hparse =>
      refine ⟨fun k' p hp => ?_, h.sps⟩
      rw [ParamSets.stampPps_pps, ParamSets.storePps_pps] at hp
      by_cases hk : k' = k
      · subst hk
        obtain rfl : _ = p := by simpa using hp
        exact hsps
      · rw [Function.update_of_ne hk] at hp
        exact h.pps k' p hp

end Decoder

end OmarchyM1Video.HevcParamSets
