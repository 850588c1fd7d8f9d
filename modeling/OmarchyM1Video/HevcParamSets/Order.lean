import OmarchyM1Video.HevcParamSets.Current

/-!
The order in which parameter sets arrive.

No set is lost: whatever has arrived is stored or pending under its id, and a set that is stored was
parsed against the stored set it depends on.  If no two sets have the same kind and id, then nothing is
ever replaced, and what a picture finds is a function of which sets have arrived, not of their order.

* `Covered`: no set is lost, over whole runs (`run_covered`);
* `spsSet`, `ppsSet`: what the slots hold, stored or pending, and that it is what has arrived;
* `answer`: what a picture finds, from the sets that have arrived;
* `activate_answer`: the answer that `ff_hevc_ps_activate` gives in any state;
* `arrival_order`: every order gives the same answers as the order of dependency.
-/

namespace OmarchyM1Video.HevcParamSets

variable {B V S P : Type} {ps ps' : ParamSets B V S P} {pr : Parser B V S P}

/-! ### No set is lost -/

/-- What has arrived is stored or pending, and what is stored was parsed. -/
structure Covered (pr : Parser B V S P) (ps : ParamSets B V S P) : Prop where
  vps : ∀ nal v, nal ∈ ps.arrived → ParsesVps pr v nal → ∃ o, ps.vps v = some o
  sps : ∀ nal i, nal ∈ ps.arrived → IsSps pr i nal →
    (∃ s, ps.sps i = some s) ∨ ∃ q, ps.pendingSps i = some q
  pps : ∀ nal k, nal ∈ ps.arrived → IsPps pr k nal →
    (∃ p, ps.pps k = some p) ∨ ∃ q, ps.pendingPps k = some q
  vpsParsed : ∀ v o, ps.vps v = some o → pr.parseVps o.data = some o.content
  ppsParsed : ∀ k p, ps.pps k = some p → pr.parsePps p.data p.sps.content = some p.content

/-- No slot becomes empty, and what is new in a list was parsed. -/
structure Keeps (pr : Parser B V S P) (ps ps' : ParamSets B V S P) : Prop where
  vps : ∀ v, (∃ o, ps.vps v = some o) → ∃ o, ps'.vps v = some o
  sps : ∀ i, ((∃ s, ps.sps i = some s) ∨ ∃ q, ps.pendingSps i = some q) →
    (∃ s, ps'.sps i = some s) ∨ ∃ q, ps'.pendingSps i = some q
  pps : ∀ k, ((∃ p, ps.pps k = some p) ∨ ∃ q, ps.pendingPps k = some q) →
    (∃ p, ps'.pps k = some p) ∨ ∃ q, ps'.pendingPps k = some q
  vpsParsed : ∀ v o, ps'.vps v = some o → ps.vps v = some o ∨ pr.parseVps o.data = some o.content
  ppsParsed : ∀ k p, ps'.pps k = some p → ps.pps k = some p ∨
    pr.parsePps p.data p.sps.content = some p.content

lemma Keeps.refl (ps : ParamSets B V S P) : Keeps pr ps ps :=
  ⟨fun _ => id, fun _ => id, fun _ => id, fun _ _ => Or.inl, fun _ _ => Or.inl⟩

lemma Keeps.covered (h : Keeps pr ps ps') (hps : Covered pr ps) (harrived : ps'.arrived = ps.arrived) :
    Covered pr ps' := by
  refine ⟨fun nal v hnal hv => ?_, fun nal i hnal hi => ?_, fun nal k hnal hk => ?_,
    fun v o ho => ?_, fun k p hp => ?_⟩
  · exact h.vps v (hps.vps nal v (harrived ▸ hnal) hv)
  · exact h.sps i (hps.sps nal i (harrived ▸ hnal) hi)
  · exact h.pps k (hps.pps nal k (harrived ▸ hnal) hk)
  · exact (h.vpsParsed v o ho).elim (hps.vpsParsed v o) id
  · exact (h.ppsParsed k p hp).elim (hps.ppsParsed k p) id

/-- A PPS that is removed waits for its SPS. -/
lemma Removed.occupied {D : SpsId → Prop} (h : Removed D ps ps') {k : PpsId}
    (hk : (∃ p, ps.pps k = some p) ∨ ∃ q, ps.pendingPps k = some q) :
    (∃ p, ps'.pps k = some p) ∨ ∃ q, ps'.pendingPps k = some q := by
  by_cases hpending : ∃ q, ps.pendingPps k = some q
  · obtain ⟨q, hq⟩ := hpending
    exact Or.inr ⟨q, (h.pendingPps k q).mpr (Or.inl hq)⟩
  · obtain ⟨p, hp⟩ := hk.resolve_right hpending
    by_cases hD : D p.spsId
    · refine Or.inr ⟨_, (h.pendingPps k _).mpr (Or.inr ⟨?_, p, hp, hD, rfl⟩)⟩
      exact Option.eq_none_iff_forall_ne_some.mpr fun q hq => hpending ⟨q, hq⟩
    · exact Or.inl ⟨p, (h.pps k p).mpr ⟨hp, hD⟩⟩

lemma DecodedVps.keeps {data : B} (h : Linked ps) (hd : DecodedVps pr ps data ps') :
    Keeps pr ps ps' := by
  cases hd with
  | kept => exact Keeps.refl ps
  | @stored content hparse =>
      have hr := removeVps_removed h.pps h.sps (pr.vpsId data)
      refine ⟨fun v hv => ?_, fun i hi => ?_, fun k hk => hr.toRemoved.occupied hk,
        fun v o ho => ?_, fun k p hp => Or.inl ((hr.pps k p).mp hp).1⟩
      · by_cases hvid : v = pr.vpsId data
        · exact ⟨_, by rw [ParamSets.storeVps_vps, hvid, Function.update_self]⟩
        · obtain ⟨o, ho⟩ := hv
          refine ⟨o, ?_⟩
          rw [ParamSets.storeVps_vps, Function.update_of_ne hvid]
          exact (hr.vps v o).mpr ⟨ho, hvid⟩
      · by_cases hpending : ∃ q, ps.pendingSps i = some q
        · obtain ⟨q, hq⟩ := hpending
          exact Or.inr ⟨q, (hr.pendingSps i q).mpr (Or.inl hq)⟩
        · obtain ⟨s, hs⟩ := hi.resolve_right hpending
          by_cases hdep : DependsOn ps (pr.vpsId data) i
          · refine Or.inr ⟨_, (hr.pendingSps i _).mpr (Or.inr ⟨?_, s, hs, hdep, rfl⟩)⟩
            exact Option.eq_none_iff_forall_ne_some.mpr fun q hq => hpending ⟨q, hq⟩
          · exact Or.inl ⟨s, (hr.sps i s).mpr ⟨hs, hdep⟩⟩
      · by_cases hvid : v = pr.vpsId data
        · subst hvid
          obtain rfl : _ = o := by simpa using ho
          exact Or.inr hparse
        · rw [ParamSets.storeVps_vps, Function.update_of_ne hvid] at ho
          exact Or.inl ((hr.vps v o).mp ho).1

/-- A VPS that parses is stored. -/
lemma DecodedVps.present {data : B} (hd : DecodedVps pr ps data ps')
    (hsome : (pr.parseVps data).isSome = true) : ∃ o, ps'.vps (pr.vpsId data) = some o := by
  cases hd with
  | kept hkept =>
      rcases hkept with hnone | ⟨o, ho, -⟩
      · simp [hnone] at hsome
      · exact ⟨o, ho⟩
  | stored => exact ⟨_, by rw [ParamSets.storeVps_vps, Function.update_self]⟩

/-- The slot of an SPS that is decoded is not empty afterwards, and no other slot becomes empty. -/
lemma DecodedSps.occupied {data : B} {time : ℕ} (h : Linked ps)
    (hd : DecodedSps pr ps data time ps') (i : SpsId) :
    (SpsSlot pr data i ∨ (∃ s, ps.sps i = some s) ∨ ∃ q, ps.pendingSps i = some q) →
      (∃ s, ps'.sps i = some s) ∨ ∃ q, ps'.pendingSps i = some q := by
  cases hd with
  | unreadable hids =>
      rintro (⟨v, hv⟩ | hold)
      · simp [hids] at hv
      · exact hold
  | @deferred v j hids hvps =>
      intro hi
      by_cases hij : i = j
      · exact Or.inr ⟨_, by rw [hij, ParamSets.keepPendingSps_pendingSps, Function.update_self]⟩
      · simpa [hij] using hi.resolve_left (not_spsSlot hids hij)
  | @failed v j vps hids hvps hparse =>
      intro hi
      by_cases hij : i = j
      · exact Or.inr ⟨_, by rw [hij, ParamSets.keepPendingSps_pendingSps, Function.update_self]⟩
      · simpa [hij] using hi.resolve_left (not_spsSlot hids hij)
  | @repeated v j s hids hs hdata =>
      intro hi
      by_cases hij : i = j
      · exact Or.inl ⟨s, by rw [hij]; exact hs⟩
      · simpa [hij] using hi.resolve_left (not_spsSlot hids hij)
  | @stored v j vps content hids hvps hparse hnew =>
      intro hi
      have hlinked : PpsLinked (ps.releaseSps j) := h.pps
      have hr := removeSps_removed hlinked j
      by_cases hij : i = j
      · exact Or.inl ⟨_, by rw [hij, ParamSets.stampSps_sps, ParamSets.storeSps_sps,
          Function.update_self]⟩
      · rcases hi.resolve_left (not_spsSlot hids hij) with ⟨s, hs⟩ | ⟨q, hq⟩
        · refine Or.inl ⟨s, ?_⟩
          rw [ParamSets.stampSps_sps, ParamSets.storeSps_sps, Function.update_of_ne hij]
          exact (hr.sps i s).mpr ⟨hs, hij⟩
        · exact Or.inr ⟨q, by simpa [hij] using hq⟩

lemma DecodedSps.keeps {data : B} {time : ℕ} (h : Linked ps) (hd : DecodedSps pr ps data time ps') :
    Keeps pr ps ps' := by
  refine ⟨fun v hv => by rwa [hd.vps], fun i hi => hd.occupied h i (Or.inr hi), fun k hk => ?_,
    fun v o ho => Or.inl (by rwa [hd.vps] at ho), fun k p hp => Or.inl (hd.pps h hp)⟩
  cases hd with
  | unreadable => exact hk
  | deferred => exact hk
  | failed => exact hk
  | repeated => exact hk
  | @stored v j vps content hids hvps hparse hnew =>
      have hlinked : PpsLinked (ps.releaseSps j) := h.pps
      exact (removeSps_removed hlinked j).occupied hk

/-- The slot of a PPS that is decoded is not empty afterwards, and no other slot becomes empty. -/
lemma DecodedPps.occupied {data : B} {time : ℕ} (hd : DecodedPps pr ps data time ps') (k : PpsId) :
    (PpsSlot pr data k ∨ (∃ p, ps.pps k = some p) ∨ ∃ q, ps.pendingPps k = some q) →
      (∃ p, ps'.pps k = some p) ∨ ∃ q, ps'.pendingPps k = some q := by
  cases hd with
  | unreadable hids =>
      rintro (⟨i, hi⟩ | hold)
      · simp [hids] at hi
      · exact hold
  | @repeated j i p hids hp hdata =>
      intro hk
      by_cases hkj : k = j
      · exact Or.inl ⟨p, by rw [hkj]; exact hp⟩
      · simpa [hkj] using hk.resolve_left (not_ppsSlot hids hkj)
  | @deferred j i hids hsps =>
      intro hk
      by_cases hkj : k = j
      · exact Or.inr ⟨_, by rw [hkj, ParamSets.keepPendingPps_pendingPps, Function.update_self]⟩
      · simpa [hkj] using hk.resolve_left (not_ppsSlot hids hkj)
  | @failed j i sps hids hsps hparse =>
      intro hk
      by_cases hkj : k = j
      · exact Or.inr ⟨_, by rw [hkj, ParamSets.keepPendingPps_pendingPps, Function.update_self]⟩
      · simpa [hkj] using hk.resolve_left (not_ppsSlot hids hkj)
  | @stored j i sps content hids hsps hparse =>
      intro hk
      by_cases hkj : k = j
      · exact Or.inl ⟨_, by rw [hkj, ParamSets.stampPps_pps, ParamSets.storePps_pps,
          Function.update_self]⟩
      · simpa [hkj] using hk.resolve_left (not_ppsSlot hids hkj)

lemma DecodedPps.keeps {data : B} {time : ℕ} (hd : DecodedPps pr ps data time ps') :
    Keeps pr ps ps' := by
  refine ⟨fun v hv => by rwa [hd.vps], fun i hi => by rwa [hd.sps, hd.pendingSps],
    fun k hk => hd.occupied k (Or.inr hk), fun v o ho => Or.inl (by rwa [hd.vps] at ho),
    fun k p hp => ?_⟩
  cases hd with
  | unreadable => exact Or.inl hp
  | repeated => exact Or.inl hp
  | deferred => exact Or.inl hp
  | failed => exact Or.inl hp
  | @stored j i sps content hids hsps hparse =>
      by_cases hkj : k = j
      · subst hkj
        obtain rfl : _ = p := by simpa using hp
        exact Or.inr hparse
      · exact Or.inl (by simpa [hkj] using hp)

section Decoder

variable [DecidableEq B]

lemma receive_covered (h : Linked ps) (hps : Covered pr ps) (nal : Nal B) :
    Covered pr (receive pr ps nal) := by
  have hlinked : Linked { ps with arrived := ps.arrived ++ [nal] } := ⟨h.pps, h.sps⟩
  have hkeeps : Keeps pr { ps with arrived := ps.arrived ++ [nal] } (receive pr ps nal) := by
    cases nal with
    | vps data => exact (receive_vps pr ps data).keeps hlinked
    | sps data => exact (receive_sps pr ps data).keeps hlinked
    | pps data => exact (receive_pps pr ps data).keeps
  have hmem : ∀ nal', nal' ∈ (receive pr ps nal).arrived → nal' ∈ ps.arrived ∨ nal' = nal := by
    intro nal' hnal'
    rw [receive_arrived h] at hnal'
    simpa using hnal'
  refine ⟨fun nal' v hnal' hv => ?_, fun nal' i hnal' hi => ?_, fun nal' k hnal' hk => ?_,
    fun v o ho => ?_, fun k p hp => ?_⟩
  · rcases hmem nal' hnal' with hold | rfl
    · exact hkeeps.vps v (hps.vps nal' v hold hv)
    · obtain ⟨data, rfl, rfl, hsome⟩ := hv
      exact (receive_vps pr ps data).present hsome
  · rcases hmem nal' hnal' with hold | rfl
    · exact hkeeps.sps i (hps.sps nal' i hold hi)
    · obtain ⟨data, v, rfl, hids⟩ := hi
      exact (receive_sps pr ps data).occupied hlinked i (Or.inl ⟨v, hids⟩)
  · rcases hmem nal' hnal' with hold | rfl
    · exact hkeeps.pps k (hps.pps nal' k hold hk)
    · obtain ⟨data, i, rfl, hids⟩ := hk
      exact (receive_pps pr ps data).occupied k (Or.inl ⟨i, hids⟩)
  · exact (hkeeps.vpsParsed v o ho).elim (hps.vpsParsed v o) id
  · exact (hkeeps.ppsParsed k p hp).elim (hps.ppsParsed k p) id

lemma ResolvedSps.keeps (h : Linked ps) {i : SpsId} {r : Bool × ParamSets B V S P}
    (hres : ResolvedSps pr ps i r) : Keeps pr ps r.2 := by
  cases hres with
  | absent => exact Keeps.refl ps
  | waiting => exact Keeps.refl ps
  | failed => exact Keeps.refl ps
  | @parsed q vps hq hvps hnot =>
      have hlinked : Linked { ps with reparsed := ps.reparsed ++ [(.sps, q.received, vps.ref)] } :=
        ⟨h.pps, h.sps⟩
      have hkeeps := (@decodeNalSps_decoded _ _ _ _ _ _ pr q.data q.received).keeps hlinked
      exact ⟨hkeeps.vps, hkeeps.sps, hkeeps.pps, hkeeps.vpsParsed, hkeeps.ppsParsed⟩

lemma ResolvedPps.keeps {k : PpsId} {r : Bool × ParamSets B V S P} (hres : ResolvedPps pr ps k r) :
    Keeps pr ps r.2 := by
  cases hres with
  | absent => exact Keeps.refl ps
  | waiting => exact Keeps.refl ps
  | failed => exact Keeps.refl ps
  | @parsed q sps hq hsps hnot =>
      have hkeeps : Keeps pr { ps with reparsed := ps.reparsed ++ [(.pps, q.received, sps.ref)] }
          (decodeNalPps pr _ q.data q.received) := decodeNalPps_decoded.keeps
      exact ⟨hkeeps.vps, hkeeps.sps, hkeeps.pps, hkeeps.vpsParsed, hkeeps.ppsParsed⟩

lemma activate_covered (h : Inv pr ps) (hps : Covered pr ps) (k : PpsId) (irap : Bool) :
    Covered pr (activate pr ps k irap).2 := by
  obtain ⟨r₁, hr₁, hcases⟩ := activate_cases pr ps k irap
  have h₁ : Covered pr r₁.2 := by
    rcases hr₁ with ⟨-, rfl⟩ | ⟨i, -, hres⟩
    · exact hps
    · exact (hres.keeps h.linked).covered hps (hres.arrived h.linked)
  rcases hcases with ⟨-, -, heq⟩ | ⟨-, r₂, hres, heq⟩
  · rwa [heq]
  · rw [heq]
    exact hres.keeps.covered h₁ hres.arrived

/-- **No set is lost**, in any run. -/
lemma run_covered (events : List (Event B)) : Covered pr (run pr events) := by
  induction events using List.reverseRecOn with
  | nil => exact ⟨nofun, nofun, nofun, nofun, nofun⟩
  | append_singleton events event ih =>
      have hinv : Inv pr (run pr events) := run_inv events
      rw [run, List.foldl_concat]
      change Covered pr (step pr (run pr events) event)
      cases event with
      | nal nal => exact receive_covered hinv.linked ih nal
      | slice ppsId irap =>
          rw [step, psActivate]
          split_ifs
          · exact activate_covered hinv ih _ irap
          · exact ih

/-- **The newest set is the one that is kept**, in any run of arrivals and pictures: for every id under
which an SPS or a PPS has arrived, the last one that arrived is pending, or nothing is pending and it is
the one that is stored.  A set counts under the id that is read from it, and no allocation fails. -/
theorem newest_kept (pr : Parser B V S P) (events : List (Event B)) :
    let ps := run pr events
    (∀ nal i, nal ∈ ps.arrived → IsSps pr i nal → ∃ t data, Newest (IsSps pr i) ps.arrived t ∧
      ps.arrived[t]? = some (.sps data) ∧
        ((∃ q, ps.pendingSps i = some q ∧ q.received = t ∧ q.data = data) ∨
          ps.pendingSps i = none ∧ ∃ s, ps.sps i = some s ∧ s.data = data)) ∧
    ∀ nal k, nal ∈ ps.arrived → IsPps pr k nal → ∃ t data, Newest (IsPps pr k) ps.arrived t ∧
      ps.arrived[t]? = some (.pps data) ∧
        ((∃ q, ps.pendingPps k = some q ∧ q.received = t ∧ q.data = data) ∨
          ps.pendingPps k = none ∧ ∃ p, ps.pps k = some p ∧ p.data = data) := by
  intro ps
  have hinv : Inv pr ps := run_inv events
  have hcovered : Covered pr ps := run_covered events
  refine ⟨fun nal i hnal hid => ?_, fun nal k hnal hid => ?_⟩
  · cases hpending : ps.pendingSps i with
    | some q =>
        have hentry := hinv.pendingSps i q id hpending
        exact ⟨q.received, q.data, hentry.newest, hentry.arrived, .inl ⟨q, rfl, rfl, rfl⟩⟩
    | none =>
        obtain ⟨s, hs⟩ | ⟨q, hq⟩ := hcovered.sps nal i hnal hid
        · exact ⟨ps.spsTime i, s.data, hinv.spsNewest i s id hs hpending, hinv.spsArrived i s id hs,
            .inr ⟨rfl, s, hs, rfl⟩⟩
        · exact absurd (hpending.symm.trans hq) (by simp)
  · cases hpending : ps.pendingPps k with
    | some q =>
        have hentry := hinv.pendingPps k q id hpending
        exact ⟨q.received, q.data, hentry.newest, hentry.arrived, .inl ⟨q, rfl, rfl, rfl⟩⟩
    | none =>
        obtain ⟨p, hp⟩ | ⟨q, hq⟩ := hcovered.pps nal k hnal hid
        · exact ⟨ps.ppsTime k, p.data, hinv.ppsNewest k p id hp hpending, hinv.ppsArrived k p id hp,
            .inr ⟨rfl, p, hp, rfl⟩⟩
        · exact absurd (hpending.symm.trans hq) (by simp)

end Decoder

/-! ### The sets that have arrived -/

/-- The kind and the id of a set. -/
inductive Key where
  | vps (v : VpsId)
  | sps (i : SpsId)
  | pps (k : PpsId)
  deriving DecidableEq

def Nal.key (pr : Parser B V S P) : Nal B → Option Key
  | .vps data => some (.vps (pr.vpsId data))
  | .sps data => (pr.spsIds data).map fun ids => .sps ids.2
  | .pps data => (pr.ppsIds data).map fun ids => .pps ids.1

/-- No two sets have the same kind and id. -/
def DistinctIds (pr : Parser B V S P) (l : List (Nal B)) : Prop :=
  (l.filterMap (Nal.key pr)).Nodup

instance (l : List (Nal B)) : Decidable (DistinctIds pr l) :=
  inferInstanceAs (Decidable (l.filterMap (Nal.key pr)).Nodup)

lemma DistinctIds.perm {l l' : List (Nal B)} (h : DistinctIds pr l) (hperm : l'.Perm l) :
    DistinctIds pr l' :=
  (hperm.filterMap (Nal.key pr)).nodup_iff.mpr h

lemma DistinctIds.index_unique {l : List (Nal B)} (h : DistinctIds pr l) {t t' : ℕ} {a b : Nal B}
    {c : Key} (ha : l[t]? = some a) (hb : l[t']? = some b) (hac : a.key pr = some c)
    (hbc : b.key pr = some c) : t = t' := by
  have hpairwise := List.pairwise_filterMap.mp h
  obtain ⟨hat, ha⟩ := List.getElem?_eq_some_iff.mp ha
  obtain ⟨hbt, hb⟩ := List.getElem?_eq_some_iff.mp hb
  rw [List.pairwise_iff_getElem] at hpairwise
  rcases Nat.lt_trichotomy t t' with hlt | heq | hlt
  · exact absurd rfl (hpairwise t t' hat hbt hlt c (ha ▸ hac) c (hb ▸ hbc))
  · exact heq
  · exact absurd rfl (hpairwise t' t hbt hat hlt c (hb ▸ hbc) c (ha ▸ hac))

lemma DistinctIds.unique {l : List (Nal B)} (h : DistinctIds pr l) {a b : Nal B} {c : Key}
    (ha : a ∈ l) (hb : b ∈ l) (hac : a.key pr = some c) (hbc : b.key pr = some c) : a = b := by
  obtain ⟨t, ht⟩ := List.mem_iff_getElem?.mp ha
  obtain ⟨t', ht'⟩ := List.mem_iff_getElem?.mp hb
  obtain rfl := h.index_unique ht ht' hac hbc
  exact Option.some.inj (ht.symm.trans ht')

/-- A VPS that has arrived, with its content. -/
def HasVps (pr : Parser B V S P) (l : List (Nal B)) (v : VpsId) (y : B × V) : Prop :=
  .vps y.1 ∈ l ∧ pr.vpsId y.1 = v ∧ pr.parseVps y.1 = some y.2

/-- An SPS that has arrived, with its content and its VPS. -/
def HasSps (pr : Parser B V S P) (l : List (Nal B)) (i : SpsId) (x : VpsId × (B × S) × B × V) : Prop :=
  .sps x.2.1.1 ∈ l ∧ pr.spsIds x.2.1.1 = some (x.1, i) ∧ HasVps pr l x.1 x.2.2 ∧
    pr.parseSps x.2.1.1 x.2.2.2 = some x.2.1.2

/-- A PPS that has arrived. -/
def HasPps (pr : Parser B V S P) (l : List (Nal B)) (k : PpsId) (x : B × SpsId) : Prop :=
  .pps x.1 ∈ l ∧ pr.ppsIds x.1 = some (k, x.2)

/-- An SPS with its VPS. -/
def Sps.view (s : Sps B V S) : VpsId × (B × S) × B × V :=
  (s.vpsId, (s.data, s.content), s.vps.data, s.vps.content)

/-- The PPS with an id, stored or pending. -/
def ppsSet (ps : ParamSets B V S P) (k : PpsId) : Option (B × SpsId) :=
  match ps.pps k with
  | some p => some (p.data, p.spsId)
  | none => (ps.pendingPps k).map fun q => (q.data, q.depId)

/-- The SPS with an id, stored or as its pending entry would be parsed. -/
def spsSet (pr : Parser B V S P) (ps : ParamSets B V S P) (i : SpsId) :
    Option (VpsId × (B × S) × B × V) :=
  match ps.sps i with
  | some s => some s.view
  | none =>
      (ps.pendingSps i).bind fun w =>
        (ps.vps w.depId).bind fun o =>
          (pr.parseSps w.data o.content).map fun content =>
            (w.depId, (w.data, content), o.data, o.content)

/-- The tables after sets with different ids. -/
structure Settled (pr : Parser B V S P) (ps : ParamSets B V S P) : Prop where
  inv : Inv pr ps
  vpsCurrent : VpsCurrent pr ps
  covered : Covered pr ps
  distinct : DistinctIds pr ps.arrived

lemma VpsCurrent.hasVps (h : VpsCurrent pr ps) (hps : Covered pr ps) {v : VpsId} {o : Vps B V}
    (ho : ps.vps v = some o) : HasVps pr ps.arrived v (o.data, o.content) := by
  obtain ⟨t, harrived, ⟨a, ha, hparses⟩, -⟩ := h v o ho
  obtain rfl := Option.some.inj (harrived.symm.trans ha)
  obtain ⟨data, heq, hid, -⟩ := hparses
  obtain rfl := Nal.vps.inj heq
  exact ⟨List.mem_of_getElem? harrived, hid, hps.vpsParsed v o ho⟩

namespace Settled

variable {v : VpsId} {i : SpsId} {k : PpsId}

/-- Nothing is replaced: an SPS is stored or pending, not both. -/
lemma pendingSps_none (h : Settled pr ps) {s : Sps B V S} (hs : ps.sps i = some s) :
    ps.pendingSps i = none := by
  refine Option.eq_none_iff_forall_ne_some.mpr fun q hq => ?_
  have hentry := h.inv.pendingSps i q not_false hq
  have hids := h.inv.spsIds i s hs
  have heq := h.distinct.index_unique (h.inv.spsArrived i s not_false hs) hentry.arrived
    (c := .sps i) (by simp [Nal.key, hids]) (by simp [Nal.key, hentry.ids])
  exact Nat.ne_of_lt (h.inv.spsOlder i s q not_false hs hq) heq

lemma hasVps_iff (h : Settled pr ps) {y : B × V} :
    HasVps pr ps.arrived v y ↔ ∃ o, ps.vps v = some o ∧ (o.data, o.content) = y := by
  constructor
  · rintro ⟨hmem, hid, hparse⟩
    obtain ⟨o, ho⟩ := h.covered.vps _ v hmem ⟨y.1, rfl, hid, by simp [hparse]⟩
    obtain ⟨hmem', hid', hparse'⟩ := h.vpsCurrent.hasVps h.covered ho
    have heq := h.distinct.unique hmem hmem' (c := .vps v) (by simp [Nal.key, hid])
      (by simp [Nal.key, hid'])
    have hdata := Nal.vps.inj heq
    rw [← hdata, hparse] at hparse'
    exact ⟨o, ho, Prod.ext hdata.symm (Option.some.inj hparse').symm⟩
  · rintro ⟨o, ho, rfl⟩
    exact h.vpsCurrent.hasVps h.covered ho

lemma pendingPps_none (h : Settled pr ps) {p : Pps B V S P} (hp : ps.pps k = some p) :
    ps.pendingPps k = none := by
  refine Option.eq_none_iff_forall_ne_some.mpr fun q hq => ?_
  have hentry := h.inv.pendingPps k q not_false hq
  have hids := h.inv.ppsIds k p hp
  have heq := h.distinct.index_unique (h.inv.ppsArrived k p not_false hp) hentry.arrived
    (c := .pps k) (by simp [Nal.key, hids]) (by simp [Nal.key, hentry.ids])
  exact Nat.ne_of_lt (h.inv.ppsOlder k p q not_false hp hq) heq

lemma hasSps_of_stored (h : Settled pr ps) {s : Sps B V S} (hs : ps.sps i = some s) :
    HasSps pr ps.arrived i s.view :=
  ⟨List.mem_of_getElem? (h.inv.spsArrived i s not_false hs), h.inv.spsIds i s hs,
    h.hasVps_iff.mpr ⟨s.vps, h.inv.linked.sps i s hs, rfl⟩, h.inv.spsParsed i s hs⟩

lemma hasSps_unique (h : Settled pr ps) {x x' : VpsId × (B × S) × B × V}
    (hx : HasSps pr ps.arrived i x) (hx' : HasSps pr ps.arrived i x') : x = x' := by
  obtain ⟨v, ⟨data, content⟩, y⟩ := x
  obtain ⟨v', ⟨data', content'⟩, y'⟩ := x'
  obtain ⟨hmem, hids, hvps, hparse⟩ := hx
  obtain ⟨hmem', hids', hvps', hparse'⟩ := hx'
  have heq := h.distinct.unique hmem hmem' (c := .sps i) (by simp [Nal.key, hids])
    (by simp [Nal.key, hids'])
  obtain rfl : data = data' := Nal.sps.inj heq
  obtain ⟨rfl, -⟩ := Prod.mk.inj (Option.some.inj (hids.symm.trans hids'))
  obtain ⟨o, ho, rfl⟩ := h.hasVps_iff.mp hvps
  obtain ⟨o', ho', rfl⟩ := h.hasVps_iff.mp hvps'
  obtain rfl : o = o' := Option.some.inj (ho.symm.trans ho')
  obtain rfl : content = content' := Option.some.inj (hparse.symm.trans hparse')
  rfl

/-- **What the SPS slots hold** is what has arrived. -/
lemma spsSet_eq_some_iff (h : Settled pr ps) {x : VpsId × (B × S) × B × V} :
    spsSet pr ps i = some x ↔ HasSps pr ps.arrived i x := by
  have hsound : ∀ x', spsSet pr ps i = some x' → HasSps pr ps.arrived i x' := by
    intro x' hx'
    rcases hs : ps.sps i with _ | s
    · simp only [spsSet, hs, Option.bind_eq_some_iff, Option.map_eq_some_iff] at hx'
      obtain ⟨w, hw, o, ho, content, hparse, rfl⟩ := hx'
      have hentry := h.inv.pendingSps i w not_false hw
      exact ⟨List.mem_of_getElem? hentry.arrived, hentry.ids, h.hasVps_iff.mpr ⟨o, ho, rfl⟩, hparse⟩
    · rw [spsSet, hs] at hx'
      rw [← Option.some.inj hx']
      exact h.hasSps_of_stored hs
  refine ⟨hsound x, fun hx => ?_⟩
  suffices hsome : ∃ x', spsSet pr ps i = some x' by
    obtain ⟨x', hx'⟩ := hsome
    rw [hx', h.hasSps_unique (hsound x' hx') hx]
  rcases hs : ps.sps i with _ | s
  · -- It is pending, and parses against the VPS that has arrived.
    obtain ⟨hmem, hids, hvps, hparse⟩ := hx
    rcases h.covered.sps _ i hmem ⟨_, _, rfl, hids⟩ with ⟨s, hs'⟩ | ⟨w, hw⟩
    · simp [hs] at hs'
    · have hentry := h.inv.pendingSps i w not_false hw
      have heq := h.distinct.unique hmem (List.mem_of_getElem? hentry.arrived) (c := .sps i)
        (by simp [Nal.key, hids]) (by simp [Nal.key, hentry.ids])
      have hdata := Nal.sps.inj heq
      rw [hdata, hentry.ids] at hids
      obtain ⟨hdep, -⟩ := Prod.mk.inj (Option.some.inj hids)
      obtain ⟨o, ho, hy⟩ := h.hasVps_iff.mp hvps
      rw [← hdep] at ho
      rw [hdata, ← hy] at hparse
      exact ⟨(w.depId, (w.data, x.2.1.2), o.data, o.content), by simp [spsSet, hs, hw, ho, hparse]⟩
  · exact ⟨s.view, by rw [spsSet, hs]⟩

/-- **What the PPS slots hold** is what has arrived. -/
lemma ppsSet_eq_some_iff (h : Settled pr ps) {x : B × SpsId} :
    ppsSet ps k = some x ↔ HasPps pr ps.arrived k x := by
  have hsound : ∀ x', ppsSet ps k = some x' → HasPps pr ps.arrived k x' := by
    intro x' hx'
    rcases hp : ps.pps k with _ | p
    · simp only [ppsSet, hp, Option.map_eq_some_iff] at hx'
      obtain ⟨q, hq, rfl⟩ := hx'
      have hentry := h.inv.pendingPps k q not_false hq
      exact ⟨List.mem_of_getElem? hentry.arrived, hentry.ids⟩
    · rw [ppsSet, hp] at hx'
      rw [← Option.some.inj hx']
      exact ⟨List.mem_of_getElem? (h.inv.ppsArrived k p not_false hp), h.inv.ppsIds k p hp⟩
  refine ⟨hsound x, fun hx => ?_⟩
  have hsome : ∃ x', ppsSet ps k = some x' := by
    rcases hp : ps.pps k with _ | p
    · rcases h.covered.pps _ k hx.1 ⟨_, _, rfl, hx.2⟩ with ⟨p, hp'⟩ | ⟨q, hq⟩
      · simp [hp] at hp'
      · exact ⟨(q.data, q.depId), by simp [ppsSet, hp, hq]⟩
    · exact ⟨(p.data, p.spsId), by simp [ppsSet, hp]⟩
  obtain ⟨x', hx'⟩ := hsome
  obtain ⟨hmem', hids'⟩ := hsound x' hx'
  have heq := h.distinct.unique hx.1 hmem' (c := .pps k) (by simp [Nal.key, hx.2])
    (by simp [Nal.key, hids'])
  have hdata := Nal.pps.inj heq
  have hids := hx.2
  rw [hdata, hids'] at hids
  rw [hx', Prod.ext hdata.symm (Prod.mk.inj (Option.some.inj hids)).2]

/-- States in which the same sets have arrived hold the same sets. -/
lemma sets_eq (h : Settled pr ps) (h' : Settled pr ps')
    (hmem : ∀ nal, nal ∈ ps.arrived ↔ nal ∈ ps'.arrived) :
    (∀ k, ppsSet ps k = ppsSet ps' k) ∧ ∀ i, spsSet pr ps i = spsSet pr ps' i := by
  constructor
  · intro k
    ext x
    rw [h.ppsSet_eq_some_iff, h'.ppsSet_eq_some_iff, HasPps, HasPps, hmem]
  · intro i
    ext x
    rw [h.spsSet_eq_some_iff, h'.spsSet_eq_some_iff]
    simp only [HasSps, HasVps, hmem]

end Settled

/-! ### The answer to a picture -/

/-- A PPS with its SPS and VPS. -/
def Pps.view (p : Pps B V S P) : (B × P) × SpsId × VpsId × (B × S) × B × V :=
  ((p.data, p.content), p.spsId, p.sps.view)

/-- What a picture finds: nothing, if its PPS has not arrived or does not parse; it is refused, if the
SPS that its PPS refers to cannot be had. -/
def answer (pr : Parser B V S P) (pps : Option (B × SpsId))
    (sps : SpsId → Option (VpsId × (B × S) × B × V)) :
    ℤ × Option ((B × P) × SpsId × VpsId × (B × S) × B × V) :=
  match pps with
  | none => (0, none)
  | some (data, i) =>
      match sps i with
      | none => (invalidData, none)
      | some x =>
          (0, (pr.parsePps data x.2.1.2).map fun content => ((data, content), i, x))

section Decoder

variable [DecidableEq B]

/-- The SPS that is stored after its resolution. -/
lemma ResolvedSps.set_eq (h : Settled pr ps) {i : SpsId} {r : Bool × ParamSets B V S P}
    (hres : ResolvedSps pr ps i r) :
    (r.2.sps i).map Sps.view = spsSet pr ps i ∧
      (r.1 = true → spsSet pr ps i = none) := by
  have hnone : ∀ q, ps.pendingSps i = some q → ps.sps i = none := by
    intro q hq
    refine Option.eq_none_iff_forall_ne_some.mpr fun s hs => ?_
    simp [h.pendingSps_none hs] at hq
  cases hres with
  | absent habsent =>
      rcases hs : ps.sps i with _ | s
      · simp [spsSet, hs, habsent]
      · simp [spsSet, hs]
  | waiting hq hvps => simp [spsSet, hnone _ hq, hq, hvps]
  | @failed q vps hq hvps hfailed =>
      have hparse := (h.inv.pendingSps i q not_false hq).sound.failed _ _
        (vpsDep_eq_some.mpr ⟨vps, hvps, rfl, rfl⟩) hfailed
      simp [spsSet, hnone q hq, hq, hvps, hparse]
  | @parsed q vps hq hvps hnot =>
      have hids := (h.inv.pendingSps i q not_false hq).ids
      refine ⟨?_, by simp⟩
      simp only [spsSet, hnone q hq, hq, hvps, Option.bind_some]
      generalize hlog : ({ ps with reparsed := _ } : ParamSets B V S P) = ps₁
      have hsps : ps₁.sps = ps.sps := by rw [← hlog]
      have hvps₁ : ps₁.vps = ps.vps := by rw [← hlog]
      have hd : DecodedSps pr ps₁ q.data q.received (decodeNalSps pr ps₁ q.data q.received) :=
        decodeNalSps_decoded
      generalize decodeNalSps pr ps₁ q.data q.received = ps' at hd ⊢
      cases hd with
      | unreadable hids' => simp [hids] at hids'
      | deferred hids' hvps' =>
          obtain ⟨rfl, rfl⟩ := Prod.mk.inj (Option.some.inj (hids.symm.trans hids'))
          simp [hvps₁, hvps] at hvps'
      | failed hids' hvps' hparse =>
          obtain ⟨rfl, rfl⟩ := Prod.mk.inj (Option.some.inj (hids.symm.trans hids'))
          rw [hvps₁, hvps] at hvps'
          obtain rfl := Option.some.inj hvps'
          simp [hparse, hsps, hnone q hq]
      | @repeated v j s hids' hs hdata =>
          obtain ⟨rfl, rfl⟩ := Prod.mk.inj (Option.some.inj (hids.symm.trans hids'))
          simp [hsps, hnone q hq] at hs
      | stored hids' hvps' hparse hnew =>
          obtain ⟨rfl, rfl⟩ := Prod.mk.inj (Option.some.inj (hids.symm.trans hids'))
          rw [hvps₁, hvps] at hvps'
          obtain rfl := Option.some.inj hvps'
          simp [hparse, Sps.view]

/-- The answer of a pending PPS, once its SPS is resolved. -/
lemma ResolvedPps.answer_eq (h : Inv pr ps) {k : PpsId} {r : Bool × ParamSets B V S P}
    (hres : ResolvedPps pr ps k r) {q : PendingPS B SpsId} (hq : ps.pendingPps k = some q)
    (hnone : ps.pps k = none) {sps : SpsId → Option (VpsId × (B × S) × B × V)}
    (hsps : (ps.sps q.depId).map Sps.view = sps q.depId) :
    (if r.1 then invalidData else 0, (r.2.pps k).map Pps.view) =
      answer pr (some (q.data, q.depId)) sps := by
  cases hres with
  | absent habsent => simp [hq] at habsent
  | waiting hq' hs =>
      obtain rfl := Option.some.inj (hq.symm.trans hq')
      rw [hs, Option.map_none] at hsps
      simp [answer, ← hsps, hnone]
  | @failed q' s hq' hs hfailed =>
      obtain rfl := Option.some.inj (hq.symm.trans hq')
      have hparse := (h.pendingPps k q not_false hq).sound.failed _ _
        (spsDep_eq_some.mpr ⟨s, hs, rfl, rfl⟩) hfailed
      rw [hs, Option.map_some] at hsps
      simp [answer, ← hsps, hnone, Sps.view, hparse]
  | @parsed q' s hq' hs hnot =>
      obtain rfl := Option.some.inj (hq.symm.trans hq')
      have hids := (h.pendingPps k q not_false hq).ids
      rw [hs, Option.map_some] at hsps
      simp only [answer, ← hsps, Bool.false_eq_true, if_false, Prod.mk.injEq, true_and]
      generalize hlog : ({ ps with reparsed := _ } : ParamSets B V S P) = ps₁
      have hpps : ps₁.pps = ps.pps := by rw [← hlog]
      have hsps₁ : ps₁.sps = ps.sps := by rw [← hlog]
      have hd : DecodedPps pr ps₁ q.data q.received (decodeNalPps pr ps₁ q.data q.received) :=
        decodeNalPps_decoded
      generalize decodeNalPps pr ps₁ q.data q.received = ps' at hd ⊢
      cases hd with
      | unreadable hids' => simp [hids] at hids'
      | @repeated k' i p' hids' hp' hdata =>
          obtain ⟨rfl, rfl⟩ := Prod.mk.inj (Option.some.inj (hids.symm.trans hids'))
          simp [hpps, hnone] at hp'
      | deferred hids' hs' =>
          obtain ⟨rfl, rfl⟩ := Prod.mk.inj (Option.some.inj (hids.symm.trans hids'))
          simp [hsps₁, hs] at hs'
      | failed hids' hs' hparse =>
          obtain ⟨rfl, rfl⟩ := Prod.mk.inj (Option.some.inj (hids.symm.trans hids'))
          rw [hsps₁, hs] at hs'
          obtain rfl := Option.some.inj hs'
          simp [Sps.view, hparse, hpps, hnone]
      | stored hids' hs' hparse =>
          obtain ⟨rfl, rfl⟩ := Prod.mk.inj (Option.some.inj (hids.symm.trans hids'))
          rw [hsps₁, hs] at hs'
          obtain rfl := Option.some.inj hs'
          simp [Sps.view, Pps.view, hparse]

/-- **The answer of `ff_hevc_ps_activate`** depends on what has arrived only. -/
lemma activate_answer (h : Settled pr ps) (k : PpsId) (irap : Bool) :
    ((activate pr ps k irap).1, ((activate pr ps k irap).2.pps k).map Pps.view) =
      answer pr (ppsSet ps k) (spsSet pr ps) := by
  rcases hp : ps.pps k with _ | p
  · rcases hq : ps.pendingPps k with _ | q
    · simp [activate, activeSpsId, hp, hq, resolvePendingPps, answer, ppsSet]
    have hset : ppsSet ps k = some (q.data, q.depId) := by simp [ppsSet, hp, hq]
    have hactive : activeSpsId ps k = some q.depId := by simp [activeSpsId, hq]
    obtain ⟨r₁, hr₁, hcases⟩ := activate_cases pr ps k irap
    have hres₁ : ResolvedSps pr ps q.depId r₁ := by
      rcases hr₁ with ⟨hnone, -⟩ | ⟨i, hi, hres⟩
      · simp [hactive] at hnone
      · rwa [Option.some.inj (hactive.symm.trans hi)]
    obtain ⟨hsps, hwaiting⟩ := hres₁.set_eq h
    have hp₁ : r₁.2.pps k = none := by
      refine Option.eq_none_iff_forall_ne_some.mpr fun p hp' => ?_
      simp [hres₁.pps h.inv.linked hp'] at hp
    rw [hset]
    rcases hcases with ⟨htrue, -, heq⟩ | ⟨-, r₂, hres₂, heq⟩
    · simp [heq, hp₁, answer, hwaiting htrue]
    · rw [heq]
      exact hres₂.answer_eq (resolvedSps_inv h.inv hres₁)
        ((hres₁.frame h.inv).pendingPps k q hq) hp₁ hsps
  · -- The PPS is stored, and so is its SPS.
    have hq := h.pendingPps_none hp
    have hs := h.inv.linked.pps k p hp
    have hr := h.pendingSps_none hs
    have hparse := h.covered.ppsParsed k p hp
    simp [activate, activeSpsId, hp, hq, resolvePendingSps, hr, resolvePendingPps, answer, ppsSet,
      spsSet, hs, Sps.view, Pps.view, hparse]

/-! ### The order of arrival -/

/-- The stored PPS with an id, if the id is in range. -/
def ParamSets.ppsAt (ps : ParamSets B V S P) (ppsId : ℕ) : Option (Pps B V S P) :=
  if h : ppsId < 64 then ps.pps ⟨ppsId, h⟩ else none

/-- Sets are received, from empty tables. -/
def receiveAll (pr : Parser B V S P) (l : List (Nal B)) : ParamSets B V S P :=
  l.foldl (receive pr) {}

/-- The calls of `ff_hevc_ps_activate`: what each returns, and the PPS that is stored after it. -/
def answers (pr : Parser B V S P) (ps : ParamSets B V S P) :
    List (ℕ × Bool) → List (ℤ × Option ((B × P) × SpsId × VpsId × (B × S) × B × V))
  | [] => []
  | (ppsId, irap) :: calls =>
      let r := psActivate pr ps ppsId irap
      (r.1, (r.2.ppsAt ppsId).map Pps.view) :: answers pr r.2 calls

def Nal.isVps : Nal B → Bool
  | .vps _ => true
  | _ => false

def Nal.isSps : Nal B → Bool
  | .sps _ => true
  | _ => false

def Nal.isPps : Nal B → Bool
  | .pps _ => true
  | _ => false

/-- The order of dependency: each VPS, then each SPS, then each PPS. -/
def dependencyOrder (l : List (Nal B)) : List (Nal B) :=
  l.filter Nal.isVps ++ (l.filter Nal.isSps ++ l.filter Nal.isPps)

omit [DecidableEq B] in
lemma dependencyOrder_perm (l : List (Nal B)) : (dependencyOrder l).Perm l := by
  induction l with
  | nil => exact List.Perm.refl _
  | cons nal l ih =>
      cases nal with
      | vps data => exact ih.cons _
      | sps data =>
          refine List.Perm.trans ?_ (ih.cons _)
          simp only [dependencyOrder, List.filter_cons, Nal.isVps, Nal.isSps, Nal.isPps,
            Bool.false_eq_true, if_false, if_true]
          exact List.perm_middle
      | pps data =>
          refine List.Perm.trans ?_ (ih.cons _)
          simp only [dependencyOrder, List.filter_cons, Nal.isVps, Nal.isSps, Nal.isPps,
            Bool.false_eq_true, if_false, if_true]
          rw [← List.append_assoc, ← List.append_assoc]
          exact List.perm_middle

lemma receiveAll_eq_run (pr : Parser B V S P) (l : List (Nal B)) :
    receiveAll pr l = run pr (l.map .nal) := by
  rw [receiveAll, run, List.foldl_map]
  rfl

lemma receiveAll_arrived (pr : Parser B V S P) (l : List (Nal B)) :
    (receiveAll pr l).arrived = l := by
  induction l using List.reverseRecOn with
  | nil => rfl
  | append_singleton l nal ih =>
      have hinv : Inv pr (run pr (l.map .nal)) := run_inv _
      rw [← receiveAll_eq_run] at hinv
      have hstep : receiveAll pr (l ++ [nal]) = receive pr (receiveAll pr l) nal := by
        rw [receiveAll, List.foldl_concat, receiveAll]
      rw [hstep, receive_arrived hinv.linked, ih]

lemma receiveAll_settled {l : List (Nal B)} (h : DistinctIds pr l) :
    Settled pr (receiveAll pr l) := by
  refine ⟨?_, ?_, ?_, by rwa [receiveAll_arrived]⟩
  · rw [receiveAll_eq_run]
    exact run_inv _
  · rw [receiveAll_eq_run]
    exact run_vpsCurrent _
  · rw [receiveAll_eq_run]
    exact run_covered _

/-- A call keeps the tables settled. -/
lemma Settled.activate (h : Settled pr ps) (k : PpsId) (irap : Bool) :
    Settled pr (activate pr ps k irap).2 := by
  refine ⟨activate_inv h.inv k irap, fun v o ho => ?_, activate_covered h.inv h.covered k irap, ?_⟩
  · rw [activate_vps] at ho
    rw [activate_arrived h.inv]
    exact h.vpsCurrent v o ho
  · rw [activate_arrived h.inv]
    exact h.distinct

/-- Tables in which the same sets have arrived give the same answers. -/
lemma answers_eq (h : Settled pr ps) (h' : Settled pr ps')
    (hmem : ∀ nal, nal ∈ ps.arrived ↔ nal ∈ ps'.arrived) (calls : List (ℕ × Bool)) :
    answers pr ps calls = answers pr ps' calls := by
  induction calls generalizing ps ps' with
  | nil => rfl
  | cons call calls ih =>
      obtain ⟨ppsId, irap⟩ := call
      by_cases hlt : ppsId < 64
      · have hsame : ((activate pr ps ⟨ppsId, hlt⟩ irap).1,
            ((activate pr ps ⟨ppsId, hlt⟩ irap).2.pps ⟨ppsId, hlt⟩).map Pps.view) =
            ((activate pr ps' ⟨ppsId, hlt⟩ irap).1,
            ((activate pr ps' ⟨ppsId, hlt⟩ irap).2.pps ⟨ppsId, hlt⟩).map Pps.view) := by
          obtain ⟨hpps, hsps⟩ := h.sets_eq h' hmem
          rw [activate_answer h, activate_answer h', hpps, funext hsps]
        have hrest := ih (h.activate ⟨ppsId, hlt⟩ irap) (h'.activate ⟨ppsId, hlt⟩ irap)
          fun nal => by rw [activate_arrived h.inv, activate_arrived h'.inv, hmem]
        simp only [answers, psActivate, ParamSets.ppsAt, dif_pos hlt, hsame, hrest]
      · have hrest := ih h h' hmem
        simp only [answers, psActivate, ParamSets.ppsAt, dif_neg hlt, hrest]

/-- **The order of arrival does not matter**: if no two sets have the same kind and id, every order
of them gives, to every list of calls of `ff_hevc_ps_activate`, the answers that the order of
dependency gives. -/
theorem arrival_order (pr : Parser B V S P) {l l' : List (Nal B)} (h : DistinctIds pr l)
    (hperm : l'.Perm l) (calls : List (ℕ × Bool)) :
    answers pr (receiveAll pr l') calls = answers pr (receiveAll pr (dependencyOrder l)) calls := by
  have hsettled := receiveAll_settled (h.perm hperm)
  have hsettled' := receiveAll_settled (h.perm (dependencyOrder_perm l))
  refine answers_eq hsettled hsettled' (fun nal => ?_) calls
  rw [receiveAll_arrived, receiveAll_arrived, (dependencyOrder_perm l).mem_iff, hperm.mem_iff]

end Decoder

/-- The PPS comes first and the VPS last. -/
theorem reversed_answers :
    answers plainParser (receiveAll plainParser
        [.pps ⟨0, 0, 3, 9⟩, .pps ⟨1, 1, 3, 9⟩, .sps ⟨0, 0, 2, 9⟩, .vps ⟨0, 0, 1, 9⟩])
        [(0, true), (1, false)] =
      [(0, some ((⟨0, 0, 3, 9⟩, 3), 0, 0, (⟨0, 0, 2, 9⟩, 2), ⟨0, 0, 1, 9⟩, 1)),
        (invalidData, none)] := by
  have hanswers := arrival_order plainParser
    (l := [.vps ⟨0, 0, 1, 9⟩, .sps ⟨0, 0, 2, 9⟩, .pps ⟨1, 1, 3, 9⟩, .pps ⟨0, 0, 3, 9⟩])
    (by decide +kernel) (List.reverse_perm _) [(0, true), (1, false)]
  exact hanswers.trans rfl

end OmarchyM1Video.HevcParamSets
