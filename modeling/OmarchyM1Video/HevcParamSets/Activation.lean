import OmarchyM1Video.HevcParamSets.Pending

/-!
What an event leaves in the tables.

A call of `ff_hevc_ps_activate` that returns 0 has resolved the pending PPS of the picture: what is
still pending has failed against the SPS that is stored under its id.  A set is put into a list only
when nothing is pending for its id, and so only if it is the newest one.

* `activate_ppsFailed`: the pending PPS after a call that returns 0;
* `step_storesNewest`: every event puts only the newest sets into the lists;
* `pending_invariants`: the invariants of the store, over whole runs;
* `superseded_used`: a set that is superseded can still be used.
-/

namespace OmarchyM1Video.HevcParamSets

variable {B V S P : Type} {ps ps' : ParamSets B V S P} {pr : Parser B V S P}

/-! ### What is left pending -/

/-- The entry has been tried against the VPS that is stored under its id, and does not parse. -/
def SpsFailed (pr : Parser B V S P) (ps : ParamSets B V S P) (q : PendingPS B VpsId) : Prop :=
  ∃ o, ps.vps q.depId = some o ∧ q.failedDep = some o.ref ∧ pr.parseSps q.data o.content = none

/-- The entry has been tried against the SPS that is stored under its id, and does not parse. -/
def PpsFailed (pr : Parser B V S P) (ps : ParamSets B V S P) (q : PendingPS B SpsId) : Prop :=
  ∃ s, ps.sps q.depId = some s ∧ q.failedDep = some s.ref ∧ pr.parsePps q.data s.content = none

lemma DecodedPps.vps {data : B} {time : ℕ} (hd : DecodedPps pr ps data time ps') :
    ps'.vps = ps.vps := by
  cases hd <;> rfl

lemma DecodedPps.sps {data : B} {time : ℕ} (hd : DecodedPps pr ps data time ps') :
    ps'.sps = ps.sps := by
  cases hd <;> rfl

lemma DecodedPps.pendingSps {data : B} {time : ℕ} (hd : DecodedPps pr ps data time ps') :
    ps'.pendingSps = ps.pendingSps := by
  cases hd <;> rfl

lemma DecodedPps.arrived {data : B} {time : ℕ} (hd : DecodedPps pr ps data time ps') :
    ps'.arrived = ps.arrived := by
  cases hd <;> rfl

lemma DecodedVps.arrived {data : B} (h : Linked ps) (hd : DecodedVps pr ps data ps') :
    ps'.arrived = ps.arrived := by
  cases hd with
  | kept => rfl
  | stored => exact (removeVps_removed h.pps h.sps _).arrived

lemma DecodedSps.arrived {data : B} {time : ℕ} (h : Linked ps)
    (hd : DecodedSps pr ps data time ps') : ps'.arrived = ps.arrived := by
  cases hd with
  | unreadable => rfl
  | deferred => rfl
  | failed => rfl
  | repeated => rfl
  | @stored v i vps content hids hvps hparse hnew =>
      have hlinked : PpsLinked (ps.releaseSps i) := h.pps
      exact (removeSps_removed hlinked i).arrived

lemma DecodedSps.vps {data : B} {time : ℕ} (hd : DecodedSps pr ps data time ps') :
    ps'.vps = ps.vps := by
  cases hd with
  | unreadable => rfl
  | deferred => rfl
  | failed => rfl
  | repeated => rfl
  | stored => exact removeSps_vps _ _

/-- Decoding an SPS removes picture parameter sets at most. -/
lemma DecodedSps.pps {data : B} {time : ℕ} (h : Linked ps) (hd : DecodedSps pr ps data time ps')
    {k : PpsId} {p : Pps B V S P} (hp : ps'.pps k = some p) : ps.pps k = some p := by
  cases hd with
  | unreadable => exact hp
  | deferred => exact hp
  | failed => exact hp
  | repeated => exact hp
  | @stored v i vps content hids hvps hparse hnew =>
      have hlinked : PpsLinked (ps.releaseSps i) := h.pps
      exact (((removeSps_removed hlinked i).pps k p).mp hp).1

/-- An SPS that is decoded while its VPS is stored is pending afterwards only if it failed. -/
lemma DecodedSps.failed_of_pending {data : B} {time : ℕ} {v : VpsId} {i : SpsId}
    {q : PendingPS B VpsId} (hq : ps'.pendingSps i = some q) (hd : DecodedSps pr ps data time ps')
    (hids : pr.spsIds data = some (v, i)) {vps : Vps B V} (hvps : ps.vps v = some vps) :
    SpsFailed pr ps' q := by
  cases hd with
  | unreadable hids' => simp [hids] at hids'
  | deferred hids' hvps' =>
      obtain ⟨rfl, rfl⟩ := Prod.mk.inj (Option.some.inj (hids.symm.trans hids'))
      simp [hvps] at hvps'
  | failed hids' hvps' hparse =>
      obtain ⟨rfl, rfl⟩ := Prod.mk.inj (Option.some.inj (hids.symm.trans hids'))
      obtain rfl : _ = q := by simpa using hq
      exact ⟨_, hvps', rfl, hparse⟩
  | repeated hids' hs hdata =>
      obtain ⟨rfl, rfl⟩ := Prod.mk.inj (Option.some.inj (hids.symm.trans hids'))
      simp at hq
  | stored hids' hvps' hparse hnew =>
      obtain ⟨rfl, rfl⟩ := Prod.mk.inj (Option.some.inj (hids.symm.trans hids'))
      simp at hq

/-- A PPS that is decoded while its SPS is stored is pending afterwards only if it failed. -/
lemma DecodedPps.failed_of_pending {data : B} {time : ℕ} {k : PpsId} {i : SpsId}
    {q : PendingPS B SpsId} (hq : ps'.pendingPps k = some q) (hd : DecodedPps pr ps data time ps')
    (hids : pr.ppsIds data = some (k, i)) {sps : Sps B V S} (hsps : ps.sps i = some sps) :
    PpsFailed pr ps' q := by
  cases hd with
  | unreadable hids' => simp [hids] at hids'
  | repeated hids' hp hdata =>
      obtain ⟨rfl, rfl⟩ := Prod.mk.inj (Option.some.inj (hids.symm.trans hids'))
      simp at hq
  | deferred hids' hsps' =>
      obtain ⟨rfl, rfl⟩ := Prod.mk.inj (Option.some.inj (hids.symm.trans hids'))
      simp [hsps] at hsps'
  | failed hids' hsps' hparse =>
      obtain ⟨rfl, rfl⟩ := Prod.mk.inj (Option.some.inj (hids.symm.trans hids'))
      obtain rfl : _ = q := by simpa using hq
      exact ⟨_, hsps', rfl, hparse⟩
  | stored hids' hsps' hparse =>
      obtain ⟨rfl, rfl⟩ := Prod.mk.inj (Option.some.inj (hids.symm.trans hids'))
      simp at hq

section Decoder

variable [DecidableEq B]

/-- An SPS that does not wait after its resolution is pending only if it failed. -/
lemma ResolvedSps.failed_of_pending (h : Inv pr ps) {i : SpsId} {r : Bool × ParamSets B V S P}
    (hres : ResolvedSps pr ps i r) (hret : r.1 = false) {q : PendingPS B VpsId}
    (hq : r.2.pendingSps i = some q) : SpsFailed pr r.2 q := by
  cases hres with
  | absent hnone => simp [hnone] at hq
  | waiting => simp at hret
  | @failed q' vps hq' hvps hfailed =>
      obtain rfl : q' = q := Option.some.inj (hq'.symm.trans hq)
      exact ⟨vps, hvps, hfailed, (h.pendingSps i q' not_false hq').sound.failed _ _
        (vpsDep_eq_some.mpr ⟨vps, hvps, rfl, rfl⟩) hfailed⟩
  | @parsed q' vps hq' hvps hnot =>
      exact DecodedSps.failed_of_pending hq decodeNalSps_decoded (h.pendingSps i q' not_false hq').ids
        hvps

/-- A PPS that does not wait after its resolution is pending only if it failed. -/
lemma ResolvedPps.failed_of_pending (h : Inv pr ps) {k : PpsId} {r : Bool × ParamSets B V S P}
    (hres : ResolvedPps pr ps k r) (hret : r.1 = false) {q : PendingPS B SpsId}
    (hq : r.2.pendingPps k = some q) : PpsFailed pr r.2 q := by
  cases hres with
  | absent hnone => simp [hnone] at hq
  | waiting => simp at hret
  | @failed q' sps hq' hsps hfailed =>
      obtain rfl : q' = q := Option.some.inj (hq'.symm.trans hq)
      exact ⟨sps, hsps, hfailed, (h.pendingPps k q' not_false hq').sound.failed _ _
        (spsDep_eq_some.mpr ⟨sps, hsps, rfl, rfl⟩) hfailed⟩
  | @parsed q' sps hq' hsps hnot =>
      exact DecodedPps.failed_of_pending hq decodeNalPps_decoded (h.pendingPps k q' not_false hq').ids
        hsps

lemma ResolvedPps.vps {k : PpsId} {r : Bool × ParamSets B V S P} (hres : ResolvedPps pr ps k r) :
    r.2.vps = ps.vps := by
  cases hres with
  | absent => rfl
  | waiting => rfl
  | failed => rfl
  | parsed => exact decodeNalPps_decoded.vps

lemma ResolvedPps.sps {k : PpsId} {r : Bool × ParamSets B V S P} (hres : ResolvedPps pr ps k r) :
    r.2.sps = ps.sps := by
  cases hres with
  | absent => rfl
  | waiting => rfl
  | failed => rfl
  | parsed => exact decodeNalPps_decoded.sps

lemma ResolvedPps.pendingSps {k : PpsId} {r : Bool × ParamSets B V S P}
    (hres : ResolvedPps pr ps k r) : r.2.pendingSps = ps.pendingSps := by
  cases hres with
  | absent => rfl
  | waiting => rfl
  | failed => rfl
  | parsed => exact decodeNalPps_decoded.pendingSps

lemma ResolvedSps.vps {i : SpsId} {r : Bool × ParamSets B V S P} (hres : ResolvedSps pr ps i r) :
    r.2.vps = ps.vps := by
  cases hres with
  | absent => rfl
  | waiting => rfl
  | failed => rfl
  | parsed => exact decodeNalSps_decoded.vps

lemma ResolvedSps.pps (h : Linked ps) {i : SpsId} {r : Bool × ParamSets B V S P}
    (hres : ResolvedSps pr ps i r) {k : PpsId} {p : Pps B V S P} (hp : r.2.pps k = some p) :
    ps.pps k = some p := by
  cases hres with
  | absent => exact hp
  | waiting => exact hp
  | failed => exact hp
  | @parsed q vps hq hvps hnot =>
      have hlinked : Linked
          { ps with reparsed := ps.reparsed ++ [(.sps, q.received, vps.ref)] } := ⟨h.pps, h.sps⟩
      exact DecodedSps.pps hlinked decodeNalSps_decoded hp

/-- **What is pending after a picture is accepted**: a PPS that failed. -/
lemma activate_ppsFailed (h : Inv pr ps) {k : PpsId} {irap : Bool}
    (hret : (activate pr ps k irap).1 = 0) {q : PendingPS B SpsId}
    (hq : (activate pr ps k irap).2.pendingPps k = some q) :
    PpsFailed pr (activate pr ps k irap).2 q := by
  obtain ⟨r₁, hr₁, hcases⟩ := activate_cases pr ps k irap
  have h₁ : Inv pr r₁.2 := by
    rcases hr₁ with ⟨-, rfl⟩ | ⟨i, -, hres⟩
    · exact h
    · exact resolvedSps_inv h hres
  rcases hcases with ⟨-, -, heq⟩ | ⟨-, r₂, hres, heq⟩
  · simp [heq, invalidData] at hret
  · rw [heq] at hret hq ⊢
    have hfalse : r₂.1 = false := by
      by_contra htrue
      rw [Bool.not_eq_false] at htrue
      simp [htrue, invalidData] at hret
    exact hres.failed_of_pending h₁ hfalse hq

/-! ### The invariants of the store -/

/-- A VPS with this id. -/
def IsVps (pr : Parser B V S P) (v : VpsId) (nal : Nal B) : Prop :=
  ∃ data, nal = .vps data ∧ pr.vpsId data = v

/-- How the sets that are stored and pending stand to those that were received. -/
structure Dated (pr : Parser B V S P) (ps : ParamSets B V S P) : Prop where
  sps : ∀ i s, ps.sps i = some s → ps.arrived[ps.spsTime i]? = some (.sps s.data)
  pps : ∀ k p, ps.pps k = some p → ps.arrived[ps.ppsTime k]? = some (.pps p.data)
  pendingSps : ∀ i q, ps.pendingSps i = some q →
    ps.arrived[q.received]? = some (.sps q.data) ∧ Newest (IsSps pr i) ps.arrived q.received
  pendingPps : ∀ k q, ps.pendingPps k = some q →
    ps.arrived[q.received]? = some (.pps q.data) ∧ Newest (IsPps pr k) ps.arrived q.received
  spsOrder : ∀ i s q, ps.sps i = some s → ps.pendingSps i = some q → ps.spsTime i ≤ q.received
  ppsOrder : ∀ k p q, ps.pps k = some p → ps.pendingPps k = some q → ps.ppsTime k ≤ q.received
  /-- A stored set that is superseded has the newest one pending. -/
  spsSuperseded : ∀ i s, ps.sps i = some s → ¬ Newest (IsSps pr i) ps.arrived (ps.spsTime i) →
    ∃ q, ps.pendingSps i = some q
  ppsSuperseded : ∀ k p, ps.pps k = some p → ¬ Newest (IsPps pr k) ps.arrived (ps.ppsTime k) →
    ∃ q, ps.pendingPps k = some q

/-- What is in the lists after a step was there before, or is the newest set of its kind and id. -/
structure StoresNewest (pr : Parser B V S P) (ps ps' : ParamSets B V S P) : Prop where
  vps : ∀ v o, ps'.vps v = some o → ps.vps v = some o ∨
    ∃ t, ps'.arrived[t]? = some (.vps o.data) ∧ Newest (IsVps pr v) ps'.arrived t
  sps : ∀ i s, ps'.sps i = some s → ps.sps i = some s ∨
    ∃ t, ps'.arrived[t]? = some (.sps s.data) ∧ Newest (IsSps pr i) ps'.arrived t
  pps : ∀ k p, ps'.pps k = some p → ps.pps k = some p ∨
    ∃ t, ps'.arrived[t]? = some (.pps p.data) ∧ Newest (IsPps pr k) ps'.arrived t

omit [DecidableEq B] in
lemma Inv.dated (h : Inv pr ps) : Dated pr ps := by
  refine
    { sps := fun i s => h.spsArrived i s not_false
      pps := fun k p => h.ppsArrived k p not_false
      pendingSps := fun i q hq => ?_
      pendingPps := fun k q hq => ?_
      spsOrder := fun i s q hs hq => Nat.le_of_lt (h.spsOlder i s q not_false hs hq)
      ppsOrder := fun k p q hp hq => ?_
      spsSuperseded := fun i s hs hold => ?_
      ppsSuperseded := fun k p hp hold => ?_ }
  · have hentry := h.pendingSps i q not_false hq
    exact ⟨hentry.arrived, hentry.newest⟩
  · have hentry := h.pendingPps k q not_false hq
    exact ⟨hentry.arrived, hentry.newest⟩
  · have hentry := h.pendingPps k q not_false hq
    exact hentry.newest.le (h.ppsArrived k p not_false hp) ⟨p.data, p.spsId, rfl, h.ppsIds k p hp⟩
  · by_contra hnone
    exact hold (h.spsNewest i s not_false hs (Option.eq_none_iff_forall_ne_some.mpr
      fun q hq => hnone ⟨q, hq⟩))
  · by_contra hnone
    exact hold (h.ppsNewest k p not_false hp (Option.eq_none_iff_forall_ne_some.mpr
      fun q hq => hnone ⟨q, hq⟩))

/-- A set is put into a list only when nothing is pending for its id. -/
structure Stores (ps ps' : ParamSets B V S P) : Prop where
  sps : ∀ i s, ps'.sps i = some s → ps.sps i = some s ∨ ps'.pendingSps i = none
  pps : ∀ k p, ps'.pps k = some p → ps.pps k = some p ∨ ps'.pendingPps k = none

omit [DecidableEq B] in
lemma Stores.refl (ps : ParamSets B V S P) : Stores ps ps :=
  ⟨fun _ _ => Or.inl, fun _ _ => Or.inl⟩

omit [DecidableEq B] in
lemma DecodedVps.stores {data : B} (h : Linked ps) (hd : DecodedVps pr ps data ps') :
    Stores ps ps' := by
  cases hd with
  | kept => exact Stores.refl ps
  | stored =>
      have hr := removeVps_removed h.pps h.sps (pr.vpsId data)
      exact ⟨fun i s hs => Or.inl ((hr.sps i s).mp hs).1, fun k p hp => Or.inl ((hr.pps k p).mp hp).1⟩

omit [DecidableEq B] in
lemma DecodedSps.stores {data : B} {time : ℕ} (h : Linked ps)
    (hd : DecodedSps pr ps data time ps') : Stores ps ps' := by
  refine ⟨fun i s hs => ?_, fun k p hp => Or.inl (hd.pps h hp)⟩
  cases hd with
  | unreadable => exact Or.inl hs
  | deferred => exact Or.inl hs
  | failed => exact Or.inl hs
  | repeated => exact Or.inl hs
  | @stored v j vps content hids hvps hparse hnew =>
      by_cases hi : i = j
      · subst hi
        exact Or.inr (by simp)
      · have hlinked : PpsLinked (ps.releaseSps j) := h.pps
        rw [ParamSets.stampSps_sps, ParamSets.storeSps_sps, Function.update_of_ne hi] at hs
        exact Or.inl (((removeSps_removed hlinked j).sps i s).mp hs).1

omit [DecidableEq B] in
lemma DecodedPps.stores {data : B} {time : ℕ} (hd : DecodedPps pr ps data time ps') :
    Stores ps ps' := by
  refine ⟨fun i s hs => Or.inl (by rwa [hd.sps] at hs), fun k p hp => ?_⟩
  cases hd with
  | unreadable => exact Or.inl hp
  | repeated => exact Or.inl hp
  | deferred => exact Or.inl hp
  | failed => exact Or.inl hp
  | @stored k' i sps content hids hsps hparse =>
      by_cases hk : k = k'
      · subst hk
        exact Or.inr (by simp)
      · exact Or.inl (by simpa [hk] using hp)

lemma ResolvedSps.stores (h : Linked ps) {i : SpsId} {r : Bool × ParamSets B V S P}
    (hres : ResolvedSps pr ps i r) : Stores ps r.2 := by
  cases hres with
  | absent => exact Stores.refl ps
  | waiting => exact Stores.refl ps
  | failed => exact Stores.refl ps
  | @parsed q vps hq hvps hnot =>
      have hlinked : Linked
          { ps with reparsed := ps.reparsed ++ [(.sps, q.received, vps.ref)] } := ⟨h.pps, h.sps⟩
      obtain ⟨hsps, hpps⟩ := decodeNalSps_decoded.stores hlinked
      exact ⟨hsps, hpps⟩

lemma ResolvedPps.stores {k : PpsId} {r : Bool × ParamSets B V S P}
    (hres : ResolvedPps pr ps k r) : Stores ps r.2 := by
  cases hres with
  | absent => exact Stores.refl ps
  | waiting => exact Stores.refl ps
  | failed => exact Stores.refl ps
  | @parsed q sps hq hsps hnot =>
      have hstores : Stores { ps with reparsed := ps.reparsed ++ [(.pps, q.received, sps.ref)] }
          (decodeNalPps pr _ q.data q.received) := decodeNalPps_decoded.stores
      exact ⟨hstores.sps, hstores.pps⟩

lemma activate_stores (h : Inv pr ps) (k : PpsId) (irap : Bool) :
    Stores ps (activate pr ps k irap).2 := by
  obtain ⟨r₁, hr₁, hcases⟩ := activate_cases pr ps k irap
  have h₁ : Stores ps r₁.2 ∧ ∀ j p, r₁.2.pps j = some p → ps.pps j = some p := by
    rcases hr₁ with ⟨-, rfl⟩ | ⟨i, -, hres⟩
    · exact ⟨Stores.refl ps, fun _ _ => id⟩
    · exact ⟨hres.stores h.linked, fun _ _ => hres.pps h.linked⟩
  rcases hcases with ⟨-, -, heq⟩ | ⟨-, r₂, hres, heq⟩
  · rw [heq]
    exact h₁.1
  · rw [heq]
    refine ⟨fun i s hs => ?_, fun j p hp => (hres.stores.pps j p hp).imp_left (h₁.2 j p)⟩
    rw [hres.sps] at hs
    rw [hres.pendingSps]
    exact h₁.1.sps i s hs

lemma ResolvedSps.arrived (h : Linked ps) {i : SpsId} {r : Bool × ParamSets B V S P}
    (hres : ResolvedSps pr ps i r) : r.2.arrived = ps.arrived := by
  cases hres with
  | absent => rfl
  | waiting => rfl
  | failed => rfl
  | @parsed q vps hq hvps hnot =>
      have hlinked : Linked
          { ps with reparsed := ps.reparsed ++ [(.sps, q.received, vps.ref)] } := ⟨h.pps, h.sps⟩
      have hdecoded := (@decodeNalSps_decoded _ _ _ _ _ _ pr q.data q.received).arrived hlinked
      exact hdecoded

lemma ResolvedPps.arrived {k : PpsId} {r : Bool × ParamSets B V S P}
    (hres : ResolvedPps pr ps k r) : r.2.arrived = ps.arrived := by
  cases hres with
  | absent => rfl
  | waiting => rfl
  | failed => rfl
  | parsed => exact decodeNalPps_decoded.arrived

/-- The first slice of a picture receives nothing. -/
lemma activate_arrived (h : Inv pr ps) (k : PpsId) (irap : Bool) :
    (activate pr ps k irap).2.arrived = ps.arrived := by
  obtain ⟨r₁, hr₁, hcases⟩ := activate_cases pr ps k irap
  have h₁ : r₁.2.arrived = ps.arrived := by
    rcases hr₁ with ⟨-, rfl⟩ | ⟨i, -, hres⟩
    · rfl
    · exact hres.arrived h.linked
  rcases hcases with ⟨-, -, heq⟩ | ⟨-, r₂, hres, heq⟩
  · rw [heq, h₁]
  · rw [heq, hres.arrived, h₁]

/-- The first slice of a picture leaves the VPSs as they are. -/
lemma activate_vps (ps : ParamSets B V S P) (k : PpsId) (irap : Bool) :
    (activate pr ps k irap).2.vps = ps.vps := by
  obtain ⟨r₁, hr₁, hcases⟩ := activate_cases pr ps k irap
  have h₁ : r₁.2.vps = ps.vps := by
    rcases hr₁ with ⟨-, rfl⟩ | ⟨i, -, hres⟩
    · rfl
    · exact hres.vps
  rcases hcases with ⟨-, -, heq⟩ | ⟨-, r₂, hres, heq⟩
  · rw [heq, h₁]
  · rw [heq, hres.vps, h₁]

/-- A VPS with this id that parses. -/
def ParsesVps (pr : Parser B V S P) (v : VpsId) (nal : Nal B) : Prop :=
  ∃ data, nal = .vps data ∧ pr.vpsId data = v ∧ (pr.parseVps data).isSome = true

/-- A stored VPS is the newest with its id that parses. -/
def VpsCurrent (pr : Parser B V S P) (ps : ParamSets B V S P) : Prop :=
  ∀ v o, ps.vps v = some o →
    ∃ t, ps.arrived[t]? = some (.vps o.data) ∧ Newest (ParsesVps pr v) ps.arrived t

lemma receive_arrived (h : Linked ps) (nal : Nal B) :
    (receive pr ps nal).arrived = ps.arrived ++ [nal] := by
  have hlinked : Linked { ps with arrived := ps.arrived ++ [nal] } := ⟨h.pps, h.sps⟩
  cases nal with
  | vps data => exact (receive_vps pr ps data).arrived hlinked
  | sps data => exact (receive_sps pr ps data).arrived hlinked
  | pps data => exact (receive_pps pr ps data).arrived

lemma receive_stores (h : Linked ps) (nal : Nal B) : Stores ps (receive pr ps nal) := by
  have hlinked : Linked { ps with arrived := ps.arrived ++ [nal] } := ⟨h.pps, h.sps⟩
  have hstores : Stores { ps with arrived := ps.arrived ++ [nal] } (receive pr ps nal) := by
    cases nal with
    | vps data => exact (receive_vps pr ps data).stores hlinked
    | sps data => exact (receive_sps pr ps data).stores hlinked
    | pps data => exact (receive_pps pr ps data).stores
  exact ⟨hstores.sps, hstores.pps⟩

/-- A VPS in the list after an arrival was there before, or is what arrived. -/
lemma receive_vps_new (h : Linked ps) (nal : Nal B) {v : VpsId} {o : Vps B V}
    (ho : (receive pr ps nal).vps v = some o) :
    (ps.vps v = some o ∧ ¬ ParsesVps pr v nal) ∨ (nal = .vps o.data ∧ ParsesVps pr v nal) := by
  have hlinked : Linked { ps with arrived := ps.arrived ++ [nal] } := ⟨h.pps, h.sps⟩
  cases nal with
  | vps data =>
      generalize hps' : receive pr ps (.vps data) = ps' at ho
      have hd := receive_vps pr ps data
      rw [hps'] at hd
      cases hd with
      | kept hkept =>
          by_cases hparses : ParsesVps pr v (.vps data)
          · obtain ⟨data', heq, rfl, hsome⟩ := hparses
            obtain rfl := Nal.vps.inj heq
            obtain hnone | ⟨o', ho', hdata⟩ := hkept
            · simp [hnone] at hsome
            · obtain rfl : o' = o := Option.some.inj (ho'.symm.trans ho)
              exact Or.inr ⟨by rw [hdata], data, rfl, rfl, hsome⟩
          · exact Or.inl ⟨ho, hparses⟩
      | @stored content hparse =>
          by_cases hv : v = pr.vpsId data
          · subst hv
            obtain rfl : _ = o := by simpa using ho
            exact Or.inr ⟨rfl, data, rfl, rfl, by simp [hparse]⟩
          · rw [ParamSets.storeVps_vps, Function.update_of_ne hv] at ho
            have hr := removeVps_removed hlinked.pps hlinked.sps (pr.vpsId data)
            refine Or.inl ⟨((hr.vps v o).mp ho).1, ?_⟩
            rintro ⟨data', heq, hid, -⟩
            obtain rfl := Nal.vps.inj heq
            exact hv hid.symm
  | sps data =>
      rw [(receive_sps pr ps data).vps] at ho
      exact Or.inl ⟨ho, by simp [ParsesVps]⟩
  | pps data =>
      rw [(receive_pps pr ps data).vps] at ho
      exact Or.inl ⟨ho, by simp [ParsesVps]⟩

lemma receive_vpsCurrent (h : Linked ps) (hcurrent : VpsCurrent pr ps) (nal : Nal B) :
    VpsCurrent pr (receive pr ps nal) := by
  intro v o ho
  rw [receive_arrived h]
  rcases receive_vps_new h nal ho with ⟨hold, hnot⟩ | ⟨heq, hparses⟩
  · obtain ⟨t, harrived, hnewest⟩ := hcurrent v o hold
    exact ⟨t, getElem?_concat_of_some harrived, hnewest.concat hnot⟩
  · exact ⟨ps.arrived.length, by simp [heq], newest_concat hparses⟩

lemma run_vpsCurrent (events : List (Event B)) : VpsCurrent pr (run pr events) := by
  induction events using List.reverseRecOn with
  | nil => exact nofun
  | append_singleton events event ih =>
      have hinv : Inv pr (run pr events) := run_inv events
      rw [run, List.foldl_concat]
      change VpsCurrent pr (step pr (run pr events) event)
      cases event with
      | nal nal => exact receive_vpsCurrent hinv.linked ih nal
      | slice ppsId irap =>
          rw [step, psActivate]
          split_ifs
          · intro v o ho
            rw [activate_vps] at ho
            rw [activate_arrived hinv]
            exact ih v o ho
          · exact ih

/-- **Every event** puts only the newest sets into the lists. -/
lemma step_storesNewest (h : Inv pr ps) (event : Event B) :
    StoresNewest pr ps (step pr ps event) := by
  have hinv := step_inv h event
  have hstores : Stores ps (step pr ps event) := by
    cases event with
    | nal nal => exact receive_stores h.linked nal
    | slice ppsId irap =>
        rw [step, psActivate]
        split_ifs
        · exact activate_stores h _ irap
        · exact Stores.refl ps
  refine ⟨fun v o ho => ?_, fun i s hs => ?_, fun k p hp => ?_⟩
  · cases event with
    | nal nal =>
        rw [step, receive_arrived h.linked]
        rcases receive_vps_new h.linked nal ho with ⟨hold, -⟩ | ⟨rfl, data, heq, hid, -⟩
        · exact Or.inl hold
        · exact Or.inr ⟨_, by simp, newest_concat ⟨data, heq, hid⟩⟩
    | slice ppsId irap =>
        rw [step, psActivate] at ho
        split_ifs at ho
        · rw [activate_vps] at ho
          exact Or.inl ho
        · exact Or.inl ho
  · refine (hstores.sps i s hs).imp_right fun hnone => ?_
    exact ⟨_, hinv.spsArrived i s not_false hs, hinv.spsNewest i s not_false hs hnone⟩
  · refine (hstores.pps k p hp).imp_right fun hnone => ?_
    exact ⟨_, hinv.ppsArrived k p not_false hp, hinv.ppsNewest k p not_false hp hnone⟩

/-- **The invariants of the store**, in every state of every run.  The sets that a stored set depends
on are those stored now.  A pending set is the newest one, and so no older than the stored one.  Only
the newest set of its kind and id is ever put into a list; one that is superseded stays there only
while the newest one is pending, or, for a VPS, did not parse; and a picture is accepted with a PPS
that is superseded only if the newest one failed against the SPS that is stored now.  A set is parsed
again once for each object that it depends on. -/
theorem pending_invariants (pr : Parser B V S P) (events : List (Event B)) :
    Linked (run pr events) ∧
    Dated pr (run pr events) ∧
    VpsCurrent pr (run pr events) ∧
    (∀ event, StoresNewest pr (run pr events) (step pr (run pr events) event)) ∧
    (∀ (k : PpsId) (irap : Bool), (psActivate pr (run pr events) k irap).1 = 0 →
      ∀ q, (psActivate pr (run pr events) k irap).2.pendingPps k = some q →
        PpsFailed pr (psActivate pr (run pr events) k irap).2 q) ∧
    (run pr events).reparsed.Nodup := by
  have hinv : Inv pr (run pr events) := run_inv events
  refine ⟨hinv.linked, hinv.dated, run_vpsCurrent events, step_storesNewest hinv,
    fun k irap hret q hq => ?_, run_nodup events⟩
  rw [psActivate, dif_pos k.isLt] at hret hq ⊢
  exact activate_ppsFailed hinv hret hq

end Decoder

/-- A newer SPS that does not parse against the VPS. -/
def rejectedSps : List (Event Bytes) :=
  [.nal (.vps ⟨0, 0, 1, 9⟩), .nal (.sps ⟨0, 0, 2, 9⟩), .nal (.pps ⟨0, 0, 3, 9⟩),
    .nal (.sps ⟨0, 0, 4, 0⟩)]

/-- The SPS that is superseded is used for the next picture. -/
theorem superseded_used :
    (psActivate plainParser (run plainParser rejectedSps) 0 true).1 = 0 ∧
    ((psActivate plainParser (run plainParser rejectedSps) 0 true).2.pps 0).map (·.sps.data) =
      some ⟨0, 0, 2, 9⟩ ∧
    (run plainParser rejectedSps).arrived[1]? = some (.sps ⟨0, 0, 2, 9⟩) ∧
    (run plainParser rejectedSps).arrived[3]? = some (.sps ⟨0, 0, 4, 0⟩) ∧
    plainParser.spsIds ⟨0, 0, 2, 9⟩ = some (0, 0) ∧
    plainParser.spsIds ⟨0, 0, 4, 0⟩ = some (0, 0) := by
  decide +kernel

end OmarchyM1Video.HevcParamSets
