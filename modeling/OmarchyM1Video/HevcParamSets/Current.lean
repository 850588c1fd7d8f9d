import OmarchyM1Video.HevcParamSets.Activation

/-!
Which sets a picture uses.

`ff_hevc_ps_activate` resolves one SPS: that of the pending PPS, or else that of the stored one.  When
the pending PPS does not parse, the picture uses the stored PPS all the same, and that may refer to
another SPS, for which a newer one is waiting.

* `Current`: no newer set could have been used;
* `Overlooks`: the stored PPS refers to an SPS that the call does not look at;
* `activation_current`: a picture that is accepted uses the newest sets if and only if the call
  overlooks nothing;
* `overlookedSps_used`: a stream in which it does.
-/

namespace OmarchyM1Video.HevcParamSets

variable {B V S P : Type} {ps ps' : ParamSets B V S P} {pr : Parser B V S P}

/-- The entry has been tried against the VPS that is stored under its id. -/
def SpsTried (ps : ParamSets B V S P) (r : PendingPS B VpsId) : Prop :=
  ∃ o, ps.vps r.depId = some o ∧ r.failedDep = some o.ref

/-- The content of an SPS once its pending entry is resolved, unless the entry waits for its VPS. -/
def resolvedContent (pr : Parser B V S P) (ps : ParamSets B V S P) (i : SpsId) : Option S :=
  match ps.pendingSps i with
  | none => (ps.sps i).map (·.content)
  | some w =>
      (ps.vps w.depId).bind fun o => (pr.parseSps w.data o.content).or ((ps.sps i).map (·.content))

/-- The pending PPS does not parse against its SPS, and the stored one refers to another SPS, for
which a newer one is pending that was not tried against its VPS. -/
def Overlooks (pr : Parser B V S P) (ps : ParamSets B V S P) (k : PpsId) : Prop :=
  ∃ q p r, ps.pendingPps k = some q ∧ ps.pps k = some p ∧ q.depId ≠ p.spsId ∧
    ps.pendingSps p.spsId = some r ∧ ¬ SpsTried ps r ∧
    ∃ c, resolvedContent pr ps q.depId = some c ∧ pr.parsePps q.data c = none

/-- No PPS or SPS waits for what it depends on, and the newest ones received, where they are not those
that are stored, have failed to parse against what is stored under the ids they depend on. -/
structure Current (pr : Parser B V S P) (ps : ParamSets B V S P) (k : PpsId) (p : Pps B V S P) :
    Prop where
  ppsReady : ∀ q, ps.pendingPps k = some q → ps.sps q.depId ≠ none
  spsReady : ∀ r, ps.pendingSps p.spsId = some r → ps.vps r.depId ≠ none
  ppsNewer : ∀ t, Newest (IsPps pr k) ps.arrived t → ps.ppsTime k < t →
    ∃ q, ps.pendingPps k = some q ∧ q.received = t ∧ PpsFailed pr ps q
  spsNewer : ∀ t, Newest (IsSps pr p.spsId) ps.arrived t → ps.spsTime p.spsId < t →
    ∃ r, ps.pendingSps p.spsId = some r ∧ r.received = t ∧ SpsFailed pr ps r

/-! ### Resolving one SPS -/

/-- What the resolution of SPS `i` leaves as it was. -/
structure SpsFrame (i : SpsId) (ps ps' : ParamSets B V S P) : Prop where
  pendingSps : ∀ j, j ≠ i → ps'.pendingSps j = ps.pendingSps j
  pps : ∀ k p, ps.pps k = some p → p.spsId ≠ i → ps'.pps k = some p
  pendingPps : ∀ k q, ps.pendingPps k = some q → ps'.pendingPps k = some q
  pendingPps_new : ∀ k q, ps'.pendingPps k = some q → ps.pendingPps k = some q ∨ q.depId = i

lemma SpsFrame.refl (i : SpsId) (ps : ParamSets B V S P) : SpsFrame i ps ps :=
  ⟨fun _ _ => rfl, fun _ _ hp _ => hp, fun _ _ => id, fun _ _ => Or.inl⟩

lemma DecodedSps.frame {data : B} {time : ℕ} (hd : DecodedSps pr ps data time ps') (h : Linked ps)
    {v : VpsId} {i : SpsId} (hids : pr.spsIds data = some (v, i)) : SpsFrame i ps ps' := by
  cases hd with
  | unreadable hids' => simp [hids] at hids'
  | deferred hids' hvps' =>
      obtain ⟨rfl, rfl⟩ := Prod.mk.inj (Option.some.inj (hids.symm.trans hids'))
      exact ⟨fun j hj => by simp [hj], fun _ _ hp _ => hp, fun _ _ => id, fun _ _ => Or.inl⟩
  | failed hids' hvps' hparse =>
      obtain ⟨rfl, rfl⟩ := Prod.mk.inj (Option.some.inj (hids.symm.trans hids'))
      exact ⟨fun j hj => by simp [hj], fun _ _ hp _ => hp, fun _ _ => id, fun _ _ => Or.inl⟩
  | repeated hids' hs hdata =>
      obtain ⟨rfl, rfl⟩ := Prod.mk.inj (Option.some.inj (hids.symm.trans hids'))
      exact ⟨fun j hj => by simp [hj], fun _ _ hp _ => hp, fun _ _ => id, fun _ _ => Or.inl⟩
  | stored hids' hvps' hparse hnew =>
      obtain ⟨rfl, rfl⟩ := Prod.mk.inj (Option.some.inj (hids.symm.trans hids'))
      have hlinked : PpsLinked (ps.releaseSps i) := h.pps
      have hr := removeSps_removed hlinked i
      refine ⟨fun j hj => by simp [hj], fun k p hp hne => (hr.pps k p).mpr ⟨hp, hne⟩,
        fun k q hq => (hr.pendingPps k q).mpr (Or.inl hq), fun k q hq => ?_⟩
      rcases (hr.pendingPps k q).mp hq with hold | ⟨-, p, -, rfl, rfl⟩
      · exact Or.inl hold
      · exact Or.inr rfl

section Decoder

variable [DecidableEq B]

lemma ResolvedSps.frame (h : Inv pr ps) {i : SpsId} {r : Bool × ParamSets B V S P}
    (hres : ResolvedSps pr ps i r) : SpsFrame i ps r.2 := by
  cases hres with
  | absent => exact SpsFrame.refl i ps
  | waiting => exact SpsFrame.refl i ps
  | failed => exact SpsFrame.refl i ps
  | @parsed q vps hq hvps hnot =>
      have hlinked : Linked { ps with reparsed := ps.reparsed ++ [(.sps, q.received, vps.ref)] } :=
        ⟨h.linked.pps, h.linked.sps⟩
      have hframe := (@decodeNalSps_decoded _ _ _ _ _ _ pr q.data q.received).frame hlinked
        (h.pendingSps i q not_false hq).ids
      exact ⟨hframe.pendingSps, hframe.pps, hframe.pendingPps, hframe.pendingPps_new⟩

/-- The SPS that is stored after its resolution. -/
lemma ResolvedSps.content (h : Inv pr ps) {i : SpsId} {r : Bool × ParamSets B V S P}
    (hres : ResolvedSps pr ps i r) :
    if r.1 then resolvedContent pr ps i = none
    else (r.2.sps i).map (·.content) = resolvedContent pr ps i := by
  cases hres with
  | absent hnone => simp [resolvedContent, hnone]
  | waiting hq hvps => simp [resolvedContent, hq, hvps]
  | @failed q vps hq hvps hfailed =>
      have hparse := (h.pendingSps i q not_false hq).sound.failed _ _
        (vpsDep_eq_some.mpr ⟨vps, hvps, rfl, rfl⟩) hfailed
      simp [resolvedContent, hq, hvps, hparse]
  | @parsed q vps hq hvps hnot =>
      have hids := (h.pendingSps i q not_false hq).ids
      simp only [Bool.false_eq_true, if_false, resolvedContent, hq, hvps, Option.bind_some]
      generalize hlog : ({ ps with reparsed := _ } : ParamSets B V S P) = ps₁
      have hsps : ps₁.sps = ps.sps := by rw [← hlog]
      have hvps₁ : ps₁.vps = ps.vps := by rw [← hlog]
      have hd : DecodedSps pr ps₁ q.data q.received (decodeNalSps pr ps₁ q.data q.received) :=
        decodeNalSps_decoded
      generalize decodeNalSps pr ps₁ q.data q.received = ps' at hd ⊢
      cases hd with
      | unreadable hids' => simp [hids] at hids'
      | deferred hids' hvps' =>
          obtain ⟨rfl, rfl⟩ := Prod.mk.inj (Option.some.inj (hids.symm.trans hids'))
          simp [hvps₁, hvps] at hvps'
      | failed hids' hvps' hparse =>
          obtain ⟨rfl, rfl⟩ := Prod.mk.inj (Option.some.inj (hids.symm.trans hids'))
          rw [hvps₁, hvps] at hvps'
          obtain rfl := Option.some.inj hvps'
          simp [hparse, hsps]
      | @repeated v j s hids' hs hdata =>
          obtain ⟨rfl, rfl⟩ := Prod.mk.inj (Option.some.inj (hids.symm.trans hids'))
          rw [hsps] at hs
          -- The stored set was parsed against the VPS that is stored now.
          have hv : s.vpsId = q.depId := by
            have heq := h.spsIds i s hs
            rw [hdata, hids] at heq
            exact (Prod.mk.inj (Option.some.inj heq)).1.symm
          have hlinked := h.linked.sps i s hs
          rw [hv, hvps] at hlinked
          have hparse := h.spsParsed i s hs
          rw [hdata, ← Option.some.inj hlinked] at hparse
          simp [hparse, hsps, hs]
      | stored hids' hvps' hparse hnew =>
          obtain ⟨rfl, rfl⟩ := Prod.mk.inj (Option.some.inj (hids.symm.trans hids'))
          rw [hvps₁, hvps] at hvps'
          obtain rfl := Option.some.inj hvps'
          simp [hparse]

/-! ### Resolving the PPS -/

/-- A PPS that is stored after the resolution was there before, or is the pending one. -/
lemma ResolvedPps.origin (h : Inv pr ps) {k : PpsId} {r : Bool × ParamSets B V S P}
    (hres : ResolvedPps pr ps k r) {p : Pps B V S P} (hp : r.2.pps k = some p) :
    ps.pps k = some p ∨ ∃ q, ps.pendingPps k = some q ∧ p.spsId = q.depId := by
  cases hres with
  | absent => exact Or.inl hp
  | waiting => exact Or.inl hp
  | failed => exact Or.inl hp
  | @parsed q sps hq hsps hnot =>
      have hids := (h.pendingPps k q not_false hq).ids
      generalize hlog : ({ ps with reparsed := _ } : ParamSets B V S P) = ps₁ at hp
      have hpps : ps₁.pps = ps.pps := by rw [← hlog]
      have hd : DecodedPps pr ps₁ q.data q.received (decodeNalPps pr ps₁ q.data q.received) :=
        decodeNalPps_decoded
      simp only at hp
      generalize decodeNalPps pr ps₁ q.data q.received = ps' at hd hp
      rw [← hpps]
      cases hd with
      | unreadable => exact Or.inl hp
      | repeated => exact Or.inl hp
      | deferred => exact Or.inl hp
      | failed => exact Or.inl hp
      | stored hids' hsps' hparse =>
          obtain ⟨rfl, rfl⟩ := Prod.mk.inj (Option.some.inj (hids.symm.trans hids'))
          obtain rfl : _ = p := by simpa using hp
          exact Or.inr ⟨q, hq, rfl⟩

/-- A PPS that refers to another SPS than the pending one stays if that one does not parse. -/
lemma ResolvedPps.kept_iff (h : Inv pr ps) {k : PpsId} {r : Bool × ParamSets B V S P}
    (hres : ResolvedPps pr ps k r) {q : PendingPS B SpsId} (hq : ps.pendingPps k = some q)
    {s : Sps B V S} (hs : ps.sps q.depId = some s) {p : Pps B V S P} (hp : ps.pps k = some p)
    (hne : q.depId ≠ p.spsId) :
    r.1 = false ∧ (r.2.pps k = some p ↔ pr.parsePps q.data s.content = none) := by
  cases hres with
  | absent hnone => simp [hq] at hnone
  | waiting hq' hsps =>
      obtain rfl := Option.some.inj (hq.symm.trans hq')
      simp [hs] at hsps
  | @failed q' sps hq' hsps hfailed =>
      obtain rfl := Option.some.inj (hq.symm.trans hq')
      obtain rfl := Option.some.inj (hs.symm.trans hsps)
      have hparse := (h.pendingPps k q not_false hq).sound.failed _ _
        (spsDep_eq_some.mpr ⟨s, hs, rfl, rfl⟩) hfailed
      exact ⟨rfl, iff_of_true hp hparse⟩
  | @parsed q' sps hq' hsps hnot =>
      obtain rfl := Option.some.inj (hq.symm.trans hq')
      obtain rfl := Option.some.inj (hs.symm.trans hsps)
      refine ⟨rfl, ?_⟩
      have hids := (h.pendingPps k q not_false hq).ids
      generalize hlog : ({ ps with reparsed := _ } : ParamSets B V S P) = ps₁
      have hpps : ps₁.pps = ps.pps := by rw [← hlog]
      have hsps₁ : ps₁.sps = ps.sps := by rw [← hlog]
      have hd : DecodedPps pr ps₁ q.data q.received (decodeNalPps pr ps₁ q.data q.received) :=
        decodeNalPps_decoded
      simp only
      generalize decodeNalPps pr ps₁ q.data q.received = ps' at hd ⊢
      cases hd with
      | unreadable hids' => simp [hids] at hids'
      | @repeated k' i p' hids' hp' hdata =>
          obtain ⟨rfl, rfl⟩ := Prod.mk.inj (Option.some.inj (hids.symm.trans hids'))
          rw [hpps, hp] at hp'
          obtain rfl := Option.some.inj hp'
          have heq := h.ppsIds k p hp
          rw [hdata, hids] at heq
          exact absurd (Prod.mk.inj (Option.some.inj heq)).2 hne
      | deferred hids' hsps' =>
          obtain ⟨rfl, rfl⟩ := Prod.mk.inj (Option.some.inj (hids.symm.trans hids'))
          simp [hsps₁, hs] at hsps'
      | failed hids' hsps' hparse =>
          obtain ⟨rfl, rfl⟩ := Prod.mk.inj (Option.some.inj (hids.symm.trans hids'))
          rw [hsps₁, hs] at hsps'
          obtain rfl := Option.some.inj hsps'
          exact iff_of_true (by simpa [hpps] using hp) hparse
      | stored hids' hsps' hparse =>
          obtain ⟨rfl, rfl⟩ := Prod.mk.inj (Option.some.inj (hids.symm.trans hids'))
          rw [hsps₁, hs] at hsps'
          obtain rfl := Option.some.inj hsps'
          refine iff_of_false (fun hstored => hne ?_) (by simp [hparse])
          obtain rfl : _ = p := by simpa using hstored
          rfl

lemma ResolvedPps.dep_stored {k : PpsId} {r : Bool × ParamSets B V S P}
    (hres : ResolvedPps pr ps k r) (hret : r.1 = false) {q : PendingPS B SpsId}
    (hq : ps.pendingPps k = some q) : ∃ s, ps.sps q.depId = some s := by
  cases hres with
  | absent hnone => simp [hq] at hnone
  | waiting => simp at hret
  | failed hq' hsps hfailed =>
      obtain rfl := Option.some.inj (hq.symm.trans hq')
      exact ⟨_, hsps⟩
  | parsed hq' hsps hnot =>
      obtain rfl := Option.some.inj (hq.symm.trans hq')
      exact ⟨_, hsps⟩

/-! ### The picture -/

/-- The SPS that is looked at, when a picture is accepted. -/
lemma activate_accepted (h : Inv pr ps) {k : PpsId} (hret : (activate pr ps k true).1 = 0)
    {p : Pps B V S P} (hp : (activate pr ps k true).2.pps k = some p) :
    ∃ i r₁ r₂, activeSpsId ps k = some i ∧ ResolvedSps pr ps i r₁ ∧ r₁.1 = false ∧
      ResolvedPps pr r₁.2 k r₂ ∧ r₂.1 = false ∧ activate pr ps k true = (0, r₂.2) := by
  obtain ⟨r₁, hr₁, hcases⟩ := activate_cases pr ps k true
  rcases hcases with ⟨-, -, heq⟩ | ⟨hfalse, r₂, hres₂, heq⟩
  · simp [heq, invalidData] at hret
  have hnot : r₂.1 = false := by
    by_contra htrue
    rw [Bool.not_eq_false] at htrue
    simp [heq, htrue, invalidData] at hret
  rcases hr₁ with ⟨hnone, rfl⟩ | ⟨i, hi, hres₁⟩
  · -- Nothing is stored or pending under this id.
    have hpending : ps.pendingPps k = none := by
      by_contra hsome
      obtain ⟨q, hq⟩ := Option.ne_none_iff_exists'.mp hsome
      simp [activeSpsId, hq] at hnone
    have hpps : ps.pps k = none := by simpa [activeSpsId, hpending] using hnone
    rw [heq] at hp
    rcases hres₂.origin h hp with hp | ⟨q, hq, -⟩
    · simp [hpps] at hp
    · simp [hpending] at hq
  · refine ⟨i, r₁, r₂, hi, hres₁, by simpa using hfalse, hres₂, hnot, ?_⟩
    rw [heq, hnot]
    rfl

/-- **The SPS of a picture that is accepted** has nothing pending but what failed, if nothing is
overlooked. -/
lemma activate_spsFailed (h : Inv pr ps) {k : PpsId} (hret : (activate pr ps k true).1 = 0)
    {p : Pps B V S P} (hp : (activate pr ps k true).2.pps k = some p) (hnot : ¬ Overlooks pr ps k)
    {r : PendingPS B VpsId} (hr : (activate pr ps k true).2.pendingSps p.spsId = some r) :
    SpsFailed pr (activate pr ps k true).2 r := by
  obtain ⟨i, r₁, r₂, hi, hres₁, hret₁, hres₂, hret₂, heq⟩ := activate_accepted h hret hp
  have h₁ := resolvedSps_inv h hres₁
  have hframe := hres₁.frame h
  rw [heq] at hp hr ⊢
  rw [hres₂.pendingSps] at hr
  have hfailed : SpsFailed pr r₁.2 r := by
    by_cases hpi : p.spsId = i
    · rw [hpi] at hr
      exact hres₁.failed_of_pending h hret₁ hr
    -- The PPS is the stored one, and the pending one does not parse.
    have hpending : ∀ q, r₁.2.pendingPps k = some q → q.depId = i := by
      intro q hq
      rcases hframe.pendingPps_new k q hq with hq | hdep
      · simpa [activeSpsId, hq] using hi
      · exact hdep
    have hp₁ : r₁.2.pps k = some p := by
      rcases hres₂.origin h₁ hp with hp₁ | ⟨q, hq, hdep⟩
      · exact hp₁
      · exact absurd (hdep.trans (hpending q hq)) hpi
    have hp₀ := hres₁.pps h.linked hp₁
    obtain ⟨q, hq⟩ : ∃ q, ps.pendingPps k = some q := by
      by_contra hnone
      have hnone' : ps.pendingPps k = none :=
        Option.eq_none_iff_forall_ne_some.mpr fun q hq => hnone ⟨q, hq⟩
      exact hpi (by simpa [activeSpsId, hnone', hp₀] using hi)
    have hq₁ := hframe.pendingPps k q hq
    have hdep : q.depId = i := hpending q hq₁
    rw [hframe.pendingSps _ hpi] at hr
    have htried : SpsTried ps r := by
      by_contra huntried
      obtain ⟨s, hs⟩ := hres₂.dep_stored hret₂ hq₁
      have hne : q.depId ≠ p.spsId := fun heq' => hpi (heq'.symm.trans hdep)
      have hparse := ((hres₂.kept_iff h₁ hq₁ hs hp₁ hne).2).mp hp
      have hcontent := hres₁.content h
      rw [hret₁, if_neg Bool.false_ne_true, ← hdep, hs] at hcontent
      exact hnot ⟨q, p, r, hq, hp₀, hne, hr, huntried, s.content, hcontent.symm, hparse⟩
    obtain ⟨o, ho, hor⟩ := htried
    have hparse := (h.pendingSps p.spsId r not_false hr).sound.failed _ _
      (vpsDep_eq_some.mpr ⟨o, ho, rfl, rfl⟩) hor
    exact ⟨o, by rwa [hres₁.vps], hor, hparse⟩
  obtain ⟨o, ho, hor, hparse⟩ := hfailed
  exact ⟨o, by rwa [hres₂.vps], hor, hparse⟩

omit [DecidableEq B] in
/-- What is pending has failed, and so what is newer than a stored set has failed. -/
lemma Inv.current (h : Inv pr ps) {k : PpsId} {p : Pps B V S P} (hp : ps.pps k = some p)
    (hpps : ∀ q, ps.pendingPps k = some q → PpsFailed pr ps q)
    (hsps : ∀ r, ps.pendingSps p.spsId = some r → SpsFailed pr ps r) : Current pr ps k p := by
  have hdated := h.dated
  refine ⟨fun q hq => ?_, fun r hr => ?_, fun t hnewest hlt => ?_, fun t hnewest hlt => ?_⟩
  · obtain ⟨s, hs, -⟩ := hpps q hq
    simp [hs]
  · obtain ⟨o, ho, -⟩ := hsps r hr
    simp [ho]
  · obtain ⟨q, hq⟩ := hdated.ppsSuperseded k p hp fun hold => Nat.ne_of_lt hlt (hold.unique hnewest)
    exact ⟨q, hq, (hdated.pendingPps k q hq).2.unique hnewest, hpps q hq⟩
  · obtain ⟨r, hr⟩ := hdated.spsSuperseded p.spsId p.sps (h.linked.pps k p hp)
      fun hold => Nat.ne_of_lt hlt (hold.unique hnewest)
    exact ⟨r, hr, (hdated.pendingSps p.spsId r hr).2.unique hnewest, hsps r hr⟩

/-- The SPS of the stored PPS is overlooked: the picture is accepted with it. -/
lemma Overlooks.not_current (h : Inv pr ps) {k : PpsId} (hover : Overlooks pr ps k) :
    (activate pr ps k true).1 = 0 ∧ ∃ p, (activate pr ps k true).2.pps k = some p ∧
      ¬ Current pr (activate pr ps k true).2 k p := by
  obtain ⟨q, p, r, hq, hp, hne, hr, huntried, c, hc, hparse⟩ := hover
  have hactive : activeSpsId ps k = some q.depId := by simp [activeSpsId, hq]
  obtain ⟨r₁, hr₁, hcases⟩ := activate_cases pr ps k true
  have hres₁ : ResolvedSps pr ps q.depId r₁ := by
    rcases hr₁ with ⟨hnone, -⟩ | ⟨i, hi, hres⟩
    · simp [hactive] at hnone
    · rwa [Option.some.inj (hactive.symm.trans hi)]
  have h₁ := resolvedSps_inv h hres₁
  have hframe := hres₁.frame h
  have hcontent := hres₁.content h
  have hret₁ : r₁.1 = false := by
    by_contra htrue
    rw [Bool.not_eq_false] at htrue
    simp [htrue, hc] at hcontent
  rw [hret₁, if_neg Bool.false_ne_true, hc, Option.map_eq_some_iff] at hcontent
  obtain ⟨s, hs, rfl⟩ := hcontent
  rcases hcases with ⟨htrue, -⟩ | ⟨-, r₂, hres₂, heq⟩
  · simp [hret₁] at htrue
  have hp₁ := hframe.pps k p hp hne.symm
  obtain ⟨hret₂, hkept⟩ := hres₂.kept_iff h₁ (hframe.pendingPps k q hq) hs hp₁ hne
  rw [hret₂] at heq
  rw [heq]
  refine ⟨rfl, p, hkept.mpr hparse, fun hcurrent => ?_⟩
  have hr₂ : r₂.2.pendingSps p.spsId = some r := by
    rw [hres₂.pendingSps, hframe.pendingSps _ hne.symm]
    exact hr
  -- It is newer than the one that is stored, and was not tried.
  have h₂ := resolvedPps_inv h₁ hres₂
  have hsps := h₂.linked.pps k p (hkept.mpr hparse)
  obtain ⟨r', hr', -, o, ho, hor, -⟩ := hcurrent.spsNewer r.received
    (h₂.pendingSps p.spsId r not_false hr₂).newest (h₂.spsOlder p.spsId p.sps r not_false hsps hr₂)
  obtain rfl : r = r' := Option.some.inj (hr₂.symm.trans hr')
  rw [hres₂.vps, hres₁.vps] at ho
  exact huntried ⟨o, ho, hor⟩

/-- **A picture that is accepted at an IRAP uses the newest sets**, in every state of every run, if
and only if nothing is overlooked there. -/
theorem activation_current (pr : Parser B V S P) (events : List (Event B)) (k : PpsId) :
    ((psActivate pr (run pr events) k true).1 = 0 →
      ∀ p, (psActivate pr (run pr events) k true).2.pps k = some p →
        Current pr (psActivate pr (run pr events) k true).2 k p) ↔
    ¬ Overlooks pr (run pr events) k := by
  have hinv : Inv pr (run pr events) := run_inv events
  rw [psActivate, dif_pos k.isLt]
  constructor
  · intro hcurrent hover
    obtain ⟨hret, p, hp, hnot⟩ := hover.not_current hinv
    exact hnot (hcurrent hret p hp)
  · intro hnot hret p hp
    exact (activate_inv hinv k true).current hp (fun q => activate_ppsFailed hinv hret)
      fun r => activate_spsFailed hinv hret hp hnot

end Decoder

/-- The newer PPS refers to another SPS and does not parse against it; the newer SPS waits for a VPS
that does not come. -/
def overlookedSps : List (Event Bytes) :=
  [.nal (.vps ⟨0, 0, 1, 9⟩), .nal (.sps ⟨0, 0, 2, 9⟩), .nal (.sps ⟨1, 0, 3, 9⟩),
    .nal (.pps ⟨0, 0, 4, 9⟩), .nal (.pps ⟨0, 1, 5, 0⟩), .nal (.sps ⟨0, 1, 6, 9⟩)]

/-- The picture is accepted, with the SPS that the waiting one supersedes. -/
theorem overlookedSps_used :
    (psActivate plainParser (run plainParser overlookedSps) 0 true).1 = 0 ∧
    ((psActivate plainParser (run plainParser overlookedSps) 0 true).2.pps 0).map
      (fun p => (p.spsId, p.sps.data)) = some (0, ⟨0, 0, 2, 9⟩) ∧
    (psActivate plainParser (run plainParser overlookedSps) 0 true).2.pendingSps 0 =
      some { data := ⟨0, 1, 6, 9⟩, depId := 1, received := 5 } ∧
    (psActivate plainParser (run plainParser overlookedSps) 0 true).2.vps 1 = none := by
  decide +kernel

end OmarchyM1Video.HevcParamSets
