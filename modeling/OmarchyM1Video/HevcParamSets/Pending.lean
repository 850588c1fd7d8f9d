import OmarchyM1Video.HevcParamSets.Tables

/-!
The pending entries over a whole run.

An entry is made in six places and released in four.  Each keeps two things true: what an entry says
of a failed parse holds of the object that is stored now, and an entry is the newest set of its kind
and id.  While a set is being decoded its own slot is out of order, so the invariant is stated up to
some slots.

* `Newest`: the last of the sets received that has a kind and an id;
* `Sound`: what an entry says of the object that its dependency id refers to;
* `Inv`: the invariant, and `receive_inv`, `activate_inv`: every event keeps it;
* `run_nodup`: a set is parsed again at most once for each object that it depends on.
-/

namespace OmarchyM1Video.HevcParamSets

variable {B V S P : Type} {ps ps' ps'' : ParamSets B V S P} {pr : Parser B V S P}

/-! ### The newest set -/

/-- The last place of the list with `Q`. -/
def Newest {α : Type} (Q : α → Prop) (l : List α) (t : ℕ) : Prop :=
  (∃ a, l[t]? = some a ∧ Q a) ∧ ∀ t' a, t < t' → l[t']? = some a → ¬ Q a

section Newest

variable {α : Type} {Q : α → Prop} {l : List α} {t : ℕ}

lemma Newest.le (h : Newest Q l t) {t' : ℕ} {a : α} (ha : l[t']? = some a) (hQ : Q a) : t' ≤ t := by
  by_contra hlt
  exact h.2 t' a (Nat.lt_of_not_le hlt) ha hQ

lemma Newest.unique {t' : ℕ} (h : Newest Q l t) (h' : Newest Q l t') : t = t' := by
  obtain ⟨a, ha, hQ⟩ := h.1
  obtain ⟨a', ha', hQ'⟩ := h'.1
  exact Nat.le_antisymm (h'.le ha hQ) (h.le ha' hQ')

lemma getElem?_concat_of_some {a b : α} (h : l[t]? = some a) : (l ++ [b])[t]? = some a := by
  rw [List.getElem?_append_left (List.getElem?_eq_some_iff.mp h).1, h]

lemma Newest.concat {a : α} (h : Newest Q l t) (ha : ¬ Q a) : Newest Q (l ++ [a]) t := by
  obtain ⟨⟨b, hb, hQ⟩, hlater⟩ := h
  refine ⟨⟨b, getElem?_concat_of_some hb, hQ⟩, fun t' c hlt hc => ?_⟩
  rcases Nat.lt_trichotomy t' l.length with hin | rfl | hout
  · rw [List.getElem?_append_left hin] at hc
    exact hlater t' c hlt hc
  · obtain rfl : a = c := by simpa using hc
    exact ha
  · rw [List.getElem?_eq_none (by simpa using Nat.succ_le_of_lt hout)] at hc
    exact absurd hc (by simp)

lemma newest_concat {a : α} (ha : Q a) : Newest Q (l ++ [a]) l.length := by
  refine ⟨⟨a, by simp, ha⟩, fun t' c hlt hc => ?_⟩
  rw [List.getElem?_eq_none (by simpa using Nat.succ_le_of_lt hlt)] at hc
  exact absurd hc (by simp)

end Newest

/-- An SPS with this id. -/
def IsSps (pr : Parser B V S P) (i : SpsId) (nal : Nal B) : Prop :=
  ∃ data v, nal = .sps data ∧ pr.spsIds data = some (v, i)

/-- A PPS with this id. -/
def IsPps (pr : Parser B V S P) (k : PpsId) (nal : Nal B) : Prop :=
  ∃ data i, nal = .pps data ∧ pr.ppsIds data = some (k, i)

/-! ### The invariant -/

section Sound

variable {D C X : Type} {κ : Kind} {parse : B → C → Option X} {dep dep' : D → Option (ℕ × C)}
  {next next' : ℕ} {reparsed : List (Kind × ℕ × ℕ)} {q : PendingPS B D}

/-- What an entry says is true: the object that it failed against is not a future one; against the
object that its dependency id refers to, the parse does fail if the entry says so, and the entry says
so if it was parsed again. -/
structure Sound (κ : Kind) (parse : B → C → Option X) (dep : D → Option (ℕ × C)) (next : ℕ)
    (reparsed : List (Kind × ℕ × ℕ)) (q : PendingPS B D) : Prop where
  lt : ∀ r, q.failedDep = some r → r < next
  failed : ∀ r c, dep q.depId = some (r, c) → q.failedDep = some r → parse q.data c = none
  tried : ∀ r c, dep q.depId = some (r, c) → (κ, q.received, r) ∈ reparsed → q.failedDep = some r

/-- An object that is new is not one that an entry knows of. -/
lemma Sound.mono (h : Sound κ parse dep next reparsed q)
    (hlt : ∀ κ t r, (κ, t, r) ∈ reparsed → r < next) (hnext : next ≤ next')
    (hdep : ∀ r c, dep' q.depId = some (r, c) → dep q.depId = some (r, c) ∨ next ≤ r) :
    Sound κ parse dep' next' reparsed q := by
  refine ⟨fun r hr => Nat.lt_of_lt_of_le (h.lt r hr) hnext, fun r c hrc hr => ?_, fun r c hrc hmem => ?_⟩
  · rcases hdep r c hrc with hold | hnew
    · exact h.failed r c hold hr
    · exact absurd (h.lt r hr) (Nat.not_lt_of_le hnew)
  · rcases hdep r c hrc with hold | hnew
    · exact h.tried r c hold hmem
    · exact absurd (hlt κ _ r hmem) (Nat.not_lt_of_le hnew)

/-- An entry that has not failed, for a dependency that is absent or new. -/
lemma Sound.fresh (hq : q.failedDep = none) (hlt : ∀ κ t r, (κ, t, r) ∈ reparsed → r < next)
    (hdep : ∀ r c, dep q.depId = some (r, c) → next ≤ r) : Sound κ parse dep next' reparsed q := by
  refine ⟨fun r hr => by simp [hq] at hr, fun r c _ hr => by simp [hq] at hr, fun r c hrc hmem => ?_⟩
  exact absurd (hlt κ _ r hmem) (Nat.not_lt_of_le (hdep r c hrc))

/-- An entry that has just failed. -/
lemma Sound.just {r : ℕ} {c : C} (hdep : dep q.depId = some (r, c)) (hq : q.failedDep = some r)
    (hlt : r < next) (hparse : parse q.data c = none) : Sound κ parse dep next reparsed q := by
  refine ⟨fun r' hr' => ?_, fun r' c' hrc' _ => ?_, fun r' c' hrc' _ => ?_⟩
  · rwa [← Option.some.inj (hq.symm.trans hr')]
  · obtain ⟨-, rfl⟩ := Prod.mk.inj (Option.some.inj (hdep.symm.trans hrc'))
    exact hparse
  · obtain ⟨rfl, -⟩ := Prod.mk.inj (Option.some.inj (hdep.symm.trans hrc'))
    exact hq

end Sound

/-- The object under a VPS id. -/
def ParamSets.vpsDep (ps : ParamSets B V S P) (v : VpsId) : Option (ℕ × V) :=
  (ps.vps v).map fun o => (o.ref, o.content)

/-- The object under an SPS id. -/
def ParamSets.spsDep (ps : ParamSets B V S P) (i : SpsId) : Option (ℕ × S) :=
  (ps.sps i).map fun s => (s.ref, s.content)

/-- A pending SPS is the newest with its id, and what it says is true. -/
structure SpsEntry (pr : Parser B V S P) (ps : ParamSets B V S P) (i : SpsId)
    (q : PendingPS B VpsId) : Prop where
  ids : pr.spsIds q.data = some (q.depId, i)
  sound : Sound .sps pr.parseSps ps.vpsDep ps.next ps.reparsed q
  arrived : ps.arrived[q.received]? = some (.sps q.data)
  newest : Newest (IsSps pr i) ps.arrived q.received

/-- A pending PPS is the newest with its id, and what it says is true. -/
structure PpsEntry (pr : Parser B V S P) (ps : ParamSets B V S P) (k : PpsId)
    (q : PendingPS B SpsId) : Prop where
  ids : pr.ppsIds q.data = some (k, q.depId)
  sound : Sound .pps pr.parsePps ps.spsDep ps.next ps.reparsed q
  arrived : ps.arrived[q.received]? = some (.pps q.data)
  newest : Newest (IsPps pr k) ps.arrived q.received

/-- The invariant, but for the SPS slots in `E` and the PPS slots in `F`. -/
structure InvBut (pr : Parser B V S P) (E : SpsId → Prop) (F : PpsId → Prop)
    (ps : ParamSets B V S P) : Prop where
  linked : Linked ps
  vps_lt : ∀ v o, ps.vps v = some o → o.ref < ps.next
  sps_lt : ∀ i s, ps.sps i = some s → s.ref < ps.next
  reparsed_lt : ∀ κ t r, (κ, t, r) ∈ ps.reparsed → r < ps.next
  spsIds : ∀ i s, ps.sps i = some s → pr.spsIds s.data = some (s.vpsId, i)
  spsParsed : ∀ i s, ps.sps i = some s → pr.parseSps s.data s.vps.content = some s.content
  ppsIds : ∀ k p, ps.pps k = some p → pr.ppsIds p.data = some (k, p.spsId)
  spsArrived : ∀ i s, ¬ E i → ps.sps i = some s → ps.arrived[ps.spsTime i]? = some (.sps s.data)
  ppsArrived : ∀ k p, ¬ F k → ps.pps k = some p → ps.arrived[ps.ppsTime k]? = some (.pps p.data)
  pendingSps : ∀ i q, ¬ E i → ps.pendingSps i = some q → SpsEntry pr ps i q
  pendingPps : ∀ k q, ¬ F k → ps.pendingPps k = some q → PpsEntry pr ps k q
  spsNewest : ∀ i s, ¬ E i → ps.sps i = some s → ps.pendingSps i = none →
    Newest (IsSps pr i) ps.arrived (ps.spsTime i)
  ppsNewest : ∀ k p, ¬ F k → ps.pps k = some p → ps.pendingPps k = none →
    Newest (IsPps pr k) ps.arrived (ps.ppsTime k)
  spsOlder : ∀ i s q, ¬ E i → ps.sps i = some s → ps.pendingSps i = some q →
    ps.spsTime i < q.received
  ppsOlder : ∀ k p q, ¬ F k → ps.pps k = some p → ps.pendingPps k = some q →
    ps.ppsTime k < q.received

/-- The invariant. -/
abbrev Inv (pr : Parser B V S P) (ps : ParamSets B V S P) : Prop :=
  InvBut pr (fun _ => False) (fun _ => False) ps

/-- Some slots may be out of order. -/
lemma InvBut.weaken {E E' : SpsId → Prop} {F F' : PpsId → Prop} (h : InvBut pr E F ps)
    (hE : ∀ i, E i → E' i) (hF : ∀ k, F k → F' k) : InvBut pr E' F' ps :=
  { h with
    spsArrived := fun i s hi => h.spsArrived i s fun hEi => hi (hE i hEi)
    ppsArrived := fun k p hk => h.ppsArrived k p fun hFk => hk (hF k hFk)
    pendingSps := fun i q hi => h.pendingSps i q fun hEi => hi (hE i hEi)
    pendingPps := fun k q hk => h.pendingPps k q fun hFk => hk (hF k hFk)
    spsNewest := fun i s hi => h.spsNewest i s fun hEi => hi (hE i hEi)
    ppsNewest := fun k p hk => h.ppsNewest k p fun hFk => hk (hF k hFk)
    spsOlder := fun i s q hi => h.spsOlder i s q fun hEi => hi (hE i hEi)
    ppsOlder := fun k p q hk => h.ppsOlder k p q fun hFk => hk (hF k hFk) }

/-! ### Decoding a VPS -/

lemma vpsDep_storeVps {v w : VpsId} {data : B} {content c : V} {r : ℕ}
    (h : (ps.storeVps v data content).vpsDep w = some (r, c)) :
    w ≠ v ∧ ps.vpsDep w = some (r, c) ∨ r = ps.next := by
  by_cases hw : w = v
  · subst hw
    have hnew : ps.next = r ∧ content = c := by simpa [ParamSets.vpsDep] using h
    exact Or.inr hnew.1.symm
  · exact Or.inl ⟨hw, by simpa [ParamSets.vpsDep, hw] using h⟩

lemma spsDep_eq_some {i : SpsId} {r : ℕ} {c : S} :
    ps.spsDep i = some (r, c) ↔ ∃ s, ps.sps i = some s ∧ s.ref = r ∧ s.content = c := by
  simp [ParamSets.spsDep, Option.map_eq_some_iff]

lemma vpsDep_eq_some {v : VpsId} {r : ℕ} {c : V} :
    ps.vpsDep v = some (r, c) ↔ ∃ o, ps.vps v = some o ∧ o.ref = r ∧ o.content = c := by
  simp [ParamSets.vpsDep, Option.map_eq_some_iff]

/-- The pending PPSs after a removal: those from before, and those that are removed.  An SPS that is
stored afterwards is new. -/
lemma InvBut.ppsEntry_of_removed {E D : SpsId → Prop} {F : PpsId → Prop} (h : InvBut pr E F ps)
    (hr : Removed D ps ps') {k : PpsId} {q : PendingPS B SpsId} (hk : ¬ F k)
    (hq : ps'.pendingPps k = some q) (harrived : ps''.arrived = ps.arrived)
    (hreparsed : ps''.reparsed = ps.reparsed) (hnext : ps.next ≤ ps''.next)
    (hdep : ∀ r c, ps''.spsDep q.depId = some (r, c) →
      ¬ D q.depId ∧ ps.spsDep q.depId = some (r, c) ∨ ps.next ≤ r) : PpsEntry pr ps'' k q := by
  rcases (hr.pendingPps k q).mp hq with hq | ⟨hnone, p, hp, hD, rfl⟩
  · obtain ⟨hids, hsound, hold, hnewest⟩ := h.pendingPps k q hk hq
    refine ⟨hids, ?_, harrived ▸ hold, harrived ▸ hnewest⟩
    rw [hreparsed]
    exact hsound.mono h.reparsed_lt hnext fun r c hrc => (hdep r c hrc).imp_left And.right
  · refine ⟨h.ppsIds k p hp, ?_, ?_, ?_⟩
    · rw [hreparsed]
      exact Sound.fresh rfl h.reparsed_lt fun r c hrc =>
        (hdep r c hrc).resolve_left fun hnot => hnot.1 hD
    · rw [harrived]
      exact h.ppsArrived k p hk hp
    · rw [harrived]
      exact h.ppsNewest k p hk hp hnone

/-- What is left of the stored PPSs after a removal is older than what is pending. -/
lemma InvBut.ppsOlder_of_removed {E D : SpsId → Prop} {F : PpsId → Prop} (h : InvBut pr E F ps)
    (hr : Removed D ps ps') {k : PpsId} {p : Pps B V S P} {q : PendingPS B SpsId} (hk : ¬ F k)
    (hp : ps'.pps k = some p) (hq : ps'.pendingPps k = some q) : ps.ppsTime k < q.received := by
  obtain ⟨hp, hnot⟩ := (hr.pps k p).mp hp
  rcases (hr.pendingPps k q).mp hq with hq | ⟨-, p', hp', hD, -⟩
  · exact h.ppsOlder k p q hk hp hq
  · rw [Option.some.inj (hp'.symm.trans hp)] at hD
    exact absurd hD hnot

/-- **A new VPS**: what depended on the old one waits for it. -/
lemma Inv.storeVps (h : Inv pr ps) (v : VpsId) (data : B) (content : V) :
    Inv pr ((removeVps ps v).storeVps v data content) := by
  have hr := removeVps_removed h.linked.pps h.linked.sps v
  have hlt : ∀ κ t r, (κ, t, r) ∈ (removeVps ps v).reparsed → r < (removeVps ps v).next := by
    rw [hr.reparsed, hr.next]
    exact h.reparsed_lt
  have hnext : ps.next ≤ (removeVps ps v).next + 1 := by
    rw [hr.next]
    exact Nat.le_succ _
  refine
    { linked := h.linked.storeVps v data content
      vps_lt := fun w o ho => ?_
      sps_lt := fun i s hs => ?_
      reparsed_lt := fun κ t r hmem => Nat.lt_succ_of_lt (hlt κ t r hmem)
      spsIds := fun i s hs => h.spsIds i s ((hr.sps i s).mp hs).1
      spsParsed := fun i s hs => h.spsParsed i s ((hr.sps i s).mp hs).1
      ppsIds := fun k p hp => h.ppsIds k p ((hr.pps k p).mp hp).1
      spsArrived := fun i s _ hs => ?_
      ppsArrived := fun k p _ hp => ?_
      pendingSps := fun i q _ hq => ?_
      pendingPps := fun k q _ hq => ?_
      spsNewest := fun i s _ hs hnone => ?_
      ppsNewest := fun k p _ hp hnone => ?_
      spsOlder := fun i s q _ hs hq => ?_
      ppsOlder := fun k p q _ hp hq => ?_ }
  · rw [ParamSets.storeVps_next, hr.next]
    by_cases hw : w = v
    · subst hw
      obtain rfl : _ = o := by simpa using ho
      simp [hr.next]
    · rw [ParamSets.storeVps_vps, Function.update_of_ne hw] at ho
      exact Nat.lt_succ_of_lt (h.vps_lt w o ((hr.vps w o).mp ho).1)
  · rw [ParamSets.storeVps_next, hr.next]
    exact Nat.lt_succ_of_lt (h.sps_lt i s ((hr.sps i s).mp hs).1)
  · rw [ParamSets.storeVps_arrived, ParamSets.storeVps_spsTime, hr.arrived, hr.spsTime]
    exact h.spsArrived i s not_false ((hr.sps i s).mp hs).1
  · rw [ParamSets.storeVps_arrived, ParamSets.storeVps_ppsTime, hr.arrived, hr.ppsTime]
    exact h.ppsArrived k p not_false ((hr.pps k p).mp hp).1
  · have hdep : ∀ r c, ((removeVps ps v).storeVps v data content).vpsDep q.depId = some (r, c) →
        q.depId ≠ v ∧ ps.vpsDep q.depId = some (r, c) ∨ ps.next ≤ r := by
      intro r c hrc
      rcases vpsDep_storeVps hrc with ⟨hne, hold⟩ | rfl
      · obtain ⟨o, ho, hor, hoc⟩ := vpsDep_eq_some.mp hold
        exact Or.inl ⟨hne, vpsDep_eq_some.mpr ⟨o, ((hr.vps _ o).mp ho).1, hor, hoc⟩⟩
      · exact Or.inr (le_of_eq hr.next.symm)
    rcases (hr.pendingSps i q).mp hq with hq | ⟨hnone, s, hs, ⟨s', hs', hv⟩, rfl⟩
    · obtain ⟨hids, hsound, harrived, hnewest⟩ := h.pendingSps i q not_false hq
      refine ⟨hids, ?_, ?_, ?_⟩
      · rw [ParamSets.storeVps_reparsed, hr.reparsed]
        exact hsound.mono h.reparsed_lt hnext fun r c hrc => (hdep r c hrc).imp_left And.right
      · rwa [ParamSets.storeVps_arrived, hr.arrived]
      · rwa [ParamSets.storeVps_arrived, hr.arrived]
    · obtain rfl : s' = s := Option.some.inj (hs'.symm.trans hs)
      refine ⟨by rw [h.spsIds i s' hs, hv], ?_, ?_, ?_⟩
      · rw [ParamSets.storeVps_reparsed, hr.reparsed]
        exact Sound.fresh rfl h.reparsed_lt fun r c hrc =>
          (hdep r c hrc).resolve_left fun hne => hne.1 rfl
      · rw [ParamSets.storeVps_arrived, hr.arrived]
        exact h.spsArrived i s' not_false hs
      · rw [ParamSets.storeVps_arrived, hr.arrived]
        exact h.spsNewest i s' not_false hs hnone
  · refine h.ppsEntry_of_removed hr.toRemoved not_false hq hr.arrived hr.reparsed hnext ?_
    intro r c hrc
    obtain ⟨s, hs, hsr, hsc⟩ := spsDep_eq_some.mp hrc
    obtain ⟨hs, hnot⟩ := (hr.sps _ s).mp hs
    exact Or.inl ⟨hnot, spsDep_eq_some.mpr ⟨s, hs, hsr, hsc⟩⟩
  · rw [ParamSets.storeVps_arrived, ParamSets.storeVps_spsTime, hr.arrived, hr.spsTime]
    exact h.spsNewest i s not_false ((hr.sps i s).mp hs).1 (hr.pendingSps.none_iff.mp hnone).1
  · rw [ParamSets.storeVps_arrived, ParamSets.storeVps_ppsTime, hr.arrived, hr.ppsTime]
    exact h.ppsNewest k p not_false ((hr.pps k p).mp hp).1 (hr.pendingPps_none.mp hnone).1
  · obtain ⟨hs, hnot⟩ := (hr.sps i s).mp hs
    rw [ParamSets.storeVps_spsTime, hr.spsTime]
    rcases (hr.pendingSps i q).mp hq with hq | ⟨-, _, -, hdep, -⟩
    · exact h.spsOlder i s q not_false hs hq
    · exact absurd hdep hnot
  · rw [ParamSets.storeVps_ppsTime, hr.ppsTime]
    exact h.ppsOlder_of_removed hr.toRemoved not_false hp hq

lemma Inv.decodedVps {data : B} (h : Inv pr ps) (hd : DecodedVps pr ps data ps') : Inv pr ps' := by
  cases hd with
  | kept => exact h
  | stored => exact h.storeVps _ _ _

/-! ### Decoding an SPS -/

/-- The slot of the SPS that is being decoded. -/
def SpsSlot (pr : Parser B V S P) (data : B) (i : SpsId) : Prop := ∃ v, pr.spsIds data = some (v, i)

/-- The slot of the PPS that is being decoded. -/
def PpsSlot (pr : Parser B V S P) (data : B) (k : PpsId) : Prop := ∃ i, pr.ppsIds data = some (k, i)

lemma not_spsSlot {data : B} {v : VpsId} {i j : SpsId} (hids : pr.spsIds data = some (v, i))
    (hj : j ≠ i) : ¬ SpsSlot pr data j := by
  rintro ⟨w, hw⟩
  exact hj (Prod.mk.inj (Option.some.inj (hw.symm.trans hids))).2

/-- A pending SPS is kept. -/
lemma InvBut.keepPendingSps {data : B} (h : InvBut pr (SpsSlot pr data) (fun _ => False) ps)
    {v : VpsId} {i : SpsId} (hids : pr.spsIds data = some (v, i)) {q : PendingPS B VpsId}
    (hkept : ∀ s, ps.sps i = some s → ps.arrived[ps.spsTime i]? = some (.sps s.data))
    (holder : ∀ s, ps.sps i = some s → ps.spsTime i < q.received)
    (hq : SpsEntry pr ps i q) : Inv pr (ps.keepPendingSps i q) := by
  refine
    { h with
      linked := ⟨h.linked.pps, h.linked.sps⟩
      spsArrived := fun j s _ hs => ?_
      pendingSps := fun j q' _ hq' => ?_
      pendingPps := fun k q' _ hq' => ?_
      spsNewest := fun j s _ hs hnone => ?_
      ppsNewest := h.ppsNewest
      spsOlder := fun j s q' _ hs hq' => ?_ }
  · by_cases hj : j = i
    · subst hj
      exact hkept s hs
    · exact h.spsArrived j s (not_spsSlot hids hj) hs
  · by_cases hj : j = i
    · subst hj
      obtain rfl : q = q' := by simpa using hq'
      exact ⟨hq.ids, hq.sound, hq.arrived, hq.newest⟩
    · obtain ⟨hids', hsound, harrived, hnewest⟩ :=
        h.pendingSps j q' (not_spsSlot hids hj) (by simpa [hj] using hq')
      exact ⟨hids', hsound, harrived, hnewest⟩
  · obtain ⟨hids', hsound, harrived, hnewest⟩ := h.pendingPps k q' not_false hq'
    exact ⟨hids', hsound, harrived, hnewest⟩
  · by_cases hj : j = i
    · simp [hj] at hnone
    · exact h.spsNewest j s (not_spsSlot hids hj) hs (by simpa [hj] using hnone)
  · by_cases hj : j = i
    · subst hj
      obtain rfl : q = q' := by simpa using hq'
      exact holder s hs
    · exact h.spsOlder j s q' (not_spsSlot hids hj) hs (by simpa [hj] using hq')

/-- A pending SPS is released. -/
lemma InvBut.releaseSps {data : B} (h : InvBut pr (SpsSlot pr data) (fun _ => False) ps)
    {v : VpsId} {i : SpsId} (hids : pr.spsIds data = some (v, i)) :
    InvBut pr (SpsSlot pr data) (fun _ => False) (ps.releaseSps i) := by
  have hne : ∀ j, ¬ SpsSlot pr data j → j ≠ i := by
    rintro j hj rfl
    exact hj ⟨v, hids⟩
  refine
    { h with
      linked := ⟨h.linked.pps, h.linked.sps⟩
      pendingSps := fun j q hj hq => ?_
      pendingPps := fun k q _ hq => ?_
      spsNewest := fun j s hj hs hnone => ?_
      ppsNewest := h.ppsNewest
      spsOlder := fun j s q hj hs hq => h.spsOlder j s q hj hs (by simpa [hne j hj] using hq) }
  · obtain ⟨hids', hsound, harrived, hnewest⟩ := h.pendingSps j q hj (by simpa [hne j hj] using hq)
    exact ⟨hids', hsound, harrived, hnewest⟩
  · obtain ⟨hids', hsound, harrived, hnewest⟩ := h.pendingPps k q not_false hq
    exact ⟨hids', hsound, harrived, hnewest⟩
  · exact h.spsNewest j s hj hs (by simpa [hne j hj] using hnone)

/-- The set that is stored is the newest one. -/
lemma InvBut.stampSps {data : B} (h : InvBut pr (SpsSlot pr data) (fun _ => False) ps)
    {v : VpsId} {i : SpsId} (hids : pr.spsIds data = some (v, i)) {s : Sps B V S} {time : ℕ}
    (hs : ps.sps i = some s) (hdata : s.data = data) (hnone : ps.pendingSps i = none)
    (harrived : ps.arrived[time]? = some (.sps data))
    (hnewest : Newest (IsSps pr i) ps.arrived time) : Inv pr (ps.stampSps i time) := by
  have hother : ∀ j q, ps.pendingSps j = some q → j ≠ i := by
    rintro j q hq rfl
    exact absurd (hnone.symm.trans hq) (by simp)
  refine
    { h with
      linked := ⟨h.linked.pps, h.linked.sps⟩
      spsArrived := fun j s' _ hs' => ?_
      pendingSps := fun j q _ hq => ?_
      pendingPps := fun k q _ hq => ?_
      spsNewest := fun j s' _ hs' hnone' => ?_
      ppsNewest := h.ppsNewest
      spsOlder := fun j s' q _ hs' hq => ?_ }
  · by_cases hj : j = i
    · subst hj
      obtain rfl : s = s' := Option.some.inj (hs.symm.trans hs')
      simpa [hdata] using harrived
    · simpa [hj] using h.spsArrived j s' (not_spsSlot hids hj) hs'
  · have hj := hother j q hq
    obtain ⟨hids', hsound, harrived', hnewest'⟩ := h.pendingSps j q (not_spsSlot hids hj) hq
    exact ⟨hids', hsound, harrived', hnewest'⟩
  · obtain ⟨hids', hsound, harrived', hnewest'⟩ := h.pendingPps k q not_false hq
    exact ⟨hids', hsound, harrived', hnewest'⟩
  · by_cases hj : j = i
    · subst hj
      simpa using hnewest
    · simpa [hj] using h.spsNewest j s' (not_spsSlot hids hj) hs' hnone'
  · have hj := hother j q hq
    simpa [hj] using h.spsOlder j s' q (not_spsSlot hids hj) hs' hq

/-- **A new SPS**: the PPSs of the old one wait for it. -/
lemma InvBut.storeSps {data : B} (h : InvBut pr (SpsSlot pr data) (fun _ => False) ps)
    {v : VpsId} {i : SpsId} (hids : pr.spsIds data = some (v, i)) {vps : Vps B V}
    (hvps : ps.vps v = some vps) {content : S} (hparse : pr.parseSps data vps.content = some content) :
    InvBut pr (SpsSlot pr data) (fun _ => False)
      ((removeSps ps i).storeSps i data content v vps) := by
  have hr := removeSps_removed h.linked.pps i
  have hlt : ∀ κ t r, (κ, t, r) ∈ (removeSps ps i).reparsed → r < (removeSps ps i).next := by
    rw [hr.reparsed, hr.next]
    exact h.reparsed_lt
  have hnext : ps.next ≤ (removeSps ps i).next + 1 := by
    rw [hr.next]
    exact Nat.le_succ _
  -- What is stored is the new object, or was there before.
  have hsps : ∀ j s, ((removeSps ps i).storeSps i data content v vps).sps j = some s →
      (j = i ∧ s = ⟨ps.next, data, content, v, vps⟩) ∨ (j ≠ i ∧ ps.sps j = some s) := by
    intro j s hs
    rw [ParamSets.storeSps_sps, hr.next] at hs
    by_cases hj : j = i
    · subst hj
      exact Or.inl ⟨rfl, by simpa [eq_comm] using hs⟩
    · rw [Function.update_of_ne hj] at hs
      exact Or.inr ⟨hj, ((hr.sps j s).mp hs).1⟩
  refine
    { linked := h.linked.storeSps hvps i data content
      vps_lt := fun w o ho => ?_
      sps_lt := fun j s hs => ?_
      reparsed_lt := fun κ t r hmem => Nat.lt_succ_of_lt (hlt κ t r hmem)
      spsIds := fun j s hs => ?_
      spsParsed := fun j s hs => ?_
      ppsIds := fun k p hp => h.ppsIds k p ((hr.pps k p).mp hp).1
      spsArrived := fun j s hj hs => ?_
      ppsArrived := fun k p _ hp => ?_
      pendingSps := fun j q hj hq => ?_
      pendingPps := fun k q _ hq => ?_
      spsNewest := fun j s hj hs hnone => ?_
      ppsNewest := fun k p _ hp hnone => ?_
      spsOlder := fun j s q hj hs hq => ?_
      ppsOlder := fun k p q _ hp hq => ?_ }
  · rw [ParamSets.storeSps_vps, removeSps_vps] at ho
    rw [ParamSets.storeSps_next, hr.next]
    exact Nat.lt_succ_of_lt (h.vps_lt w o ho)
  · rw [ParamSets.storeSps_next, hr.next]
    rcases hsps j s hs with ⟨-, rfl⟩ | ⟨-, hs⟩
    · exact Nat.lt_succ_self _
    · exact Nat.lt_succ_of_lt (h.sps_lt j s hs)
  · rcases hsps j s hs with ⟨rfl, rfl⟩ | ⟨-, hs⟩
    · exact hids
    · exact h.spsIds j s hs
  · rcases hsps j s hs with ⟨-, rfl⟩ | ⟨-, hs⟩
    · exact hparse
    · exact h.spsParsed j s hs
  · rw [ParamSets.storeSps_arrived, ParamSets.storeSps_spsTime, hr.arrived, hr.spsTime]
    rcases hsps j s hs with ⟨rfl, -⟩ | ⟨-, hs⟩
    · exact absurd ⟨v, hids⟩ hj
    · exact h.spsArrived j s hj hs
  · rw [ParamSets.storeSps_arrived, ParamSets.storeSps_ppsTime, hr.arrived, hr.ppsTime]
    exact h.ppsArrived k p not_false ((hr.pps k p).mp hp).1
  · rw [ParamSets.storeSps_pendingSps, removeSps_pendingSps] at hq
    obtain ⟨hids', hsound, harrived', hnewest⟩ := h.pendingSps j q hj hq
    refine ⟨hids', ?_, ?_, ?_⟩
    · rw [ParamSets.storeSps_reparsed, hr.reparsed]
      refine hsound.mono h.reparsed_lt hnext fun r c hrc => Or.inl ?_
      rwa [ParamSets.vpsDep, ParamSets.storeSps_vps, removeSps_vps] at hrc
    · rwa [ParamSets.storeSps_arrived, hr.arrived]
    · rwa [ParamSets.storeSps_arrived, hr.arrived]
  · refine h.ppsEntry_of_removed hr not_false hq hr.arrived hr.reparsed hnext ?_
    intro r c hrc
    obtain ⟨s, hs, hsr, hsc⟩ := spsDep_eq_some.mp hrc
    rcases hsps _ s hs with ⟨-, rfl⟩ | ⟨hne, hs⟩
    · exact Or.inr (Nat.le_of_eq hsr)
    · exact Or.inl ⟨hne, spsDep_eq_some.mpr ⟨s, hs, hsr, hsc⟩⟩
  · rw [ParamSets.storeSps_pendingSps, removeSps_pendingSps] at hnone
    rw [ParamSets.storeSps_arrived, ParamSets.storeSps_spsTime, hr.arrived, hr.spsTime]
    rcases hsps j s hs with ⟨rfl, -⟩ | ⟨-, hs⟩
    · exact absurd ⟨v, hids⟩ hj
    · exact h.spsNewest j s hj hs hnone
  · rw [ParamSets.storeSps_arrived, ParamSets.storeSps_ppsTime, hr.arrived, hr.ppsTime]
    exact h.ppsNewest k p not_false ((hr.pps k p).mp hp).1 (hr.pendingPps_none.mp hnone).1
  · rw [ParamSets.storeSps_pendingSps, removeSps_pendingSps] at hq
    rw [ParamSets.storeSps_spsTime, hr.spsTime]
    rcases hsps j s hs with ⟨rfl, -⟩ | ⟨-, hs⟩
    · exact absurd ⟨v, hids⟩ hj
    · exact h.spsOlder j s q hj hs hq
  · rw [ParamSets.storeSps_ppsTime, hr.ppsTime]
    exact h.ppsOlder_of_removed hr not_false hp hq

/-- **Decoding the newest SPS** puts its slot in order. -/
lemma InvBut.decodedSps {data : B} {time : ℕ}
    (h : InvBut pr (SpsSlot pr data) (fun _ => False) ps) (hd : DecodedSps pr ps data time ps')
    (hkept : ∀ i s, ps.sps i = some s → ps.arrived[ps.spsTime i]? = some (.sps s.data))
    (holder : ∀ i s, SpsSlot pr data i → ps.sps i = some s → ps.spsTime i < time)
    (harrived : ps.arrived[time]? = some (.sps data))
    (hnewest : ∀ i, SpsSlot pr data i → Newest (IsSps pr i) ps.arrived time) : Inv pr ps' := by
  cases hd with
  | unreadable hids =>
      refine h.weaken (fun i hi => ?_) fun _ => id
      obtain ⟨v, hv⟩ := hi
      simp [hids] at hv
  | @deferred v i hids hvps =>
      refine h.keepPendingSps hids (hkept i) (fun s => holder i s ⟨v, hids⟩)
        ⟨hids, ?_, harrived, hnewest i ⟨v, hids⟩⟩
      refine Sound.fresh rfl h.reparsed_lt fun r c hrc => ?_
      obtain ⟨o, ho, -⟩ := vpsDep_eq_some.mp hrc
      simp [hvps] at ho
  | @failed v i vps hids hvps hparse =>
      refine h.keepPendingSps hids (hkept i) (fun s => holder i s ⟨v, hids⟩)
        ⟨hids, ?_, harrived, hnewest i ⟨v, hids⟩⟩
      exact Sound.just (vpsDep_eq_some.mpr ⟨vps, hvps, rfl, rfl⟩) rfl (h.vps_lt v vps hvps) hparse
  | @repeated v i s hids hs hdata =>
      exact (h.releaseSps hids).stampSps hids hs hdata (by simp) harrived (hnewest i ⟨v, hids⟩)
  | @stored v i vps content hids hvps hparse hnew =>
      have hlinked : PpsLinked (ps.releaseSps i) := h.linked.pps
      have hr := removeSps_removed hlinked i
      have hstored := (h.releaseSps hids).storeSps hids hvps hparse
      refine hstored.stampSps hids (s := ⟨ps.next, data, content, v, vps⟩) ?_ rfl ?_ ?_ ?_
      · simp [hr.next]
      · simp
      · simpa [hr.arrived] using harrived
      · simpa [hr.arrived] using hnewest i ⟨v, hids⟩

/-! ### Decoding a PPS -/

lemma not_ppsSlot {data : B} {i : SpsId} {k j : PpsId} (hids : pr.ppsIds data = some (k, i))
    (hj : j ≠ k) : ¬ PpsSlot pr data j := by
  rintro ⟨w, hw⟩
  exact hj (Prod.mk.inj (Option.some.inj (hw.symm.trans hids))).1

/-- A pending PPS is kept. -/
lemma InvBut.keepPendingPps {data : B} (h : InvBut pr (fun _ => False) (PpsSlot pr data) ps)
    {k : PpsId} {i : SpsId} (hids : pr.ppsIds data = some (k, i)) {q : PendingPS B SpsId}
    (hkept : ∀ p, ps.pps k = some p → ps.arrived[ps.ppsTime k]? = some (.pps p.data))
    (holder : ∀ p, ps.pps k = some p → ps.ppsTime k < q.received)
    (hq : PpsEntry pr ps k q) : Inv pr (ps.keepPendingPps k q) := by
  refine
    { h with
      linked := ⟨h.linked.pps, h.linked.sps⟩
      ppsArrived := fun j p _ hp => ?_
      pendingSps := fun j q' _ hq' => ?_
      pendingPps := fun j q' _ hq' => ?_
      spsNewest := h.spsNewest
      ppsNewest := fun j p _ hp hnone => ?_
      ppsOlder := fun j p q' _ hp hq' => ?_ }
  · by_cases hj : j = k
    · subst hj
      exact hkept p hp
    · exact h.ppsArrived j p (not_ppsSlot hids hj) hp
  · obtain ⟨hids', hsound, harrived, hnewest⟩ := h.pendingSps j q' not_false hq'
    exact ⟨hids', hsound, harrived, hnewest⟩
  · by_cases hj : j = k
    · subst hj
      obtain rfl : q = q' := by simpa using hq'
      exact ⟨hq.ids, hq.sound, hq.arrived, hq.newest⟩
    · obtain ⟨hids', hsound, harrived, hnewest⟩ :=
        h.pendingPps j q' (not_ppsSlot hids hj) (by simpa [hj] using hq')
      exact ⟨hids', hsound, harrived, hnewest⟩
  · by_cases hj : j = k
    · simp [hj] at hnone
    · exact h.ppsNewest j p (not_ppsSlot hids hj) hp (by simpa [hj] using hnone)
  · by_cases hj : j = k
    · subst hj
      obtain rfl : q = q' := by simpa using hq'
      exact holder p hp
    · exact h.ppsOlder j p q' (not_ppsSlot hids hj) hp (by simpa [hj] using hq')

/-- A PPS is stored, or is there already, and the pending one is released. -/
lemma InvBut.settlePps {data : B} (h : InvBut pr (fun _ => False) (PpsSlot pr data) ps)
    {k : PpsId} {i : SpsId} (hids : pr.ppsIds data = some (k, i)) {time : ℕ} {p : Pps B V S P}
    (hp : p.data = data) (hpi : p.spsId = i) (hsps : ps.sps i = some p.sps)
    (harrived : ps.arrived[time]? = some (.pps data))
    (hnewest : Newest (IsPps pr k) ps.arrived time) :
    Inv pr (((ps.releasePps k).storePps k p).stampPps k time) := by
  have hpps : ∀ j p', Function.update ps.pps k (some p) j = some p' →
      (j = k ∧ p' = p) ∨ (j ≠ k ∧ ps.pps j = some p') := by
    intro j p' hp'
    by_cases hj : j = k
    · subst hj
      exact Or.inl ⟨rfl, by simpa [eq_comm] using hp'⟩
    · rw [Function.update_of_ne hj] at hp'
      exact Or.inr ⟨hj, hp'⟩
  refine
    { h with
      linked := ⟨fun j p' hp' => ?_, h.linked.sps⟩
      ppsIds := fun j p' hp' => ?_
      ppsArrived := fun j p' _ hp' => ?_
      pendingSps := fun j q _ hq => ?_
      pendingPps := fun j q _ hq => ?_
      spsNewest := h.spsNewest
      ppsNewest := fun j p' _ hp' hnone => ?_
      ppsOlder := fun j p' q _ hp' hq => ?_ }
  · rcases hpps j p' hp' with ⟨-, rfl⟩ | ⟨-, hp'⟩
    · rwa [hpi]
    · exact h.linked.pps j p' hp'
  · rcases hpps j p' hp' with ⟨rfl, rfl⟩ | ⟨-, hp'⟩
    · rw [hp, hids, hpi]
    · exact h.ppsIds j p' hp'
  · rcases hpps j p' hp' with ⟨rfl, rfl⟩ | ⟨hj, hp'⟩
    · simpa [hp] using harrived
    · simpa [hj] using h.ppsArrived j p' (not_ppsSlot hids hj) hp'
  · obtain ⟨hids', hsound, harrived', hnewest'⟩ := h.pendingSps j q not_false hq
    exact ⟨hids', hsound, harrived', hnewest'⟩
  · have hj : j ≠ k := by
      rintro rfl
      simp at hq
    obtain ⟨hids', hsound, harrived', hnewest'⟩ :=
      h.pendingPps j q (not_ppsSlot hids hj) (by simpa [hj] using hq)
    exact ⟨hids', hsound, harrived', hnewest'⟩
  · rcases hpps j p' hp' with ⟨rfl, rfl⟩ | ⟨hj, hp'⟩
    · simpa using hnewest
    · simpa [hj] using h.ppsNewest j p' (not_ppsSlot hids hj) hp' (by simpa [hj] using hnone)
  · rcases hpps j p' hp' with ⟨rfl, rfl⟩ | ⟨hj, hp'⟩
    · simp at hq
    · simpa [hj] using h.ppsOlder j p' q (not_ppsSlot hids hj) hp' (by simpa [hj] using hq)

/-- **Decoding the newest PPS** puts its slot in order. -/
lemma InvBut.decodedPps {data : B} {time : ℕ}
    (h : InvBut pr (fun _ => False) (PpsSlot pr data) ps) (hd : DecodedPps pr ps data time ps')
    (hkept : ∀ k p, ps.pps k = some p → ps.arrived[ps.ppsTime k]? = some (.pps p.data))
    (holder : ∀ k p, PpsSlot pr data k → ps.pps k = some p → ps.ppsTime k < time)
    (harrived : ps.arrived[time]? = some (.pps data))
    (hnewest : ∀ k, PpsSlot pr data k → Newest (IsPps pr k) ps.arrived time) : Inv pr ps' := by
  cases hd with
  | unreadable hids =>
      refine h.weaken (fun _ => id) fun k hk => ?_
      obtain ⟨i, hi⟩ := hk
      simp [hids] at hi
  | @repeated k i p hids hp hdata =>
      have hpi : p.spsId = i := by
        have heq := h.ppsIds k p hp
        rw [hdata, hids] at heq
        exact (Prod.mk.inj (Option.some.inj heq)).2.symm
      have hsettled := h.settlePps hids hdata hpi (hpi ▸ h.linked.pps k p hp) harrived
        (hnewest k ⟨i, hids⟩)
      have hsame : (ps.releasePps k).storePps k p = ps.releasePps k := by
        simp [ParamSets.storePps, ParamSets.releasePps, ← hp]
      rwa [hsame] at hsettled
  | @deferred k i hids hsps =>
      refine h.keepPendingPps hids (hkept k) (fun p => holder k p ⟨i, hids⟩)
        ⟨hids, ?_, harrived, hnewest k ⟨i, hids⟩⟩
      refine Sound.fresh rfl h.reparsed_lt fun r c hrc => ?_
      obtain ⟨s, hs, -⟩ := spsDep_eq_some.mp hrc
      simp [hsps] at hs
  | @failed k i sps hids hsps hparse =>
      refine h.keepPendingPps hids (hkept k) (fun p => holder k p ⟨i, hids⟩)
        ⟨hids, ?_, harrived, hnewest k ⟨i, hids⟩⟩
      exact Sound.just (spsDep_eq_some.mpr ⟨sps, hsps, rfl, rfl⟩) rfl (h.sps_lt i sps hsps) hparse
  | @stored k i sps content hids hsps hparse =>
      exact h.settlePps hids rfl rfl hsps harrived (hnewest k ⟨i, hids⟩)

/-! ### Arrivals -/

/-- A set arrives: only its own slot is out of order. -/
lemma Inv.arrive (h : Inv pr ps) (nal : Nal B) :
    InvBut pr (fun i => IsSps pr i nal) (fun k => IsPps pr k nal)
      { ps with arrived := ps.arrived ++ [nal] } := by
  refine
    { h with
      linked := ⟨h.linked.pps, h.linked.sps⟩
      spsArrived := fun i s _ hs => getElem?_concat_of_some (h.spsArrived i s not_false hs)
      ppsArrived := fun k p _ hp => getElem?_concat_of_some (h.ppsArrived k p not_false hp)
      pendingSps := fun i q hi hq => ?_
      pendingPps := fun k q hk hq => ?_
      spsNewest := fun i s hi hs hnone => (h.spsNewest i s not_false hs hnone).concat hi
      ppsNewest := fun k p hk hp hnone => (h.ppsNewest k p not_false hp hnone).concat hk
      spsOlder := fun i s q _ => h.spsOlder i s q not_false
      ppsOlder := fun k p q _ => h.ppsOlder k p q not_false }
  · obtain ⟨hids, hsound, harrived, hnewest⟩ := h.pendingSps i q not_false hq
    exact ⟨hids, hsound, getElem?_concat_of_some harrived, hnewest.concat hi⟩
  · obtain ⟨hids, hsound, harrived, hnewest⟩ := h.pendingPps k q not_false hq
    exact ⟨hids, hsound, getElem?_concat_of_some harrived, hnewest.concat hk⟩

lemma isSps_sps {data : B} {i : SpsId} : IsSps pr i (.sps data) ↔ SpsSlot pr data i := by
  constructor
  · rintro ⟨data', v, heq, hids⟩
    obtain rfl := Nal.sps.inj heq
    exact ⟨v, hids⟩
  · rintro ⟨v, hids⟩
    exact ⟨data, v, rfl, hids⟩

lemma isPps_pps {data : B} {k : PpsId} : IsPps pr k (.pps data) ↔ PpsSlot pr data k := by
  constructor
  · rintro ⟨data', i, heq, hids⟩
    obtain rfl := Nal.pps.inj heq
    exact ⟨i, hids⟩
  · rintro ⟨i, hids⟩
    exact ⟨data, i, rfl, hids⟩

section Decoder

variable [DecidableEq B]

lemma receive_vps (pr : Parser B V S P) (ps : ParamSets B V S P) (data : B) :
    DecodedVps pr { ps with arrived := ps.arrived ++ [.vps data] } data (receive pr ps (.vps data)) :=
  decodeNalVps_decoded

lemma receive_sps (pr : Parser B V S P) (ps : ParamSets B V S P) (data : B) :
    DecodedSps pr { ps with arrived := ps.arrived ++ [.sps data] } data ps.arrived.length
      (receive pr ps (.sps data)) :=
  decodeNalSps_decoded

lemma receive_pps (pr : Parser B V S P) (ps : ParamSets B V S P) (data : B) :
    DecodedPps pr { ps with arrived := ps.arrived ++ [.pps data] } data ps.arrived.length
      (receive pr ps (.pps data)) :=
  decodeNalPps_decoded

/-- **An arrival** keeps the invariant. -/
lemma receive_inv (h : Inv pr ps) (nal : Nal B) : Inv pr (receive pr ps nal) := by
  have harrive := h.arrive nal
  cases nal with
  | vps data =>
      have hinv : Inv pr { ps with arrived := ps.arrived ++ [.vps data] } :=
        harrive.weaken (fun i hi => by obtain ⟨_, _, heq, -⟩ := hi; simp at heq)
          fun k hk => by obtain ⟨_, _, heq, -⟩ := hk; simp at heq
      exact hinv.decodedVps (receive_vps pr ps data)
  | sps data =>
      have hinv : InvBut pr (SpsSlot pr data) (fun _ => False)
          { ps with arrived := ps.arrived ++ [.sps data] } :=
        harrive.weaken (fun i => isSps_sps.mp) fun k hk => by obtain ⟨_, _, heq, -⟩ := hk; simp at heq
      exact hinv.decodedSps (receive_sps pr ps data)
        (fun i s hs => getElem?_concat_of_some (h.spsArrived i s not_false hs))
        (fun i s _ hs => (List.getElem?_eq_some_iff.mp (h.spsArrived i s not_false hs)).1) (by simp)
        fun i hi => newest_concat (isSps_sps.mpr hi)
  | pps data =>
      have hinv : InvBut pr (fun _ => False) (PpsSlot pr data)
          { ps with arrived := ps.arrived ++ [.pps data] } :=
        harrive.weaken (fun i hi => by obtain ⟨_, _, heq, -⟩ := hi; simp at heq) fun k => isPps_pps.mp
      exact hinv.decodedPps (receive_pps pr ps data)
        (fun k p hp => getElem?_concat_of_some (h.ppsArrived k p not_false hp))
        (fun k p _ hp => (List.getElem?_eq_some_iff.mp (h.ppsArrived k p not_false hp)).1) (by simp)
        fun k hk => newest_concat (isPps_pps.mpr hk)

/-! ### Pictures -/

/-- The ways in which a pending SPS is resolved. -/
inductive ResolvedSps (pr : Parser B V S P) (ps : ParamSets B V S P) (i : SpsId) :
    Bool × ParamSets B V S P → Prop
  | absent (h : ps.pendingSps i = none) : ResolvedSps pr ps i (false, ps)
  | waiting {q : PendingPS B VpsId} (hq : ps.pendingSps i = some q) (hvps : ps.vps q.depId = none) :
      ResolvedSps pr ps i (true, ps)
  | failed {q : PendingPS B VpsId} {vps : Vps B V} (hq : ps.pendingSps i = some q)
      (hvps : ps.vps q.depId = some vps) (hfailed : q.failedDep = some vps.ref) :
      ResolvedSps pr ps i (false, ps)
  | parsed {q : PendingPS B VpsId} {vps : Vps B V} (hq : ps.pendingSps i = some q)
      (hvps : ps.vps q.depId = some vps) (hnot : q.failedDep ≠ some vps.ref) :
      ResolvedSps pr ps i (false, decodeNalSps pr
        { ps with reparsed := ps.reparsed ++ [(.sps, q.received, vps.ref)] } q.data q.received)

lemma resolvePendingSps_resolved {i : SpsId} : ResolvedSps pr ps i (resolvePendingSps pr ps i) := by
  rw [resolvePendingSps]
  rcases hq : ps.pendingSps i with _ | q
  · exact .absent hq
  rcases hvps : ps.vps q.depId with _ | vps
  · simp only [hvps]
    exact .waiting hq hvps
  simp only [hvps]
  split_ifs with hfailed
  · exact .failed hq hvps hfailed
  · exact .parsed hq hvps hfailed

/-- The ways in which a pending PPS is resolved. -/
inductive ResolvedPps (pr : Parser B V S P) (ps : ParamSets B V S P) (k : PpsId) :
    Bool × ParamSets B V S P → Prop
  | absent (h : ps.pendingPps k = none) : ResolvedPps pr ps k (false, ps)
  | waiting {q : PendingPS B SpsId} (hq : ps.pendingPps k = some q) (hsps : ps.sps q.depId = none) :
      ResolvedPps pr ps k (true, ps)
  | failed {q : PendingPS B SpsId} {sps : Sps B V S} (hq : ps.pendingPps k = some q)
      (hsps : ps.sps q.depId = some sps) (hfailed : q.failedDep = some sps.ref) :
      ResolvedPps pr ps k (false, ps)
  | parsed {q : PendingPS B SpsId} {sps : Sps B V S} (hq : ps.pendingPps k = some q)
      (hsps : ps.sps q.depId = some sps) (hnot : q.failedDep ≠ some sps.ref) :
      ResolvedPps pr ps k (false, decodeNalPps pr
        { ps with reparsed := ps.reparsed ++ [(.pps, q.received, sps.ref)] } q.data q.received)

lemma resolvePendingPps_resolved {k : PpsId} : ResolvedPps pr ps k (resolvePendingPps pr ps k) := by
  rw [resolvePendingPps]
  rcases hq : ps.pendingPps k with _ | q
  · exact .absent hq
  rcases hsps : ps.sps q.depId with _ | sps
  · simp only [hsps]
    exact .waiting hq hsps
  simp only [hsps]
  split_ifs with hfailed
  · exact .failed hq hsps hfailed
  · exact .parsed hq hsps hfailed

omit [DecidableEq B] in
/-- A parse of another set says nothing of an entry. -/
lemma Sound.concat {D C X : Type} {κ κ' : Kind} {parse : B → C → Option X}
    {dep : D → Option (ℕ × C)} {next t r : ℕ} {reparsed : List (Kind × ℕ × ℕ)} {q : PendingPS B D}
    (h : Sound κ parse dep next reparsed q) (hne : κ ≠ κ' ∨ q.received ≠ t) :
    Sound κ parse dep next (reparsed ++ [(κ', t, r)]) q := by
  refine ⟨h.lt, h.failed, fun r' c hrc hmem => h.tried r' c hrc ?_⟩
  rcases List.mem_append.mp hmem with hmem | hmem
  · exact hmem
  · rw [List.mem_singleton, Prod.mk.injEq, Prod.mk.injEq] at hmem
    exact absurd hmem.2.1 (hne.resolve_left fun hκ => hκ hmem.1)

omit [DecidableEq B] in
/-- A pending SPS is parsed again: only its own slot is out of order. -/
lemma Inv.reparseSps (h : Inv pr ps) {i : SpsId} {q : PendingPS B VpsId}
    (hq : ps.pendingSps i = some q) {vps : Vps B V} (hvps : ps.vps q.depId = some vps) :
    InvBut pr (SpsSlot pr q.data) (fun _ => False)
      { ps with reparsed := ps.reparsed ++ [(.sps, q.received, vps.ref)] } := by
  have hentry := h.pendingSps i q not_false hq
  refine
    { h with
      linked := ⟨h.linked.pps, h.linked.sps⟩
      reparsed_lt := fun κ t r hmem => ?_
      spsArrived := fun j s _ => h.spsArrived j s not_false
      pendingSps := fun j q' hj hq' => ?_
      pendingPps := fun k q' _ hq' => ?_
      spsNewest := fun j s _ => h.spsNewest j s not_false
      ppsNewest := h.ppsNewest
      spsOlder := fun j s q' _ => h.spsOlder j s q' not_false }
  · rcases List.mem_append.mp hmem with hmem | hmem
    · exact h.reparsed_lt κ t r hmem
    · rw [List.mem_singleton, Prod.mk.injEq, Prod.mk.injEq] at hmem
      rw [hmem.2.2]
      exact h.vps_lt _ vps hvps
  · obtain ⟨hids, hsound, harrived, hnewest⟩ := h.pendingSps j q' not_false hq'
    refine ⟨hids, hsound.concat (Or.inr fun heq => hj ?_), harrived, hnewest⟩
    -- Two entries that were received at the same time are the same set.
    rw [heq, hentry.arrived] at harrived
    obtain heq' : q.data = q'.data := Nal.sps.inj (Option.some.inj harrived)
    exact ⟨q'.depId, by rw [heq', hids]⟩
  · obtain ⟨hids, hsound, harrived, hnewest⟩ := h.pendingPps k q' not_false hq'
    exact ⟨hids, hsound.concat (Or.inl (by simp)), harrived, hnewest⟩

omit [DecidableEq B] in
/-- A pending PPS is parsed again. -/
lemma Inv.reparsePps (h : Inv pr ps) {k : PpsId} {q : PendingPS B SpsId}
    (hq : ps.pendingPps k = some q) {sps : Sps B V S} (hsps : ps.sps q.depId = some sps) :
    InvBut pr (fun _ => False) (PpsSlot pr q.data)
      { ps with reparsed := ps.reparsed ++ [(.pps, q.received, sps.ref)] } := by
  have hentry := h.pendingPps k q not_false hq
  refine
    { h with
      linked := ⟨h.linked.pps, h.linked.sps⟩
      reparsed_lt := fun κ t r hmem => ?_
      ppsArrived := fun j p _ => h.ppsArrived j p not_false
      pendingSps := fun j q' _ hq' => ?_
      pendingPps := fun j q' hj hq' => ?_
      spsNewest := h.spsNewest
      ppsNewest := fun j p _ => h.ppsNewest j p not_false
      ppsOlder := fun j p q' _ => h.ppsOlder j p q' not_false }
  · rcases List.mem_append.mp hmem with hmem | hmem
    · exact h.reparsed_lt κ t r hmem
    · rw [List.mem_singleton, Prod.mk.injEq, Prod.mk.injEq] at hmem
      rw [hmem.2.2]
      exact h.sps_lt _ sps hsps
  · obtain ⟨hids, hsound, harrived, hnewest⟩ := h.pendingSps j q' not_false hq'
    exact ⟨hids, hsound.concat (Or.inl (by simp)), harrived, hnewest⟩
  · obtain ⟨hids, hsound, harrived, hnewest⟩ := h.pendingPps j q' not_false hq'
    refine ⟨hids, hsound.concat (Or.inr fun heq => hj ?_), harrived, hnewest⟩
    rw [heq, hentry.arrived] at harrived
    obtain heq' : q.data = q'.data := Nal.pps.inj (Option.some.inj harrived)
    exact ⟨q'.depId, by rw [heq', hids]⟩

lemma resolvedSps_inv (h : Inv pr ps) {i : SpsId} {r : Bool × ParamSets B V S P}
    (hres : ResolvedSps pr ps i r) : Inv pr r.2 := by
  cases hres with
  | absent => exact h
  | waiting => exact h
  | failed => exact h
  | @parsed q vps hq hvps hnot =>
      have hentry := h.pendingSps i q not_false hq
      have hslot : ∀ j, SpsSlot pr q.data j → j = i := by
        rintro j ⟨v, hv⟩
        exact (Prod.mk.inj (Option.some.inj (hv.symm.trans hentry.ids))).2
      refine (h.reparseSps hq hvps).decodedSps decodeNalSps_decoded
        (fun j s hs => h.spsArrived j s not_false hs) (fun j s hj hs => ?_) hentry.arrived
        fun j hj => ?_
      · obtain rfl := hslot j hj
        exact h.spsOlder j s q not_false hs hq
      · obtain rfl := hslot j hj
        exact hentry.newest

lemma resolvedPps_inv (h : Inv pr ps) {k : PpsId} {r : Bool × ParamSets B V S P}
    (hres : ResolvedPps pr ps k r) : Inv pr r.2 := by
  cases hres with
  | absent => exact h
  | waiting => exact h
  | failed => exact h
  | @parsed q sps hq hsps hnot =>
      have hentry := h.pendingPps k q not_false hq
      have hslot : ∀ j, PpsSlot pr q.data j → j = k := by
        rintro j ⟨i, hi⟩
        exact (Prod.mk.inj (Option.some.inj (hi.symm.trans hentry.ids))).1
      refine (h.reparsePps hq hsps).decodedPps decodeNalPps_decoded
        (fun j p hp => h.ppsArrived j p not_false hp) (fun j p hj hp => ?_) hentry.arrived
        fun j hj => ?_
      · obtain rfl := hslot j hj
        exact h.ppsOlder j p q not_false hp hq
      · obtain rfl := hslot j hj
        exact hentry.newest

/-- The steps of `ff_hevc_ps_activate`: the SPS that the picture needs, if it is known, and then the
PPS. -/
lemma activate_cases (pr : Parser B V S P) (ps : ParamSets B V S P) (k : PpsId) (irap : Bool) :
    ∃ r₁ : Bool × ParamSets B V S P,
      (activeSpsId ps k = none ∧ r₁ = (false, ps) ∨
        ∃ i, activeSpsId ps k = some i ∧ ResolvedSps pr ps i r₁) ∧
      ((r₁.1 = true ∧ irap = true ∧ activate pr ps k irap = (invalidData, r₁.2)) ∨
        (r₁.1 && irap) = false ∧ ∃ r₂, ResolvedPps pr r₁.2 k r₂ ∧
          activate pr ps k irap = (if r₂.1 then invalidData else 0, r₂.2)) := by
  rcases hid : activeSpsId ps k with _ | i
  · refine ⟨(false, ps), Or.inl ⟨rfl, rfl⟩, Or.inr ⟨rfl, _, resolvePendingPps_resolved, ?_⟩⟩
    simp only [activate, hid, Bool.false_and, Bool.false_eq_true, if_false]
    split_ifs <;> rfl
  · refine ⟨_, Or.inr ⟨i, rfl, resolvePendingSps_resolved⟩, ?_⟩
    simp only [activate, hid]
    split_ifs with hrefused hwaiting
    · rw [Bool.and_eq_true] at hrefused
      exact Or.inl ⟨hrefused.1, hrefused.2, rfl⟩
    · exact Or.inr ⟨by simpa using hrefused, _, resolvePendingPps_resolved, by rw [if_pos hwaiting]⟩
    · exact Or.inr ⟨by simpa using hrefused, _, resolvePendingPps_resolved, by rw [if_neg hwaiting]⟩

lemma activate_inv (h : Inv pr ps) (k : PpsId) (irap : Bool) : Inv pr (activate pr ps k irap).2 := by
  obtain ⟨r₁, hr₁, hcases⟩ := activate_cases pr ps k irap
  have h₁ : Inv pr r₁.2 := by
    rcases hr₁ with ⟨-, rfl⟩ | ⟨i, -, hres⟩
    · exact h
    · exact resolvedSps_inv h hres
  rcases hcases with ⟨-, -, heq⟩ | ⟨-, r₂, hres, heq⟩
  · rwa [heq]
  · rw [heq]
    exact resolvedPps_inv h₁ hres

/-- **Every event** keeps the invariant. -/
lemma step_inv (h : Inv pr ps) (event : Event B) : Inv pr (step pr ps event) := by
  cases event with
  | nal nal => exact receive_inv h nal
  | slice ppsId irap =>
      rw [step, psActivate]
      split_ifs
      · exact activate_inv h _ irap
      · exact h

omit [DecidableEq B] in
lemma inv_init : Inv pr ({} : ParamSets B V S P) := by
  refine ⟨⟨nofun, nofun⟩, ?_, ?_, ?_, ?_, ?_, ?_, ?_, ?_, ?_, ?_, ?_, ?_, ?_, ?_⟩ <;> exact nofun

/-- The invariant holds in every state of every run. -/
lemma run_inv (events : List (Event B)) : Inv pr (run pr events) := by
  induction events using List.reverseRecOn with
  | nil => exact inv_init
  | append_singleton events event ih =>
      rw [run, List.foldl_concat]
      exact step_inv ih event

/-! ### What is parsed again -/

omit [DecidableEq B] in
@[simp] lemma removeSps_reparsed (ps : ParamSets B V S P) (id : SpsId) :
    (removeSps ps id).reparsed = ps.reparsed := by
  rw [removeSps]
  split_ifs <;> rfl

omit [DecidableEq B] in
lemma DecodedVps.reparsed {data : B} (h : Linked ps) (hd : DecodedVps pr ps data ps') :
    ps'.reparsed = ps.reparsed := by
  cases hd with
  | kept => rfl
  | stored => exact (removeVps_removed h.pps h.sps _).reparsed

omit [DecidableEq B] in
lemma DecodedSps.reparsed {data : B} {time : ℕ} (hd : DecodedSps pr ps data time ps') :
    ps'.reparsed = ps.reparsed := by
  cases hd <;> simp

omit [DecidableEq B] in
lemma DecodedPps.reparsed {data : B} {time : ℕ} (hd : DecodedPps pr ps data time ps') :
    ps'.reparsed = ps.reparsed := by
  cases hd <;> simp

lemma ResolvedSps.nodup (h : Inv pr ps) (hnodup : ps.reparsed.Nodup) {i : SpsId}
    {r : Bool × ParamSets B V S P} (hres : ResolvedSps pr ps i r) : r.2.reparsed.Nodup := by
  cases hres with
  | absent => exact hnodup
  | waiting => exact hnodup
  | failed => exact hnodup
  | @parsed q vps hq hvps hnot =>
      rw [decodeNalSps_decoded.reparsed, List.nodup_append]
      refine ⟨hnodup, by simp, fun e he e' he' => ?_⟩
      rintro rfl
      rw [List.mem_singleton.mp he'] at he
      exact hnot ((h.pendingSps i q not_false hq).sound.tried _ _
        (vpsDep_eq_some.mpr ⟨vps, hvps, rfl, rfl⟩) he)

lemma ResolvedPps.nodup (h : Inv pr ps) (hnodup : ps.reparsed.Nodup) {k : PpsId}
    {r : Bool × ParamSets B V S P} (hres : ResolvedPps pr ps k r) : r.2.reparsed.Nodup := by
  cases hres with
  | absent => exact hnodup
  | waiting => exact hnodup
  | failed => exact hnodup
  | @parsed q sps hq hsps hnot =>
      rw [decodeNalPps_decoded.reparsed, List.nodup_append]
      refine ⟨hnodup, by simp, fun e he e' he' => ?_⟩
      rintro rfl
      rw [List.mem_singleton.mp he'] at he
      exact hnot ((h.pendingPps k q not_false hq).sound.tried _ _
        (spsDep_eq_some.mpr ⟨sps, hsps, rfl, rfl⟩) he)

lemma activate_nodup (h : Inv pr ps) (hnodup : ps.reparsed.Nodup) (k : PpsId) (irap : Bool) :
    (activate pr ps k irap).2.reparsed.Nodup := by
  obtain ⟨r₁, hr₁, hcases⟩ := activate_cases pr ps k irap
  have h₁ : Inv pr r₁.2 ∧ r₁.2.reparsed.Nodup := by
    rcases hr₁ with ⟨-, rfl⟩ | ⟨i, -, hres⟩
    · exact ⟨h, hnodup⟩
    · exact ⟨resolvedSps_inv h hres, hres.nodup h hnodup⟩
  rcases hcases with ⟨-, -, heq⟩ | ⟨-, r₂, hres, heq⟩
  · rw [heq]
    exact h₁.2
  · rw [heq]
    exact hres.nodup h₁.1 h₁.2

lemma receive_reparsed (h : Inv pr ps) (nal : Nal B) : (receive pr ps nal).reparsed = ps.reparsed := by
  cases nal with
  | vps data =>
      have hlinked : Linked { ps with arrived := ps.arrived ++ [.vps data] } :=
        ⟨h.linked.pps, h.linked.sps⟩
      have hdecoded := (receive_vps pr ps data).reparsed hlinked
      exact hdecoded
  | sps data =>
      have hdecoded := (receive_sps pr ps data).reparsed
      exact hdecoded
  | pps data =>
      have hdecoded := (receive_pps pr ps data).reparsed
      exact hdecoded

/-- **A set is parsed again at most once for each object** that it depends on. -/
lemma run_nodup (events : List (Event B)) : (run pr events).reparsed.Nodup := by
  induction events using List.reverseRecOn with
  | nil => exact List.nodup_nil
  | append_singleton events event ih =>
      rw [run, List.foldl_concat]
      have hinv : Inv pr (run pr events) := run_inv events
      change (step pr (run pr events) event).reparsed.Nodup
      cases event with
      | nal nal =>
          rw [step, receive_reparsed hinv]
          exact ih
      | slice ppsId irap =>
          rw [step, psActivate]
          split_ifs
          · exact activate_nodup hinv ih _ irap
          · exact ih

end Decoder

end OmarchyM1Video.HevcParamSets
