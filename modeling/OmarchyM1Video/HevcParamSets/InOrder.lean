import OmarchyM1Video.HevcParamSets.Tables

/-!
Streams whose parameter sets arrive in order: the patch changes nothing.

The decoder before the patch drops what depends on a set that is replaced, and rejects a set whose
dependency is absent or that does not parse.  Where it stores every set when it arrives, and has a
PPS for every picture, the patched tables are the same: what is dropped there is pending here, but
under no id that has a stored set.

* `Unpatched.run`: the decoder before the patch;
* `ParamSets.stored`: the tables that both have;
* `Clean`: no id has a stored set and a pending one;
* `inOrder_same`: the same parameter sets at every picture, and none is refused.
-/

namespace OmarchyM1Video.HevcParamSets

variable {B V S P : Type}

/-! ### The decoder before the patch -/

namespace Unpatched

/-- `HEVCParamSets` before the patch. -/
structure Tables (B V S P : Type) where
  vps : VpsId → Option (Vps B V) := fun _ => none
  sps : SpsId → Option (Sps B V S) := fun _ => none
  pps : PpsId → Option (Pps B V S P) := fun _ => none
  next : ℕ := 0

/-- `remove_sps`, which drops the PPSs of the SPS. -/
def removeSps (t : Tables B V S P) (id : SpsId) : Tables B V S P :=
  if (t.sps id).isSome then
    { t with
      pps := fun k => (t.pps k).filter (·.spsId != id)
      sps := Function.update t.sps id none }
  else t

/-- The body of the loop of `remove_vps`. -/
def removeSpsOf (id : VpsId) (t : Tables B V S P) (i : SpsId) : Tables B V S P :=
  match (t.sps i).filter (·.vpsId == id) with
  | some _ => removeSps t i
  | none => t

/-- `remove_vps`. -/
def removeVps (t : Tables B V S P) (id : VpsId) : Tables B V S P :=
  if (t.vps id).isSome then
    let t₁ := (List.finRange 16).foldl (removeSpsOf id) t
    { t₁ with vps := Function.update t₁.vps id none }
  else t

variable [DecidableEq B] (pr : Parser B V S P)

/-- `ff_hevc_decode_nal_vps`; the first result says that the set is parsed and stored. -/
def decodeNalVps (t : Tables B V S P) (data : B) : Bool × Tables B V S P :=
  if (t.vps (pr.vpsId data)).any (·.data = data) then (true, t)
  else
    match pr.parseVps data with
    | none => (false, t)
    | some content =>
        let t₁ := removeVps t (pr.vpsId data)
        (true, { t₁ with
          vps := Function.update t₁.vps (pr.vpsId data) (some ⟨t₁.next, data, content⟩)
          next := t₁.next + 1 })

/-- `ff_hevc_decode_nal_sps`. -/
def decodeNalSps (t : Tables B V S P) (data : B) : Bool × Tables B V S P :=
  match pr.spsIds data with
  | none => (false, t)
  | some (v, i) =>
      match t.vps v with
      | none => (false, t)
      | some vps =>
          match pr.parseSps data vps.content with
          | none => (false, t)
          | some content =>
              if (t.sps i).any (·.data = data) then (true, t)
              else
                let t₁ := removeSps t i
                (true, { t₁ with
                  sps := Function.update t₁.sps i (some ⟨t₁.next, data, content, v, vps⟩)
                  next := t₁.next + 1 })

/-- `ff_hevc_decode_nal_pps`. -/
def decodeNalPps (t : Tables B V S P) (data : B) : Bool × Tables B V S P :=
  match pr.ppsIds data with
  | none => (false, t)
  | some (k, i) =>
      if (t.pps k).any (·.data = data) then (true, t)
      else
        match t.sps i with
        | none => (false, t)
        | some sps =>
            match pr.parsePps data sps.content with
            | none => (false, t)
            | some content =>
                (true, { t with pps := Function.update t.pps k (some ⟨data, content, i, sps⟩) })

/-- The arrival of a set. -/
def receive (t : Tables B V S P) : Nal B → Bool × Tables B V S P
  | .vps data => decodeNalVps pr t data
  | .sps data => decodeNalSps pr t data
  | .pps data => decodeNalPps pr t data

def step (t : Tables B V S P) : Event B → Tables B V S P
  | .nal nal => (receive pr t nal).2
  | .slice _ _ => t

/-- Arrivals and first slices, from empty tables. -/
def run (events : List (Event B)) : Tables B V S P := events.foldl (step pr) {}

/-- The set is parsed and stored when it arrives, and the picture has a PPS. -/
def Fits (t : Tables B V S P) : Event B → Prop
  | .nal nal => (receive pr t nal).1 = true
  | .slice ppsId _ => ∃ h : ppsId < 64, (t.pps ⟨ppsId, h⟩).isSome

end Unpatched

/-- The tables that the decoder has with and without the patch. -/
def ParamSets.stored (ps : ParamSets B V S P) : Unpatched.Tables B V S P :=
  ⟨ps.vps, ps.sps, ps.pps, ps.next⟩

/-! ### Removing sets -/

lemma stored_removeSps (ps : ParamSets B V S P) (id : SpsId) :
    (removeSps ps id).stored = Unpatched.removeSps ps.stored id := by
  rw [removeSps, Unpatched.removeSps]
  split_ifs with h h' h'
  · rfl
  · exact absurd h h'
  · exact absurd h' h
  · rfl

lemma stored_removeSpsOf (v : VpsId) (ps : ParamSets B V S P) (i : SpsId) :
    (removeSpsOf v ps i).stored = Unpatched.removeSpsOf v ps.stored i := by
  have hsps : ps.stored.sps i = ps.sps i := rfl
  by_cases hdep : DependsOn ps v i
  · obtain ⟨s, hs, hv⟩ := hdep
    rw [removeSpsOf_of_dependsOn hs hv, stored_removeSps]
    simp only [Unpatched.removeSpsOf, hsps, hs, Option.filter, hv, beq_self_eq_true, if_true]
    rfl
  · rw [removeSpsOf_of_not hdep]
    rcases hs : ps.sps i with _ | s
    · simp [Unpatched.removeSpsOf, hsps, hs]
    · have hv : s.vpsId ≠ v := fun hv => hdep ⟨s, hs, hv⟩
      simp [Unpatched.removeSpsOf, hsps, hs, Option.filter, hv]

lemma stored_foldl_removeSpsOf (v : VpsId) (ids : List SpsId) (ps : ParamSets B V S P) :
    (ids.foldl (removeSpsOf v) ps).stored = ids.foldl (Unpatched.removeSpsOf v) ps.stored := by
  induction ids generalizing ps with
  | nil => rfl
  | cons i ids ih => rw [List.foldl_cons, List.foldl_cons, ih, stored_removeSpsOf]

lemma stored_removeVps (ps : ParamSets B V S P) (v : VpsId) :
    (removeVps ps v).stored = Unpatched.removeVps ps.stored v := by
  rw [removeVps, Unpatched.removeVps]
  split_ifs with h h' h'
  · rw [← stored_foldl_removeSpsOf]
    rfl
  · exact absurd h h'
  · exact absurd h' h
  · rfl

/-! ### Arrivals -/

/-- No id has a stored set and a pending one. -/
structure Clean (ps : ParamSets B V S P) : Prop where
  linked : Linked ps
  sps : ∀ i s, ps.sps i = some s → ps.pendingSps i = none
  pps : ∀ k p, ps.pps k = some p → ps.pendingPps k = none

variable {ps ps' : ParamSets B V S P}

/-- What is removed is pending, and no longer stored. -/
lemma Clean.pps_of_removed {D : SpsId → Prop} (h : Clean ps) (hremoved : Removed D ps ps') {k : PpsId}
    {p : Pps B V S P} (hp : ps'.pps k = some p) : ps'.pendingPps k = none := by
  obtain ⟨hp, hD⟩ := (hremoved.pps k p).mp hp
  refine hremoved.pendingPps_none.mpr ⟨h.pps k p hp, fun p' hp' => ?_⟩
  rwa [Option.some.inj (hp'.symm.trans hp)]

lemma Clean.storeVps (h : Clean ps) (v : VpsId) (data : B) (content : V) :
    Clean ((removeVps ps v).storeVps v data content) := by
  have hremoved := removeVps_removed h.linked.pps h.linked.sps v
  refine ⟨h.linked.storeVps v data content, fun i s hs => ?_, fun k p hp => ?_⟩
  · obtain ⟨hs, hdep⟩ := (hremoved.sps i s).mp hs
    exact hremoved.pendingSps.none_iff.mpr ⟨h.sps i s hs, fun _ _ => hdep⟩
  · exact h.pps_of_removed hremoved.toRemoved hp

lemma Clean.releaseSps (h : Clean ps) (i : SpsId) : Clean (ps.releaseSps i) := by
  refine ⟨⟨h.linked.pps, h.linked.sps⟩, fun j s hs => ?_, h.pps⟩
  by_cases hj : j = i
  · simp [hj]
  · simpa [hj] using h.sps j s hs

lemma Clean.storeSps (h : Clean ps) {v : VpsId} {vps : Vps B V} (hvps : ps.vps v = some vps)
    {i : SpsId} (hpending : ps.pendingSps i = none) (data : B) (content : S) :
    Clean ((removeSps ps i).storeSps i data content v vps) := by
  have hremoved := removeSps_removed h.linked.pps i
  refine ⟨h.linked.storeSps hvps i data content, fun j s hs => ?_, fun k p hp => ?_⟩
  · rw [ParamSets.storeSps_pendingSps, removeSps_pendingSps]
    by_cases hj : j = i
    · rwa [hj]
    · rw [ParamSets.storeSps_sps, Function.update_of_ne hj] at hs
      exact h.sps j s ((hremoved.sps j s).mp hs).1
  · exact h.pps_of_removed hremoved hp

lemma Clean.releasePps (h : Clean ps) (k : PpsId) : Clean (ps.releasePps k) := by
  refine ⟨⟨h.linked.pps, h.linked.sps⟩, h.sps, fun j p hp => ?_⟩
  by_cases hj : j = k
  · simp [hj]
  · simpa [hj] using h.pps j p hp

section Decoder

variable [DecidableEq B] {pr : Parser B V S P}

lemma decodeNalVps_same (h : Clean ps) {data : B}
    (hfit : (Unpatched.decodeNalVps pr ps.stored data).1 = true) :
    Clean (decodeNalVps pr ps data) ∧
      (decodeNalVps pr ps data).stored = (Unpatched.decodeNalVps pr ps.stored data).2 := by
  have hvps : ps.stored.vps = ps.vps := rfl
  rw [Unpatched.decodeNalVps, hvps] at hfit ⊢
  rw [decodeNalVps]
  split_ifs with hrepeat
  · exact ⟨h, rfl⟩
  · rcases hparse : pr.parseVps data with _ | content
    · simp [hrepeat, hparse] at hfit
    · refine ⟨h.storeVps _ data content, ?_⟩
      simp only [← stored_removeVps]
      rfl

lemma decodeNalSps_same (h : Clean ps) {data : B} {time : ℕ}
    (hfit : (Unpatched.decodeNalSps pr ps.stored data).1 = true) :
    Clean (decodeNalSps pr ps data time) ∧
      (decodeNalSps pr ps data time).stored = (Unpatched.decodeNalSps pr ps.stored data).2 := by
  have hsps : ps.stored.sps = ps.sps := rfl
  have hvps' : ps.stored.vps = ps.vps := rfl
  rw [Unpatched.decodeNalSps] at hfit ⊢
  rw [decodeNalSps]
  rcases hids : pr.spsIds data with _ | ⟨v, i⟩
  · simp [hids] at hfit
  rcases hvps : ps.vps v with _ | vps
  · simp [hids, hvps', hvps] at hfit
  rcases hparse : pr.parseSps data vps.content with _ | content
  · simp [hids, hvps', hvps, hparse] at hfit
  simp only [hvps', hvps, hparse, hsps]
  have hreleased := h.releaseSps i
  split_ifs with hrepeat
  · exact ⟨⟨hreleased.linked.stampSps, hreleased.sps, hreleased.pps⟩, rfl⟩
  · have hstored := hreleased.storeSps hvps (i := i) (by simp) data content
    refine ⟨⟨hstored.linked.stampSps, hstored.sps, hstored.pps⟩, ?_⟩
    have hremoved : (removeSps (ps.releaseSps i) i).stored = Unpatched.removeSps ps.stored i :=
      stored_removeSps _ i
    rw [← hremoved]
    rfl

lemma decodeNalPps_same (h : Clean ps) {data : B} {time : ℕ}
    (hfit : (Unpatched.decodeNalPps pr ps.stored data).1 = true) :
    Clean (decodeNalPps pr ps data time) ∧
      (decodeNalPps pr ps data time).stored = (Unpatched.decodeNalPps pr ps.stored data).2 := by
  have hpps : ps.stored.pps = ps.pps := rfl
  have hsps' : ps.stored.sps = ps.sps := rfl
  rw [Unpatched.decodeNalPps] at hfit ⊢
  rw [decodeNalPps]
  rcases hids : pr.ppsIds data with _ | ⟨k, i⟩
  · simp [hids] at hfit
  simp only [hids, hpps, hsps'] at hfit ⊢
  have hreleased := h.releasePps k
  split_ifs at hfit ⊢ with hrepeat
  · exact ⟨⟨hreleased.linked.stampPps, hreleased.sps, hreleased.pps⟩, rfl⟩
  rcases hsps : ps.sps i with _ | sps
  · simp [hsps] at hfit
  rcases hparse : pr.parsePps data sps.content with _ | content
  · simp [hsps, hparse] at hfit
  simp only [hparse]
  refine ⟨⟨h.linked.decodedPps (DecodedPps.stored hids hsps hparse), h.sps, fun j p hp => ?_⟩, rfl⟩
  rw [ParamSets.stampPps_pps, ParamSets.storePps_pps] at hp
  by_cases hj : j = k
  · simp [hj]
  · rw [Function.update_of_ne hj] at hp
    simpa [hj] using h.pps j p hp

/-- **A set that both decoders store** leaves the same tables. -/
lemma receive_same (h : Clean ps) {nal : Nal B}
    (hfit : (Unpatched.receive pr ps.stored nal).1 = true) :
    Clean (receive pr ps nal) ∧
      (receive pr ps nal).stored = (Unpatched.receive pr ps.stored nal).2 := by
  have harrived : Clean { ps with arrived := ps.arrived ++ [nal] } :=
    ⟨⟨h.linked.pps, h.linked.sps⟩, h.sps, h.pps⟩
  cases nal with
  | vps data => exact decodeNalVps_same harrived hfit
  | sps data => exact decodeNalSps_same harrived hfit
  | pps data => exact decodeNalPps_same harrived hfit

/-! ### Pictures -/

/-- A picture whose PPS is stored needs nothing that is pending. -/
lemma activate_same (h : Clean ps) {k : PpsId} {p : Pps B V S P} (hp : ps.pps k = some p)
    (irap : Bool) : activate pr ps k irap = (0, ps) := by
  have hpps := h.pps k p hp
  have hsps := h.sps p.spsId p.sps (h.linked.pps k p hp)
  simp [activate, activeSpsId, hpps, hp, resolvePendingSps, hsps, resolvePendingPps]

lemma psActivate_same (h : Clean ps) {ppsId : ℕ} (irap : Bool)
    (hfit : Unpatched.Fits pr ps.stored (.slice ppsId irap)) :
    psActivate pr ps ppsId irap = (0, ps) := by
  obtain ⟨hlt, hsome⟩ := hfit
  obtain ⟨p, hp⟩ := Option.isSome_iff_exists.mp hsome
  rw [psActivate, dif_pos hlt]
  exact activate_same h hp irap

/-- Every set is parsed and stored when it arrives, and every picture has a PPS, by the decoder before
the patch. -/
def InOrder (pr : Parser B V S P) (events : List (Event B)) : Prop :=
  ∀ pre event post, events = pre ++ event :: post →
    Unpatched.Fits pr (Unpatched.run pr pre) event

lemma run_same {events : List (Event B)} (h : InOrder pr events) :
    Clean (run pr events) ∧ (run pr events).stored = Unpatched.run pr events := by
  induction events using List.reverseRecOn with
  | nil => exact ⟨⟨⟨nofun, nofun⟩, nofun, nofun⟩, rfl⟩
  | append_singleton events event ih =>
      obtain ⟨hclean, hstored⟩ := ih fun pre e post hsplit => h pre e (post ++ [event]) (by simp [hsplit])
      have hfit := h events event [] rfl
      rw [run, Unpatched.run, List.foldl_concat, List.foldl_concat]
      change Clean (step pr (run pr events) event) ∧
        (step pr (run pr events) event).stored = Unpatched.step pr (Unpatched.run pr events) event
      rw [← hstored] at hfit ⊢
      cases event with
      | nal nal => exact receive_same hclean hfit
      | slice ppsId irap =>
          rw [step, psActivate_same hclean irap hfit]
          exact ⟨hclean, rfl⟩

/-- **Streams in order are not affected by the patch**: at every picture `ff_hevc_ps_activate` returns
0, and the stored sets are those of the decoder before the patch. -/
theorem inOrder_same {events : List (Event B)} (h : InOrder pr events) :
    ∀ pre ppsId irap post, events = pre ++ .slice ppsId irap :: post →
      (psActivate pr (run pr pre) ppsId irap).1 = 0 ∧
      (psActivate pr (run pr pre) ppsId irap).2.vps = (Unpatched.run pr pre).vps ∧
      (psActivate pr (run pr pre) ppsId irap).2.sps = (Unpatched.run pr pre).sps ∧
      (psActivate pr (run pr pre) ppsId irap).2.pps = (Unpatched.run pr pre).pps := by
  rintro pre ppsId irap post rfl
  have hpre : InOrder pr pre :=
    fun pre' e post' hsplit => h pre' e (post' ++ .slice ppsId irap :: post) (by simp [hsplit])
  obtain ⟨hclean, hstored⟩ := run_same hpre
  have hfit := h pre (.slice ppsId irap) post rfl
  rw [← hstored] at hfit ⊢
  rw [psActivate_same hclean irap hfit]
  exact ⟨rfl, rfl, rfl, rfl⟩

instance (t : Unpatched.Tables B V S P) (event : Event B) : Decidable (Unpatched.Fits pr t event) :=
  match event with
  | .nal nal => inferInstanceAs (Decidable ((Unpatched.receive pr t nal).1 = true))
  | .slice ppsId _ =>
      inferInstanceAs (Decidable (∃ h : ppsId < 64, (t.pps ⟨ppsId, h⟩).isSome = true))

/-- The condition, event by event. -/
lemma inOrder_of_forall_get {events : List (Event B)}
    (h : ∀ n : Fin events.length,
      Unpatched.Fits pr (Unpatched.run pr (events.take n)) (events.get n)) : InOrder pr events := by
  rintro pre event post rfl
  have hn := h ⟨pre.length, by simp⟩
  simpa using hn

end Decoder

/-- A stream in which the VPS is replaced, and what depends on it is sent again. -/
def replacedVps : List (Event Bytes) :=
  [.nal (.vps ⟨0, 0, 1, 9⟩), .nal (.sps ⟨0, 0, 2, 9⟩), .nal (.pps ⟨0, 0, 3, 9⟩), .slice 0 true,
    .nal (.vps ⟨0, 0, 4, 9⟩), .nal (.sps ⟨0, 0, 5, 9⟩), .nal (.pps ⟨0, 0, 6, 9⟩), .slice 0 true]

theorem replacedVps_same :
    (psActivate plainParser (run plainParser (replacedVps.take 7)) 0 true).1 = 0 ∧
      ((psActivate plainParser (run plainParser (replacedVps.take 7)) 0 true).2.pps 0).map
        (fun p => (p.content, p.sps.content, p.sps.vps.content)) = some (6, 5, 4) := by
  have horder : InOrder plainParser replacedVps := inOrder_of_forall_get (by decide +kernel)
  obtain ⟨hret, -, -, hpps⟩ := inOrder_same horder (replacedVps.take 7) 0 true [] rfl
  refine ⟨hret, ?_⟩
  rw [hpps]
  decide +kernel

end OmarchyM1Video.HevcParamSets
