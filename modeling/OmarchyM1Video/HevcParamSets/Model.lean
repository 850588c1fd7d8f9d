import Mathlib.Data.Int.Notation
import Mathlib.Data.List.FinRange
import Mathlib.Tactic.Simps.Basic

/-!
The HEVC parameter sets of the patched decoder: `libavcodec/hevc/ps.c`.

A picture parameter set (PPS) refers to a sequence parameter set (SPS), and that to a video parameter
set (VPS).  A set whose dependency is absent, or against whose dependency it does not parse, is kept
as a pending entry, and so is a set whose dependency is replaced.  A pending entry is parsed when a
picture needs it, unless it has already failed against the set that its dependency id refers to now.

Parsing is a function of the bytes of a set and of the content of the set it depends on.  A stored
set is an object with an identity, since an entry that has failed is compared by reference.  The
tables also keep what a run has received, when each entry was received, and what was parsed again.

* `Parser`: the ids and the content of a set, from its bytes;
* `ParamSets`: `HEVCParamSets`;
* `decodeNalVps`, `decodeNalSps`, `decodeNalPps`: the arrival of a set;
* `psActivate`: `ff_hevc_ps_activate`;
* `run`: arrivals and first slices.
-/

namespace OmarchyM1Video.HevcParamSets

/-! ### Parameter sets -/

/-- `HEVC_MAX_VPS_COUNT` ids. -/
abbrev VpsId : Type := Fin 16

/-- `HEVC_MAX_SPS_COUNT` ids. -/
abbrev SpsId : Type := Fin 16

/-- `HEVC_MAX_PPS_COUNT` ids. -/
abbrev PpsId : Type := Fin 64

/-- What the decoder reads from the bytes of a set. -/
structure Parser (B V S P : Type) where
  vpsId : B → VpsId
  parseVps : B → Option V
  /-- `sps_peek_ids`: the id of the VPS and its own id, if they can be read. -/
  spsIds : B → Option (VpsId × SpsId)
  parseSps : B → V → Option S
  /-- Its own id and the id of the SPS, if they can be read. -/
  ppsIds : B → Option (PpsId × SpsId)
  parsePps : B → S → Option P

/-- `HEVCVPS`. -/
structure Vps (B V : Type) where
  /-- The object, for a comparison by reference. -/
  ref : ℕ
  data : B
  content : V
  deriving DecidableEq

/-- `HEVCSPS`. -/
structure Sps (B V S : Type) where
  ref : ℕ
  data : B
  content : S
  vpsId : VpsId
  vps : Vps B V
  deriving DecidableEq

/-- `HEVCPPS`. -/
structure Pps (B V S P : Type) where
  data : B
  content : P
  spsId : SpsId
  sps : Sps B V S
  deriving DecidableEq

/-- `HEVCPendingPS`, for a dependency with ids in `D`. -/
structure PendingPS (B D : Type) where
  data : B
  depId : D
  /-- The object it failed to parse against. -/
  failedDep : Option ℕ := none
  /-- When it was received. -/
  received : ℕ
  deriving DecidableEq

/-- A parameter set that arrives. -/
inductive Nal (B : Type) where
  | vps (data : B)
  | sps (data : B)
  | pps (data : B)
  deriving DecidableEq

/-- The two kinds of sets that depend on another. -/
inductive Kind where
  | sps
  | pps
  deriving DecidableEq

/-- `HEVCParamSets`. -/
structure ParamSets (B V S P : Type) where
  vps : VpsId → Option (Vps B V) := fun _ => none
  sps : SpsId → Option (Sps B V S) := fun _ => none
  pps : PpsId → Option (Pps B V S P) := fun _ => none
  pendingSps : SpsId → Option (PendingPS B VpsId) := fun _ => none
  pendingPps : PpsId → Option (PendingPS B SpsId) := fun _ => none
  /-- The next object. -/
  next : ℕ := 0
  /-- The sets received so far. -/
  arrived : List (Nal B) := []
  /-- When each stored set was received. -/
  spsTime : SpsId → ℕ := fun _ => 0
  ppsTime : PpsId → ℕ := fun _ => 0
  /-- What was parsed again: a set, by the time it was received, and the object it was parsed
  against. -/
  reparsed : List (Kind × ℕ × ℕ) := []

/-- `AVERROR_INVALIDDATA`. -/
def invalidData : ℤ := -1094995529

section Tables

variable {B V S P : Type}

/-! ### The slots of the tables -/

/-- `keep_pending(&ps->pending_sps[i], …)`. -/
@[simps]
def ParamSets.keepPendingSps (ps : ParamSets B V S P) (i : SpsId) (p : PendingPS B VpsId) :
    ParamSets B V S P :=
  { ps with pendingSps := Function.update ps.pendingSps i (some p) }

/-- `keep_pending(&ps->pending_pps[k], …)`. -/
@[simps]
def ParamSets.keepPendingPps (ps : ParamSets B V S P) (k : PpsId) (p : PendingPS B SpsId) :
    ParamSets B V S P :=
  { ps with pendingPps := Function.update ps.pendingPps k (some p) }

/-- The pending SPS is released. -/
@[simps]
def ParamSets.releaseSps (ps : ParamSets B V S P) (i : SpsId) : ParamSets B V S P :=
  { ps with pendingSps := Function.update ps.pendingSps i none }

/-- The pending PPS is released. -/
@[simps]
def ParamSets.releasePps (ps : ParamSets B V S P) (k : PpsId) : ParamSets B V S P :=
  { ps with pendingPps := Function.update ps.pendingPps k none }

/-- The stored SPS was received at `time`. -/
@[simps]
def ParamSets.stampSps (ps : ParamSets B V S P) (i : SpsId) (time : ℕ) : ParamSets B V S P :=
  { ps with spsTime := Function.update ps.spsTime i time }

/-- The stored PPS was received at `time`. -/
@[simps]
def ParamSets.stampPps (ps : ParamSets B V S P) (k : PpsId) (time : ℕ) : ParamSets B V S P :=
  { ps with ppsTime := Function.update ps.ppsTime k time }

/-- A new object in `vps_list`. -/
@[simps]
def ParamSets.storeVps (ps : ParamSets B V S P) (v : VpsId) (data : B) (content : V) :
    ParamSets B V S P :=
  { ps with
    vps := Function.update ps.vps v (some ⟨ps.next, data, content⟩)
    next := ps.next + 1 }

/-- A new object in `sps_list`. -/
@[simps]
def ParamSets.storeSps (ps : ParamSets B V S P) (i : SpsId) (data : B) (content : S) (v : VpsId)
    (vps : Vps B V) : ParamSets B V S P :=
  { ps with
    sps := Function.update ps.sps i (some ⟨ps.next, data, content, v, vps⟩)
    next := ps.next + 1 }

/-- A new object in `pps_list`. -/
@[simps]
def ParamSets.storePps (ps : ParamSets B V S P) (k : PpsId) (p : Pps B V S P) : ParamSets B V S P :=
  { ps with pps := Function.update ps.pps k (some p) }

/-! ### Removing sets -/

/-- The entry of a stored set that is hit, unless there is a newer one. -/
def moved {α D : Type} (stored : Option α) (hit : α → Bool) (entry : α → PendingPS B D)
    (pending : Option (PendingPS B D)) : Option (PendingPS B D) :=
  match stored.filter hit with
  | some a => some (pending.getD (entry a))
  | none => pending

/-- `remove_sps`. -/
def removeSps (ps : ParamSets B V S P) (id : SpsId) : ParamSets B V S P :=
  if (ps.sps id).isSome then
    { ps with
      pendingPps := fun k => moved (ps.pps k) (·.spsId == id)
        (fun p => { data := p.data, depId := id, received := ps.ppsTime k }) (ps.pendingPps k)
      pps := fun k => (ps.pps k).filter (·.spsId != id)
      sps := Function.update ps.sps id none }
  else ps

/-- The body of the loop of `remove_vps`. -/
def removeSpsOf (id : VpsId) (ps : ParamSets B V S P) (i : SpsId) : ParamSets B V S P :=
  match (ps.sps i).filter (·.vpsId == id) with
  | some s =>
      let entry : PendingPS B VpsId := { data := s.data, depId := id, received := ps.spsTime i }
      removeSps (ps.keepPendingSps i ((ps.pendingSps i).getD entry)) i
  | none => ps

/-- `remove_vps`. -/
def removeVps (ps : ParamSets B V S P) (id : VpsId) : ParamSets B V S P :=
  if (ps.vps id).isSome then
    let ps₁ := (List.finRange 16).foldl (removeSpsOf id) ps
    { ps₁ with vps := Function.update ps₁.vps id none }
  else ps

end Tables

/-! ### The arrival of a set -/

section Decoder

variable {B V S P : Type} [DecidableEq B] (pr : Parser B V S P)

/-- `ff_hevc_decode_nal_vps`: a repeated set is kept, one that does not parse changes nothing. -/
def decodeNalVps (ps : ParamSets B V S P) (data : B) : ParamSets B V S P :=
  if (ps.vps (pr.vpsId data)).any (·.data = data) then ps
  else
    match pr.parseVps data with
    | none => ps
    | some content => (removeVps ps (pr.vpsId data)).storeVps (pr.vpsId data) data content

/-- `ff_hevc_decode_nal_sps`, of a set received at `time`. -/
def decodeNalSps (ps : ParamSets B V S P) (data : B) (time : ℕ) : ParamSets B V S P :=
  match pr.spsIds data with
  | none => ps
  | some (v, i) =>
      match ps.vps v with
      | none => ps.keepPendingSps i { data := data, depId := v, received := time }
      | some vps =>
          match pr.parseSps data vps.content with
          | none =>
              ps.keepPendingSps i
                { data := data, depId := v, failedDep := some vps.ref, received := time }
          | some content =>
              -- A repeat of the stored set: the original is kept.
              if (ps.sps i).any (·.data = data) then (ps.releaseSps i).stampSps i time
              else ((removeSps (ps.releaseSps i) i).storeSps i data content v vps).stampSps i time

/-- `ff_hevc_decode_nal_pps`, of a set received at `time`. -/
def decodeNalPps (ps : ParamSets B V S P) (data : B) (time : ℕ) : ParamSets B V S P :=
  match pr.ppsIds data with
  | none => ps
  | some (k, i) =>
      if (ps.pps k).any (·.data = data) then (ps.releasePps k).stampPps k time
      else
        match ps.sps i with
        | none => ps.keepPendingPps k { data := data, depId := i, received := time }
        | some sps =>
            match pr.parsePps data sps.content with
            | none =>
                ps.keepPendingPps k
                  { data := data, depId := i, failedDep := some sps.ref, received := time }
            | some content =>
                ((ps.releasePps k).storePps k ⟨data, content, i, sps⟩).stampPps k time

/-- The arrival of a set. -/
def receive (ps : ParamSets B V S P) (nal : Nal B) : ParamSets B V S P :=
  let ps₁ := { ps with arrived := ps.arrived ++ [nal] }
  match nal with
  | .vps data => decodeNalVps pr ps₁ data
  | .sps data => decodeNalSps pr ps₁ data ps.arrived.length
  | .pps data => decodeNalPps pr ps₁ data ps.arrived.length

/-! ### The first slice of a picture -/

/-- `resolve_pending_sps`; the result is true while the VPS is absent. -/
def resolvePendingSps (ps : ParamSets B V S P) (i : SpsId) : Bool × ParamSets B V S P :=
  match ps.pendingSps i with
  | none => (false, ps)
  | some p =>
      match ps.vps p.depId with
      | none => (true, ps)
      | some vps =>
          if p.failedDep = some vps.ref then (false, ps)
          else
            (false, decodeNalSps pr
              { ps with reparsed := ps.reparsed ++ [(.sps, p.received, vps.ref)] } p.data p.received)

/-- `resolve_pending_pps`; the result is true while the SPS is absent. -/
def resolvePendingPps (ps : ParamSets B V S P) (k : PpsId) : Bool × ParamSets B V S P :=
  match ps.pendingPps k with
  | none => (false, ps)
  | some p =>
      match ps.sps p.depId with
      | none => (true, ps)
      | some sps =>
          if p.failedDep = some sps.ref then (false, ps)
          else
            (false, decodeNalPps pr
              { ps with reparsed := ps.reparsed ++ [(.pps, p.received, sps.ref)] } p.data p.received)

/-- The id of the SPS that `ff_hevc_ps_activate` looks at. -/
def activeSpsId (ps : ParamSets B V S P) (k : PpsId) : Option SpsId :=
  match ps.pendingPps k with
  | some p => some p.depId
  | none => (ps.pps k).map (·.spsId)

/-- `ff_hevc_ps_activate`, of an id in range. -/
def activate (ps : ParamSets B V S P) (k : PpsId) (irap : Bool) : ℤ × ParamSets B V S P :=
  -- The SPS first: resolving it can move the stored PPS to pending.
  let (waiting, ps₁) :=
    match activeSpsId ps k with
    | some i => resolvePendingSps pr ps i
    | none => (false, ps)
  if waiting && irap then (invalidData, ps₁)
  else
    let (waiting', ps₂) := resolvePendingPps pr ps₁ k
    if waiting' then (invalidData, ps₂) else (0, ps₂)

/-- `ff_hevc_ps_activate`. -/
def psActivate (ps : ParamSets B V S P) (ppsId : ℕ) (irap : Bool) : ℤ × ParamSets B V S P :=
  if h : ppsId < 64 then activate pr ps ⟨ppsId, h⟩ irap else (0, ps)

/-- What happens to the tables. -/
inductive Event (B : Type) where
  | nal (nal : Nal B)
  | slice (ppsId : ℕ) (irap : Bool)
  deriving DecidableEq

def step (ps : ParamSets B V S P) : Event B → ParamSets B V S P
  | .nal nal => receive pr ps nal
  | .slice ppsId irap => (psActivate pr ps ppsId irap).2

/-- Arrivals and first slices, from empty tables. -/
def run (events : List (Event B)) : ParamSets B V S P := events.foldl (step pr) {}

end Decoder

/-- A set of four numbers: its id, the id of its dependency, its content, and the largest content of
its dependency that it parses against. -/
structure Bytes where
  id : ℕ
  dep : ℕ
  content : ℕ
  limit : ℕ
  deriving DecidableEq

/-- The parser of such sets. -/
def plainParser : Parser Bytes ℕ ℕ ℕ where
  vpsId b := Fin.ofNat 16 b.id
  parseVps b := some b.content
  spsIds b := some (Fin.ofNat 16 b.dep, Fin.ofNat 16 b.id)
  parseSps b v := if v ≤ b.limit then some b.content else none
  ppsIds b := some (Fin.ofNat 64 b.id, Fin.ofNat 16 b.dep)
  parsePps b s := if s ≤ b.limit then some b.content else none

end OmarchyM1Video.HevcParamSets
