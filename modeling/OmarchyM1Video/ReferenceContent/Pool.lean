import Mathlib.Data.Int.Notation
import Mathlib.Data.Nat.Notation
import Mathlib.Logic.Function.Basic
import Mathlib.Tactic.Simps.Basic
import Mathlib.Tactic.SplitIfs

/-!
The pool of content snapshots: `integration/content.h`, `va-content.inc` and `gst-content.inc`.

A snapshot reserves a slot of the pool, maps one plane, copies two ranges of it, unmaps it and
certifies the slot.  What it learns from the clock, from `mmap`, from the identity of the allocation
and from the manifest of builds is the environment of the call (`Env`).

* `hevcContentTransfer`: reserve, map, copy, unmap;
* `v4l2rContentSnapshot`, `gstHevcContentSnapshot`: the snapshots of the two clients.
-/

namespace OmarchyM1Video.ReferenceContent

/-! ### Identities -/

/-- `enum hevc_content_client`. -/
inductive Client where
  | va
  | gst
  deriving DecidableEq

/-- `detail`: the member of the union that belongs to the client. -/
inductive Detail where
  | va (context surface : UInt32) (surfaceGeneration lastReference : UInt64)
  | gst (request : UInt64) (frame : UInt32)
  deriving DecidableEq

/-- `struct hevc_content_identity`; the client is that of the detail. -/
structure Identity where
  run0 : UInt64
  run1 : UInt64
  contextGeneration : UInt64
  session : UInt64
  lease : UInt64
  allocationGeneration : UInt64
  writer : UInt64
  submitted : UInt64
  completed : UInt64
  captureIndex : UInt32
  planes : UInt32
  allocationMemory : UInt32
  allocationFlags : UInt32
  allocationType : UInt32
  planeSize : List UInt64
  detail : Detail
  deriving DecidableEq

/-- `identity->client`. -/
def Identity.client (i : Identity) : Client :=
  match i.detail with
  | .va .. => .va
  | .gst .. => .gst

/-- `struct hevc_content_provenance`. -/
structure Provenance where
  deviceMajor : UInt32
  deviceMinor : UInt32
  builds : List (List UInt8)
  deriving DecidableEq

/-- The comparison of the details in `hevc_content_same`. -/
def Detail.same : Detail → Detail → Bool
  | .va context surface generation reference, .va context' surface' generation' reference' =>
      context = context' && surface = surface' && generation = generation' && reference = reference'
  | .gst request frame, .gst request' frame' => request = request' && frame = frame'
  | _, _ => false

/-- `hevc_content_same`. -/
def hevcContentSame (a b : Identity) : Bool :=
  a.client = b.client && a.run0 = b.run0 && a.run1 = b.run1 &&
    a.contextGeneration = b.contextGeneration && a.session = b.session && a.lease = b.lease &&
    a.allocationGeneration = b.allocationGeneration && a.writer = b.writer &&
    a.submitted = b.submitted && a.completed = b.completed && a.captureIndex = b.captureIndex &&
    a.planes = b.planes && a.allocationMemory = b.allocationMemory &&
    a.allocationFlags = b.allocationFlags && a.allocationType = b.allocationType &&
    a.planeSize = b.planeSize && a.detail.same b.detail

lemma Detail.same_iff {a b : Detail} : a.same b = true ↔ a = b := by
  cases a <;> cases b <;> simp [same, and_assoc]

/-- The comparison leaves no field out. -/
lemma hevcContentSame_iff {a b : Identity} : hevcContentSame a b = true ↔ a = b := by
  constructor
  · intro h
    simp only [hevcContentSame, Bool.and_eq_true, decide_eq_true_eq, Detail.same_iff,
      and_assoc] at h
    obtain ⟨-, h⟩ := h
    cases a
    cases b
    simpa only [Identity.mk.injEq] using h
  · rintro rfl
    simp [hevcContentSame, Detail.same_iff]

/-! ### The pool -/

/-- `HEVC_CONTENT_SLOTS`. -/
def contentSlots : ℕ := 8
/-- `HEVC_CONTENT_BYTES`. -/
def contentBytes : ℕ := 184320
/-- `HEVC_CONTENT_COMP_START`. -/
def compStart : ℕ := 161280
/-- `HEVC_CONTENT_COMP_BYTES`. -/
def compBytes : ℕ := 177152
/-- `HEVC_CONTENT_MV_BYTES`. -/
def mvBytes : ℕ := 7168
/-- `HEVC_CONTENT_COPY_NS`. -/
def copyNs : ℕ := 20000000

/-- A slot of the pool. -/
structure Slot where
  valid : Bool
  copied : Bool
  elapsedNs : ℕ
  beforeNs : ℕ
  afterNs : ℕ
  identity : Identity
  provenance : Provenance
  bytes : ℕ → UInt8

/-- The bytes of a slot, which a digest is taken of. -/
def slotBytes (slot : Slot) : List UInt8 := (List.range contentBytes).map slot.bytes

/-- `struct hevc_content_pool`. -/
structure Pool where
  enabled : Bool
  stopped : Bool
  used : ℕ
  owner : ℕ
  slot : ℕ → Slot

/-- A slot of zero bytes. -/
def Slot.zero : Slot where
  valid := false
  copied := false
  elapsedNs := 0
  beforeNs := 0
  afterNs := 0
  identity := ⟨0, 0, 0, 0, 0, 0, 0, 0, 0, 0, 0, 0, 0, 0, [0, 0, 0, 0, 0, 0, 0, 0], .va 0 0 0 0⟩
  provenance := ⟨0, 0, []⟩
  bytes := fun _ => 0

/-- `v4l2r_content_init`, `gst_hevc_content_init`. -/
def contentInit (enabled : Bool) (thread : ℕ) : Pool where
  enabled := enabled
  stopped := false
  used := 0
  owner := thread
  slot := fun _ => Slot.zero

namespace Pool

/-- `pool->stopped = true`. -/
@[simps] def stop (p : Pool) : Pool := { p with stopped := true }

/-- A write to one slot. -/
@[simps] def setSlot (p : Pool) (k : ℕ) (slot : Slot) : Pool :=
  { p with
    slot := Function.update p.slot k slot }

/-- `index = pool->used++; pool->slot[index].valid = false`. -/
def reserve (p : Pool) : Pool :=
  { p.setSlot p.used { p.slot p.used with valid := false } with
    used := p.used + 1 }

end Pool

/-- The two ranges of the plane, over what the slot held. -/
def copyRanges (plane : ℕ → UInt8) (length : ℕ) (old : ℕ → UInt8) : ℕ → UInt8 := fun i =>
  if i < compBytes then plane (compStart + i)
  else if i < contentBytes then plane (length - mvBytes + (i - compBytes))
  else old i

/-! ### The transfer -/

/-- `hevc_content_layout`. -/
def hevcContentLayout (width height stride length : ℕ) : Bool :=
  width = 448 && height = 240 && stride = 448 && (length = 345600 || length = 368128) &&
    compStart + compBytes ≤ length - mvBytes

/-- What the transfer finds: three readings of the clock, the plane, and what `mmap` and `munmap`
return. -/
structure TransferEnv where
  now : ℕ
  mapped : Bool
  before : ℕ
  plane : ℕ → UInt8
  after : ℕ
  unmapped : Bool

/-- A transfer, or a snapshot: what it returns, the pool, the mapping it leaves (by its length), and
whether it called `mmap`. -/
structure Transfer where
  ok : Bool
  pool : Pool
  held : Option ℕ
  maps : Bool

/-- The slot after the copy. -/
def filled (copy : Bool) (length : ℕ) (e : TransferEnv) (slot : Slot) : Slot :=
  if copy then { slot with bytes := copyRanges e.plane length slot.bytes } else slot

/-- The slot with the identity, the mode and the times of the transfer. -/
def stamped (identity : Identity) (copy : Bool) (e : TransferEnv) (slot : Slot) : Slot :=
  { slot with
    identity := identity
    copied := copy
    elapsedNs := e.after - e.before
    beforeNs := e.before
    afterNs := e.after }

/-- The times of the copy are those that the transfer accepts. -/
def TransferEnv.inTime (e : TransferEnv) (deadline : ℕ) : Bool :=
  e.before ≤ e.after && e.after < deadline && e.after - e.before ≤ copyNs

/-- From `mmap` on. -/
def mapAndCopy (length : ℕ) (identity : Identity) (copy : Bool) (deadline : ℕ) (e : TransferEnv)
    (pool : Pool) (held : Option ℕ) : Transfer :=
  let reserved := pool.reserve
  if e.mapped = false then ⟨false, reserved.stop, held, true⟩
  else
    let begun := e.before ≠ 0 ∧ e.before < deadline
    let slot := if begun then filled copy length e (reserved.slot pool.used) else reserved.slot pool.used
    let left := if e.unmapped then none else some length
    if begun ∧ e.unmapped = true ∧ e.inTime deadline = true then
      ⟨true, reserved.setSlot pool.used (stamped identity copy e slot), left, true⟩
    else ⟨false, (reserved.setSlot pool.used slot).stop, left, true⟩

/-- `hevc_content_transfer`. -/
def hevcContentTransfer (offset : ℤ) (length : ℕ) (identity : Identity) (copy : Bool) (deadline : ℕ)
    (e : TransferEnv) (pool : Pool) (held : Option ℕ) : Transfer :=
  if pool.enabled = false ∨ pool.stopped = true then ⟨false, pool, held, false⟩
  else if contentSlots ≤ pool.used then ⟨false, pool.stop, held, false⟩
  else if held.isSome ∨ (length ≠ 345600 ∧ length ≠ 368128) ∨ offset < 0 ∨ deadline = 0 ∨
      deadline ≤ e.now then
    ⟨false, pool.stop, held, false⟩
  else mapAndCopy length identity copy deadline e pool held

/-! ### The snapshots -/

/-- What a snapshot finds. -/
structure Env where
  /-- The thread that calls. -/
  thread : ℕ
  /-- Every pointer is given, the copy mode is Boolean and the build of the library is known. -/
  ready : Bool
  /-- The lock of the driver, or of the observer. -/
  locked : Bool
  /-- The session is valid; for VA its context is the active one and has a lease. -/
  session : Bool
  now : ℕ
  deadline : ℕ
  /-- The lock of the VA context. -/
  contextLocked : Bool
  identity : Option Identity
  proof : Option Provenance
  /-- The checks of the Gst buffer and of its allocation, the layout apart. -/
  retained : Bool
  width : ℕ
  height : ℕ
  stride : ℕ
  offset : ℤ
  length : ℕ
  transfer : TransferEnv
  identityAfter : Option Identity
  proofAfter : Option Provenance
  finalNow : ℕ

/-- The fields that a VA context and a Gst decoder have for their snapshots: how many were made, and
the mapping that could not be unmapped. -/
structure Content where
  count : ℕ
  held : Option ℕ

/-- What the end of a lease does: `if (map && munmap (map, length)) goto unlock; map = NULL`. -/
def Content.unmap (unmapped : Bool) (c : Content) : Content :=
  if unmapped then { c with held := none } else c

/-- The result of a snapshot. -/
structure Snapshot where
  ok : Bool
  pool : Pool
  content : Content
  maps : Bool

/-- A call that is refused before it has the lock changes nothing. -/
def refuse (pool : Pool) (content : Content) : Snapshot := ⟨false, pool, content, false⟩

/-- `if (!ok) pool->stopped = true` with nothing transferred. -/
def abandon (pool : Pool) (content : Content) : Snapshot := ⟨false, pool.stop, content, false⟩

/-- The check of identity, builds and clock after the transfer. -/
def Env.confirms (e : Env) (identity : Identity) (proof : Provenance) : Bool :=
  (match e.identityAfter with
    | some after => hevcContentSame identity after
    | none => false) && e.proofAfter = some proof && e.finalNow < e.deadline

/-- `slot[index].provenance = proof; slot[index].valid = true`. -/
def Slot.certify (slot : Slot) (proof : Provenance) : Slot :=
  { slot with
    provenance := proof
    valid := true }

/-- From the transfer on: the slot is the one that was free before it. -/
def certify (e : Env) (identity : Identity) (proof : Provenance) (index : ℕ) (count : ℕ)
    (t : Transfer) : Snapshot :=
  if t.ok = true ∧ e.confirms identity proof = true then
    ⟨true, t.pool.setSlot index ((t.pool.slot index).certify proof), ⟨count, t.held⟩, t.maps⟩
  else ⟨false, t.pool.stop, ⟨count, t.held⟩, t.maps⟩

/-- `v4l2r_content_snapshot`. -/
def v4l2rContentSnapshot (copy : Bool) (e : Env) (pool : Pool) (content : Content) : Snapshot :=
  if e.ready = false ∨ pool.owner ≠ e.thread ∨ pool.enabled = false ∨ pool.stopped = true then
    refuse pool content
  else if e.locked = false then refuse pool content
  else if e.session = false ∨ e.deadline ≤ e.now then abandon pool content
  else if e.contextLocked = false then abandon pool content
  else if contentSlots ≤ content.count then abandon pool content
  else
    match e.identity, e.proof with
    | some identity, some proof =>
        certify e identity proof pool.used (content.count + 1)
          (hevcContentTransfer e.offset e.length identity copy e.deadline e.transfer pool
            content.held)
    | _, _ => abandon pool content

/-- `gst_hevc_content_buffer_copy`. -/
def gstHevcContentBufferCopy (identity : Identity) (copy : Bool) (e : Env) (pool : Pool)
    (held : Option ℕ) : Transfer :=
  if e.retained = false ∨ hevcContentLayout e.width e.height e.stride e.length = false then
    ⟨false, pool, held, false⟩
  else hevcContentTransfer 0 e.length identity copy e.deadline e.transfer pool held

/-- `gst_hevc_content_snapshot`. -/
def gstHevcContentSnapshot (copy : Bool) (e : Env) (pool : Pool) (content : Content) : Snapshot :=
  if e.ready = false ∨ pool.owner ≠ e.thread ∨ pool.enabled = false ∨ pool.stopped = true then
    refuse pool content
  else if e.locked = false then refuse pool content
  else if e.session = false ∨ contentSlots ≤ content.count ∨ e.deadline ≤ e.now then
    abandon pool content
  else
    match e.identity, e.proof with
    | some identity, some proof =>
        certify e identity proof pool.used (content.count + 1)
          (gstHevcContentBufferCopy identity copy e pool content.held)
    | _, _ => abandon pool content

end OmarchyM1Video.ReferenceContent
