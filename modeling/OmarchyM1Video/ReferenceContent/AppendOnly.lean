import Mathlib.Data.List.Induction
import OmarchyM1Video.ReferenceContent.Pool

/-!
Runs of snapshots on one pool, with the calls of both clients in any order.

* `Outcome`: everything that a call does to the pool;
* `Maps`: everything it does with mappings;
* `content_pool_append_only`: the pool only grows, a certified slot is never written again, nothing
  happens after the pool has stopped, and a mapping that could not be unmapped is the last one.
-/

namespace OmarchyM1Video.ReferenceContent

/-! ### Everything a call does to the pool -/

/-- The mapping that is left because it could not be unmapped. -/
def TransferEnv.stuck (t : TransferEnv) (length : ℕ) : Option ℕ :=
  if t.mapped = true ∧ t.unmapped = false then some length else none

/-- The copy of a snapshot was certified: identity and builds were the same before and after it, and
it ended in time. -/
structure Certified (copy : Bool) (e : Env) (slot : Slot) : Prop where
  identity : e.identity = some slot.identity
  identityAfter : e.identityAfter = some slot.identity
  proof : e.proof = some slot.provenance
  proofAfter : e.proofAfter = some slot.provenance
  mapped : e.transfer.mapped = true
  unmapped : e.transfer.unmapped = true
  times : slot.beforeNs = e.transfer.before ∧ slot.afterNs = e.transfer.after ∧
    slot.elapsedNs = slot.afterNs - slot.beforeNs
  inTime : slot.beforeNs ≤ slot.afterNs ∧ slot.afterNs < e.deadline ∧ slot.elapsedNs ≤ copyNs
  deadline : e.finalNow < e.deadline
  copied : slot.copied = copy
  compression : copy = true → ∀ i < compBytes, slot.bytes i = e.transfer.plane (compStart + i)
  motion : copy = true → ∀ i < mvBytes,
    slot.bytes (compBytes + i) = e.transfer.plane (e.length - mvBytes + i)
  length : e.length = 345600 ∨ e.length = 368128

/-- A call leaves the slots alone, consumes one and stops the pool, or certifies one, which is then
in `S`. -/
inductive Outcome (S : Slot → Prop) (p p' : Pool) : Prop
  | kept (used : p'.used = p.used) (slot : p'.slot = p.slot)
      (stopped : p.stopped = true → p'.stopped = true)
  | consumed (room : p.used < contentSlots) (running : p.stopped = false)
      (used : p'.used = p.used + 1) (slot : ∀ k, k ≠ p.used → p'.slot k = p.slot k)
      (valid : (p'.slot p.used).valid = false) (stopped : p'.stopped = true)
  | certified (room : p.used < contentSlots) (running : p.stopped = false)
      (used : p'.used = p.used + 1) (slot : ∀ k, k ≠ p.used → p'.slot k = p.slot k)
      (valid : (p'.slot p.used).valid = true) (sound : S (p'.slot p.used))

/-- A transfer that fails keeps the slots or consumes one. -/
inductive Failed (p p' : Pool) : Prop
  | kept (used : p'.used = p.used) (slot : p'.slot = p.slot)
      (stopped : p.stopped = true → p'.stopped = true)
  | consumed (room : p.used < contentSlots) (running : p.stopped = false)
      (used : p'.used = p.used + 1) (slot : ∀ k, k ≠ p.used → p'.slot k = p.slot k)
      (valid : (p'.slot p.used).valid = false) (stopped : p'.stopped = true)

/-- A transfer that succeeds fills the slot it has reserved. -/
structure Transferred (length : ℕ) (identity : Identity) (copy : Bool) (deadline : ℕ)
    (e : TransferEnv) (p p' : Pool) : Prop where
  room : p.used < contentSlots
  running : p.stopped = false
  used : p'.used = p.used + 1
  slot : p'.slot = Function.update p.slot p.used
    (stamped identity copy e (filled copy length e { p.slot p.used with valid := false }))
  mapped : e.mapped = true
  unmapped : e.unmapped = true
  inTime : e.inTime deadline = true
  length_eq : length = 345600 ∨ length = 368128

section Transfers

variable {offset : ℤ} {length : ℕ} {identity : Identity} {copy : Bool} {deadline : ℕ}
  {t : TransferEnv} {p : Pool} {held : Option ℕ}

lemma mapAndCopy_cases (hroom : p.used < contentSlots) (hrunning : p.stopped = false)
    (hlength : length = 345600 ∨ length = 368128) :
    ((mapAndCopy length identity copy deadline t p held).ok = true ∧
      Transferred length identity copy deadline t p
        (mapAndCopy length identity copy deadline t p held).pool) ∨
    ((mapAndCopy length identity copy deadline t p held).ok = false ∧
      Failed p (mapAndCopy length identity copy deadline t p held).pool) := by
  have hother : ∀ k, k ≠ p.used → p.reserve.slot k = p.slot k := fun k hk =>
    Function.update_of_ne hk _ _
  have hself : p.reserve.slot p.used = { p.slot p.used with valid := false } :=
    Function.update_self _ _ _
  by_cases hmapped : t.mapped = false
  · refine .inr ?_
    simp only [mapAndCopy, hmapped, if_true]
    refine ⟨trivial, .consumed hroom hrunning rfl hother ?_ rfl⟩
    exact congrArg Slot.valid hself
  · rw [Bool.not_eq_false] at hmapped
    by_cases hok : (t.before ≠ 0 ∧ t.before < deadline) ∧ t.unmapped = true ∧
        t.inTime deadline = true
    · refine .inl ?_
      simp only [mapAndCopy, hmapped, Bool.true_eq_false, if_false, if_pos hok, if_pos hok.1]
      refine ⟨trivial, hroom, hrunning, rfl, ?_, hmapped, hok.2.1, hok.2.2, hlength⟩
      rw [hself]
      exact Function.update_idem _ _ _
    · refine .inr ?_
      simp only [mapAndCopy, hmapped, Bool.true_eq_false, if_false, if_neg hok]
      refine ⟨trivial, .consumed hroom hrunning rfl (fun k hk => ?_) ?_ rfl⟩
      · exact (Function.update_of_ne hk _ _).trans (hother k hk)
      · change (Function.update p.reserve.slot p.used _ p.used).valid = false
        rw [Function.update_self, hself, filled]
        split_ifs <;> rfl

/-- A transfer fills the slot it has reserved, or fails. -/
lemma transfer_cases :
    ((hevcContentTransfer offset length identity copy deadline t p held).ok = true ∧
      Transferred length identity copy deadline t p
        (hevcContentTransfer offset length identity copy deadline t p held).pool) ∨
    ((hevcContentTransfer offset length identity copy deadline t p held).ok = false ∧
      Failed p (hevcContentTransfer offset length identity copy deadline t p held).pool) := by
  rw [hevcContentTransfer]
  split_ifs with hstopped hfull hargs
  · exact .inr ⟨rfl, .kept rfl rfl id⟩
  · exact .inr ⟨rfl, .kept rfl rfl fun _ => rfl⟩
  · exact .inr ⟨rfl, .kept rfl rfl fun _ => rfl⟩
  · simp only [not_or, not_and_or, Decidable.not_not] at hstopped hargs
    exact mapAndCopy_cases (Nat.lt_of_not_le hfull) (Bool.eq_false_iff.mpr hstopped.2) hargs.2.1

/-- A transfer maps only where nothing is held, and leaves the mapping held exactly where it could
not be unmapped. -/
lemma transfer_held :
    ((hevcContentTransfer offset length identity copy deadline t p held).maps = false ∧
      (hevcContentTransfer offset length identity copy deadline t p held).held = held) ∨
    ((hevcContentTransfer offset length identity copy deadline t p held).maps = true ∧
      p.stopped = false ∧ held = none ∧
      (hevcContentTransfer offset length identity copy deadline t p held).held =
        t.stuck length) := by
  rw [hevcContentTransfer]
  split_ifs with hstopped hfull hargs
  · exact .inl ⟨rfl, rfl⟩
  · exact .inl ⟨rfl, rfl⟩
  · exact .inl ⟨rfl, rfl⟩
  · simp only [not_or, Option.not_isSome_iff_eq_none] at hstopped hargs
    have hheld : held = none := hargs.1
    subst hheld
    refine .inr ⟨?_, Bool.eq_false_iff.mpr hstopped.2, rfl, ?_⟩
    · simp only [mapAndCopy]
      split_ifs <;> rfl
    · rcases hmapped : t.mapped with _ | _ <;> rcases hunmapped : t.unmapped with _ | _ <;>
        simp only [mapAndCopy, TransferEnv.stuck, hmapped, hunmapped, Bool.false_eq_true,
          Bool.true_eq_false, if_true, if_false, and_false, and_true, and_self, true_and,
          false_and]
      all_goals split_ifs <;> rfl

end Transfers

section Snapshots

variable {copy : Bool} {e : Env} {identity : Identity} {proof : Provenance} {count : ℕ}
  {t : Transfer} {p : Pool} {content : Content}

lemma Env.confirms_iff :
    e.confirms identity proof = true ↔
      e.identityAfter = some identity ∧ e.proofAfter = some proof ∧ e.finalNow < e.deadline := by
  rw [Env.confirms]
  rcases hafter : e.identityAfter with _ | after
  · simp
  · simp only [Bool.and_eq_true, hevcContentSame_iff, decide_eq_true_eq, Option.some.injEq, and_assoc]
    exact and_congr_left' eq_comm

lemma Failed.stop {S : Slot → Prop} {p' : Pool} (h : Failed p p') : Outcome S p p'.stop := by
  cases h with
  | kept used slot _ => exact .kept used slot fun _ => rfl
  | consumed room running used slot valid _ =>
      exact .consumed room running used slot valid rfl

/-- The bytes of the slot are the two ranges of the plane, one after the other. -/
lemma bytes_filled {length : ℕ} {env : TransferEnv} {slot : Slot} :
    (∀ i < compBytes, (filled true length env slot).bytes i = env.plane (compStart + i)) ∧
    ∀ i < mvBytes,
      (filled true length env slot).bytes (compBytes + i) = env.plane (length - mvBytes + i) := by
  refine ⟨fun i hi => if_pos hi, fun i hi => ?_⟩
  change copyRanges _ _ _ _ = _
  have hbytes : contentBytes = compBytes + mvBytes := rfl
  rw [copyRanges, if_neg (by omega), if_pos (by omega), Nat.add_sub_cancel_left]

/-- A transfer that is confirmed certifies the slot. -/
lemma Transferred.certify (h : Transferred e.length identity copy e.deadline e.transfer p t.pool)
    (hidentity : e.identity = some identity) (hproof : e.proof = some proof)
    (hconfirms : e.confirms identity proof = true) :
    Outcome (Certified copy e) p (t.pool.setSlot p.used ((t.pool.slot p.used).certify proof)) := by
  obtain ⟨hafter, hproofAfter, hfinal⟩ := Env.confirms_iff.mp hconfirms
  have hslot : t.pool.slot p.used = stamped identity copy e.transfer
      (filled copy e.length e.transfer { p.slot p.used with valid := false }) := by
    rw [h.slot, Function.update_self]
  have htimes := h.inTime
  simp only [TransferEnv.inTime, Bool.and_eq_true, decide_eq_true_eq, and_assoc] at htimes
  refine .certified h.room h.running h.used (fun k hk => ?_) ?_ ?_
  · rw [Pool.setSlot_slot, Function.update_of_ne hk, h.slot, Function.update_of_ne hk]
  · rw [Pool.setSlot_slot, Function.update_self]
    rfl
  · rw [Pool.setSlot_slot, Function.update_self, hslot]
    refine ⟨hidentity, hafter, hproof, hproofAfter, h.mapped, h.unmapped, ⟨rfl, rfl, rfl⟩, htimes,
      hfinal, rfl, ?_, ?_, h.length_eq⟩
    · rintro rfl
      exact bytes_filled.1
    · rintro rfl
      exact bytes_filled.2

/-- The transfer of a snapshot, whichever client it is of. -/
lemma certify_outcome (hidentity : e.identity = some identity) (hproof : e.proof = some proof)
    (h : (t.ok = true ∧ Transferred e.length identity copy e.deadline e.transfer p t.pool) ∨
      (t.ok = false ∧ Failed p t.pool)) :
    Outcome (Certified copy e) p (certify e identity proof p.used count t).pool := by
  rw [certify]
  rcases h with ⟨hok, htransferred⟩ | ⟨hok, hfailed⟩
  · by_cases hconfirms : e.confirms identity proof = true
    · rw [if_pos ⟨hok, hconfirms⟩]
      exact htransferred.certify hidentity hproof hconfirms
    · rw [if_neg fun hboth => hconfirms hboth.2]
      refine .consumed htransferred.room htransferred.running htransferred.used (fun k hk => ?_) ?_
        rfl
      · rw [Pool.stop_slot, htransferred.slot, Function.update_of_ne hk]
      · rw [Pool.stop_slot, htransferred.slot, Function.update_self, stamped, filled]
        split_ifs <;> rfl
  · rw [if_neg fun hboth => Bool.false_ne_true (hok.symm.trans hboth.1)]
    exact hfailed.stop

/-- A snapshot that succeeds has certified one more slot. -/
lemma certify_ok (hidentity : e.identity = some identity) (hproof : e.proof = some proof)
    (h : (t.ok = true ∧ Transferred e.length identity copy e.deadline e.transfer p t.pool) ∨
      (t.ok = false ∧ Failed p t.pool))
    (hok : (certify e identity proof p.used count t).ok = true) :
    (certify e identity proof p.used count t).pool.used = p.used + 1 ∧
      ((certify e identity proof p.used count t).pool.slot p.used).valid = true ∧
      Certified copy e ((certify e identity proof p.used count t).pool.slot p.used) := by
  have houtcome : Outcome (Certified copy e) p (certify e identity proof p.used count t).pool :=
    certify_outcome hidentity hproof h
  have hpool : (certify e identity proof p.used count t).pool.used = p.used + 1 ∧
      ((certify e identity proof p.used count t).pool.slot p.used).valid = true := by
    rw [certify] at hok ⊢
    split_ifs at hok ⊢ with hboth
    · rcases h with ⟨-, htransferred⟩ | ⟨hfalse, -⟩
      · refine ⟨htransferred.used, ?_⟩
        rw [Pool.setSlot_slot, Function.update_self]
        rfl
      · exact absurd (hfalse.symm.trans hboth.1) (by decide)
  refine ⟨hpool.1, hpool.2, ?_⟩
  cases houtcome with
  | kept used => exact absurd (hpool.1.symm.trans used) (Nat.succ_ne_self _)
  | consumed _ _ _ _ valid => exact absurd (hpool.2.symm.trans valid) (by decide)
  | certified _ _ _ _ _ sound => exact sound

lemma outcome_abandon {S : Slot → Prop} : Outcome S p (abandon p content).pool := .kept rfl rfl fun _ => rfl

lemma outcome_refuse {S : Slot → Prop} : Outcome S p (refuse p content).pool := .kept rfl rfl id

lemma v4l2rContentSnapshot_outcome :
    Outcome (Certified copy e) p (v4l2rContentSnapshot copy e p content).pool := by
  rw [v4l2rContentSnapshot]
  split_ifs
  · exact outcome_refuse
  · exact outcome_refuse
  · exact outcome_abandon
  · exact outcome_abandon
  · exact outcome_abandon
  · rcases hidentity : e.identity with _ | identity
    · exact outcome_abandon
    · rcases hproof : e.proof with _ | proof
      · exact outcome_abandon
      · exact certify_outcome hidentity hproof transfer_cases

lemma v4l2rContentSnapshot_ok (hok : (v4l2rContentSnapshot copy e p content).ok = true) :
    (v4l2rContentSnapshot copy e p content).pool.used = p.used + 1 ∧
      ((v4l2rContentSnapshot copy e p content).pool.slot p.used).valid = true ∧
      Certified copy e ((v4l2rContentSnapshot copy e p content).pool.slot p.used) := by
  rw [v4l2rContentSnapshot] at hok ⊢
  split_ifs at hok ⊢
  · exact absurd hok Bool.false_ne_true
  · exact absurd hok Bool.false_ne_true
  · exact absurd hok Bool.false_ne_true
  · exact absurd hok Bool.false_ne_true
  · exact absurd hok Bool.false_ne_true
  · rcases hidentity : e.identity with _ | identity <;> rw [hidentity] at hok
    · exact absurd hok Bool.false_ne_true
    · rcases hproof : e.proof with _ | proof <;> rw [hproof] at hok
      · exact absurd hok Bool.false_ne_true
      · exact certify_ok hidentity hproof transfer_cases hok

lemma bufferCopy_cases {held : Option ℕ} :
    ((gstHevcContentBufferCopy identity copy e p held).ok = true ∧
      Transferred e.length identity copy e.deadline e.transfer p
        (gstHevcContentBufferCopy identity copy e p held).pool) ∨
    ((gstHevcContentBufferCopy identity copy e p held).ok = false ∧
      Failed p (gstHevcContentBufferCopy identity copy e p held).pool) := by
  rw [gstHevcContentBufferCopy]
  split_ifs
  · exact .inr ⟨rfl, .kept rfl rfl id⟩
  · exact transfer_cases

lemma gstHevcContentSnapshot_outcome :
    Outcome (Certified copy e) p (gstHevcContentSnapshot copy e p content).pool := by
  rw [gstHevcContentSnapshot]
  split_ifs
  · exact outcome_refuse
  · exact outcome_refuse
  · exact outcome_abandon
  · rcases hidentity : e.identity with _ | identity
    · exact outcome_abandon
    · rcases hproof : e.proof with _ | proof
      · exact outcome_abandon
      · exact certify_outcome hidentity hproof bufferCopy_cases

/-- What a snapshot does with mappings: it makes none, or it makes one where none was held, and
holds it where it could not be unmapped. -/
inductive Mapping (e : Env) (p : Pool) (held : Option ℕ) (r : Snapshot) : Prop
  | idle (maps : r.maps = false) (held_eq : r.content.held = held)
  | made (maps : r.maps = true) (running : p.stopped = false) (free : held = none)
      (held_eq : r.content.held = e.transfer.stuck e.length)
      (stopped : e.transfer.unmapped = false → r.pool.stopped = true)

lemma certify_mapping {held : Option ℕ}
    (hcases : (t.ok = true ∧ Transferred e.length identity copy e.deadline e.transfer p t.pool) ∨
      (t.ok = false ∧ Failed p t.pool))
    (hheld : (t.maps = false ∧ t.held = held) ∨
      (t.maps = true ∧ p.stopped = false ∧ held = none ∧ t.held = e.transfer.stuck e.length)) :
    Mapping e p held (certify e identity proof p.used count t) := by
  have hresult : (certify e identity proof p.used count t).maps = t.maps ∧
      (certify e identity proof p.used count t).content.held = t.held := by
    rw [certify]
    split_ifs <;> exact ⟨rfl, rfl⟩
  rcases hheld with ⟨hmaps, hheld⟩ | ⟨hmaps, hrunning, hfree, hheld⟩
  · exact .idle (hresult.1.trans hmaps) (hresult.2.trans hheld)
  · refine .made (hresult.1.trans hmaps) hrunning hfree (hresult.2.trans hheld) fun hunmapped => ?_
    rcases hcases with ⟨-, htransferred⟩ | ⟨hok, -⟩
    · exact absurd (htransferred.unmapped.symm.trans hunmapped) (by decide)
    · rw [certify, if_neg fun hboth => Bool.false_ne_true (hok.symm.trans hboth.1)]
      rfl

lemma v4l2rContentSnapshot_mapping :
    Mapping e p content.held (v4l2rContentSnapshot copy e p content) := by
  rw [v4l2rContentSnapshot]
  split_ifs
  · exact .idle rfl rfl
  · exact .idle rfl rfl
  · exact .idle rfl rfl
  · exact .idle rfl rfl
  · exact .idle rfl rfl
  · rcases e.identity with _ | identity
    · exact .idle rfl rfl
    · rcases e.proof with _ | proof
      · exact .idle rfl rfl
      · exact certify_mapping transfer_cases transfer_held

lemma bufferCopy_held {held : Option ℕ} :
    ((gstHevcContentBufferCopy identity copy e p held).maps = false ∧
      (gstHevcContentBufferCopy identity copy e p held).held = held) ∨
    ((gstHevcContentBufferCopy identity copy e p held).maps = true ∧ p.stopped = false ∧
      held = none ∧
      (gstHevcContentBufferCopy identity copy e p held).held = e.transfer.stuck e.length) := by
  rw [gstHevcContentBufferCopy]
  split_ifs
  · exact .inl ⟨rfl, rfl⟩
  · exact transfer_held

lemma gstHevcContentSnapshot_mapping :
    Mapping e p content.held (gstHevcContentSnapshot copy e p content) := by
  rw [gstHevcContentSnapshot]
  split_ifs
  · exact .idle rfl rfl
  · exact .idle rfl rfl
  · exact .idle rfl rfl
  · rcases e.identity with _ | identity
    · exact .idle rfl rfl
    · rcases e.proof with _ | proof
      · exact .idle rfl rfl
      · exact certify_mapping bufferCopy_cases bufferCopy_held

end Snapshots

/-! ### Runs -/

/-- A context of a VA driver, or a Gst decoder. -/
abbrev Handle := Client × ℕ

/-- The pool, what each context keeps for its snapshots, and the contexts that called `mmap` for it,
in order. -/
structure State where
  pool : Pool
  content : Handle → Content
  maps : List Handle

/-- A call: a snapshot of one of the clients, or the end of a lease, which unmaps what is held. -/
inductive Call where
  | va (context : ℕ) (copy : Bool) (e : Env)
  | gst (decoder : ℕ) (copy : Bool) (e : Env)
  | finish (h : Handle) (unmapped : Bool)

/-- The result of a snapshot of one context. -/
@[simps] def State.snapshot (s : State) (h : Handle) (r : Snapshot) : State where
  pool := r.pool
  content := Function.update s.content h r.content
  maps := if r.maps then s.maps ++ [h] else s.maps

/-- One call. -/
def step (s : State) : Call → State
  | .va context copy e => s.snapshot (.va, context)
      (v4l2rContentSnapshot copy e s.pool (s.content (.va, context)))
  | .gst decoder copy e => s.snapshot (.gst, decoder)
      (gstHevcContentSnapshot copy e s.pool (s.content (.gst, decoder)))
  | .finish h unmapped =>
      { s with
        content := Function.update s.content h ((s.content h).unmap unmapped) }

/-- A run. -/
def run (s : State) (calls : List Call) : State := calls.foldl step s

/-- A pool that was just made, with contexts that have been used before. -/
def start (enabled : Bool) (thread : ℕ) (content : Handle → Content) : State where
  pool := contentInit enabled thread
  content := content
  maps := []

namespace Call

/-- The context of the call. -/
def handle : Call → Handle
  | va context _ _ => (.va, context)
  | gst decoder _ _ => (.gst, decoder)
  | finish h _ => h

/-- The call is a snapshot whose checks certify the slot. -/
def Certifies (c : Call) (slot : Slot) : Prop :=
  match c with
  | va _ copy e => Certified copy e slot
  | gst _ copy e => Certified copy e slot
  | finish _ _ => False

/-- The mapping that the call cannot unmap. -/
def stuck : Call → Option ℕ
  | va _ _ e => e.transfer.stuck e.length
  | gst _ _ e => e.transfer.stuck e.length
  | finish _ _ => none

/-- The call ends the lease of a context and unmaps what it holds. -/
def Releases (h : Handle) (c : Call) : Prop := c = finish h true

end Call

section Steps

variable {s : State} {c : Call} {h : Handle} {len k : ℕ} {calls : List Call} {S : Slot → Prop}
  {p p' : Pool}

lemma step_outcome : Outcome c.Certifies s.pool (step s c).pool := by
  cases c with
  | va context copy e => exact v4l2rContentSnapshot_outcome
  | gst decoder copy e => exact gstHevcContentSnapshot_outcome
  | finish h unmapped => exact .kept rfl rfl id

/-- What a call does with mappings. -/
inductive Maps (s : State) (c : Call) : Prop
  | idle (maps : (step s c).maps = s.maps)
      (held : ∀ h, ¬ c.Releases h → ((step s c).content h).held = (s.content h).held)
  | made (maps : (step s c).maps = s.maps ++ [c.handle]) (running : s.pool.stopped = false)
      (free : (s.content c.handle).held = none)
      (held : ∀ h, h ≠ c.handle → (step s c).content h = s.content h)
      (stuck : ((step s c).content c.handle).held = c.stuck)
      (stopped : c.stuck ≠ none → (step s c).pool.stopped = true)

lemma TransferEnv.unmapped_of_stuck {t : TransferEnv} {length : ℕ} (ht : t.stuck length ≠ none) :
    t.unmapped = false := by
  rw [TransferEnv.stuck] at ht
  split_ifs at ht with hboth
  · exact hboth.2
  · exact absurd rfl ht

lemma mapping_snapshot {e : Env} {r : Snapshot} (hm : Mapping e s.pool (s.content h).held r) :
    ((s.snapshot h r).maps = s.maps ∧
      ∀ h', ((s.snapshot h r).content h').held = (s.content h').held) ∨
    ((s.snapshot h r).maps = s.maps ++ [h] ∧ s.pool.stopped = false ∧ (s.content h).held = none ∧
      (∀ h', h' ≠ h → (s.snapshot h r).content h' = s.content h') ∧
      ((s.snapshot h r).content h).held = e.transfer.stuck e.length ∧
      (e.transfer.stuck e.length ≠ none → (s.snapshot h r).pool.stopped = true)) := by
  cases hm with
  | idle maps held_eq =>
      refine .inl ⟨if_neg (Bool.eq_false_iff.mp maps), fun h' => ?_⟩
      by_cases hh : h' = h
      · rw [hh, State.snapshot_content, Function.update_self, held_eq]
      · rw [State.snapshot_content, Function.update_of_ne hh]
  | made maps running free held_eq stopped =>
      refine .inr ⟨if_pos maps, running, free, fun h' hh => Function.update_of_ne hh _ _, ?_,
        fun hstuck => stopped (TransferEnv.unmapped_of_stuck hstuck)⟩
      rw [State.snapshot_content, Function.update_self, held_eq]

lemma step_maps : Maps s c := by
  cases c with
  | va context copy e =>
      have hmapping : Mapping e s.pool (s.content (.va, context)).held
          (v4l2rContentSnapshot copy e s.pool (s.content (.va, context))) :=
        v4l2rContentSnapshot_mapping
      obtain ⟨hmaps, hheld⟩ | ⟨hmaps, hrunning, hfree, hheld, hstuck, hstopped⟩ :=
        mapping_snapshot hmapping
      · exact .idle hmaps fun h _ => hheld h
      · exact .made hmaps hrunning hfree hheld hstuck hstopped
  | gst decoder copy e =>
      have hmapping : Mapping e s.pool (s.content (.gst, decoder)).held
          (gstHevcContentSnapshot copy e s.pool (s.content (.gst, decoder))) :=
        gstHevcContentSnapshot_mapping
      obtain ⟨hmaps, hheld⟩ | ⟨hmaps, hrunning, hfree, hheld, hstuck, hstopped⟩ :=
        mapping_snapshot hmapping
      · exact .idle hmaps fun h _ => hheld h
      · exact .made hmaps hrunning hfree hheld hstuck hstopped
  | finish h unmapped =>
      refine .idle rfl fun h' hrelease => ?_
      change (Function.update s.content h _ h').held = _
      by_cases hh : h' = h
      · subst hh
        rw [Function.update_self, Content.unmap]
        split_ifs with hunmapped
        · exact absurd (congrArg (Call.finish h') hunmapped) hrelease
        · rfl
      · rw [Function.update_of_ne hh]

/-! ### What holds after every call -/

namespace Outcome

lemma used_le (h : Outcome S p p') : p.used ≤ p'.used := by
  cases h with
  | kept used => exact Nat.le_of_eq used.symm
  | consumed _ _ used => omega
  | certified _ _ used => omega

lemma slot_eq (h : Outcome S p p') (hk : k < p.used) : p'.slot k = p.slot k := by
  cases h with
  | kept _ slot => exact congrFun slot k
  | consumed _ _ _ slot => exact slot k (Nat.ne_of_lt hk)
  | certified _ _ _ slot => exact slot k (Nat.ne_of_lt hk)

lemma stopped (h : Outcome S p p') (hp : p.stopped = true) :
    p'.used = p.used ∧ p'.slot = p.slot ∧ p'.stopped = true := by
  cases h with
  | kept used slot stopped => exact ⟨used, slot, stopped hp⟩
  | consumed _ running => exact absurd (hp.symm.trans running) (by decide)
  | certified _ running => exact absurd (hp.symm.trans running) (by decide)

/-- A slot that is valid after the call was valid before, or is the one that the call has
reserved. -/
lemma valid (h : Outcome S p p') (hk : (p'.slot k).valid = true) :
    ((p.slot k).valid = true ∧ p'.slot k = p.slot k) ∨
      (k = p.used ∧ p'.used = k + 1 ∧ S (p'.slot k)) := by
  cases h with
  | kept _ slot => exact .inl ⟨by rw [← slot, hk], congrFun slot k⟩
  | consumed _ _ _ slot valid =>
      by_cases hk' : k = p.used
      · subst hk'
        exact absurd (hk.symm.trans valid) (by decide)
      · exact .inl ⟨by rw [← slot k hk', hk], slot k hk'⟩
  | certified _ _ used slot _ sound =>
      by_cases hk' : k = p.used
      · subst hk'
        exact .inr ⟨rfl, used, sound⟩
      · exact .inl ⟨by rw [← slot k hk', hk], slot k hk'⟩

end Outcome

/-- The slots in use are within the pool, and only they are valid. -/
structure Pool.Ok (p : Pool) : Prop where
  used_le : p.used ≤ contentSlots
  valid_lt : ∀ k, (p.slot k).valid = true → k < p.used

lemma Outcome.ok (h : Outcome S p p') (hp : p.Ok) : p'.Ok := by
  refine ⟨?_, fun k hk => ?_⟩
  · cases h with
    | kept used => exact used ▸ hp.used_le
    | consumed room _ used => omega
    | certified room _ used => omega
  · rcases h.valid hk with ⟨hvalid, -⟩ | ⟨-, hused, -⟩
    · exact Nat.lt_of_lt_of_le (hp.valid_lt k hvalid) h.used_le
    · omega

lemma ok_run (hs : s.pool.Ok) : (run s calls).pool.Ok := by
  induction calls generalizing s with
  | nil => exact hs
  | cons c calls ih => exact ih (step_outcome.ok hs)

lemma used_le_run : s.pool.used ≤ (run s calls).pool.used := by
  induction calls generalizing s with
  | nil => exact Nat.le_refl _
  | cons c calls ih => exact Nat.le_trans step_outcome.used_le ih

lemma slot_run (hk : k < s.pool.used) : (run s calls).pool.slot k = s.pool.slot k := by
  induction calls generalizing s with
  | nil => rfl
  | cons c calls ih =>
      have hstep : Outcome c.Certifies s.pool (step s c).pool := step_outcome
      exact (ih (Nat.lt_of_lt_of_le hk hstep.used_le)).trans (hstep.slot_eq hk)

lemma stopped_run (hs : s.pool.stopped = true) :
    (run s calls).pool.used = s.pool.used ∧ (run s calls).pool.slot = s.pool.slot ∧
      (run s calls).maps = s.maps := by
  induction calls generalizing s with
  | nil => exact ⟨rfl, rfl, rfl⟩
  | cons c calls ih =>
      obtain ⟨hused, hslot, hstopped⟩ := (step_outcome (c := c)).stopped hs
      obtain ⟨hused', hslot', hmaps'⟩ := ih hstopped
      refine ⟨hused'.trans hused, hslot'.trans hslot, hmaps'.trans ?_⟩
      cases step_maps (s := s) (c := c) with
      | idle maps => exact maps
      | made _ running => exact absurd (hs.symm.trans running) (by decide)

/-- A mapping stays held, and none is made for its context, until the end of a lease unmaps it. -/
lemma held_run (hheld : (s.content h).held = some len) (hcalls : ∀ c ∈ calls, ¬ c.Releases h) :
    ((run s calls).content h).held = some len ∧ (run s calls).maps.count h = s.maps.count h := by
  induction calls generalizing s with
  | nil => exact ⟨hheld, rfl⟩
  | cons c calls ih =>
      rw [List.forall_mem_cons] at hcalls
      have hstep : ((step s c).content h).held = some len ∧
          (step s c).maps.count h = s.maps.count h := by
        cases step_maps (s := s) (c := c) with
        | idle maps held => exact ⟨(held h hcalls.1).trans hheld, by rw [maps]⟩
        | made maps _ free held =>
            have hother : h ≠ c.handle := by
              rintro rfl
              exact absurd (hheld.symm.trans free) (Option.some_ne_none len)
            refine ⟨by rw [held h hother, hheld], ?_⟩
            rw [maps, List.count_append, List.count_singleton, if_neg fun heq => hother ?_,
              Nat.add_zero]
            exact (eq_of_beq heq).symm
      obtain ⟨hrun, hmaps⟩ := ih hstep.1 hcalls.2
      exact ⟨hrun, hmaps.trans hstep.2⟩

lemma run_concat : run s (calls ++ [c]) = step (run s calls) c := by
  rw [run, List.foldl_append]
  rfl

/-- Every valid slot was certified by the call that reserved it. -/
lemma valid_run (hs : ∀ k, (s.pool.slot k).valid = false)
    (hk : ((run s calls).pool.slot k).valid = true) :
    ∃ before c after, calls = before ++ c :: after ∧ (run s before).pool.used = k ∧
      (run s (before ++ [c])).pool.used = k + 1 ∧ c.Certifies ((run s calls).pool.slot k) := by
  induction calls using List.reverseRecOn with
  | nil => exact absurd (hk.symm.trans (hs k)) (by decide)
  | append_singleton calls c ih =>
      rw [run_concat] at hk ⊢
      rcases (step_outcome (c := c)).valid hk with ⟨hvalid, hslot⟩ | ⟨hused, hused', hsound⟩
      · obtain ⟨before, c', after, hcalls, hrest⟩ := ih hvalid
        refine ⟨before, c', after ++ [c], ?_, ?_⟩
        · rw [hcalls, List.append_assoc, List.cons_append]
        · rw [hslot]
          exact hrest
      · refine ⟨calls, c, [], rfl, hused.symm, ?_, hsound⟩
        rw [run_concat]
        exact hused'

end Steps

/-- **The content pool is append-only and fails closed**, in every run of snapshots and ends of
leases on a pool that was just made. -/
theorem content_pool_append_only (enabled : Bool) (thread : ℕ) (content : Handle → Content)
    (calls more : List Call) :
    let s₀ := start enabled thread content
    let s := run s₀ calls
    let s' := run s more
    s.pool.used ≤ s'.pool.used ∧ s'.pool.used ≤ contentSlots ∧
    (∀ k, (s.pool.slot k).valid = true → s'.pool.slot k = s.pool.slot k) ∧
    (s.pool.stopped = true → s'.pool.used = s.pool.used ∧ s'.pool.slot = s.pool.slot) ∧
    (∀ k, (s.pool.slot k).valid = true →
      ∃ before c after, calls = before ++ c :: after ∧ (run s₀ before).pool.used = k ∧
        (run s₀ (before ++ [c])).pool.used = k + 1 ∧ c.Certifies (s.pool.slot k)) ∧
    (∀ before c len, calls = before ++ [c] → s.maps ≠ (run s₀ before).maps → c.stuck = some len →
      (s.content c.handle).held = some len ∧ s'.maps = s.maps) ∧
    (∀ h len, (s.content h).held = some len → (∀ c ∈ more, ¬ c.Releases h) →
      (s'.content h).held = some len ∧ s'.maps.count h = s.maps.count h) := by
  intro s₀ s s'
  have hok : s.pool.Ok := ok_run ⟨Nat.zero_le _, fun k hk => absurd hk Bool.false_ne_true⟩
  refine ⟨used_le_run, (ok_run hok).used_le, fun k hk => slot_run (hok.valid_lt k hk),
    fun hstopped => ⟨(stopped_run hstopped).1, (stopped_run hstopped).2.1⟩,
    fun k hk => valid_run (fun _ => rfl) hk, fun before c len hcalls hmaps hstuck => ?_,
    fun h len hheld hmore => held_run hheld hmore⟩
  have hlast : s = step (run s₀ before) c := by
    rw [show s = run s₀ calls from rfl, hcalls, run_concat]
  rw [hlast] at hmaps
  cases step_maps (s := run s₀ before) (c := c) with
  | idle maps => exact absurd maps hmaps
  | made _ _ _ _ hheld stopped =>
      rw [← hlast] at hheld stopped
      exact ⟨hheld.trans hstuck,
        (stopped_run (stopped (hstuck ▸ Option.some_ne_none len))).2.2⟩

end OmarchyM1Video.ReferenceContent
