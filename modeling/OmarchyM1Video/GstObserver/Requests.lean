import Mathlib.Data.List.Induction
import OmarchyM1Video.GstObserver.Model

/-!
The references to requests, and the requests that are not queued.

A request is referenced by its callers, by the pending requests and by a lease.  `ref_count` is never
less than these together, so that a request is recycled only when it is none of these.  And
`observer_unqueued` is the number of requests of a decoder that are in use and were not submitted.

* `Inv`: the invariant, and `SameAccounts`: what it does not look at;
* `Inv.requestUnref`, `Inv.submit`, `Inv.retire`: a reference is given back, a request is submitted and
  is taken from the pending ones;
* `Spare`: a request has references beside those that are counted, and keeps them while others are
  retired.
-/

namespace OmarchyM1Video.GstObserver

variable {s s' s'' : State} {d r : ℕ}

/-! ### The invariant -/

/-- The references that the decoder holds to its own request. -/
def holds (x : Decoder) (r : ℕ) : ℕ :=
  (if r ∈ x.pending then 1 else 0) + if x.lease ≠ 0 ∧ x.request = some r then 1 else 0

/-- The request is in use and was not submitted. -/
def Building (s : State) (d r : ℕ) : Prop :=
  0 < (s.req r).refCount ∧ (s.req r).submitted = false ∧ (s.req r).decoder = d

/-- `observer_unqueued` counts the requests that are being built. -/
def Counted (s : State) (d : ℕ) : Prop :=
  ∃ l : List ℕ, l.Nodup ∧ (∀ r, r ∈ l ↔ Building s d r) ∧ l.length = (s.dec d).unqueued

structure Inv (s : State) : Prop where
  refs : ∀ r, (s.req r).owned + holds (s.dec (s.req r).decoder) r ≤ (s.req r).refCount
  nodup : ∀ d, (s.dec d).pending.Nodup
  pending : ∀ d, ∀ r ∈ (s.dec d).pending, (s.req r).decoder = d ∧ (s.req r).submitted = true
  counted : ∀ d, Counted s d
  ending : ∀ d, (s.dec d).ending = false
  session : ∀ d, (s.dec d).lease ≠ 0 → (s.dec d).session ≠ 0
  bufLive : ∀ b, (s.buf b).generation ≠ 0 → (s.buf b).live = true
  allocLive : ∀ b, (s.buf b).live = true → (s.alloc (s.buf b).alloc).live = true

/-- The states do not differ in what the invariant looks at. -/
structure SameAccounts (s s' : State) : Prop where
  refCount : ∀ r, (s'.req r).refCount = (s.req r).refCount
  owned : ∀ r, (s'.req r).owned = (s.req r).owned
  decoder : ∀ r, (s'.req r).decoder = (s.req r).decoder
  submitted : ∀ r, (s'.req r).submitted = (s.req r).submitted
  pending : ∀ d, (s'.dec d).pending = (s.dec d).pending
  unqueued : ∀ d, (s'.dec d).unqueued = (s.dec d).unqueued
  lease : ∀ d, (s'.dec d).lease = (s.dec d).lease
  request : ∀ d, (s'.dec d).request = (s.dec d).request
  ending : ∀ d, (s'.dec d).ending = (s.dec d).ending
  session : ∀ d, (s'.dec d).lease ≠ 0 → (s'.dec d).session = (s.dec d).session
  bufGeneration : ∀ b, (s'.buf b).generation = (s.buf b).generation
  bufLive : ∀ b, (s'.buf b).live = (s.buf b).live
  bufAlloc : ∀ b, (s'.buf b).alloc = (s.buf b).alloc
  allocLive : ∀ a, (s'.alloc a).live = (s.alloc a).live

lemma SameAccounts.refl (s : State) : SameAccounts s s :=
  ⟨fun _ => rfl, fun _ => rfl, fun _ => rfl, fun _ => rfl, fun _ => rfl, fun _ => rfl, fun _ => rfl,
    fun _ => rfl, fun _ => rfl, fun _ _ => rfl, fun _ => rfl, fun _ => rfl, fun _ => rfl, fun _ => rfl⟩

lemma SameAccounts.trans (h : SameAccounts s s') (h' : SameAccounts s' s'') : SameAccounts s s'' where
  refCount r := (h'.refCount r).trans (h.refCount r)
  owned r := (h'.owned r).trans (h.owned r)
  decoder r := (h'.decoder r).trans (h.decoder r)
  submitted r := (h'.submitted r).trans (h.submitted r)
  pending d := (h'.pending d).trans (h.pending d)
  unqueued d := (h'.unqueued d).trans (h.unqueued d)
  lease d := (h'.lease d).trans (h.lease d)
  request d := (h'.request d).trans (h.request d)
  ending d := (h'.ending d).trans (h.ending d)
  session d hl := (h'.session d hl).trans (h.session d (by rwa [← h'.lease d]))
  bufGeneration b := (h'.bufGeneration b).trans (h.bufGeneration b)
  bufLive b := (h'.bufLive b).trans (h.bufLive b)
  bufAlloc b := (h'.bufAlloc b).trans (h.bufAlloc b)
  allocLive a := (h'.allocLive a).trans (h.allocLive a)

lemma SameAccounts.holds (h : SameAccounts s s') (d r : ℕ) :
    GstObserver.holds (s'.dec d) r = GstObserver.holds (s.dec d) r := by
  rw [GstObserver.holds, GstObserver.holds, h.pending, h.lease, h.request]

lemma SameAccounts.inv (h : SameAccounts s s') (hs : Inv s) : Inv s' where
  refs r := by
    rw [h.owned, h.decoder, h.refCount, h.holds]
    exact hs.refs r
  nodup d := by
    rw [h.pending]
    exact hs.nodup d
  pending d r hr := by
    rw [h.pending] at hr
    rw [h.decoder, h.submitted]
    exact hs.pending d r hr
  counted d := by
    obtain ⟨l, hnodup, hmem, hlength⟩ := hs.counted d
    refine ⟨l, hnodup, fun r => ?_, by rw [hlength, h.unqueued]⟩
    rw [hmem, Building, Building, h.refCount, h.submitted, h.decoder]
  ending d := by rw [h.ending, hs.ending]
  session d hl := by
    rw [h.session d hl]
    rw [h.lease] at hl
    exact hs.session d hl
  bufLive b hb := by
    rw [h.bufGeneration] at hb
    rw [h.bufLive]
    exact hs.bufLive b hb
  allocLive b hb := by
    rw [h.bufLive] at hb
    rw [h.bufAlloc, h.allocLive]
    exact hs.allocLive b hb

/-! ### Changes that the invariant does not look at -/

lemma SameAccounts.setDec {x : Decoder} (hpending : x.pending = (s.dec d).pending)
    (hunqueued : x.unqueued = (s.dec d).unqueued) (hlease : x.lease = (s.dec d).lease)
    (hrequest : x.request = (s.dec d).request) (hending : x.ending = (s.dec d).ending)
    (hsession : x.lease ≠ 0 → x.session = (s.dec d).session) : SameAccounts s (s.setDec d x) := by
  have hdec : ∀ {α : Type} (f : Decoder → α), f x = f (s.dec d) →
      ∀ d', f ((s.setDec d x).dec d') = f (s.dec d') := by
    intro α f hf d'
    by_cases hd : d' = d
    · rw [hd, State.setDec_dec, Function.update_self, hf]
    · rw [State.setDec_dec, Function.update_of_ne hd]
  refine ⟨fun _ => rfl, fun _ => rfl, fun _ => rfl, fun _ => rfl, hdec _ hpending, hdec _ hunqueued,
    hdec _ hlease, hdec _ hrequest, hdec _ hending, fun d' hl => ?_, fun _ => rfl, fun _ => rfl,
    fun _ => rfl, fun _ => rfl⟩
  by_cases hd : d' = d
  · rw [hd, State.setDec_dec, Function.update_self] at hl ⊢
    exact hsession hl
  · rw [State.setDec_dec, Function.update_of_ne hd]

lemma SameAccounts.setReq {x : Request} (hrefCount : x.refCount = (s.req r).refCount)
    (howned : x.owned = (s.req r).owned) (hdecoder : x.decoder = (s.req r).decoder)
    (hsubmitted : x.submitted = (s.req r).submitted) : SameAccounts s (s.setReq r x) := by
  have hreq : ∀ {α : Type} (f : Request → α), f x = f (s.req r) →
      ∀ r', f ((s.setReq r x).req r') = f (s.req r') := by
    intro α f hf r'
    by_cases hr : r' = r
    · rw [hr, State.setReq_req, Function.update_self, hf]
    · rw [State.setReq_req, Function.update_of_ne hr]
  exact ⟨hreq _ hrefCount, hreq _ howned, hreq _ hdecoder, hreq _ hsubmitted, fun _ => rfl,
    fun _ => rfl, fun _ => rfl, fun _ => rfl, fun _ => rfl, fun _ _ => rfl, fun _ => rfl, fun _ => rfl,
    fun _ => rfl, fun _ => rfl⟩

lemma SameAccounts.setBuf {b : ℕ} {x : CodecBuf} (hgeneration : x.generation = (s.buf b).generation)
    (hlive : x.live = (s.buf b).live) (halloc : x.alloc = (s.buf b).alloc) :
    SameAccounts s (s.setBuf b x) := by
  have hbuf : ∀ {α : Type} (f : CodecBuf → α), f x = f (s.buf b) →
      ∀ b', f ((s.setBuf b x).buf b') = f (s.buf b') := by
    intro α f hf b'
    by_cases hb : b' = b
    · rw [hb, State.setBuf_buf, Function.update_self, hf]
    · rw [State.setBuf_buf, Function.update_of_ne hb]
  exact ⟨fun _ => rfl, fun _ => rfl, fun _ => rfl, fun _ => rfl, fun _ => rfl, fun _ => rfl,
    fun _ => rfl, fun _ => rfl, fun _ => rfl, fun _ _ => rfl, hbuf _ hgeneration, hbuf _ hlive,
    hbuf _ halloc, fun _ => rfl⟩

lemma SameAccounts.generate (s : State) : SameAccounts s s.generate := by
  obtain ⟨h₁, h₂, h₃, h₄, h₅, h₆, h₇, h₈, h₉, h₁₀, h₁₁, h₁₂, h₁₃, h₁₄⟩ := SameAccounts.refl s
  exact ⟨h₁, h₂, h₃, h₄, h₅, h₆, h₇, h₈, h₉, h₁₀, h₁₁, h₁₂, h₁₃, h₁₄⟩

lemma setFailed_same (s : State) (d : ℕ) : SameAccounts s (setFailed s d) :=
  SameAccounts.setDec rfl rfl rfl rfl rfl fun _ => rfl

lemma bufferWriter_same (s : State) (buffer : Option (List Mem)) (d writer : ℕ) (completed : Bool) :
    SameAccounts s (bufferWriter s buffer d writer completed) := by
  rw [bufferWriter]
  rcases buffer.bind fun buffer => observerBuffer s buffer d with _ | b
  · exact SameAccounts.refl s
  · simp only
    split_ifs
    · exact SameAccounts.setBuf rfl rfl rfl
    · exact SameAccounts.refl s
    · exact SameAccounts.setBuf rfl rfl rfl

lemma publishMem_same (s : State) (m : Mem) : SameAccounts s (publishMem s m) := by
  cases m with
  | plane b i => exact SameAccounts.setBuf rfl rfl rfl
  | share parent => exact SameAccounts.refl s
  | foreign => exact SameAccounts.refl s

lemma bufferPublish_same (s : State) (buffer : List Mem) :
    SameAccounts s (bufferPublish s buffer) := by
  induction buffer generalizing s with
  | nil => exact SameAccounts.refl s
  | cons m buffer ih => exact (publishMem_same s m).trans (ih _)

lemma observerTrace_same (s : State) (r : ℕ) : SameAccounts s (observerTrace s r) := by
  rw [observerTrace]
  split_ifs
  · exact SameAccounts.refl s
  · rcases observerSelection s (s.req r).decoder r with _ | ⟨target, frame, index, sizes⟩
    · exact SameAccounts.refl s
    · exact SameAccounts.setDec rfl rfl rfl rfl rfl fun _ => rfl

/-! ### Counting -/

lemma Counted.congr (h : Counted s d) (hbuilding : ∀ r, Building s' d r ↔ Building s d r)
    (hunqueued : (s'.dec d).unqueued = (s.dec d).unqueued) : Counted s' d := by
  obtain ⟨l, hnodup, hmem, hlength⟩ := h
  exact ⟨l, hnodup, fun r => by rw [hmem, hbuilding], by rw [hlength, hunqueued]⟩

lemma Counted.erase (h : Counted s d) (hr : Building s d r)
    (hbuilding : ∀ r', Building s' d r' ↔ r' ≠ r ∧ Building s d r')
    (hunqueued : (s'.dec d).unqueued = (s.dec d).unqueued - 1) : Counted s' d := by
  obtain ⟨l, hnodup, hmem, hlength⟩ := h
  refine ⟨l.erase r, hnodup.erase r, fun r' => ?_, ?_⟩
  · rw [hnodup.mem_erase_iff, hmem, hbuilding]
  · rw [List.length_erase_of_mem ((hmem r).mpr hr), hlength, hunqueued]

lemma Counted.insert (h : Counted s d) (hr : ¬ Building s d r)
    (hbuilding : ∀ r', Building s' d r' ↔ r' = r ∨ Building s d r')
    (hunqueued : (s'.dec d).unqueued = (s.dec d).unqueued + 1) : Counted s' d := by
  obtain ⟨l, hnodup, hmem, hlength⟩ := h
  refine ⟨r :: l, List.nodup_cons.mpr ⟨fun hl => hr ((hmem r).mp hl), hnodup⟩, fun r' => ?_, ?_⟩
  · rw [List.mem_cons, hmem, hbuilding]
  · rw [List.length_cons, hlength, hunqueued]

/-- Nothing is being built if nothing is counted. -/
lemma Counted.not_building (h : Counted s d) (hzero : (s.dec d).unqueued = 0) (r : ℕ) :
    ¬ Building s d r := by
  obtain ⟨l, -, hmem, hlength⟩ := h
  rw [hzero, List.length_eq_zero_iff] at hlength
  rw [← hmem, hlength]
  exact List.not_mem_nil

/-! ### References -/

/-- The references to a request change. -/
lemma Inv.setReq (h : Inv s) {x : Request} (hdecoder : x.decoder = (s.req r).decoder)
    (hsubmitted : x.submitted = (s.req r).submitted)
    (hbuilding : (0 < x.refCount ∧ x.submitted = false) ↔
      (0 < (s.req r).refCount ∧ (s.req r).submitted = false))
    (hrefs : x.owned + holds (s.dec (s.req r).decoder) r ≤ x.refCount) : Inv (s.setReq r x) := by
  have hreq : ∀ r', r' ≠ r → (s.setReq r x).req r' = s.req r' := fun r' hr => by
    rw [State.setReq_req, Function.update_of_ne hr]
  have hself : (s.setReq r x).req r = x := by rw [State.setReq_req, Function.update_self]
  refine { h with refs := fun r' => ?_, pending := fun d r' hr' => ?_, counted := fun d => ?_ }
  · by_cases hr : r' = r
    · rw [hr, hself, State.setReq_dec, hdecoder]
      exact hrefs
    · rw [hreq r' hr]
      exact h.refs r'
  · by_cases hr : r' = r
    · subst hr
      rw [hself, hdecoder, hsubmitted]
      exact h.pending d r' hr'
    · rw [hreq r' hr]
      exact h.pending d r' hr'
  · refine (h.counted d).congr (fun r' => ?_) rfl
    by_cases hr : r' = r
    · rw [hr, Building, Building, hself, hdecoder, ← and_assoc, ← and_assoc, hbuilding]
    · rw [Building, Building, hreq r' hr]

lemma State.setReq_setDec (s : State) (r d : ℕ) (x : Request) (y : Decoder) :
    (s.setReq r x).setDec d y = (s.setDec d y).setReq r x := rfl

lemma building_update {x : Request} {y : Decoder} (hdecoder : x.decoder = d) {r' : ℕ} :
    Building ((s.setReq r x).setDec d y) d r' ↔
      if r' = r then 0 < x.refCount ∧ x.submitted = false else Building s d r' := by
  by_cases hr : r' = r
  · simp [Building, hr, hdecoder]
  · simp [Building, hr]

/-- A request and its decoder change. -/
lemma Inv.update (h : Inv s) {x : Request} {y : Decoder}
    (hold : (s.req r).decoder = d ∨ (s.req r).refCount = 0) (hdecoder : x.decoder = d)
    (hrefs : x.owned + holds y r ≤ x.refCount)
    (hholds : ∀ r', r' ≠ r → (s.req r').decoder = d → holds y r' ≤ holds (s.dec d) r')
    (hnodup : y.pending.Nodup)
    (hmem : ∀ r' ∈ y.pending, r' = r ∧ x.submitted = true ∨ r' ≠ r ∧ r' ∈ (s.dec d).pending)
    (hcounted : Counted ((s.setReq r x).setDec d y) d) (hending : y.ending = false)
    (hsession : y.lease ≠ 0 → y.session ≠ 0) : Inv ((s.setReq r x).setDec d y) := by
  have hdec : ∀ d', d' ≠ d → ((s.setReq r x).setDec d y).dec d' = s.dec d' := fun d' hd => by
    rw [State.setDec_dec, Function.update_of_ne hd, State.setReq_dec]
  have hself : ((s.setReq r x).setDec d y).dec d = y := by
    rw [State.setDec_dec, Function.update_self]
  have hreq : ∀ r', r' ≠ r → ((s.setReq r x).setDec d y).req r' = s.req r' := fun r' hr => by
    rw [State.setDec_req, State.setReq_req, Function.update_of_ne hr]
  have hx : ((s.setReq r x).setDec d y).req r = x := by
    rw [State.setDec_req, State.setReq_req, Function.update_self]
  -- The request is not one of another decoder.
  have hother : ∀ d', d' ≠ d → r ∉ (s.dec d').pending ∧ ¬ Building s d' r := by
    intro d' hd
    constructor
    · intro hr
      have hd' := (h.pending d' r hr).1
      rcases hold with hold | hzero
      · exact hd (hd'.symm.trans hold)
      · have hrefs' := h.refs r
        rw [hd', hzero, holds, if_pos hr] at hrefs'
        omega
    · rintro ⟨hlive, -, hd'⟩
      rcases hold with hold | hzero
      · exact hd (hd'.symm.trans hold)
      · omega
  refine
    { refs := fun r' => ?_
      nodup := fun d' => ?_
      pending := fun d' r' hr' => ?_
      counted := fun d' => ?_
      ending := fun d' => ?_
      session := fun d' hl => ?_
      bufLive := h.bufLive
      allocLive := h.allocLive }
  · by_cases hr : r' = r
    · rw [hr, hx, hdecoder, hself]
      exact hrefs
    · rw [hreq r' hr]
      by_cases hd : (s.req r').decoder = d
      · have hrefs' := h.refs r'
        have hholds' := hholds r' hr hd
        rw [hd] at hrefs'
        rw [hd, hself]
        omega
      · rw [hdec _ hd]
        exact h.refs r'
  · by_cases hd : d' = d
    · rw [hd, hself]
      exact hnodup
    · rw [hdec d' hd]
      exact h.nodup d'
  · by_cases hd : d' = d
    · subst hd
      rw [hself] at hr'
      rcases hmem r' hr' with ⟨rfl, hsubmitted⟩ | ⟨hr, hold'⟩
      · rw [hx]
        exact ⟨hdecoder, hsubmitted⟩
      · rw [hreq r' hr]
        exact h.pending d' r' hold'
    · rw [hdec d' hd] at hr'
      have hr : r' ≠ r := by
        rintro rfl
        exact (hother d' hd).1 hr'
      rw [hreq r' hr]
      exact h.pending d' r' hr'
  · by_cases hd : d' = d
    · rw [hd]
      exact hcounted
    · refine (h.counted d').congr (fun r' => ?_) (by rw [hdec d' hd])
      by_cases hr : r' = r
      · subst hr
        refine iff_of_false ?_ (hother d' hd).2
        rw [Building, hx, hdecoder]
        exact fun hb => hd hb.2.2.symm
      · rw [Building, Building, hreq r' hr]
  · by_cases hd : d' = d
    · rw [hd, hself]
      exact hending
    · rw [hdec d' hd]
      exact h.ending d'
  · by_cases hd : d' = d
    · rw [hd, hself] at hl ⊢
      exact hsession hl
    · rw [hdec d' hd] at hl ⊢
      exact h.session d' hl

lemma Inv.requestRef (h : Inv s) (hlive : 0 < (s.req r).refCount) : Inv (requestRef s r) := by
  refine h.setReq rfl rfl ?_ (Nat.le_succ_of_le (h.refs r))
  simp [hlive]

/-- A caller has one more reference. -/
lemma Inv.ownRef (h : Inv s) (howned : 0 < (s.req r).owned) :
    Inv (GstObserver.requestRef (s.setReq r { s.req r with owned := (s.req r).owned + 1 }) r) := by
  have hrefs := h.refs r
  have hlive : 0 < (s.req r).refCount := by omega
  have heq : GstObserver.requestRef (s.setReq r { s.req r with owned := (s.req r).owned + 1 }) r =
      s.setReq r { s.req r with owned := (s.req r).owned + 1, refCount := (s.req r).refCount + 1 } := by
    simp [GstObserver.requestRef, State.setReq]
  rw [heq]
  refine h.setReq rfl rfl (by simp [hlive]) ?_
  simp only
  omega

/-- **A reference is given back** that is not one of those that are counted. -/
lemma Inv.requestUnref (h : Inv s)
    (hspare : (s.req r).owned + holds (s.dec (s.req r).decoder) r + 1 ≤ (s.req r).refCount) :
    Inv (requestUnref s r) := by
  rw [GstObserver.requestUnref]
  simp only
  split_ifs with hmore hsubmitted
  · refine h.setReq rfl rfl ?_ ?_
    · simp only
      constructor <;> rintro ⟨-, hnot⟩ <;> exact ⟨by omega, hnot⟩
    · simp only
      omega
  · refine h.setReq rfl rfl (by simp [hsubmitted]) ?_
    simp only
    omega
  · -- The request was not submitted, and is not counted any more.
    rw [Bool.not_eq_true] at hsubmitted
    have hone : (s.req r).refCount = 1 := by omega
    rw [← State.setReq_setDec]
    refine h.update (Or.inl rfl) rfl ?_ (fun r' _ _ => Nat.le_refl _) (h.nodup _)
      (fun r' hr' => ?_) ?_ (h.ending _) (h.session _)
    · have hholds : holds (s.dec (s.req r).decoder) r = 0 := by omega
      simp only [holds] at hholds ⊢
      omega
    · refine Or.inr ⟨?_, hr'⟩
      rintro rfl
      rw [(h.pending _ r' hr').2] at hsubmitted
      exact absurd hsubmitted (by simp)
    · refine (h.counted _).erase ⟨by omega, hsubmitted, rfl⟩ (fun r' => ?_) (by simp)
      rw [building_update rfl]
      by_cases hr : r' = r
      · simp [hr]
      · simp [hr]

/-! ### The life of a request -/

lemma Decoder.lease_of_not_busy {x : Decoder} (h : x.busy = false) : x.lease = 0 := by
  simp only [Decoder.busy, Bool.or_eq_false_iff, bne_eq_false_iff_eq] at h
  exact h.1

/-- A request that no one refers to is not pending. -/
lemma Inv.not_pending (h : Inv s) (hzero : (s.req r).refCount = 0) : r ∉ (s.dec d).pending := by
  intro hr
  have hrefs := h.refs r
  rw [(h.pending d r hr).1, hzero, holds, if_pos hr] at hrefs
  omega

/-- **A request is made.** -/
lemma Inv.allocate (h : Inv s) (hbusy : (s.dec d).busy = false) (hzero : (s.req r).refCount = 0)
    {x : Request} {y : Decoder} (hdecoder : x.decoder = d) (hrefCount : x.refCount = 1)
    (howned : x.owned = 1) (hsubmitted : x.submitted = false)
    (hpending : y.pending = (s.dec d).pending) (hunqueued : y.unqueued = (s.dec d).unqueued + 1)
    (hlease : y.lease = (s.dec d).lease) (hrequest : y.request = (s.dec d).request)
    (hending : y.ending = (s.dec d).ending) : Inv ((s.setReq r x).setDec d y) := by
  have hnot := h.not_pending hzero (d := d)
  have hfree := Decoder.lease_of_not_busy hbusy
  refine h.update (Or.inr hzero) hdecoder ?_ (fun r' _ _ => ?_) (by rw [hpending]; exact h.nodup d)
    (fun r' hr' => ?_) ?_ (by rw [hending, h.ending]) fun hl => absurd (hlease.trans hfree) hl
  · rw [holds, hpending, if_neg hnot, hlease, hfree, howned, hrefCount]
    simp
  · refine Nat.le_of_eq ?_
    rw [holds, holds, hpending, hlease, hrequest]
  · rw [hpending] at hr'
    refine Or.inr ⟨?_, hr'⟩
    rintro rfl
    exact hnot hr'
  · have hbuilding : ¬ Building s d r := fun hb => absurd hb.1 (by omega)
    refine (h.counted d).insert hbuilding (fun r' => ?_) (by simp [hunqueued])
    · rw [building_update hdecoder]
      by_cases hr : r' = r
      · simp [hr, hrefCount, hsubmitted]
      · simp [hr]

/-- What `submit` leaves of the accounts. -/
lemma submit_eq (s : State) (r : ℕ) (hold : Bool) :
    ∃ s₂, SameAccounts (((s.setReq r { s.req r with submitted := true, writer := s.next }).setDec
        (s.req r).decoder
        { s.dec (s.req r).decoder with
          unqueued := (s.dec (s.req r).decoder).unqueued - 1
          submitted := (s.dec (s.req r).decoder).submitted + 1 })) s₂ ∧
      submit s r hold = (s₂.setReq r
        { s₂.req r with
          refCount := (s₂.req r).refCount + 1, pending := true
          holdPicBuf := (s₂.req r).holdPicBuf || hold }).setDec (s.req r).decoder
        { s₂.dec (s.req r).decoder with
          pending := (s₂.dec (s.req r).decoder).pending ++ [r] } := by
  refine ⟨_, ?_, rfl⟩
  exact ((SameAccounts.generate _).trans (bufferWriter_same _ _ _ _ _)).trans (observerTrace_same _ _)

/-- **A request is submitted**: it is pending, and not counted any more. -/
lemma Inv.submit (h : Inv s) (hlive : 0 < (s.req r).refCount)
    (hsubmitted : (s.req r).submitted = false) (hold : Bool) : Inv (submit s r hold) := by
  have hnot : r ∉ (s.dec (s.req r).decoder).pending := by
    intro hr
    rw [(h.pending _ r hr).2] at hsubmitted
    exact absurd hsubmitted (by simp)
  obtain ⟨s₂, hsame, heq⟩ := submit_eq s r hold
  have h₁ : Inv ((s.setReq r { s.req r with submitted := true, writer := s.next }).setDec
      (s.req r).decoder
      { s.dec (s.req r).decoder with
        unqueued := (s.dec (s.req r).decoder).unqueued - 1
        submitted := (s.dec (s.req r).decoder).submitted + 1 }) := by
    refine h.update (Or.inl rfl) rfl (h.refs r) (fun r' _ _ => Nat.le_refl _) (h.nodup _)
      (fun r' hr' => ?_) ?_ (h.ending _) (h.session _)
    · refine Or.inr ⟨?_, hr'⟩
      rintro rfl
      exact hnot hr'
    · refine (h.counted _).erase ⟨hlive, hsubmitted, rfl⟩ (fun r' => ?_) (by simp)
      rw [building_update rfl]
      by_cases hr : r' = r
      · simp [hr]
      · simp [hr]
  have h₂ := hsame.inv h₁
  have hdecoder : (s₂.req r).decoder = (s.req r).decoder := by simp [hsame.decoder]
  have hsub : (s₂.req r).submitted = true := by simp [hsame.submitted]
  have hpending : r ∉ (s₂.dec (s.req r).decoder).pending := by simpa [hsame.pending] using hnot
  rw [heq]
  refine h₂.update (Or.inl hdecoder) hdecoder ?_ (fun r' hr _ => ?_) ?_ (fun r' hr' => ?_) ?_
    (h₂.ending _) (h₂.session _)
  · have hrefs := h₂.refs r
    rw [hdecoder, holds, if_neg hpending] at hrefs
    simp only [holds, List.mem_append, List.mem_singleton, or_true, if_true]
    omega
  · simp [holds, hr]
  · rw [List.nodup_append]
    exact ⟨h₂.nodup _, by simp, fun a ha b hb => by
      rintro rfl
      rw [List.mem_singleton.mp hb] at ha
      exact hpending ha⟩
  · rcases List.mem_append.mp hr' with hr' | hr'
    · refine Or.inr ⟨?_, hr'⟩
      rintro rfl
      exact hpending hr'
    · exact Or.inl ⟨List.mem_singleton.mp hr', hsub⟩
  · refine (h₂.counted _).congr (fun r' => Iff.trans (building_update ?_) ?_) (by simp)
    · exact hdecoder
    by_cases hr : r' = r
    · simp [hr, Building, hsub]
    · simp [hr]

lemma holds_pop_self {x y : Decoder} {p : ℕ} {rest : List ℕ} (hx : x.pending = p :: rest)
    (hy : y.pending = rest) (hlease : y.lease = x.lease) (hrequest : y.request = x.request)
    (hnot : p ∉ rest) : holds x p = holds y p + 1 := by
  rw [holds, holds, hx, hy, hlease, hrequest, if_pos List.mem_cons_self, if_neg hnot]
  omega

lemma holds_pop_of_ne {x y : Decoder} {p : ℕ} {rest : List ℕ} (hx : x.pending = p :: rest)
    (hy : y.pending = rest) (hlease : y.lease = x.lease) (hrequest : y.request = x.request)
    (hne : r ≠ p) : holds y r = holds x r := by
  have hmem : r ∈ p :: rest ↔ r ∈ rest := by simp [hne]
  rw [holds, holds, hx, hy, hlease, hrequest, if_congr hmem rfl rfl]

/-- The head of the pending requests is taken, and has a reference to spare. -/
lemma Inv.pop (h : Inv s) {p : ℕ} {rest : List ℕ} (hpending : (s.dec d).pending = p :: rest)
    {x : Request} {y : Decoder} (hdecoder : x.decoder = (s.req p).decoder)
    (hrefCount : x.refCount = (s.req p).refCount) (howned : x.owned = (s.req p).owned)
    (hsubmitted : x.submitted = (s.req p).submitted) (hrest : y.pending = rest)
    (hunqueued : y.unqueued = (s.dec d).unqueued) (hlease : y.lease = (s.dec d).lease)
    (hrequest : y.request = (s.dec d).request) (hending : y.ending = (s.dec d).ending)
    (hsession : y.lease ≠ 0 → y.session = (s.dec d).session) :
    Inv ((s.setReq p x).setDec d y) ∧ x.owned + holds y p + 1 ≤ x.refCount := by
  have hmem : p ∈ (s.dec d).pending := by simp [hpending]
  obtain ⟨hpd, hsub⟩ := h.pending d p hmem
  have hnodup := h.nodup d
  rw [hpending, List.nodup_cons] at hnodup
  have hspare : x.owned + holds y p + 1 ≤ x.refCount := by
    have hrefs := h.refs p
    have hholds := holds_pop_self hpending hrest hlease hrequest hnodup.1
    rw [hpd] at hrefs
    omega
  refine ⟨?_, hspare⟩
  refine h.update (Or.inl hpd) (hdecoder.trans hpd) (by omega) (fun r' hr _ => ?_)
    (by rw [hrest]; exact hnodup.2) (fun r' hr' => ?_) ?_ (by rw [hending, h.ending]) fun hl => ?_
  · exact Nat.le_of_eq (holds_pop_of_ne hpending hrest hlease hrequest hr)
  · rw [hrest] at hr'
    refine Or.inr ⟨?_, by simp [hpending, hr']⟩
    rintro rfl
    exact hnodup.1 hr'
  · refine (h.counted d).congr (fun r' => Iff.trans (building_update (hdecoder.trans hpd)) ?_)
      (by simp [hunqueued])
    by_cases hr : r' = p
    · simp [hr, Building, hsubmitted, hsub]
    · simp [hr]
  · rw [hsession hl]
    exact h.session d (hlease ▸ hl)

lemma requestUnref_pending (s : State) (r d : ℕ) :
    ((requestUnref s r).dec d).pending = (s.dec d).pending := by
  have hset : ∀ d', ((s.setDec d' { s.dec d' with unqueued := (s.dec d').unqueued - 1 }).dec d).pending =
      (s.dec d).pending := by
    intro d'
    by_cases hd : d = d'
    · simp [hd]
    · simp [hd]
  rw [requestUnref]
  simp only
  split_ifs
  · rfl
  · rfl
  · exact hset _

/-- **A request is taken from the pending ones.** -/
lemma Inv.retire (h : Inv s) {p : ℕ} {rest : List ℕ} (hpending : (s.dec d).pending = p :: rest)
    (e : Dequeued) : Inv (retire s d p rest e) ∧ ((retire s d p rest e).dec d).pending = rest := by
  have hpd := (h.pending d p (by simp [hpending])).1
  rw [GstObserver.retire]
  generalize dequeueFails s (s.req p) e = failed
  have hpop := h.pop hpending (x := (s.req p).retired failed)
    (y := (s.dec d).retireHead rest failed) rfl rfl rfl rfl rfl rfl rfl rfl rfl fun _ => rfl
  generalize hs₁ : (s.setReq p ((s.req p).retired failed)).setDec d
    ((s.dec d).retireHead rest failed) = s₁ at hpop ⊢
  have hself : s₁.dec d = (s.dec d).retireHead rest failed := by
    rw [← hs₁, State.setDec_dec, Function.update_self]
  have hp : s₁.req p = (s.req p).retired failed := by
    rw [← hs₁, State.setDec_req, State.setReq_req, Function.update_self]
  have hsame : SameAccounts s₁
      (if !failed && !(s.req p).holdPicBuf then bufferWriter s₁ (s.req p).picBuf d (s.req p).writer true
        else s₁) := by
    split_ifs
    · exact bufferWriter_same _ _ _ _ _
    · exact SameAccounts.refl _
  refine ⟨(hsame.inv hpop.1).requestUnref ?_, ?_⟩
  · rw [hsame.owned, hsame.decoder, hsame.holds, hsame.refCount, hp]
    have hdecoder : ((s.req p).retired failed).decoder = d := hpd
    rw [hdecoder, hself]
    exact hpop.2
  · rw [requestUnref_pending, hsame.pending, hself]
    rfl

lemma Inv.retireUntil (h : Inv s) (pending : List ℕ) (hpending : (s.dec d).pending = pending)
    (es : List Dequeued) : Inv (retireUntil s d r pending es) := by
  induction pending generalizing s es with
  | nil => exact h
  | cons p rest ih =>
      obtain ⟨hinv, hrest⟩ := h.retire hpending (es.headD {})
      rw [GstObserver.retireUntil]
      split_ifs
      · exact hinv
      · exact ih hinv hrest _

lemma Inv.setDone (h : Inv s) (r : ℕ) (poll : Poll) (es : List Dequeued) :
    Inv (setDone s r poll es).1 := by
  cases poll with
  | timeout =>
      simp only [GstObserver.setDone]
      split_ifs <;> exact h
  | error =>
      simp only [GstObserver.setDone]
      split_ifs <;> exact h
  | ready =>
      simp only [GstObserver.setDone]
      split_ifs
      · exact h
      · exact h
      · exact h.retireUntil _ rfl es

lemma Inv.dropPending (h : Inv s) (cancel : Bool) (pending : List ℕ)
    (hpending : (s.dec d).pending = pending) : Inv (dropPending s d cancel pending) := by
  induction pending generalizing s with
  | nil => exact h
  | cons p rest ih =>
      have hpd := (h.pending d p (by simp [hpending])).1
      have hpop := h.pop hpending (x := (s.req p).cancelled cancel)
        (y := { s.dec d with pending := rest }) rfl rfl rfl rfl rfl rfl rfl rfl rfl fun _ => rfl
      rw [GstObserver.dropPending]
      refine ih (hpop.1.requestUnref ?_) ?_
      · rw [State.setDec_req, State.setReq_req, Function.update_self]
        have hdecoder : ((s.req p).cancelled cancel).decoder = d := hpd
        rw [hdecoder, State.setDec_dec, Function.update_self]
        exact hpop.2
      · rw [requestUnref_pending, State.setDec_dec, Function.update_self]

/-! ### References to spare -/

/-- The request has `n` references beside those that are counted. -/
def Spare (s : State) (r n : ℕ) : Prop :=
  (s.req r).owned + holds (s.dec (s.req r).decoder) r + n ≤ (s.req r).refCount

lemma SameAccounts.spare (h : SameAccounts s s') {n : ℕ} (hr : Spare s r n) : Spare s' r n := by
  rw [Spare, h.owned, h.decoder, h.holds, h.refCount]
  exact hr

lemma requestRef_spare {p n : ℕ} (hr : Spare s r n) :
    Spare (requestRef s p) r (if r = p then n + 1 else n) := by
  rw [Spare] at hr
  by_cases hrp : r = p
  · subst hrp
    simp only [Spare, requestRef, State.setReq_req, Function.update_self, State.setReq_dec, if_true]
    omega
  · simpa [Spare, requestRef, hrp] using hr

lemma holds_requestUnref (s : State) (p d r : ℕ) :
    holds ((requestUnref s p).dec d) r = holds (s.dec d) r := by
  have hset : ∀ d', holds ((s.setDec d'
      { s.dec d' with unqueued := (s.dec d').unqueued - 1 }).dec d) r = holds (s.dec d) r := by
    intro d'
    by_cases hd : d = d'
    · simp [hd, holds]
    · simp [hd]
  rw [requestUnref]
  simp only
  split_ifs
  · rfl
  · rfl
  · exact hset _

lemma requestUnref_spare {p n : ℕ} (hr : Spare s r (if r = p then n + 1 else n)) :
    Spare (requestUnref s p) r n := by
  rw [Spare] at hr ⊢
  rw [holds_requestUnref]
  by_cases hrp : r = p
  · subst hrp
    rw [if_pos rfl] at hr
    have hdecoder : ((requestUnref s r).req r).decoder = (s.req r).decoder := by
      simp only [requestUnref]
      split_ifs <;> simp
    have howned : ((requestUnref s r).req r).owned = (s.req r).owned := by
      simp only [requestUnref]
      split_ifs <;> simp
    have hcount : ((requestUnref s r).req r).refCount = (s.req r).refCount - 1 := by
      simp only [requestUnref]
      split_ifs <;> simp
      · omega
      · omega
    rw [hdecoder, howned, hcount]
    omega
  · rw [if_neg hrp] at hr
    have hreq : (requestUnref s p).req r = s.req r := by
      simp only [requestUnref]
      split_ifs <;> simp [hrp]
    rw [hreq]
    exact hr

/-- A request of the decoder that is taken from the pending ones, before its reference is given
back. -/
def retiring (s : State) (d p : ℕ) (rest : List ℕ) (e : Dequeued) : State :=
  let q := s.req p
  let failed := dequeueFails s q e
  let s₁ := (s.setReq p (q.retired failed)).setDec d ((s.dec d).retireHead rest failed)
  if !failed && !q.holdPicBuf then bufferWriter s₁ q.picBuf d q.writer true else s₁

lemma retire_eq (s : State) (d p : ℕ) (rest : List ℕ) (e : Dequeued) :
    retire s d p rest e = requestUnref (retiring s d p rest e) p := rfl

lemma retiring_spare (h : Inv s) {p n : ℕ} {rest : List ℕ} (hpending : (s.dec d).pending = p :: rest)
    (e : Dequeued) (hr : Spare s r n) :
    Spare (retiring s d p rest e) r (if r = p then n + 1 else n) := by
  have hmem : p ∈ (s.dec d).pending := by simp [hpending]
  have hpd := (h.pending d p hmem).1
  have hnodup := h.nodup d
  rw [hpending, List.nodup_cons] at hnodup
  rw [retiring]
  generalize dequeueFails s (s.req p) e = failed
  generalize hs₁ : (s.setReq p ((s.req p).retired failed)).setDec d
    ((s.dec d).retireHead rest failed) = s₁
  have hsame : SameAccounts s₁
      (if !failed && !(s.req p).holdPicBuf then bufferWriter s₁ (s.req p).picBuf d (s.req p).writer true
        else s₁) := by
    split_ifs
    · exact bufferWriter_same _ _ _ _ _
    · exact SameAccounts.refl _
  refine hsame.spare ?_
  have hself : s₁.dec d = (s.dec d).retireHead rest failed := by
    rw [← hs₁, State.setDec_dec, Function.update_self]
  have hother : ∀ d', d' ≠ d → s₁.dec d' = s.dec d' := fun d' hd => by
    rw [← hs₁, State.setDec_dec, Function.update_of_ne hd, State.setReq_dec]
  by_cases hrp : r = p
  · subst hrp
    have hreq : s₁.req r = (s.req r).retired failed := by
      rw [← hs₁, State.setDec_req, State.setReq_req, Function.update_self]
    have hdecoder : ((s.req r).retired failed).decoder = d := hpd
    have hholds := holds_pop_self (y := (s.dec d).retireHead rest failed) hpending rfl rfl rfl hnodup.1
    rw [Spare, hpd] at hr
    rw [if_pos rfl, Spare, hreq, hdecoder, hself]
    simp only [Request.retired]
    omega
  · have hreq : s₁.req r = s.req r := by
      rw [← hs₁, State.setDec_req, State.setReq_req, Function.update_of_ne hrp]
    rw [if_neg hrp, Spare, hreq]
    rw [Spare] at hr
    by_cases hd : (s.req r).decoder = d
    · rw [hd] at hr ⊢
      rw [hself]
      rw [holds_pop_of_ne (y := (s.dec d).retireHead rest failed) hpending rfl rfl rfl hrp]
      exact hr
    · rw [hother _ hd]
      exact hr

lemma retire_spare (h : Inv s) {p n : ℕ} {rest : List ℕ} (hpending : (s.dec d).pending = p :: rest)
    (e : Dequeued) (hr : Spare s r n) : Spare (retire s d p rest e) r n := by
  rw [retire_eq]
  exact requestUnref_spare (retiring_spare h hpending e hr)

lemma retireUntil_spare (h : Inv s) {p n : ℕ} (pending : List ℕ)
    (hpending : (s.dec d).pending = pending) (es : List Dequeued) (hr : Spare s r n) :
    Spare (retireUntil s d p pending es) r n := by
  induction pending generalizing s es with
  | nil => exact hr
  | cons p' rest ih =>
      obtain ⟨hinv, hrest⟩ := h.retire hpending (es.headD {})
      have hspare := retire_spare h hpending (es.headD {}) hr
      rw [retireUntil]
      split_ifs
      · exact hspare
      · exact ih hinv hrest _ hspare

lemma setDone_spare (h : Inv s) {p n : ℕ} (poll : Poll) (es : List Dequeued) (hr : Spare s r n) :
    Spare (setDone s p poll es).1 r n := by
  cases poll with
  | timeout =>
      simp only [setDone]
      split_ifs <;> exact hr
  | error =>
      simp only [setDone]
      split_ifs <;> exact hr
  | ready =>
      simp only [setDone]
      split_ifs
      · exact hr
      · exact hr
      · exact retireUntil_spare h _ rfl es hr

end OmarchyM1Video.GstObserver
