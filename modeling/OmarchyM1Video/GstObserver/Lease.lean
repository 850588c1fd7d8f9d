import OmarchyM1Video.GstObserver.Reachable
import OmarchyM1Video.GstObserver.Refusals

/-!
What a lease excludes.

* `Identity`, `drained_identity`: the drain of `gst_hevc_observer_begin` does not change which
  picture is selected;
* `Held`: what the receipt says, and that the decoder is idle; `held_of_begin`, a lease begins so;
* `Kept`, `step_kept`: a call under the lease leaves the decoder, the leased request and its buffer as
  they are, unless it ends the lease or publishes the buffer for a request of another decoder;
* `held_iff`: **the lease holds until its end exactly if no call publishes the leased buffer**;
* `lease_does_not_exclude`: such a call.
-/

namespace OmarchyM1Video.GstObserver

variable {s s' s'' : State} {d r p : ℕ}

/-! ### The selected picture -/

/-- What a selection looks at, but for the completion. -/
structure Identity (s s' : State) (r : ℕ) : Prop where
  decoder : (s'.req r).decoder = (s.req r).decoder
  generation : (s'.req r).generation = (s.req r).generation
  writer : (s'.req r).writer = (s.req r).writer
  picBuf : (s'.req r).picBuf = (s.req r).picBuf
  frameNum : (s'.req r).frameNum = (s.req r).frameNum
  alloc : s'.alloc = s.alloc
  buf : ∀ b, ∃ n, s'.buf b = { s.buf b with completed := n }

lemma Identity.refl (s : State) (r : ℕ) : Identity s s r :=
  ⟨rfl, rfl, rfl, rfl, rfl, rfl, fun _ => ⟨_, rfl⟩⟩

lemma Identity.trans (h : Identity s s' r) (h' : Identity s' s'' r) : Identity s s'' r where
  decoder := h'.decoder.trans h.decoder
  generation := h'.generation.trans h.generation
  writer := h'.writer.trans h.writer
  picBuf := h'.picBuf.trans h.picBuf
  frameNum := h'.frameNum.trans h.frameNum
  alloc := h'.alloc.trans h.alloc
  buf b := by
    obtain ⟨n, hn⟩ := h.buf b
    obtain ⟨m, hm⟩ := h'.buf b
    exact ⟨m, by rw [hm, hn]⟩

lemma Identity.of_req (halloc : s'.alloc = s.alloc) (hbuf : s'.buf = s.buf)
    (hreq : s'.req r = s.req r ∨
      ((s'.req r).decoder = (s.req r).decoder ∧ (s'.req r).generation = (s.req r).generation ∧
        (s'.req r).writer = (s.req r).writer ∧ (s'.req r).picBuf = (s.req r).picBuf ∧
        (s'.req r).frameNum = (s.req r).frameNum)) : Identity s s' r := by
  have hbufs : ∀ b, ∃ n, s'.buf b = { s.buf b with completed := n } := fun b => ⟨_, by rw [hbuf]⟩
  obtain heq | ⟨h₁, h₂, h₃, h₄, h₅⟩ := hreq
  · exact ⟨by rw [heq], by rw [heq], by rw [heq], by rw [heq], by rw [heq], halloc, hbufs⟩
  · exact ⟨h₁, h₂, h₃, h₄, h₅, halloc, hbufs⟩

lemma Identity.setReq {x : Request} (h : p ≠ r ∨ (x.decoder = (s.req r).decoder ∧
    x.generation = (s.req r).generation ∧ x.writer = (s.req r).writer ∧
    x.picBuf = (s.req r).picBuf ∧ x.frameNum = (s.req r).frameNum)) :
    Identity s (s.setReq p x) r := by
  refine Identity.of_req rfl rfl ?_
  by_cases hp : r = p
  · obtain hne | hx := h
    · exact absurd hp.symm hne
    · rw [State.setReq_req, hp, Function.update_self]
      exact .inr (hp ▸ hx)
  · rw [State.setReq_req, Function.update_of_ne hp]
    exact .inl rfl

lemma Identity.setDec (s : State) (d : ℕ) (x : Decoder) (r : ℕ) : Identity s (s.setDec d x) r :=
  Identity.of_req rfl rfl (.inl rfl)

lemma bufferWriter_identity (s : State) (buffer : Option (List Mem)) (d writer r : ℕ) :
    Identity s (bufferWriter s buffer d writer true) r := by
  rw [bufferWriter]
  rcases buffer.bind fun buffer => observerBuffer s buffer d with _ | b
  · exact Identity.refl s r
  · dsimp only
    rw [if_pos rfl]
    split_ifs
    · refine ⟨rfl, rfl, rfl, rfl, rfl, rfl, fun b' => ?_⟩
      by_cases hb : b' = b
      · rw [hb, State.setBuf_buf, Function.update_self]
        exact ⟨_, rfl⟩
      · rw [State.setBuf_buf, Function.update_of_ne hb]
        exact ⟨_, rfl⟩
    · exact Identity.refl s r

/-- A reference is given back that is not the last one of the request. -/
lemma requestUnref_identity (hr : Spare s r (if r = p then 2 else 1)) :
    Identity s (requestUnref s p) r := by
  rw [requestUnref]
  dsimp only
  by_cases hp : r = p
  · subst hp
    rw [if_pos rfl, Spare] at hr
    rw [if_pos (by omega)]
    exact Identity.setReq (.inr ⟨rfl, rfl, rfl, rfl, rfl⟩)
  · split_ifs
    · exact Identity.setReq (.inl fun heq => hp heq.symm)
    · exact Identity.setReq (.inl fun heq => hp heq.symm)
    · exact (Identity.setDec _ _ _ r).trans (Identity.setReq (.inl fun heq => hp heq.symm))

lemma retire_identity (h : Inv s) {rest : List ℕ} (hpending : (s.dec d).pending = p :: rest)
    (e : Dequeued) (hr : Spare s r 1) : Identity s (retire s d p rest e) r := by
  rw [retire_eq]
  refine Identity.trans ?_ (requestUnref_identity (retiring_spare h hpending e hr))
  rw [retiring]
  generalize dequeueFails s (s.req p) e = failed
  have h₁ : Identity s (s.setReq p ((s.req p).retired failed)) r := by
    by_cases hp : p = r
    · subst hp
      exact Identity.setReq (.inr ⟨rfl, rfl, rfl, rfl, rfl⟩)
    · exact Identity.setReq (.inl hp)
  have h₂ := h₁.trans (Identity.setDec _ d ((s.dec d).retireHead rest failed) r)
  split_ifs
  · exact h₂.trans (bufferWriter_identity _ _ _ _ _)
  · exact h₂

lemma retireUntil_identity (h : Inv s) (pending : List ℕ) (hpending : (s.dec d).pending = pending)
    (es : List Dequeued) (hr : Spare s r 1) : Identity s (retireUntil s d p pending es) r := by
  induction pending generalizing s es with
  | nil => exact Identity.refl s r
  | cons q rest ih =>
      obtain ⟨hinv, hrest⟩ := h.retire hpending (es.headD {})
      have hstep := retire_identity h hpending (es.headD {}) hr
      have hspare := retire_spare h hpending (es.headD {}) hr
      rw [retireUntil]
      split_ifs
      · exact hstep
      · exact hstep.trans (ih hinv hrest _ hspare)

lemma setDone_identity (h : Inv s) (poll : Poll) (es : List Dequeued) (hr : Spare s r 1) :
    Identity s (setDone s p poll es).1 r := by
  cases poll with
  | timeout =>
      simp only [setDone]
      split_ifs <;> exact Identity.refl s r
  | error =>
      simp only [setDone]
      split_ifs <;> exact Identity.refl s r
  | ready =>
      simp only [setDone]
      split_ifs
      · exact Identity.refl s r
      · exact Identity.refl s r
      · exact retireUntil_identity h _ rfl es hr

lemma requestRef_identity (s : State) (p r : ℕ) : Identity s (requestRef s p) r := by
  by_cases hp : p = r
  · subst hp
    exact Identity.setReq (.inr ⟨rfl, rfl, rfl, rfl, rfl⟩)
  · exact Identity.setReq (.inl hp)

lemma round_identity (h : Inv s) (hp : p ∈ (s.dec d).pending) (e : DrainEnv) (hr : Spare s r 1) :
    Identity s (round s p e).1 r := by
  have h₁ : Inv (requestRef s p) := h.requestRef (h.live_of_pending hp)
  have hspare := requestRef_spare (p := p) hr
  have hone : Spare (requestRef s p) r 1 := by
    by_cases hrp : r = p
    · rw [if_pos hrp] at hspare
      rw [Spare] at hspare ⊢
      omega
    · rwa [if_neg hrp] at hspare
  rw [round]
  split_ifs
  · exact (requestRef_identity s p r).trans (requestUnref_identity hspare)
  · exact ((requestRef_identity s p r).trans (setDone_identity h₁ _ _ hone)).trans
      (requestUnref_identity (setDone_spare h₁ _ _ hspare))

/-- **The drain does not change what is selected.** -/
lemma drained_identity (h : Inv s) (howned : 0 < (s.req r).owned) (es : List DrainEnv) :
    Identity s (drained s d r es) r := by
  have hlive : 0 < (s.req r).refCount := by
    have hrefs := h.refs r
    omega
  have hspare : Spare (requestRef s r) r 1 := by
    have hs := requestRef_spare (p := r) (h.spare_zero r)
    rwa [if_pos rfl] at hs
  refine (requestRef_identity s r r).trans
    (drain_rule (P := fun s' => Spare s' r 1 ∧ Identity (requestRef s r) s' r) ?_ ?_
      (h.requestRef hlive) ⟨hspare, Identity.refl _ r⟩ es).2.2
  · exact fun s' _ hs => ⟨(setFailed_same s' d).spare hs.1, hs.2.trans (Identity.setDec _ _ _ r)⟩
  · exact fun s' q e hinv hq hs =>
      ⟨round_spare hinv hq e hs.1, hs.2.trans (round_identity hinv hq e hs.1)⟩

/-- The buffer behind the picture of a request. -/
def pictureBuffer (s : State) (d r : ℕ) : Option ℕ :=
  (s.req r).picBuf.bind fun buffer => observerBuffer s buffer d

/-- The buffers have the same planes and allocators. -/
def SamePlanes (s s' : State) : Prop :=
  ∀ b, (s'.buf b).alloc = (s.buf b).alloc ∧ (s'.buf b).sizes = (s.buf b).sizes ∧
    (s'.buf b).generation = (s.buf b).generation

lemma observerBuffer_congr (halloc : s'.alloc = s.alloc) (hbuf : SamePlanes s s')
    (buffer : List Mem) (d : ℕ) : observerBuffer s' buffer d = observerBuffer s buffer d := by
  rcases buffer with _ | ⟨⟨b, i⟩ | _ | _, rest⟩
  · rfl
  · obtain ⟨hb, hsizes, hgeneration⟩ := hbuf b
    rw [observerBuffer, observerBuffer, halloc, hb, hsizes, hgeneration]
  · rfl
  · rfl

lemma pictureBuffer_congr (hpic : (s'.req r).picBuf = (s.req r).picBuf) (halloc : s'.alloc = s.alloc)
    (hbuf : SamePlanes s s') : pictureBuffer s' d r = pictureBuffer s d r := by
  rw [pictureBuffer, pictureBuffer, hpic]
  cases (s.req r).picBuf with
  | none => rfl
  | some buffer => exact observerBuffer_congr halloc hbuf buffer d

lemma Identity.pictureBuffer (h : Identity s s' r) :
    pictureBuffer s' d r = pictureBuffer s d r := by
  refine pictureBuffer_congr h.picBuf h.alloc fun b => ?_
  obtain ⟨n, hn⟩ := h.buf b
  rw [hn]
  exact ⟨rfl, rfl, rfl⟩

/-- What a request is selected by. -/
structure Selected (s : State) (d r b : ℕ) : Prop where
  decoder : (s.req r).decoder = d
  buffer : pictureBuffer s d r = some b
  published : (s.buf b).published = false
  writer_ne : (s.req r).writer ≠ 0
  writer : (s.buf b).writer = (s.req r).writer

/-- What is said of the selected request. -/
def selectionOf (s : State) (r b : ℕ) : Target × ℕ × ℕ × List ℕ :=
  (⟨(s.req r).generation, (s.buf b).generation, (s.buf b).writer⟩, (s.req r).frameNum,
    (s.buf b).index, (s.buf b).sizes)

lemma observerSelection_some {found : Target × ℕ × ℕ × List ℕ}
    (h : observerSelection s d r = some found) :
    ∃ b, Selected s d r b ∧ found = selectionOf s r b := by
  rw [observerSelection] at h
  split_ifs at h with hq
  cases hb : (s.req r).picBuf.bind fun buffer => bufferIdentity s buffer d with
  | none =>
      rw [hb] at h
      cases h
  | some b =>
      rw [hb] at h
      dsimp only at h
      split_ifs at h with hwriter
      obtain ⟨buffer, hbuffer, hidentity⟩ := Option.bind_eq_some_iff.mp hb
      rw [bufferIdentity, Option.filter_eq_some_iff] at hidentity
      obtain ⟨hob, hfree⟩ := hidentity
      simp only [Bool.and_eq_true, Bool.not_eq_true', bne_iff_ne] at hfree
      refine ⟨b, ⟨hq.1, ?_, hfree.1, hq.2.2.2.1, hwriter⟩, (Option.some.inj h).symm⟩
      rw [pictureBuffer, hbuffer]
      exact hob

/-! ### The lease -/

/-- The picture that is leased. -/
structure LeasedPicture (s : State) (d r b : ℕ) (receipt : Receipt) : Prop where
  selected : Selected s d r b
  selection : selectionOf s r b =
    (receipt.target, receipt.frameNum, receipt.captureIndex, receipt.planeSize)
  completed : (s.req r).completed = receipt.target.writer

/-- What the receipt of a lease says of the decoder. -/
structure Held (s : State) (d r : ℕ) (receipt : Receipt) : Prop where
  lease : (s.dec d).lease = receipt.lease
  lease_ne : receipt.lease ≠ 0
  request : (s.dec d).request = some r
  session : sessionRecord (s.dec d) = receipt.session
  pending : (s.dec d).pending = []
  submitted : (s.dec d).submitted = receipt.submitted
  completed : (s.dec d).completed = receipt.completed
  drained : receipt.completed = receipt.submitted
  failed : (s.dec d).failed = false
  retired : (s.dec d).retired = false
  external : (s.dec d).external = false
  unqueued : (s.dec d).unqueued = 0
  building : ∀ q, ¬Building s d q
  streamingSink : (s.dec d).streamingSink = true
  streamingSrc : (s.dec d).streamingSrc = true
  picture : ∃ b, LeasedPicture s d r b receipt

/-- No second lease, no opening and no closing of the decoder succeeds. -/
structure Exclusive (s : State) (d : ℕ) : Prop where
  lease : ∀ session r target th e, observerBegin s d session r target th e = (s, none)
  sessionOpen : ∀ th lock, observerOpen s d th lock = (s, none)
  sessionClose : ∀ session th lock, observerClose s d session th lock = (s, false)
  decoderOpen : ∀ docMode ok, decoderOpen s d docMode ok = (s, false)
  decoderClose : decoderClose s d = (s, false)

lemma exclusive_of_busy (h : (s.dec d).busy = true) : Exclusive s d where
  lease _ _ _ _ _ := if_neg fun hbegin => not_idle h hbegin.2.2.1.1
  sessionOpen _ _ := if_neg fun hopen => not_idle h hopen.2.2.2.2.2.2.2.2
  sessionClose _ _ _ := if_neg fun hclose => not_idle h hclose.2.2
  decoderOpen _ _ := unlessBusy_of_busy h _ _
  decoderClose := if_pos h

section Leased

variable {receipt : Receipt} {c : Call} {b : ℕ}

lemma Held.busy (h : Held s d r receipt) : (s.dec d).busy = true := by
  rw [Decoder.busy, h.lease, bne_iff_ne.mpr h.lease_ne, Bool.true_or]

/-- **A lease begins with an idle decoder.** -/
theorem held_of_begin (h : Sound s) {session : Session} {target : Target} {th : ℕ} {e : BeginEnv}
    (howned : 0 < (s.req r).owned)
    (hbegin : observerBegin s d session r target th e = (s', some receipt)) :
    Held s' d r receipt ∧ receipt.target = target ∧ receipt.session = session := by
  obtain heq | ⟨hasked, heq | heq | ⟨found, hfound, hfailed, hcompleted, hwriter, hnext, heq⟩⟩ :=
    observerBegin_cases s d session r target th e
  · rw [heq] at hbegin
    cases hbegin
  · rw [heq] at hbegin
    cases hbegin
  · rw [heq] at hbegin
    cases hbegin
  have hdrained := drained_of h.inv howned hasked.decoder e.rounds
  have hidentity := drained_identity (d := d) h.inv howned e.rounds
  have hpending : ((drained s d r e.rounds).dec d).pending = [] := drain_pending _ hfailed
  have hsteady := hdrained.steady
  generalize drained s d r e.rounds = s₁ at *
  rw [heq] at hbegin
  cases hbegin
  obtain ⟨b, hselected, rfl⟩ := observerSelection_some hfound
  have hself : (grant s₁ d r (selectionOf s₁ r b)).1.dec d =
      { s₁.dec d with lease := s₁.next, request := some r } := by
    rw [grant, State.generate_dec, State.setDec_dec, Function.update_self]
  have hfield : ∀ {α : Type} (f : Decoder → α), (∀ x : Decoder, f x.steady = f x) →
      f (s₁.dec d) = f (s.dec d) := by
    intro α f hf
    rw [← hf, hsteady, hf]
  obtain ⟨-, -, hsink, hsrc, hretired, -, -, -, hexternal, hunqueued⟩ := hasked.observable
  have hzero : (s₁.dec d).unqueued = 0 := (hfield Decoder.unqueued fun _ => rfl).trans hunqueued
  have htarget : (selectionOf s₁ r b).1 = target := by
    obtain ⟨found, hfound', hfst⟩ := Option.map_eq_some_iff.mp hasked.selected
    obtain ⟨b', hselected', rfl⟩ := observerSelection_some hfound'
    have hb : b = b' := by
      have hbuffer := hselected.buffer
      rw [hidentity.pictureBuffer, hselected'.buffer] at hbuffer
      exact (Option.some.inj hbuffer).symm
    obtain ⟨n, hn⟩ := hidentity.buf b
    rw [← hfst, ← hb, selectionOf, selectionOf, hidentity.generation, hn]
  have hsession : sessionRecord (s₁.dec d) = session := by
    have hvalid := hasked.valid
    simp only [sessionValid, Bool.and_eq_true, bne_iff_ne, beq_iff_eq] at hvalid
    obtain ⟨⟨⟨⟨-, hnonce⟩, hcontext⟩, hrun⟩, -⟩ := hvalid
    rw [sessionRecord, hfield Decoder.run fun _ => rfl, hfield Decoder.generation fun _ => rfl,
      hfield Decoder.session fun _ => rfl, ← hnonce, ← hcontext, ← hrun]
  refine ⟨?_, htarget, hsession⟩
  refine
    { lease := by rw [hself]; rfl
      lease_ne := hnext
      request := by rw [hself]
      session := by rw [hself]; rfl
      pending := by rw [hself]; exact hpending
      submitted := by rw [hself]; rfl
      completed := by rw [hself]; rfl
      drained := hcompleted
      failed := by rw [hself]; exact hfailed
      retired := by rw [hself]; exact (hfield Decoder.retired fun _ => rfl).trans hretired
      external := by rw [hself]; exact (hfield Decoder.external fun _ => rfl).trans hexternal
      unqueued := by rw [hself]; exact hzero
      building := (hdrained.inv.counted d).not_building hzero
      streamingSink := by rw [hself]; exact (hfield Decoder.streamingSink fun _ => rfl).trans hsink
      streamingSrc := by rw [hself]; exact (hfield Decoder.streamingSrc fun _ => rfl).trans hsrc
      picture := ⟨b, ⟨hselected.decoder, hselected.buffer, hselected.published, hselected.writer_ne,
        hselected.writer⟩, rfl, ?_⟩ }
  exact hwriter.trans (congrArg Target.writer htarget).symm

/-! ### Calls under a lease -/

/-- A call that ends the lease. -/
def Ends (s : State) (d : ℕ) (c : Call) : Prop :=
  ∃ session lease th lock, c = .observerEnd d session lease th lock ∧
    (observerEnd s d session lease th lock).2 = true

/-- A call that publishes the buffer behind the picture of the request. -/
def PublishesPicture (s : State) (d r : ℕ) (c : Call) : Prop :=
  ∃ b i, pictureBuffer s d r = some b ∧ .plane b i ∈ publishedBy s c

/-- The decoder, the leased request and its buffer are as they were, but for the references. -/
structure Kept (s s' : State) (d r b : ℕ) : Prop where
  dec : s'.dec d = s.dec d
  req : ∃ n m, s'.req r = { s.req r with refCount := n, owned := m }
  buf : s'.buf b = s.buf b
  alloc : s'.alloc (s.buf b).alloc = s.alloc (s.buf b).alloc

lemma Kept.refl (s : State) (d r b : ℕ) : Kept s s d r b := ⟨rfl, ⟨_, _, rfl⟩, rfl, rfl⟩

lemma Kept.trans (h : Kept s s' d r b) (h' : Kept s' s'' d r b) : Kept s s'' d r b where
  dec := h'.dec.trans h.dec
  req := by
    obtain ⟨n, m, hn⟩ := h.req
    obtain ⟨n', m', hn'⟩ := h'.req
    exact ⟨n', m', by rw [hn', hn]⟩
  buf := h'.buf.trans h.buf
  alloc := by
    rw [← h.alloc, ← h.buf]
    exact h'.alloc

/-- The leased request is in use, and its buffer is one of the decoder's. -/
structure InUse (s : State) (d r b : ℕ) : Prop where
  decoder : (s.req r).decoder = d
  refs : (s.req r).owned < (s.req r).refCount
  bufLive : (s.buf b).live = true
  allocLive : (s.alloc (s.buf b).alloc).live = true
  bufDecoder : s.bufDecoder b = d

lemma Held.inUse (h : Held s d r receipt) (hinv : Inv s) (hb : LeasedPicture s d r b receipt) :
    InUse s d r b := by
  have hrefs := hinv.refs r
  rw [hb.selected.decoder, holds,
    if_pos (⟨by rw [h.lease]; exact h.lease_ne, h.request⟩ : _ ∧ _)] at hrefs
  obtain ⟨buffer, -, hbuffer⟩ := Option.bind_eq_some_iff.mp hb.selected.buffer
  have hlive : (s.buf b).live = true := by
    refine hinv.bufLive b ?_
    rcases buffer with _ | ⟨⟨b', i⟩ | _ | _, rest⟩
    · cases hbuffer
    · rw [observerBuffer] at hbuffer
      split_ifs at hbuffer with hcond
      cases hbuffer
      exact hcond.2.2.2.2.2.1
    · cases hbuffer
    · cases hbuffer
  exact ⟨hb.selected.decoder, by omega, hlive, hinv.allocLive b hlive, observerBuffer_decoder hbuffer⟩

/-- A call with another decoder. -/
lemma InUse.on (h : InUse s d r b) {d' : ℕ} {lines : List Record} (hd : d' ≠ d)
    (hon : On d' lines s s') : Kept s s' d r b := by
  have hreq := hon.req r (by rw [h.decoder]; exact hd.symm) (Nat.lt_of_le_of_lt (Nat.zero_le _) h.refs)
  exact ⟨hon.dec d hd.symm, ⟨_, _, hreq⟩,
    hon.buf b h.bufLive h.allocLive (by rw [h.bufDecoder]; exact hd.symm),
    hon.alloc _ h.allocLive (by
      have hdec := h.bufDecoder
      rw [State.bufDecoder] at hdec
      rw [hdec]
      exact hd.symm)⟩

lemma bufferPublish_kept (s : State) (d r : ℕ) {buffer : List Mem}
    (h : ∀ i, Mem.plane b i ∉ buffer) : Kept s (bufferPublish s buffer) d r b := by
  induction buffer generalizing s with
  | nil => exact Kept.refl s d r b
  | cons m buffer ih =>
      have hmem : Kept s (publishMem s m) d r b := by
        cases m with
        | plane b' i =>
            refine ⟨rfl, ⟨_, _, rfl⟩, ?_, rfl⟩
            rw [publishMem, publishBuf, State.setBuf_buf, Function.update_of_ne]
            rintro rfl
            exact h i List.mem_cons_self
        | share parent => exact Kept.refl s d r b
        | foreign => exact Kept.refl s d r b
      exact hmem.trans (ih _ fun i hi => h i (List.mem_cons_of_mem _ hi))

/-- A caller takes a reference to a request, or gives one back. -/
lemma InUse.refs_kept (h : InUse s d r b) (hinv : Inv s) (hbuilding : ∀ q, ¬Building s d q) {q : ℕ}
    (howned : 0 < (s.req q).owned) (hholds : 0 < holds (s.dec d) r)
    (hc : c = .requestRef q ∨ c = .requestUnref q) : Kept s (step s c).1 d r b := by
  have hne : ¬(s.req q).owned = 0 := Nat.pos_iff_ne_zero.mp howned
  have hrefs := hinv.refs q
  obtain rfl | rfl := hc
  · have heq : (step s (.requestRef q)).1 = s.setReq q
        { s.req q with owned := (s.req q).owned + 1, refCount := (s.req q).refCount + 1 } := by
      rw [step, withRequest, if_neg hne, requestRef]
      simp [State.setReq]
    rw [heq]
    refine ⟨rfl, ?_, rfl, rfl⟩
    by_cases hq : r = q
    · rw [State.setReq_req, hq, Function.update_self]
      exact ⟨_, _, rfl⟩
    · rw [State.setReq_req, Function.update_of_ne hq]
      exact ⟨_, _, rfl⟩
  · rw [step, withRequest, if_neg hne]
    dsimp only
    have hself : (s.setReq q { s.req q with owned := (s.req q).owned - 1 }).req q =
        { s.req q with owned := (s.req q).owned - 1 } := by
      rw [State.setReq_req, Function.update_self]
    by_cases hq : r = q
    · -- The lease has a reference of its own.
      subst hq
      rw [h.decoder] at hrefs
      have hmore : 1 < (s.req r).refCount := by omega
      rw [requestUnref]
      dsimp only
      rw [hself, if_pos hmore]
      refine ⟨rfl, ?_, rfl, rfl⟩
      rw [State.setReq_req, Function.update_self]
      exact ⟨_, _, rfl⟩
    · have hsub : (s.req q).decoder = d → (s.req q).submitted = true := by
        intro hd
        by_contra hnot
        exact hbuilding q ⟨by omega, Bool.eq_false_iff.mpr hnot, hd⟩
      have hother : ∀ (t : State) (x : Request), t.req = s.req → t.dec d = s.dec d →
          t.buf = s.buf → t.alloc = s.alloc → Kept s (t.setReq q x) d r b := by
        intro t x hreq hdec hbuf halloc
        refine ⟨hdec, ?_, by rw [State.setReq_buf, hbuf], by rw [State.setReq_alloc, halloc]⟩
        rw [State.setReq_req, Function.update_of_ne hq, hreq]
        exact ⟨_, _, rfl⟩
      have hset : ∀ (t : State) (x : Request), t.dec d = s.dec d → t.buf = s.buf →
          t.alloc = s.alloc → t.req r = s.req r → Kept s (t.setReq q x) d r b := by
        intro t x hdec hbuf halloc hreq
        refine ⟨hdec, ?_, by rw [State.setReq_buf, hbuf], by rw [State.setReq_alloc, halloc]⟩
        rw [State.setReq_req, Function.update_of_ne hq, hreq]
        exact ⟨_, _, rfl⟩
      have hr : (s.setReq q { s.req q with owned := (s.req q).owned - 1 }).req r = s.req r := by
        rw [State.setReq_req, Function.update_of_ne hq]
      rw [requestUnref]
      dsimp only
      rw [hself]
      split_ifs with hmore hsubmitted
      · exact hset _ _ rfl rfl rfl hr
      · exact hset _ _ rfl rfl rfl hr
      · refine hset _ _ ?_ rfl rfl hr
        have hd : d ≠ (s.req q).decoder := fun hd => hsubmitted (hsub hd.symm)
        rw [State.setDec_dec, Function.update_of_ne hd, State.setReq_dec]

/-- **A call under a lease** leaves what is leased alone, unless it ends the lease or publishes the
buffer. -/
theorem step_kept (h : Held s d r receipt) (hs : Sound s) (hb : LeasedPicture s d r b receipt)
    (hend : ¬Ends s d c) (hpublish : ¬PublishesPicture s d r c) : Kept s (step s c).1 d r b := by
  have huse := h.inUse hs.inv hb
  have hother : ∀ {d'}, (s.dec d').busy = false → d' ≠ d := by
    rintro d' hidle rfl
    exact absurd (hidle.symm.trans h.busy) (by decide)
  have hplanes : ∀ i, Mem.plane b i ∉ publishedBy s c := fun i hi =>
    hpublish ⟨b, i, hb.selected.buffer, hi⟩
  cases step_does hs.inv hs.known c with
  | nothing heq _ =>
      rw [heq]
      exact Kept.refl s d r b
  | idle d' s₁ _ hidle hon heq =>
      rw [heq]
      exact (huse.on (hother hidle) hon).trans (bufferPublish_kept s₁ d r hplanes)
  | storage d' hidle hon _ _ _ => exact huse.on (hother hidle) hon
  | made hon _ _ _ => exact huse.on (Nat.succ_ne_self d) (hon (d + 1))
  | init d' run hdead hc =>
      have hd : d ≠ d' := by
        rintro rfl
        have hlease := h.lease
        rw [hs.known.dead d hdead] at hlease
        exact h.lease_ne hlease.symm
      rw [hc, step, decoderInit, if_neg (by rw [hdead]; decide)]
      refine ⟨?_, ⟨_, _, rfl⟩, rfl, rfl⟩
      rw [State.generate_dec, State.setDec_dec, Function.update_of_ne hd]
  | refs q howned hc =>
      refine huse.refs_kept hs.inv h.building howned ?_ hc
      rw [holds, if_pos (⟨by rw [h.lease]; exact h.lease_ne, h.request⟩ : _ ∧ _)]
      omega
  | granted d' q s₁ found _ hidle hdrained heq _ =>
      have hd := hother hidle
      rw [heq]
      refine (huse.on hd hdrained.on).trans ⟨?_, ⟨_, _, rfl⟩, rfl, rfl⟩
      rw [grant, State.generate_dec, State.setDec_dec, Function.update_of_ne hd.symm]
  | ended d' session lease th lock hc hended =>
      have hd : d' ≠ d := by
        rintro rfl
        exact hend ⟨session, lease, th, lock, hc, hended⟩
      obtain ⟨-, -, -, q, -, hq, heq⟩ := observerEnd_eq hs.known hended
      rw [hc, step, heq]
      have hdec : Kept s (s.setDec d' { s.dec d' with lease := 0, request := none }) d r b := by
        refine ⟨?_, ⟨_, _, rfl⟩, rfl, rfl⟩
        rw [State.setDec_dec, Function.update_of_ne hd.symm]
      have huse' : InUse (s.setDec d' { s.dec d' with lease := 0, request := none }) d r b :=
        ⟨huse.decoder, huse.refs, huse.bufLive, huse.allocLive, huse.bufDecoder⟩
      refine hdec.trans (huse'.on hd (requestUnref_on ?_))
      rw [State.setDec_req, hq]

lemma Kept.observerBuffer (h : Kept s s' d r b) {buffer : List Mem}
    (hb : observerBuffer s buffer d = some b) : GstObserver.observerBuffer s' buffer d = some b := by
  rcases buffer with _ | ⟨⟨b', i⟩ | _ | _, rest⟩
  · cases hb
  · rw [GstObserver.observerBuffer] at hb ⊢
    split_ifs at hb with hcond
    cases hb
    rw [h.buf, h.alloc, if_pos hcond]
  · cases hb
  · cases hb

lemma Kept.picture (h : Kept s s' d r b) (hb : LeasedPicture s d r b receipt) :
    LeasedPicture s' d r b receipt := by
  obtain ⟨n, m, hreq⟩ := h.req
  obtain ⟨buffer, hpic, hbuffer⟩ := Option.bind_eq_some_iff.mp hb.selected.buffer
  refine ⟨⟨?_, ?_, ?_, ?_, ?_⟩, ?_, ?_⟩
  · rw [hreq]
    exact hb.selected.decoder
  · rw [pictureBuffer, hreq]
    exact Option.bind_eq_some_iff.mpr ⟨buffer, hpic, h.observerBuffer hbuffer⟩
  · rw [h.buf]
    exact hb.selected.published
  · rw [hreq]
    exact hb.selected.writer_ne
  · rw [h.buf, hreq]
    exact hb.selected.writer
  · rw [selectionOf, h.buf, hreq]
    exact hb.selection
  · rw [hreq]
    exact hb.completed

lemma Kept.held (h : Kept s s' d r b) (hheld : Held s d r receipt) (hinv : Inv s')
    (hb : LeasedPicture s d r b receipt) : Held s' d r receipt := by
  have hzero : (s'.dec d).unqueued = 0 := by rw [h.dec]; exact hheld.unqueued
  exact
    { lease := by rw [h.dec]; exact hheld.lease
      lease_ne := hheld.lease_ne
      request := by rw [h.dec]; exact hheld.request
      session := by rw [h.dec]; exact hheld.session
      pending := by rw [h.dec]; exact hheld.pending
      submitted := by rw [h.dec]; exact hheld.submitted
      completed := by rw [h.dec]; exact hheld.completed
      drained := hheld.drained
      failed := by rw [h.dec]; exact hheld.failed
      retired := by rw [h.dec]; exact hheld.retired
      external := by rw [h.dec]; exact hheld.external
      unqueued := hzero
      building := (hinv.counted d).not_building hzero
      streamingSink := by rw [h.dec]; exact hheld.streamingSink
      streamingSrc := by rw [h.dec]; exact hheld.streamingSrc
      picture := ⟨b, h.picture hb⟩ }

lemma Held.next (h : Held s d r receipt) (hs : Sound s) (hend : ¬Ends s d c)
    (hpublish : ¬PublishesPicture s d r c) : Held (step s c).1 d r receipt := by
  obtain ⟨b, hb⟩ := h.picture
  exact (step_kept h hs hb hend hpublish).held h (step_inv hs c).inv hb

lemma published_of_mem (s : State) {buffer : List Mem} {i : ℕ} (h : Mem.plane b i ∈ buffer) :
    ((bufferPublish s buffer).buf b).published = true := by
  have hmono : ∀ (t : State) (rest : List Mem), (t.buf b).published = true →
      ((bufferPublish t rest).buf b).published = true := by
    intro t rest ht
    induction rest generalizing t with
    | nil => exact ht
    | cons m rest ih =>
        refine ih _ ?_
        cases m with
        | plane b' i' =>
            rw [publishMem, publishBuf, State.setBuf_buf]
            by_cases hb : b = b'
            · rw [hb, Function.update_self]
            · rw [Function.update_of_ne hb]
              exact ht
        | share parent => exact ht
        | foreign => exact ht
  induction buffer generalizing s with
  | nil => cases h
  | cons m buffer ih =>
      obtain rfl | hmem := List.mem_cons.mp h
      · refine hmono _ buffer ?_
        rw [publishMem, publishBuf, State.setBuf_buf, Function.update_self]
      · exact ih (publishMem s m) hmem

/-- A call that publishes planes, on a request of another decoder. -/
lemma Held.published (h : Held s d r receipt) (hs : Sound s) {i : ℕ}
    (hmem : Mem.plane b i ∈ publishedBy s c) :
    (((step s c).1).buf b).published = true ∧
      (((step s c).1).req r).picBuf = (s.req r).picBuf := by
  obtain ⟨b', hb'⟩ := h.picture
  have huse := h.inUse hs.inv hb'
  cases c with
  | dupPicBuf q =>
      rw [publishedBy] at hmem
      split_ifs at hmem with hdup
      · have heq : dupPicBuf s q = (bufferPublish s ((s.req q).picBuf.getD []), true) := by
          rw [dupPicBuf] at hdup ⊢
          split_ifs at hdup ⊢
          · exact hdup.2.elim
          · rfl
        rw [step, withRequest, if_neg hdup.1, heq]
        exact ⟨published_of_mem s hmem, by rw [(bufferPublish_eq s _).2.1]⟩
      · cases hmem
  | outputPicture q buffer poll es =>
      rw [publishedBy] at hmem
      split_ifs at hmem with hout
      · have hd : (s.req q).decoder ≠ d := by
          intro hd
          have hbusy := h.busy
          rw [← hd] at hbusy
          rw [outputPicture, setDone_of_busy hbusy] at hout
          exact Bool.false_ne_true hout.2
        have heq : outputPicture s q buffer poll es =
            (bufferPublish (setDone s q poll es).1 buffer, true) := by
          rw [outputPicture] at hout ⊢
          dsimp only at hout ⊢
          split_ifs at hout ⊢
          · exact hout.2.elim
          · exact hout.2.elim
          · rfl
        obtain ⟨n, m, hreq⟩ := (huse.on hd (setDone_on hs.inv q poll es)).req
        rw [step, withRequest, if_neg hout.1, heq]
        refine ⟨published_of_mem _ hmem, ?_⟩
        rw [(bufferPublish_eq _ buffer).2.1, hreq]
      · cases hmem
  | _ => cases hmem

lemma observerBuffer_head {buffer : List Mem} (h : observerBuffer s buffer d = some b) :
    ∃ i rest, buffer = .plane b i :: rest := by
  rcases buffer with _ | ⟨⟨b', i⟩ | _ | _, rest⟩
  · cases h
  · rw [observerBuffer] at h
    split_ifs at h
    cases h
    exact ⟨i, rest, rfl⟩
  · cases h
  · cases h

/-- A buffer that is published has lost its lease. -/
lemma Held.not_published (h : Held s d r receipt) (hs : Sound s)
    (h' : Held (step s c).1 d r receipt) : ¬PublishesPicture s d r c := by
  rintro ⟨b, i, hb, hmem⟩
  obtain ⟨hpublished, hpic⟩ := h.published hs hmem
  obtain ⟨b', hb'⟩ := h'.picture
  obtain ⟨buffer, hbuffer, hsome⟩ := Option.bind_eq_some_iff.mp hb
  obtain ⟨buffer', hbuffer', hsome'⟩ := Option.bind_eq_some_iff.mp hb'.selected.buffer
  rw [hpic, hbuffer] at hbuffer'
  cases hbuffer'
  obtain ⟨j, rest, rfl⟩ := observerBuffer_head hsome
  obtain ⟨j', rest', heq⟩ := observerBuffer_head hsome'
  cases heq
  exact absurd (hpublished.symm.trans hb'.selected.published) (by decide)

end Leased

/-! ### Runs under a lease -/

/-- Every call of a run meets the condition, in the state that it is made in. -/
def Along (P : State → Call → Prop) : State → List Call → Prop
  | _, [] => True
  | s, c :: calls => P s c ∧ Along P (step s c).1 calls

/-- The property holds in every state of a run. -/
def Throughout (P : State → Prop) : State → List Call → Prop
  | s, [] => P s
  | s, c :: calls => P s ∧ Throughout P (step s c).1 calls

lemma Throughout.head {P : State → Prop} {calls : List Call} (h : Throughout P s calls) : P s := by
  cases calls with
  | nil => exact h
  | cons c calls => exact h.1

/-- **A lease holds until its end exactly if no call publishes the leased buffer.** From the success of
`gst_hevc_observer_begin` on, until a successful end, the receipt is true of every state and no other
lease, opening or closing of the decoder succeeds, if and only if no call publishes the buffer for a
request of another decoder. -/
theorem held_iff {calls later : List Call} {session : Session} {target : Target} {th : ℕ}
    {e : BeginEnv} {receipt : Receipt}
    (hbegin : step (run calls) (.observerBegin d session r target th e) = (s, .receipt (some receipt)))
    (hopen : Along (fun s c => ¬Ends s d c) s later) :
    (Held s d r receipt ∧ receipt.target = target ∧ receipt.session = session) ∧
      (Throughout (fun s => Held s d r receipt ∧ Exclusive s d) s later ↔
        Along (fun s c => ¬PublishesPicture s d r c) s later) := by
  have hsound := run_inv calls
  have hs : Sound s := by
    have hstep := step_inv hsound (.observerBegin d session r target th e)
    rw [hbegin] at hstep
    exact hstep
  have hheld : Held s d r receipt ∧ receipt.target = target ∧ receipt.session = session := by
    rw [step] at hbegin
    split_ifs at hbegin with howned
    · cases hbegin
    · have hstate : (observerBegin (run calls) d session r target th e).1 = s :=
        congrArg Prod.fst hbegin
      have hreceipt : (observerBegin (run calls) d session r target th e).2 = some receipt :=
        Ret.receipt.inj (congrArg Prod.snd hbegin)
      have heq : observerBegin (run calls) d session r target th e = (s, some receipt) :=
        Prod.ext hstate hreceipt
      exact held_of_begin hsound (Nat.pos_of_ne_zero howned) heq
  refine ⟨hheld, ?_⟩
  have hfirst := hheld.1
  clear hheld hbegin hsound
  induction later generalizing s with
  | nil => exact iff_of_true ⟨hfirst, exclusive_of_busy hfirst.busy⟩ trivial
  | cons c later ih =>
      have hsound := step_inv hs c
      constructor
      · rintro ⟨-, hrest⟩
        have hnext : Held (step s c).1 d r receipt := hrest.head.1
        exact ⟨hfirst.not_published hs hnext, (ih hopen.2 hsound hnext).mp hrest⟩
      · rintro ⟨hpublish, hrest⟩
        have hnext := hfirst.next hs hopen.1 hpublish
        exact ⟨⟨hfirst, exclusive_of_busy hfirst.busy⟩, (ih hopen.2 hsound hnext).mpr hrest⟩

/-! ### A run -/

/-- The call of the lease of `leaseCalls`. -/
def leaseCall : Call :=
  .observerBegin 0 ⟨(1, 2), 1, 3⟩ 0 ⟨4, 2, 5⟩ 7
    { rounds := [{ dequeued := [{ sink := some 9, src := some (5, 3) }] }] }

/-- The receipt of that lease. -/
def leaseReceipt : Receipt :=
  { session := ⟨(1, 2), 1, 3⟩, target := ⟨4, 2, 5⟩, lease := 6, submitted := 1, completed := 1
    frameNum := 5, captureIndex := 3, planeSize := [64] }

lemma leaseCall_begins : step (run (leaseCalls.take 10)) leaseCall =
    ((step (run (leaseCalls.take 10)) leaseCall).1, .receipt (some leaseReceipt)) :=
  Prod.ext rfl (by decide)

/-- A second decoder gets a request with the leased picture, and hands the picture out. -/
def foreignCalls : List Call :=
  [.decoderInit 1 (3, 4), .allocRequest 1 1 0 0 [.plane 0 0], .dupPicBuf 1]

/-- The lease of `leaseCalls`, under which the leased request is given back by its caller. -/
theorem held_iff_oneLease :
    Held (step (run (leaseCalls.take 10)) leaseCall).1 0 0 leaseReceipt ∧
      (Throughout (fun s => Held s 0 0 leaseReceipt ∧ Exclusive s 0)
          (step (run (leaseCalls.take 10)) leaseCall).1 [.requestUnref 0] ↔
        Along (fun s c => ¬PublishesPicture s 0 0 c)
          (step (run (leaseCalls.take 10)) leaseCall).1 [.requestUnref 0]) := by
  have hopen : Along (fun s c => ¬Ends s 0 c) (step (run (leaseCalls.take 10)) leaseCall).1
      [.requestUnref 0] := ⟨by rintro ⟨_, _, _, _, ⟨⟩, _⟩, trivial⟩
  have h := held_iff leaseCall_begins hopen
  exact ⟨h.1.1, h.2⟩

/-- **A lease does not exclude every change**: `gst_v4l2_request_dup_pic_buf` asks whether the decoder
of its own request is busy, and not that of the buffer. -/
theorem lease_does_not_exclude :
    ¬∀ (calls later : List Call) (d r th : ℕ) (session : Session) (target : Target) (e : BeginEnv)
      (s : State) (receipt : Receipt),
      step (run calls) (.observerBegin d session r target th e) = (s, .receipt (some receipt)) →
      Along (fun s c => ¬Ends s d c) s later → Held (runFrom s later) d r receipt := by
  intro h
  obtain ⟨b, hb⟩ := (h (leaseCalls.take 10) foreignCalls 0 0 7 _ _ _ _ leaseReceipt leaseCall_begins
    ⟨by rintro ⟨_, _, _, _, ⟨⟩, _⟩, by rintro ⟨_, _, _, _, ⟨⟩, _⟩,
      by rintro ⟨_, _, _, _, ⟨⟩, _⟩, trivial⟩).picture
  have hzero : pictureBuffer (runFrom (step (run (leaseCalls.take 10)) leaseCall).1 foreignCalls) 0 0 =
      some 0 := by decide
  have hpublished : ((runFrom (step (run (leaseCalls.take 10)) leaseCall).1 foreignCalls).buf
      0).published = true := by decide
  have hb₀ : b = 0 := Option.some.inj (hb.selected.buffer.symm.trans hzero)
  subst hb₀
  exact absurd (hpublished.symm.trans hb.selected.published) (by decide)

end OmarchyM1Video.GstObserver
