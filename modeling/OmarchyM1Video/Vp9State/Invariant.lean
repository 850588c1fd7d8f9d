import OmarchyM1Video.Vp9State.Steps

/-!
The invariant of a session: how its buffers, slots, timestamps and registrations hang together
after any list of accepted events.

* `BufInv`, `RegInv`, `Inv`: the invariant, buffer by buffer and registration by registration;
* `Inv.queued`, `Inv.decoded`, `Inv.requeued`, `Inv.exportedAs`, `Inv.registered`: each write of
  the queue keeps it, and `Inv.step` puts them together;
* `inv_of_run`: it holds at the end of every run.
-/

namespace OmarchyM1Video.Vp9State

open OmarchyM1Video.Py

namespace Session

/-- The session a constructor call returned. -/
def IsNew (s : Session) : Prop :=
  ∃ path sessionId profile bitDepth, new path sessionId profile bitDepth = .ok s

/-- A buffer that is queued as a destination or registered. -/
def Live (s : Session) (name : String) (buf : Buffer) : Prop :=
  s.buffers.get? name = some buf ∧ (buf.queuedAsDst = true ∨ s.registrations.contains name = true)

/-- What holds of one buffer. -/
structure BufInv (s : Session) (name : String) (buf : Buffer) : Prop where
  eraKnown : ∃ era, s.eras.get? buf.eraId = some era
  depth : buf.bitDepth = s.bitDepth
  wrapper : buf.wrapperAlive = buf.queuedAsDst
  generation : buf.generation = if buf.queuedAsDst then some s.captureGeneration else none
  exported : buf.exported = true → buf.decodedOk = true
  slot : buf.queuedAsDst = true → ∃ i, buf.timestamp = some (dstTimestamp i) ∧
    s.slot.get? i = some name ∧ s.tsIndex.get? (s.captureGeneration, dstTimestamp i) = some name

/-- What holds of one registration. -/
structure RegInv (s : Session) (name : String) (reg : Registration) (buf : Buffer) : Prop where
  hbuf : s.buffers.get? name = some buf
  unqueued : buf.queuedAsDst = false
  exported : buf.exported = true
  decoded : buf.decodedOk = true
  era : reg.eraId = buf.eraId
  generation : reg.generation = s.captureGeneration
  timestamp : buf.timestamp = some reg.timestamp
  indexed : s.tsIndex.get? (s.captureGeneration, reg.timestamp) = some name

/-- The invariant of a session. -/
structure Inv (s : Session) : Prop where
  eraMem : ∀ era, s.currentEra = some era → s.eras.get? era.id = some era
  eraDepth : ∀ i era, s.eras.get? i = some era → era.bitDepth = s.bitDepth
  slotsEra : s.captureSlots ≠ 0 → s.currentEra ≠ none
  bufEra : ∀ name buf, s.buffers.get? name = some buf → s.currentEra ≠ none
  slotLt : ∀ i name, s.slot.get? i = some name → i < s.captureSlots
  tsGen : ∀ g ts name, s.tsIndex.get? (g, ts) = some name → g ≤ s.captureGeneration
  buf : ∀ name buf, s.buffers.get? name = some buf → s.BufInv name buf
  reg : ∀ name reg, s.registrations.get? name = some reg → ∃ buf, s.RegInv name reg buf

variable {s s' : Session}

lemma freeIndex_spec {i : ℕ} (h : s.freeIndex = some i) : i < s.captureSlots ∧ s.slot.get? i = none := by
  have hmem := List.mem_of_find?_eq_some h
  have hfree := List.find?_some h
  exact ⟨List.mem_range.mp hmem, by simpa [Dict.contains] using hfree⟩

/-! ### The writes keep the invariant -/

lemma Inv.congr (h : s.Inv) (same : QueueSame s s') (heras : s'.eras = s.eras)
    (hera : s'.currentEra = s.currentEra) : s'.Inv := by
  obtain ⟨hp, hd, hs, hg, hb, hsl, ht, hr, _⟩ := same
  constructor
  · rw [heras, hera]; exact h.eraMem
  · rw [heras, hd]; exact h.eraDepth
  · rw [hs, hera]; exact h.slotsEra
  · rw [hb, hera]; exact h.bufEra
  · rw [hsl, hs]; exact h.slotLt
  · rw [ht, hg]; exact h.tsGen
  · intro name buf hbuf
    obtain ⟨h1, h2, h3, h4, h5, h6⟩ := h.buf name buf (hb ▸ hbuf)
    exact ⟨by rwa [heras], by rwa [hd], h3, by rwa [hg], h5, by rwa [hsl, ht, hg]⟩
  · intro name reg hreg
    obtain ⟨buf, h1, h2, h3, h4, h5, h6, h7, h8⟩ := h.reg name reg (hr ▸ hreg)
    exact ⟨buf, by rwa [hb], h2, h3, h4, h5, by rwa [hg], h7, by rwa [ht, hg]⟩

lemma Inv.tick (h : s.Inv) : s.tick.Inv :=
  h.congr ⟨rfl, rfl, rfl, rfl, rfl, rfl, rfl, rfl, rfl⟩ rfl rfl

/-- A queued buffer occupies a slot, so slots are allocated. -/
lemma Inv.slots_of_queued (h : s.Inv) {name : String} {buf : Buffer}
    (hbuf : s.buffers.get? name = some buf) (hq : buf.queuedAsDst = true) : s.captureSlots ≠ 0 := by
  obtain ⟨i, _, hslot, _⟩ := (h.buf name buf hbuf).slot hq
  have := h.slotLt i name hslot
  omega

lemma Inv.format (h : s.Inv) (same : QueueSame s s') {era : Era} (hdepth : era.bitDepth = s.bitDepth)
    (heras : s'.eras = s.eras.set era.id era) (hera : s'.currentEra = some era) : s'.Inv := by
  obtain ⟨hp, hd, hs, hg, hb, hsl, ht, hr, _⟩ := same
  constructor
  · intro era' hera'
    obtain rfl : era = era' := Option.some.inj (hera.symm.trans hera')
    rw [heras, Dict.get?_set, if_pos rfl]
  · intro i era' hera'
    rw [heras, Dict.get?_set] at hera'
    rw [hd]
    split_ifs at hera' with hi
    · rw [← Option.some.inj hera', hdepth]
    · exact h.eraDepth i era' hera'
  · intro _
    rw [hera]
    simp
  · intro _ _ _
    rw [hera]
    simp
  · rw [hsl, hs]; exact h.slotLt
  · rw [ht, hg]; exact h.tsGen
  · intro name buf hbuf
    obtain ⟨⟨era', h1⟩, h2, h3, h4, h5, h6⟩ := h.buf name buf (hb ▸ hbuf)
    refine ⟨?_, by rwa [hd], h3, by rwa [hg], h5, by rwa [hsl, ht, hg]⟩
    rw [heras, Dict.get?_set]
    split_ifs
    · exact ⟨era, rfl⟩
    · exact ⟨era', h1⟩
  · intro name reg hreg
    obtain ⟨buf, h1, h2, h3, h4, h5, h6, h7, h8⟩ := h.reg name reg (hr ▸ hreg)
    exact ⟨buf, by rwa [hb], h2, h3, h4, h5, by rwa [hg], h7, by rwa [ht, hg]⟩

lemma BufInv.new (h : s.Inv) {era : Era} (hera : s.currentEra = some era) (name : String)
    (backingBytes : Option ℕ) : s.BufInv name (Buffer.new name era backingBytes) where
  eraKnown := ⟨era, h.eraMem era hera⟩
  depth := h.eraDepth _ era (h.eraMem era hera)
  wrapper := rfl
  generation := rfl
  exported := by simp [Buffer.new]
  slot := by simp [Buffer.new]

/-- The buffer a destination event works on satisfies the invariant, known or new. -/
lemma Inv.dstIn (h : s.Inv) {era : Era} (hera : s.currentEra = some era) (name : String)
    (backingBytes : Option ℕ) : s.BufInv name (s.dstIn era name backingBytes) := by
  cases hbuf : s.buffers.get? name with
  | none =>
      rw [Session.dstIn, hbuf]
      exact .new h hera name _
  | some buf =>
      rw [Session.dstIn, hbuf]
      exact h.buf name buf hbuf

lemma Inv.queued (h : s.Inv) {name : String} {backingBytes : Option ℕ} {era : Era} {buf : Buffer}
    {i : ℕ} (hq : s.CanQueue name backingBytes era buf i) : (s.queued name buf i).Inv := by
  obtain ⟨hlt, hfree⟩ := freeIndex_spec hq.free
  have hself : s.BufInv name buf := hq.hbuf ▸ h.dstIn hq.hera name backingBytes
  -- A timestamp of another name is not the one that is written.
  have hts : ∀ {ts other}, other ≠ name →
      s.tsIndex.get? (s.captureGeneration, ts) = some other →
      (s.queued name buf i).tsIndex.get? (s.captureGeneration, ts) = some other := by
    intro ts other hne hget
    rw [Session.queued, Dict.get?_set, if_neg]
    · exact hget
    · intro hkey
      rw [hkey] at hget
      rcases hq.fresh with hf | hf
      · rw [hf] at hget
        exact absurd hget (by simp)
      · rw [hf] at hget
        exact hne (Option.some.inj hget).symm
  constructor
  · exact h.eraMem
  · exact h.eraDepth
  · exact h.slotsEra
  · intro _ _ _
    rw [Session.queued, hq.hera]
    simp
  · intro j n hj
    rw [Session.queued, Dict.get?_set] at hj
    split_ifs at hj with hji
    · rw [hji]; exact hlt
    · exact h.slotLt j n hj
  · intro g ts n hget
    rw [Session.queued, Dict.get?_set] at hget
    split_ifs at hget with hkey
    · exact (Prod.mk.inj hkey).1.le
    · exact h.tsGen g ts n hget
  · intro n b hb
    rw [Session.queued, Dict.get?_set] at hb
    split_ifs at hb with hn
    · obtain rfl := Option.some.inj hb
      subst hn
      refine ⟨hself.eraKnown, hself.depth, rfl, by simp [Buffer.queueAt, Session.queued],
        hself.exported, fun _ => ⟨i, rfl, by simp [Session.queued], by simp [Session.queued]⟩⟩
    · obtain ⟨h1, h2, h3, h4, h5, h6⟩ := h.buf n b hb
      refine ⟨h1, h2, h3, h4, h5, fun hqd => ?_⟩
      obtain ⟨j, hj1, hj2, hj3⟩ := h6 hqd
      refine ⟨j, hj1, ?_, hts hn hj3⟩
      have hji : j ≠ i := by
        rintro rfl
        rw [hfree] at hj2
        exact absurd hj2 (by simp)
      rw [Session.queued, Dict.get?_set, if_neg hji]
      exact hj2
  · intro n reg hreg
    have hn : n ≠ name := by
      rintro rfl
      exact absurd (hq.unregistered.symm.trans hreg) (by simp)
    obtain ⟨b, h1, h2, h3, h4, h5, h6, h7, h8⟩ := h.reg n reg hreg
    exact ⟨b, by rw [Session.queued, Dict.get?_set, if_neg hn]; exact h1, h2, h3, h4, h5, h6, h7,
      hts hn h8⟩

lemma Inv.decoded (h : s.Inv) {args : DecodeArgs} {era : Era} {buf : Buffer}
    (hera : s.currentEra = some era) (hbuf : s.buffers.get? args.dst = some buf)
    (hqueued : buf.queuedAsDst = true) : (s.decoded buf era args).Inv := by
  have hself := h.buf _ buf hbuf
  constructor
  · exact h.eraMem
  · exact h.eraDepth
  · exact h.slotsEra
  · intro _ _ _
    rw [Session.decoded, hera]
    simp
  · exact h.slotLt
  · exact h.tsGen
  · intro n b hb
    rw [Session.decoded, Dict.get?_set] at hb
    split_ifs at hb with hn
    · obtain rfl := Option.some.inj hb
      subst hn
      exact ⟨⟨era, h.eraMem era hera⟩, rfl, hself.wrapper, hself.generation, fun _ => rfl,
        hself.slot⟩
    · obtain ⟨h1, h2, h3, h4, h5, h6⟩ := h.buf n b hb
      exact ⟨h1, h2, h3, h4, h5, h6⟩
  · intro n reg hreg
    obtain ⟨b, h1, h2, h3, h4, h5, h6, h7, h8⟩ := h.reg n reg hreg
    -- A registered buffer is not queued, so it is not the destination.
    have hn : n ≠ args.dst := by
      rintro rfl
      obtain rfl : buf = b := Option.some.inj (hbuf.symm.trans h1)
      exact absurd (hqueued.symm.trans h2) (by simp)
    exact ⟨b, by rw [Session.decoded, Dict.get?_set, if_neg hn]; exact h1, h2, h3, h4, h5, h6, h7, h8⟩

/-- With no slot allocated no buffer is queued. -/
lemma Inv.unqueued (h : s.Inv) (hslots : s.captureSlots = 0) {name : String} {buf : Buffer}
    (hbuf : s.buffers.get? name = some buf) : buf.queuedAsDst = false := by
  by_contra hq
  exact h.slots_of_queued hbuf (by simpa using hq) hslots

lemma Inv.requeued (h : s.Inv) {count : ℕ} (hera : count ≠ 0 → s.currentEra ≠ none) :
    (s.requeued count).Inv := by
  by_cases hdrop : count = 0 ∨ s.captureSlots ≠ 0
  · have hbuffers : (s.requeued count).buffers = s.buffers.mapVals Buffer.dropWrapper := by
      simp [Session.requeued, hdrop, dropQueue]
    have hsame : (s.requeued count).eras = s.eras ∧ (s.requeued count).currentEra = s.currentEra ∧
        (s.requeued count).bitDepth = s.bitDepth ∧
        (s.requeued count).captureGeneration = s.captureGeneration + 1 ∧
        (s.requeued count).tsIndex = s.tsIndex ∧ (s.requeued count).registrations = ∅ := by
      simp [Session.requeued, hdrop, dropQueue]
    obtain ⟨heras, hcur, hdepth, hgen, hts, hreg⟩ := hsame
    constructor
    · rw [heras, hcur]; exact h.eraMem
    · rw [heras, hdepth]; exact h.eraDepth
    · rw [hcur]; exact hera
    · intro name buf hbuf
      rw [hbuffers, Dict.get?_mapVals, Option.map_eq_some_iff] at hbuf
      obtain ⟨b, hb, -⟩ := hbuf
      rw [hcur]
      exact h.bufEra name b hb
    · intro i name hi
      simp [Session.requeued] at hi
    · intro g ts name hget
      rw [hgen]
      exact (h.tsGen g ts name (hts ▸ hget)).trans (Nat.le_succ _)
    · intro name buf hbuf
      rw [hbuffers, Dict.get?_mapVals, Option.map_eq_some_iff] at hbuf
      obtain ⟨b, hb, rfl⟩ := hbuf
      obtain ⟨h1, h2, h3, h4, h5, h6⟩ := h.buf name b hb
      exact ⟨by rwa [heras], by rwa [hdepth], rfl, rfl, h5, by simp [Buffer.dropWrapper]⟩
    · intro name reg hget
      rw [hreg] at hget
      exact absurd hget (by simp)
  · obtain ⟨hcount, hslots⟩ := not_or.mp hdrop
    have hslots' : s.captureSlots = 0 := not_not.mp hslots
    have hstate : s.requeued count = { s with captureSlots := count, slot := ∅ } := by
      simp [Session.requeued, hdrop]
    rw [hstate]
    constructor
    · exact h.eraMem
    · exact h.eraDepth
    · exact hera
    · exact h.bufEra
    · intro i name hi
      simp at hi
    · exact h.tsGen
    · intro name buf hbuf
      obtain ⟨h1, h2, h3, h4, h5, h6⟩ := h.buf name buf hbuf
      refine ⟨h1, h2, h3, h4, h5, fun hq => ?_⟩
      exact absurd (hq.symm.trans (h.unqueued hslots' hbuf)) (by simp)
    · intro name reg hget
      obtain ⟨buf, h1, h2, h3, h4, h5, h6, h7, h8⟩ := h.reg name reg hget
      exact ⟨buf, h1, h2, h3, h4, h5, h6, h7, h8⟩

lemma Inv.exportedAs (h : s.Inv) {name : String} {buf : Buffer} {backingBytes : Option ℕ}
    (hbuf : s.buffers.get? name = some buf) (hdec : buf.decodedOk = true) :
    (s.exportedAs name buf backingBytes).Inv := by
  constructor
  · exact h.eraMem
  · exact h.eraDepth
  · exact h.slotsEra
  · intro _ _ _
    exact h.bufEra name buf hbuf
  · exact h.slotLt
  · exact h.tsGen
  · intro n b hb
    rw [Session.exportedAs, Dict.get?_set] at hb
    split_ifs at hb with hn
    · obtain rfl := Option.some.inj hb
      subst hn
      obtain ⟨h1, h2, h3, h4, h5, h6⟩ := h.buf n buf hbuf
      exact ⟨h1, h2, h3, h4, fun _ => hdec, h6⟩
    · obtain ⟨h1, h2, h3, h4, h5, h6⟩ := h.buf n b hb
      exact ⟨h1, h2, h3, h4, h5, h6⟩
  · intro n reg hreg
    obtain ⟨b, h1, h2, h3, h4, h5, h6, h7, h8⟩ := h.reg n reg hreg
    by_cases hn : n = name
    · subst hn
      obtain rfl : buf = b := Option.some.inj (hbuf.symm.trans h1)
      refine ⟨{ buf with exported := true, backingBytes := backingBytes.getD buf.backingBytes },
        ?_, h2, rfl, h4, h5, h6, h7, h8⟩
      rw [Session.exportedAs, Dict.get?_set, if_pos rfl]
    · exact ⟨b, by rw [Session.exportedAs, Dict.get?_set, if_neg hn]; exact h1, h2, h3, h4, h5,
        h6, h7, h8⟩

lemma Inv.registered (h : s.Inv) {name : String} {buf : Buffer} {ts : ℕ} {index : Option ℕ}
    (hr : s.CanRegister name ts index buf) : (s.registered name buf ts index).Inv := by
  obtain ⟨_, hbuf, hexp, hdec, hunq, _, hfresh, _⟩ := hr
  -- The written timestamp was free, so every lookup of this generation stays.
  have hts : ∀ {t other}, s.tsIndex.get? (s.captureGeneration, t) = some other →
      (s.registered name buf ts index).tsIndex.get? (s.captureGeneration, t) = some other := by
    intro t other hget
    rw [Session.registered, Dict.get?_set, if_neg]
    · exact hget
    · intro hkey
      rw [hkey, hfresh] at hget
      exact absurd hget (by simp)
  constructor
  · exact h.eraMem
  · exact h.eraDepth
  · exact h.slotsEra
  · intro _ _ _
    exact h.bufEra name buf hbuf
  · exact h.slotLt
  · intro g t n hget
    rw [Session.registered, Dict.get?_set] at hget
    split_ifs at hget with hkey
    · exact (Prod.mk.inj hkey).1.le
    · exact h.tsGen g t n hget
  · intro n b hb
    rw [Session.registered, Dict.get?_set] at hb
    split_ifs at hb with hn
    · obtain rfl := Option.some.inj hb
      subst hn
      obtain ⟨h1, h2, h3, h4, h5, h6⟩ := h.buf n buf hbuf
      rw [hunq] at h3 h4
      exact ⟨h1, h2, h3, h4, h5, by simp⟩
    · obtain ⟨h1, h2, h3, h4, h5, h6⟩ := h.buf n b hb
      refine ⟨h1, h2, h3, h4, h5, fun hq => ?_⟩
      obtain ⟨i, hi1, hi2, hi3⟩ := h6 hq
      exact ⟨i, hi1, hi2, hts hi3⟩
  · intro n reg hreg
    rw [Session.registered, Dict.get?_set] at hreg
    split_ifs at hreg with hn
    · obtain rfl := Option.some.inj hreg
      subst hn
      exact ⟨{ buf with timestamp := some ts, queuedAsDst := false },
        by rw [Session.registered, Dict.get?_set, if_pos rfl], rfl, hexp, hdec, rfl, rfl, rfl,
        by rw [Session.registered, Dict.get?_set, if_pos rfl]⟩
    · obtain ⟨b, h1, h2, h3, h4, h5, h6, h7, h8⟩ := h.reg n reg hreg
      exact ⟨b, by rw [Session.registered, Dict.get?_set, if_neg hn]; exact h1, h2, h3, h4, h5,
        h6, h7, hts h8⟩

/-- **Every step keeps the invariant.** -/
theorem Inv.step (h : s.Inv) {e : Event} (hstep : Step s e s') : s'.Inv := by
  cases hstep with
  | idle _ same heras hera => exact h.congr same heras hera
  | format _ same _ era _ hdepth heras hera => exact h.format same hdepth heras hera
  | reqbufs _ hera => exact (h.requeued hera).tick
  | queue hq => exact (h.queued hq).tick
  | decodeQueued _ hcan hbuf hqueued => exact (h.decoded hcan.hera hbuf hqueued).tick
  | decodeNew _ hcan hq => exact ((h.queued hq).decoded hcan.hera (queued_get? _ _ _ _) rfl).tick
  | exportTo hbuf hdec => exact (h.exportedAs hbuf hdec).tick
  | register hr => exact (h.registered hr).tick

lemma new_ok {path sessionId : String} {profile bitDepth : ℤ}
    (h : new path sessionId profile bitDepth = .ok s) :
    ∃ (p : Path) (pr d : ℕ), s = { path := p, sessionId, profile := pr, bitDepth := d } := by
  simp only [new, Except.bind_ok, Except.pure_ok] at h
  obtain ⟨p, _, _, _, _, _, _, _, rfl⟩ := h
  exact ⟨p, profile.toNat, bitDepth.toNat, rfl⟩

lemma inv_of_isNew (h : s.IsNew) : s.Inv := by
  obtain ⟨path, sessionId, profile, bitDepth, hnew⟩ := h
  obtain ⟨p, pr, d, rfl⟩ := new_ok hnew
  constructor <;> simp

/-- **The invariant holds at the end of every run of accepted events.** -/
theorem inv_of_run {s₀ : Session} {evs : List Event} (h₀ : s₀.IsNew)
    (hrun : each apply evs s₀ = .ok () s) : s.Inv :=
  each_invariant (inv_of_isNew h₀) (fun _ _ _ hinv happ => hinv.step (step_of_apply happ)) hrun

end Session

end OmarchyM1Video.Vp9State
