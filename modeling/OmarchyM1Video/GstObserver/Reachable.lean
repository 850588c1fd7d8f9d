import OmarchyM1Video.GstObserver.Locality

/-!
The states that calls lead to.

* `Does`, `step_does`: **what a call does**, from which later results take their cases;
* `step_inv`, `run_inv`: **every call keeps the accounts**, so they are in order in every state.
-/

namespace OmarchyM1Video.GstObserver

variable {s s' : State} {d r : ℕ}

/-! ### Calls -/

/-- The planes that a call publishes for a caller. -/
def publishedBy (s : State) : Call → List Mem
  | .dupPicBuf r => if (s.req r).owned ≠ 0 ∧ (dupPicBuf s r).2 then (s.req r).picBuf.getD [] else []
  | .outputPicture r buffer poll es =>
      if (s.req r).owned ≠ 0 ∧ (outputPicture s r buffer poll es).2 then buffer else []
  | _ => []

/-- The lines that a call writes. -/
def linesOf (s : State) : Call → List Record
  | .requestQueue r e => if (s.req r).owned = 0 then [] else queueLines s r e
  | _ => []

/-- What a call does. -/
inductive Does (s : State) (c : Call) (s' : State) : Prop where
  | nothing (heq : s' = s) (hlines : linesOf s c = [])
  | idle (d : ℕ) (s₁ : State) (hlive : (s.dec d).live = true) (hbusy : (s.dec d).busy = false)
      (hon : On d (linesOf s c) s s₁) (heq : s' = bufferPublish s₁ (publishedBy s c))
  | storage (d : ℕ) (hbusy : (s.dec d).busy = false) (hon : On d [] s s') (hdec : s'.dec = s.dec)
      (hreq : s'.req = s.req) (hlines : linesOf s c = [])
  | made (hon : ∀ d, On d [] s s') (hdec : s'.dec = s.dec) (hreq : s'.req = s.req)
      (hlines : linesOf s c = [])
  | init (d : ℕ) (run : ℕ × ℕ) (hdead : (s.dec d).live = false) (hc : c = .decoderInit d run)
  | refs (r : ℕ) (howned : 0 < (s.req r).owned) (hc : c = .requestRef r ∨ c = .requestUnref r)
  | granted (d r : ℕ) (s₁ : State) (found : Target × ℕ × ℕ × List ℕ) (hlive : (s.dec d).live = true)
      (hbusy : (s.dec d).busy = false) (hdrained : Drained s s₁ d r)
          (heq : s' = (grant s₁ d r found).1)
      (hlines : linesOf s c = [])
  | ended (d : ℕ) (session : Session) (lease th : ℕ) (lock : Bool)
      (hc : c = .observerEnd d session lease th lock)
      (hend : (observerEnd s d session lease th lock).2 = true)

section Does

variable {c : Call}

lemma does_withDecoder (hlines : linesOf s c = []) (hpublished : publishedBy s c = [])
    {f : State → State × Bool} (hstep : step s c = withDecoder s d f)
    (hon : On d [] s (f s).1) (hbusy : (s.dec d).busy = true → (f s).1 = s) :
    Does s c (step s c).1 := by
  rw [hstep, withDecoder]
  split_ifs with hlive
  · cases hb : (s.dec d).busy with
    | true => exact .nothing (hbusy hb) hlines
    | false =>
        refine .idle d (f s).1 hlive hb ?_ ?_
        · rw [hlines]
          exact hon
        · rw [hpublished]
          rfl
  · exact .nothing rfl hlines

lemma does_withRequest (hinv : Inv s) (h : Known s) (hpublished : publishedBy s c = [])
    {f : State → State × Bool} (hstep : step s c = withRequest s r f)
    (hnone : (s.req r).owned = 0 → linesOf s c = [])
    (hon : (s.req r).owned ≠ 0 → On (s.req r).decoder (linesOf s c) s (f s).1)
    (hbusy : (s.dec (s.req r).decoder).busy = true → (f s).1 = s ∧ linesOf s c = []) :
    Does s c (step s c).1 := by
  rw [hstep, withRequest]
  split_ifs with howned
  · exact .nothing rfl (hnone howned)
  · cases hb : (s.dec (s.req r).decoder).busy with
    | true => exact .nothing (hbusy hb).1 (hbusy hb).2
    | false =>
        refine .idle _ (f s).1 (h.owned_live hinv (Nat.pos_of_ne_zero howned)) hb (hon howned) ?_
        rw [hpublished]
        rfl

lemma unlessBusy_of_busy' (h : (s.dec d).busy = true) (f : Decoder → Decoder) (ok : Bool) :
    (unlessBusy s d f ok).1 = s := by
  rw [unlessBusy, if_pos h]

lemma setDone_of_busy (h : (s.dec (s.req r).decoder).busy = true) (poll : Poll)
    (es : List Dequeued) : setDone s r poll es = (s, -1) := if_pos h

lemma does_outputPicture (hinv : Inv s) (h : Known s) (r : ℕ) (buffer : List Mem) (poll : Poll)
    (es : List Dequeued) :
    Does s (.outputPicture r buffer poll es) (step s (.outputPicture r buffer poll es)).1 := by
  rw [step, withRequest]
  split_ifs with howned
  · exact .nothing rfl rfl
  have hlive := h.owned_live hinv (Nat.pos_of_ne_zero howned)
  cases hb : (s.dec (s.req r).decoder).busy with
  | true =>
      refine .nothing ?_ rfl
      rw [outputPicture, setDone_of_busy hb]
      rfl
  | false =>
      refine .idle _ (setDone s r poll es).1 hlive hb (setDone_on hinv r poll es) ?_
      have hout : outputPicture s r buffer poll es =
          if (setDone s r poll es).2 ≤ 0 then ((setDone s r poll es).1, false)
          else if ((setDone s r poll es).1.req r).failed then ((setDone s r poll es).1, false)
          else (bufferPublish (setDone s r poll es).1 buffer, true) := rfl
      rw [publishedBy]
      by_cases hret : (setDone s r poll es).2 ≤ 0
      · rw [hout, if_pos hret, if_neg fun hall => Bool.false_ne_true hall.2]
        rfl
      · by_cases hfailed : ((setDone s r poll es).1.req r).failed = true
        · rw [hout, if_neg hret, if_pos hfailed, if_neg fun hall => Bool.false_ne_true hall.2]
          rfl
        · rw [hout, if_neg hret, if_neg hfailed, if_pos ⟨howned, rfl⟩]

lemma does_dupPicBuf (hinv : Inv s) (h : Known s) (r : ℕ) :
    Does s (.dupPicBuf r) (step s (.dupPicBuf r)).1 := by
  rw [step, withRequest]
  split_ifs with howned
  · exact .nothing rfl rfl
  have hlive := h.owned_live hinv (Nat.pos_of_ne_zero howned)
  cases hb : (s.dec (s.req r).decoder).busy with
  | true => exact .nothing (by rw [dupPicBuf, if_pos hb]) rfl
  | false =>
      refine .idle _ s hlive hb (On.refl _ s) ?_
      have hdup : dupPicBuf s r = (bufferPublish s ((s.req r).picBuf.getD []), true) :=
        if_neg (by rw [hb]; decide)
      rw [publishedBy, hdup, if_pos ⟨howned, rfl⟩]

lemma does_setDoneHead (hinv : Inv s) (h : Known s) (d : ℕ) (poll : Poll) (es : List Dequeued) :
    Does s (.setDoneHead d poll es) (step s (.setDoneHead d poll es)).1 := by
  rw [step]
  cases hpending : (s.dec d).pending with
  | nil => exact .nothing rfl rfl
  | cons p rest =>
      have hp : p ∈ (s.dec d).pending := by rw [hpending]; exact List.mem_cons_self
      have hpd := (hinv.pending d p hp).1
      have hlive := h.used p (hinv.live_of_pending hp)
      cases hb : (s.dec (s.req p).decoder).busy with
      | true =>
          refine .nothing ?_ rfl
          dsimp only
          rw [setDone_of_busy hb]
      | false => exact .idle _ (setDone s p poll es).1 hlive hb (setDone_on hinv p poll es) rfl

lemma does_observerBegin (hinv : Inv s) (h : Known s) (d : ℕ) (session : Session) (r : ℕ)
    (target : Target) (th : ℕ) (e : BeginEnv) :
    Does s (.observerBegin d session r target th e)
      (step s (.observerBegin d session r target th e)).1 := by
  rw [step]
  split_ifs with howned
  · exact .nothing rfl rfl
  have hpos := Nat.pos_of_ne_zero howned
  obtain heq | ⟨hasked, heq | heq | ⟨found, -, -, -, -, -, heq⟩⟩ :=
    observerBegin_cases s d session r target th e
  · rw [heq]
    exact .nothing rfl rfl
  all_goals
    have hr := hasked.decoder
    have hlive := h.owned_live hinv hpos
    rw [hr] at hlive
    have hbusy : (s.dec d).busy = false := hasked.observable.1
    have hdrained := drained_of hinv hpos hr e.rounds
    rw [heq]
  · exact .idle d _ hlive hbusy (hdrained.on.trans (requestUnref_on hdrained.decoder)) rfl
  · refine .idle d _ hlive hbusy (hdrained.on.trans ((On.generate d _).trans ?_)) rfl
    exact requestUnref_on (s := (drained s d r e.rounds).generate) hdrained.decoder
  · exact .granted d r _ found hlive hbusy hdrained rfl rfl

lemma does_observerOpen (h : Known s) (d th : ℕ) (lock : Bool) :
    Does s (.observerOpen d th lock) (step s (.observerOpen d th lock)).1 := by
  by_cases hopen : lock = true ∧ (s.dec d).opened = true ∧ (s.dec d).docMode = false ∧
      (s.dec d).retired = false ∧ (s.dec d).format = hevcSlice ∧ (s.dec d).generation ≠ 0 ∧
      (s.dec d).run ≠ (0, 0) ∧ (s.dec d).session = 0 ∧ (s.dec d).busy = false
  · have hlive : (s.dec d).live = true := by
      by_contra hdead
      rw [h.dead d (Bool.eq_false_iff.mpr hdead)] at hopen
      exact absurd hopen.2.1 (by decide)
    exact .idle d _ hlive hopen.2.2.2.2.2.2.2.2 (observerOpen_on th lock) rfl
  · exact .nothing (by rw [step, observerOpen, if_neg hopen]) rfl

lemma does_observerClose (h : Known s) (d : ℕ) (session : Session) (th : ℕ) (lock : Bool) :
    Does s (.observerClose d session th lock) (step s (.observerClose d session th lock)).1 := by
  by_cases hclose : lock = true ∧ sessionValid s d session th = true ∧ (s.dec d).busy = false
  · exact .idle d _ (h.session_live (sessionValid_session hclose.2.1)) hclose.2.2
      (observerClose_on session th lock) rfl
  · exact .nothing (by rw [step, observerClose, if_neg hclose]) rfl

lemma does_observerEnd (d : ℕ) (session : Session) (lease th : ℕ) (lock : Bool) :
    Does s (.observerEnd d session lease th lock)
      (step s (.observerEnd d session lease th lock)).1 := by
  by_cases hend : lock = true ∧ sessionValid s d session th = true ∧ lease ≠ 0 ∧
      (s.dec d).lease = lease ∧ (s.dec d).ending = false
  · refine .ended d session lease th lock rfl ?_
    rw [observerEnd, if_pos hend]
  · refine .nothing ?_ rfl
    rw [step, observerEnd, if_neg hend]

lemma does_requestQueue (hinv : Inv s) (h : Known s) (r : ℕ) (e : QueueEnv) :
    Does s (.requestQueue r e) (step s (.requestQueue r e)).1 := by
  refine does_withRequest hinv h rfl (f := fun s => requestQueue s r e) rfl
    (fun howned => if_pos howned) (fun howned => ?_) fun hbusy => ?_
  · rw [linesOf, if_neg howned]
    have hrefs := hinv.refs r
    exact requestQueue_on (by omega) e
  · have heq : requestQueue s r e = (s, false) := if_pos hbusy
    rw [linesOf, queueLines, heq, if_neg Bool.false_ne_true, ite_self]
    exact ⟨rfl, rfl⟩

lemma Inv.busy_iff (h : Inv s) : (s.dec d).busy = (s.dec d).retained := by
  rw [Decoder.busy, h.ending, Bool.or_false, Decoder.retained]

lemma does_requestBuffers (hinv : Inv s) (d : ℕ) (ok : Bool) :
    Does s (.requestBuffers d ok) (step s (.requestBuffers d ok)).1 := by
  refine does_withDecoder rfl rfl (f := fun s => requestBuffers s d ok) rfl ?_ fun hb => ?_
  · rw [requestBuffers]
    split_ifs
    · exact On.refl d s
    · obtain ⟨hlive, hlease, htrace⟩ := reconfigured_live (s.dec d)
      exact On.setDec hlive hlease htrace
  · rw [requestBuffers, ← hinv.busy_iff, if_pos hb]

lemma does_allocatorDetach (hinv : Inv s) (a : ℕ) :
    Does s (.allocatorDetach a) (step s (.allocatorDetach a)).1 := by
  cases hb : (s.dec (s.alloc a).decoder).busy with
  | true =>
      refine .nothing ?_ rfl
      rw [step, allocatorDetach, ← hinv.busy_iff, if_pos hb]
  | false =>
      refine .storage _ hb (allocatorDetach_on a) ?_ ?_ rfl
      · rw [step, allocatorDetach]
        split_ifs <;> rfl
      · rw [step, allocatorDetach]
        split_ifs <;> rfl

lemma does_allocSubRequest (d r prev bitstream : ℕ) :
    Does s (.allocSubRequest d r prev bitstream)
        (step s (.allocSubRequest d r prev bitstream)).1 := by
  rw [step, withRequest]
  split_ifs with hlive howned
  · exact .nothing rfl rfl
  · cases hb : (s.dec d).busy with
    | true =>
        refine .nothing ?_ rfl
        rw [allocSubRequest, hb, Bool.true_or, if_pos rfl]
    | false => exact .idle d _ hlive hb allocSubRequest_on rfl
  · exact .nothing rfl rfl

lemma does_allocatorNew (a d : ℕ) (src : Bool) :
    Does s (.allocatorNew a d src) (step s (.allocatorNew a d src)).1 := by
  rw [step, withDecoder]
  split_ifs
  · refine .made (fun e => allocatorNew_on e) ?_ ?_ rfl
    · rw [allocatorNew]
      split_ifs <;> rfl
    · rw [allocatorNew]
      split_ifs <;> rfl
  · exact .nothing rfl rfl

lemma does_bufferNew (b a index : ℕ) (sizes : List ℕ) :
    Does s (.bufferNew b a index sizes) (step s (.bufferNew b a index sizes)).1 := by
  refine .made (fun e => bufferNew_on) ?_ ?_ rfl
  · rw [step, bufferNew]
    split_ifs <;> rfl
  · rw [step, bufferNew]
    split_ifs <;> rfl

lemma does_refs {f : State → State × Bool} (hstep : step s c = withRequest s r f)
    (hlines : linesOf s c = []) (hc : c = .requestRef r ∨ c = .requestUnref r) :
    Does s c (step s c).1 := by
  rw [hstep, withRequest]
  split_ifs with howned
  · exact .nothing rfl hlines
  · exact .refs r (Nat.pos_of_ne_zero howned) hc

/-- **What a call does**, from a state with the accounts in order. -/
theorem step_does (hinv : Inv s) (h : Known s) (c : Call) : Does s c (step s c).1 := by
  cases c with
  | decoderInit d run =>
      cases hlive : (s.dec d).live with
      | true => exact .nothing (by rw [step, decoderInit, if_pos hlive]) rfl
      | false => exact .init d run hlive rfl
  | decoderOpen d docMode ok =>
      exact does_withDecoder rfl rfl (f := fun s => decoderOpen s d docMode ok) rfl
        (unlessBusy_on fun _ => ⟨rfl, rfl, rfl⟩) fun hb => unlessBusy_of_busy' hb _ _
  | decoderClose d =>
      refine does_withDecoder rfl rfl (f := fun s => decoderClose s d) rfl
        (decoderClose_accounts hinv d).2 fun hb => ?_
      rw [decoderClose, if_pos hb]
  | streamon d src ok =>
      exact does_withDecoder rfl rfl (f := fun s => streamon s d src ok) rfl
        (unlessBusy_on fun _ => ⟨rfl, rfl, rfl⟩) fun hb => unlessBusy_of_busy' hb _ _
  | streamoff d src ok =>
      refine does_withDecoder rfl rfl (f := fun s => streamoff s d src ok) rfl
        (streamoff_accounts hinv d src ok).2 fun hb => ?_
      rw [streamoff, if_pos hb]
  | setSinkFmt d format ok =>
      refine does_withDecoder rfl rfl (f := fun s => setSinkFmt s d format ok) rfl
        (unlessBusy_on fun x => ?_) fun hb => unlessBusy_of_busy' hb _ _
      split_ifs
      · exact reconfigured_live x
      · exact reconfigured_live x
  | selectSrcFormat d ok =>
      exact does_withDecoder rfl rfl (f := fun s => selectSrcFormat s d ok) rfl
        (unlessBusy_on reconfigured_live) fun hb => unlessBusy_of_busy' hb _ _
  | requestBuffers d ok => exact does_requestBuffers hinv d ok
  | exportBuffer d ok =>
      exact does_withDecoder rfl rfl (f := fun s => exportBuffer s d ok) rfl
        (unlessBusy_on fun _ => ⟨rfl, rfl, rfl⟩) fun hb => unlessBusy_of_busy' hb _ _
  | allocatorNew a d src => exact does_allocatorNew a d src
  | bufferNew b a index sizes => exact does_bufferNew b a index sizes
  | allocatorDetach a => exact does_allocatorDetach hinv a
  | memoryMap m =>
      obtain heq | ⟨b, hbusy, heq⟩ := memoryMap_cases s m
      · exact .nothing heq rfl
      · exact .storage _ hbusy (heq ▸ On.setBuf (.inl rfl)) (heq ▸ rfl) (heq ▸ rfl) rfl
  | allocRequest d r frame bitstream picBuf =>
      refine does_withDecoder rfl rfl (f := fun s => allocRequest s d r frame bitstream picBuf) rfl
        allocRequest_on fun hb => ?_
      rw [allocRequest, hb, Bool.true_or, if_pos rfl]
  | allocSubRequest d r prev bitstream => exact does_allocSubRequest d r prev bitstream
  | requestRef r =>
      exact does_refs (f := fun s => (requestRef
        (s.setReq r { s.req r with owned := (s.req r).owned + 1 }) r, true)) rfl rfl (.inl rfl)
  | requestUnref r =>
      exact does_refs (f := fun s => (requestUnref
        (s.setReq r { s.req r with owned := (s.req r).owned - 1 }) r, true)) rfl rfl (.inr rfl)
  | requestQueue r e => exact does_requestQueue hinv h r e
  | setDone r poll es =>
      refine does_withRequest hinv h rfl (f := fun s => ((setDone s r poll es).1,
        decide (0 < (setDone s r poll es).2))) rfl (fun _ => rfl)
        (fun _ => setDone_on hinv r poll es) fun hb => ⟨?_, rfl⟩
      rw [setDone_of_busy hb]
  | setDoneHead d poll es => exact does_setDoneHead hinv h d poll es
  | outputPicture r buffer poll es => exact does_outputPicture hinv h r buffer poll es
  | dupPicBuf r => exact does_dupPicBuf hinv h r
  | getFd r =>
      refine does_withRequest hinv h rfl (f := fun s => getFd s r) rfl (fun _ => rfl) (fun _ => ?_)
        fun hb => ⟨?_, rfl⟩
      · rw [getFd]
        split_ifs
        · exact On.refl _ s
        · exact On.setDec rfl rfl rfl
      · rw [getFd, if_pos hb]
  | observerOpen d th lock => exact does_observerOpen h d th lock
  | observerSelect d session r th lock =>
      refine .nothing ?_ rfl
      rw [step]
      split_ifs <;> rfl
  | observerBegin d session r target th e => exact does_observerBegin hinv h d session r target th e
  | observerEnd d session lease th lock => exact does_observerEnd d session lease th lock
  | observerClose d session th lock => exact does_observerClose h d session th lock

end Does

/-! ### Runs -/

section Runs

variable {c : Call}

lemma withDecoder_inv (h : Inv s) {f : State → State × Bool} (hf : Inv (f s).1) :
    Inv (withDecoder s d f).1 := by
  rw [withDecoder]
  split_ifs
  · exact hf
  · exact h

lemma withRequest_inv (h : Inv s) {f : State → State × Bool}
    (hf : 0 < (s.req r).owned → Inv (f s).1) : Inv (withRequest s r f).1 := by
  rw [withRequest]
  split_ifs with howned
  · exact h
  · exact hf (Nat.pos_of_ne_zero howned)

lemma Inv.decoderInit (h : Inv s) (hknown : Known s) (d : ℕ) (run : ℕ × ℕ) :
    Inv (decoderInit s d run).1 := by
  rw [GstObserver.decoderInit]
  split_ifs with hlive
  · exact h
  · have hdead := hknown.dead d (Bool.eq_false_iff.mpr hlive)
    refine Inv.generate (SameAccounts.inv ?_ h)
    refine SameAccounts.setDec ?_ ?_ ?_ ?_ ?_ fun _ => ?_ <;> rw [hdead]

lemma Inv.requestBuffers (h : Inv s) (d : ℕ) (ok : Bool) : Inv (requestBuffers s d ok).1 := by
  rw [GstObserver.requestBuffers]
  split_ifs
  · exact h
  · obtain ⟨hpending, hunqueued, hlease, hrequest, hending, hsession⟩ :=
      reconfigured_fields (s.dec d)
    exact (SameAccounts.setDec hpending hunqueued hlease hrequest hending fun _ => hsession).inv h

lemma Inv.callerUnref (h : Inv s) (howned : 0 < (s.req r).owned) :
    Inv (GstObserver.requestUnref (s.setReq r { s.req r with owned :=
        (s.req r).owned - 1 }) r) := by
  have hrefs := h.refs r
  have hself : (s.setReq r { s.req r with owned := (s.req r).owned - 1 }).req r =
      { s.req r with owned := (s.req r).owned - 1 } := by
    rw [State.setReq_req, Function.update_self]
  have h₁ : Inv (s.setReq r { s.req r with owned := (s.req r).owned - 1 }) := by
    refine h.setReq rfl rfl Iff.rfl ?_
    dsimp only
    omega
  refine h₁.requestUnref ?_
  rw [hself, State.setReq_dec]
  dsimp only
  omega

lemma Inv.observerBegin (h : Inv s) (howned : 0 < (s.req r).owned) (d : ℕ) (session : Session)
    (target : Target) (th : ℕ) (e : BeginEnv) : Inv (observerBegin s d session r target th e).1 :=
        by
  obtain heq | ⟨hasked, hrest⟩ := observerBegin_cases s d session r target th e
  · rw [heq]
    exact h
  have hdrained := drained_of h howned hasked.decoder e.rounds
  obtain heq | heq | ⟨found, -, -, -, -, -, heq⟩ := hrest
  · rw [heq]
    exact hdrained.inv.requestUnref hdrained.spare
  · rw [heq]
    exact hdrained.inv.generate.requestUnref hdrained.spare
  · rw [heq]
    refine hdrained.inv.grant hdrained.decoder hdrained.spare ?_ found
    have hsession : ((drained s d r e.rounds).dec d).steady.session = (s.dec d).steady.session := by
      rw [hdrained.steady]
    exact fun hzero => sessionValid_session hasked.valid (hsession.symm.trans hzero)

/-- The request that a decoder leases, when the lease ends. -/
lemma observerEnd_eq (h : Known s) {session : Session} {lease th : ℕ} {lock : Bool}
    (hend : (observerEnd s d session lease th lock).2 = true) :
    sessionValid s d session th = true ∧ lease ≠ 0 ∧ (s.dec d).lease = lease ∧
      ∃ r, (s.dec d).request = some r ∧ (s.req r).decoder = d ∧
        (observerEnd s d session lease th lock).1 =
          requestUnref (s.setDec d { s.dec d with lease := 0, request := none }) r := by
  rw [observerEnd] at hend ⊢
  by_cases hcond : lock = true ∧ sessionValid s d session th = true ∧ lease ≠ 0 ∧
      (s.dec d).lease = lease ∧ (s.dec d).ending = false
  · rw [if_pos hcond]
    obtain ⟨r, hrequest, hr⟩ := h.leased d (by rw [hcond.2.2.2.1]; exact hcond.2.2.1)
    refine ⟨hcond.2.1, hcond.2.2.1, hcond.2.2.2.1, r, hrequest, hr, ?_⟩
    dsimp only
    rw [hrequest]
  · rw [if_neg hcond] at hend
    cases hend

lemma Inv.observerEnd (h : Inv s) (hknown : Known s) (d : ℕ) (session : Session) (lease th : ℕ)
    (lock : Bool) : Inv (observerEnd s d session lease th lock).1 := by
  cases hend : (GstObserver.observerEnd s d session lease th lock).2 with
  | false =>
      rw [GstObserver.observerEnd] at hend ⊢
      dsimp only at hend ⊢
      split_ifs at hend ⊢
      exact h
  | true =>
      obtain ⟨-, hne, hlease, r, hrequest, hr, heq⟩ := observerEnd_eq hknown hend
      rw [heq]
      exact h.release hr (hlease ▸ hne) hrequest

lemma step_accounts (h : Inv s) (hknown : Known s) (c : Call) : Inv (step s c).1 := by
  cases c with
  | decoderInit d run => exact h.decoderInit hknown d run
  | decoderOpen d docMode ok =>
      exact withDecoder_inv h (unlessBusy_inv h fun _ => ⟨rfl, rfl, rfl, rfl, rfl, rfl⟩)
  | decoderClose d => exact withDecoder_inv h (decoderClose_accounts h d).1
  | streamon d src ok =>
      exact withDecoder_inv h (unlessBusy_inv h fun _ => ⟨rfl, rfl, rfl, rfl, rfl, rfl⟩)
  | streamoff d src ok => exact withDecoder_inv h (streamoff_accounts h d src ok).1
  | setSinkFmt d format ok =>
      refine withDecoder_inv h (unlessBusy_inv h fun x => ?_)
      split_ifs
      · exact reconfigured_fields x
      · exact reconfigured_fields x
  | selectSrcFormat d ok => exact withDecoder_inv h (unlessBusy_inv h reconfigured_fields)
  | requestBuffers d ok => exact withDecoder_inv h (h.requestBuffers d ok)
  | exportBuffer d ok =>
      exact withDecoder_inv h (unlessBusy_inv h fun _ => ⟨rfl, rfl, rfl, rfl, rfl, rfl⟩)
  | allocatorNew a d src => exact withDecoder_inv h (h.allocatorNew a d src)
  | bufferNew b a index sizes => exact h.bufferNew b a index sizes
  | allocatorDetach a => exact h.allocatorDetach a
  | memoryMap m =>
      obtain heq | ⟨b, -, heq⟩ := memoryMap_cases s m
      · rw [step, heq]
        exact h
      · rw [step, heq]
        exact (publishBuf_same s b).inv h
  | allocRequest d r frame bitstream picBuf =>
      exact withDecoder_inv h (h.allocRequest d r frame bitstream picBuf)
  | allocSubRequest d r prev bitstream =>
      rw [step]
      split_ifs
      · exact withRequest_inv h fun _ => h.allocSubRequest d r prev bitstream
      · exact h
  | requestRef r => exact withRequest_inv h h.ownRef
  | requestUnref r => exact withRequest_inv h h.callerUnref
  | requestQueue r e => exact withRequest_inv h fun howned => h.requestQueue howned e
  | setDone r poll es => exact withRequest_inv h fun _ => h.setDone r poll es
  | setDoneHead d poll es =>
      rw [step]
      split
      · exact h
      · exact h.setDone _ poll es
  | outputPicture r buffer poll es =>
      refine withRequest_inv h fun _ => ?_
      have hdone := h.setDone r poll es
      rw [outputPicture]
      dsimp only
      split_ifs
      · exact hdone
      · exact hdone
      · exact (bufferPublish_same _ buffer).inv hdone
  | dupPicBuf r =>
      refine withRequest_inv h fun _ => ?_
      rw [dupPicBuf]
      split_ifs
      · exact h
      · exact (bufferPublish_same _ _).inv h
  | getFd r =>
      refine withRequest_inv h fun _ => ?_
      rw [getFd]
      dsimp only
      split_ifs
      · exact h
      · refine SameAccounts.inv ?_ h
        exact SameAccounts.setDec rfl rfl rfl rfl rfl fun _ => rfl
  | observerOpen d th lock => exact h.observerOpen d th lock
  | observerSelect d session r th lock =>
      rw [step]
      split_ifs <;> exact h
  | observerBegin d session r target th e =>
      rw [step]
      split_ifs with howned
      · exact h
      · exact h.observerBegin (Nat.pos_of_ne_zero howned) d session target th e
  | observerEnd d session lease th lock => exact h.observerEnd hknown d session lease th lock
  | observerClose d session th lock => exact h.observerClose d session th lock

lemma bufferPublish_eq (s : State) (buffer : List Mem) :
    (bufferPublish s buffer).dec = s.dec ∧ (bufferPublish s buffer).req = s.req ∧
      (bufferPublish s buffer).alloc = s.alloc := by
  induction buffer generalizing s with
  | nil => exact ⟨rfl, rfl, rfl⟩
  | cons m buffer ih =>
      obtain ⟨hdec, hreq, halloc⟩ := ih (publishMem s m)
      have hmem : (publishMem s m).dec = s.dec ∧ (publishMem s m).req = s.req ∧
          (publishMem s m).alloc = s.alloc := by
        cases m <;> exact ⟨rfl, rfl, rfl⟩
      exact ⟨hdec.trans hmem.1, hreq.trans hmem.2.1, halloc.trans hmem.2.2⟩

lemma Known.generate (h : Known s) : Known s.generate :=
  h.same rfl (fun _ hr => hr) fun _ => rfl

lemma requestUnref_req (s : State) (r q : ℕ) :
    ((requestUnref s r).req q).decoder = (s.req q).decoder ∧
      ((requestUnref s r).req q).refCount ≤ (s.req q).refCount := by
  have hset : ∀ (t : State) (x : Request), t.req = s.req → x.decoder = (s.req r).decoder →
      x.refCount ≤ (s.req r).refCount → ((t.setReq r x).req q).decoder = (s.req q).decoder ∧
        ((t.setReq r x).req q).refCount ≤ (s.req q).refCount := by
    intro t x ht hx hcount
    by_cases hq : q = r
    · rw [hq, State.setReq_req, Function.update_self]
      exact ⟨hx, hcount⟩
    · rw [State.setReq_req, Function.update_of_ne hq, ht]
      exact ⟨rfl, Nat.le_refl _⟩
  rw [requestUnref]
  dsimp only
  split_ifs
  · exact hset _ _ rfl rfl (Nat.sub_le _ _)
  · exact hset _ _ rfl rfl (Nat.zero_le _)
  · exact hset _ _ rfl rfl (Nat.zero_le _)

/-- A reference that is given back changes nothing of the decoders but what is counted. -/
lemma requestUnref_steady (s : State) (r d : ℕ) :
    ∃ n, (requestUnref s r).dec d = { s.dec d with unqueued := n } := by
  have hset : ∀ d', ∃ n, (s.setDec d'
      { s.dec d' with unqueued := (s.dec d').unqueued - 1 }).dec d = { s.dec d with unqueued := n }
          := by
    intro d'
    by_cases hd : d = d'
    · rw [hd, State.setDec_dec, Function.update_self]
      exact ⟨_, rfl⟩
    · rw [State.setDec_dec, Function.update_of_ne hd]
      exact ⟨_, rfl⟩
  rw [requestUnref]
  dsimp only
  split_ifs
  · exact ⟨_, rfl⟩
  · exact ⟨_, rfl⟩
  · exact hset _

lemma Known.requestUnref (h : Known s) (hlive : (s.dec (s.req r).decoder).live = true) :
    Known (requestUnref s r) where
  dead d hd := by
    obtain ⟨n, hn⟩ := requestUnref_steady s r d
    rw [hn] at hd
    have hne : d ≠ (s.req r).decoder := by
      rintro rfl
      exact absurd (hlive.symm.trans hd) (by decide)
    rw [(requestUnref_on rfl).dec d hne]
    exact h.dead d hd
  used q hq := by
    obtain ⟨hdecoder, hcount⟩ := requestUnref_req s r q
    obtain ⟨n, hn⟩ := requestUnref_steady s r (s.req q).decoder
    rw [hdecoder, hn]
    exact h.used q (by omega)
  leased d hl := by
    obtain ⟨n, hn⟩ := requestUnref_steady s r d
    rw [hn] at hl ⊢
    obtain ⟨q, hrequest, hq⟩ := h.leased d hl
    exact ⟨q, hrequest, by rw [(requestUnref_req s r q).1, hq]⟩

lemma Known.decoderInit (h : Known s) (hdead : (s.dec d).live = false) (run : ℕ × ℕ) :
    Known (decoderInit s d run).1 := by
  have heq : (GstObserver.decoderInit s d run).1 =
      (s.setDec d { live := true, run := run, generation := s.next }).generate := by
    rw [GstObserver.decoderInit, if_neg (by rw [hdead]; decide)]
  rw [heq]
  refine Known.generate ⟨fun d' hd' => ?_, fun r hr => ?_, fun d' hl => ?_⟩
  · by_cases hd : d' = d
    · rw [hd, State.setDec_dec, Function.update_self] at hd'
      cases hd'
    · rw [State.setDec_dec, Function.update_of_ne hd] at hd' ⊢
      exact h.dead d' hd'
  · have hlive := h.used r hr
    have hd : (s.req r).decoder ≠ d := by
      intro hd
      rw [hd, hdead] at hlive
      cases hlive
    rw [State.setDec_req, State.setDec_dec, Function.update_of_ne hd, hlive]
  · by_cases hd : d' = d
    · rw [hd, State.setDec_dec, Function.update_self] at hl
      exact absurd rfl hl
    · rw [State.setDec_dec, Function.update_of_ne hd] at hl ⊢
      exact h.leased d' hl

/-- A caller's own count is all that changes of a request. -/
lemma Known.setOwned (h : Known s) (r n m : ℕ) (hcount : 0 < m → 0 < (s.req r).refCount) :
    Known (s.setReq r { s.req r with owned := n, refCount := m }) := by
  refine h.same rfl (fun q hq => ?_) fun q => ?_
  · by_cases heq : q = r
    · rw [heq, State.setReq_req, Function.update_self] at hq
      exact heq ▸ hcount hq
    · rw [State.setReq_req, Function.update_of_ne heq] at hq
      exact hq
  · by_cases heq : q = r
    · rw [heq, State.setReq_req, Function.update_self]
    · rw [State.setReq_req, Function.update_of_ne heq]

lemma Known.refs (h : Known s) (hinv : Inv s) (howned : 0 < (s.req r).owned)
    (hc : c = .requestRef r ∨ c = .requestUnref r) : Known (step s c).1 := by
  have hrefs := hinv.refs r
  have hne : ¬(s.req r).owned = 0 := Nat.pos_iff_ne_zero.mp howned
  obtain rfl | rfl := hc
  · have heq : (step s (.requestRef r)).1 = s.setReq r
        { s.req r with owned := (s.req r).owned + 1, refCount := (s.req r).refCount + 1 } := by
      rw [step, withRequest, if_neg hne, requestRef]
      simp [State.setReq]
    rw [heq]
    exact h.setOwned r _ _ fun _ => by omega
  · rw [step, withRequest, if_neg hne]
    have hown := h.setOwned r ((s.req r).owned - 1) (s.req r).refCount id
    refine hown.requestUnref ?_
    rw [State.setReq_dec, State.setReq_req, Function.update_self]
    exact h.owned_live hinv howned

lemma Known.step (h : Known s) (hinv : Inv s) (c : Call) : Known (step s c).1 := by
  have hfree : ∀ {d}, (s.dec d).busy = false → (s.dec d).lease = 0 := Decoder.lease_of_not_busy
  cases step_does hinv h c with
  | nothing heq _ =>
      rw [heq]
      exact h
  | idle d s₁ hlive hbusy hon heq =>
      rw [heq]
      obtain ⟨hdec, hreq, -⟩ := bufferPublish_eq s₁ (publishedBy s c)
      exact (h.on hinv hlive (hfree hbusy) hon).same hdec (fun r hr => by rwa [hreq] at hr)
        fun r => by rw [hreq]
  | storage d _ _ hdec hreq _ =>
      exact h.same hdec (fun r hr => by rwa [hreq] at hr) fun r => by rw [hreq]
  | made _ hdec hreq _ =>
      exact h.same hdec (fun r hr => by rwa [hreq] at hr) fun r => by rw [hreq]
  | init d run hdead hc =>
      rw [hc]
      exact h.decoderInit hdead run
  | refs r howned hc => exact h.refs hinv howned hc
  | granted d r s₁ found hlive hbusy hdrained heq _ =>
      rw [heq]
      have h₁ := h.on hinv hlive (hfree hbusy) hdrained.on
      exact (h₁.setLease (hdrained.on.live.trans hlive) fun _ => ⟨r, rfl,
        hdrained.decoder⟩).generate
  | ended d session lease th lock hc hend =>
      obtain ⟨hvalid, hne, hlease, r, hrequest, hr, heq⟩ := observerEnd_eq h hend
      have hlive : (s.dec d).live = true := h.session_live (sessionValid_session hvalid)
      rw [hc, GstObserver.step, heq]
      refine (h.setLease hlive fun hl => absurd rfl hl).requestUnref ?_
      rw [State.setDec_req, hr, State.setDec_dec, Function.update_self]
      exact hlive

lemma bufferPublish_next (s : State) (buffer : List Mem) : (bufferPublish s buffer).next = s.next := by
  induction buffer generalizing s with
  | nil => rfl
  | cons m buffer ih =>
      refine (ih (publishMem s m)).trans ?_
      cases m <;> rfl

lemma AllFresh.setReq (h : AllFresh s) {x : Request} (hfresh : 0 < x.refCount → Fresh s.next x) :
    AllFresh (s.setReq r x) := by
  intro q hq
  by_cases heq : q = r
  · rw [heq, State.setReq_req, Function.update_self] at hq ⊢
    exact hfresh hq
  · rw [State.setReq_req, Function.update_of_ne heq] at hq ⊢
    exact h q hq

lemma step_fresh (hinv : Inv s) (hknown : Known s) (h : AllFresh s) (c : Call) :
    AllFresh (step s c).1 := by
  cases step_does hinv hknown c with
  | nothing heq _ =>
      rw [heq]
      exact h
  | idle d s₁ _ _ hon heq =>
      rw [heq]
      intro r hr
      rw [(bufferPublish_eq s₁ _).2.1] at hr ⊢
      rw [bufferPublish_next]
      exact hon.fresh h r hr
  | storage d _ hon _ _ _ => exact hon.fresh h
  | made hon _ _ _ => exact (hon 0).fresh h
  | init d run hdead hc =>
      rw [hc, step, decoderInit, if_neg (by rw [hdead]; decide)]
      exact AllFresh.generate h
  | refs r howned hc =>
      have hrefs := hinv.refs r
      have hr := h r (by omega)
      obtain rfl | rfl := hc
      · have heq : (step s (.requestRef r)).1 = s.setReq r
            { s.req r with owned := (s.req r).owned + 1, refCount := (s.req r).refCount + 1 } := by
          rw [step, withRequest, if_neg (Nat.pos_iff_ne_zero.mp howned), requestRef]
          simp [State.setReq]
        rw [heq]
        exact h.setReq fun _ => ⟨hr.generation, hr.unsubmitted⟩
      · rw [step, withRequest, if_neg (Nat.pos_iff_ne_zero.mp howned)]
        have hown : AllFresh (s.setReq r { s.req r with owned := (s.req r).owned - 1 }) :=
          h.setReq fun _ => ⟨hr.generation, hr.unsubmitted⟩
        exact (requestUnref_on rfl).fresh hown
  | granted d r s₁ found _ _ hdrained heq _ =>
      rw [heq]
      exact AllFresh.generate (s := s₁.setDec d _) (hdrained.on.fresh h)
  | ended d session lease th lock hc hend =>
      obtain ⟨-, -, -, r, -, -, heq⟩ := observerEnd_eq hknown hend
      rw [hc, step, heq]
      exact (requestUnref_on rfl).fresh h

/-- The accounts are in order, only what exists is used, and requests are as they were made until they
are submitted. -/
structure Sound (s : State) : Prop where
  inv : Inv s
  known : Known s
  fresh : AllFresh s

/-- **Every call keeps the accounts.** -/
theorem step_inv (h : Sound s) (c : Call) : Sound (step s c).1 :=
  ⟨step_accounts h.inv h.known c, h.known.step h.inv c, step_fresh h.inv h.known h.fresh c⟩

lemma sound_init : Sound {} where
  inv :=
    { refs := fun _ => Nat.le_refl 0
      nodup := fun _ => List.nodup_nil
      pending := fun _ _ hr => (List.not_mem_nil hr).elim
      counted := fun _ => ⟨[], List.nodup_nil,
        fun _ => iff_of_false List.not_mem_nil fun hb => absurd hb.1 (Nat.lt_irrefl 0), rfl⟩
      ending := fun _ => rfl
      session := fun _ hl => absurd rfl hl
      bufLive := fun _ hb => absurd rfl hb
      allocLive := fun _ hb => absurd hb Bool.false_ne_true }
  known := ⟨fun _ _ => rfl, fun _ hr => absurd hr (Nat.lt_irrefl 0), fun _ hl => absurd rfl hl⟩
  fresh := fun _ hr => absurd hr (Nat.lt_irrefl 0)

lemma runFrom_inv (h : Sound s) (calls : List Call) : Sound (runFrom s calls) := by
  induction calls generalizing s with
  | nil => exact h
  | cons c calls ih => exact ih (step_inv h c)

/-- **The accounts are in order in every state that calls lead to.** -/
theorem run_inv (calls : List Call) : Sound (run calls) := runFrom_inv sound_init calls

/-- **The accounts of a decoder**, in every state that calls lead to: a request that is pending is
pending once and at its own decoder, was submitted, and is held at least once more than its callers
hold it; the decoder counts no unqueued request just when none is being built; and no lease is there
without its session. -/
theorem requests_accounted (calls : List Call) (d : ℕ) :
    let s := run calls
    (s.dec d).pending.Nodup ∧
    (∀ r ∈ (s.dec d).pending, (s.req r).decoder = d ∧ (s.req r).submitted = true ∧
      (s.req r).owned < (s.req r).refCount ∧ ∀ d', r ∈ (s.dec d').pending → d' = d) ∧
    ((s.dec d).unqueued = 0 ↔ ∀ r, ¬Building s d r) ∧
    ((s.dec d).lease ≠ 0 → (s.dec d).session ≠ 0) := by
  intro s
  have h : Inv s := (run_inv calls).inv
  refine ⟨h.nodup d, fun r hr => ?_, ?_, h.session d⟩
  · obtain ⟨hdecoder, hsubmitted⟩ := h.pending d r hr
    have hrefs := h.refs r
    rw [hdecoder] at hrefs
    have hheld : 0 < holds (s.dec d) r := by
      rw [holds, if_pos hr]
      omega
    exact ⟨hdecoder, hsubmitted, by omega, fun d' hr' => (h.pending d' r hr').1.symm.trans hdecoder⟩
  · obtain ⟨building, -, hmem, hcount⟩ := h.counted d
    rw [← hcount, List.length_eq_zero_iff]
    constructor
    · rintro rfl r hr
      exact absurd ((hmem r).mpr hr) List.not_mem_nil
    · intro hnone
      exact List.eq_nil_iff_forall_not_mem.mpr fun r hr => hnone r ((hmem r).mp hr)

end Runs

end OmarchyM1Video.GstObserver
