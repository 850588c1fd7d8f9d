import OmarchyM1Video.GstObserver.Lease

/-!
The `observer-queue` lines of a session.

* `requiredLog`: a line for each request that is queued, with the values of the request;
* `queue_traced`: a request is logged when it is queued, unless its buffer was published before or the
  generations are used up;
* `trace_iff`: **the log of a run is the required one exactly if this never happens**;
* `published_not_logged`: a picture that is output, and its buffer used again.
-/

namespace OmarchyM1Video.GstObserver

variable {s s' : State} {d r b : ℕ} {c : Call}

/-! ### The required log -/

/-- The request that a call queues with success. -/
def queues (s : State) (d : ℕ) : Call → Option ℕ
  | .requestQueue r e =>
      if (s.req r).owned ≠ 0 ∧ (s.req r).decoder = d ∧ (requestQueue s r e).2 = true then some r
      else none
  | _ => none

/-- The values of a request that is queued. -/
def recordOf (s : State) (d r b : ℕ) : Record :=
  ⟨(s.dec d).run, (s.dec d).generation, (s.buf b).generation, (s.req r).generation,
    (s.req r).writer, (s.req r).frameNum, (s.buf b).index⟩

/-- The line of a call that queues a request. -/
def requiredLines (s : State) (d : ℕ) (c : Call) : List Record :=
  match queues s d c with
  | none => []
  | some r => ((pictureBuffer (step s c).1 d r).map (recordOf (step s c).1 d r)).toList

/-- A line for each request that is queued. -/
def requiredLog (d : ℕ) : State → List Call → List Record
  | _, [] => []
  | s, c :: calls => requiredLines s d c ++ requiredLog d (step s c).1 calls

/-- The number of requests that are queued. -/
def queuedCount (d : ℕ) : State → List Call → ℕ
  | _, [] => 0
  | s, c :: calls =>
      (if (queues s d c).isSome then 1 else 0) + queuedCount d (step s c).1 calls

/-- A call queues no request whose buffer was published, and a generation is left for it. -/
def Loggable (s : State) (d : ℕ) (c : Call) : Prop :=
  ∀ r, queues s d c = some r →
    s.next ≠ 0 ∧ ∀ b, pictureBuffer s d r = some b → (s.buf b).published = false

/-- Requests are queued in a session only. -/
def InSession (s : State) (d : ℕ) (c : Call) : Prop :=
  queues s d c ≠ none → (s.dec d).session ≠ 0

/-! ### A call that queues a request -/

lemma bufferWriter_some {buffer : Option (List Mem)} {w : ℕ}
    (h : (buffer.bind fun buffer => observerBuffer s buffer d) = some b) :
    bufferWriter s buffer d w false = s.setBuf b { s.buf b with writer := w, completed := 0 } := by
  rw [bufferWriter, h]
  rfl

lemma samePlanes_setBuf (s : State) (b w n : ℕ) :
    SamePlanes s (s.setBuf b { s.buf b with writer := w, completed := n }) := by
  intro b'
  by_cases hb : b' = b
  · rw [hb, State.setBuf_buf, Function.update_self]
    exact ⟨rfl, rfl, rfl⟩
  · rw [State.setBuf_buf, Function.update_of_ne hb]
    exact ⟨rfl, rfl, rfl⟩

/-- The state in which the line is written. -/
structure Submitting (s t : State) (d r b : ℕ) : Prop where
  run : (t.dec d).run = (s.dec d).run
  generation : (t.dec d).generation = (s.dec d).generation
  session : (t.dec d).session = (s.dec d).session
  req : t.req r = { s.req r with submitted := true, writer := s.next }
  buf : t.buf b = { s.buf b with writer := s.next, completed := 0 }
  picture : pictureBuffer t d r = some b

lemma submitting_of (hd : (s.req r).decoder = d) (hb : pictureBuffer s d r = some b) :
    Submitting s (submitting (invalidated s r false) r) d r b := by
  subst hd
  have hinvalid : invalidated s r false =
      s.setBuf b { s.buf b with writer := 0, completed := 0 } := bufferWriter_some hb
  rw [hinvalid]
  generalize hs₁ : (((s.setBuf b { s.buf b with writer := 0, completed := 0 }).setReq r
    { s.req r with submitted := true, writer := s.next }).setDec (s.req r).decoder
    { s.dec (s.req r).decoder with
      unqueued := (s.dec (s.req r).decoder).unqueued - 1
      submitted := (s.dec (s.req r).decoder).submitted + 1 }).generate = s₁
  have hreq : s₁.req r = { s.req r with submitted := true, writer := s.next } := by
    rw [← hs₁, State.generate_req, State.setDec_req, State.setReq_req, Function.update_self]
  have hbuf : s₁.buf b = { s.buf b with writer := 0, completed := 0 } := by
    rw [← hs₁, State.generate_buf, State.setDec_buf, State.setReq_buf, State.setBuf_buf,
      Function.update_self]
  have hdec : s₁.dec (s.req r).decoder = { s.dec (s.req r).decoder with
      unqueued := (s.dec (s.req r).decoder).unqueued - 1
      submitted := (s.dec (s.req r).decoder).submitted + 1 } := by
    rw [← hs₁, State.generate_dec, State.setDec_dec, Function.update_self]
  have halloc : s₁.alloc = s.alloc := by
    rw [← hs₁]
    rfl
  have hplanes : SamePlanes s s₁ := by
    intro b'
    have h := samePlanes_setBuf s b 0 0 b'
    rw [← hs₁]
    exact h
  have hpic : pictureBuffer s₁ (s.req r).decoder r = some b := by
    rw [pictureBuffer_congr (by rw [hreq]) halloc hplanes, hb]
  have hsub : submitting (s.setBuf b { s.buf b with writer := 0, completed := 0 }) r =
      s₁.setBuf b { s₁.buf b with writer := s.next, completed := 0 } := by
    rw [pictureBuffer, hreq] at hpic
    rw [← bufferWriter_some hpic, ← hs₁]
    rfl
  rw [hsub]
  refine ⟨?_, ?_, ?_, hreq, ?_, ?_⟩
  · rw [State.setBuf_dec, hdec]
  · rw [State.setBuf_dec, hdec]
  · rw [State.setBuf_dec, hdec]
  · rw [State.setBuf_buf, Function.update_self, hbuf]
  · rw [← hpic]
    exact pictureBuffer_congr rfl rfl (samePlanes_setBuf s₁ b s.next 0)

/-- The line that is written, if one is. -/
lemma traceLines_submitting {t : State} (h : Submitting s t d r b) (hd : (s.req r).decoder = d)
    (hsession : (s.dec d).session ≠ 0) (hfresh : Fresh s.next (s.req r))
    (hsub : (s.req r).submitted = false) (hwhole : (s.req r).subRequest = false) :
    traceLines t r =
      if s.next ≠ 0 ∧ (s.buf b).published = false then [recordOf t d r b] else [] := by
  have hdecoder : (t.req r).decoder = d := by rw [h.req]; exact hd
  have hsession' : ¬(t.dec d).session = 0 := by rw [h.session]; exact hsession
  obtain ⟨hfailed, hhold⟩ := hfresh.unsubmitted hsub
  rw [traceLines, hdecoder, if_neg hsession']
  obtain ⟨buffer, hbuffer, hob⟩ := Option.bind_eq_some_iff.mp h.picture
  have hidentity : ((t.req r).picBuf.bind fun buffer => bufferIdentity t buffer d) =
      if s.next ≠ 0 ∧ (s.buf b).published = false then some b else none := by
    rw [hbuffer, Option.bind_some, bufferIdentity, hob, Option.filter_some, h.buf]
    by_cases hnext : s.next = 0
    · simp [hnext]
    · simp [hnext]
  rw [observerSelection, hidentity, hdecoder]
  by_cases hcond : s.next ≠ 0 ∧ (s.buf b).published = false
  · have hq : d = d ∧ (t.req r).generation ≠ 0 ∧ (t.req r).submitted = true ∧ (t.req r).writer ≠ 0 ∧
        (t.req r).failed = false ∧ (t.req r).subRequest = false ∧ (t.req r).holdPicBuf = false := by
      rw [h.req]
      exact ⟨rfl, hfresh.generation hcond.1, rfl, hcond.1, hfailed, hwhole, hhold⟩
    have hwriter : (t.buf b).writer = (t.req r).writer := by rw [h.buf, h.req]
    rw [if_pos hq, if_pos hcond, if_pos hcond]
    dsimp only
    rw [if_pos hwriter]
    dsimp only
    rw [recordOf, hwriter]
  · rw [if_neg hcond, if_neg hcond]
    dsimp only
    split_ifs <;> rfl

lemma observerTrace_eq (s : State) (r : ℕ) :
    ∃ y : Decoder, (y.run = (s.dec (s.req r).decoder).run ∧
        y.generation = (s.dec (s.req r).decoder).generation) ∧
      observerTrace s r = s.setDec (s.req r).decoder y := by
  have hsame : s = s.setDec (s.req r).decoder (s.dec (s.req r).decoder) := by
    rw [State.setDec, Function.update_eq_self]
  rw [observerTrace]
  dsimp only
  split_ifs
  · exact ⟨_, ⟨rfl, rfl⟩, hsame⟩
  · cases observerSelection s (s.req r).decoder r with
    | none => exact ⟨_, ⟨rfl, rfl⟩, hsame⟩
    | some found =>
        refine ⟨_, ?_, rfl⟩
        exact ⟨rfl, rfl⟩

/-- What the request and its buffer are does not change after the line. -/
lemma recordOf_submit (hold : Bool) (hd : (s.req r).decoder = d) {t : State}
    (ht : submitting s r = t) (hdecoder : (t.req r).decoder = d) :
    recordOf (submit s r hold) d r b = recordOf t d r b ∧
      pictureBuffer (submit s r hold) d r = pictureBuffer t d r := by
  obtain ⟨y, ⟨hrun, hgeneration⟩, htrace⟩ := observerTrace_eq t r
  rw [hdecoder] at hrun hgeneration htrace
  have heq : submit s r hold =
      ((observerTrace (submitting s r) r).setReq r
        { (observerTrace (submitting s r) r).req r with
          refCount := ((observerTrace (submitting s r) r).req r).refCount + 1, pending := true
          holdPicBuf := ((observerTrace (submitting s r) r).req r).holdPicBuf || hold }).setDec
        (s.req r).decoder
        { (observerTrace (submitting s r) r).dec (s.req r).decoder with
          pending := ((observerTrace (submitting s r) r).dec (s.req r).decoder).pending ++ [r] } :=
    rfl
  rw [ht, htrace, hd] at heq
  rw [heq]
  constructor
  · simp [recordOf, hrun, hgeneration]
  · simp [pictureBuffer]
    rfl

/-- **A request that is queued in a session** has a line in the required log, and its call writes this
line unless the buffer was published or no generation is left. -/
theorem queue_traced (hs : Sound s) {e : QueueEnv} (hsession : (s.dec d).session ≠ 0)
    (hqueue : queues s d (.requestQueue r e) = some r) :
    ∃ b record, pictureBuffer s d r = some b ∧
      requiredLines s d (.requestQueue r e) = [record] ∧
      queueLines s r e =
        if s.next ≠ 0 ∧ (s.buf b).published = false then [record] else [] := by
  have hq := hqueue
  rw [queues] at hq
  split_ifs at hq with hcond
  obtain ⟨howned, rfl, hok⟩ := hcond
  obtain heq | ⟨-, hadmissible, heq | heq | ⟨-, heq⟩⟩ := requestQueue_cases s r e
  · rw [heq] at hok
    cases hok
  · rw [heq] at hok
    cases hok
  · rw [heq] at hok
    cases hok
  have hadm := hadmissible hsession
  obtain ⟨b, hb⟩ := Option.ne_none_iff_exists'.mp hadm.buffer
  have hfresh : Fresh s.next (s.req r) := by
    have hrefs := hs.inv.refs r
    exact hs.fresh r (by omega)
  have hsubmitting := submitting_of rfl hb
  rw [hadm.hold] at heq
  have hlines := traceLines_submitting hsubmitting rfl hsession hfresh hadm.submitted hadm.subRequest
  generalize ht : submitting (invalidated s r false) r = t at hsubmitting hlines
  refine ⟨b, recordOf t (s.req r).decoder r b, hb, ?_, ?_⟩
  · have hdecoder : (t.req r).decoder = (s.req r).decoder := by rw [hsubmitting.req]
    obtain ⟨hrecord, hpicture⟩ := recordOf_submit (b := b) false
      ((invalidated_same s r false).decoder r) ht hdecoder
    have hstep : (step s (.requestQueue r e)).1 = submit (invalidated s r false) r false := by
      rw [step, withRequest, if_neg howned, heq]
    rw [requiredLines, hqueue]
    dsimp only
    rw [hstep, hpicture, hsubmitting.picture, Option.map_some, hrecord]
    rfl
  · rw [queueLines, heq, if_pos rfl, hadm.hold, ht]
    exact hlines

/-! ### Runs -/

/-- A call that queues nothing writes no line. -/
lemma trace_of_lines (hs : Sound s) (hlive : (s.dec d).live = true) (hlines : linesOf s c = []) :
    ((step s c).1.dec d).trace = (s.dec d).trace := by
  have hon : ∀ {d' s₁}, On d' [] s s₁ → (s₁.dec d).trace = (s.dec d).trace := by
    intro d' s₁ hon
    by_cases hd : d = d'
    · rw [hd, hon.trace, List.append_nil]
    · rw [hon.dec d hd]
  cases step_does hs.inv hs.known c with
  | nothing heq _ => rw [heq]
  | idle d' s₁ _ _ hidle heq =>
      rw [hlines] at hidle
      rw [heq, (bufferPublish_eq s₁ _).1]
      exact hon hidle
  | storage _ _ _ hdec _ _ => rw [hdec]
  | made _ hdec _ _ => rw [hdec]
  | init d' run hdead hc =>
      have hd : d ≠ d' := by
        rintro rfl
        exact absurd (hlive.symm.trans hdead) (by decide)
      rw [hc, step, decoderInit, if_neg (by rw [hdead]; decide), State.generate_dec,
        State.setDec_dec, Function.update_of_ne hd]
  | refs q howned hc =>
      have hne : ¬(s.req q).owned = 0 := Nat.pos_iff_ne_zero.mp howned
      obtain rfl | rfl := hc
      · rw [step, withRequest, if_neg hne]
        rfl
      · rw [step, withRequest, if_neg hne]
        obtain ⟨n, hn⟩ := requestUnref_steady
          (s.setReq q { s.req q with owned := (s.req q).owned - 1 }) q d
        rw [hn]
        rfl
  | granted d' q s₁ found _ _ hdrained heq _ =>
      rw [heq, grant, State.generate_dec, ← hon hdrained.on]
      by_cases hd : d = d'
      · rw [hd, State.setDec_dec, Function.update_self]
      · rw [State.setDec_dec, Function.update_of_ne hd]
  | ended d' session lease th lock hc hend =>
      obtain ⟨-, -, -, q, -, -, heq⟩ := observerEnd_eq hs.known hend
      rw [hc, step, heq]
      obtain ⟨n, hn⟩ := requestUnref_steady
        (s.setDec d' { s.dec d' with lease := 0, request := none }) q d
      rw [hn]
      dsimp only
      by_cases hd : d = d'
      · rw [hd, State.setDec_dec, Function.update_self]
      · rw [State.setDec_dec, Function.update_of_ne hd]

lemma queues_some (h : queues s d c = some r) :
    ∃ e, c = .requestQueue r e ∧ (s.req r).owned ≠ 0 ∧ (s.req r).decoder = d ∧
      (requestQueue s r e).2 = true := by
  cases c with
  | requestQueue q e =>
      rw [queues] at h
      split_ifs at h with hcond
      cases h
      exact ⟨e, rfl, hcond⟩
  | _ => cases h

/-- A call that queues nothing on the decoder leaves its log alone. -/
lemma trace_of_none (hs : Sound s) (hlive : (s.dec d).live = true) (h : queues s d c = none) :
    ((step s c).1.dec d).trace = (s.dec d).trace := by
  cases c with
  | requestQueue r e =>
      by_cases howned : (s.req r).owned = 0
      · exact trace_of_lines hs hlive (if_pos howned)
      by_cases hd : (s.req r).decoder = d
      · refine trace_of_lines hs hlive ?_
        have hfail : (requestQueue s r e).2 ≠ true := by
          intro hok
          rw [queues, if_pos ⟨howned, hd, hok⟩] at h
          cases h
        rw [linesOf, if_neg howned, queueLines, if_neg hfail]
      · have hrefs := hs.inv.refs r
        rw [step, withRequest, if_neg howned]
        exact congrArg Decoder.trace ((requestQueue_on (by omega) e).dec d fun heq => hd heq.symm)
  | _ => exact trace_of_lines hs hlive rfl

/-- **What a call writes**: the required line, or nothing if the request cannot be logged. -/
lemma step_trace (hs : Sound s) (hlive : (s.dec d).live = true) (hsession : InSession s d c) :
    (requiredLines s d c).length = (if (queues s d c).isSome then 1 else 0) ∧
      ∃ lines, ((step s c).1.dec d).trace = (s.dec d).trace ++ lines ∧
        (Loggable s d c → lines = requiredLines s d c) ∧
        (¬Loggable s d c → lines = [] ∧ (requiredLines s d c).length = 1) := by
  cases hqueue : queues s d c with
  | none =>
      have hlog : Loggable s d c := fun r hr => by
        rw [hqueue] at hr
        cases hr
      have hrequired : requiredLines s d c = [] := by rw [requiredLines, hqueue]
      rw [hrequired]
      refine ⟨rfl, [], ?_, fun _ => rfl, fun hnot => absurd hlog hnot⟩
      rw [List.append_nil]
      exact trace_of_none hs hlive hqueue
  | some r =>
      obtain ⟨e, rfl, howned, hd, hok⟩ := queues_some hqueue
      have hin := hsession (by rw [hqueue]; exact Option.some_ne_none r)
      obtain ⟨b, record, hb, hrequired, hlines⟩ := queue_traced hs hin hqueue
      have hrefs := hs.inv.refs r
      have hon := requestQueue_on (s := s) (r := r) (by omega) e
      rw [hd] at hon
      have hstep : (step s (.requestQueue r e)).1 = (requestQueue s r e).1 := by
        rw [step, withRequest, if_neg howned]
      have hiff : Loggable s d (.requestQueue r e) ↔
          s.next ≠ 0 ∧ (s.buf b).published = false := by
        constructor
        · intro h
          exact ⟨(h r hqueue).1, (h r hqueue).2 b hb⟩
        · rintro ⟨hnext, hpublished⟩ r' hr'
          rw [hqueue] at hr'
          cases hr'
          refine ⟨hnext, fun b' hb' => ?_⟩
          rw [hb] at hb'
          cases hb'
          exact hpublished
      rw [hrequired, hstep, hiff]
      refine ⟨rfl, _, hon.trace, fun h => ?_, fun h => ⟨?_, rfl⟩⟩
      · rw [hlines, if_pos h]
      · rw [hlines, if_neg h]

lemma step_live (hs : Sound s) (hlive : (s.dec d).live = true) (c : Call) :
    ((step s c).1.dec d).live = true := by
  have hon : ∀ {d' lines s₁}, On d' lines s s₁ → (s₁.dec d).live = true := by
    intro d' lines s₁ hon
    by_cases hd : d = d'
    · rw [hd, hon.live, ← hd, hlive]
    · rw [hon.dec d hd, hlive]
  cases step_does hs.inv hs.known c with
  | nothing heq _ => rw [heq, hlive]
  | idle d' s₁ _ _ hidle heq =>
      rw [heq, (bufferPublish_eq s₁ _).1]
      exact hon hidle
  | storage _ _ _ hdec _ _ => rw [hdec, hlive]
  | made _ hdec _ _ => rw [hdec, hlive]
  | init d' run hdead hc =>
      have hd : d ≠ d' := by
        rintro rfl
        exact absurd (hlive.symm.trans hdead) (by decide)
      rw [hc, step, decoderInit, if_neg (by rw [hdead]; decide), State.generate_dec,
        State.setDec_dec, Function.update_of_ne hd, hlive]
  | refs q howned hc =>
      have hne : ¬(s.req q).owned = 0 := Nat.pos_iff_ne_zero.mp howned
      obtain rfl | rfl := hc
      · rw [step, withRequest, if_neg hne]
        exact hlive
      · rw [step, withRequest, if_neg hne]
        obtain ⟨n, hn⟩ := requestUnref_steady
          (s.setReq q { s.req q with owned := (s.req q).owned - 1 }) q d
        rw [hn]
        exact hlive
  | granted d' q s₁ found _ _ hdrained heq _ =>
      rw [heq, grant, State.generate_dec]
      by_cases hd : d = d'
      · rw [hd, State.setDec_dec, Function.update_self, ← hd]
        exact hon hdrained.on
      · rw [State.setDec_dec, Function.update_of_ne hd]
        exact hon hdrained.on
  | ended d' session lease th lock hc hend =>
      obtain ⟨-, -, -, q, -, -, heq⟩ := observerEnd_eq hs.known hend
      rw [hc, step, heq]
      obtain ⟨n, hn⟩ := requestUnref_steady
        (s.setDec d' { s.dec d' with lease := 0, request := none }) q d
      rw [hn]
      dsimp only
      by_cases hd : d = d'
      · rw [hd, State.setDec_dec, Function.update_self, ← hd]
        exact hlive
      · rw [State.setDec_dec, Function.update_of_ne hd]
        exact hlive

/-- **The log of a run is the required one exactly if** no request is queued whose buffer was
published before, and a generation is left for each. The required log has a line for each request that
is queued, with its values. -/
theorem trace_iff {calls later : List Call} (hlive : ((run calls).dec d).live = true)
    (hsession : Along (fun s c => InSession s d c) (run calls) later) :
    (requiredLog d (run calls) later).length = queuedCount d (run calls) later ∧
      (((runFrom (run calls) later).dec d).trace =
          ((run calls).dec d).trace ++ requiredLog d (run calls) later ↔
        Along (fun s c => Loggable s d c) (run calls) later) := by
  have hs := run_inv calls
  generalize run calls = s at *
  suffices h : (requiredLog d s later).length = queuedCount d s later ∧
      ∃ lines, ((runFrom s later).dec d).trace = (s.dec d).trace ++ lines ∧
        (Along (fun s c => Loggable s d c) s later → lines = requiredLog d s later) ∧
        (¬Along (fun s c => Loggable s d c) s later →
          lines.length < (requiredLog d s later).length) ∧
        lines.length ≤ (requiredLog d s later).length by
    obtain ⟨hcount, lines, htrace, hall, hnot, -⟩ := h
    refine ⟨hcount, ?_⟩
    rw [htrace, List.append_cancel_left_eq]
    refine ⟨fun heq => ?_, hall⟩
    by_contra hmiss
    have hlt := hnot hmiss
    rw [heq] at hlt
    exact Nat.lt_irrefl _ hlt
  induction later generalizing s with
  | nil => exact ⟨rfl, [], (List.append_nil _).symm, fun _ => rfl, fun hnot => absurd trivial hnot,
      Nat.le_refl 0⟩
  | cons c later ih =>
      obtain ⟨hone, lines, htrace, hlog, hmiss⟩ := step_trace hs hlive hsession.1
      obtain ⟨hcount, rest, hrest, hall, hsome, hle⟩ :=
        ih _ (step_live hs hlive c) hsession.2 (step_inv hs c)
      have hlines : lines.length ≤ (requiredLines s d c).length := by
        by_cases h : Loggable s d c
        · exact Nat.le_of_eq (congrArg List.length (hlog h))
        · rw [(hmiss h).1]
          exact Nat.zero_le _
      refine ⟨?_, lines ++ rest, ?_, fun h => ?_, fun h => ?_, ?_⟩
      · rw [requiredLog, List.length_append, hone, hcount, queuedCount]
      · rw [← List.append_assoc, ← htrace]
        exact hrest
      · rw [hlog h.1, hall h.2, requiredLog]
      · rw [requiredLog, List.length_append, List.length_append]
        by_cases hfirst : Loggable s d c
        · have hlater := hsome fun hrest => h ⟨hfirst, hrest⟩
          omega
        · obtain ⟨hnil, hlength⟩ := hmiss hfirst
          rw [hnil, hlength, List.length_nil]
          omega
      · rw [requiredLog, List.length_append, List.length_append]
        omega

/-! ### A run -/

/-- A decoder with a session, before its first request. -/
def sessionCalls : List Call := leaseCalls.take 8

/-- Two requests with one buffer, one after the other: the first is done and output before the other
is queued. -/
def recycleCalls : List Call :=
  [.allocRequest 0 0 5 9 [.plane 0 0], .requestQueue 0 {},
    .outputPicture 0 [.plane 0 0] .ready [{ sink := some 9, src := some (5, 3) }],
    .allocRequest 0 1 6 9 [.plane 0 0], .requestQueue 1 {}]

lemma recycle_inSession : Along (fun s c => InSession s 0 c) (run sessionCalls) recycleCalls :=
  ⟨fun h => absurd rfl h, fun _ => by decide, fun h => absurd rfl h, fun h => absurd rfl h,
    fun _ => by decide, trivial⟩

/-- A decoder with a session and two buffers. -/
def twoBuffers : List Call :=
  [.decoderInit 0 (1, 2), .setSinkFmt 0 hevcSlice true, .decoderOpen 0 false true,
    .allocatorNew 0 0 true, .bufferNew 0 0 3 [64], .bufferNew 1 0 4 [64], .streamon 0 false true,
    .streamon 0 true true, .observerOpen 0 7 true]

/-- A request with each of the buffers. -/
def bothCalls : List Call :=
  [.allocRequest 0 0 5 9 [.plane 0 0], .requestQueue 0 {}, .allocRequest 0 1 6 10 [.plane 1 0],
    .requestQueue 1 {}]

lemma both_inSession : Along (fun s c => InSession s 0 c) (run twoBuffers) bothCalls :=
  ⟨fun h => absurd rfl h, fun _ => by decide, fun h => absurd rfl h, fun _ => by decide, trivial⟩

/-- Two requests with two buffers are logged, both as they have to be. -/
theorem trace_iff_two :
    queuedCount 0 (run twoBuffers) bothCalls = 2 ∧
    (requiredLog 0 (run twoBuffers) bothCalls).length = queuedCount 0 (run twoBuffers) bothCalls ∧
    ((runFrom (run twoBuffers) bothCalls).dec 0).trace =
      ((run twoBuffers).dec 0).trace ++ requiredLog 0 (run twoBuffers) bothCalls ∧
    Along (fun s c => Loggable s 0 c) (run twoBuffers) bothCalls := by
  obtain ⟨hcount, hiff⟩ := trace_iff (by decide) both_inSession
  have htrace : ((runFrom (run twoBuffers) bothCalls).dec 0).trace =
      ((run twoBuffers).dec 0).trace ++ requiredLog 0 (run twoBuffers) bothCalls := by decide +kernel
  exact ⟨by decide, hcount, htrace, hiff.mp htrace⟩

/-- **A buffer that was output is not logged again**: two requests are queued, and one has a line. -/
theorem published_not_logged :
    ¬∀ (calls later : List Call) (d : ℕ), ((run calls).dec d).live = true →
      ((run calls).dec d).submitted = 0 →
      Along (fun s c => InSession s d c) (run calls) later →
      ((runFrom (run calls) later).dec d).trace =
        ((run calls).dec d).trace ++ requiredLog d (run calls) later := by
  intro h
  have hlength := congrArg List.length
    (h sessionCalls recycleCalls 0 (by decide) (by decide) recycle_inSession)
  exact absurd hlength (by decide)

end OmarchyM1Video.GstObserver
