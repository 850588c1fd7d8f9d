import OmarchyM1Video.GstObserver.Model

/-!
What a function of the decoder returns while the observer holds a lease.

The functions that the patch guards are called with what they learn from the kernel. Those whose
code is not in the patch are a guard with what comes after it as an argument.

* `Convention`: what the declared type of a function says about a failure;
* `Guarded`, `Guarded.fires`, `Guarded.call`: the guarded functions that return something;
* `Refuses`: a call whose guard fires fails, and changes nothing;
* `refuses_iff`: all of them do but one, and `removeBuffers_not_refuses`: that one, in a run.
-/

namespace OmarchyM1Video.GstObserver

/-! ### Values -/

/-- What a C function returns: a number, or a pointer, which is there or `NULL`. -/
inductive CValue where
  | int (n : ℤ)
  | pointer (there : Bool)
  deriving DecidableEq

/-- The declared type of what is returned. -/
inductive Convention where
  | gboolean
  | pointer
  | gint
  deriving DecidableEq

/-- A value that stands for a failure. -/
def Convention.Fails : Convention → CValue → Prop
  | .gboolean, v => v = .int 0
  | .pointer, v => v = .pointer false
  | .gint, v => ∃ n < 0, v = .int n

/-- `TRUE` or `FALSE`. -/
def gboolean (ok : Bool) : CValue := .int (if ok then 1 else 0)

/-! ### The guarded functions -/

/-- The functions of which the patch has the guard only. -/
inductive Other where
  /-- `gst_v4l2_decoder_flush`. -/
  | flush (d : ℕ)
  /-- `gst_v4l2_decoder_create_buffers`. -/
  | createBuffers (d : ℕ)
  /-- `gst_hevc_observer_export_buffer`, which was `gst_v4l2_decoder_export_buffer`. -/
  | observerExportBuffer (d : ℕ)
  /-- `gst_v4l2_decoder_set_controls`. -/
  | setControls (d : ℕ)
  /-- `gst_v4l2_codec_allocator_alloc`. -/
  | allocatorAlloc (a : ℕ)
  /-- `gst_v4l2_codec_allocator_prepare_buffer`. -/
  | allocatorPrepareBuffer (a : ℕ)
  /-- `gst_v4l2_codec_h265_dec_close`. -/
  | h265Close (d : ℕ)
  /-- `gst_v4l2_codec_h265_dec_stop`. -/
  | h265Stop (d : ℕ)
  /-- `gst_v4l2_codec_h265_dec_flush`. -/
  | h265Flush (d : ℕ)

/-- The decoder that the guard asks. -/
def Other.decoder (s : State) : Other → ℕ
  | .flush d | .createBuffers d | .observerExportBuffer d | .setControls d => d
  | .allocatorAlloc a | .allocatorPrepareBuffer a => (s.alloc a).decoder
  | .h265Close d | .h265Stop d | .h265Flush d => d

def Other.returns : Other → Convention
  | .flush _ | .observerExportBuffer _ | .setControls _ | .allocatorPrepareBuffer _ => .gboolean
  | .h265Close _ | .h265Stop _ | .h265Flush _ => .gboolean
  | .createBuffers _ => .gint
  | .allocatorAlloc _ => .pointer

/-- What the guard returns. -/
def Other.refused : Other → CValue
  | .flush _ | .observerExportBuffer _ | .setControls _ => gboolean false
  | .allocatorPrepareBuffer _ | .h265Close _ | .h265Stop _ | .h265Flush _ => gboolean false
  | .createBuffers _ => .int (-1)
  | .allocatorAlloc _ => .pointer false

/-- A call of a guarded function that returns something, with what it learns. -/
inductive Guarded where
  | decoderOpen (d : ℕ) (docMode ok : Bool)
  | decoderClose (d : ℕ)
  | streamon (d : ℕ) (src ok : Bool)
  | streamoff (d : ℕ) (src ok : Bool)
  | setSinkFmt (d format : ℕ) (ok : Bool)
  | removeBuffers (d : ℕ) (ok : Bool)
  | selectSrcFormat (d : ℕ) (ok : Bool)
  | requestBuffers (d : ℕ) (ok : Bool) (count : ℤ)
  | exportBuffer (d : ℕ) (ok : Bool)
  | allocRequest (d r frame bitstream : ℕ) (picBuf : List Mem)
  | allocSubRequest (d r prev bitstream : ℕ)
  | requestQueue (r : ℕ) (e : QueueEnv)
  | setDone (r : ℕ) (poll : Poll) (es : List Dequeued)
  | dupPicBuf (r : ℕ)
  | getFd (r : ℕ) (fd : ℤ)
  /-- `observer_memory_map`, `observer_memory_map_full` and `observer_memory_share`. -/
  | memoryMap (m : Mem)
  | observerOpen (d th : ℕ) (lock : Bool)
  | observerSelect (d : ℕ) (session : Session) (r th : ℕ) (lock : Bool)
  | observerBegin (d : ℕ) (session : Session) (r : ℕ) (target : Target) (th : ℕ) (e : BeginEnv)
  | observerClose (d : ℕ) (session : Session) (th : ℕ) (lock : Bool)
  /-- A function with what comes after its guard. -/
  | other (f : Other) (after : State → State × CValue)

namespace Guarded

/-- The declared type. -/
def returns : Guarded → Convention
  | .requestBuffers .. | .setDone .. | .getFd .. => .gint
  | .allocRequest .. | .allocSubRequest .. | .dupPicBuf _ | .memoryMap _ => .pointer
  | .other f _ => f.returns
  | _ => .gboolean

/-- Whether the guard of the call fires. -/
def fires (s : State) : Guarded → Bool
  | .decoderOpen d .. | .decoderClose d | .streamon d .. | .streamoff d .. => (s.dec d).busy
  | .setSinkFmt d .. | .selectSrcFormat d _ | .exportBuffer d _ => (s.dec d).busy
  | .removeBuffers d _ | .requestBuffers d .. => (s.dec d).retained
  | .allocRequest d .. | .allocSubRequest d .. => (s.dec d).busy
  | .requestQueue r _ | .setDone r .. | .dupPicBuf r | .getFd r _ => (s.dec (s.req r).decoder).busy
  | .memoryMap m =>
      match m.root with
      | none => false
      | some b => (s.alloc (s.buf b).alloc).src && (s.dec (s.bufDecoder b)).busy
  | .observerOpen d .. | .observerSelect d .. | .observerBegin d .. | .observerClose d .. =>
      (s.dec d).busy
  | .other f _ => (s.dec (f.decoder s)).busy

/-- The call: the state after it, and what it returns. -/
def call (s : State) : Guarded → State × CValue
  | .decoderOpen d docMode ok => (GstObserver.decoderOpen s d docMode ok).map id gboolean
  | .decoderClose d => (GstObserver.decoderClose s d).map id gboolean
  | .streamon d src ok => (GstObserver.streamon s d src ok).map id gboolean
  | .streamoff d src ok => (GstObserver.streamoff s d src ok).map id gboolean
  | .setSinkFmt d format ok => (GstObserver.setSinkFmt s d format ok).map id gboolean
  | .removeBuffers d ok =>
      if (s.dec d).retained then (s, .int (-1))
      else (GstObserver.requestBuffers s d ok).map id gboolean
  | .selectSrcFormat d ok => (GstObserver.selectSrcFormat s d ok).map id gboolean
  | .requestBuffers d ok count =>
      (GstObserver.requestBuffers s d ok).map id fun ok => .int (if ok then count else -1)
  | .exportBuffer d ok => (GstObserver.exportBuffer s d ok).map id gboolean
  | .allocRequest d r frame bitstream picBuf =>
      (GstObserver.allocRequest s d r frame bitstream picBuf).map id .pointer
  | .allocSubRequest d r prev bitstream =>
      (GstObserver.allocSubRequest s d r prev bitstream).map id .pointer
  | .requestQueue r e => (GstObserver.requestQueue s r e).map id gboolean
  | .setDone r poll es => (GstObserver.setDone s r poll es).map id .int
  | .dupPicBuf r => (GstObserver.dupPicBuf s r).map id .pointer
  | .getFd r fd => (GstObserver.getFd s r).map id fun ok => .int (if ok then fd else -1)
  | .memoryMap m => (GstObserver.memoryMap s m).map id .pointer
  | .observerOpen d th lock =>
      (GstObserver.observerOpen s d th lock).map id fun x => gboolean x.isSome
  | .observerSelect d session r th lock =>
      (s, gboolean (GstObserver.observerSelect s d session r th lock).isSome)
  | .observerBegin d session r target th e =>
      (GstObserver.observerBegin s d session r target th e).map id fun x => gboolean x.isSome
  | .observerClose d session th lock =>
      (GstObserver.observerClose s d session th lock).map id gboolean
  | .other f after => if (s.dec (f.decoder s)).busy then (s, f.refused) else after s

/-- `gst_v4l2_decoder_remove_buffers`. -/
def IsRemoveBuffers : Guarded → Prop
  | .removeBuffers .. => True
  | _ => False

end Guarded

/-- If its guard fires, the call returns a failure and changes nothing. -/
def Refuses (s : State) (c : Guarded) : Prop :=
  c.fires s = true → (c.call s).1 = s ∧ c.returns.Fails (c.call s).2

lemma Other.fails_refused (f : Other) : f.returns.Fails f.refused := by
  cases f with
  | createBuffers d => exact ⟨-1, by decide, rfl⟩
  | _ => rfl

lemma unlessBusy_of_busy {s : State} {d : ℕ} (h : (s.dec d).busy = true) (f : Decoder → Decoder)
    (ok : Bool) : unlessBusy s d f ok = (s, false) := by
  rw [unlessBusy, if_pos h]

lemma fails_minus_one : Convention.gint.Fails (.int (-1)) := ⟨-1, by decide, rfl⟩

/-- A call that comes back with a failure and the state that it found. -/
lemma refuses_of_eq {s : State} {c : Guarded} {v : CValue} (h : c.call s = (s, v))
    (hv : c.returns.Fails v) : (c.call s).1 = s ∧ c.returns.Fails (c.call s).2 := by
  rw [h]
  exact ⟨rfl, hv⟩

/-- A function of the observer fails where a condition fails that the decoder is not busy. -/
lemma not_idle {x : Decoder} (h : x.busy = true) : x.busy ≠ false := by
  rw [h]
  decide

lemma call_of_fires {s : State} {c : Guarded} (hremove : ¬c.IsRemoveBuffers)
    (h : c.fires s = true) : (c.call s).1 = s ∧ c.returns.Fails (c.call s).2 := by
  cases c with
  | removeBuffers d ok => exact absurd trivial hremove
  | decoderOpen d docMode ok =>
      have heq : GstObserver.decoderOpen s d docMode ok = (s, false) := unlessBusy_of_busy h _ _
      exact refuses_of_eq (v := .int 0) (by rw [Guarded.call, heq]; rfl) rfl
  | decoderClose d =>
      have heq : GstObserver.decoderClose s d = (s, false) := if_pos h
      exact refuses_of_eq (v := .int 0) (by rw [Guarded.call, heq]; rfl) rfl
  | streamon d src ok =>
      have heq : GstObserver.streamon s d src ok = (s, false) := unlessBusy_of_busy h _ _
      exact refuses_of_eq (v := .int 0) (by rw [Guarded.call, heq]; rfl) rfl
  | streamoff d src ok =>
      have heq : GstObserver.streamoff s d src ok = (s, false) := if_pos h
      exact refuses_of_eq (v := .int 0) (by rw [Guarded.call, heq]; rfl) rfl
  | setSinkFmt d format ok =>
      have heq : GstObserver.setSinkFmt s d format ok = (s, false) := unlessBusy_of_busy h _ _
      exact refuses_of_eq (v := .int 0) (by rw [Guarded.call, heq]; rfl) rfl
  | selectSrcFormat d ok =>
      have heq : GstObserver.selectSrcFormat s d ok = (s, false) := unlessBusy_of_busy h _ _
      exact refuses_of_eq (v := .int 0) (by rw [Guarded.call, heq]; rfl) rfl
  | requestBuffers d ok count =>
      have heq : GstObserver.requestBuffers s d ok = (s, false) := if_pos h
      exact refuses_of_eq (v := .int (-1)) (by rw [Guarded.call, heq]; rfl) fails_minus_one
  | exportBuffer d ok =>
      have heq : GstObserver.exportBuffer s d ok = (s, false) := unlessBusy_of_busy h _ _
      exact refuses_of_eq (v := .int 0) (by rw [Guarded.call, heq]; rfl) rfl
  | allocRequest d r frame bitstream picBuf =>
      have hbusy : (s.dec d).busy = true := h
      have heq : GstObserver.allocRequest s d r frame bitstream picBuf = (s, false) := by
        rw [GstObserver.allocRequest, hbusy, Bool.true_or, if_pos rfl]
      exact refuses_of_eq (v := .pointer false) (by rw [Guarded.call, heq]; rfl) rfl
  | allocSubRequest d r prev bitstream =>
      have hbusy : (s.dec d).busy = true := h
      have heq : GstObserver.allocSubRequest s d r prev bitstream = (s, false) := by
        rw [GstObserver.allocSubRequest, hbusy, Bool.true_or, if_pos rfl]
      exact refuses_of_eq (v := .pointer false) (by rw [Guarded.call, heq]; rfl) rfl
  | requestQueue r e =>
      have heq : GstObserver.requestQueue s r e = (s, false) := if_pos h
      exact refuses_of_eq (v := .int 0) (by rw [Guarded.call, heq]; rfl) rfl
  | setDone r poll es =>
      have heq : GstObserver.setDone s r poll es = (s, -1) := if_pos h
      exact refuses_of_eq (v := .int (-1)) (by rw [Guarded.call, heq]; rfl) fails_minus_one
  | dupPicBuf r =>
      have heq : GstObserver.dupPicBuf s r = (s, false) := if_pos h
      exact refuses_of_eq (v := .pointer false) (by rw [Guarded.call, heq]; rfl) rfl
  | getFd r fd =>
      have heq : GstObserver.getFd s r = (s, false) := if_pos h
      exact refuses_of_eq (v := .int (-1)) (by rw [Guarded.call, heq]; rfl) fails_minus_one
  | memoryMap m =>
      have heq : GstObserver.memoryMap s m = (s, false) := by
        rw [Guarded.fires] at h
        rw [GstObserver.memoryMap]
        cases hroot : m.root with
        | none =>
            rw [hroot] at h
            exact absurd h Bool.false_ne_true
        | some b =>
            rw [hroot] at h
            obtain ⟨hsrc, hbusy⟩ := Bool.and_eq_true_iff.mp h
            dsimp only
            rw [hsrc, if_neg (by decide), if_pos hbusy]
      exact refuses_of_eq (v := .pointer false) (by rw [Guarded.call, heq]; rfl) rfl
  | observerOpen d th lock =>
      have heq : GstObserver.observerOpen s d th lock = (s, none) :=
        if_neg fun hopen => not_idle h hopen.2.2.2.2.2.2.2.2
      exact refuses_of_eq (v := .int 0) (by rw [Guarded.call, heq]; rfl) rfl
  | observerSelect d session r th lock =>
      have heq : GstObserver.observerSelect s d session r th lock = none :=
        if_neg fun hselect => not_idle h hselect.2.2
      exact refuses_of_eq (v := .int 0) (by rw [Guarded.call, heq]; rfl) rfl
  | observerBegin d session r target th e =>
      have heq : GstObserver.observerBegin s d session r target th e = (s, none) :=
        if_neg fun hbegin => not_idle h hbegin.2.2.1.1
      exact refuses_of_eq (v := .int 0) (by rw [Guarded.call, heq]; rfl) rfl
  | observerClose d session th lock =>
      have heq : GstObserver.observerClose s d session th lock = (s, false) :=
        if_neg fun hclose => not_idle h hclose.2.2
      exact refuses_of_eq (v := .int 0) (by rw [Guarded.call, heq]; rfl) rfl
  | other f after => exact refuses_of_eq (v := f.refused) (if_pos h) f.fails_refused

/-- Minus one is not `FALSE`. -/
lemma removeBuffers_not_false {s : State} {d : ℕ} {ok : Bool} (h : (s.dec d).retained = true) :
    ¬Refuses s (.removeBuffers d ok) := by
  intro hrefuses
  have hvalue : (Guarded.call s (.removeBuffers d ok)).2 = .int (-1) := by
    rw [Guarded.call, if_pos h]
  have hfails : (Guarded.call s (.removeBuffers d ok)).2 = .int 0 := (hrefuses h).2
  exact absurd (hvalue.symm.trans hfails) (by decide)

/-- A call refuses as it should unless it is one of `gst_v4l2_decoder_remove_buffers` under a
lease. -/
theorem refuses_iff (s : State) (c : Guarded) :
    Refuses s c ↔ ¬(c.IsRemoveBuffers ∧ c.fires s = true) := by
  constructor
  · rintro h ⟨hremove, hfires⟩
    cases c with
    | removeBuffers d ok => exact removeBuffers_not_false hfires h
    | _ => exact hremove
  · exact fun h hfires => call_of_fires (fun hremove => h ⟨hremove, hfires⟩) hfires

/-- A decoder with one picture, which a lease retains. -/
def leaseCalls : List Call :=
  [.decoderInit 0 (1, 2), .setSinkFmt 0 hevcSlice true, .decoderOpen 0 false true,
    .allocatorNew 0 0 true, .bufferNew 0 0 3 [64], .streamon 0 false true, .streamon 0 true true,
    .observerOpen 0 7 true, .allocRequest 0 0 5 9 [.plane 0 0], .requestQueue 0 {},
    .observerBegin 0 ⟨(1, 2), 1, 3⟩ 0 ⟨4, 2, 5⟩ 7
      { rounds := [{ dequeued := [{ sink := some 9, src := some (5, 3) }] }] }]

/-- Under a lease `gst_v4l2_decoder_remove_buffers` returns `-1` as a `gboolean`. -/
theorem removeBuffers_not_refuses : ¬Refuses (run leaseCalls) (.removeBuffers 0 true) :=
  removeBuffers_not_false (by decide)

end OmarchyM1Video.GstObserver
