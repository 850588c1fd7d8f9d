import OmarchyM1Video.CommandTrace.Parser
import OmarchyM1Video.Recorder.Snapshots
import OmarchyM1Video.Recorder.Soundness

/-!
What the reader makes of a snapshot of the command recorder.

* `Captured`: a capture that the hooks recorded and the control file sealed;
* `Readable`: its contents are in the domain that the reader admits;
* `snapshot_read_back`: it is read back row by row and window by window.
-/

namespace OmarchyM1Video.CommandTrace

open OmarchyM1Video.C OmarchyM1Video.Py OmarchyM1Video.Recorder

/-! ### What is read -/

/-- A history row as it is read. -/
def History.ofHist (h : CmdHist) : History :=
  { picture := h.picture
    poc := h.poc.toInt32.toInt
    type := h.type.toNat
    target := h.target.toNat
    flags := h.flags.toNat
    intra := h.intra.toNat }

/-- A window as it is read. -/
def Window.ofWindow (w : CmdWindow) : Window :=
  { picture := w.picture
    poc := w.poc.toInt32.toInt
    type := w.type.toNat
    nwords := w.nwords
    nbytes := w.nbytes
    inactive := w.inactive
    sites := ((List.ofFn w.sites).take w.nwords).map UInt16.toNat
    words := ((List.ofFn w.words).take w.nwords).map UInt32.toNat
    controls := List.ofFn w.controls
    decomp := w.decomp.toNat
    revision := w.revision.toNat
    quirks := w.quirks.toNat
    bytesperline := w.bytesperline.toNat }

/-- What the control bytes of a window are unpacked to. -/
def unpacked (w : CmdWindow) : Dict String Json :=
  readFields controlLayout (List.ofFn w.controls) 0 ∅

/-- A window that the reader admits: it has a word, the inputs of its context are known, its controls
are in their domain and those of its history row, and its inactive bits are those expected. -/
structure WindowReadable (h : CmdHist) (w : CmdWindow) : Prop where
  words : 0 < w.nwords
  decomp : w.decomp.toNat = 0 ∨ w.decomp.toNat = 1
  revision : w.revision.toNat = 3 ∨ w.revision.toNat = 4
  quirks : w.quirks.toNat ≤ 3
  bytesperline : 0 < w.bytesperline.toNat ∧ w.bytesperline.toNat < 0x1000000
  domain : validateControls (unpacked w) = .ok ()
  poc : intField (unpacked w) "slice_pic_order_cnt" = .ok h.poc.toInt32.toInt
  type : intField (unpacked w) "slice_type" = .ok h.type.toNat
  flags : intField (unpacked w) "decode_flags" = .ok h.flags.toNat
  inactive : ∃ spsFlags, intField (unpacked w) "sps_flags" = .ok spsFlags ∧
    w.inactive = expectedInactive spsFlags w.type.toNat

/-- A capture that the reader admits. -/
structure Readable (c : CmdCapture) : Prop where
  context : 0 < c.context
  type : ∀ i, (c.hist i).type.toNat ≤ 2
  flags : ∀ i, (c.hist i).flags.toNat ≤ 7
  window : ∀ s, WindowReadable (c.hist (histIndex s)) (c.window s)

/-! ### Rows -/

section Rows

variable {h : CmdHist} {w : CmdWindow}

lemma signed32_toNat (x : UInt32) : signed32 x.toNat = x.toInt32.toInt := by
  have hint : x.toInt32.toInt = x.toBitVec.toInt := rfl
  have hnat : x.toBitVec.toNat = x.toNat := rfl
  rw [hint, BitVec.toInt_eq_toNat_cond, hnat, signed32]
  split_ifs <;> omega

/-- The numbers of the history rows are unsigned integers. -/
lemma hist_values_lt {i : ℕ} (hi : i < 300) (hkept : HistKept i h) :
    ∀ n ∈ h.values, n < 0x100000000 := by
  intro n hn
  simp only [CmdHist.values, List.mem_cons, List.not_mem_nil, or_false] at hn
  rcases hn with rfl | rfl | rfl | rfl | rfl | rfl
  · rw [hkept.1]
    omega
  all_goals exact UInt32.toNat_lt _

/-- A history row is read back. -/
lemma readHistory_ok {i : ℕ} (hi : i < 300) (hkept : HistKept i h) (htype : h.type.toNat ≤ 2)
    (hflags : h.flags.toNat ≤ 7) :
    readHistory (i + 1) (row 'P' h.values) = .ok (History.ofHist h) := by
  have htag : Plain 'P' := ⟨by decide, by decide⟩
  have hnumbers : (h.values.map decimal).mapM (unsigned 0x100000000) = .ok h.values :=
    mapM_unsignedToken _ _ (by decide) (hist_values_lt hi hkept)
  have hmask : ∀ n ≤ 7, n &&& 7 = n := by decide
  have hintra : h.intra.toNat = if h.type.toNat = 2 then 1 else 0 := by
    have hkind : h.type = 2 ↔ h.type.toNat = 2 := by
      rw [← UInt32.toNat_inj]
      rfl
    rw [hkept.2]
    simp only [hkind]
    split_ifs <;> rfl
  rw [readHistory, split_row htag]
  simp only [Except.bind_ok, need_ok]
  refine ⟨(), ⟨by simp [CmdHist.values], rfl⟩, _, hnumbers, ?_⟩
  simp only [CmdHist.values, historyOf, Except.bind_ok, need_ok, Except.pure_ok]
  refine ⟨(), ⟨hkept.1, by omega, hmask _ hflags, hintra⟩, ?_⟩
  rw [History.ofHist, signed32_toNat]

lemma unpair_flatMap (l : List (ℕ × ℕ)) :
    unpair (l.flatMap fun p => [p.1, p.2]) = (l.map Prod.fst, l.map Prod.snd) := by
  induction l with
  | nil => rfl
  | cons p l ih =>
      rw [List.flatMap_cons, List.cons_append, List.cons_append, List.nil_append, unpair, ih]
      rfl

lemma length_values (hroom : w.nwords ≤ cmdWords) : w.values.length = 10 + 2 * w.nwords := by
  have hpairs : w.pairs.length = w.nwords := by
    rw [CmdWindow.pairs, List.length_take, List.length_ofFn]
    exact Nat.min_eq_left hroom
  have hflat : (w.pairs.flatMap fun p => [p.1, p.2]).length = 2 * w.pairs.length := by
    simp [List.length_flatMap, Nat.mul_comm]
  rw [CmdWindow.values, List.length_append, hflat, hpairs]
  rfl

lemma length_controlValues (w : CmdWindow) : w.controlValues.length = 1392 := by
  rw [CmdWindow.controlValues, List.length_map, List.length_ofFn]

lemma pairs_sites (w : CmdWindow) :
    w.pairs.map Prod.fst = ((List.ofFn w.sites).take w.nwords).map UInt16.toNat := by
  rw [CmdWindow.pairs, List.map_take, List.map_ofFn, List.map_take, List.map_ofFn]
  rfl

lemma pairs_words (w : CmdWindow) :
    w.pairs.map Prod.snd = ((List.ofFn w.words).take w.nwords).map UInt32.toNat := by
  rw [CmdWindow.pairs, List.map_take, List.map_ofFn, List.map_take, List.map_ofFn]
  rfl

lemma expectedInactive_mask (spsFlags : ℤ) (kind : ℕ) :
    expectedInactive spsFlags kind &&& 0x8080000 = expectedInactive spsFlags kind := by
  rw [expectedInactive]
  split_ifs <;> decide

/-- The numbers of a window's row are unsigned integers. -/
lemma values_lt {slot : ℕ} (hslot : slot < 11) (hkept : WindowKept h slot w) :
    ∀ n ∈ w.values, n < 0x100000000 := by
  intro n hn
  rcases List.mem_append.mp hn with hn | hn
  · have hwords := hkept.nwords
    simp only [cmdWords] at hwords
    simp only [CmdWindow.inputValues, List.mem_cons, List.not_mem_nil, or_false, hkept.picture,
      hkept.nbytes, firstDetail, cmdControl] at hn
    rcases hn with rfl | rfl | rfl | rfl | rfl | rfl | rfl | rfl | rfl | rfl
    · omega
    · exact UInt32.toNat_lt _
    · exact UInt32.toNat_lt _
    · omega
    · omega
    · exact hkept.inactive
    all_goals exact UInt32.toNat_lt _
  · obtain ⟨p, hp, hn⟩ := List.mem_flatMap.mp hn
    obtain ⟨j, rfl⟩ := List.mem_ofFn.mp (List.mem_of_mem_take hp)
    simp only [List.mem_cons, List.not_mem_nil, or_false] at hn
    rcases hn with rfl | rfl
    · have hsite := (w.sites j).toNat_lt
      omega
    · exact UInt32.toNat_lt _

/-- The sites of a window are known. -/
lemma pairs_known {slot : ℕ} (hkept : WindowKept h slot w) :
    (w.pairs.map Prod.fst).all (fun site => 1 ≤ site ∧ site ≤ 32) = true := by
  rw [List.all_eq_true]
  intro site hsite
  obtain ⟨p, hp, rfl⟩ := List.mem_map.mp hsite
  obtain ⟨j, hj, rfl⟩ := List.mem_take_iff_getElem.mp hp
  rw [List.getElem_ofFn]
  rw [List.length_ofFn] at hj
  have hlt : j < w.nwords := (Nat.lt_min.mp hj).1
  have hknown := hkept.sites ⟨j, (Nat.lt_min.mp hj).2⟩ hlt
  simpa [siteHdrStride] using hknown

/-- The control bytes of a window are read back. -/
lemma readControls_ok (w : CmdWindow) :
    readControls (row 'C' w.controlValues) = .ok (List.ofFn w.controls) := by
  have htag : Plain 'C' := ⟨by decide, by decide⟩
  have hnumbers : (w.controlValues.map decimal).mapM (unsigned 0x100) = .ok w.controlValues := by
    refine mapM_unsignedToken _ _ (by decide) fun n hn => ?_
    obtain ⟨b, _, rfl⟩ := List.mem_map.mp hn
    exact b.toNat_lt
  have hbytes : w.controlValues.map UInt8.ofNat = List.ofFn w.controls := by
    rw [CmdWindow.controlValues, List.map_map]
    exact List.map_id'' (fun b => UInt8.ofNat_toNat) _
  rw [readControls, split_row htag]
  simp only [Except.bind_ok, need_ok, Except.pure_ok, List.tail_cons]
  refine ⟨(), ⟨?_, rfl⟩, _, hnumbers, hbytes⟩
  rw [List.length_cons, List.length_map, length_controlValues]
  rfl

/-- The control bytes of a window are unpacked. -/
lemma unpackControls_window {slot : ℕ} (hkept : WindowKept h slot w) :
    unpackControls (List.ofFn w.controls) = .ok (unpacked w) := by
  refine unpackControls_ok List.length_ofFn fun b hb => ?_
  obtain ⟨j, hj, rfl⟩ := List.mem_drop_iff_getElem.mp hb
  rw [List.length_ofFn] at hj
  rw [List.getElem_ofFn]
  exact hkept.padding ⟨cmdPacked + j, Nat.add_comm j cmdPacked ▸ hj⟩ (Nat.le_add_right _ _)

/-- The control bytes of a window that is admitted belong to its job. -/
lemma bindControls_ok {slot : ℕ} (hkept : WindowKept h slot w) (hread : WindowReadable h w) :
    bindControls (History.ofHist h) (Window.ofWindow w) (List.ofFn w.controls) = .ok () := by
  obtain ⟨spsFlags, hsps, hinactive⟩ := hread.inactive
  simp only [bindControls, Except.bind_ok, need_ok]
  refine ⟨_, unpackControls_window hkept, (), hread.domain, _, hread.poc, _, hread.type, _,
    hread.flags, (), ?_, _, hsps, hinactive⟩
  rw [Window.ofWindow, History.ofHist, hkept.poc, hkept.type]

/-- **A window is read back.** -/
theorem readWindow_ok {histories : List History} {slot : ℕ} (hslot : slot < 11)
    (hhist : histories[23 + slot]? = some (History.ofHist h)) (hkept : WindowKept h slot w)
    (hread : WindowReadable h w) :
    readWindow histories (24 + slot) (row 'W' w.values) (row 'C' w.controlValues) =
      .ok (Window.ofWindow w) := by
  have htag : Plain 'W' := ⟨by decide, by decide⟩
  have hrange := values_lt hslot hkept
  have hlength := length_values hkept.nwords
  have hinputs : (w.inputValues.map decimal).mapM (unsigned 0x100000000) = .ok w.inputValues :=
    mapM_unsignedToken _ _ (by decide) fun n hn => hrange n (List.mem_append_left _ hn)
  have hpairs : ((w.pairs.flatMap fun p => [p.1, p.2]).map decimal).mapM (unsigned 0x100000000) =
      .ok (w.pairs.flatMap fun p => [p.1, p.2]) :=
    mapM_unsignedToken _ _ (by decide) fun n hn => hrange n (List.mem_append_right _ hn)
  have hmask : ∀ n ≤ 3, n &&& 3 = n := by decide
  obtain ⟨spsFlags, hsps, hinactive⟩ := hread.inactive
  have hwindow : windowOf (History.ofHist h) (24 + slot) (11 + 2 * w.nwords) w.inputValues =
      .ok { Window.ofWindow w with sites := [], words := [], controls := [] } := by
    simp only [CmdWindow.inputValues, windowOf, Except.bind_ok, need_ok, Except.pure_ok]
    refine ⟨(), ⟨hkept.picture, ?_⟩, (), ⟨hread.words, hkept.nwords, hkept.nbytes, trivial⟩, (),
      ⟨hread.decomp, hread.revision, hmask _ hread.quirks, hread.bytesperline⟩, (), ?_, ?_⟩
    · rw [signed32_toNat, hkept.poc, hkept.type]
      rfl
    · rw [hinactive, expectedInactive_mask]
    · rw [Window.ofWindow, signed32_toNat, hkept.picture]
      rfl
  have htokens : w.values.map decimal = w.inputValues.map decimal ++
      (w.pairs.flatMap fun p => [p.1, p.2]).map decimal := List.map_append
  have hten : (w.inputValues.map decimal).length = 10 := rfl
  rw [readWindow, split_row htag]
  simp only [Except.bind_ok, need_ok, found_ok, Except.pure_ok, List.tail_cons, List.length_cons,
    List.length_map, hlength, List.drop_succ_cons]
  have hprevious : 24 + slot - 1 = 23 + slot := by omega
  have hcount : 10 + 2 * w.nwords + 1 = 11 + 2 * w.nwords := by omega
  rw [htokens, List.take_left' hten, List.drop_left' hten, hprevious, hcount]
  refine ⟨(), ⟨by omega, rfl⟩, _, hinputs, _, hhist, _, hwindow, _, hpairs, ?_⟩
  rw [unpair_flatMap]
  refine ⟨(), pairs_known hkept, _, readControls_ok w, (), bindControls_ok hkept hread, ?_⟩
  rw [pairs_sites, pairs_words]
  rfl

end Rows

/-! ### A capture -/

/-- A capture that was armed, that the hooks recorded, and that was sealed without an error bit. -/
structure Captured (run pid : ℕ) (ops : List CmdtraceOp) (c : CmdCapture) : Prop where
  armed : (Command.arm run pid).valid = true
  numbered : ∀ p ctx hevc, Op.bind p ctx hevc ∈ ops → ctx < 0x10000000000000000
  hooks : cmdtraceMachine.run ops (cmdArmed run pid) = some c
  sealed : c.phase = .sealed
  clean : c.errors = 0

/-- What is read of the elements of a table, one after the other. -/
lemma mapM_ofFn {α β : Type} {n : ℕ} {f : α → Except String β} {a : Fin n → α} {b : Fin n → β}
    (h : ∀ i, f (a i) = .ok (b i)) : (List.ofFn a).mapM f = .ok (List.ofFn b) := by
  induction n with
  | zero => rfl
  | succ n ih =>
      rw [List.ofFn_succ, List.ofFn_succ, List.mapM_cons, h 0, ih fun i => h i.succ]
      rfl

section Capture

variable {run pid : ℕ} {ops : List CmdtraceOp} {c : CmdCapture}

/-- Such a capture is of a whole recording, and its rows and windows belong together. -/
lemma Captured.whole (h : Captured run pid ops c) :
    c.toCore = recorded run pid c.context .sealed ∧ c.context < 0x10000000000000000 ∧ CmdKept c := by
  obtain ⟨ctx, before, during, after, rest, hcore, hrecorded, hkept⟩ :=
    Machine.sealed_clean cmd_hooks_keep rfl (cmdKept_armed run pid) h.hooks h.sealed h.clean
  obtain rfl : c.context = ctx := congrArg Core.context hcore
  refine ⟨hcore, h.numbered pid c.context true ?_, hkept⟩
  rw [hrecorded.split]
  simp

lemma Captured.run_range (h : Captured run pid ops c) : 0 < run ∧ run < 0x10000000000000000 := by
  have harmed := h.armed
  simp only [Command.valid, Bool.and_eq_true, decide_eq_true_eq] at harmed
  exact ⟨Nat.pos_of_ne_zero harmed.1.1.1, harmed.1.1.2⟩

/-- The lines of the snapshot. -/
def lines (c : CmdCapture) : List (List Char) := (List.range 323).map c.line

lemma getD_lines {n : ℕ} (hn : n < 323) : (lines c).getD n [] = c.line n := by
  rw [List.getD_eq_getElem _ _ (by simpa [lines] using hn)]
  simp [lines]

lemma line_hist (c : CmdCapture) (i : Fin 300) : c.line (i + 1) = row 'P' (c.hist i).values := by
  rw [CmdCapture.line, c.snapshotRow_hist i, Option.getD_some]

lemma line_words (s : Fin 11) (hwords : (c.window s).nwords ≤ cmdWords) :
    c.line (301 + s * 2) = row 'W' (c.window s).values := by
  rw [CmdCapture.line, c.snapshotRow_window, Nat.mul_comm, CmdCapture.windowRow_words s hwords,
    Option.getD_some]

lemma line_controls (c : CmdCapture) (s : Fin 11) :
    c.line (302 + s * 2) = row 'C' (c.window s).controlValues := by
  have hnext : 302 + (s : ℕ) * 2 = 301 + (2 * s + 1) := by omega
  rw [hnext, CmdCapture.line, c.snapshotRow_window, c.windowRow_controls s, Option.getD_some]

/-- Each of the rows is printed of a tag and numbers. -/
lemma lines_split (c : CmdCapture) : lines c = row 'H' c.headerValues ::
    ((List.ofFn fun i : Fin 300 => row 'P' (c.hist i).values) ++
      (List.range 22).map fun n => c.line (301 + n)) := by
  have hrange : List.range 323 = 0 :: ((List.range 300).map (· + 1) ++
      (List.range 22).map (301 + ·)) := by
    rw [show 323 = 301 + 22 from rfl, List.range_add, show 301 = 300 + 1 from rfl,
      List.range_succ_eq_map, List.cons_append]
  have hhist : (List.range 300).map (fun i => c.line (i + 1)) =
      List.ofFn fun i : Fin 300 => row 'P' (c.hist i).values := by
    refine List.ext_getElem ?_ fun i hi hi' => ?_
    · rw [List.length_map, List.length_range, List.length_ofFn]
    rw [List.length_ofFn] at hi'
    rw [List.getElem_map, List.getElem_range, List.getElem_ofFn]
    exact line_hist c ⟨i, hi'⟩
  rw [lines, hrange, List.map_cons, List.map_append, List.map_map, List.map_map, ← hhist]
  rfl

/-- The rows of a window are short lines. -/
lemma window_lines_short (hkept : ∀ s, WindowKept (c.hist (histIndex s)) s (c.window s)) :
    ∀ r ∈ (List.range 22).map fun n => c.line (301 + n), OneLine r ∧ encodedLength r ≤ 22639 := by
  intro r hr
  obtain ⟨n, hn, rfl⟩ := List.mem_map.mp hr
  rw [List.mem_range] at hn
  have hs : n / 2 < 11 := by omega
  have hwords : (c.window ⟨n / 2, hs⟩).nwords ≤ 1024 := (hkept _).nwords
  rcases Nat.mod_two_eq_zero_or_one n with heven | hodd
  · have hrow := line_words ⟨n / 2, hs⟩ hwords
    rw [show n / 2 * 2 = n by omega] at hrow
    have htag : Plain 'W' := ⟨by decide, by decide⟩
    rw [hrow]
    refine ⟨oneLine_row htag _, ?_⟩
    refine (encodedLength_row_le htag (k := 10) (by decide) fun m hm => ?_).trans ?_
    · exact Nat.lt_trans (values_lt hs (hkept ⟨n / 2, hs⟩) m hm) (by decide)
    · rw [length_values hwords]
      omega
  · have hrow := line_controls c ⟨n / 2, hs⟩
    rw [show 302 + n / 2 * 2 = 301 + n by omega] at hrow
    have htag : Plain 'C' := ⟨by decide, by decide⟩
    rw [hrow]
    refine ⟨oneLine_row htag _, ?_⟩
    refine (encodedLength_row_le htag (k := 10) (by decide) fun m hm => ?_).trans ?_
    · obtain ⟨b, _, rfl⟩ := List.mem_map.mp hm
      exact Nat.lt_trans b.toNat_lt (by decide)
    · rw [length_controlValues]
      decide

/-- The rows of the history are short lines. -/
lemma hist_lines_short (hkept : ∀ i : Fin 300, HistKept i (c.hist i)) :
    ∀ r ∈ List.ofFn fun i : Fin 300 => row 'P' (c.hist i).values,
      OneLine r ∧ encodedLength r ≤ 67 := by
  have htag : Plain 'P' := ⟨by decide, by decide⟩
  intro r hr
  obtain ⟨i, rfl⟩ := List.mem_ofFn.mp hr
  refine ⟨oneLine_row htag _, ?_⟩
  refine (encodedLength_row_le htag (k := 10) (by decide) fun m hm => ?_).trans (Nat.le_refl _)
  exact Nat.lt_trans (hist_values_lt i.isLt (hkept i) m hm) (by decide)

/-- The lines of the snapshot are short enough. -/
lemma lines_short (hheader : ∀ m ∈ c.headerValues, m < 0x10000000000000000)
    (hhist : ∀ i : Fin 300, HistKept i (c.hist i))
    (hwindow : ∀ s, WindowKept (c.hist (histIndex s)) s (c.window s)) :
    (∀ r ∈ lines c, OneLine r) ∧ encodedLength (unlines (lines c)) ≤ 524288 := by
  have htag : Plain 'H' := ⟨by decide, by decide⟩
  have hhead : ∀ r ∈ [row 'H' c.headerValues], OneLine r ∧ encodedLength r ≤ 274 := by
    intro r hr
    obtain rfl := List.mem_singleton.mp hr
    refine ⟨oneLine_row htag _, ?_⟩
    have hlength : c.headerValues.length = 13 := rfl
    refine (encodedLength_row_le htag (k := 20) (by decide) fun m hm => ?_).trans ?_
    · exact Nat.lt_trans (hheader m hm) (by decide)
    · rw [hlength]
  have hhists := hist_lines_short hhist
  have hwindows := window_lines_short hwindow
  rw [lines_split, ← List.singleton_append]
  refine ⟨fun r hr => ?_, ?_⟩
  · rcases List.mem_append.mp hr with hr | hr
    · exact (hhead r hr).1
    · exact (List.mem_append.mp hr).elim (fun hr => (hhists r hr).1) fun hr => (hwindows r hr).1
  · have h₁ := encodedLength_unlines_le fun r hr => (hhead r hr).2
    have h₂ := encodedLength_unlines_le fun r hr => (hhists r hr).2
    have h₃ := encodedLength_unlines_le fun r hr => (hwindows r hr).2
    rw [encodedLength_unlines_append, encodedLength_unlines_append]
    rw [List.length_singleton] at h₁
    rw [List.length_ofFn] at h₂
    rw [List.length_map, List.length_range] at h₃
    omega

/-- The rows of the history are read back. -/
lemma readHistories (hkept : ∀ i : Fin 300, HistKept i (c.hist i)) (hread : Readable c) :
    ((((lines c).drop 1).take 300).zipIdx 1).mapM (fun p => readHistory p.2 p.1) =
      .ok (List.ofFn fun i => History.ofHist (c.hist i)) := by
  have hrows : (((lines c).drop 1).take 300).zipIdx 1 =
      List.ofFn fun i : Fin 300 => (row 'P' (c.hist i).values, (i : ℕ) + 1) := by
    rw [lines_split, List.drop_succ_cons, List.drop_zero, List.take_left' List.length_ofFn]
    refine List.ext_getElem ?_ fun i hi hi' => ?_
    · rw [List.length_zipIdx, List.length_ofFn, List.length_ofFn]
    · rw [List.getElem_zipIdx, List.getElem_ofFn, List.getElem_ofFn, Nat.add_comm]
  rw [hrows]
  exact mapM_ofFn fun i => readHistory_ok i.isLt (hkept i) (hread.type i) (hread.flags i)

/-- The windows are read back. -/
lemma readWindows (hkept : ∀ s, WindowKept (c.hist (histIndex s)) s (c.window s))
    (hread : Readable c) :
    (List.range 11).mapM (fun slot => readWindow (List.ofFn fun i => History.ofHist (c.hist i))
      (24 + slot) ((lines c).getD (301 + slot * 2) []) ((lines c).getD (302 + slot * 2) [])) =
      .ok (List.ofFn fun s => Window.ofWindow (c.window s)) := by
  have hslots : List.range 11 = List.ofFn fun s : Fin 11 => (s : ℕ) := by decide
  rw [hslots]
  refine mapM_ofFn fun s => ?_
  have hhist : (List.ofFn fun i => History.ofHist (c.hist i))[23 + (s : ℕ)]? =
      some (History.ofHist (c.hist (histIndex s))) := by
    rw [List.getElem?_ofFn, dif_pos (by omega)]
    rfl
  rw [getD_lines (by omega), getD_lines (by omega), line_words s (hkept s).nwords,
    line_controls c s]
  exact readWindow_ok s.isLt hhist (hkept s) (hread.window s)

/-- The text of a capture whose contents are in the reader's domain is read back. -/
lemma parse_lines (h : Captured run pid ops c) (hread : Readable c) :
    (∀ s, (c.window s).nwords ≤ cmdWords) ∧ (splitlines (unlines (lines c))).length = 323 ∧
      parseSnapshot (unlines (lines c)) run = .ok
        { run
          context := c.context
          pictures := List.ofFn fun i => History.ofHist (c.hist i)
          windows := List.ofFn fun s => Window.ofWindow (c.window s) } := by
  obtain ⟨hcore, hctx, hkept⟩ := h.whole
  obtain ⟨hrun₀, hrun⟩ := h.run_range
  have hpictures : c.pictures = 300 := congrArg Core.pictures hcore
  have hhist : ∀ i : Fin 300, HistKept i (c.hist i) := fun i =>
    hkept.hist i (by rw [hpictures]; exact i.isLt)
  have hwindow : ∀ s, WindowKept (c.hist (histIndex s)) s (c.window s) := fun s =>
    hkept.window s (by simp only [hpictures, firstDetail]; omega)
  have hheader : c.headerValues =
      [2, run, c.context, 4, 0, 300, 300, 2048, 24, 34, 1024, 90824, 7596] := by
    rw [CmdCapture.headerValues, hcore]
    rfl
  have hrange : ∀ m ∈ c.headerValues, m < 0x10000000000000000 := by
    rw [hheader]
    intro m hm
    simp only [List.mem_cons, List.not_mem_nil, or_false] at hm
    omega
  have htag : Plain 'H' := ⟨by decide, by decide⟩
  have hnumbers : (c.headerValues.map decimal).mapM (unsigned 0x10000000000000000) =
      .ok c.headerValues := mapM_unsignedToken _ _ (Nat.le_refl _) hrange
  have hfirst : readHeader run c.headerValues = .ok (run, c.context) := by
    rw [hheader]
    simp only [readHeader, Except.bind_ok, need_ok, Except.pure_ok]
    exact ⟨(), ⟨⟨trivial, trivial, trivial, trivial⟩, hread.context⟩, (), rfl, trivial⟩
  obtain ⟨hone, hsize⟩ := lines_short hrange hhist hwindow
  have hlines : splitlines (unlines (lines c)) = lines c := splitlines_unlines hone
  have hcount : (lines c).length = 323 := by
    rw [lines, List.length_map, List.length_range]
  have hhead : (lines c).headD [] = row 'H' c.headerValues := by
    rw [lines_split]
    rfl
  refine ⟨fun s => (hwindow s).nwords, ?_, ?_⟩
  · rw [hlines, hcount]
  · simp only [parseSnapshot, Except.bind_ok, need_ok, hlines, hhead, split_row htag,
      List.length_cons, List.length_map, List.tail_cons, Except.pure_ok]
    refine ⟨(), ⟨by omega, by omega⟩, (), hsize, (), hcount, (), ⟨rfl, rfl⟩, _, hnumbers, _, hfirst,
      _, readHistories hhist hread, _, readWindows hwindow hread, rfl⟩

/-- **Snapshots of the command recorder are read back.**  Every capture that the hooks recorded and
that was sealed without an error bit is printed; if its contents are in the reader's domain, they are
read back: every history row, and of every window the sites and words in their order, the control
bytes, the inactive bits and the inputs of its context. -/
theorem command_snapshot_read_back (h : Captured run pid ops c) (hread : Readable c) :
    ∃ text, c.snapshot = some text ∧ (splitlines text).length = 323 ∧
      parseSnapshot text run = .ok
        { run
          context := c.context
          pictures := List.ofFn fun i => History.ofHist (c.hist i)
          windows := List.ofFn fun s => Window.ofWindow (c.window s) } := by
  obtain ⟨hwords, hcount, hparse⟩ := parse_lines h hread
  exact ⟨_, CmdCapture.snapshot_eq hwords, hcount, hparse⟩

end Capture

/-! ### A whole recording -/

section Whole

variable {c : CmdCapture} {w : CmdWindow} {n : ℕ}

/-- What is unpacked of the bytes that the kernel packs. -/
lemma get?_packed (k : Controls) (name : String) :
    (readFields controlLayout (Recorder.packControls k ++ List.replicate (cmdControl - cmdPacked) 0)
      0 ∅).get? name = (controlLayout.find? (·.name = name)).map fun f => memberValue k f.member := by
  cases hfind : controlLayout.find? (·.name = name) with
  | none =>
      refine get?_unpacked_eq_none fun hname => ?_
      obtain ⟨f, hf, rfl⟩ := List.mem_map.mp hname
      simpa using List.find?_eq_none.mp hfind f hf
  | some f =>
      obtain rfl : f.name = name := by simpa using List.find?_some hfind
      obtain ⟨pre, post, hsplit⟩ := List.append_of_mem (List.mem_of_find?_eq_some hfind)
      rw [get?_readFields layoutNames_nodup hsplit, packControls_eq,
        slice_chunks (fun f _ => f.member.length_chunk k) hsplit, readField_chunk]
      rfl

/-- The control bytes of a picture are those packed, and the padding. -/
lemma ofFn_controlBytes (a : CmdStartCall) : List.ofFn a.controlBytes =
    Recorder.packControls a.controls ++ List.replicate (cmdControl - cmdPacked) 0 := by
  have hlength := length_packControls a.controls
  have hsum : (Recorder.packControls a.controls).length +
      (List.replicate (cmdControl - cmdPacked) (0 : UInt8)).length = 1392 := by
    rw [hlength, List.length_replicate]
    rfl
  refine List.ext_getElem ?_ fun j hj hj' => ?_
  · rw [List.length_ofFn, List.length_append, hsum]
  · rw [List.getElem_ofFn, CmdStartCall.controlBytes]
    by_cases hlt : j < (Recorder.packControls a.controls).length
    · rw [List.getElem_append_left hlt, List.getD_eq_getElem _ _ hlt]
    · rw [List.getElem_append_right (Nat.not_lt.mp hlt), List.getElem_replicate,
        List.getD_eq_default _ _ (Nat.not_lt.mp hlt)]

/-- `c[name]` of the bytes that the kernel packs. -/
def packedField (k : Controls) (name : String) : Except String ℤ :=
  match (controlLayout.find? (·.name = name)).map fun f => memberValue k f.member with
  | some (.int n) => .ok n
  | some _ => .error "TypeError"
  | none => .error "KeyError"

lemma intField_packed {a : CmdStartCall} (hw : w.controls = a.controlBytes) (name : String) :
    intField (unpacked w) name = packedField a.controls name := by
  rw [intField, unpacked, hw, ofFn_controlBytes, get?_packed]
  rfl

/-- A picture of one slice that refers to others. -/
def interSlice : CmdStartCall :=
  { ctx := { revision := 3, bytesperline := 64 }
    sps := { picWidthInLumaSamples := 16, picHeightInLumaSamples := 16, chromaFormatIdc := 1,
             flags := 2 }
    sl := { bitSize := 16, sliceType := 1 }
    slices := 1
    entryCapacity := 1 }

/-- A word of the command stream. -/
def firstWord : CmdDetail := { context := 5, call := .word { segment := { num := 1 } } 1 }

lemma interSlice_domain (hw : w.controls = interSlice.controlBytes) :
    validateControls (unpacked w) = .ok () := by
  simp only [validateControls, checkFlags, checkTiles, checkGeometry, checkSlice, checkRange,
    intField_packed hw]
  decide +kernel

/-- The window of such a picture is admitted once it has a word. -/
lemma interSlice_readable {n picture : ℕ} {w₀ : CmdWindow} (hwords : 0 < w.nwords)
    (hw : ∃ sites words, w = { interSlice.window picture w₀ with
      sites, words, nwords := w.nwords }) : WindowReadable (interSlice.hist n) w := by
  obtain ⟨sites, words, hw⟩ := hw
  have hcontrols : w.controls = interSlice.controlBytes := by rw [hw, CmdStartCall.window]
  have hdecomp : w.decomp = 0 := by rw [hw, CmdStartCall.window, interSlice]
  have hrevision : w.revision = 3 := by rw [hw, CmdStartCall.window, interSlice]
  have hquirks : w.quirks = 0 := by rw [hw, CmdStartCall.window, interSlice]
  have hstride : w.bytesperline = 64 := by rw [hw, CmdStartCall.window, interSlice]
  have hinactive : w.inactive = 0 := by rw [hw, CmdStartCall.window]
  have htype : w.type = 1 := by rw [hw, CmdStartCall.window, interSlice]; rfl
  refine ⟨hwords, ?_, ?_, ?_, ?_, interSlice_domain hcontrols, ?_, ?_, ?_, 2, ?_, ?_⟩
  · rw [hdecomp]
    decide
  · rw [hrevision]
    decide
  · rw [hquirks]
    decide
  · rw [hstride]
    decide
  · rw [intField_packed hcontrols, show (interSlice.hist n).poc = 0 from rfl]
    decide +kernel
  · rw [intField_packed hcontrols, show (interSlice.hist n).type = 1 from rfl]
    decide +kernel
  · rw [intField_packed hcontrols, show (interSlice.hist n).flags = 0 from rfl]
    decide +kernel
  · rw [intField_packed hcontrols]
    decide +kernel
  · rw [hinactive, htype]
    decide

/-- A word in the window of the current picture. -/
lemma avdCmdtraceWord_detail (hsel : c.selected 5 = true) {slot : ℕ} (hslot : cmdSlot c = some slot)
    (hlt : slot < 11) (hfirst : (c.window ⟨slot, hlt⟩).nwords = 0) :
    ∃ sites words, avdCmdtraceDetail c firstWord = some { c with
      window := Function.update c.window ⟨slot, hlt⟩
        { c.window ⟨slot, hlt⟩ with sites, words, nwords := 1 } } := by
  have hdetail : cmdDetail c = true := by
    obtain ⟨hfirst, hlast, _⟩ := cmdSlot_eq_some.mp hslot
    exact cmdDetail_iff.mpr ⟨hfirst, hlast⟩
  refine ⟨Function.update (c.window ⟨slot, hlt⟩).sites ⟨0, by decide⟩ 1,
    Function.update (c.window ⟨slot, hlt⟩).words ⟨0, by decide⟩ 0, ?_⟩
  change avdCmdtraceWord c 5 { segment := { num := 1 } } 1 = _
  rw [avdCmdtraceWord, if_pos (by simp [cmdSelected, hsel, hdetail]), cmdWord, hslot]
  dsimp only
  rw [if_neg (by decide), load_of_lt hlt]
  simp only [Option.bind_eq_bind, Option.bind_some, hfirst]
  rw [if_neg (by decide), store_of_lt (by decide), store_of_lt (by decide), Option.bind_some,
    Option.bind_some, store_of_lt hlt]
  rfl

lemma avdCmdtraceWord_plain (hslot : cmdSlot c = none) : avdCmdtraceDetail c firstWord = some c := by
  change avdCmdtraceWord c 5 { segment := { num := 1 } } 1 = _
  rw [avdCmdtraceWord]
  split_ifs
  · rw [cmdWord, hslot]
  · rfl

/-- A picture with a word. -/
def onePicture : List CmdtraceOp := [.start 5 interSlice, .extra firstWord, .done 5 true]

/-- A capture after some of the pictures. -/
structure Sampled (n : ℕ) (c : CmdCapture) : Prop where
  core : c.toCore = recording 1 7 5 n false
  hist : ∀ i : Fin 300, i < n → c.hist i = interSlice.hist (i + 1)
  window : ∀ s : Fin 11, firstDetail + s ≤ n → (c.window s).controls = interSlice.controlBytes ∧
    ∀ k, WindowReadable (interSlice.hist k) (c.window s)

/-- One picture more. -/
lemma Sampled.next (h : Sampled n c) (hn : n < 300) :
    ∃ c', cmdtraceMachine.run onePicture c = some c' ∧ Sampled (n + 1) c' := by
  have hcore := h.core
  have hwrap : wrap64 (n + 1) = n + 1 := wrap64_of_lt (by omega)
  have hstarted : c.toCore.start 5 interSlice.shape.malformed = recording 1 7 5 n true := by
    have hshape : interSlice.shape.malformed = false := by decide
    rw [hcore, hshape]
    simp [Core.start, Core.selected, recording, Core.raiseIf, hwrap, pictureCount]
    omega
  have hsel : c.selected 5 = true := by
    rw [hcore]
    rfl
  obtain ⟨c₁, hstart, hcore₁, hhist₁, hwindow₁⟩ :=
    avdCmdtraceStart_eq hsel interSlice (n := n) (by rw [hstarted]; rfl) hn
  rw [hstarted] at hcore₁
  have hsel₁ : c₁.selected 5 = true := by
    rw [hcore₁]
    rfl
  have hpictures₁ : c₁.pictures = n + 1 := congrArg Core.pictures hcore₁
  -- The word changes the window of the picture, if it has one.
  have hword : ∃ c₂, avdCmdtraceDetail c₁ firstWord = some c₂ ∧ c₂.toCore = c₁.toCore ∧
      c₂.hist = c₁.hist ∧ ∀ s : Fin 11, firstDetail + s ≤ n + 1 →
        (c₂.window s).controls = interSlice.controlBytes ∧
          ∀ k, WindowReadable (interSlice.hist k) (c₂.window s) := by
    rcases hwindow₁ with ⟨hplain, hsame⟩ | ⟨hlt, hdetail, hnew⟩
    · refine ⟨c₁, avdCmdtraceWord_plain (cmdSlot_of_not_detail (hpictures₁ ▸ hplain)), rfl, rfl, ?_⟩
      intro s hs
      rw [hsame]
      refine h.window s ?_
      simp only [firstDetail, lastDetail] at hplain hs ⊢
      omega
    · have hslot : cmdSlot c₁ = some (n + 1 - firstDetail) := by
        rw [← hpictures₁] at hdetail ⊢
        exact cmdSlot_of_detail hdetail
      obtain ⟨sites, words, hc₂⟩ := avdCmdtraceWord_detail hsel₁ hslot hlt (by
        rw [hnew, Function.update_self]
        rfl)
      refine ⟨_, hc₂, rfl, rfl, fun s hs => ?_⟩
      simp only [hnew, Function.update_idem, Function.update_self]
      by_cases hcurrent : s = ⟨n + 1 - firstDetail, hlt⟩
      · rw [hcurrent, Function.update_self]
        refine ⟨by rw [CmdStartCall.window], fun k => ?_⟩
        exact interSlice_readable Nat.one_pos ⟨sites, words, rfl⟩
      · have hne : (s : ℕ) ≠ n + 1 - firstDetail := fun heq => hcurrent (Fin.ext heq)
        rw [Function.update_of_ne hcurrent]
        refine h.window s ?_
        simp only [firstDetail] at hs hne ⊢
        omega
  obtain ⟨c₂, hc₂, hcore₂, hhist₂, hwindow₂⟩ := hword
  refine ⟨cmdDone c₂ 5 true, ?_, ?_, ?_, hwindow₂⟩
  · rw [onePicture, Machine.run_cons hstart, Machine.run_cons hc₂, Machine.run_cons rfl]
    rfl
  · change c₂.toCore.done 5 true = _
    rw [hcore₂, hcore₁]
    simp [Core.done, Core.selected, recording, Core.raiseIf, hwrap]
  · intro i hi
    change c₂.hist i = _
    rw [hhist₂, hhist₁]
    by_cases hlast : i = ⟨n, hn⟩
    · rw [hlast, Function.update_self]
    · have hne : (i : ℕ) ≠ n := fun heq => hlast (Fin.ext heq)
      rw [Function.update_of_ne hlast]
      exact h.hist i (by omega)

/-- The capture after some of the pictures. -/
lemma run_onePicture (hn : n ≤ 300) : ∃ c, cmdtraceMachine.run (.bind 7 5 true ::
    (List.replicate n onePicture).flatten) (cmdArmed 1 7) = some c ∧ Sampled n c := by
  induction n with
  | zero =>
      have hbind : cmdtraceMachine.step (.bind 7 5 true) (cmdArmed 1 7) =
          some { cmdArmed 1 7 with toCore := recording 1 7 5 0 false } := rfl
      refine ⟨_, (Machine.run_cons hbind).trans rfl, rfl, ?_, ?_⟩
      · exact fun i hi => absurd hi (Nat.not_lt_zero _)
      · exact fun s hs => absurd hs (by simp only [firstDetail]; omega)
  | succ n ih =>
      obtain ⟨c, hrun, hsampled⟩ := ih (by omega)
      obtain ⟨c', hnext, hsampled'⟩ := hsampled.next (by omega)
      refine ⟨c', ?_, hsampled'⟩
      rw [List.replicate_succ', List.flatten_append, List.flatten_singleton, ← List.cons_append,
        Machine.run_append hrun]
      exact hnext

end Whole

/-- A recording of context 5 by process 7 with a word in each picture. -/
lemma oneWord_captured : ∃ ops c, Captured 1 7 ops c ∧ Readable c ∧
    (∀ i : Fin 300, c.hist i = interSlice.hist (i + 1)) ∧
      ∀ s, (c.window s).controls = interSlice.controlBytes := by
  obtain ⟨c, hrun, hsampled⟩ := run_onePicture (Nat.le_refl 300)
  have hclosed : (cmdClose c 5).toCore = recorded 1 7 5 .drained := by
    change c.toCore.close 5 = _
    rw [hsampled.core]
    rfl
  have hsealed : (cmdSeal (cmdClose c 5)).toCore = recorded 1 7 5 .sealed := by
    change (cmdClose c 5).toCore.sealUp = _
    rw [hclosed]
    rfl
  have hcaptured : Captured 1 7 (.bind 7 5 true :: (List.replicate 300 onePicture).flatten ++
      [.close 5] ++ [.sealUp]) (cmdSeal (cmdClose c 5)) := by
    refine ⟨by decide, fun p ctx hevc hmem => ?_, ?_, congrArg Core.phase hsealed,
      congrArg Core.errors hsealed⟩
    · rw [List.mem_append, List.mem_append, List.mem_cons, List.mem_flatten] at hmem
      rcases hmem with ((hmem | ⟨ops, hops, hmem⟩) | hmem) | hmem
      · simp only [Op.bind.injEq] at hmem
        omega
      · rw [List.eq_of_mem_replicate hops] at hmem
        simp [onePicture] at hmem
      · simp at hmem
      · simp at hmem
    · exact Machine.run_concat.mpr ⟨_, Machine.run_concat.mpr ⟨c, hrun, rfl⟩, rfl⟩
  have hhist : ∀ i : Fin 300, (cmdSeal (cmdClose c 5)).hist i = interSlice.hist (i + 1) :=
    fun i => hsampled.hist i i.isLt
  have hwindow := fun s : Fin 11 => hsampled.window s (by simp only [firstDetail]; omega)
  have hreadable : Readable (cmdSeal (cmdClose c 5)) := by
    refine ⟨?_, fun i => ?_, fun i => ?_, fun s => ?_⟩
    · rw [hsealed]
      decide
    · rw [hhist i]
      exact Nat.le_succ 1
    · rw [hhist i]
      exact Nat.zero_le 7
    · rw [hhist]
      exact (hwindow s).2 _
  exact ⟨_, _, hcaptured, hreadable, hhist, fun s => (hwindow s).1⟩

/-- A recording of context 5 by process 7 with a word in each picture is read back. -/
theorem oneWord_read_back : ∃ ops c text, Captured 1 7 ops c ∧ Readable c ∧
    c.snapshot = some text ∧ (parseSnapshot text 1).isOk = true := by
  obtain ⟨ops, c, hcaptured, hreadable, _⟩ := oneWord_captured
  obtain ⟨text, htext, _, hparse⟩ := command_snapshot_read_back hcaptured hreadable
  refine ⟨ops, c, text, hcaptured, hreadable, htext, ?_⟩
  rw [show ((1 : ℕ) : ℤ) = 1 from rfl] at hparse
  rw [hparse]
  rfl

end OmarchyM1Video.CommandTrace
