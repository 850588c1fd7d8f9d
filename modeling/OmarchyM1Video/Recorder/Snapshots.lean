import Mathlib.Data.List.OfFn
import OmarchyM1Video.Py.Text
import OmarchyM1Video.Recorder.CmdRecords
import OmarchyM1Video.Recorder.TraceRecords

/-!
The snapshots of the recorders: `snapshot_show` of
`experiments/hevc-avd-trace/kernel/avd-trace.c`, and `snapshot_rows` and `snapshot_row` that
`experiments/hevc-avd-command-trace/bounded.py` puts in its place, which print the same text; and the
same of the command recorder, whose rows only the latter prints.

* `AtrCapture.snapshotRow`, `AtrCapture.snapshot`: a row, and the whole text;
* `Holding.snapshot_eq`: the rows are the header and the records that the hooks left;
* `CmdCapture.snapshotRow`, `CmdCapture.snapshot`: the same of the command recorder;
* `CmdCapture.snapshot_eq`: the rows are the header, the history, and two for each window.
-/

namespace OmarchyM1Video.Recorder

open OmarchyM1Video.C OmarchyM1Video.Py

/-- Rows that can all be printed are printed. -/
lemma mapM_of_forall {α β : Type} {f : α → Option β} {g : α → β} {l : List α}
    (h : ∀ x ∈ l, f x = some (g x)) : l.mapM f = some (l.map g) := by
  induction l with
  | nil => rfl
  | cons x l ih =>
      rw [List.mapM_cons, h x List.mem_cons_self, ih fun y hy => h y (List.mem_cons_of_mem _ hy)]
      rfl

/-! ### The reference recorder -/

/-- `sizeof(struct atr_record)`. -/
def sizeofAtrRecord : ℕ := 616

/-- The numbers of a record's row. -/
def AtrRecord.values (r : AtrRecord) : List ℕ :=
  [r.run, r.context, r.sequence, r.kind, r.picture] ++ List.ofFn fun j => (r.v j).toNat

namespace AtrCapture

/-- The numbers of the header. -/
def headerValues (c : AtrCapture) : List ℕ :=
  [2, c.run, c.context, c.phase.code, c.errors, c.count, c.attempted, c.pictures, c.completions,
    traceCapacity, firstDetail, lastDetail, sizeofAtrRecord]

/-- `snapshot_rows(c)`. -/
def snapshotRows (c : AtrCapture) : ℕ := 1 + c.count

/-- `snapshot_row(s, row)`. -/
def snapshotRow (c : AtrCapture) (n : ℕ) : Option (List Char) :=
  if n = 0 then some (row 'H' c.headerValues)
  else (load c.records (n - 1)).map fun r => row 'R' r.values

/-- `snapshot_show`, and what a reader gets row by row. -/
def snapshot (c : AtrCapture) : Option (List Char) :=
  ((List.range c.snapshotRows).mapM c.snapshotRow).map unlines

end AtrCapture

/-- The rows of the records. -/
def recordRows (run ctx : ℕ) (es : List Entry) : List (List Char) :=
  (es.zipIdx 1).map fun p => row 'R' (p.1.record run ctx p.2).values

/-- **The snapshot is the header and the records that the hooks left.** -/
theorem Holding.snapshot_eq {ctx : ℕ} {es : List Entry} {c : AtrCapture} (h : Holding ctx es c) :
    c.snapshot = some (unlines (row 'H' c.headerValues :: recordRows c.run ctx es)) := by
  have hroom : es.length ≤ 2048 := h.room
  have hrecords : ((List.range c.count).map (· + 1)).mapM c.snapshotRow =
      some (((List.range c.count).map (· + 1)).map fun n =>
        (recordRows c.run ctx es).getD (n - 1) []) := by
    refine mapM_of_forall fun n hn => ?_
    obtain ⟨k, hk, rfl⟩ := List.mem_map.mp hn
    have hlt : k < es.length := h.count ▸ List.mem_range.mp hk
    have hrow : (recordRows c.run ctx es).getD k [] =
        row 'R' (es[k].record c.run ctx (k + 1)).values := by
      rw [List.getD_eq_getElem _ _ (by simpa [recordRows] using hlt)]
      simp [recordRows, Nat.add_comm 1]
    rw [AtrCapture.snapshotRow, if_neg (Nat.succ_ne_zero k), Nat.add_sub_cancel,
      load_of_lt (by omega), h.records, Option.map_some, recordsOf, List.getElem?_eq_getElem hlt, hrow]
  have hlist : ((List.range c.count).map (· + 1)).map (fun n =>
      (recordRows c.run ctx es).getD (n - 1) []) = recordRows c.run ctx es := by
    rw [List.map_map]
    refine List.ext_getElem (by simp [recordRows, h.count]) fun k hk hk' => ?_
    simp only [List.getElem_map, List.getElem_range, Function.comp_apply, Nat.add_sub_cancel]
    exact List.getD_eq_getElem _ _ hk'
  rw [hlist] at hrecords
  rw [AtrCapture.snapshot, AtrCapture.snapshotRows, Nat.add_comm, List.range_succ_eq_map,
    List.mapM_cons, hrecords]
  rfl

/-! ### The command recorder -/

/-- `CMD_CAPACITY_MARK`. -/
def cmdCapacityMark : ℕ := 2048

/-- `sizeof(struct cmd_window)`. -/
def sizeofCmdWindow : ℕ := 7596

/-- `sizeof(struct cmd_capture)`. -/
def sizeofCmdCapture : ℕ := 90824

/-- `CMD_WINDOW`. -/
def cmdWindow : ℕ := 11

/-- The numbers of a history row. -/
def CmdHist.values (h : CmdHist) : List ℕ :=
  [h.picture, h.poc.toNat, h.type.toNat, h.target.toNat, h.flags.toNat, h.intra.toNat]

namespace CmdWindow

/-- The numbers of a window before its words. -/
def inputValues (w : CmdWindow) : List ℕ :=
  [w.picture, w.poc.toNat, w.type.toNat, w.nwords, w.nbytes, w.inactive, w.decomp.toNat,
    w.revision.toNat, w.quirks.toNat, w.bytesperline.toNat]

/-- A word after its site. -/
def pair? (w : CmdWindow) (j : ℕ) : Option (List ℕ) := do
  let site ← load w.sites j
  let word ← load w.words j
  return [site.toNat, word.toNat]

/-- The row of a window with its words. -/
def wordsRow (w : CmdWindow) : Option (List Char) := do
  let pairs ← (List.range w.nwords).mapM w.pair?
  return row 'W' (w.inputValues ++ pairs.flatten)

/-- The row of a window's control bytes. -/
def controlsRow (w : CmdWindow) : Option (List Char) := do
  let bytes ← (List.range cmdControl).mapM fun j => load w.controls j
  return row 'C' (bytes.map UInt8.toNat)

end CmdWindow

namespace CmdCapture

/-- The numbers of the header. -/
def headerValues (c : CmdCapture) : List ℕ :=
  [2, c.run, c.context, c.phase.code, c.errors, c.pictures, c.completions, cmdCapacityMark,
    firstDetail, lastDetail, cmdWords, sizeofCmdCapture, sizeofCmdWindow]

/-- `snapshot_rows(c)`. -/
def snapshotRows (_ : CmdCapture) : ℕ := 1 + pictureCount + 2 * cmdWindow

/-- The rows behind the history: two for each window. -/
def windowRow (c : CmdCapture) (n : ℕ) : Option (List Char) := do
  let w ← load c.window (n / 2)
  if n % 2 = 0 then w.wordsRow else w.controlsRow

/-- `snapshot_row(s, row)`. -/
def snapshotRow (c : CmdCapture) (n : ℕ) : Option (List Char) :=
  if n = 0 then some (row 'H' c.headerValues)
  else if n ≤ pictureCount then (load c.hist (n - 1)).map fun h => row 'P' h.values
  else c.windowRow (n - 1 - pictureCount)

/-- What a reader gets row by row. -/
def snapshot (c : CmdCapture) : Option (List Char) :=
  ((List.range c.snapshotRows).mapM c.snapshotRow).map unlines

/-- A row, empty if there is none. -/
def line (c : CmdCapture) (n : ℕ) : List Char := (c.snapshotRow n).getD []

end CmdCapture

/-- So many elements of a table are read one after the other. -/
lemma mapM_range_of_forall {α : Type} {n k : ℕ} {f : ℕ → Option α} {g : Fin n → α} (hk : k ≤ n)
    (h : ∀ j : Fin n, f j = some (g j)) : (List.range k).mapM f = some ((List.ofFn g).take k) := by
  induction k with
  | zero => rfl
  | succ k ih =>
      have hlast : f k = some (g ⟨k, hk⟩) := h ⟨k, hk⟩
      have htake : (List.ofFn g).take (k + 1) = (List.ofFn g).take k ++ [g ⟨k, hk⟩] := by
        rw [List.take_succ_eq_append_getElem (by rwa [List.length_ofFn]),
          List.getElem_ofFn]
      rw [List.range_succ, List.mapM_append, ih (Nat.le_of_succ_le hk), List.mapM_cons, hlast, htake]
      rfl

section Rows

variable {c : CmdCapture} {w : CmdWindow}

/-- The sites and the words of a window, one after the other. -/
def CmdWindow.pairs (w : CmdWindow) : List (ℕ × ℕ) :=
  (List.ofFn fun j => ((w.sites j).toNat, (w.words j).toNat)).take w.nwords

/-- The numbers of a window's row. -/
def CmdWindow.values (w : CmdWindow) : List ℕ :=
  w.inputValues ++ w.pairs.flatMap fun p => [p.1, p.2]

/-- The numbers of a window's control bytes. -/
def CmdWindow.controlValues (w : CmdWindow) : List ℕ := (List.ofFn w.controls).map UInt8.toNat

lemma CmdWindow.wordsRow_eq (h : w.nwords ≤ cmdWords) : w.wordsRow = some (row 'W' w.values) := by
  have hpairs : (List.range w.nwords).mapM w.pair? =
      some ((List.ofFn fun j => [(w.sites j).toNat, (w.words j).toNat]).take w.nwords) := by
    refine mapM_range_of_forall h fun j => ?_
    rw [CmdWindow.pair?, load_of_lt j.isLt, load_of_lt j.isLt]
    rfl
  have hflat : ((List.ofFn fun j => [(w.sites j).toNat, (w.words j).toNat]).take w.nwords).flatten =
      w.pairs.flatMap fun p => [p.1, p.2] := by
    rw [CmdWindow.pairs, List.flatMap, List.map_take, List.map_ofFn]
    rfl
  rw [CmdWindow.wordsRow, hpairs, CmdWindow.values, ← hflat]
  rfl

lemma CmdWindow.controlsRow_eq (w : CmdWindow) :
    w.controlsRow = some (row 'C' w.controlValues) := by
  have hbytes : (List.range cmdControl).mapM (fun j => load w.controls j) =
      some ((List.ofFn w.controls).take cmdControl) :=
    mapM_range_of_forall (Nat.le_refl _) fun j => load_of_lt j.isLt
  have htake : (List.ofFn w.controls).take cmdControl = List.ofFn w.controls :=
    List.take_of_length_le (by rw [List.length_ofFn]; exact Nat.le_refl 1392)
  rw [CmdWindow.controlsRow, hbytes, htake]
  rfl

namespace CmdCapture

lemma line_header (c : CmdCapture) : c.line 0 = row 'H' c.headerValues := rfl

lemma snapshotRow_hist (c : CmdCapture) (i : Fin 300) :
    c.snapshotRow (i + 1) = some (row 'P' (c.hist i).values) := by
  have hi : (i : ℕ) + 1 ≤ pictureCount := i.isLt
  rw [snapshotRow, if_neg (Nat.succ_ne_zero _), if_pos hi, Nat.add_sub_cancel, load_of_lt i.isLt]
  rfl

lemma snapshotRow_window (c : CmdCapture) (n : ℕ) :
    c.snapshotRow (301 + n) = c.windowRow n := by
  have hrest : 301 + n - 1 - pictureCount = n := by
    simp only [pictureCount]
    omega
  rw [snapshotRow, if_neg (by omega), if_neg (by simp only [pictureCount]; omega), hrest]

lemma windowRow_words (s : Fin 11) (h : (c.window s).nwords ≤ cmdWords) :
    c.windowRow (2 * s) = some (row 'W' (c.window s).values) := by
  rw [windowRow, Nat.mul_div_cancel_left _ (by decide), load_of_lt s.isLt]
  simp only [Option.bind_eq_bind, Option.bind_some, Nat.mul_mod_right, if_true]
  exact CmdWindow.wordsRow_eq h

lemma windowRow_controls (c : CmdCapture) (s : Fin 11) :
    c.windowRow (2 * s + 1) = some (row 'C' (c.window s).controlValues) := by
  have hdiv : (2 * (s : ℕ) + 1) / 2 = s := by omega
  have hmod : (2 * (s : ℕ) + 1) % 2 = 1 := by omega
  rw [windowRow, hdiv, load_of_lt s.isLt, hmod]
  simp only [Option.bind_eq_bind, Option.bind_some, if_neg Nat.one_ne_zero]
  exact CmdWindow.controlsRow_eq (c.window s)

/-- A row is printed if the words of every window fit. -/
lemma snapshotRow_eq (h : ∀ s, (c.window s).nwords ≤ cmdWords) {n : ℕ} (hn : n < c.snapshotRows) :
    c.snapshotRow n = some (c.line n) := by
  have hsome : ∀ {r : List Char}, c.snapshotRow n = some r → c.snapshotRow n = some (c.line n) := by
    intro r hr
    rw [line, hr, Option.getD_some]
  simp only [snapshotRows, pictureCount, cmdWindow] at hn
  rcases Nat.eq_zero_or_pos n with rfl | hpos
  · exact rfl
  rcases Nat.lt_or_ge n 301 with hhist | hwindow
  · have hrow := c.snapshotRow_hist ⟨n - 1, by omega⟩
    rw [Nat.sub_add_cancel hpos] at hrow
    exact hsome hrow
  · obtain ⟨k, rfl⟩ := Nat.exists_eq_add_of_le hwindow
    rcases Nat.mod_two_eq_zero_or_one k with heven | hodd
    · have hrow := windowRow_words ⟨k / 2, by omega⟩ (h _)
      rw [Nat.mul_div_cancel' (Nat.dvd_of_mod_eq_zero heven), ← snapshotRow_window] at hrow
      exact hsome hrow
    · have hrow := c.windowRow_controls ⟨k / 2, by omega⟩
      have hk : 2 * (k / 2) + 1 = k := by omega
      rw [hk, ← snapshotRow_window] at hrow
      exact hsome hrow

/-- **The snapshot is the header, the history and two rows for each window.** -/
theorem snapshot_eq (h : ∀ s, (c.window s).nwords ≤ cmdWords) :
    c.snapshot = some (unlines ((List.range c.snapshotRows).map c.line)) := by
  rw [snapshot, mapM_of_forall fun n hn => snapshotRow_eq h (List.mem_range.mp hn)]
  rfl

end CmdCapture

end Rows

end OmarchyM1Video.Recorder
