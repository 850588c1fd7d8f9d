import OmarchyM1Video.Py.Dict
import OmarchyM1Video.Py.Text

/-!
The offline reader of a snapshot of the reference recorder: `read_capture` of
`experiments/hevc-avd-trace/check.py`.

A record is read into a dictionary by the names of its kind; the snapshot has the values only.

* `fieldNames`: `FIELDS`;
* `readCapture`: `read_capture`;
* `readRow_ok`: a row of numbers is read to the names of its kind and their values.
-/

namespace OmarchyM1Video.TraceCheck

open OmarchyM1Video.Py

/-! ### The names -/

/-- `BUFFER`. -/
def bufferNames : List String :=
  ["buffer", "timestamp", "copied", "intra", "writer", "completed", "allocation", "length",
    "comp_start", "comp_size", "off0", "off1", "off2", "off3", "mv_size", "mv_offset", "bounds",
    "memory"]

/-- `START`. -/
def startNames : List String :=
  ["previous_writer", "poc", "slice_poc", "type", "slices", "entry_capacity", "dpb_count", "width",
    "height"] ++ bufferNames ++ ["slice_entries"]

/-- `TABLE`. -/
def tableNames : List String :=
  ["slot", "poc", "flags", "requested_timestamp", "word", "matched"] ++ bufferNames ++
    ["emitted_comp0", "emitted_comp1", "emitted_comp2", "emitted_comp3"]

/-- `MOTION`. -/
def motionNames : List String :=
  ["flags", "type", "merge", "l0_minus1", "l1_minus1", "col_index", "first", "slot",
    "requested_timestamp", "lookup", "matched", "valid", "word", "emitted"] ++ bufferNames ++
    ["l0_0", "l0_1", "l0_2", "l0_3", "l0_4", "l0_5", "l0_6", "l0_7", "l0_8", "l0_9", "l0_10",
      "l0_11", "l0_12", "l0_13", "l0_14", "l0_15"] ++
    ["l1_0", "l1_1", "l1_2", "l1_3", "l1_4", "l1_5", "l1_6", "l1_7", "l1_8", "l1_9", "l1_10",
      "l1_11", "l1_12", "l1_13", "l1_14", "l1_15"] ++ ["emitted_mv", "quirks"]

/-- `FIELDS`. -/
def fieldNames : ℕ → Option (List String)
  | 1 => some startNames
  | 2 => some ("result" :: bufferNames)
  | 3 => some tableNames
  | 4 => some ["list", "position", "slot", "word"]
  | 5 => some motionNames
  | _ => none

/-! ### Reading -/

/-- A record by its names. -/
abbrev Row := Dict String ℤ

/-- What `read_capture` returns. -/
structure Capture where
  run : ℕ
  context : ℕ
  records : List Row
  count : ℕ

/-- `unsigned(token)`. -/
def unsigned (token : List Char) : Except String ℕ :=
  unsignedToken "noncanonical unsigned integer" "integer out of range/noncanonical"
    0x10000000000000000 token

/-- `signed32(value)`. -/
def signed32 (value : ℤ) : Except String ℤ := do
  need (0 ≤ value ∧ value < 0x100000000) "POC outside encoded s32"
  return if value < 0x80000000 then value else value - 0x100000000

/-- `if field in row: row[field] = signed32(row[field])`. -/
def signField (field : String) (row : Row) : Except String Row :=
  match row.get? field with
  | none => return row
  | some v => do
      let w ← signed32 v
      return row.set field w

/-- The numbers of a record by their names. -/
def nameValues (kind pic : ℕ) (values : List ℕ) (keys : List String) : Except String Row := do
  need (1 ≤ pic ∧ pic ≤ 300) "unknown kind/picture"
  need ((values.drop keys.length).all (· = 0) = true) "unknown nonzero reserved inputs"
  let row : Row := (∅ : Row).update (keys.zip (values.map Int.ofNat))
  let row := row.update [("kind", kind), ("picture", pic)]
  let row ← signField "poc" row
  signField "slice_poc" row

/-- The numbers of a record. -/
def readNumbers (run ctx sequence : ℕ) : List ℕ → Except String Row
  | rr :: rc :: seq :: kind :: pic :: values => do
      need ((rr, rc, seq) = (run, ctx, sequence)) "wrong context/run or missing/duplicate sequence"
      let keys ← found (fieldNames kind) "unknown kind/picture"
      nameValues kind pic values keys
  | _ => .error "missing/extra record inputs"

/-- A line of a record. -/
def readRow (run ctx sequence : ℕ) (line : List Char) : Except String Row := do
  let tokens := split line
  need (tokens.length = 78 ∧ tokens.head? = some ['R']) "missing/extra record inputs"
  let numbers ← tokens.tail.mapM unsigned
  readNumbers run ctx sequence numbers

/-- The numbers of the header: the run, the context and the count, if the rest is as it should be. -/
def readHeader (expectedRun : ℤ) (records : ℕ) : List ℕ → Except String (ℕ × ℕ × ℕ)
  | [version, run, ctx, phase, errors, count, attempted, pictures, done, cap, first, last, size] => do
      need (version = 2 ∧ (run : ℤ) = expectedRun ∧ 0 < run ∧ 0 < ctx) "wrong schema/run/context"
      need (phase = 4 ∧ errors = 0) "unsealed or kernel-invalid capture"
      need ((pictures, done, cap, first, last, size) = (300, 300, 2048, 24, 34, 616))
        "wrong extent/schema constants"
      need (count = attempted ∧ attempted = records ∧ 600 ≤ count ∧ count ≤ 1139)
        "loss/overflow/extent mismatch"
      return (run, ctx, count)
  | _ => .error "missing/invalid header"

/-- `read_capture(text, expected_run)`. -/
def readCapture (text : List Char) (expectedRun : ℤ) : Except String Capture := do
  need (encodedLength text ≤ 4194304) "oversized snapshot"
  let lines := splitlines text
  need (lines ≠ [] ∧ lines.length ≤ 2049) "empty/oversized extent"
  let h := split (lines.headD [])
  need (h.length = 14 ∧ h.head? = some ['H']) "missing/invalid header"
  let numbers ← h.tail.mapM unsigned
  let (run, ctx, count) ← readHeader expectedRun (lines.length - 1) numbers
  let records ← (lines.tail.zipIdx 1).mapM fun p => readRow run ctx p.2 p.1
  return { run, context := ctx, records, count }

/-! ### A row that is read -/

/-- A number under a name with what it is read as. -/
abbrev Item := String × (ℕ × ℤ)

/-- A signed field is read from its encoding, and every other one as it is. -/
def Signs (p : Item) : Prop :=
  if p.1 = "poc" ∨ p.1 = "slice_poc" then signed32 p.2.1 = .ok p.2.2 else (p.2.1 : ℤ) = p.2.2

section Rows

variable {items : List Item} {run ctx sequence kind pic : ℕ}

/-- A field is replaced by what it is read as, if it is there. -/
lemma signField_entries (field : String) {row : Row} {raw : Item → ℤ}
    (hrow : row.entries = items.map fun p => (p.1, raw p))
    (hsigns : ∀ p ∈ items, p.1 = field → signed32 (raw p) = .ok p.2.2) :
    ∃ row', signField field row = .ok row' ∧
      row'.entries = items.map fun p => (p.1, if p.1 = field then p.2.2 else raw p) := by
  have hnodup : (items.map Prod.fst).Nodup := by
    have h := row.nodup
    rwa [hrow, List.map_map] at h
  rw [signField]
  cases hget : row.get? field with
  | none =>
      refine ⟨row, rfl, hrow.trans (List.map_congr_left fun p hp => ?_)⟩
      rw [if_neg]
      rintro rfl
      have hmem : (p.1, raw p) ∈ row.entries := hrow ▸ List.mem_map_of_mem hp
      exact absurd (Dict.mem_entries_iff.mp hmem) (by simp [hget])
  | some v =>
      have hmem := Dict.mem_entries_iff.mpr hget
      rw [hrow] at hmem
      obtain ⟨q, hq, hqv⟩ := List.mem_map.mp hmem
      obtain ⟨rfl, rfl⟩ := Prod.mk.inj hqv
      have hsigned := hsigns q hq rfl
      simp only [hsigned]
      refine ⟨_, rfl, ?_⟩
      rw [Dict.entries_set_of_get? hget, hrow, List.map_map]
      refine List.map_congr_left fun p hp => ?_
      by_cases hpq : p.1 = q.1
      · obtain rfl : p = q := List.inj_on_of_nodup_map hnodup hp hq hpq
        simp
      · simp [hpq]

/-- Both signed fields are replaced by what they are read as. -/
lemma signFields_entries {row : Row} (hrow : row.entries = items.map fun p => (p.1, (p.2.1 : ℤ)))
    (hsigns : ∀ p ∈ items, Signs p) :
    ∃ row', (signField "poc" row >>= signField "slice_poc") = .ok row' ∧
      row'.entries = items.map fun p => (p.1, p.2.2) := by
  have hfirst := signField_entries "poc" hrow fun p hp hpoc => by
    simpa [Signs, hpoc] using hsigns p hp
  obtain ⟨row₁, hrow₁, hentries₁⟩ := hfirst
  have hsecond := signField_entries "slice_poc" hentries₁ fun p hp hpoc => by
    simpa [Signs, hpoc] using hsigns p hp
  obtain ⟨row₂, hrow₂, hentries₂⟩ := hsecond
  refine ⟨row₂, Except.bind_ok.mpr ⟨row₁, hrow₁, hrow₂⟩, hentries₂.trans ?_⟩
  refine List.map_congr_left fun p hp => congrArg (Prod.mk p.1) ?_
  by_cases hslice : p.1 = "slice_poc"
  · rw [if_pos hslice]
  · by_cases hpoc : p.1 = "poc"
    · rw [if_neg hslice, if_pos hpoc]
    · have hplain := hsigns p hp
      rw [Signs, if_neg (not_or.mpr ⟨hpoc, hslice⟩)] at hplain
      rw [if_neg hslice, if_neg hpoc, hplain]

/-- The items of a record, with its kind and its picture behind them. -/
def withKind (items : List Item) (kind pic : ℕ) : List Item :=
  items ++ ([("kind", (kind, kind)), ("picture", (pic, pic))] : List Item)

/-- The numbers of a record are read to what stands under their names. -/
lemma nameValues_ok (kind : ℕ) (hpic : 1 ≤ pic ∧ pic ≤ 300)
    (hnodup : (items.map Prod.fst ++ ["kind", "picture"]).Nodup) (hsigns : ∀ p ∈ items, Signs p)
    (n : ℕ) : ∃ row, nameValues kind pic (items.map (fun p : Item => p.2.1) ++ List.replicate n 0)
        (items.map Prod.fst) = .ok row ∧
      row.entries = (withKind items kind pic).map fun p => (p.1, p.2.2) := by
  have hzip : (items.map Prod.fst).zip
      ((items.map (fun p : Item => p.2.1) ++ List.replicate n 0).map Int.ofNat) =
      items.map fun p => (p.1, (p.2.1 : ℤ)) := by
    rw [List.map_append, List.map_map, ← List.append_nil (items.map Prod.fst),
      List.zip_append (by simp), List.zip_nil_left, List.append_nil, List.zip_map']
    rfl
  have hdrop : (items.map (fun p : Item => p.2.1) ++ List.replicate n 0).drop
      (items.map Prod.fst).length = List.replicate n 0 := by
    rw [List.length_map, List.drop_left' (by simp)]
  generalize hfirst : (∅ : Row).update (items.map fun p => (p.1, (p.2.1 : ℤ))) = first
  have hnames : (items.map fun p => (p.1, (p.2.1 : ℤ))).map Prod.fst = items.map Prod.fst := by
    rw [List.map_map]
    rfl
  have hentries : first.entries = items.map fun p => (p.1, (p.2.1 : ℤ)) := by
    rw [← hfirst, Dict.entries_update]
    · rfl
    · rw [hnames]
      exact hnodup.of_append_left
  have hrow : (first.update [("kind", (kind : ℤ)), ("picture", (pic : ℤ))]).entries =
      (withKind items kind pic).map fun p => (p.1, (p.2.1 : ℤ)) := by
    rw [Dict.entries_update, hentries, withKind, List.map_append]
    · rfl
    · rw [Dict.keys, hentries, hnames]
      exact hnodup
  have hsigns' : ∀ p ∈ withKind items kind pic, Signs p := by
    intro p hp
    rcases List.mem_append.mp hp with hp | hp
    · exact hsigns p hp
    · simp only [List.mem_cons, List.not_mem_nil, or_false] at hp
      rcases hp with rfl | rfl
      · simp [Signs]
      · simp [Signs]
  obtain ⟨row, hsigned, hfinal⟩ := signFields_entries hrow hsigns'
  refine ⟨row, ?_, hfinal⟩
  rw [nameValues, hzip, hdrop, hfirst]
  simp only [Except.bind_ok, need_ok]
  refine ⟨(), hpic, (), by simp, ?_⟩
  exact Except.bind_ok.mp hsigned

/-- **A printed record is read back** to the names of its kind. -/
theorem readRow_ok (hkeys : fieldNames kind = some (items.map Prod.fst)) (hpic : 1 ≤ pic ∧ pic ≤ 300)
    (hnodup : (items.map Prod.fst ++ ["kind", "picture"]).Nodup) (hsigns : ∀ p ∈ items, Signs p)
    {values : List ℕ} (hlength : values.length = 72) {n : ℕ}
    (hvalues : values = items.map (fun p => p.2.1) ++ List.replicate n 0)
    (hrange : ∀ m ∈ [run, ctx, sequence, kind, pic] ++ values, m < 0x10000000000000000) :
    ∃ r, readRow run ctx sequence (row 'R' ([run, ctx, sequence, kind, pic] ++ values)) = .ok r ∧
      r.entries = (withKind items kind pic).map fun p => (p.1, p.2.2) := by
  have htag : Plain 'R' := ⟨by decide, by decide⟩
  obtain ⟨r, hread, hentries⟩ := nameValues_ok kind hpic hnodup hsigns n
  refine ⟨r, ?_, hentries⟩
  have hnumbers : (([run, ctx, sequence, kind, pic] ++ values).map decimal).mapM unsigned =
      .ok ([run, ctx, sequence, kind, pic] ++ values) :=
    mapM_unsignedToken _ _ (Nat.le_refl _) hrange
  rw [readRow, split_row htag]
  simp only [Except.bind_ok, need_ok]
  refine ⟨(), ⟨by simp [hlength], rfl⟩, _, hnumbers, ?_⟩
  simp only [List.cons_append, List.nil_append, readNumbers, Except.bind_ok, need_ok, found_ok]
  exact ⟨(), trivial, _, hkeys, hvalues ▸ hread⟩

end Rows

/-- A printed snapshot is read back if its header and its records are. -/
theorem readCapture_ok {expectedRun : ℤ} {run ctx count : ℕ} {header : List ℕ}
    {rows : List (List Char)} {records : List Row} (hlength : header.length = 13)
    (hrange : ∀ m ∈ header, m < 0x10000000000000000) (hrows : ∀ r ∈ rows, OneLine r)
    (hcount : rows.length ≤ 2048) (hsize : encodedLength (unlines (row 'H' header :: rows)) ≤ 4194304)
    (hheader : readHeader expectedRun rows.length header = .ok (run, ctx, count))
    (hread : (rows.zipIdx 1).mapM (fun p => readRow run ctx p.2 p.1) = .ok records) :
    readCapture (unlines (row 'H' header :: rows)) expectedRun =
      .ok { run, context := ctx, records, count } := by
  have htag : Plain 'H' := ⟨by decide, by decide⟩
  have hlines : splitlines (unlines (row 'H' header :: rows)) = row 'H' header :: rows := by
    refine splitlines_unlines fun r hr => ?_
    rcases List.mem_cons.mp hr with rfl | hr
    · exact oneLine_row htag header
    · exact hrows r hr
  have hnumbers : (header.map decimal).mapM unsigned = .ok header :=
    mapM_unsignedToken _ _ (Nat.le_refl _) hrange
  simp only [readCapture, Except.bind_ok, need_ok, hlines, List.headD_cons, split_row htag,
    List.length_cons, List.length_map, hlength, List.head?_cons, List.tail_cons, Nat.add_sub_cancel,
    Except.pure_ok]
  refine ⟨(), hsize, (), ⟨by simp, by omega⟩, (), ⟨trivial, trivial⟩, header, hnumbers, _, hheader, ?_⟩
  exact ⟨records, hread, rfl⟩

end OmarchyM1Video.TraceCheck
