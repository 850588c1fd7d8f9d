import Mathlib.Data.Fintype.Pi
import OmarchyM1Video.TraceCheck.Reader

/-!
The records of a capture with the fields that `FIELDS` of `experiments/hevc-avd-trace/check.py` gives
each kind.

`validate` reads the dictionaries of `read_capture` by name; here they are records.  The type of the
timestamps is a parameter: a capture has raw 64-bit timestamps, and what is returned has the writers
that they resolve to instead, so no raw timestamp can be in it.

* `BufferRow`, `StartRow`, `DoneRow`, `TableRow`, `ListRow`, `MotionRow`, `TraceRow`: the records;
* `TraceRow.map`: another timestamp for each one;
* `ofRow`, `ofRow_ok`: a dictionary that has the names of its kind is a record;
* `readCapture_typed`: what `read_capture` returns is a list of records.
-/

namespace OmarchyM1Video.TraceCheck

open OmarchyM1Video.Py

/-! ### The records -/

/-- `BUFFER`: what is recorded of a buffer. -/
structure BufferRow (τ : Type) where
  buffer : ℕ
  timestamp : τ
  copied : ℕ
  intra : ℕ
  writer : ℕ
  completed : ℕ
  allocation : ℕ
  length : ℕ
  compStart : ℕ
  compSize : ℕ
  off0 : ℕ
  off1 : ℕ
  off2 : ℕ
  off3 : ℕ
  mvSize : ℕ
  mvOffset : ℕ
  bounds : ℕ
  memory : ℕ
  deriving DecidableEq

/-- `START`. -/
structure StartRow (τ : Type) where
  picture : ℕ
  previousWriter : ℕ
  poc : ℤ
  slicePoc : ℤ
  type : ℕ
  slices : ℕ
  entryCapacity : ℕ
  dpbCount : ℕ
  width : ℕ
  height : ℕ
  buf : BufferRow τ
  sliceEntries : ℕ
  deriving DecidableEq

/-- The end of a picture. -/
structure DoneRow (τ : Type) where
  picture : ℕ
  result : ℕ
  buf : BufferRow τ
  deriving DecidableEq

/-- `TABLE`: a slot of the reference table. -/
structure TableRow (τ : Type) where
  picture : ℕ
  slot : ℕ
  poc : ℤ
  flags : ℕ
  requestedTimestamp : τ
  word : ℕ
  matched : ℕ
  buf : BufferRow τ
  emittedComp0 : ℕ
  emittedComp1 : ℕ
  emittedComp2 : ℕ
  emittedComp3 : ℕ
  deriving DecidableEq

/-- An entry of an active reference list. -/
structure ListRow where
  picture : ℕ
  list : ℕ
  position : ℕ
  slot : ℕ
  word : ℕ
  deriving DecidableEq

/-- `MOTION`. -/
structure MotionRow (τ : Type) where
  picture : ℕ
  flags : ℕ
  type : ℕ
  merge : ℕ
  l0Minus1 : ℕ
  l1Minus1 : ℕ
  colIndex : ℕ
  first : ℕ
  slot : ℕ
  requestedTimestamp : τ
  lookup : ℕ
  matched : ℕ
  valid : ℕ
  word : ℕ
  emitted : ℕ
  buf : BufferRow τ
  l0 : Fin 16 → ℕ
  l1 : Fin 16 → ℕ
  emittedMv : ℕ
  quirks : ℕ
  deriving DecidableEq

/-- A record of a capture. -/
inductive TraceRow (τ : Type) where
  | start (s : StartRow τ)
  | done (d : DoneRow τ)
  | table (t : TableRow τ)
  | list (a : ListRow)
  | motion (m : MotionRow τ)
  deriving DecidableEq

namespace TraceRow

variable {τ : Type}

/-- `row['kind']`. -/
def kind : TraceRow τ → ℕ
  | start _ => 1
  | done _ => 2
  | table _ => 3
  | list _ => 4
  | motion _ => 5

/-- `row['picture']`. -/
def picture : TraceRow τ → ℕ
  | start s => s.picture
  | done d => d.picture
  | table t => t.picture
  | list a => a.picture
  | motion m => m.picture

def start? : TraceRow τ → Option (StartRow τ)
  | start s => some s
  | _ => none

def table? : TraceRow τ → Option (TableRow τ)
  | table t => some t
  | _ => none

def list? : TraceRow τ → Option ListRow
  | list a => some a
  | _ => none

def motion? : TraceRow τ → Option (MotionRow τ)
  | motion m => some m
  | _ => none

end TraceRow

/-! ### Other timestamps -/

section Map

variable {τ σ : Type} (f : τ → σ)

def BufferRow.map (b : BufferRow τ) : BufferRow σ := { b with timestamp := f b.timestamp }

def StartRow.map (s : StartRow τ) : StartRow σ := { s with buf := s.buf.map f }

def DoneRow.map (d : DoneRow τ) : DoneRow σ := { d with buf := d.buf.map f }

def TableRow.map (t : TableRow τ) : TableRow σ :=
  { t with buf := t.buf.map f, requestedTimestamp := f t.requestedTimestamp }

def MotionRow.map (m : MotionRow τ) : MotionRow σ :=
  { m with buf := m.buf.map f, requestedTimestamp := f m.requestedTimestamp }

/-- Another timestamp for each one of a record. -/
def TraceRow.map : TraceRow τ → TraceRow σ
  | start s => start (s.map f)
  | done d => done (d.map f)
  | table t => table (t.map f)
  | list a => list a
  | motion m => motion (m.map f)

end Map

/-! ### Dictionaries -/

/-- `row[name]`, an unsigned value. -/
def rowField (row : Row) (name : String) : Except String ℕ := do
  let v ← found (row.get? name) "KeyError"
  return v.toNat

/-- `row[name]`, a signed value. -/
def signedField (row : Row) (name : String) : Except String ℤ := found (row.get? name) "KeyError"

/-- `row[name]`, a timestamp. -/
def stampField (row : Row) (name : String) : Except String UInt64 := do
  let v ← rowField row name
  return UInt64.ofNat v

/-- The fields of `BUFFER`. -/
def bufferOf (row : Row) : Except String (BufferRow UInt64) := do
  return {
    buffer := ← rowField row "buffer", timestamp := ← stampField row "timestamp"
    copied := ← rowField row "copied", intra := ← rowField row "intra", writer := ← rowField row "writer"
    completed := ← rowField row "completed", allocation := ← rowField row "allocation"
    length := ← rowField row "length", compStart := ← rowField row "comp_start"
    compSize := ← rowField row "comp_size", off0 := ← rowField row "off0", off1 := ← rowField row "off1"
    off2 := ← rowField row "off2", off3 := ← rowField row "off3", mvSize := ← rowField row "mv_size"
    mvOffset := ← rowField row "mv_offset", bounds := ← rowField row "bounds"
    memory := ← rowField row "memory" }

/-- A raw reference list. -/
def listOf (row : Row) (names : List String) : Except String (Fin 16 → ℕ) := do
  let values ← names.mapM (rowField row)
  return fun i => values.getD i 0

/-- The record of a dictionary. -/
def ofRow (row : Row) : Except String (TraceRow UInt64) := do
  let kind ← rowField row "kind"
  let picture ← rowField row "picture"
  match kind with
  | 1 => do
      return .start {
        picture, previousWriter := ← rowField row "previous_writer", poc := ← signedField row "poc"
        slicePoc := ← signedField row "slice_poc", type := ← rowField row "type"
        slices := ← rowField row "slices", entryCapacity := ← rowField row "entry_capacity"
        dpbCount := ← rowField row "dpb_count", width := ← rowField row "width"
        height := ← rowField row "height", buf := ← bufferOf row
        sliceEntries := ← rowField row "slice_entries" }
  | 2 => do
      return .done { picture, result := ← rowField row "result", buf := ← bufferOf row }
  | 3 => do
      return .table {
        picture, slot := ← rowField row "slot", poc := ← signedField row "poc"
        flags := ← rowField row "flags", requestedTimestamp := ← stampField row "requested_timestamp"
        word := ← rowField row "word", matched := ← rowField row "matched", buf := ← bufferOf row
        emittedComp0 := ← rowField row "emitted_comp0", emittedComp1 := ← rowField row "emitted_comp1"
        emittedComp2 := ← rowField row "emitted_comp2", emittedComp3 := ← rowField row "emitted_comp3" }
  | 4 => do
      return .list {
        picture, list := ← rowField row "list", position := ← rowField row "position"
        slot := ← rowField row "slot", word := ← rowField row "word" }
  | 5 => do
      return .motion {
        picture, flags := ← rowField row "flags", type := ← rowField row "type"
        merge := ← rowField row "merge", l0Minus1 := ← rowField row "l0_minus1"
        l1Minus1 := ← rowField row "l1_minus1", colIndex := ← rowField row "col_index"
        first := ← rowField row "first", slot := ← rowField row "slot"
        requestedTimestamp := ← stampField row "requested_timestamp"
        lookup := ← rowField row "lookup", matched := ← rowField row "matched"
        valid := ← rowField row "valid", word := ← rowField row "word", emitted := ← rowField row "emitted"
        buf := ← bufferOf row
        l0 := ← listOf row ["l0_0", "l0_1", "l0_2", "l0_3", "l0_4", "l0_5", "l0_6", "l0_7", "l0_8",
          "l0_9", "l0_10", "l0_11", "l0_12", "l0_13", "l0_14", "l0_15"]
        l1 := ← listOf row ["l1_0", "l1_1", "l1_2", "l1_3", "l1_4", "l1_5", "l1_6", "l1_7", "l1_8",
          "l1_9", "l1_10", "l1_11", "l1_12", "l1_13", "l1_14", "l1_15"]
        emittedMv := ← rowField row "emitted_mv", quirks := ← rowField row "quirks" }
  | _ => .error "KeyError"

/-! ### The rows of a capture are records -/

/-- The names of a dictionary. -/
def Has (row : Row) (names : List String) : Prop := ∀ name ∈ names, row.contains name = true

section Typed

variable {row : Row} {names : List String}

lemma ok_bind {α β : Type} {x : Except String α} {k : α → Except String β} (hx : ∃ a, x = .ok a)
    (hk : ∀ a, ∃ b, k a = .ok b) : ∃ b, (x >>= k) = .ok b := by
  obtain ⟨a, rfl⟩ := hx
  exact hk a

lemma rowField_ok (h : Has row names) {name : String} (hname : name ∈ names) :
    ∃ n, rowField row name = .ok n := by
  obtain ⟨v, hv⟩ := Dict.contains_iff.mp (h name hname)
  exact ⟨v.toNat, by rw [rowField, hv]; rfl⟩

lemma signedField_ok (h : Has row names) {name : String} (hname : name ∈ names) :
    ∃ n, signedField row name = .ok n := by
  obtain ⟨v, hv⟩ := Dict.contains_iff.mp (h name hname)
  exact ⟨v, by rw [signedField, hv]; rfl⟩

lemma stampField_ok (h : Has row names) {name : String} (hname : name ∈ names) :
    ∃ n, stampField row name = .ok n :=
  ok_bind (rowField_ok h hname) fun _ => ⟨_, rfl⟩

lemma bufferOf_ok (h : Has row names) (hnames : ∀ name ∈ bufferNames, name ∈ names) :
    ∃ b, bufferOf row = .ok b := by
  have hfield : ∀ name ∈ bufferNames, ∃ n, rowField row name = .ok n :=
    fun name hname => rowField_ok h (hnames name hname)
  refine ok_bind (hfield _ (by decide)) fun _ => ?_
  refine ok_bind (stampField_ok h (hnames _ (by decide))) fun _ => ?_
  iterate 16 refine ok_bind (hfield _ (by decide)) fun _ => ?_
  exact ⟨_, rfl⟩

lemma listOf_ok (h : Has row names) {list : List String} (hlist : ∀ name ∈ list, name ∈ names) :
    ∃ l, listOf row list = .ok l :=
  ok_bind (mapM_of_forall_ok fun name hname => rowField_ok h (hlist name hname)) fun _ => ⟨_, rfl⟩

/-- **A dictionary with the names of its kind is a record.** -/
lemma ofRow_ok {kind : ℕ} {keys : List String} (hkeys : fieldNames kind = some keys)
    (hkind : row.get? "kind" = some (kind : ℤ)) (h : Has row (keys ++ ["kind", "picture"])) :
    ∃ r, ofRow row = .ok r := by
  have hfield : ∀ name ∈ keys ++ ["kind", "picture"], ∃ n, rowField row name = .ok n :=
    fun name hname => rowField_ok h hname
  have hread : rowField row "kind" = .ok kind := by
    rw [rowField, hkind]
    rfl
  rw [ofRow, hread]
  change ∃ r, (rowField row "picture" >>= _) = .ok r
  refine ok_bind (hfield _ (by simp)) fun picture => ?_
  match kind, hkeys with
  | 1, hkeys =>
      obtain rfl := Option.some.inj hkeys
      refine ok_bind (hfield _ (by decide)) fun _ => ?_
      iterate 2 refine ok_bind (signedField_ok h (by decide)) fun _ => ?_
      iterate 6 refine ok_bind (hfield _ (by decide)) fun _ => ?_
      refine ok_bind (bufferOf_ok h (by decide)) fun _ => ?_
      exact ok_bind (hfield _ (by decide)) fun _ => ⟨_, rfl⟩
  | 2, hkeys =>
      obtain rfl := Option.some.inj hkeys
      refine ok_bind (hfield _ (by decide)) fun _ => ?_
      exact ok_bind (bufferOf_ok h (by decide)) fun _ => ⟨_, rfl⟩
  | 3, hkeys =>
      obtain rfl := Option.some.inj hkeys
      refine ok_bind (hfield _ (by decide)) fun _ => ?_
      refine ok_bind (signedField_ok h (by decide)) fun _ => ?_
      refine ok_bind (hfield _ (by decide)) fun _ => ?_
      refine ok_bind (stampField_ok h (by decide)) fun _ => ?_
      iterate 2 refine ok_bind (hfield _ (by decide)) fun _ => ?_
      refine ok_bind (bufferOf_ok h (by decide)) fun _ => ?_
      iterate 4 refine ok_bind (hfield _ (by decide)) fun _ => ?_
      exact ⟨_, rfl⟩
  | 4, hkeys =>
      obtain rfl := Option.some.inj hkeys
      iterate 4 refine ok_bind (hfield _ (by decide)) fun _ => ?_
      exact ⟨_, rfl⟩
  | 5, hkeys =>
      obtain rfl := Option.some.inj hkeys
      iterate 8 refine ok_bind (hfield _ (by decide)) fun _ => ?_
      refine ok_bind (stampField_ok h (by decide)) fun _ => ?_
      iterate 5 refine ok_bind (hfield _ (by decide)) fun _ => ?_
      refine ok_bind (bufferOf_ok h (by decide)) fun _ => ?_
      iterate 2 refine ok_bind (listOf_ok h (by decide)) fun _ => ?_
      iterate 2 refine ok_bind (hfield _ (by decide)) fun _ => ?_
      exact ⟨_, rfl⟩

lemma signField_ok (names : List String) {name : String} {row' : Row} (h : signField name row = .ok row') :
    (Has row names → Has row' names) ∧ (name ≠ "kind" → row'.get? "kind" = row.get? "kind") := by
  rw [signField] at h
  cases hget : row.get? name with
  | none =>
      simp only [hget, Except.pure_ok] at h
      subst h
      exact ⟨id, fun _ => rfl⟩
  | some v =>
      simp only [hget, Except.bind_ok, Except.pure_ok] at h
      obtain ⟨w, _, rfl⟩ := h
      refine ⟨fun hhas k hk => ?_, fun hne => ?_⟩
      · rw [Dict.contains_set, hhas k hk, Bool.or_true]
      · rw [Dict.get?_set, if_neg fun heq => hne heq.symm]

lemma nameValues_has {kind pic : ℕ} {values : List ℕ} {keys : List String}
    (hlen : keys.length ≤ values.length) (h : nameValues kind pic values keys = .ok row) :
    Has row (keys ++ ["kind", "picture"]) ∧ row.get? "kind" = some (kind : ℤ) := by
  simp only [nameValues, Except.bind_ok, need_ok] at h
  obtain ⟨_, _, _, _, row₁, h₁, h₂⟩ := h
  obtain ⟨hhas₁, hkind₁⟩ := signField_ok (keys ++ ["kind", "picture"]) h₁
  obtain ⟨hhas₂, hkind₂⟩ := signField_ok (keys ++ ["kind", "picture"]) h₂
  refine ⟨hhas₂ (hhas₁ fun name hname => ?_), ?_⟩
  · rw [Dict.contains_update, Dict.contains_update, List.map_fst_zip (by simpa using hlen)]
    simp only [List.mem_append] at hname
    rcases hname with hname | hname
    · exact Or.inl (Or.inr hname)
    · exact Or.inr (by simpa using hname)
  · rw [hkind₂ (by decide), hkind₁ (by decide)]
    simp [Dict.update]

/-- A record has no more fields than there are numbers in a row. -/
lemma fieldNames_length_le {kind : ℕ} {keys : List String} (h : fieldNames kind = some keys) :
    keys.length ≤ 72 := by
  rw [fieldNames.eq_def] at h
  split at h
  case h_6 => simp at h
  all_goals
    rw [← Option.some.inj h]
    decide

/-- Every row that is read is a record. -/
lemma readRow_typed {run ctx sequence : ℕ} {line : List Char}
    (h : readRow run ctx sequence line = .ok row) : ∃ r, ofRow row = .ok r := by
  simp only [readRow, Except.bind_ok, need_ok] at h
  obtain ⟨_, ⟨hlen, _⟩, numbers, hnumbers, hread⟩ := h
  have hcount : numbers.length = 77 := by
    rw [(mapM_ok hnumbers).1, List.length_tail, hlen]
  rcases numbers with _ | ⟨rr, _ | ⟨rc, _ | ⟨seq, _ | ⟨kind, _ | ⟨pic, values⟩⟩⟩⟩⟩
  all_goals try simp at hcount
  simp only [readNumbers, Except.bind_ok, need_ok, found_ok] at hread
  obtain ⟨_, _, keys, hkeys, hnames⟩ := hread
  have hshort : keys.length ≤ values.length := by
    have hbound := fieldNames_length_le hkeys
    omega
  obtain ⟨hhas, hkind⟩ := nameValues_has hshort hnames
  exact ofRow_ok hkeys hkind hhas

end Typed

/-- **A capture that is read is a list of records.** -/
theorem readCapture_typed {text : List Char} {run : ℤ} {c : Capture}
    (h : readCapture text run = .ok c) : ∃ records, c.records.mapM ofRow = .ok records := by
  simp only [readCapture, Except.bind_ok, need_ok, Except.pure_ok] at h
  obtain ⟨_, _, _, _, _, _, _, _, ⟨run', ctx, count⟩, _, records, hrecords, rfl⟩ := h
  refine mapM_of_forall_ok fun row hrow => ?_
  obtain ⟨j, hj⟩ := List.mem_iff_getElem?.mp hrow
  obtain ⟨hlen, hget⟩ := mapM_ok hrecords
  have hbound := (List.getElem?_eq_some_iff.mp hj).1
  rw [hlen] at hbound
  exact readRow_typed (hget j _ row (List.getElem?_eq_getElem hbound) hj)

end OmarchyM1Video.TraceCheck
