import OmarchyM1Video.Py.Search
import OmarchyM1Video.SameRun.Report

/-!
The queue log of the Gst client: `GST_QUEUE`, `_decimal` and `parse_gst_queue` of `same-run/join.py`.

The pattern is searched for in every line that has the marker, and only what comes after the one match
is looked at.

* `gstQueue`: the pattern at a place of a text;
* `GstRow`, `parseGstQueue`: a row, and the reader;
* `Written`: a row that is written at a place; `collectQueue_ok`: each line with the marker has one;
* `gst_queue_strict_iff`: the places of the marker are those of the rows just when no line has two.
-/

namespace OmarchyM1Video.SameRun

open OmarchyM1Video.Py
open OmarchyM1Video.ReferenceContent (IsHex)

/-! ### The pattern -/

/-- `"observer-queue"`. -/
def queueMarker : List Char := "observer-queue".toList

/-- The groups of a match. -/
structure QueueGroups where
  run0 : List Char
  run1 : List Char
  context : List Char
  allocation : List Char
  request : List Char
  writer : List Char
  frame : List Char
  capture : List Char
  deriving DecidableEq

/-- `"observer-queue run="`. -/
def queueStart : List Char := "observer-queue run=".toList

/-- `" name="`. -/
def fieldStart (name : String) : List Char := (" " ++ name ++ "=").toList

/-- `([0-9a-f]{16})`. -/
def hex16 (s : List Char) : Option (List Char × List Char) :=
  if IsHex 16 (s.take 16) then some (s.take 16, s.drop 16) else none

/-- ` name=([0-9]+)`. -/
def numberGroup (name : String) (s : List Char) : Option (List Char × List Char) := do
  let s ← literal (fieldStart name) s
  digits s

/-- `(?:\s|$)`. -/
def recordEnd : List Char → Option (List Char)
  | [] => some []
  | c :: s => if isSpace c then some s else none

/-- `GST_QUEUE`, at a place of a line. -/
def gstQueue (s : List Char) : Option (QueueGroups × List Char) := do
  let s ← literal queueStart s
  let (run0, s) ← hex16 s
  let (run1, s) ← hex16 s
  let (context, s) ← numberGroup "context" s
  let (allocation, s) ← numberGroup "allocation" s
  let (request, s) ← numberGroup "request" s
  let (writer, s) ← numberGroup "writer" s
  let (frame, s) ← numberGroup "frame" s
  let (capture, s) ← numberGroup "capture" s
  let s ← recordEnd s
  return ({ run0, run1, context, allocation, request, writer, frame, capture }, s)

/-! ### The reader -/

/-- A row of the queue. -/
structure GstRow where
  run : List Char × List Char
  context : ℕ
  allocation : ℕ
  request : ℕ
  writer : ℕ
  frame : ℕ
  capture : ℕ
  deriving DecidableEq

/-- `MAX_QUEUE_BYTES`. -/
def maxQueueBytes : ℕ := 64 * 1024 * 1024

/-- `_decimal(value, name, nonzero=nonzero)`. -/
def decimalOf (value : List Char) (name : String) (nonzero : Bool) : Join ℕ := do
  need (isDecimal value = true ∧ value.length ≤ 20) (refusal (name ++ " is not canonical decimal"))
  need (decimal (intOf value) = value ∧ intOf value < 2 ^ 64 ∧ (intOf value ≠ 0 ∨ nonzero = false))
    (refusal (name ++ " is zero, oversized or noncanonical"))
  return intOf value

/-- The row of a match. -/
def rowOf (g : QueueGroups) : Join GstRow := do
  let context ← decimalOf g.context "Gst queue context" true
  let allocation ← decimalOf g.allocation "Gst queue allocation" true
  let request ← decimalOf g.request "Gst queue request" true
  let writer ← decimalOf g.writer "Gst queue writer" true
  let frame ← decimalOf g.frame "Gst queue frame" false
  let capture ← decimalOf g.capture "Gst queue capture" false
  return { run := (g.run0, g.run1), context, allocation, request, writer, frame, capture }

/-- A line that has the marker: its row, if it has one match and nothing but blanks after it. -/
def queueLine (line : List Char) : Join (Option GstRow) :=
  match finditer gstQueue 0 line with
  | [(groups, rest)] =>
      if rest.all isSpace then do
        let row ← rowOf groups
        return some row
      else .ok none
  | _ => .ok none

/-- The loop over the lines: the rows, and how many lines are malformed. -/
def collectQueue : List (List Char) → Join (List GstRow × ℕ)
  | [] => .ok ([], 0)
  | line :: lines =>
      if occurrences queueMarker line = [] then collectQueue lines
      else do
        let row ← queueLine line
        let (rows, malformed) ← collectQueue lines
        return (row.toList ++ rows, malformed + if row.isNone then 1 else 0)

/-- What the loop over the rows has seen. -/
structure QueueSeen where
  common : Option ((List Char × List Char) × ℕ)
  identities : List GstRow
  frames : List ℕ
  requests : List ℕ

/-- The loop over the rows. -/
def checkQueue : QueueSeen → List GstRow → Join Unit
  | _, [] => .ok ()
  | seen, row :: rows => do
      let _ ← hex (.str (String.ofList row.run.1)) 16 "Gst queue run[0]" true
      let _ ← hex (.str (String.ofList row.run.2)) 16 "Gst queue run[1]" true
      let common := seen.common.getD (row.run, row.context)
      need ((row.run, row.context) = common) (refusal "Gst queue log mixes observer runs or contexts")
      need (row ∉ seen.identities) (refusal "Gst queue log duplicates an observer identity")
      need (row.frame ∉ seen.frames) (refusal "Gst queue log duplicates a frame identity")
      need (row.request ∉ seen.requests) (refusal "Gst queue log duplicates a request generation")
      checkQueue { common := some common, identities := row :: seen.identities,
                   frames := row.frame :: seen.frames, requests := row.request :: seen.requests } rows

/-- `parse_gst_queue`, of the text of the log. -/
def parseQueueText (text : List Char) (expected : ℕ) : Join (List GstRow) := do
  let (rows, malformed) ← collectQueue (splitlines text)
  need (malformed = 0) (refusal "Gst queue log contains malformed or duplicated observer records")
  need (rows.length = expected) (refusal "Gst queue log has the wrong request extent")
  checkQueue { common := none, identities := [], frames := [], requests := [] } rows
  return rows

/-- `parse_gst_queue(raw, expected)`. -/
def parseGstQueue (raw : List UInt8) (expected : ℕ) : Join (List GstRow) := do
  need ((0 < raw.length ∧ raw.length ≤ maxQueueBytes) ∧ 0 ∉ raw)
    (refusal "Gst queue log size/content is outside the accepted bound")
  let text ← found (decodeUtf8 raw) (refusal "Gst queue log is not UTF-8")
  parseQueueText text expected

/-! ### What a row is written as -/

/-- The text that a match begins with. -/
def QueueGroups.text (g : QueueGroups) : List Char :=
  queueStart ++ g.run0 ++ g.run1 ++ fieldStart "context" ++ g.context ++
    fieldStart "allocation" ++ g.allocation ++ fieldStart "request" ++ g.request ++
    fieldStart "writer" ++ g.writer ++ fieldStart "frame" ++ g.frame ++
    fieldStart "capture" ++ g.capture

/-- The groups of a row, its numbers in their only spelling. -/
def GstRow.groups (row : GstRow) : QueueGroups :=
  { run0 := row.run.1
    run1 := row.run.2
    context := decimal row.context
    allocation := decimal row.allocation
    request := decimal row.request
    writer := decimal row.writer
    frame := decimal row.frame
    capture := decimal row.capture }

/-- A row is written at a place: its record, and a blank or the end of the text. -/
structure Written (s : List Char) (row : GstRow) : Prop where
  run : IsHex 16 row.run.1 ∧ IsHex 16 row.run.2
  record : ∃ rest, s = row.groups.text ++ rest ∧ ∀ c, rest.head? = some c → isSpace c = true

section Rows

variable {s t rest line text : List Char} {g : QueueGroups} {row : GstRow} {rows : List GstRow}
  {lines : List (List Char)} {name : String} {nonzero : Bool} {n malformed expected : ℕ}

lemma hex16_eq_some (h : hex16 s = some (t, rest)) : s = t ++ rest ∧ IsHex 16 t := by
  rw [hex16] at h
  split_ifs at h with hhex
  obtain ⟨rfl, rfl⟩ := Prod.mk.inj (Option.some.inj h)
  exact ⟨(List.take_append_drop 16 s).symm, hhex⟩

lemma numberGroup_eq_some (h : numberGroup name s = some (t, rest)) :
    s = fieldStart name ++ t ++ rest := by
  simp only [numberGroup, Option.bind_eq_bind, Option.bind_eq_some_iff, literal_eq_some] at h
  obtain ⟨r, rfl, hr⟩ := h
  obtain ⟨rfl, _⟩ := digits_eq_some hr
  rw [List.append_assoc]

lemma recordEnd_eq_some (h : recordEnd s = some rest) : ∀ c, s.head? = some c → isSpace c = true := by
  intro c hc
  cases s with
  | nil => exact absurd hc (by simp)
  | cons x s =>
      obtain rfl : x = c := by simpa using hc
      rw [recordEnd] at h
      split_ifs at h with hspace
      exact hspace

/-- A match begins with the text of its groups, and a blank or the end comes after it. -/
lemma gstQueue_eq_some (h : gstQueue s = some (g, rest)) :
    (IsHex 16 g.run0 ∧ IsHex 16 g.run1) ∧
      ∃ r, s = g.text ++ r ∧ ∀ c, r.head? = some c → isSpace c = true := by
  simp only [gstQueue, Option.bind_eq_bind, Option.bind_eq_some_iff, Option.pure_def,
    Option.some.injEq, Prod.mk.injEq, Prod.exists, literal_eq_some] at h
  obtain ⟨s₀, rfl, run0, s₁, h₀, run1, s₂, h₁, context, s₃, h₂, allocation, s₄, h₃, request, s₅, h₄,
    writer, s₆, h₅, frame, s₇, h₆, capture, s₈, h₇, s₉, h₈, rfl, rfl⟩ := h
  obtain ⟨rfl, hrun0⟩ := hex16_eq_some h₀
  obtain ⟨rfl, hrun1⟩ := hex16_eq_some h₁
  refine ⟨⟨hrun0, hrun1⟩, s₈, ?_, recordEnd_eq_some h₈⟩
  rw [numberGroup_eq_some h₂, numberGroup_eq_some h₃, numberGroup_eq_some h₄, numberGroup_eq_some h₅,
    numberGroup_eq_some h₆, numberGroup_eq_some h₇]
  simp only [QueueGroups.text, List.append_assoc]

lemma decimalOf_ok (h : decimalOf t name nonzero = .ok n) : decimal n = t := by
  simp only [decimalOf, Except.bind_ok, need_ok, Except.pure_ok] at h
  obtain ⟨_, _, _, hcanonical, rfl⟩ := h
  exact hcanonical.1

/-- The groups of a row are those that were matched. -/
lemma rowOf_ok (h : rowOf g = .ok row) : row.groups = g := by
  simp only [rowOf, Except.bind_ok, Except.pure_ok] at h
  obtain ⟨context, h₀, allocation, h₁, request, h₂, writer, h₃, frame, h₄, capture, h₅, rfl⟩ := h
  rw [GstRow.groups, decimalOf_ok h₀, decimalOf_ok h₁, decimalOf_ok h₂, decimalOf_ok h₃,
    decimalOf_ok h₄, decimalOf_ok h₅]

/-- A row that is written begins with the marker. -/
lemma Written.isPrefixOf (h : Written s row) : queueMarker.isPrefixOf s = true := by
  obtain ⟨rest, htext, _⟩ := h.record
  have hsplit : queueStart = queueMarker ++ " run=".toList := by decide
  rw [htext, List.isPrefixOf_iff_prefix, QueueGroups.text, hsplit]
  simp only [List.append_assoc]
  exact List.prefix_append _ _

/-- **The row of a line** is written at one of the places of the marker in it. -/
theorem queueLine_ok (h : queueLine line = .ok (some row)) :
    ∃ s ∈ occurrences queueMarker line, Written s row := by
  rw [queueLine] at h
  split at h
  · next groups rest hmatches =>
      split_ifs at h
      · simp only [Except.bind_ok, Except.pure_ok, Option.some.injEq] at h
        obtain ⟨row', hrow, rfl⟩ := h
        have hmem : (groups, rest) ∈ finditer gstQueue 0 line := by
          rw [hmatches]
          exact List.mem_singleton_self _
        obtain ⟨pre, s, rfl, hs⟩ := mem_finditer hmem
        obtain ⟨hhex, r, hr, hend⟩ := gstQueue_eq_some hs
        have hgroups := rowOf_ok hrow
        have hwritten : Written s row' := by
          refine ⟨?_, r, by rw [hgroups, hr], hend⟩
          rw [← hgroups] at hhex
          exact hhex
        refine ⟨s, mem_occurrences_append ?_, hwritten⟩
        exact occurrences_of_isPrefixOf (by decide) hwritten.isPrefixOf
      · cases h
  · exact absurd h (by simp)

/-- A line that has the marker. -/
def Marked (line : List Char) : Prop := occurrences queueMarker line ≠ []

instance (line : List Char) : Decidable (Marked line) :=
  inferInstanceAs (Decidable (occurrences queueMarker line ≠ []))

/-- **Each line that has the marker has its row**, if no line is malformed. -/
theorem collectQueue_ok (h : collectQueue lines = .ok (rows, 0)) :
    List.Forall₂ (fun line row => ∃ s ∈ occurrences queueMarker line, Written s row)
      (lines.filter (Marked ·)) rows := by
  induction lines generalizing rows with
  | nil =>
      obtain ⟨rfl, _⟩ := Prod.mk.inj (Except.ok.inj h)
      exact .nil
  | cons line lines ih =>
      rw [collectQueue] at h
      split_ifs at h with hline
      · rw [List.filter_cons_of_neg (by simp [Marked, hline])]
        exact ih h
      · rw [List.filter_cons_of_pos (by simp [Marked, hline])]
        simp only [Except.bind_ok, Except.pure_ok, Prod.mk.injEq, Prod.exists] at h
        obtain ⟨row, hrow, rest, malformed, hrest, rfl, hmalformed⟩ := h
        cases row with
        | none => exact absurd hmalformed (by simp)
        | some row =>
            obtain rfl : malformed = 0 := by simpa using hmalformed
            exact .cons (queueLine_ok hrow) (ih hrest)

/-- Where no line has the marker twice, the rows are written at its places. -/
lemma written_of_once (h : List.Forall₂ (fun line row => ∃ s ∈ occurrences queueMarker line,
      Written s row) (lines.filter (Marked ·)) rows)
    (hone : ∀ line ∈ lines, (occurrences queueMarker line).length ≤ 1) :
    List.Forall₂ Written (lines.flatMap (occurrences queueMarker)) rows := by
  induction lines generalizing rows with
  | nil =>
      cases h
      exact .nil
  | cons line lines ih =>
      have hrest := fun l hl => hone l (List.mem_cons_of_mem line hl)
      have hlength := hone line List.mem_cons_self
      rw [List.flatMap_cons]
      by_cases hline : Marked line
      · rw [List.filter_cons_of_pos (by simpa using hline)] at h
        cases h with
        | cons hrow htail =>
            obtain ⟨s, hs, hwritten⟩ := hrow
            have hsingle : occurrences queueMarker line = [s] := by
              obtain ⟨t, ht⟩ := List.length_eq_one_iff.mp
                (Nat.le_antisymm hlength (List.length_pos_of_mem hs))
              rw [ht, List.mem_singleton] at hs
              rw [ht, hs]
            rw [hsingle]
            exact .cons hwritten (ih htail hrest)
      · rw [List.filter_cons_of_neg (by simpa using hline)] at h
        rw [Marked, not_not] at hline
        rw [hline]
        exact ih h hrest

/-- Where there are not more places than lines that have the marker, no line has it twice. -/
lemma once_of_length
    (h : (lines.flatMap (occurrences queueMarker)).length ≤ (lines.filter (Marked ·)).length) :
    ∀ line ∈ lines, (occurrences queueMarker line).length ≤ 1 := by
  have hmany : ∀ lines : List (List Char),
      (lines.filter (Marked ·)).length ≤ (lines.flatMap (occurrences queueMarker)).length := by
    intro lines
    induction lines with
    | nil => exact Nat.le_of_eq rfl
    | cons line lines ih =>
        rw [List.flatMap_cons, List.length_append]
        by_cases hline : Marked line
        · rw [List.filter_cons_of_pos (by simpa using hline), List.length_cons]
          have hpos := List.length_pos_iff.mpr hline
          omega
        · rw [List.filter_cons_of_neg (by simpa using hline)]
          omega
  induction lines with
  | nil => exact fun line hline => absurd hline List.not_mem_nil
  | cons first lines ih =>
      have hrest := hmany lines
      rw [List.flatMap_cons, List.length_append] at h
      have hfirst : (occurrences queueMarker first).length ≤ 1 ∧
          (lines.flatMap (occurrences queueMarker)).length ≤ (lines.filter (Marked ·)).length := by
        by_cases hline : Marked first
        · rw [List.filter_cons_of_pos (by simpa using hline), List.length_cons] at h
          have hpos := List.length_pos_iff.mpr hline
          omega
        · rw [List.filter_cons_of_neg (by simpa using hline)] at h
          omega
      intro line hline
      rcases List.mem_cons.mp hline with rfl | hline
      · exact hfirst.1
      · exact ih hfirst.2 line hline

lemma isSpace_of_isLineBreak {c : Char} (h : isLineBreak c = true) : isSpace c = true := by
  simp only [isLineBreak, Bool.or_eq_true, Bool.and_eq_true, decide_eq_true_eq] at h
  simp only [isSpace, Bool.or_eq_true, Bool.and_eq_true, decide_eq_true_eq]
  omega

lemma plain_of_isLowerHex {c : Char} (h : isLowerHex c = true) : Plain c := by
  have hrange : (48 ≤ c.toNat ∧ c.toNat ≤ 57) ∨ (97 ≤ c.toNat ∧ c.toNat ≤ 102) := by
    simpa [isLowerHex, Char.isDigit, UInt32.le_iff_toNat_le] using h
  exact ⟨by omega, by omega⟩

lemma fieldStart_noBreak :
    ∀ name ∈ ["context", "allocation", "request", "writer", "frame", "capture"],
      (fieldStart name).all (fun c => !isLineBreak c) = true := by
  decide

/-- A record has no line break. -/
lemma groups_text_isLineBreak (h : IsHex 16 row.run.1 ∧ IsHex 16 row.run.2) :
    ∀ c ∈ row.groups.text, isLineBreak c = false := by
  have hhex : ∀ {t : List Char}, IsHex 16 t → ∀ c ∈ t, isLineBreak c = false :=
    fun ht c hc => (plain_of_isLowerHex (ht.2 c hc)).isLineBreak
  have hdecimal : ∀ n, ∀ c ∈ decimal n, isLineBreak c = false := fun n c hc =>
    (plain_of_mem_decimal hc).isLineBreak
  have hfield : ∀ name ∈ ["context", "allocation", "request", "writer", "frame", "capture"],
      ∀ c ∈ fieldStart name, isLineBreak c = false := fun name hname =>
    isLineBreak_of_all (fieldStart_noBreak name hname)
  have hstart : ∀ c ∈ queueStart, isLineBreak c = false := isLineBreak_of_all (by decide)
  have happend : ∀ {a b : List Char}, (∀ c ∈ a, isLineBreak c = false) →
      (∀ c ∈ b, isLineBreak c = false) → ∀ c ∈ a ++ b, isLineBreak c = false :=
    fun ha hb c hc => (List.mem_append.mp hc).elim (ha c) (hb c)
  have hnumber : ∀ {a : List Char} {name : String} (n : ℕ), (∀ c ∈ a, isLineBreak c = false) →
      name ∈ ["context", "allocation", "request", "writer", "frame", "capture"] →
        ∀ c ∈ a ++ fieldStart name ++ decimal n, isLineBreak c = false :=
    fun n ha hname => happend (happend ha (hfield _ hname)) (hdecimal n)
  refine hnumber row.capture (hnumber row.frame (hnumber row.writer (hnumber row.request
    (hnumber row.allocation (hnumber row.context (happend (happend hstart (hhex h.1)) (hhex h.2))
      ?_) ?_) ?_) ?_) ?_) ?_ <;> simp

/-- What is written at a place in a line is written there in the text. -/
lemma Written.ofLine (h : Written s row) (hline : OfLine s t) : Written t row := by
  obtain ⟨r, htext, hspace⟩ := h.record
  obtain ⟨rest, ht, hrest⟩ := hline
  rw [htext, List.append_assoc] at ht
  obtain ⟨r', hjoined, hr'⟩ := eq_append_of_joinBreaks (groups_text_isLineBreak h.run) ht
  refine ⟨h.run, r', hjoined, fun c hc => ?_⟩
  cases r' with
  | nil => exact absurd hc (by simp)
  | cons x cs =>
      obtain rfl : x = c := by simpa using hc
      rw [joinBreaks] at hr'
      split_ifs at hr' with hbreak
      · rw [hbreak.1]
        decide
      · cases r with
        | nil =>
            rw [List.nil_append] at hr'
            exact isSpace_of_isLineBreak (hrest x (by rw [← hr']; rfl))
        | cons y r =>
            rw [List.cons_append, List.cons.injEq] at hr'
            rw [hr'.1]
            exact hspace y rfl

/-- **The reader is strict where no line has two markers.**  In a log that is accepted, the places of
the marker are those of the rows, each with the seven values written after it in their only spelling,
if and only if the marker is not twice on a line: only what comes after the one match of a line is
looked at, not what comes before. -/
theorem gst_queue_strict_iff {raw : List UInt8} (h : parseGstQueue raw expected = .ok rows) :
    ∃ text, decodeUtf8 raw = some text ∧
      (List.Forall₂ Written (occurrences queueMarker text) rows ↔
        ∀ line ∈ splitlines text, (occurrences queueMarker line).length ≤ 1) := by
  simp only [parseGstQueue, parseQueueText, Except.bind_ok, found_ok, need_ok, Except.pure_ok,
    Prod.exists] at h
  obtain ⟨_, _, text, htext, collected, malformed, hcollect, _, rfl, _, _, _, _, rfl⟩ := h
  have hrows := collectQueue_ok hcollect
  have hplaces := occurrences_splitlines text (show queueMarker ≠ [] by decide)
    (isLineBreak_of_all (by decide))
  refine ⟨text, htext, fun hwritten => once_of_length ?_, fun hone => ?_⟩
  · rw [hplaces.length_eq, hwritten.length_eq, hrows.length_eq]
  · have hlines := written_of_once hrows hone
    refine List.Forall₂.imp ?_ (forall₂_comp hplaces.flip hlines)
    rintro t row ⟨s, hs, hwritten⟩
    exact hwritten.ofLine hs

end Rows

/-- A log of one line, with a text before the record. -/
def oneRecord (before : String) : List Char :=
  (before ++ "observer-queue run=00000000000000010000000000000002 context=1 allocation=3 request=4 " ++
    "writer=5 frame=0 capture=6\n").toList

/-- Its row. -/
def oneRow : GstRow :=
  { run := ("0000000000000001".toList, "0000000000000002".toList)
    context := 1
    allocation := 3
    request := 4
    writer := 5
    frame := 0
    capture := 6 }

/-- The log, put together from short texts. -/
def oneText (before : List Char) : List Char :=
  before ++ ("observer-queue run=".toList ++ hexDigits 16 1 ++ hexDigits 16 2 ++
    " context=1".toList ++ " allocation=3".toList ++ " request=4 ".toList ++ "writer=5".toList ++
    " frame=0".toList ++ " capture=6\n".toList)

lemma oneRecord_eq (before : String) : oneRecord before = oneText before.toList := by
  have htext : "observer-queue run=00000000000000010000000000000002 context=1 allocation=3 request=4 ".toList ++
      "writer=5 frame=0 capture=6\n".toList = oneText [] := by
    decide +kernel
  rw [oneRecord, String.toList_append, String.toList_append, List.append_assoc, htext]
  rfl

lemma parse_ascii {text : List Char} {rows : List GstRow} {expected : ℕ}
    (h : (text.all fun c => decide (c.toNat < 128 ∧ c.toNat ≠ 0)) = true ∧
      (0 < text.length ∧ text.length ≤ 400) ∧ parseQueueText text expected = .ok rows) :
    parseGstQueue (utf8 text) expected = .ok rows := by
  obtain ⟨hplain, ⟨hpos, hlength⟩, hparse⟩ := h
  have hascii : ∀ c ∈ text, c.toNat < 128 ∧ c.toNat ≠ 0 := fun c hc =>
    of_decide_eq_true (List.all_eq_true.mp hplain c hc)
  have hbytes := utf8_ascii fun c hc => (hascii c hc).1
  have hzero : 0 ∉ utf8 text := by
    rw [hbytes, List.mem_map]
    rintro ⟨c, hc, hval⟩
    obtain ⟨hlt, hne⟩ := hascii c hc
    have hnat := congrArg UInt8.toNat hval
    rw [UInt32.toNat_toUInt8] at hnat
    have hmod : c.toNat % 256 = 0 := hnat
    omega
  have hmax : maxQueueBytes = 67108864 := rfl
  simp only [parseGstQueue, Except.bind_ok, need_ok, found_ok]
  refine ⟨(), ⟨⟨?_, ?_⟩, hzero⟩, _, decodeUtf8_utf8 _, hparse⟩
  · rw [hbytes, List.length_map]
    exact hpos
  · rw [hbytes, List.length_map]
    omega

/-- The text of another record. -/
def secondText : List Char :=
  "observer-queue run=".toList ++ hexDigits 16 1 ++ hexDigits 16 2 ++ " context=1".toList ++
    " allocation=4".toList ++ " request=5 ".toList ++ "writer=7".toList ++ " frame=1".toList ++
    " capture=7\n".toList

/-- A log of two records. -/
def pairText : List Char := oneText [] ++ secondText

/-- The row of the second. -/
def secondRow : GstRow :=
  { oneRow with allocation := 4, request := 5, writer := 7, frame := 1, capture := 7 }

/-- Their rows. -/
def pairRows : List GstRow := [oneRow, secondRow]

lemma parse_pairRows : parseGstQueue (utf8 pairText) 2 = .ok pairRows :=
  parse_ascii (by decide +kernel)

/-- A log of two records is read as their rows. -/
theorem pairText_strict : ∃ text, decodeUtf8 (utf8 pairText) = some text ∧
    (List.Forall₂ Written (occurrences queueMarker text) pairRows ↔
      ∀ line ∈ splitlines text, (occurrences queueMarker line).length ≤ 1) :=
  gst_queue_strict_iff parse_pairRows

/-- A broken record before a good one is accepted: the marker has two places, and there is one row. -/
theorem garbled_before_accepted : ¬∀ (raw : List UInt8) (expected : ℕ) (rows : List GstRow)
    (text : List Char), parseGstQueue raw expected = .ok rows → decodeUtf8 raw = some text →
      List.Forall₂ Written (occurrences queueMarker text) rows := by
  intro hall
  have hparse : parseGstQueue (utf8 (oneRecord "observer-queue run=0 ")) 1 = .ok [oneRow] := by
    rw [oneRecord_eq]
    exact parse_ascii (by decide +kernel)
  have hlength := (hall _ 1 _ _ hparse (decodeUtf8_utf8 _)).length_eq
  rw [oneRecord_eq] at hlength
  exact absurd hlength (by decide +kernel)

end OmarchyM1Video.SameRun
