import OmarchyM1Video.ReferenceContent.Collectors
import OmarchyM1Video.ReferenceContent.Pool

/-!
What the reports of the two clients have in common.

From the run on, an output is printed alike by `vaapi_observer_report_json` and by
`gst_hevc_runner_json`.

* `Fields`, `Fields.text`: the common fields of an output, and how they are printed;
* `Fields.members`, `Fields.reads`: the members of the object that is read back;
* `outputObject`: an output, with two fields of its client before them;
* `Entry`, `reportText`, `reportDocument`: whole reports;
* `record_reportText`: a report that is short enough is decoded to its document;
* `Carries`: an output carries an identity.
-/

namespace OmarchyM1Video.ReferenceContent

open OmarchyM1Video.Py

/-! ### The common fields -/

/-- A literal of a format. -/
def literal (s : String) : List Char := s.toList

/-- `%016" PRIx64 "`. -/
def hex64 (x : UInt64) : List Char := hexDigits 16 x.toNat

/-- A digest, as `%02x` prints its bytes. -/
def digestText (digest : Vector UInt8 32) : List Char :=
  digest.toList.flatMap fun b => hexDigits 2 b.toNat

/-- The fields of an output from the run on; the digest is that of a copy. -/
structure Fields where
  run0 : UInt64
  run1 : UInt64
  contextGeneration : UInt64
  session : UInt64
  allocationGeneration : UInt64
  writer : UInt64
  submitted : UInt64
  completed : UInt64
  captureIndex : UInt32
  digest : Option (Vector UInt8 32)

/-- The common fields of a slot of the pool. -/
def slotFields (sha256 : List UInt8 → Vector UInt8 32) (slot : Slot) : Fields where
  run0 := slot.identity.run0
  run1 := slot.identity.run1
  contextGeneration := slot.identity.contextGeneration
  session := slot.identity.session
  allocationGeneration := slot.identity.allocationGeneration
  writer := slot.identity.writer
  submitted := slot.identity.submitted
  completed := slot.identity.completed
  captureIndex := slot.identity.captureIndex
  digest := if slot.copied then some (sha256 (slotBytes slot)) else none

/-- The value of `copied`. -/
def Fields.copiedText (f : Fields) : List Char :=
  if f.digest.isSome then ['t', 'r', 'u', 'e'] else ['f', 'a', 'l', 's', 'e']

/-- The value of `sha256`. -/
def Fields.sha256Text (f : Fields) : List Char :=
  match f.digest with
  | some digest => quoted (digestText digest)
  | none => ['n', 'u', 'l', 'l']

/-- The fields from the run on, to the end of the output. -/
def Fields.text (f : Fields) : List Char :=
  List.flatten [literal "\"run\":[\"", hex64 f.run0, literal "\",\"", hex64 f.run1,
    literal "\"],\"context_generation\":\"", hex64 f.contextGeneration,
    literal "\",\"session\":\"", hex64 f.session,
    literal "\",\"allocation_generation\":\"", hex64 f.allocationGeneration,
    literal "\",\"writer\":\"", hex64 f.writer,
    literal "\",\"submitted\":\"", hex64 f.submitted,
    literal "\",\"completed\":\"", hex64 f.completed,
    literal "\",\"capture_index\":", decimal f.captureIndex.toNat,
    literal ",\"copied\":", f.copiedText, literal ",\"sha256\":", f.sha256Text, ['}']]

/-- A number that was printed as a string of hexadecimal digits. -/
def hexJson (x : UInt64) : Json := .str (String.ofList (hex64 x))

/-- The members that are read back. -/
def Fields.members (f : Fields) : List (String × Json) :=
  [("run", .arr [hexJson f.run0, hexJson f.run1]),
    ("context_generation", hexJson f.contextGeneration), ("session", hexJson f.session),
    ("allocation_generation", hexJson f.allocationGeneration), ("writer", hexJson f.writer),
    ("submitted", hexJson f.submitted), ("completed", hexJson f.completed),
    ("capture_index", .int f.captureIndex.toNat), ("copied", .bool f.digest.isSome),
    ("sha256", f.digest.elim .null fun digest => .str (String.ofList (digestText digest)))]

/-- The texts of these members. -/
def Fields.texts (f : Fields) : List (List Char × List Char) :=
  [("run".toList, '[' :: (joined [quoted (hex64 f.run0), quoted (hex64 f.run1)] ++ [']'])),
    ("context_generation".toList, quoted (hex64 f.contextGeneration)),
    ("session".toList, quoted (hex64 f.session)),
    ("allocation_generation".toList, quoted (hex64 f.allocationGeneration)),
    ("writer".toList, quoted (hex64 f.writer)), ("submitted".toList, quoted (hex64 f.submitted)),
    ("completed".toList, quoted (hex64 f.completed)),
    ("capture_index".toList, decimal f.captureIndex.toNat), ("copied".toList, f.copiedText),
    ("sha256".toList, f.sha256Text)]

section Fields

variable {f : Fields} {x : UInt64} {c : Char}

lemma literal_of_isLowerHex (h : isLowerHex c = true) : Literal c := by
  have hrange : 48 ≤ c.toNat ∧ c.toNat ≤ 57 ∨ 97 ≤ c.toNat ∧ c.toNat ≤ 102 := by
    simpa [isLowerHex, Char.isDigit, UInt32.le_iff_toNat_le] using h
  refine ⟨?_, ?_, by omega⟩ <;> rintro rfl <;> revert hrange <;> decide

lemma isHex_hex64 (x : UInt64) : IsHex 16 (hex64 x) :=
  ⟨length_hexDigits 16 _, fun _ hc => isLowerHex_of_mem_hexDigits hc⟩

lemma hexValue_hex64 (x : UInt64) : hexValue (hex64 x) = x.toNat := by
  rw [hex64, hexValue_hexDigits]
  exact Nat.mod_eq_of_lt x.toNat_lt

lemma isHex_digestText (digest : Vector UInt8 32) : IsHex 64 (digestText digest) := by
  refine ⟨?_, fun c hc => ?_⟩
  · have hlength : ∀ bs : List UInt8, (bs.flatMap fun b => hexDigits 2 b.toNat).length = 2 * bs.length := by
      intro bs
      induction bs with
      | nil => rfl
      | cons b bs ih =>
          rw [List.flatMap_cons, List.length_append, ih, length_hexDigits, List.length_cons]
          omega
    rw [digestText, hlength, Vector.length_toList]
  · obtain ⟨b, -, hb⟩ := List.mem_flatMap.mp hc
    exact isLowerHex_of_mem_hexDigits hb

lemma IsHex.literal {digits : ℕ} {s : List Char} (h : IsHex digits s) : ∀ c ∈ s, Literal c :=
  fun c hc => literal_of_isLowerHex (h.2 c hc)

lemma reads_hex64 (x : UInt64) : Reads hooks (quoted (hex64 x)) (hexJson x) :=
  reads_str (isHex_hex64 x).literal

lemma reads_decimal {n : ℕ} (h : n < 10 ^ 20) : Reads hooks (decimal n) (.int n) :=
  reads_nat ((length_decimal_le (by decide) h).trans (by decide))

lemma reads_uint32 (x : UInt32) : Reads hooks (decimal x.toNat) (.int x.toNat) :=
  reads_decimal (x.toNat_lt.trans (by decide))

lemma reads_uint64 (x : UInt64) : Reads hooks (decimal x.toNat) (.int x.toNat) :=
  reads_decimal (x.toNat_lt.trans (by decide))

lemma reads_copied : Reads hooks f.copiedText (.bool f.digest.isSome) := by
  rw [Fields.copiedText]
  cases f.digest with
  | none => exact reads_false
  | some digest => exact reads_true

lemma reads_sha256 : Reads hooks f.sha256Text
    (f.digest.elim .null fun digest => .str (String.ofList (digestText digest))) := by
  rw [Fields.sha256Text]
  cases f.digest with
  | none => exact reads_null
  | some digest => exact reads_str (isHex_digestText digest).literal

lemma readsMember {name : String} {text : List Char} {value : Json}
    (hname : name.toList.all (fun c => decide (Literal c)) = true) (h : Reads hooks text value) :
    ReadsMember hooks (name.toList, text) (name, value) :=
  ⟨fun c hc => of_decide_eq_true (List.all_eq_true.mp hname c hc), String.ofList_toList, h⟩

/-- The texts spell the members. -/
lemma Fields.reads : List.Forall₂ (ReadsMember hooks) f.texts f.members := by
  have hrun : Reads hooks ('[' :: (joined [quoted (hex64 f.run0), quoted (hex64 f.run1)] ++ [']']))
      (.arr [hexJson f.run0, hexJson f.run1]) :=
    reads_arr (.cons (reads_hex64 _) (.cons (reads_hex64 _) .nil)) (List.cons_ne_nil _ _)
  refine .cons (readsMember ?_ hrun) (.cons (readsMember ?_ (reads_hex64 _))
    (.cons (readsMember ?_ (reads_hex64 _)) (.cons (readsMember ?_ (reads_hex64 _))
    (.cons (readsMember ?_ (reads_hex64 _)) (.cons (readsMember ?_ (reads_hex64 _))
    (.cons (readsMember ?_ (reads_hex64 _)) (.cons (readsMember ?_ (reads_uint32 _))
    (.cons (readsMember ?_ reads_copied) (.cons (readsMember ?_ reads_sha256) .nil)))))))))
  all_goals rfl

lemma Fields.text_eq : f.text = Py.members f.texts ++ ['}'] := by
  -- each literal of the format ends one member and starts the next
  have hrun : literal "\"run\":[\"" = quoted "run".toList ++ [':', '[', '"'] := rfl
  have hrun1 : literal "\",\"" = ['"', ',', '"'] := rfl
  have hcontext : literal "\"],\"context_generation\":\"" =
      ['"', ']', ','] ++ quoted "context_generation".toList ++ [':', '"'] := rfl
  have hsession : literal "\",\"session\":\"" = ['"', ','] ++ quoted "session".toList ++ [':', '"'] := rfl
  have hallocation : literal "\",\"allocation_generation\":\"" =
      ['"', ','] ++ quoted "allocation_generation".toList ++ [':', '"'] := rfl
  have hwriter : literal "\",\"writer\":\"" = ['"', ','] ++ quoted "writer".toList ++ [':', '"'] := rfl
  have hsubmitted : literal "\",\"submitted\":\"" =
      ['"', ','] ++ quoted "submitted".toList ++ [':', '"'] := rfl
  have hcompleted : literal "\",\"completed\":\"" =
      ['"', ','] ++ quoted "completed".toList ++ [':', '"'] := rfl
  have hcapture : literal "\",\"capture_index\":" =
      ['"', ','] ++ quoted "capture_index".toList ++ [':'] := rfl
  have hcopied : literal ",\"copied\":" = [','] ++ quoted "copied".toList ++ [':'] := rfl
  have hsha256 : literal ",\"sha256\":" = [','] ++ quoted "sha256".toList ++ [':'] := rfl
  simp only [Fields.text, List.flatten_cons, List.flatten_nil, hrun, hrun1, hcontext, hsession,
    hallocation, hwriter, hsubmitted, hcompleted, hcapture, hcopied, hsha256, Fields.texts, Py.members,
    List.map_cons, List.map_nil, joined, memberText, quoted, List.append_assoc, List.cons_append,
    List.nil_append]

lemma length_hex64 (x : UInt64) : (hex64 x).length = 16 := length_hexDigits 16 _

lemma length_uint32 (x : UInt32) : (decimal x.toNat).length ≤ 10 :=
  length_decimal_le (by decide) (x.toNat_lt.trans (by decide))

lemma length_uint64 (x : UInt64) : (decimal x.toNat).length ≤ 20 :=
  length_decimal_le (by decide) (x.toNat_lt.trans (by decide))

lemma length_copied : f.copiedText.length ≤ 5 := by
  rw [Fields.copiedText]
  split_ifs <;> decide

lemma length_sha256 : f.sha256Text.length ≤ 66 := by
  rw [Fields.sha256Text]
  cases f.digest with
  | none => decide
  | some digest =>
      change (quoted (digestText digest)).length ≤ 66
      rw [quoted, List.length_cons, List.length_append, (isHex_digestText digest).1]
      decide

lemma Fields.length_text_eq : f.text.length = 285 + (decimal f.captureIndex.toNat).length +
    f.copiedText.length + f.sha256Text.length := by
  have hliterals : [literal "\"run\":[\"", literal "\",\"", literal "\"],\"context_generation\":\"",
      literal "\",\"session\":\"", literal "\",\"allocation_generation\":\"",
      literal "\",\"writer\":\"", literal "\",\"submitted\":\"", literal "\",\"completed\":\"",
      literal "\",\"capture_index\":", literal ",\"copied\":", literal ",\"sha256\":"].map List.length =
      [8, 3, 25, 13, 27, 12, 15, 15, 18, 10, 10] := rfl
  simp only [List.map_cons, List.map_nil, List.cons.injEq, and_true] at hliterals
  obtain ⟨h₁, h₂, h₃, h₄, h₅, h₆, h₇, h₈, h₉, h₁₀, h₁₁⟩ := hliterals
  simp only [Fields.text, List.flatten_cons, List.flatten_nil, List.length_append, length_hex64,
    List.length_nil, List.length_cons, h₁, h₂, h₃, h₄, h₅, h₆, h₇, h₈, h₉, h₁₀, h₁₁]
  clear h₁ h₂ h₃ h₄ h₅ h₆ h₇ h₈ h₉ h₁₀ h₁₁
  generalize (decimal f.captureIndex.toNat).length = n₁
  generalize f.copiedText.length = n₂
  generalize f.sha256Text.length = n₃
  omega

/-- How long the common fields get. -/
lemma Fields.length_text : f.text.length ≤ 366 := by
  rw [Fields.length_text_eq]
  exact Nat.add_le_add (Nat.add_le_add (Nat.add_le_add (Nat.le_refl 285) (length_uint32 _))
    length_copied) length_sha256

end Fields

/-! ### Whole reports -/

/-- A printable character of ASCII. -/
def Printable (c : Char) : Prop := 32 ≤ c.toNat ∧ c.toNat < 127

instance (c : Char) : Decidable (Printable c) := inferInstanceAs (Decidable (_ ∧ _))

/-- An output: its text, and the object that the text spells. -/
structure Entry where
  text : List Char
  members : List (String × Json)
  reads : Reads hooks text (.obj members)
  printable : ∀ c ∈ text, Printable c

/-- The loop over the outputs: each but the first after a comma. -/
def outputsText : ℕ → List Entry → List Char
  | _, [] => []
  | i, entry :: entries => (if i = 0 then [] else [',']) ++ entry.text ++ outputsText (i + 1) entries

/-- The text around the outputs. -/
def frameText (schema count outputs : List Char) : List Char :=
  List.flatten [literal "\x7b\"schema\":\"", schema, literal "\",\"count\":", count,
    literal ",\"outputs\":[", outputs, literal "]\x7d"]

/-- A report but for the line feed. -/
def reportBody (schema : String) (entries : List Entry) : List Char :=
  frameText schema.toList (decimal entries.length) (outputsText 0 entries)

/-- A report. -/
def reportText (schema : String) (entries : List Entry) : List Char :=
  reportBody schema entries ++ ['\n']

/-- The document of a report. -/
def reportDocument (schema : String) (entries : List Entry) : Json :=
  .obj [("schema", .str schema), ("count", .int entries.length),
    ("outputs", .arr (entries.map fun entry => .obj entry.members))]

section Reports

variable {schema : String} {entries : List Entry}

lemma outputsText_succ {i : ℕ} {entry : Entry} :
    entry.text ++ outputsText (i + 1) entries = joined ((entry :: entries).map Entry.text) := by
  induction entries generalizing i entry with
  | nil => exact List.append_nil _
  | cons next entries ih =>
      rw [outputsText, if_neg (Nat.succ_ne_zero i), List.append_assoc, ih]
      rfl

lemma outputsText_zero (hne : entries ≠ []) : outputsText 0 entries = joined (entries.map Entry.text) := by
  rcases entries with _ | ⟨entry, entries⟩
  · exact absurd rfl hne
  · rw [outputsText, if_pos rfl, List.nil_append, outputsText_succ]

lemma reads_outputs : List.Forall₂ (Reads hooks) (entries.map Entry.text)
    (entries.map fun entry => .obj entry.members) := by
  rw [List.forall₂_map_left_iff, List.forall₂_map_right_iff, List.forall₂_same]
  exact fun entry _ => entry.reads

lemma frameText_eq (name count outputs : List Char) :
    frameText name count outputs = '{' :: (Py.members [("schema".toList, quoted name),
      ("count".toList, count), ("outputs".toList, '[' :: (outputs ++ [']']))] ++ ['}']) := by
  simp only [frameText, List.flatten_cons, List.flatten_nil, Py.members, List.map_cons, List.map_nil,
    joined, memberText, quoted, List.append_assoc, List.cons_append, List.nil_append]
  rfl

lemma reads_reportBody (hschema : schema.toList.all (fun c => decide (Literal c)) = true)
    (hne : entries ≠ []) (hlength : entries.length ≤ 8) :
    Reads hooks (reportBody schema entries) (reportDocument schema entries) := by
  have hliteral : ∀ c ∈ schema.toList, Literal c :=
    fun c hc => of_decide_eq_true (List.all_eq_true.mp hschema c hc)
  have hstr : Reads hooks (quoted schema.toList) (.str schema) := by
    have h : Reads hooks (quoted schema.toList) (.str (String.ofList schema.toList)) :=
      reads_str hliteral
    rwa [String.ofList_toList] at h
  have harr : Reads hooks ('[' :: (joined (entries.map Entry.text) ++ [']']))
      (.arr (entries.map fun entry => .obj entry.members)) :=
    reads_arr reads_outputs (List.map_eq_nil_iff.not.mpr hne)
  have hcount : Reads hooks (decimal entries.length) (.int entries.length) :=
    reads_decimal (Nat.lt_of_le_of_lt hlength (by decide))
  rw [reportBody, outputsText_zero hne, frameText_eq]
  exact reads_obj (.cons (readsMember rfl hstr) (.cons (readsMember rfl hcount)
    (.cons (readsMember rfl harr) .nil))) (List.cons_ne_nil _ _) rfl

/-- What is printed has no line feed, carriage return or NUL in it. -/
lemma mem_utf8_printable {text : List Char} (h : ∀ c ∈ text, Printable c) {b : UInt8}
    (hb : b ∈ utf8 text) : 32 ≤ b.toNat := by
  rw [utf8_ascii fun c hc => (h c hc).2.trans (by decide)] at hb
  obtain ⟨c, hc, rfl⟩ := List.mem_map.mp hb
  have hrange := h c hc
  have hnat : c.val.toUInt8.toNat = c.toNat := by
    rw [UInt32.toNat_toUInt8]
    exact Nat.mod_eq_of_lt (hrange.2.trans (by decide))
  rw [hnat]
  exact hrange.1

lemma utf8_append (a b : List Char) : utf8 (a ++ b) = utf8 a ++ utf8 b := List.flatMap_append

/-- A line of printable characters is one record. -/
lemma oneRecord_line {text : List Char} (h : ∀ c ∈ text, Printable c)
    (hlength : text.length < maxReportBytes) :
    OneRecord (utf8 (text ++ ['\n'])) ∧ 0 ∉ utf8 (text ++ ['\n']) := by
  have hline : utf8 ['\n'] = [10] := rfl
  have hbytes : (utf8 text).length = text.length := by
    rw [utf8_ascii fun c hc => (h c hc).2.trans (by decide), List.length_map]
  have hlow : ∀ b : UInt8, b.toNat < 32 → b ∉ utf8 text := fun b hb hmem =>
    absurd (mem_utf8_printable h hmem) (Nat.not_le_of_lt hb)
  rw [utf8_append, hline]
  refine ⟨⟨?_, List.getLast?_concat, ?_, ?_⟩, ?_⟩
  · rw [List.length_append, hbytes, List.length_singleton]
    exact hlength
  · rw [List.dropLast_concat]
    exact hlow 10 (by decide)
  · rw [List.mem_append, not_or]
    exact ⟨hlow 13 (by decide), by decide⟩
  · rw [List.mem_append, not_or]
    exact ⟨hlow 0 (by decide), by decide⟩

lemma printable_outputsText {i : ℕ} : ∀ c ∈ outputsText i entries, Printable c := by
  induction entries generalizing i with
  | nil => exact fun c hc => absurd hc List.not_mem_nil
  | cons entry entries ih =>
      intro c hc
      rw [outputsText, List.mem_append, List.mem_append] at hc
      rcases hc with (hc | hc) | hc
      · split_ifs at hc
        · exact absurd hc List.not_mem_nil
        · rw [List.mem_singleton.mp hc]
          decide
      · exact entry.printable c hc
      · exact ih c hc

lemma printable_decimal {n : ℕ} : ∀ c ∈ decimal n, Printable c := fun _ hc =>
  ⟨Nat.le_of_lt (plain_of_mem_decimal hc).1, (plain_of_mem_decimal hc).2⟩

lemma printable_all {text : List Char} (h : text.all (fun c => decide (Printable c)) = true) :
    ∀ c ∈ text, Printable c := fun c hc => of_decide_eq_true (List.all_eq_true.mp h c hc)

lemma printable_flatten {ts : List (List Char)} (h : ∀ t ∈ ts, ∀ c ∈ t, Printable c) :
    ∀ c ∈ ts.flatten, Printable c := by
  intro c hc
  obtain ⟨t, ht, hct⟩ := List.mem_flatten.mp hc
  exact h t ht c hct

lemma printable_reportBody (hschema : schema.toList.all (fun c => decide (Printable c)) = true) :
    ∀ c ∈ reportBody schema entries, Printable c := by
  rw [reportBody, frameText]
  refine printable_flatten (List.forall_mem_cons.mpr ⟨printable_all rfl, List.forall_mem_cons.mpr
    ⟨printable_all hschema, List.forall_mem_cons.mpr ⟨printable_all rfl, List.forall_mem_cons.mpr
    ⟨printable_decimal, List.forall_mem_cons.mpr ⟨printable_all rfl, List.forall_mem_cons.mpr
    ⟨printable_outputsText, List.forall_mem_cons.mpr ⟨printable_all rfl, ?_⟩⟩⟩⟩⟩⟩⟩)
  exact fun t ht => absurd ht List.not_mem_nil

/-- **A report is decoded to its document.** -/
theorem record_reportText (hliteral : schema.toList.all (fun c => decide (Literal c)) = true)
    (hschema : schema.toList.all (fun c => decide (Printable c)) = true) (hne : entries ≠ [])
    (hcount : entries.length ≤ 8) (hlength : (reportBody schema entries).length < maxReportBytes) :
    record (utf8 (reportText schema entries)) = .ok (reportDocument schema entries) := by
  obtain ⟨hrecord, hnul⟩ := oneRecord_line (printable_reportBody hschema) hlength
  have hloads : loads hooks (reportText schema entries) = .ok (reportDocument schema entries) :=
    loads_reads (reads_reportBody hliteral hne hcount)
  have hdecode : decode (utf8 (reportText schema entries)) = .ok (reportDocument schema entries) := by
    rw [decode, decodeUtf8_utf8]
    dsimp only
    rw [hloads]
  simp only [record, Except.bind_ok, need_ok]
  exact ⟨(), hrecord, (), hnul, hdecode⟩

end Reports

section Length

lemma length_outputsText {entries : List Entry} {i n : ℕ} (h : ∀ entry ∈ entries, entry.text.length ≤ n) :
    (outputsText i entries).length ≤ entries.length * (n + 1) := by
  induction entries generalizing i with
  | nil => exact Nat.zero_le _
  | cons entry entries ih =>
      obtain ⟨hentry, hrest⟩ := List.forall_mem_cons.mp h
      have hcomma : (if i = 0 then [] else [',']).length ≤ 1 := by
        split_ifs <;> decide
      have htail := ih (i := i + 1) hrest
      rw [outputsText, List.length_append, List.length_append, List.length_cons, Nat.succ_mul]
      omega

lemma length_reportBody {schema : String} {entries : List Entry} {n : ℕ}
    (hcount : entries.length ≤ 8) (h : ∀ entry ∈ entries, entry.text.length ≤ n) :
    (reportBody schema entries).length ≤ schema.toList.length + 8 * (n + 1) + 37 := by
  have hliterals : (literal "\x7b\"schema\":\"").length = 11 ∧
      (literal "\",\"count\":").length = 10 ∧ (literal ",\"outputs\":[").length = 12 ∧
      (literal "]\x7d").length = 2 := ⟨rfl, rfl, rfl, rfl⟩
  have hdecimal : (decimal entries.length).length ≤ 1 :=
    length_decimal_le (by decide) (by omega)
  have houtputs := length_outputsText (i := 0) h
  have hmul : entries.length * (n + 1) ≤ 8 * (n + 1) := Nat.mul_le_mul_right _ hcount
  simp only [reportBody, frameText, List.flatten_cons, List.flatten_nil, List.length_append,
    List.length_nil, hliterals]
  omega

end Length

/-! ### What an output carries -/

/-- The field spells the number in hexadecimal digits. -/
def HexField (output : Json) (name : String) (x : UInt64) : Prop :=
  ∃ s, output.get? name = some (.str s) ∧ hexValue s.toList = x.toNat

/-- An output carries the common fields. -/
structure Carries (output : Json) (f : Fields) : Prop where
  run : ∃ r₀ r₁, output.get? "run" = some (.arr [.str r₀, .str r₁]) ∧
    hexValue r₀.toList = f.run0.toNat ∧ hexValue r₁.toList = f.run1.toNat
  context : HexField output "context_generation" f.contextGeneration
  session : HexField output "session" f.session
  allocation : HexField output "allocation_generation" f.allocationGeneration
  writer : HexField output "writer" f.writer
  submitted : HexField output "submitted" f.submitted
  completed : HexField output "completed" f.completed
  captureIndex : output.get? "capture_index" = some (.int f.captureIndex.toNat)
  copied : output.get? "copied" = some (.bool f.digest.isSome)
  sha256 : ∀ digest, f.digest = some digest →
    output.get? "sha256" = some (.str (String.ofList (digestText digest)))

/-- Fields that a collector accepts. -/
structure Fields.Sound (f : Fields) : Prop where
  run : f.run0 ≠ 0 ∨ f.run1 ≠ 0
  context : f.contextGeneration ≠ 0
  session : f.session ≠ 0
  allocation : f.allocationGeneration ≠ 0
  writer : f.writer ≠ 0
  submitted : f.submitted ≠ 0
  completed : f.completed ≠ 0
  frontier : f.submitted ≤ f.completed

/-- The identity that the outputs have in common. -/
def Fields.shared (f : Fields) : Shared :=
  ⟨hex64 f.run0, hex64 f.run1, hex64 f.contextGeneration, hex64 f.session⟩

/-- The names of the common fields. -/
def commonNames : List String :=
  ["run", "context_generation", "session", "allocation_generation", "writer", "submitted",
    "completed", "capture_index", "copied", "sha256"]

section Outputs

variable {f f' : Fields} {h₁ h₂ : String × Json} {name : String} {output : Json} {x y : UInt64}

/-- The object of an output: two fields of its client, and the common ones. -/
def outputObject (h₁ h₂ : String × Json) (f : Fields) : Json := .obj (h₁ :: h₂ :: f.members)

lemma get_common (hne₁ : h₁.1 ≠ name) (hne₂ : h₂.1 ≠ name) :
    (outputObject h₁ h₂ f).get? name = (Json.obj f.members).get? name := by
  simp only [outputObject, Json.get?, Json.member?]
  rw [List.find?_cons_of_neg (by simpa using hne₁), List.find?_cons_of_neg (by simpa using hne₂)]

lemma hexField_hexJson (h : output.get? name = some (hexJson x)) : HexField output name x := by
  refine ⟨_, h, ?_⟩
  rw [String.toList_ofList, hexValue_hex64]

lemma hexValue_hex64_ne_zero (h : x ≠ 0) : hexValue (hex64 x) ≠ 0 := by
  rw [hexValue_hex64]
  exact fun hzero => h (UInt64.toNat_inj.mp hzero)

/-- The members of the common fields. -/
lemma Fields.get_members :
    (Json.obj f.members).get? "run" = some (.arr [hexJson f.run0, hexJson f.run1]) ∧
    (Json.obj f.members).get? "context_generation" = some (hexJson f.contextGeneration) ∧
    (Json.obj f.members).get? "session" = some (hexJson f.session) ∧
    (Json.obj f.members).get? "allocation_generation" = some (hexJson f.allocationGeneration) ∧
    (Json.obj f.members).get? "writer" = some (hexJson f.writer) ∧
    (Json.obj f.members).get? "submitted" = some (hexJson f.submitted) ∧
    (Json.obj f.members).get? "completed" = some (hexJson f.completed) ∧
    (Json.obj f.members).get? "capture_index" = some (.int f.captureIndex.toNat) ∧
    (Json.obj f.members).get? "copied" = some (.bool f.digest.isSome) ∧
    (Json.obj f.members).get? "sha256" =
      some (f.digest.elim .null fun digest => .str (String.ofList (digestText digest))) :=
  ⟨rfl, rfl, rfl, rfl, rfl, rfl, rfl, rfl, rfl, rfl⟩

/-- The output carries the fields that were printed. -/
lemma carries_outputObject (hne₁ : h₁.1 ∉ commonNames) (hne₂ : h₂.1 ∉ commonNames) :
    Carries (outputObject h₁ h₂ f) f := by
  have hget : ∀ name ∈ commonNames,
      (outputObject h₁ h₂ f).get? name = (Json.obj f.members).get? name := fun name hname =>
    get_common (fun heq => hne₁ (heq ▸ hname)) fun heq => hne₂ (heq ▸ hname)
  obtain ⟨hrun, hcontext, hsession, hallocation, hwriter, hsubmitted, hcompleted, hcapture, hcopied,
    hsha256⟩ := f.get_members
  refine ⟨⟨_, _, (hget _ (by decide)).trans hrun, ?_, ?_⟩,
    hexField_hexJson ((hget _ (by decide)).trans hcontext),
    hexField_hexJson ((hget _ (by decide)).trans hsession),
    hexField_hexJson ((hget _ (by decide)).trans hallocation),
    hexField_hexJson ((hget _ (by decide)).trans hwriter),
    hexField_hexJson ((hget _ (by decide)).trans hsubmitted),
    hexField_hexJson ((hget _ (by decide)).trans hcompleted), (hget _ (by decide)).trans hcapture,
    (hget _ (by decide)).trans hcopied, fun digest hdigest => ?_⟩
  · rw [String.toList_ofList, hexValue_hex64]
  · rw [String.toList_ofList, hexValue_hex64]
  · rw [hget _ (by decide), hsha256, hdigest]
    rfl

lemma HexField.eq (hx : HexField output name x) (hy : HexField output name y) : x = y := by
  obtain ⟨s, hs, hsx⟩ := hx
  obtain ⟨t, ht, hty⟩ := hy
  cases hs.symm.trans ht
  exact UInt64.toNat_inj.mp (hsx.symm.trans hty)

/-- An output carries one identity. -/
lemma Carries.eq (h : Carries output f) (h' : Carries output f') :
    (f.run0 = f'.run0 ∧ f.run1 = f'.run1) ∧ f.contextGeneration = f'.contextGeneration ∧
      f.session = f'.session ∧ f.allocationGeneration = f'.allocationGeneration ∧
      f.writer = f'.writer ∧ f.submitted = f'.submitted ∧ f.completed = f'.completed ∧
      f.captureIndex = f'.captureIndex := by
  obtain ⟨r₀, r₁, hrun, h₀, h₁⟩ := h.run
  obtain ⟨s₀, s₁, hrun', h₀', h₁'⟩ := h'.run
  cases hrun.symm.trans hrun'
  refine ⟨⟨UInt64.toNat_inj.mp (h₀.symm.trans h₀'), UInt64.toNat_inj.mp (h₁.symm.trans h₁')⟩,
    h.context.eq h'.context, h.session.eq h'.session, h.allocation.eq h'.allocation,
    h.writer.eq h'.writer, h.submitted.eq h'.submitted, h.completed.eq h'.completed, ?_⟩
  have hcapture := h.captureIndex.symm.trans h'.captureIndex
  simp only [Option.some.injEq, Json.int.injEq, Int.natCast_inj] at hcapture
  exact UInt32.toNat_inj.mp hcapture

/-- An output with sound fields is accepted, as far as these go. -/
lemma outputOk_outputObject {c : Collector} (hsound : f.Sound) (hne₁ : h₁.1 ∉ commonNames)
    (hne₂ : h₂.1 ∉ commonNames) (hkeys : hasKeys c.outputKeys (outputObject h₁ h₂ f) = true)
    (huints : ∀ p ∈ c.uints, ∃ n : ℤ,
      (outputObject h₁ h₂ f).get? p.1 = some (.int n) ∧ 0 ≤ n ∧ n < (1 <<< p.2 : ℕ))
    (hfields : ∀ name ∈ c.hexFields, ∃ x : UInt64,
      (outputObject h₁ h₂ f).get? name = some (hexJson x) ∧ x ≠ 0) :
    OutputOk c (outputObject h₁ h₂ f) f.shared := by
  have hget : ∀ name ∈ commonNames,
      (outputObject h₁ h₂ f).get? name = (Json.obj f.members).get? name := fun name hname =>
    get_common (fun heq => hne₁ (heq ▸ hname)) fun heq => hne₂ (heq ▸ hname)
  obtain ⟨hrun, hcontext, hsession, -, -, hsubmitted, hcompleted, -, hcopied, hsha256⟩ := f.get_members
  refine ⟨hkeys, huints, (hget _ (by decide)).trans hrun, ⟨isHex_hex64 _, isHex_hex64 _⟩,
    hsound.run.imp hexValue_hex64_ne_zero hexValue_hex64_ne_zero, fun name hname => ?_,
    ⟨_, _, ⟨(hget _ (by decide)).trans hcompleted, isHex_hex64 _⟩,
      ⟨(hget _ (by decide)).trans hsubmitted, isHex_hex64 _⟩, ?_⟩,
    ⟨(hget _ (by decide)).trans hcontext, isHex_hex64 _⟩,
    ⟨(hget _ (by decide)).trans hsession, isHex_hex64 _⟩,
    ⟨_, _, (hget _ (by decide)).trans hcopied, (hget _ (by decide)).trans hsha256, ?_⟩⟩
  · obtain ⟨x, hx, hne⟩ := hfields name hname
    exact ⟨_, hx, isHex_hex64 x, hexValue_hex64_ne_zero hne⟩
  · rw [hexValue_hex64, hexValue_hex64]
    exact UInt64.le_iff_toNat_le.mp hsound.frontier
  · cases f.digest with
    | none => exact .inr ⟨rfl, rfl⟩
    | some digest => exact .inl ⟨rfl, _, rfl, isHex_digestText digest⟩

/-- The document of a report whose outputs are in order is in order. -/
lemma documentOk_reportDocument {c : Collector} {entries : List Entry} (shared : Shared)
    (hne : entries ≠ []) (hcount : entries.length ≤ 8)
    (hok : ∀ entry ∈ entries, OutputOk c (.obj entry.members) shared) :
    DocumentOk c (reportDocument c.schema entries) (entries.map fun entry => .obj entry.members) := by
  have hpos : 1 ≤ entries.length := List.length_pos_iff.mpr hne
  refine ⟨rfl, rfl, rfl, ?_, ?_, shared, fun output houtput => ?_⟩
  · rw [List.length_map]
    rfl
  · rw [List.length_map]
    exact ⟨hpos, hcount⟩
  · obtain ⟨entry, hentry, rfl⟩ := List.mem_map.mp houtput
    exact hok entry hentry

/-- The text of an output spells its object. -/
lemma reads_output {m₁ m₂ : List Char × List Char} (hm₁ : ReadsMember hooks m₁ h₁)
    (hm₂ : ReadsMember hooks m₂ h₂)
    (hnames : duplicate? [] (h₁.1 :: h₂.1 :: commonNames) = none) :
    Reads hooks ('{' :: (memberText m₁.1 m₁.2 ++ ',' :: (memberText m₂.1 m₂.2 ++ ',' :: f.text)))
      (outputObject h₁ h₂ f) := by
  have hobject : hooks.object (h₁ :: h₂ :: f.members) = .ok (outputObject h₁ h₂ f) := by
    change object _ = _
    have hdup : duplicate? [] ((h₁ :: h₂ :: f.members).map Prod.fst) = none := hnames
    rw [object, hdup]
    rfl
  have htext : '{' :: (memberText m₁.1 m₁.2 ++ ',' :: (memberText m₂.1 m₂.2 ++ ',' :: f.text)) =
      '{' :: (Py.members (m₁ :: m₂ :: f.texts) ++ ['}']) := by
    have hmembers : Py.members (m₁ :: m₂ :: f.texts) =
        memberText m₁.1 m₁.2 ++ ',' :: (memberText m₂.1 m₂.2 ++ ',' :: Py.members f.texts) := rfl
    rw [hmembers, f.text_eq, List.append_assoc, List.cons_append, List.append_assoc, List.cons_append]
  rw [htext]
  exact reads_obj (.cons hm₁ (.cons hm₂ f.reads)) (List.cons_ne_nil _ _) hobject

lemma printable_isLowerHex {text : List Char} (h : ∀ c ∈ text, isLowerHex c = true) :
    ∀ c ∈ text, Printable c := by
  intro c hc
  have hrange : 48 ≤ c.toNat ∧ c.toNat ≤ 57 ∨ 97 ≤ c.toNat ∧ c.toNat ≤ 102 := by
    simpa [isLowerHex, Char.isDigit, UInt32.le_iff_toNat_le] using h c hc
  exact ⟨by omega, by omega⟩

lemma printable_hex64 (x : UInt64) : ∀ c ∈ hex64 x, Printable c := printable_isLowerHex (isHex_hex64 x).2

lemma printable_copied : ∀ c ∈ f.copiedText, Printable c := by
  rw [Fields.copiedText]
  split_ifs <;> exact printable_all rfl

lemma printable_sha256 : ∀ c ∈ f.sha256Text, Printable c := by
  rw [Fields.sha256Text]
  cases f.digest with
  | none => exact printable_all rfl
  | some digest =>
      intro c hc
      rcases List.mem_cons.mp hc with rfl | hc
      · decide
      · rcases List.mem_append.mp hc with hc | hc
        · exact printable_isLowerHex (isHex_digestText digest).2 c hc
        · exact (List.mem_singleton.mp hc) ▸ (by decide)

lemma Fields.printable : ∀ c ∈ f.text, Printable c := by
  refine printable_flatten ?_
  simp only [List.forall_mem_cons]
  exact ⟨printable_all rfl, printable_hex64 _, printable_all rfl, printable_hex64 _, printable_all rfl,
    printable_hex64 _, printable_all rfl, printable_hex64 _, printable_all rfl, printable_hex64 _,
    printable_all rfl, printable_hex64 _, printable_all rfl, printable_hex64 _, printable_all rfl,
    printable_hex64 _, printable_all rfl, printable_decimal, printable_all rfl, printable_copied,
    printable_all rfl, printable_sha256, ⟨by decide, fun c hc => absurd hc List.not_mem_nil⟩,
    fun t ht => absurd ht List.not_mem_nil⟩

end Outputs

end OmarchyM1Video.ReferenceContent
