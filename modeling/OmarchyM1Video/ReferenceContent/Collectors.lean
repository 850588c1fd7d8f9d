import OmarchyM1Video.Py.JsonText

/-!
The collectors of the two clients: `va-callsite/collector.py` and `gst-runner/collector.py`.

They differ in the names of the fields and in what they compare with the request at the end.

* `hex`, `uint`: the checks of a field;
* `Collector`: what the names of a client are;
* `Collector.checkOutput`, `Collector.checkOutputs`: the loop over the outputs;
* `Collector.document`: everything up to the end of the loop;
* `Va.parseReport`, `Gst.parseReport`: the two functions;
* `Shared`, `OutputOk`, `document_ok`: what an accepted report is.
-/

namespace OmarchyM1Video.ReferenceContent

open OmarchyM1Video.Py

/-! ### Errors -/

/-- Why a report is refused. -/
inductive Fault where
  /-- `ReportError(message)`. -/
  | report (message : String)
  /-- `ReportError("invalid report JSON: …")`, with the words of the decoder after it. -/
  | invalidJson
  /-- The `ValueError` of an integer that is too long. -/
  | digits
  deriving DecidableEq

/-- What a collector computes. -/
abbrev Read (α : Type) := Except (Exc Fault) α

/-- `raise ReportError(message)`. -/
def refusal (message : String) : Exc Fault := .raise (.report message)

/-! ### Fields -/

/-- The first name that is there twice. -/
def duplicate? : List String → List String → Option String
  | _, [] => none
  | seen, name :: names => if name ∈ seen then some name else duplicate? (name :: seen) names

/-- `_object(pairs)`. -/
def object (pairs : List (String × Json)) : Except Fault Json :=
  match duplicate? [] (pairs.map Prod.fst) with
  | some name => .error (.report ("duplicate JSON key: " ++ name))
  | none => .ok (.obj pairs)

/-- The hooks that `parse_report` passes to `json.loads`. -/
def hooks : Hooks Fault := ⟨object, fun x => .ok (.float x)⟩

/-- So many lower-case hexadecimal digits. -/
def IsHex (digits : ℕ) (s : List Char) : Prop := s.length = digits ∧ ∀ c ∈ s, isLowerHex c = true

instance (digits : ℕ) (s : List Char) : Decidable (IsHex digits s) :=
  decidable_of_iff (s.length = digits ∧ s.all isLowerHex = true) (and_congr_right' List.all_eq_true)

/-- `_hex(value, digits, field)`, with the text that was checked. -/
def hex (value : Json) (digits : ℕ) (field : String) : Read (List Char) :=
  match value with
  | .str s =>
      if IsHex digits s.toList then .ok s.toList
      else .error (refusal (field ++ " must be " ++ toString digits ++ " lowercase hexadecimal digits"))
  | _ => .error (refusal (field ++ " must be " ++ toString digits ++ " lowercase hexadecimal digits"))

/-- `_uint(value, bits, field)`, with the number that was checked. -/
def uint (value : Json) (bits : ℕ) (field : String) : Read ℤ :=
  match value with
  | .int n =>
      if 0 ≤ n ∧ n < (1 <<< bits : ℕ) then .ok n
      else .error (refusal (field ++ " must be an unsigned " ++ toString bits ++ "-bit integer"))
  | _ => .error (refusal (field ++ " must be an unsigned " ++ toString bits ++ "-bit integer"))

/-- `type(value) is dict and set(value) == keys`. -/
def hasKeys (keys : List String) : Json → Bool
  | .obj members =>
      (members.all fun m => keys.contains m.1) && keys.all fun key => members.any fun m => m.1 = key
  | _ => false

/-! ### The outputs -/

/-- The names of a client. -/
structure Collector where
  schema : String
  outputKeys : List String
  /-- The fields that are numbers, with their widths, in the order in which they are checked. -/
  uints : List (String × ℕ)
  /-- `HEX64_FIELDS`. -/
  hexFields : List String

/-- `observation_identity`. -/
structure Shared where
  run0 : List Char
  run1 : List Char
  context : List Char
  session : List Char
  deriving DecidableEq

/-- Each element in turn. -/
def forEach {α : Type} (check : α → Read Unit) : List α → Read Unit
  | [] => .ok ()
  | x :: xs => do
      check x
      forEach check xs

/-- `run = output["run"]`, of two elements. -/
def runOf (value : Json) (at_ : String) : Read (Json × Json) :=
  match value with
  | .arr [r₀, r₁] => .ok (r₀, r₁)
  | _ => .error (refusal (at_ ++ ".run must contain two identities"))

/-- The check of the copy: a digest where the output was copied, and nothing otherwise. -/
def checkCopy (copied sha256 : Json) (at_ : String) : Read Unit :=
  match copied with
  | .bool true => do
      let _ ← hex sha256 64 (at_ ++ ".sha256")
  | .bool false =>
      match sha256 with
      | .null => .ok ()
      | _ => .error (refusal (at_ ++ ".sha256 must be null when copy is off"))
  | _ => .error (refusal (at_ ++ ".copied must be boolean"))

/-- The body of the loop over the outputs. -/
def Collector.checkOutput (c : Collector) (at_ : String) (shared : Option Shared) (output : Json) :
    Read Shared := do
  need (hasKeys c.outputKeys output = true) (refusal (at_ ++ " has unexpected fields"))
  forEach (fun (name, bits) => do
    let _ ← uint (← output.item name) bits (at_ ++ "." ++ name)) c.uints
  let (r₀, r₁) ← runOf (← output.item "run") at_
  let run0 ← hex r₀ 16 (at_ ++ ".run[0]")
  let run1 ← hex r₁ 16 (at_ ++ ".run[1]")
  need (hexValue run0 ≠ 0 ∨ hexValue run1 ≠ 0) (refusal (at_ ++ ".run must be nonzero"))
  forEach (fun field => do
    let s ← hex (← output.item field) 16 (at_ ++ "." ++ field)
    need (hexValue s ≠ 0) (refusal (at_ ++ "." ++ field ++ " must be nonzero"))) c.hexFields
  let completed ← hex (← output.item "completed") 16 (at_ ++ ".completed")
  let submitted ← hex (← output.item "submitted") 16 (at_ ++ ".submitted")
  need (hexValue submitted ≤ hexValue completed) (refusal (at_ ++ ".completion precedes submission"))
  let context ← hex (← output.item "context_generation") 16 (at_ ++ ".context_generation")
  let session ← hex (← output.item "session") 16 (at_ ++ ".session")
  need (shared = none ∨ shared = some ⟨run0, run1, context, session⟩)
    (refusal "outputs do not share one run/context/session")
  checkCopy (← output.item "copied") (← output.item "sha256") at_
  return ⟨run0, run1, context, session⟩

/-- The loop over the outputs, from the one of this index on. -/
def Collector.checkOutputs (c : Collector) : ℕ → Option Shared → List Json → Read Unit
  | _, _, [] => .ok ()
  | index, shared, output :: outputs => do
      let identity ← c.checkOutput ("outputs[" ++ toString index ++ "]") shared output
      c.checkOutputs (index + 1) (some identity) outputs

/-- `outputs = document["outputs"]` and `count = document["count"]`, of their types. -/
def outputsOf (outputs count : Json) : Read (List Json × ℤ) :=
  match outputs, count with
  | .arr xs, .int n => .ok (xs, n)
  | _, _ => .error (refusal "count and outputs have invalid types")

/-- From the decoded document to the end of the loop. -/
def Collector.document (c : Collector) (document : Json) : Read (List Json) := do
  need (hasKeys ["schema", "count", "outputs"] document = true)
    (refusal "unexpected top-level report fields")
  need ((← document.item "schema").eqStr c.schema = true) (refusal "unknown report schema")
  let (outputs, count) ← outputsOf (← document.item "outputs") (← document.item "count")
  need (1 ≤ count ∧ count ≤ 8 ∧ count = outputs.length)
    (refusal "count does not describe one to eight outputs")
  c.checkOutputs 0 none outputs
  return outputs

/-- The checks of the request. -/
def expectations (expected : Option (List ℤ)) (bound : ℤ) (message : String) : Read Unit :=
  match expected with
  | none => .ok ()
  | some expected =>
      need (1 ≤ expected.length ∧ expected.length ≤ 8 ∧ (∀ n ∈ expected, 0 ≤ n ∧ n < bound) ∧
        expected.Nodup) (refusal message)

/-- `MAX_REPORT_BYTES`. -/
def maxReportBytes : ℕ := 8 * 1024

/-- One newline-terminated record of so many bytes at most, without a carriage return. -/
def OneRecord (data : List UInt8) : Prop :=
  data.length ≤ maxReportBytes ∧ data.getLast? = some 10 ∧ 10 ∉ data.dropLast ∧ 13 ∉ data

instance (data : List UInt8) : Decidable (OneRecord data) := inferInstanceAs (Decidable (_ ∧ _))

/-- `json.loads(data.decode("utf-8"), object_pairs_hook=_object)`. -/
def decode (data : List UInt8) : Read Json :=
  match decodeUtf8 data with
  | none => .error (.raise .invalidJson)
  | some text =>
      match loads hooks text with
      | .ok document => .ok document
      | .error .decode => .error (.raise .invalidJson)
      | .error .digits => .error (.raise .digits)
      | .error (.raised e) => .error (.raise e)

/-- From the bytes to the document. -/
def record (data : List UInt8) : Read Json := do
  need (OneRecord data) (refusal "report must be one bounded newline-terminated record")
  need (0 ∉ data) (refusal "report contains a NUL byte")
  decode data

/-- `value is copy`. -/
def isBool (copy : Bool) : Json → Bool
  | .bool b => b = copy
  | _ => false

/-- `output["copied"] is not expected_copy` for no output. -/
def checkMode (expected : Option Bool) (outputs : List Json) : Read Unit :=
  match expected with
  | none => .ok ()
  | some copy =>
      forEach (fun output => do
        need (isBool copy (← output.item "copied") = true)
          (refusal "report copy mode does not match the requested mode")) outputs

/-- A number that the loop has put into its list. -/
def numberOf (value : Json) : Read ℤ :=
  match value with
  | .int n => .ok n
  | _ => .error (.builtin .typeError)

/-- A text that the loop has put into its list. -/
def textOf (value : Json) : Read String :=
  match value with
  | .str s => .ok s
  | _ => .error (.builtin .typeError)

/-! ### The two clients -/

/-- The names of the VA client. -/
def Va.collector : Collector where
  schema := "omarchy.hevc.va-observer-result/v1"
  outputKeys := ["output_ordinal", "surface", "run", "context_generation", "session",
    "allocation_generation", "writer", "submitted", "completed", "capture_index", "copied", "sha256"]
  uints := [("output_ordinal", 64), ("surface", 32), ("capture_index", 32)]
  hexFields := ["context_generation", "session", "allocation_generation", "writer", "submitted",
    "completed"]

/-- The names of the Gst client. -/
def Gst.collector : Collector where
  schema := "omarchy.hevc.gst-observer-result/v1"
  outputKeys := ["system_frame_number", "request", "run", "context_generation", "session",
    "allocation_generation", "writer", "submitted", "completed", "capture_index", "copied", "sha256"]
  uints := [("system_frame_number", 32), ("capture_index", 32)]
  hexFields := ["request", "context_generation", "session", "allocation_generation", "writer",
    "submitted", "completed"]

/-- `parse_report` of the VA collector. -/
def Va.parseReport (data : List UInt8) (expectedOutputs : Option (List ℤ))
    (expectedCopy : Option Bool) : Read Json := do
  expectations expectedOutputs 0x10000000000000000
    "expected outputs must be one to eight unique uint64 ordinals"
  let document ← record data
  let outputs ← Va.collector.document document
  let ordinals ← outputs.mapM fun output => do numberOf (← output.item "output_ordinal")
  need ordinals.Nodup (refusal "output ordinals are duplicated")
  need (expectedOutputs = none ∨ expectedOutputs = some ordinals)
    (refusal "report output ordinals do not match the requested order")
  checkMode expectedCopy outputs
  return document

/-- The comparison of the frames with the selection: as sets, and by their numbers. -/
def Gst.checkFrames (expectedFrames : Option (List ℤ)) (frames : List ℤ) : Read Unit :=
  match expectedFrames with
  | none => .ok ()
  | some expected => do
      need ((∀ n ∈ frames, n ∈ expected) ∧ ∀ n ∈ expected, n ∈ frames)
        (refusal "report frames do not match the requested selection")
      need (frames.length = expected.length)
        (refusal "report frame count does not match the requested selection")

/-- `parse_report` of the Gst collector. -/
def Gst.parseReport (data : List UInt8) (expectedFrames : Option (List ℤ))
    (expectedCopy : Option Bool) : Read Json := do
  expectations expectedFrames 0xffffffff
    "expected frames must be one to eight unique uint32 selectors"
  let document ← record data
  let outputs ← Gst.collector.document document
  let frames ← outputs.mapM fun output => do numberOf (← output.item "system_frame_number")
  let requests ← outputs.mapM fun output => do textOf (← output.item "request")
  need frames.Nodup (refusal "system frame numbers are duplicated")
  need requests.Nodup (refusal "request identities are duplicated")
  Gst.checkFrames expectedFrames frames
  checkMode expectedCopy outputs
  return document

/-! ### What is accepted -/

section Accepted

variable {c : Collector} {value output document : Json} {outputs : List Json} {shared : Option Shared}
  {identity : Shared}

lemma str_eq_iff {t : String} {s : List Char} : t.toList = s ↔ Json.str t = .str (String.ofList s) := by
  rw [Json.str.injEq]
  constructor
  · rintro rfl
    exact String.ofList_toList.symm
  · rintro rfl
    exact String.toList_ofList

lemma hex_ok {digits : ℕ} {field : String} {s : List Char} :
    hex value digits field = .ok s ↔ value = .str (String.ofList s) ∧ IsHex digits s := by
  cases value with
  | str t =>
      rw [← str_eq_iff, hex]
      split_ifs with h
      · rw [Except.ok.injEq]
        exact ⟨fun heq => ⟨heq, heq ▸ h⟩, fun heq => heq.1⟩
      · exact ⟨fun heq => (nomatch heq), fun heq => absurd (heq.1 ▸ heq.2) h⟩
  | _ => exact ⟨fun heq => (nomatch heq), fun heq => (nomatch heq.1)⟩

lemma uint_ok {bits : ℕ} {field : String} {n : ℤ} :
    uint value bits field = .ok n ↔ value = .int n ∧ 0 ≤ n ∧ n < (1 <<< bits : ℕ) := by
  cases value with
  | int m =>
      rw [uint, Json.int.injEq]
      split_ifs with h
      · rw [Except.ok.injEq]
        exact ⟨fun heq => ⟨heq, heq ▸ h⟩, fun heq => heq.1⟩
      · exact ⟨fun heq => (nomatch heq), fun heq => absurd (heq.1 ▸ heq.2) h⟩
  | _ => exact ⟨fun heq => (nomatch heq), fun heq => (nomatch heq.1)⟩

lemma forEach_ok {α : Type} {check : α → Read Unit} {xs : List α} {u : Unit} :
    forEach check xs = .ok u ↔ ∀ x ∈ xs, check x = .ok () := by
  induction xs with
  | nil => simp [forEach]
  | cons x xs ih =>
      simp only [forEach, Except.bind_ok, ih, List.forall_mem_cons]
      constructor
      · rintro ⟨_, hx, h⟩
        exact ⟨hx, h⟩
      · rintro ⟨hx, h⟩
        exact ⟨(), hx, h⟩

lemma runOf_ok {at_ : String} {r : Json × Json} :
    runOf value at_ = .ok r ↔ value = .arr [r.1, r.2] := by
  obtain ⟨r₀, r₁⟩ := r
  unfold runOf
  split
  · simp
  · next h => exact ⟨fun heq => (nomatch heq), fun heq => absurd heq (h r₀ r₁)⟩

/-- What the copy of an output has to be. -/
def CopyOk (copied sha256 : Json) : Prop :=
  (copied = .bool true ∧ ∃ s, sha256 = .str (String.ofList s) ∧ IsHex 64 s) ∨
    (copied = .bool false ∧ sha256 = .null)

lemma map_unit_ok {α : Type} {x : Read α} {u : Unit} :
    (fun _ => ()) <$> x = .ok u ↔ ∃ a, x = .ok a := by
  cases x <;> simp [Functor.map, Except.map]

lemma checkCopy_ok {copied sha256 : Json} {at_ : String} {u : Unit} :
    checkCopy copied sha256 at_ = .ok u ↔ CopyOk copied sha256 := by
  unfold checkCopy CopyOk
  split
  · simp [map_unit_ok, hex_ok]
  · cases sha256 <;> simp
  · next h₁ h₀ =>
      exact ⟨fun heq => (nomatch heq), fun heq => heq.elim (fun h => absurd h.1 h₁) fun h => absurd h.1 h₀⟩

/-- An output that a collector accepts, with the identity that it shares with the others. -/
structure OutputOk (c : Collector) (output : Json) (shared : Shared) : Prop where
  keys : hasKeys c.outputKeys output = true
  uints : ∀ p ∈ c.uints, ∃ n : ℤ, output.get? p.1 = some (.int n) ∧ 0 ≤ n ∧ n < (1 <<< p.2 : ℕ)
  run : output.get? "run" =
    some (.arr [.str (String.ofList shared.run0), .str (String.ofList shared.run1)])
  runHex : IsHex 16 shared.run0 ∧ IsHex 16 shared.run1
  nonzero : hexValue shared.run0 ≠ 0 ∨ hexValue shared.run1 ≠ 0
  hexFields : ∀ f ∈ c.hexFields,
    ∃ s, output.get? f = some (.str (String.ofList s)) ∧ IsHex 16 s ∧ hexValue s ≠ 0
  frontier : ∃ completed submitted,
    (output.get? "completed" = some (.str (String.ofList completed)) ∧ IsHex 16 completed) ∧
    (output.get? "submitted" = some (.str (String.ofList submitted)) ∧ IsHex 16 submitted) ∧
    hexValue submitted ≤ hexValue completed
  context : output.get? "context_generation" = some (.str (String.ofList shared.context)) ∧
    IsHex 16 shared.context
  session : output.get? "session" = some (.str (String.ofList shared.session)) ∧
    IsHex 16 shared.session
  copy : ∃ copied sha256, output.get? "copied" = some copied ∧ output.get? "sha256" = some sha256 ∧
    CopyOk copied sha256

lemma checkOutput_ok {at_ : String} :
    c.checkOutput at_ shared output = .ok identity ↔
      OutputOk c output identity ∧ (shared = none ∨ shared = some identity) := by
  simp only [Collector.checkOutput, Except.bind_ok, need_ok, forEach_ok, Json.item_ok, uint_ok,
    runOf_ok, hex_ok, checkCopy_ok, Except.pure_ok]
  constructor
  · rintro ⟨-, hkeys, -, huints, _, hrun, ⟨r₀, r₁⟩, rfl, run0, ⟨rfl, hrun0⟩, run1, ⟨rfl, hrun1⟩, -,
      hnonzero, -, hfields, _, hcompleted, completed, ⟨rfl, hcompleted'⟩, _, hsubmitted, submitted,
      ⟨rfl, hsubmitted'⟩, -, hfrontier, _, hcontext, context, ⟨rfl, hcontext'⟩, _, hsession, session,
      ⟨rfl, hsession'⟩, -, hshared, copied, hcopied, sha256, hsha256, -, hcopy, rfl⟩
    refine ⟨⟨hkeys, fun p hp => ?_, hrun, ⟨hrun0, hrun1⟩, hnonzero, fun f hf => ?_, ⟨completed,
      submitted, ⟨hcompleted, hcompleted'⟩, ⟨hsubmitted, hsubmitted'⟩, hfrontier⟩,
      ⟨hcontext, hcontext'⟩, ⟨hsession, hsession'⟩, ⟨copied, sha256, hcopied, hsha256, hcopy⟩⟩, hshared⟩
    · obtain ⟨_, hget, n, ⟨rfl, hn⟩, -⟩ := huints p hp
      exact ⟨n, hget, hn⟩
    · obtain ⟨_, hget, s, ⟨rfl, hs⟩, hne⟩ := hfields f hf
      exact ⟨s, hget, hs, hne⟩
  · rintro ⟨h, hshared⟩
    obtain ⟨completed, submitted, hcompleted, hsubmitted, hfrontier⟩ := h.frontier
    obtain ⟨copied, sha256, hcopied, hsha256, hcopy⟩ := h.copy
    refine ⟨(), h.keys, (), fun p hp => ?_, _, h.run, ⟨_, _⟩, rfl, _, ⟨rfl, h.runHex.1⟩, _,
      ⟨rfl, h.runHex.2⟩, (), h.nonzero, (), fun f hf => ?_, _, hcompleted.1, _, ⟨rfl, hcompleted.2⟩, _,
      hsubmitted.1, _, ⟨rfl, hsubmitted.2⟩, (), hfrontier, _, h.context.1, _, ⟨rfl, h.context.2⟩, _,
      h.session.1, _, ⟨rfl, h.session.2⟩, (), hshared, copied, hcopied, sha256, hsha256, (), hcopy, rfl⟩
    · obtain ⟨n, hget, hn⟩ := h.uints p hp
      exact ⟨_, hget, n, ⟨rfl, hn⟩, trivial⟩
    · obtain ⟨s, hget, hs, hne⟩ := h.hexFields f hf
      exact ⟨_, hget, s, ⟨rfl, hs⟩, hne⟩

lemma checkOutputs_ok {index : ℕ} {u : Unit} :
    c.checkOutputs index shared outputs = .ok u ↔
      outputs = [] ∨ ∃ identity, (shared = none ∨ shared = some identity) ∧
        ∀ output ∈ outputs, OutputOk c output identity := by
  induction outputs generalizing index shared with
  | nil => simp [Collector.checkOutputs]
  | cons output outputs ih =>
      simp only [Collector.checkOutputs, Except.bind_ok, checkOutput_ok, ih]
      constructor
      · rintro ⟨identity, ⟨hok, hshared⟩, rfl | ⟨_, hsome | hsome, hrest⟩⟩
        · refine .inr ⟨identity, hshared, fun o ho => ?_⟩
          rwa [List.mem_singleton.mp ho]
        · exact absurd hsome (Option.some_ne_none identity)
        · obtain rfl := Option.some.inj hsome
          exact .inr ⟨identity, hshared, List.forall_mem_cons.mpr ⟨hok, hrest⟩⟩
      · rintro (hnil | ⟨identity, hshared, hall⟩)
        · exact absurd hnil (List.cons_ne_nil output outputs)
        · obtain ⟨hok, hrest⟩ := List.forall_mem_cons.mp hall
          exact ⟨identity, ⟨hok, hshared⟩, .inr ⟨identity, .inr rfl, hrest⟩⟩

lemma outputsOf_ok {count : Json} {p : List Json × ℤ} :
    outputsOf value count = .ok p ↔ value = .arr p.1 ∧ count = .int p.2 := by
  obtain ⟨xs, n⟩ := p
  unfold outputsOf
  split
  · simp
  · next h => exact ⟨fun heq => (nomatch heq), fun heq => absurd heq.2 (h xs n heq.1)⟩

/-- A document that a collector accepts, apart from the request. -/
structure DocumentOk (c : Collector) (document : Json) (outputs : List Json) : Prop where
  keys : hasKeys ["schema", "count", "outputs"] document = true
  schema : document.get? "schema" = some (.str c.schema)
  array : document.get? "outputs" = some (.arr outputs)
  count : document.get? "count" = some (.int outputs.length)
  length : 1 ≤ outputs.length ∧ outputs.length ≤ 8
  shared : ∃ identity, ∀ output ∈ outputs, OutputOk c output identity

/-- **What the loop accepts** is a document of the schema whose outputs share an identity. -/
theorem document_ok : c.document document = .ok outputs ↔ DocumentOk c document outputs := by
  simp only [Collector.document, Except.bind_ok, need_ok, Json.item_ok, Json.eqStr_iff, outputsOf_ok,
    checkOutputs_ok, Except.pure_ok]
  constructor
  · rintro ⟨-, hkeys, _, hschema, -, rfl, _, houtputs, _, hcount, ⟨xs, n⟩, ⟨rfl, rfl⟩, -,
      ⟨hlow, hhigh, hlength⟩, -, hall, rfl⟩
    obtain rfl : n = xs.length := hlength
    refine ⟨hkeys, hschema, houtputs, hcount, ⟨Int.ofNat_le.mp hlow, Int.ofNat_le.mp hhigh⟩, ?_⟩
    rcases hall with rfl | ⟨identity, -, hall⟩
    · exact absurd hlow (by decide)
    · exact ⟨identity, hall⟩
  · intro h
    obtain ⟨identity, hall⟩ := h.shared
    obtain ⟨hlow, hhigh⟩ := h.length
    exact ⟨(), h.keys, _, h.schema, (), rfl, _, h.array, _, h.count, ⟨outputs, outputs.length⟩,
      ⟨rfl, rfl⟩, (), ⟨by omega, by omega, rfl⟩, (), .inr ⟨identity, .inl trivial, hall⟩, rfl⟩

/-- A request that is in order. -/
def Requested (bound : ℤ) (expected : List ℤ) : Prop :=
  1 ≤ expected.length ∧ expected.length ≤ 8 ∧ (∀ n ∈ expected, 0 ≤ n ∧ n < bound) ∧ expected.Nodup

lemma checkMode_ok {copy : Bool} {u : Unit} :
    checkMode (some copy) outputs = .ok u ↔
      ∀ output ∈ outputs, output.get? "copied" = some (.bool copy) := by
  have hbool : ∀ j, isBool copy j = true ↔ j = .bool copy := by
    intro j
    cases j <;> simp [isBool]
  simp only [checkMode, forEach_ok, Except.bind_ok, Json.item_ok, need_ok, hbool]
  refine forall₂_congr fun output _ => ⟨?_, fun h => ⟨_, h, rfl⟩⟩
  rintro ⟨_, hget, rfl⟩
  exact hget

lemma numberOf_ok {n : ℤ} : numberOf value = .ok n ↔ value = .int n := by
  cases value <;> simp [numberOf]

lemma textOf_ok {s : String} : textOf value = .ok s ↔ value = .str s := by
  cases value <;> simp [textOf]

/-- The lists that the loop has put together. -/
lemma mapM_item_ok {α : Type} {read : Json → Read α} {wrap : α → Json} {name : String}
    (hread : ∀ {j a}, read j = .ok a ↔ j = wrap a) {xs : List α} :
    (outputs.mapM fun output => do read (← output.item name)) = .ok xs ↔
      List.Forall₂ (fun output x => output.get? name = some (wrap x)) outputs xs := by
  induction outputs generalizing xs with
  | nil =>
      rw [List.mapM_nil, Except.pure_ok, List.forall₂_nil_left_iff]
      exact eq_comm
  | cons output outputs ih =>
      rw [List.mapM_cons]
      simp only [Except.bind_ok, Json.item_ok, hread, ih, Except.pure_ok, List.forall₂_cons_left_iff]
      constructor
      · rintro ⟨x, ⟨_, hget, rfl⟩, xs, hrest, rfl⟩
        exact ⟨x, xs, hget, hrest, rfl⟩
      · rintro ⟨x, xs, hget, hrest, rfl⟩
        exact ⟨x, ⟨_, hget, rfl⟩, xs, hrest, rfl⟩

/-- **What the VA collector accepts** for a request. -/
theorem Va.parseReport_ok {data : List UInt8} {expected : List ℤ} {copy : Bool} {report : Json} :
    Va.parseReport data (some expected) (some copy) = .ok report ↔
      Requested 0x10000000000000000 expected ∧ record data = .ok report ∧
      ∃ outputs, DocumentOk Va.collector report outputs ∧
        List.Forall₂ (fun output n => output.get? "output_ordinal" = some (.int n)) outputs expected ∧
        ∀ output ∈ outputs, output.get? "copied" = some (.bool copy) := by
  simp only [Va.parseReport, expectations, Except.bind_ok, need_ok, document_ok,
    mapM_item_ok numberOf_ok, checkMode_ok, Except.pure_ok]
  constructor
  · rintro ⟨-, hrequest, document, hrecord, outputs, hdocument, ordinals, hordinals, -, hnodup, -,
      hexpected, -, hmode, rfl⟩
    obtain rfl : expected = ordinals := Option.some.inj (hexpected.resolve_left (Option.some_ne_none _))
    exact ⟨hrequest, hrecord, outputs, hdocument, hordinals, hmode⟩
  · rintro ⟨hrequest, hrecord, outputs, hdocument, hordinals, hmode⟩
    exact ⟨(), hrequest, report, hrecord, outputs, hdocument, expected, hordinals, (),
      hrequest.2.2.2, (), .inr rfl, (), hmode, rfl⟩

lemma Gst.checkFrames_ok {expected frames : List ℤ} {u : Unit} :
    Gst.checkFrames (some expected) frames = .ok u ↔
      ((∀ n ∈ frames, n ∈ expected) ∧ ∀ n ∈ expected, n ∈ frames) ∧
        frames.length = expected.length := by
  simp only [Gst.checkFrames, Except.bind_ok, need_ok]
  exact exists_const Unit

/-- **What the Gst collector accepts** for a request. -/
theorem Gst.parseReport_ok {data : List UInt8} {expected : List ℤ} {copy : Bool} {report : Json} :
    Gst.parseReport data (some expected) (some copy) = .ok report ↔
      Requested 0xffffffff expected ∧ record data = .ok report ∧
      ∃ outputs frames requests, DocumentOk Gst.collector report outputs ∧
        List.Forall₂ (fun output n => output.get? "system_frame_number" = some (.int n)) outputs
          frames ∧
        List.Forall₂ (fun output s => output.get? "request" = some (.str s)) outputs requests ∧
        frames.Nodup ∧ requests.Nodup ∧
        (((∀ n ∈ frames, n ∈ expected) ∧ ∀ n ∈ expected, n ∈ frames) ∧
          frames.length = expected.length) ∧
        ∀ output ∈ outputs, output.get? "copied" = some (.bool copy) := by
  simp only [Gst.parseReport, expectations, Except.bind_ok, need_ok, document_ok,
    mapM_item_ok numberOf_ok, mapM_item_ok textOf_ok, checkMode_ok, Gst.checkFrames_ok,
    Except.pure_ok]
  constructor
  · rintro ⟨-, hrequest, document, hrecord, outputs, hdocument, frames, hframes, requests, hrequests,
      -, hnodup, -, hnodup', -, hexpected, -, hmode, rfl⟩
    exact ⟨hrequest, hrecord, outputs, frames, requests, hdocument, hframes, hrequests, hnodup,
      hnodup', hexpected, hmode⟩
  · rintro ⟨hrequest, hrecord, outputs, frames, requests, hdocument, hframes, hrequests, hnodup,
      hnodup', hexpected, hmode⟩
    exact ⟨(), hrequest, report, hrecord, outputs, hdocument, frames, hframes, requests, hrequests, (),
      hnodup, (), hnodup', (), hexpected, (), hmode, rfl⟩

end Accepted

end OmarchyM1Video.ReferenceContent
