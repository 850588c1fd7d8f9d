import OmarchyM1Video.ReferenceContent.Collectors
import OmarchyM1Video.ReferenceContent.Pool

/-!
The join's own check of an observer report: `validate_report` of `same-run/join.py`.

* `hex`, `uint`: the checks of a field, which may have to be nonzero;
* `checkOutput`, `checkOutputs`, `validateReport`: the check;
* `ReportOutput`, `ValidReport`: what an accepted report is.
-/

namespace OmarchyM1Video.SameRun

open OmarchyM1Video.Py
open OmarchyM1Video.ReferenceContent (Client Shared IsHex hasKeys)

/-! ### Fields -/

/-- `JoinError(message)`. -/
structure JoinError where
  message : String
  deriving DecidableEq

/-- What the join computes. -/
abbrev Join (α : Type) := Except (Exc JoinError) α

/-- `raise JoinError(message)`. -/
def refusal (message : String) : Exc JoinError := .raise ⟨message⟩

/-- `value.get(name)`. -/
def getOr (j : Json) (name : String) : Json := (j.get? name).getD .null

/-- `_uint(value, bits, name, nonzero=nonzero)`. -/
def uint (value : Json) (bits : ℕ) (name : String) (nonzero : Bool) : Join ℤ :=
  match value with
  | .int n =>
      if 0 ≤ n ∧ n < (1 <<< bits : ℕ) then do
        need (nonzero = false ∨ n ≠ 0) (refusal (name ++ " must be nonzero"))
        return n
      else .error (refusal (name ++ " is not uint" ++ toString bits))
  | _ => .error (refusal (name ++ " is not uint" ++ toString bits))

/-- `_hex(value, digits, name, nonzero=nonzero)`. -/
def hex (value : Json) (digits : ℕ) (name : String) (nonzero : Bool) : Join (List Char) :=
  match value with
  | .str s =>
      if IsHex digits s.toList then do
        need (nonzero = false ∨ hexValue s.toList ≠ 0) (refusal (name ++ " must be nonzero"))
        return s.toList
      else .error (refusal (name ++ " is not " ++ toString digits ++ " lowercase hexadecimal digits"))
  | _ => .error (refusal (name ++ " is not " ++ toString digits ++ " lowercase hexadecimal digits"))

/-! ### The report -/

/-- `VA_SCHEMA`, `GST_SCHEMA`. -/
def schema : Client → String
  | .va => "omarchy.hevc.va-observer-result/v1"
  | .gst => "omarchy.hevc.gst-observer-result/v1"

/-- `REPORT_COMMON_KEYS`. -/
def reportCommonKeys : List String :=
  ["run", "context_generation", "session", "allocation_generation", "writer", "submitted", "completed",
    "capture_index", "copied", "sha256"]

/-- `VA_REPORT_KEYS`, `GST_REPORT_KEYS`. -/
def reportKeys : Client → List String
  | .va => reportCommonKeys ++ ["output_ordinal", "surface"]
  | .gst => reportCommonKeys ++ ["system_frame_number", "request"]

/-- `coordinate`, with its width. -/
def coordinate : Client → String × ℕ
  | .va => ("output_ordinal", 64)
  | .gst => ("system_frame_number", 32)

/-- The two elements of `run`. -/
def runOf (value : Json) (at_ : String) : Join (Json × Json) :=
  match value with
  | .arr [r₀, r₁] => .ok (r₀, r₁)
  | _ => .error (refusal (at_ ++ ".run has wrong shape"))

/-- `_report_identity(output, prefix)`. -/
def reportIdentity (output : Json) (at_ : String) : Join Shared := do
  let (r₀, r₁) ← runOf (getOr output "run") at_
  let run0 ← hex r₀ 16 (at_ ++ ".run[0]") true
  let run1 ← hex r₁ 16 (at_ ++ ".run[1]") true
  let context ← hex (getOr output "context_generation") 16 (at_ ++ ".context_generation") true
  let session ← hex (getOr output "session") 16 (at_ ++ ".session") true
  return ⟨run0, run1, context, session⟩

/-- `value is None`. -/
def isNull : Json → Bool
  | .null => true
  | _ => false

/-- The check of the digest. -/
def checkDigest (copy : Bool) (output : Json) (at_ : String) : Join Unit :=
  if copy then do
    let _ ← hex (getOr output "sha256") 64 (at_ ++ ".sha256") false
  else need (isNull (getOr output "sha256") = true) (refusal (at_ ++ " exposes a copy-off digest"))

/-- The check of the field that only this client has. -/
def checkOwn (client : Client) (output : Json) (at_ : String) : Join Unit :=
  match client with
  | .gst => do
      let _ ← hex (getOr output "request") 16 (at_ ++ ".request") true
  | .va => do
      let _ ← uint (getOr output "surface") 32 (at_ ++ ".surface") false

/-- The body of the loop: the coordinate and the identity of an output. -/
def checkOutput (client : Client) (copy : Bool) (index : ℕ) (common : Option Shared) (output : Json) :
    Join (ℤ × Shared) := do
  let at_ := "outputs[" ++ toString index ++ "]"
  need (hasKeys (reportKeys client) output = true)
    (refusal ("observer output " ++ toString index ++ " has unexpected fields"))
  let observed ← uint (getOr output (coordinate client).1) (coordinate client).2
    ("observer output " ++ toString index ++ " coordinate") false
  let identity ← reportIdentity output at_
  need (common = none ∨ common = some identity)
    (refusal "observer report mixes run/context/session identity")
  let _ ← hex (getOr output "allocation_generation") 16 (at_ ++ ".allocation_generation") true
  let _ ← hex (getOr output "writer") 16 (at_ ++ ".writer") true
  let submitted ← hex (getOr output "submitted") 16 (at_ ++ ".submitted") true
  let completed ← hex (getOr output "completed") 16 (at_ ++ ".completed") true
  need (hexValue completed = hexValue submitted)
    (refusal (at_ ++ " is not at a drained completion frontier"))
  let _ ← uint (getOr output "capture_index") 32 (at_ ++ ".capture_index") false
  need (ReferenceContent.isBool copy (getOr output "copied") = true)
    (refusal (at_ ++ " has the wrong copy mode"))
  checkDigest copy output at_
  checkOwn client output at_
  return (observed, identity)

/-- The loop over the outputs, from the one of this index on: `observed`. -/
def checkOutputs (client : Client) (copy : Bool) : ℕ → Option Shared → List Json → Join (List ℤ)
  | _, _, [] => .ok []
  | index, common, output :: outputs => do
      let (observed, identity) ← checkOutput client copy index common output
      let rest ← checkOutputs client copy (index + 1) (some identity) outputs
      return observed :: rest

/-- The outputs, if there are as many as counted and as selected. -/
def outputsOf (outputs count : Json) (selectors : List ℤ) : Join (List Json) :=
  match outputs with
  | .arr xs => do
      need (count.eqInt xs.length = true ∧ xs.length = selectors.length)
        (refusal "observer report count differs from the requested selection")
      return xs
  | _ => .error (refusal "observer report count differs from the requested selection")

/-- The comparison with the request at the end. -/
def checkSelection (client : Client) (selectors observed : List ℤ) : Join Unit :=
  match client with
  | .va => need (observed = selectors) (refusal "VA observer ordinals differ from requested order")
  | .gst =>
      need ((∀ n ∈ observed, n ∈ selectors) ∧ ∀ n ∈ selectors, n ∈ observed)
        (refusal "Gst observer frames differ from requested set")

/-- `validate_report(document, client, selectors, copy)`. -/
def validateReport (document : Json) (client : Client) (selectors : List ℤ) (copy : Bool) :
    Join (List Json) := do
  need (hasKeys ["schema", "count", "outputs"] document = true)
    (refusal "observer report has unexpected top-level fields")
  need ((← document.item "schema").eqStr (schema client) = true)
    (refusal "observer report has wrong client schema")
  let outputs ← outputsOf (← document.item "outputs") (← document.item "count") selectors
  need (1 ≤ selectors.length ∧ selectors.length ≤ 8 ∧ selectors.Nodup)
    (refusal "selectors are not one to eight unique values")
  let observed ← checkOutputs client copy 0 none outputs
  checkSelection client selectors observed
  return outputs

/-! ### What is accepted -/

section Accepted

variable {client : Client} {copy nonzero : Bool} {value output document : Json} {outputs : List Json}
  {common : Option Shared} {identity : Shared} {name at_ : String} {selectors : List ℤ}

lemma hex_ok {digits : ℕ} {s : List Char} :
    hex value digits name nonzero = .ok s ↔
      value = .str (String.ofList s) ∧ IsHex digits s ∧ (nonzero = true → hexValue s ≠ 0) := by
  have hbool : (nonzero = false ∨ hexValue s ≠ 0) ↔ (nonzero = true → hexValue s ≠ 0) := by
    cases nonzero <;> simp
  cases value with
  | str t =>
      rw [← ReferenceContent.str_eq_iff, hex]
      split_ifs with h
      · simp only [Except.bind_ok, need_ok, Except.pure_ok]
        constructor
        · rintro ⟨-, hne, rfl⟩
          exact ⟨rfl, h, hbool.mp hne⟩
        · rintro ⟨rfl, -, hne⟩
          exact ⟨(), hbool.mpr hne, rfl⟩
      · refine ⟨fun heq => ?_, fun heq => absurd (heq.1 ▸ heq.2.1) h⟩
        cases heq
  | _ =>
      refine ⟨fun heq => ?_, fun heq => ?_⟩
      · cases heq
      · cases heq.1

lemma uint_ok {bits : ℕ} {n : ℤ} :
    uint value bits name false = .ok n ↔ value = .int n ∧ 0 ≤ n ∧ n < (1 <<< bits : ℕ) := by
  cases value with
  | int m =>
      rw [uint, Json.int.injEq]
      split_ifs with h
      · simp only [Except.bind_ok, need_ok, Except.pure_ok]
        constructor
        · rintro ⟨-, -, rfl⟩
          exact ⟨rfl, h⟩
        · rintro ⟨rfl, -⟩
          exact ⟨(), .inl trivial, rfl⟩
      · refine ⟨fun heq => ?_, fun heq => absurd (heq.1 ▸ heq.2) h⟩
        cases heq
  | _ =>
      refine ⟨fun heq => ?_, fun heq => ?_⟩
      · cases heq
      · cases heq.1

lemma runOf_ok {r : Json × Json} : runOf value at_ = .ok r ↔ value = .arr [r.1, r.2] := by
  obtain ⟨r₀, r₁⟩ := r
  unfold runOf
  split
  · simp
  · next h => exact ⟨fun heq => (nomatch heq), fun heq => absurd heq (h r₀ r₁)⟩

lemma getOr_eq (hvalue : value ≠ .null) :
    getOr output name = value ↔ output.get? name = some value := by
  rw [getOr]
  cases output.get? name with
  | none => exact ⟨fun h => absurd h.symm hvalue, fun h => absurd h.symm (Option.some_ne_none value)⟩
  | some v => rw [Option.getD_some, Option.some.injEq]

lemma getOr_str {s : String} : getOr output name = .str s ↔ output.get? name = some (.str s) :=
  getOr_eq fun h => (nomatch h)

lemma getOr_int {n : ℤ} : getOr output name = .int n ↔ output.get? name = some (.int n) :=
  getOr_eq fun h => (nomatch h)

lemma getOr_arr {xs : List Json} : getOr output name = .arr xs ↔ output.get? name = some (.arr xs) :=
  getOr_eq fun h => (nomatch h)

lemma getOr_bool {b : Bool} : getOr output name = .bool b ↔ output.get? name = some (.bool b) :=
  getOr_eq fun h => (nomatch h)

/-- A field of hexadecimal digits that is not zero. -/
def NonzeroHex (output : Json) (name : String) (s : List Char) : Prop :=
  output.get? name = some (.str (String.ofList s)) ∧ IsHex 16 s ∧ hexValue s ≠ 0

lemma hex_getOr {s : List Char} {field : String} :
    hex (getOr output field) 16 name true = .ok s ↔ NonzeroHex output field s := by
  rw [hex_ok, getOr_str, NonzeroHex]
  simp only [forall_const]

lemma uint_getOr {bits : ℕ} {n : ℤ} {field : String} :
    uint (getOr output field) bits name false = .ok n ↔
      output.get? field = some (.int n) ∧ 0 ≤ n ∧ n < (1 <<< bits : ℕ) := by
  rw [uint_ok, getOr_int]

lemma get_of_hasKeys {keys : List String} (h : hasKeys keys output = true) (hname : name ∈ keys) :
    ∃ v, output.get? name = some v := by
  cases output with
  | obj members =>
      simp only [hasKeys, Bool.and_eq_true, List.all_eq_true, List.any_eq_true, decide_eq_true_eq] at h
      obtain ⟨m, hm, hmname⟩ := h.2 name hname
      have hfind : (members.find? fun p => decide (p.1 = name)).isSome = true := by
        rw [List.find?_isSome]
        exact ⟨m, hm, decide_eq_true hmname⟩
      obtain ⟨found, hfound⟩ := Option.isSome_iff_exists.mp hfind
      exact ⟨found.2, by rw [Json.get?, Json.member?, hfound]; rfl⟩
  | _ => exact absurd h Bool.false_ne_true

/-- What the digest of an output has to be. -/
def DigestOk (output : Json) : Bool → Prop
  | true => ∃ s, output.get? "sha256" = some (.str (String.ofList s)) ∧ IsHex 64 s
  | false => output.get? "sha256" = some .null

/-- What the field has to be that only this client has. -/
def OwnOk (output : Json) : Client → Prop
  | .gst => ∃ s, NonzeroHex output "request" s
  | .va => ∃ n : ℤ, output.get? "surface" = some (.int n) ∧ 0 ≤ n ∧ n < (1 <<< 32 : ℕ)

lemma checkDigest_ok {u : Unit} (hkeys : ∃ v, output.get? "sha256" = some v) :
    checkDigest copy output at_ = .ok u ↔ DigestOk output copy := by
  obtain ⟨v, hv⟩ := hkeys
  have hget : getOr output "sha256" = v := by rw [getOr, hv, Option.getD_some]
  cases copy with
  | true =>
      rw [checkDigest, if_pos rfl, hget]
      simp only [Except.bind_ok, Except.pure_ok, hex_ok, DigestOk, hv, Option.some.injEq, and_true,
        Bool.false_eq_true, false_implies]
  | false =>
      simp only [checkDigest, hget, DigestOk, hv, Bool.false_eq_true, if_false, need_ok, Option.some.injEq]
      cases v <;> simp [isNull]

lemma checkOwn_ok {u : Unit} : checkOwn client output at_ = .ok u ↔ OwnOk output client := by
  cases client with
  | va => simp only [checkOwn, OwnOk, Except.bind_ok, Except.pure_ok, uint_getOr, and_true]
  | gst => simp only [checkOwn, OwnOk, Except.bind_ok, Except.pure_ok, hex_getOr, and_true]

/-- An output that the join accepts, with its coordinate and its identity. -/
structure ReportOutput (client : Client) (copy : Bool) (output : Json) (n : ℤ) (shared : Shared) :
    Prop where
  keys : hasKeys (reportKeys client) output = true
  coordinate : output.get? (coordinate client).1 = some (.int n) ∧ 0 ≤ n ∧
    n < (1 <<< (coordinate client).2 : ℕ)
  run : output.get? "run" =
    some (.arr [.str (String.ofList shared.run0), .str (String.ofList shared.run1)])
  run0 : IsHex 16 shared.run0 ∧ hexValue shared.run0 ≠ 0
  run1 : IsHex 16 shared.run1 ∧ hexValue shared.run1 ≠ 0
  context : NonzeroHex output "context_generation" shared.context
  session : NonzeroHex output "session" shared.session
  allocation : ∃ s, NonzeroHex output "allocation_generation" s
  writer : ∃ s, NonzeroHex output "writer" s
  frontier : ∃ submitted completed, NonzeroHex output "submitted" submitted ∧
    NonzeroHex output "completed" completed ∧ hexValue completed = hexValue submitted
  capture : ∃ m : ℤ, output.get? "capture_index" = some (.int m) ∧ 0 ≤ m ∧ m < (1 <<< 32 : ℕ)
  copied : output.get? "copied" = some (.bool copy)
  digest : DigestOk output copy
  own : OwnOk output client

lemma reportIdentity_ok : reportIdentity output at_ = .ok identity ↔
    output.get? "run" =
      some (.arr [.str (String.ofList identity.run0), .str (String.ofList identity.run1)]) ∧
    (IsHex 16 identity.run0 ∧ hexValue identity.run0 ≠ 0) ∧
    (IsHex 16 identity.run1 ∧ hexValue identity.run1 ≠ 0) ∧
    NonzeroHex output "context_generation" identity.context ∧
    NonzeroHex output "session" identity.session := by
  simp only [reportIdentity, Except.bind_ok, runOf_ok, hex_ok, getOr_str, getOr_arr, Except.pure_ok,
    forall_const, NonzeroHex]
  constructor
  · rintro ⟨⟨r₀, r₁⟩, hrun, run0, ⟨rfl, hrun0⟩, run1, ⟨rfl, hrun1⟩, context, hcontext, session, hsession,
      rfl⟩
    exact ⟨hrun, hrun0, hrun1, hcontext, hsession⟩
  · rintro ⟨hrun, hrun0, hrun1, hcontext, hsession⟩
    exact ⟨(_, _), hrun, _, ⟨rfl, hrun0⟩, _, ⟨rfl, hrun1⟩, _, hcontext, _, hsession, rfl⟩

lemma checkOutput_ok {index : ℕ} {n : ℤ} :
    checkOutput client copy index common output = .ok (n, identity) ↔
      ReportOutput client copy output n identity ∧ (common = none ∨ common = some identity) := by
  have hbool : ReferenceContent.isBool copy (getOr output "copied") = true ↔
      output.get? "copied" = some (.bool copy) := by
    rw [← getOr_bool]
    cases getOr output "copied" <;> simp [ReferenceContent.isBool]
  have hsha : hasKeys (reportKeys client) output = true → ∃ v, output.get? "sha256" = some v :=
    fun hkeys => get_of_hasKeys hkeys (by cases client <;> decide)
  simp only [checkOutput, Except.bind_ok, need_ok, uint_getOr, reportIdentity_ok, hex_getOr, hbool,
    checkOwn_ok, Except.pure_ok, Prod.mk.injEq]
  constructor
  · rintro ⟨-, hkeys, _, hcoordinate, _, ⟨hrun, hrun0, hrun1, hcontext, hsession⟩, -, hcommon, _,
      hallocation, _, hwriter, _, hsubmitted, _, hcompleted, -, hfrontier, _, hcapture, -, hcopied, _,
      hdigest, -, hown, rfl, rfl⟩
    exact ⟨⟨hkeys, hcoordinate, hrun, hrun0, hrun1, hcontext, hsession, ⟨_, hallocation⟩, ⟨_, hwriter⟩,
      ⟨_, _, hsubmitted, hcompleted, hfrontier⟩, ⟨_, hcapture⟩, hcopied,
      (checkDigest_ok (hsha hkeys)).mp hdigest, hown⟩, hcommon⟩
  · rintro ⟨h, hcommon⟩
    obtain ⟨_, hallocation⟩ := h.allocation
    obtain ⟨_, hwriter⟩ := h.writer
    obtain ⟨_, _, hsubmitted, hcompleted, hfrontier⟩ := h.frontier
    obtain ⟨_, hcapture⟩ := h.capture
    exact ⟨(), h.keys, _, h.coordinate, _, ⟨h.run, h.run0, h.run1, h.context, h.session⟩, (), hcommon, _,
      hallocation, _, hwriter, _, hsubmitted, _, hcompleted, (), hfrontier, _, hcapture, (), h.copied, (),
      (checkDigest_ok (hsha h.keys)).mpr h.digest, (), h.own, rfl, rfl⟩

lemma checkOutputs_ok {index : ℕ} {observed : List ℤ} :
    checkOutputs client copy index common outputs = .ok observed ↔
      outputs = [] ∧ observed = [] ∨ ∃ identity, (common = none ∨ common = some identity) ∧
        outputs ≠ [] ∧
        List.Forall₂ (fun output n => ReportOutput client copy output n identity) outputs observed := by
  induction outputs generalizing index common observed with
  | nil => simp [checkOutputs, eq_comm]
  | cons output outputs ih =>
      simp only [checkOutputs, Except.bind_ok, Prod.exists, checkOutput_ok, ih, Except.pure_ok]
      constructor
      · rintro ⟨n, identity, ⟨hok, hcommon⟩, rest, ⟨rfl, rfl⟩ | ⟨_, hsome | hsome, hne, hrest⟩, rfl⟩
        · exact .inr ⟨identity, hcommon, List.cons_ne_nil _ _, .cons hok .nil⟩
        · exact absurd hsome (Option.some_ne_none identity)
        · obtain rfl := Option.some.inj hsome
          exact .inr ⟨identity, hcommon, List.cons_ne_nil _ _, .cons hok hrest⟩
      · rintro (⟨hnil, -⟩ | ⟨identity, hcommon, -, hall⟩)
        · exact absurd hnil (List.cons_ne_nil output outputs)
        · obtain ⟨n, rest, hok, hrest, rfl⟩ := List.forall₂_cons_left_iff.mp hall
          refine ⟨n, identity, ⟨hok, hcommon⟩, rest, ?_, rfl⟩
          rcases outputs with _ | ⟨next, outputs⟩
          · exact .inl ⟨rfl, List.forall₂_nil_left_iff.mp hrest⟩
          · exact .inr ⟨identity, .inr rfl, List.cons_ne_nil _ _, hrest⟩

/-- What the observed coordinates have to be. -/
def SelectionOk (selectors observed : List ℤ) : Client → Prop
  | .va => observed = selectors
  | .gst => (∀ n ∈ observed, n ∈ selectors) ∧ ∀ n ∈ selectors, n ∈ observed

lemma checkSelection_ok {observed : List ℤ} {u : Unit} :
    checkSelection client selectors observed = .ok u ↔ SelectionOk selectors observed client := by
  cases client <;> simp only [checkSelection, SelectionOk, need_ok]

/-- A report that the join accepts. -/
structure ValidReport (client : Client) (selectors : List ℤ) (copy : Bool) (document : Json)
    (outputs : List Json) (observed : List ℤ) (shared : Shared) : Prop where
  keys : hasKeys ["schema", "count", "outputs"] document = true
  schema : document.get? "schema" = some (.str (schema client))
  array : document.get? "outputs" = some (.arr outputs)
  count : ∃ n, document.get? "count" = some n ∧ n.eqInt outputs.length = true
  length : outputs.length = selectors.length
  requested : 1 ≤ selectors.length ∧ selectors.length ≤ 8 ∧ selectors.Nodup
  outputs : List.Forall₂ (fun output n => ReportOutput client copy output n shared) outputs observed
  selection : SelectionOk selectors observed client

lemma outputsOf_ok {count : Json} :
    outputsOf value count selectors = .ok outputs ↔
      value = .arr outputs ∧ count.eqInt outputs.length = true ∧
        outputs.length = selectors.length := by
  unfold outputsOf
  split
  · next xs =>
      simp only [Except.bind_ok, need_ok, Except.pure_ok, Json.arr.injEq]
      constructor
      · rintro ⟨-, h, rfl⟩
        exact ⟨rfl, h⟩
      · rintro ⟨rfl, h⟩
        exact ⟨(), h, rfl⟩
  · next h =>
      refine ⟨fun heq => ?_, fun heq => absurd heq.1 (h outputs)⟩
      cases heq

/-- **What the join accepts** as a report. -/
theorem validateReport_ok :
    validateReport document client selectors copy = .ok outputs ↔
      ∃ observed shared, ValidReport client selectors copy document outputs observed shared := by
  simp only [validateReport, Except.bind_ok, need_ok, Json.item_ok, Json.eqStr_iff, outputsOf_ok,
    checkOutputs_ok, checkSelection_ok, Except.pure_ok]
  constructor
  · rintro ⟨-, hkeys, _, hschema, -, rfl, _, harray, count, hcount, _, ⟨rfl, heq, hlength⟩, -,
      hrequested, observed, hall, -, hselection, rfl⟩
    rcases hall with ⟨rfl, -⟩ | ⟨identity, -, -, hall⟩
    · exact absurd hrequested.1 (by rw [← hlength]; decide)
    · exact ⟨observed, identity, hkeys, hschema, harray, ⟨count, hcount, heq⟩, hlength, hrequested, hall,
        hselection⟩
  · rintro ⟨observed, identity, h⟩
    obtain ⟨count, hcount, heq⟩ := h.count
    have hne : outputs ≠ [] := by
      rintro rfl
      exact absurd (h.length ▸ h.requested.1) (by decide)
    exact ⟨(), h.keys, _, h.schema, (), rfl, _, h.array, count, hcount, _, ⟨rfl, heq, h.length⟩, (),
      h.requested, observed, .inr ⟨identity, .inl trivial, hne, h.outputs⟩, (), h.selection, rfl⟩

end Accepted

end OmarchyM1Video.SameRun
