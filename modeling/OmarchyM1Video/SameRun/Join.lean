import OmarchyM1Video.SameRun.Evidence

/-!
The join of one client's report with the kernel evidence: `join_va` and `join_gst` of `same-run/join.py`.

* `selectVa`, `selectGst`: the entry of an output, which the two clients reach on different ways;
* `dumps`, `result`: the document, and its last checks;
* `joinVa`, `joinGst`: the two joins.
-/

namespace OmarchyM1Video.SameRun

open OmarchyM1Video.Py
open OmarchyM1Video.ReferenceContent (Client)

/-! ### Entries -/

/-- An entry of the result. -/
structure Selected where
  domain : String
  value : ℤ
  client : List (String × Json)
  picture : ℤ
  poc : ℤ
  captureIndex : Json
  surfaceGeneration : Option String
  kernelAllocation : String

/-- `_client_public(output, client)`. -/
def clientPublic (output : Json) (client : Client) : Join (List (String × Json)) :=
  let own := match client with
    | .va => "surface"
    | .gst => "request"
  (["run", "context_generation", "session", "allocation_generation", "writer", "submitted", "completed",
    "capture_index", "copied", "sha256"] ++ [own]).mapM fun name => do
      let value ← output.item name
      return (name, value)

/-- `output[name]`, an integer. -/
def intItem (output : Json) (name : String) : Join ℤ := do
  match ← output.item name with
  | .int n => return n
  | _ => .error (.builtin .typeError)

/-- `output[name]`, a text. -/
def textItem (output : Json) (name : String) : Join (List Char) := do
  match ← output.item name with
  | .str s => return s.toList
  | _ => .error (.builtin .typeError)

/-- `int(output[name], 16)`. -/
def hexItem (output : Json) (name : String) : Join ℕ := do
  let text ← textItem output name
  return hexValue text

/-- `output["run"]`, of two texts. -/
def runItem (output : Json) : Join (List Char × List Char) := do
  match ← output.item "run" with
  | .arr [.str r₀, .str r₁] => return (r₀.toList, r₁.toList)
  | _ => .error (.builtin .typeError)

/-! ### The VA client -/

/-- The loop over the queue and the requests, from the row of this number on. -/
def checkProjection : ℕ → List (Json × VaIdentity) → List Json → Join Unit
  | number, (actual, _) :: queue, expected :: requests => do
      need ((vaProjection actual).same (vaProjection expected) = true)
        (refusal ("VA queue row " ++ toString number ++ " is not the raw V4L2 request from this process"))
      checkProjection (number + 1) queue requests
  | _, _, _ => .ok ()

/-- The entry of an output. -/
def selectVa (e : KernelEvidence) (queue : List (Json × VaIdentity)) (rows : List Association)
    (output : Json) : Join Selected := do
  let ordinal ← intItem output "output_ordinal"
  let association ← found (rows.find? fun row => (row.outputIndex : ℤ) = ordinal)
    (refusal ("VA output ordinal " ++ intText ordinal ++ " is not associated"))
  let picture := association.pic
  let (row, observer) ← found queue[(picture - 1).toNat]? (.builtin .indexError)
  let run ← runItem output
  need (observer.run = run.1 ++ run.2) (refusal "VA report/queue run mismatch")
  need (observer.context = (← hexItem output "context_generation"))
    (refusal "VA report/queue context mismatch")
  need (observer.allocation = (← hexItem output "allocation_generation"))
    (refusal "VA report/queue allocation mismatch")
  need (observer.writer = (← hexItem output "writer")) (refusal "VA report/queue writer mismatch")
  let capture ← output.item "capture_index"
  need ((← row.item "target").same capture = true) (refusal "VA report/queue capture mismatch")
  need ((← row.item "poc").eqInt association.poc = true) (refusal "VA queue/output POC mismatch")
  let (start, _) ← referencePair e picture capture
  let client ← clientPublic output .va
  let allocation ← found (start.get? "allocation") (.builtin .keyError)
  return { domain := "output_ordinal", value := ordinal, client, picture, poc := association.poc,
           captureIndex := capture, surfaceGeneration := some (intText observer.surface),
           kernelAllocation := intText allocation }

/-! ### The Gst client -/

/-- A row of the queue with its picture. -/
structure Bridged where
  row : GstRow
  picture : ℤ
  poc : ℤ

/-- The last row of the requests that has this picture. -/
def requestOf (e : KernelEvidence) (picture : ℤ) : Option Json :=
  e.requests.reverse.find? fun row => (row.get? "pic").any (Json.eqInt picture)

/-- The last row of the raw associations that has this frame. -/
def rawOf (e : KernelEvidence) (frame : ℤ) : Option (Dict String ℤ) :=
  e.associations.reverse.find? fun row => decide (row.get? "system_frame_number" = some frame)

/-- A row of the queue, with the picture that its frame has in the raw trace. -/
def bridgeOf (e : KernelEvidence) (rows : List Association) (row : GstRow) : Join Bridged := do
  let at_ := "Gst queue frame " ++ toString row.frame
  let raw ← found (rawOf e row.frame) (refusal (at_ ++ " has no raw V4L2 timestamp bridge"))
  let picture ← found (raw.get? "pic") (.builtin .keyError)
  let request ← found (requestOf e picture) (.builtin .keyError)
  need ((← request.item "target").eqInt row.capture = true)
    (refusal (at_ ++ " has the wrong raw V4L2 capture lifetime"))
  need (rows.any (fun association => decide (association.pic = picture)) = true)
    (refusal (at_ ++ " was not delivered by the same process"))
  let poc ← found (raw.get? "poc") (.builtin .keyError)
  return { row, picture, poc }

/-- The loop over the queue: `queue_by_frame`. -/
def bridgeQueue (e : KernelEvidence) (rows : List Association) :
    List GstRow → Dict ℕ Bridged → Join (Dict ℕ Bridged)
  | [], byFrame => .ok byFrame
  | row :: queue, byFrame => do
      let bridged ← bridgeOf e rows row
      bridgeQueue e rows queue (byFrame.set row.frame bridged)

/-- The entry of an output. -/
def selectGst (e : KernelEvidence) (byFrame : Dict ℕ Bridged) (output : Json) : Join Selected := do
  let frame ← intItem output "system_frame_number"
  let bridged ← found (byFrame.get? frame.toNat)
    (refusal ("Gst selected frame " ++ intText frame ++ " has no same-process queue record"))
  let row := bridged.row
  let run ← runItem output
  let context ← hexItem output "context_generation"
  let allocation ← hexItem output "allocation_generation"
  let request ← hexItem output "request"
  let writer ← hexItem output "writer"
  let capture ← output.item "capture_index"
  need (row.run = run ∧ row.context = context ∧ row.allocation = allocation ∧ row.request = request ∧
      row.writer = writer ∧ (row.frame : ℤ) = frame ∧ capture.eqInt row.capture = true)
    (refusal ("Gst report/queue identity mismatch for frame " ++ intText frame))
  let (start, _) ← referencePair e bridged.picture capture
  let client ← clientPublic output .gst
  let kernelAllocation ← found (start.get? "allocation") (.builtin .keyError)
  return { domain := "system_frame_number", value := frame, client, picture := bridged.picture,
           poc := bridged.poc, captureIndex := capture, surfaceGeneration := none,
           kernelAllocation := intText kernelAllocation }

/-! ### The document -/

/-- The joined document. -/
structure JoinResult where
  client : Client
  copy : Bool
  run : ℤ
  context : ℤ
  selected : List Selected
  inputs : List (String × String)

/-- An entry of the document. -/
def Selected.document (s : Selected) : Json :=
  .obj [("selector", .obj [("domain", .str s.domain), ("value", .int s.value)]),
    ("client", .obj s.client),
    ("bridge", .obj ([("picture", Json.int s.picture), ("poc", Json.int s.poc),
      ("capture_index", s.captureIndex)] ++
      s.surfaceGeneration.toList.map (fun text => ("client_surface_generation", Json.str text)) ++
      [("kernel_allocation", Json.str s.kernelAllocation), ("kernel_writer", Json.int s.picture),
        ("kernel_completed", Json.bool true)]))]

/-- `client`. -/
def clientName : Client → String
  | .va => "va"
  | .gst => "gst"

/-- `result`. -/
def JoinResult.document (r : JoinResult) : Json :=
  .obj [("schema", .str "omarchy.hevc.same-run-join/v1"), ("client", .str (clientName r.client)),
    ("copy", .bool r.copy),
    ("kernel", .obj [("run", .str (intText r.run)), ("context", .str (intText r.context))]),
    ("selected", .arr (r.selected.map Selected.document)),
    ("inputs", .obj (r.inputs.map fun p => (p.1, .str p.2)))]

/-- A unit of UTF-16 as `json.dumps` escapes it. -/
def escapedUnit (n : ℕ) : List Char := "\\u".toList ++ hexDigits 4 n

/-- A character in a string of `json.dumps`. -/
def dumpChar (c : Char) : List Char :=
  let n := c.toNat
  if c = '"' then "\\\"".toList
  else if c = '\\' then "\\\\".toList
  else if n = 8 then "\\b".toList
  else if n = 9 then "\\t".toList
  else if n = 10 then "\\n".toList
  else if n = 12 then "\\f".toList
  else if n = 13 then "\\r".toList
  else if 32 ≤ n ∧ n < 127 then [c]
  else if n < 0x10000 then escapedUnit n
  else escapedUnit (0xD800 + (n - 0x10000) / 1024) ++ escapedUnit (0xDC00 + (n - 0x10000) % 1024)

def dumpText (s : String) : List Char := '"' :: (s.toList.flatMap dumpChar ++ ['"'])

/-- Members in the order of their names. -/
def insertMember (p : String × List Char) : List (String × List Char) → List (String × List Char)
  | [] => [p]
  | q :: rest => if p.1 ≤ q.1 then p :: q :: rest else q :: insertMember p rest

mutual

/-- `json.dumps(value, sort_keys=True, separators=(",", ":"))` of a value without a float. -/
def dumps : Json → List Char
  | .null => "null".toList
  | .bool b => (if b then "true" else "false").toList
  | .int n => (intText n).toList
  | .float _ => []
  | .str s => dumpText s
  | .arr xs => '[' :: (joined (dumpElements xs) ++ [']'])
  | .obj members => '\x7b' :: (joined ((dumpMembers members).map fun p => dumpText p.1 ++ ':' :: p.2) ++
      ['\x7d'])

def dumpElements : List Json → List (List Char)
  | [] => []
  | x :: xs => dumps x :: dumpElements xs

def dumpMembers : List (String × Json) → List (String × List Char)
  | [] => []
  | (name, x) :: rest => insertMember (name, dumps x) (dumpMembers rest)

end

mutual

/-- `keys(value)`. -/
def keysOf : Json → List String
  | .obj members => memberKeys members
  | .arr xs => elementKeys xs
  | _ => []

def elementKeys : List Json → List String
  | [] => []
  | x :: xs => keysOf x ++ elementKeys xs

def memberKeys : List (String × Json) → List String
  | [] => []
  | (name, x) :: rest => name.toLower :: (keysOf x ++ memberKeys rest)

end

/-- `word in key`. -/
def within (word key : String) : Bool := !(occurrences word.toList key.toList).isEmpty

/-- Names in their order. -/
def insertName (p : String × String) : List (String × String) → List (String × String)
  | [] => [p]
  | q :: rest => if p.1 ≤ q.1 then p :: q :: rest else q :: insertName p rest

/-- `MAX_OUTPUT_BYTES`. -/
def maxOutputBytes : ℕ := 32 * 1024

/-- `_result(evidence, client, copy, selected, queue_sha256)`. -/
def resultOf (e : KernelEvidence) (client : Client) (copy : Bool) (selected : List Selected)
    (queueSha256 : String) : Join JoinResult := do
  let digest ← hex (.str queueSha256) 64 "queue trace hash" false
  let hashes := (e.hashes.entries.foldr insertName []).filter fun p => p.1 ≠ "client_queue"
  let result : JoinResult := { client, copy, run := e.run, context := e.context, selected,
                               inputs := hashes ++ [("client_queue", String.ofList digest)] }
  need ((dumps result.document).length + 1 ≤ maxOutputBytes)
    (refusal "normalized join result exceeds its bound")
  need (¬(keysOf result.document).any (fun key =>
      ["timestamp", "fd", "dma", "pointer", "lease", "bytes"].any (within · key)) = true)
    (refusal "normalized join result contains a forbidden raw field")
  return result

/-! ### The joins -/

/-- `join_va(…)`. -/
def joinVa (e : KernelEvidence) (report : Json) (queueRaw : List UInt8) (associations : Json)
    (selectors : List ℤ) (copy : Bool) (queueSha256 : String) : Join JoinResult := do
  e.check
  let outputs ← validateReport report .va selectors copy
  let queue ← parseVaQueue queueRaw e.requests.length
  let rows ← parseAssociations associations e.requests.length
  checkProjection 1 queue e.requests
  let selected ← outputs.mapM (selectVa e queue rows)
  resultOf e .va copy selected queueSha256

/-- `join_gst(…)`. -/
def joinGst (e : KernelEvidence) (report : Json) (queueRaw : List UInt8) (associations : Json)
    (selectors : List ℤ) (copy : Bool) (queueSha256 : String) : Join JoinResult := do
  e.check
  let outputs ← validateReport report .gst selectors copy
  let queue ← parseGstQueue queueRaw e.requests.length
  let rows ← parseAssociations associations e.requests.length
  let _ ← found (e.associations.mapM (·.get? "system_frame_number")) (.builtin .keyError)
  let byFrame ← bridgeQueue e rows queue ∅
  need (byFrame.keys.length = e.requests.length) (refusal "Gst queue/raw V4L2 bridge is incomplete")
  let selected ← outputs.mapM (selectGst e byFrame)
  resultOf e .gst copy selected queueSha256

/-- The join of a client. -/
def join : Client → KernelEvidence → Json → List UInt8 → Json → List ℤ → Bool → String →
    Join JoinResult
  | .va => joinVa
  | .gst => joinGst

end OmarchyM1Video.SameRun
