import OmarchyM1Video.Py.Dict
import OmarchyM1Video.Py.JsonEq
import OmarchyM1Video.SameRun.GstQueue

/-!
The documents that the join crosses: the kernel evidence, the queue trace of the VA client and the
output association, as `same-run/join.py` has them.

The evidence is what the validator of the raw trace returns, so the rows of its tables are dictionaries
of integers; the documents of the client are read from JSON.

* `KernelEvidence`, `KernelEvidence.check`: the evidence and its own check;
* `jsonLines`, `parseVaQueue`: the queue trace of the VA client;
* `Association`, `parseAssociations`: the output association;
* `referencePair`: the two records of a picture's lifetime.
-/

namespace OmarchyM1Video.SameRun

open OmarchyM1Video.Py
open OmarchyM1Video.ReferenceContent (hasKeys)

/-! ### The kernel evidence -/

/-- `KernelEvidence`. -/
structure KernelEvidence where
  run : ℤ
  context : ℤ
  childPid : ℤ
  requests : List Json
  associations : List (Dict String ℤ)
  referenceRecords : List (Dict String ℤ)
  hashes : Dict String String

/-- Row `n` has picture `n`, counted from one. -/
def numbered (requests : List Json) : Bool :=
  (requests.zipIdx 1).all fun p => (p.1.get? "pic").any (Json.eqInt p.2)

/-- `check()`. -/
def KernelEvidence.check (e : KernelEvidence) : Join Unit := do
  let _ ← uint (.int e.run) 64 "kernel run" true
  let _ ← uint (.int e.context) 64 "kernel context" true
  let _ ← uint (.int e.childPid) 31 "child pid" true
  need (e.requests ≠ []) (refusal "kernel evidence has no requests")
  need (numbered e.requests = true) (refusal "kernel request history is incomplete or reordered")
  need (e.associations.map (·.get? "pic") =
      (List.range' 1 e.requests.length).map fun n : ℕ => some (n : ℤ))
    (refusal "raw V4L2 association history is incomplete or reordered")
  need (e.associations.map (·.get? "system_frame_number")).Nodup
    (refusal "raw V4L2 frame timestamps are ambiguous")
  need (["execution", "v4l2_trace", "command_snapshot", "reference_snapshot"].all
      (e.hashes.contains ·) = true)
    (refusal "kernel evidence digest inventory is incomplete")
  e.hashes.entries.forM fun p => do
    let _ ← hex (.str p.2) 64 ("hash " ++ p.1) false

/-- `str(n)`. -/
def intText (n : ℤ) : String := toString n

/-- `row.get(key)`, as a value. -/
def getInt (row : Dict String ℤ) (key : String) : Json := ((row.get? key).map Json.int).getD .null

/-- The first of the keys whose value has changed. -/
def changedKey (start done : Dict String ℤ) : Option String :=
  ["allocation", "length", "comp_start", "comp_size", "mv_size", "mv_offset"].find? fun key =>
    start.get? key ≠ done.get? key

/-- The records of a picture that are of a lifetime. -/
def lifetimeRows (e : KernelEvidence) (picture : ℤ) : List (Dict String ℤ) :=
  e.referenceRecords.filter fun row => row.get? "picture" = some picture ∧
    (row.get? "kind" = some 1 ∨ row.get? "kind" = some 2)

/-- `_reference_pair(evidence, picture, capture)`. -/
def referencePair (e : KernelEvidence) (picture : ℤ) (capture : Json) :
    Join (Dict String ℤ × Dict String ℤ) :=
  let at_ := "kernel picture " ++ intText picture
  match lifetimeRows e picture with
  | [start, done] => do
      need (start.get? "kind" = some 1 ∧ done.get? "kind" = some 2)
        (refusal (at_ ++ " has no complete reference lifetime"))
      need (start.get? "buffer" = done.get? "buffer" ∧
          (getInt done "buffer").same capture = true)
        (refusal (at_ ++ " does not bind the selected capture"))
      need (start.get? "writer" = some picture ∧ start.get? "completed" = some 0)
        (refusal (at_ ++ " has the wrong writer frontier"))
      need (done.get? "writer" = some picture ∧ done.get? "completed" = some 1 ∧
          done.get? "result" = some 5)
        (refusal (at_ ++ " has no successful completion"))
      match changedKey start done with
      | some key => .error (refusal (at_ ++ " changed " ++ key ++ " before completion"))
      | none => do
          let _ ← uint (getInt start "allocation") 64 (at_ ++ " allocation") true
          return (start, done)
  | _ => .error (refusal (at_ ++ " has no complete reference lifetime"))

/-! ### The queue trace of the VA client -/

/-- `_object(pairs)`. -/
def uniqueObject (pairs : List (String × Json)) : Join Json :=
  match ReferenceContent.duplicate? [] (pairs.map Prod.fst) with
  | some name => .error (refusal ("duplicate JSON key: " ++ name))
  | none => .ok (.obj pairs)

/-- The hooks of a document of this name. -/
def documentHooks (name : String) : Hooks (Exc JoinError) :=
  ⟨uniqueObject, fun _ => .error (refusal ("non-JSON constant in " ++ name))⟩

/-- A line of a document. -/
def jsonLine (name : String) (number : ℕ) (line : List UInt8) : Join Json := do
  let at_ := name ++ " line " ++ toString number
  let text ← found (decodeUtf8 line) (refusal ("invalid " ++ at_))
  let row ← match loads (documentHooks name) text with
    | .ok row => .ok row
    | .error (.raised e) => .error e
    | .error _ => .error (refusal ("invalid " ++ at_))
  need (row.isObj = true) (refusal (at_ ++ " is not an object"))
  return row

/-- `json_lines(raw, maximum=maximum, name=name)`. -/
def jsonLines (raw : List UInt8) (maximum : ℕ) (name : String) : Join (List Json) := do
  need (0 < raw.length ∧ raw.length ≤ maximum) (refusal (name ++ " size is outside the accepted bound"))
  need (raw.getLast? = some 10 ∧ 13 ∉ raw ∧ 0 ∉ raw)
    (refusal (name ++ " is not canonical newline-terminated UTF-8"))
  ((raw.dropLast.splitOnP (· = 10)).zipIdx 1).mapM fun p => jsonLine name p.2 p.1

/-- `VA_BASE_KEYS`. -/
def vaBaseKeys : List String :=
  ["schema", "run", "seq", "ctx", "va_context", "pic", "req", "first", "last", "target", "poc", "irap",
    "idr", "ltr_sps", "reorder", "total_curr", "dpb", "slices", "st_before", "st_after", "lt_curr",
    "observer"]

/-- `VA_OBSERVER_KEYS`. -/
def vaObserverKeys : List String := ["run", "context", "allocation", "surface", "writer"]

/-- The identity of a row of the VA queue. -/
structure VaIdentity where
  run : List Char
  context : ℤ
  allocation : ℤ
  surface : ℤ
  writer : ℤ
  target : ℤ
  deriving DecidableEq

/-- The row of this index, as it has to be. -/
def vaIdentity (index : ℕ) (row : Json) : Join VaIdentity := do
  let at_ := "VA queue row " ++ toString index
  need (hasKeys vaBaseKeys row = true) (refusal (at_ ++ " has unexpected fields"))
  need ((← row.item "schema").eqStr "libva-v4l2request.hevc-refs/1" = true)
    (refusal (at_ ++ " has wrong schema"))
  let _ ← hex (← row.item "run") 16 (at_ ++ " trace run") true
  need (["seq", "pic", "req"].all (fun name => (row.get? name).any (Json.eqInt index)) = true)
    (refusal (at_ ++ " is not a complete one-request picture"))
  need (["first", "last"].all (fun name => (row.get? name).any (Json.eqInt 1)) = true)
    (refusal (at_ ++ " is outside the one-slice campaign domain"))
  let target ← uint (← row.item "target") 32 (at_ ++ " target") false
  let observer ← row.item "observer"
  need (hasKeys vaObserverKeys observer = true) (refusal (at_ ++ " has malformed observer identity"))
  let run ← hex (← observer.item "run") 32 (at_ ++ " observer run") true
  let context ← uint (← observer.item "context") 64 (at_ ++ " context") true
  let allocation ← uint (← observer.item "allocation") 64 (at_ ++ " allocation") true
  let surface ← uint (← observer.item "surface") 64 (at_ ++ " surface generation") true
  let writer ← uint (← observer.item "writer") 64 (at_ ++ " writer") true
  return { run, context, allocation, surface, writer, target }

/-- The loop over the rows, from the one of this index on: their identities. -/
def checkVaQueue : ℕ → List VaIdentity → List Json → Join (List VaIdentity)
  | _, _, [] => .ok []
  | index, seen, row :: rows => do
      let identity ← vaIdentity index row
      need (∀ other ∈ seen, (identity.run, identity.context) = (other.run, other.context))
        (refusal "VA queue trace mixes observer runs or contexts")
      need (identity ∉ seen) (refusal "VA queue trace duplicates an observer identity")
      let rest ← checkVaQueue (index + 1) (identity :: seen) rows
      return identity :: rest

/-- `parse_va_queue(raw, expected)`: the rows, each with the identity that was read of it. -/
def parseVaQueue (raw : List UInt8) (expected : ℕ) : Join (List (Json × VaIdentity)) := do
  let rows ← jsonLines raw maxQueueBytes "VA queue trace"
  need (rows.length = expected) (refusal "VA queue trace has the wrong request extent")
  let identities ← checkVaQueue 1 [] rows
  return rows.zip identities

/-- `_va_projection(row)`. -/
def vaProjection : Json → Json
  | .obj members => .obj (members.filter fun m =>
      m.1 ∉ ["schema", "run", "ctx", "va_context", "observer"])
  | row => row

/-! ### The output association -/

/-- A row of the output association. -/
structure Association where
  outputIndex : ℕ
  pic : ℤ
  poc : ℤ
  deriving DecidableEq

/-- `type(value) is int and low <= value < high`. -/
def intWithin (low high : ℤ) : Json → Option ℤ
  | .int n => if low ≤ n ∧ n < high then some n else none
  | _ => none

/-- The row of this index. -/
def associationOf (expected index : ℕ) (row : Json) : Join Association := do
  let at_ := "association " ++ toString index
  need (hasKeys ["output_index", "pic", "poc"] row = true)
    (refusal ("output association row " ++ toString index ++ " has unexpected fields"))
  need ((← row.item "output_index").eqInt index = true)
    (refusal "output association indices are incomplete")
  let pic ← uint (← row.item "pic") 32 (at_ ++ " picture") true
  need (pic ≤ expected) (refusal (at_ ++ " picture is outside the decode extent"))
  let poc ← found (intWithin (-2 ^ 31) (2 ^ 31) (← row.item "poc")) (refusal (at_ ++ " POC is invalid"))
  return { outputIndex := index, pic, poc }

/-- `parse_associations(document, expected)`. -/
def parseAssociations (document : Json) (expected : ℕ) : Join (List Association) :=
  match document with
  | .arr xs => do
      need (xs.length = expected) (refusal "output association has the wrong extent")
      let rows ← xs.zipIdx.mapM fun p => associationOf expected p.2 p.1
      need (rows.map Association.pic).Nodup
        (refusal "output association duplicates a decoded picture")
      return rows
  | _ => .error (refusal "output association has the wrong extent")

end OmarchyM1Video.SameRun
