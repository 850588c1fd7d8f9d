import OmarchyM1Video.Py.IsoFormat
import OmarchyM1Video.Py.JsonText

/-!
`tools/collect-boot-evidence.py`: the summary of the kernel journals of the last boots.

* `timestamp`, `commandGaps`, `summarize`, `pstoreState`: the functions of the source, for any
  conversion of a time stamp to a time, and any `categories`;
* `Env`: what the callbacks and the system return, each call in view of those before it;
* `collect`: the commands one after another, with the record of every call that is made.
-/

namespace OmarchyM1Video.BootEvidence

open OmarchyM1Video.Py

/-- `EVENTS`. -/
inductive Category where
  | avdActivity | avdError | avdTimeout | avdStack | allocationFailure | sliceLimit | firmwareMissing
  | resetReason | pmuBootReport | panic | oops | warning | watchdog | shutdown
  deriving DecidableEq, Repr

/-- What `run` returns. -/
structure CommandResult where
  stdout : List Char
  status : String
  stderrPresent : Bool

/-- `command_gaps(result)`. -/
def commandGaps (result : CommandResult) : List String :=
  (if result.status = "complete" then [] else [result.status]) ++
    if result.stderrPresent then ["stderr_present"] else []

/-- The members of an object: of two of one name the last one counts. -/
def hooks : Hooks Empty where
  object pairs := .ok (.obj pairs.reverse)
  constant x := .ok (.float x)

/-- `str(value)` of a number or a string. The text of any other value has a character that is in
none of the patterns. -/
def plainText : Json → Option (List Char)
  | .int n => some (if n < 0 then '-' :: decimal n.natAbs else decimal n.natAbs)
  | .str s => some s.toList
  | _ => none

/-- `int(value)`, if `[0-9]{1,18}` is the whole of `str(value)`. -/
def stamp (value : Option Json) : Option ℕ := do
  let text ← plainText (← value)
  if isDecimal text ∧ text.length ≤ 18 then some (intOf text) else none

/-- `text.strip() == ""`. -/
def blank (text : List Char) : Bool := text.all isSpace

/-- `text.strip()`. -/
def strip (text : List Char) : List Char :=
  ((text.dropWhile isSpace).reverse.dropWhile isSpace).reverse

/-- What the summary says about a category. -/
structure EventSummary where
  count : ℕ
  firstAt : Option (List Char)
  lastAt : Option (List Char)
  deriving DecidableEq

/-- The summary with one more event. -/
def EventSummary.add (event : EventSummary) (time : List Char) : EventSummary where
  count := event.count + 1
  firstAt := match event.firstAt with
    | some first => some (if textLt time first then time else first)
    | none => some time
  lastAt := match event.lastAt with
    | some last => some (if textLt last time then time else last)
    | none => some time

/-- The variables of the loop of `summarize`. -/
structure Tally where
  count : ℕ
  gaps : List String
  events : Category → EventSummary

/-- `sorted(set(gaps))`. -/
def sortedSet (gaps : List String) : List String :=
  gaps.eraseDups.mergeSort fun a b => !textLt b.toList a.toList

/-- `summary`, and what `collect` adds to it. -/
structure Boot where
  status : String
  entriesSeen : ℕ
  gaps : List String
  events : Category → EventSummary
  slot : ℤ
  retainedFirstAt : Option (List Char)
  retainedLastAt : Option (List Char)

section Journal

variable (utc : ℕ → Option DateTime) (categories : String → Category → Bool)

/-- `timestamp(value)`. -/
def timestamp (value : Option Json) : Option (List Char) := do
  return (← utc (← stamp value)).isoformat

/-- The body of the loop, of a line that is not blank and below the limit. -/
def record (line : List Char) (t : Tally) : Tally :=
  match loads hooks line with
  | .error _ => { t with gaps := t.gaps ++ ["malformed_json"] }
  | .ok (.obj members) =>
      match timestamp utc (Json.member? members "__REALTIME_TIMESTAMP"),
        Json.member? members "MESSAGE" with
      | some time, some (.str message) =>
          { t with events := fun c =>
              if categories message c then (t.events c).add time else t.events c }
      | _, _ => { t with gaps := t.gaps ++ ["invalid_record"] }
  | .ok _ => { t with gaps := t.gaps ++ ["invalid_record"] }

/-- The loop over the lines. -/
def tally (entryLimit : ℕ) : List (List Char) → Tally → Tally
  | [], t => t
  | line :: lines, t =>
      if blank line then tally entryLimit lines t
      else if entryLimit < t.count + 1 then { t with count := t.count + 1 }
      else tally entryLimit lines (record utc categories line { t with count := t.count + 1 })

/-- The variables before the loop. -/
def emptyTally (gaps : List String) : Tally := ⟨0, gaps, fun _ => ⟨0, none, none⟩⟩

/-- The variables after the loop, and the gaps of the whole. -/
def tallyOf (result : CommandResult) (entryLimit : ℕ) : Tally :=
  let t := tally utc categories entryLimit (splitlines result.stdout)
    (emptyTally (commandGaps result))
  { t with gaps := t.gaps ++ (if t.count = 0 then ["empty"] else []) ++
      if entryLimit ≤ t.count then ["entry_limit"] else [] }

/-- `summarize(result, entry_limit)`, and what `collect` adds to it. -/
def summarize (result : CommandResult) (entryLimit : ℕ) (slot : ℤ)
    (first last : Option (List Char)) : Boot :=
  let t := tallyOf utc categories result entryLimit
  { status := if t.gaps = [] then "complete" else "partial"
    entriesSeen := min t.count entryLimit
    gaps := sortedSet t.gaps
    events := t.events
    slot := slot
    retainedFirstAt := first
    retainedLastAt := last }

end Journal

/-- What `scan` does: it returns a number, or raises one of the errors that are caught, or another
exception. -/
inductive ScanResult where
  | entries (n : ℤ)
  | fileNotFound
  | permission
  | osError
  | raised (text : String)

/-- `pstore_state(path, scan)`, of what `scan` does. -/
def pstoreState (result : ScanResult) : Except (Exc String) (String × Option ℤ) :=
  match result with
  | .entries n => .ok (if 256 ≤ n then "truncated" else if n ≠ 0 then "present" else "empty", some n)
  | .fileNotFound => .ok ("missing", none)
  | .permission => .ok ("inaccessible", none)
  | .osError => .ok ("failed", none)
  | .raised text => .error (.raise text)

/-- The commands: `pacman -Q`, `modinfo -n apple_avd`, `journalctl --list-boots` and
`journalctl --dmesg --boot`. -/
inductive Command where
  | package (name : List Char)
  | modulePath
  | listBoots (bootLimit : ℕ)
  | dmesg (bootId : List Char) (entryLimit : ℕ)
  deriving DecidableEq

/-- `sys/module/apple_avd`. -/
inductive ModuleEntry where
  | directory | other | missing | error
  deriving DecidableEq, Repr

/-- What the callbacks and the system return. -/
structure Env where
  run : List (Command × CommandResult) → Command → Except (Exc String) CommandResult
  scanLive : ScanResult
  scanArchive : ScanResult
  /-- `helpers.file_hash`, of the parts of a path below the root. -/
  fileHash : List (List Char) → Option String
  moduleEntry : ModuleEntry
  /-- `release or platform.release()`. -/
  release : String
  now : List Char

/-- What `collect` returns, but for its constant texts. -/
structure Record where
  deviceId : List Char
  collectedAt : List Char
  release : String
  packages : List (List Char × Option (List Char))
  loaded : Option Bool
  selectedFileSha256 : Option String
  bootListGaps : List String
  requestedWindow : ℕ
  boots : List Boot
  pstoreLive : String × Option ℤ
  pstoreArchive : String × Option ℤ
  status : String
  gaps : List String
  entryLimitPerBoot : ℕ

/-- A computation of `collect`, with the calls that it has made. -/
abbrev Collect := EStateM (Exc String) (List (Command × CommandResult))

/-- `run(…)`. -/
def call (env : Env) (command : Command) : Collect CommandResult := do
  let log ← get
  let result ← lift (env.run log command)
  modify fun log => log ++ [(command, result)]
  return result

/-- `[a-zA-Z0-9][a-zA-Z0-9_-]{0,63}` is the whole of the text. -/
def isPseudonym (text : List Char) : Bool :=
  match text with
  | [] => false
  | c :: rest => c.isAlphanum && rest.length ≤ 63 &&
      rest.all fun c => c.isAlphanum || c == '_' || c == '-'

/-- The version in `name version`. -/
def versionOf (name text : List Char) : Option (List Char) :=
  let rest := text.drop (name.length + 1)
  if text.take (name.length + 1) = name ++ [' '] ∧ rest ≠ [] ∧
      rest.all (fun c => c.isAlphanum || c ∈ ['.', '+', ':', '_', '~', '-']) then some rest
  else none

/-- The names of the packages. -/
def packageNames : List (List Char) :=
  ["linux-asahi".toList, "linux-asahi-headers".toList, "libva-v4l2_request-avd".toList]

/-- The entry of a package. -/
def package (env : Env) (name : List Char) : Collect (List Char × Option (List Char)) := do
  let result ← call env (.package name)
  return (name, if commandGaps result = [] then versionOf name (strip result.stdout) else none)

/-- The parts of a path, and whether its root is `/`. -/
def pathParts (text : List Char) : Bool × List (List Char) :=
  (text.head? = some '/' ∧ ¬(text.take 2 = ['/', '/'] ∧ text.take 3 ≠ ['/', '/', '/']),
    (text.splitOn '/').filter fun part => part ≠ [] ∧ part ≠ ['.'])

/-- `'..' not in selected_path.parts`, and the path is below a directory of modules. -/
def isModulePath (path : Bool × List (List Char)) : Bool :=
  path.1 && !path.2.contains ['.', '.'] &&
    (["lib".toList, "modules".toList].isPrefixOf path.2 ||
      ["usr".toList, "lib".toList, "modules".toList].isPrefixOf path.2)

/-- The hash of the module that `modinfo` names. -/
def selectedHash (env : Env) (selected : CommandResult) : Option String :=
  let path := pathParts (strip selected.stdout)
  if commandGaps selected = [] ∧ isModulePath path = true then env.fileHash path.2 else none

/-- `boot_rows`, and the gap where they are no list. -/
def bootRows (listed : CommandResult) : List Json × List String :=
  match loads hooks listed.stdout with
  | .ok (.arr rows) => (rows, [])
  | _ => ([], ["malformed_json"])

/-- `[0-9a-f]{32}` is the whole of the text. -/
def isBootId (text : List Char) : Bool := text.length == 32 && text.all isLowerHex

/-- The index and the id of a row, if they are in order. -/
def rowOf (row : Json) : Option (ℤ × List Char) :=
  match row.get? "index", (row.get? "boot_id").bind plainText with
  | some (.int index), some bootId =>
      if (-1000000 ≤ index ∧ index ≤ 0) ∧ isBootId bootId = true then some (index, bootId) else none
  | _, _ => none

section Collect

variable (utc : ℕ → Option DateTime) (categories : String → Category → Bool) (env : Env)

/-- The loop over the rows, and the gaps and the boots that it adds. -/
def readBoots (entryLimit : ℕ) : List Json → List ℤ → Collect (List String × List Boot)
  | [], _ => pure ([], [])
  | row :: rows, seen =>
      match rowOf row with
      | none => do
          let (gaps, boots) ← readBoots entryLimit rows seen
          return ("invalid_record" :: gaps, boots)
      | some (index, bootId) =>
          if index ∈ seen then do
            let (gaps, boots) ← readBoots entryLimit rows seen
            return ("invalid_record" :: gaps, boots)
          else do
            let first := timestamp utc (row.get? "first_entry")
            let last := timestamp utc (row.get? "last_entry")
            let journal ← call env (.dmesg bootId entryLimit)
            let (gaps, boots) ← readBoots entryLimit rows (index :: seen)
            return ((if first = none ∨ last = none then ["invalid_record"] else []) ++ gaps,
              summarize utc categories journal entryLimit index first last :: boots)

/-- `collect(device_id, …)`. -/
def collect (deviceId : List Char) (bootLimit entryLimit : ℤ) : Collect Record := do
  raiseIf (isPseudonym deviceId = false) (.raise "invalid public device pseudonym")
  raiseIf (¬((1 ≤ bootLimit ∧ bootLimit ≤ 16) ∧ 1 ≤ entryLimit ∧ entryLimit ≤ 30000))
    (.raise "invalid collection limits")
  let packages ← packageNames.mapM (package env)
  let selected ← call env .modulePath
  let hash := selectedHash env selected
  let listed ← call env (.listBoots bootLimit.toNat)
  let (rows, malformed) := bootRows listed
  let (rowGaps, boots) ← readBoots utc categories env entryLimit.toNat
    (rows.drop (rows.length - bootLimit.toNat)) []
  let live ← lift (pstoreState env.scanLive)
  let archive ← lift (pstoreState env.scanArchive)
  let listGaps := commandGaps listed ++ malformed ++ (if rows = [] then ["empty"] else []) ++
    (if bootLimit.toNat ≤ rows.length then ["window_limit"] else []) ++ rowGaps
  let gaps := (packages.flatMap fun p => if p.2 = none then ["package_identity_unavailable"] else []) ++
    (if hash = none then ["selected_module_identity_unavailable"] else []) ++
    (if env.moduleEntry = .error then ["module_presence_unavailable"] else []) ++
    (if listGaps = [] then [] else ["boot_list_incomplete"]) ++
    (if boots.any (fun boot => !boot.gaps.isEmpty) then ["journal_incomplete"] else []) ++
    if [live, archive].any (fun state => state.1 ≠ "empty" ∧ state.1 ≠ "present") then
      ["pstore_incomplete"] else []
  return {
    deviceId := deviceId
    collectedAt := env.now
    release := env.release
    packages := packages
    loaded := match env.moduleEntry with
      | .directory => some true
      | .other | .missing => some false
      | .error => none
    selectedFileSha256 := hash
    bootListGaps := sortedSet listGaps
    requestedWindow := bootLimit.toNat
    boots := boots
    pstoreLive := live
    pstoreArchive := archive
    status := if gaps = [] then "complete" else "partial"
    gaps := sortedSet gaps
    entryLimitPerBoot := entryLimit.toNat }

end Collect

end OmarchyM1Video.BootEvidence
