import OmarchyM1Video.Py.Json

/-!
The events of `experiments/vp9-state/model.py` and their validation.

* `Raised`: what the model raises by name, a `Reject` with its code, message and the invariant it
  cites, or a `FixtureError`;
* `Op.fields`: the table `EVENT_FIELDS`;
* `validateEvent`: the check of an event before any state changes;
* `Event`: an event as the handlers read it, and `readEvent`, the reads themselves, which raise
  `KeyError` or `TypeError` on a member that is missing or of the wrong kind;
* `readEvent_of_validateEvent`: a validated event is read without an exception.
-/

namespace OmarchyM1Video.Vp9State

open OmarchyM1Video.Py

/-! ### What the model raises -/

/-- The codes of `Reject`. -/
inductive RejectCode where
  | partialFailureReuse | sub64 | sessionIdentityChange | streamingOutputSFmt | busyCaptureSFmt
  | mixedDepth | streamingReqbufs | noCaptureBuffer | referenceQueuedAsDestination
  | duplicateDestination | shortBacking | oldGenerationAlias | stateLoss | captureNotStreaming
  | unexpectedResolution | scratchBounds | unavailableReference | destinationFallback
  | orphanedRetainedBuffer | staleRegistration | stockHasNoRegistration | duplicateTimestamp
  | stockHasNoReconfigure | firmwareUnknown
  deriving DecidableEq, Repr

/-- The `firmware_unknown` invariants of `source-map.json`: the questions `ask_firmware` takes. -/
inductive FirmwareQuestion where
  | liveResize | segMap | scratchRegrow | mixedEraComp | rev3VsRev4
  deriving DecidableEq, Repr

namespace FirmwareQuestion

def all : List FirmwareQuestion := [liveResize, segMap, scratchRegrow, mixedEraComp, rev3VsRev4]

def name : FirmwareQuestion → String
  | liveResize => "firmware_live_resize"
  | segMap => "firmware_seg_map"
  | scratchRegrow => "firmware_scratch_regrow"
  | mixedEraComp => "firmware_mixed_era_comp"
  | rev3VsRev4 => "firmware_rev3_vs_rev4"

def text : FirmwareQuestion → String
  | liveResize =>
      "Whether firmware accepts a per-frame dimension change on a continuing context with " ++
        "prior-era references is experiment A. A passing model is not that result."
  | segMap => "Segment-map preserve-versus-reset policy across a resize is experiment B."
  | scratchRegrow => "Whether scratch can be resized on a live OUTPUT stream is experiment C."
  | mixedEraComp =>
      "Whether mixed-era compressed-reference offsets are read correctly is experiment D."
  | rev3VsRev4 => "M1 (rev 3) versus M2 (rev 4) divergence is experiment E."

def ofName? (name : String) : Option FirmwareQuestion := all.find? fun q => decide (q.name = name)

end FirmwareQuestion

/-- The invariants of `source-map.json` that a `Reject` cites. -/
inductive InvariantId where
  | captureSFmtBusy | outputSFmtStreaming | outputSFmtCaptureBusy | validateDecParamsMin64
  | validateDecParamsAligned | wrapperOnQueue | getRefFallbackDst | stopOnOutputStreamoff
  | queueSetupSizeimage | vb2DmabufMinLength | imageFmtBusy | noDestinationFallback
  | generationScopedTimestamps | explicitRefRegistration | refNotQueuedAsDst | eraSizingDstVsRef
  | failedSessionNoSubmit | sessionNotProfileKey | bothQueuesStreaming | reqbufsReplacesQueue
  | scratchCapacityContract | uniqueDestinationSlot
  | firmware (question : FirmwareQuestion)
  deriving DecidableEq, Repr

/-- How an invariant is established. -/
inductive InvariantKind where
  | sourceObserved | proposedContract | firmwareUnknown
  deriving DecidableEq, Repr

def InvariantId.kind : InvariantId → InvariantKind
  | captureSFmtBusy | outputSFmtStreaming | outputSFmtCaptureBusy | validateDecParamsMin64
  | validateDecParamsAligned | wrapperOnQueue | getRefFallbackDst | stopOnOutputStreamoff
  | queueSetupSizeimage | vb2DmabufMinLength | imageFmtBusy | bothQueuesStreaming
  | reqbufsReplacesQueue => .sourceObserved
  | noDestinationFallback | generationScopedTimestamps | explicitRefRegistration
  | refNotQueuedAsDst | eraSizingDstVsRef | failedSessionNoSubmit | sessionNotProfileKey
  | scratchCapacityContract | uniqueDestinationSlot => .proposedContract
  | firmware _ => .firmwareUnknown

/-- `Reject`, a modelled kernel or userspace refusal, and `FixtureError`, a malformed fixture.  A
message that ends in the `repr` of a value carries that value beside its text. -/
inductive Raised where
  | reject (code : RejectCode) (message : String) (invariant : InvariantId)
  | fixtureError (message : String) (quoted : Option String)
  deriving DecidableEq, Repr

/-- `Reject(code, message, invariant)`. -/
def reject (code : RejectCode) (message : String) (invariant : InvariantId) : Exc Raised :=
  .raise (.reject code message invariant)

/-- `FixtureError(message)`. -/
def fixtureError (message : String) (quoted : Option String := none) : Exc Raised :=
  .raise (.fixtureError message quoted)

/-! ### Events -/

/-- The operations of `EVENT_FIELDS`. -/
inductive Op where
  | open | outputSFmt | captureSFmt | proposedReconfigure | captureReqbufs | queueDst | decode
  | submit | export | register | injectFailure | askFirmware | outputStreamon | outputStreamoff
  | captureStreamon | captureStreamoff | snapshot
  deriving DecidableEq, Repr

namespace Op

def all : List Op :=
  [.open, .outputSFmt, .captureSFmt, .proposedReconfigure, .captureReqbufs, .queueDst, .decode,
    .submit, .export, .register, .injectFailure, .askFirmware, .outputStreamon, .outputStreamoff,
    .captureStreamon, .captureStreamoff, .snapshot]

def name : Op → String
  | .open => "open"
  | .outputSFmt => "output_s_fmt"
  | .captureSFmt => "capture_s_fmt"
  | .proposedReconfigure => "proposed_reconfigure"
  | .captureReqbufs => "capture_reqbufs"
  | .queueDst => "queue_dst"
  | .decode => "decode"
  | .submit => "submit"
  | .export => "export"
  | .register => "register"
  | .injectFailure => "inject_failure"
  | .askFirmware => "ask_firmware"
  | .outputStreamon => "output_streamon"
  | .outputStreamoff => "output_streamoff"
  | .captureStreamon => "capture_streamon"
  | .captureStreamoff => "capture_streamoff"
  | .snapshot => "snapshot"

def ofName? (name : String) : Option Op := all.find? fun op => decide (op.name = name)

/-- `EVENT_FIELDS`: the required and the optional fields of an operation. -/
def fields : Op → List String × List String
  | .open => ([], ["session"])
  | .outputSFmt => (["width", "height"], [])
  | .captureSFmt => (["width", "height"], ["bit_depth"])
  | .proposedReconfigure => (["width", "height"], ["bit_depth"])
  | .captureReqbufs => (["count"], [])
  | .queueDst => (["dst"], ["backing_bytes"])
  | .decode | .submit =>
      (["dst", "width", "height"],
        ["bit_depth", "key", "refs", "backing_bytes", "force_kernel_lookup"])
  | .export => (["name"], ["backing_bytes"])
  | .register => (["name"], ["timestamp", "index"])
  | .injectFailure => ([], ["phase"])
  | .askFirmware => ([], ["question"])
  | .outputStreamon | .outputStreamoff | .captureStreamon | .captureStreamoff | .snapshot =>
      ([], [])

end Op

/-- The fields that hold an unsigned 64-bit integer. -/
def intFields : List String :=
  ["width", "height", "bit_depth", "count", "backing_bytes", "timestamp", "index"]

/-- The fields that hold a Boolean. -/
def boolFields : List String := ["key", "force_kernel_lookup"]

/-- A nonempty string. -/
def isName : Json → Bool
  | .str s => s ≠ ""
  | _ => false

/-- An integer of 64 unsigned bits; a Boolean is no integer here. -/
def isUnsigned : Json → Bool
  | .int n => decide (0 ≤ n ∧ n ≤ 0xFFFFFFFFFFFFFFFF)
  | _ => false

def isBool : Json → Bool
  | .bool _ => true
  | _ => false

/-- A list of nonempty strings. -/
def isNames : Json → Bool
  | .arr xs => xs.all isName
  | _ => false

/-- The check of one field by its name: one body of the loop of `validate_event`. -/
def validateField (key : String) (value : Json) : Except (Exc Raised) Unit :=
  if key ∈ intFields then
    need (isUnsigned value) (fixtureError s!"{key} must be an unsigned integer")
  else if key ∈ boolFields then
    need (isBool value) (fixtureError s!"{key} must be boolean")
  else if key = "refs" then
    need (isNames value) (fixtureError "refs must be a list of buffer names")
  else
    need (isName value) (fixtureError s!"{key} must be a nonempty string")

/-- The loop of `validate_event` over the items of the event. -/
def validateFields : List (String × Json) → Except (Exc Raised) Unit
  | [] => .ok ()
  | (key, value) :: rest => do
      validateField key value
      validateFields rest

/-- The operation an event names, with the two checks that find it. -/
def eventOp (members : List (String × Json)) : Except (Exc Raised) Op :=
  match Json.member? members "op" with
  | some (.str name) => found (Op.ofName? name) (fixtureError "unknown op" (some name))
  | _ => .error (fixtureError "event requires a string op")

/-- `validate_event(event)`. -/
def validateEvent : Json → Except (Exc Raised) Unit
  | .obj members => do
      let op ← eventOp members
      let (required, optional) := op.fields
      need ((∀ key ∈ required, (Json.member? members key).isSome) ∧
          ∀ p ∈ members, p.1 ∈ "op" :: (required ++ optional))
        (fixtureError s!"invalid or missing fields for {op.name}")
      validateFields members
  | _ => .error (fixtureError "event requires a string op")

/-! ### Events as the handlers read them -/

/-- The fields of a `decode` or `submit` event. -/
structure DecodeArgs where
  dst : String
  width : ℕ
  height : ℕ
  bitDepth : Option ℕ := none
  key : Option Bool := none
  refs : Option (List String) := none
  backingBytes : Option ℕ := none
  forceKernelLookup : Option Bool := none
  deriving DecidableEq, Repr

/-- An event: its operation with the values of its fields, `none` for an absent one. -/
inductive Event where
  | open (session : Option String)
  | outputSFmt (width height : ℕ)
  | captureSFmt (width height : ℕ) (bitDepth : Option ℕ)
  | proposedReconfigure (width height : ℕ) (bitDepth : Option ℕ)
  | captureReqbufs (count : ℕ)
  | queueDst (dst : String) (backingBytes : Option ℕ)
  | decode (args : DecodeArgs)
  | submit (args : DecodeArgs)
  | export (name : String) (backingBytes : Option ℕ)
  | register (name : String) (timestamp index : Option ℕ)
  | injectFailure (phase : Option String)
  | askFirmware (question : Option String)
  | outputStreamon
  | outputStreamoff
  | captureStreamon
  | captureStreamoff
  | snapshot
  deriving DecidableEq, Repr

/-- The events a failed session refuses. -/
def Event.needsLiveSession : Event → Bool
  | .decode _ | .submit _ | .register _ _ _ | .queueDst _ _ | .proposedReconfigure _ _ _
  | .captureStreamon => true
  | _ => false

/-- The events that write to the CAPTURE queue, its buffers or its registrations. -/
def Event.touchesQueue : Event → Bool
  | .captureReqbufs _ | .queueDst _ _ | .decode _ | .submit _ | .export _ _ | .register _ _ _ =>
      true
  | _ => false

/-- The arguments of a `decode` or `submit` event. -/
def Event.decodeArgs? : Event → Option DecodeArgs
  | .decode args | .submit args => some args
  | _ => none

/-- A value used as a natural number. -/
def asNat : Json → Except (Exc Raised) ℕ
  | .int n => .ok n.toNat
  | _ => .error (.builtin .typeError)

def asName : Json → Except (Exc Raised) String
  | .str s => .ok s
  | _ => .error (.builtin .typeError)

def asBool : Json → Except (Exc Raised) Bool
  | .bool b => .ok b
  | _ => .error (.builtin .typeError)

/-- A value used as a list of buffer names. -/
def asNames : Json → Except (Exc Raised) (List String)
  | .arr xs => xs.mapM asName
  | _ => .error (.builtin .typeError)

section Fields

variable {α : Type} (read : Json → Except (Exc Raised) α) (members : List (String × Json))

/-- `event[key]`, used through `read`. -/
def field (key : String) : Except (Exc Raised) α := do
  let value ← found (Json.member? members key) (.builtin .keyError)
  read value

/-- `event.get(key)`, used through `read` when it is there. -/
def field? (key : String) : Except (Exc Raised) (Option α) :=
  match Json.member? members key with
  | none => .ok none
  | some value => do
      let a ← read value
      return some a

end Fields

/-- The fields of a `decode` or `submit` event. -/
def readDecode (members : List (String × Json)) : Except (Exc Raised) DecodeArgs := do
  let dst ← field asName members "dst"
  let width ← field asNat members "width"
  let height ← field asNat members "height"
  let bitDepth ← field? asNat members "bit_depth"
  let key ← field? asBool members "key"
  let refs ← field? asNames members "refs"
  let backingBytes ← field? asNat members "backing_bytes"
  let forceKernelLookup ← field? asBool members "force_kernel_lookup"
  return { dst, width, height, bitDepth, key, refs, backingBytes, forceKernelLookup }

/-- The values the handler of `op` takes from the event. -/
def readFields (members : List (String × Json)) : Op → Except (Exc Raised) Event
  | .open => do return .open (← field? asName members "session")
  | .outputSFmt => do
      return .outputSFmt (← field asNat members "width") (← field asNat members "height")
  | .captureSFmt => do
      return .captureSFmt (← field asNat members "width") (← field asNat members "height")
        (← field? asNat members "bit_depth")
  | .proposedReconfigure => do
      return .proposedReconfigure (← field asNat members "width") (← field asNat members "height")
        (← field? asNat members "bit_depth")
  | .captureReqbufs => do return .captureReqbufs (← field asNat members "count")
  | .queueDst => do
      return .queueDst (← field asName members "dst") (← field? asNat members "backing_bytes")
  | .decode => do return .decode (← readDecode members)
  | .submit => do return .submit (← readDecode members)
  | .export => do
      return .export (← field asName members "name") (← field? asNat members "backing_bytes")
  | .register => do
      return .register (← field asName members "name") (← field? asNat members "timestamp")
        (← field? asNat members "index")
  | .injectFailure => do return .injectFailure (← field? asName members "phase")
  | .askFirmware => do return .askFirmware (← field? asName members "question")
  | .outputStreamon => .ok .outputStreamon
  | .outputStreamoff => .ok .outputStreamoff
  | .captureStreamon => .ok .captureStreamon
  | .captureStreamoff => .ok .captureStreamoff
  | .snapshot => .ok .snapshot

/-- The event a handler sees. -/
def readEvent : Json → Except (Exc Raised) Event
  | .obj members => do readFields members (← eventOp members)
  | _ => .error (.builtin .typeError)

/-! ### A validated event is read without an exception -/

lemma mem_of_member? {members : List (String × Json)} {key : String} {value : Json}
    (h : Json.member? members key = some value) : (key, value) ∈ members := by
  obtain ⟨p, hp, rfl⟩ := Option.map_eq_some_iff.mp h
  have hkey : p.1 = key := by simpa using List.find?_some hp
  rw [← hkey]
  exact List.mem_of_find?_eq_some hp

lemma validateFields_ok {members : List (String × Json)} (h : validateFields members = .ok ()) :
    ∀ p ∈ members, validateField p.1 p.2 = .ok () := by
  induction members with
  | nil => simp
  | cons p members ih =>
      obtain ⟨_, hp, hrest⟩ := Except.bind_ok.mp h
      intro q hq
      rcases List.mem_cons.mp hq with rfl | hq
      · exact hp
      · exact ih hrest q hq

/-- The members of an event that passed the loop of `validate_event` have the kind their name
asks for, so they can be read as it. -/
structure Readable (members : List (String × Json)) : Prop where
  nat : ∀ key ∈ intFields, ∀ value, Json.member? members key = some value →
    ∃ n, asNat value = .ok n
  bool : ∀ key ∈ boolFields, ∀ value, Json.member? members key = some value →
    ∃ b, asBool value = .ok b
  refs : ∀ value, Json.member? members "refs" = some value → ∃ l, asNames value = .ok l
  name : ∀ key, key ∉ intFields → key ∉ boolFields → key ≠ "refs" →
    ∀ value, Json.member? members key = some value → ∃ s, asName value = .ok s

lemma asNames_of_isNames {value : Json} (h : isNames value) : ∃ l, asNames value = .ok l := by
  cases value with
  | arr xs =>
      have hall : ∀ x ∈ xs, isName x := by simpa [isNames] using h
      clear h
      rw [asNames]
      induction xs with
      | nil => exact ⟨[], rfl⟩
      | cons x xs ih =>
          obtain ⟨l, hl⟩ := ih fun y hy => hall y (by simp [hy])
          have hx := hall x (by simp)
          cases x with
          | str s => exact ⟨s :: l, by simp [List.mapM_cons, asName, hl]⟩
          | _ => simp [isName] at hx
  | _ => simp [isNames] at h

lemma readable_of_validateFields {members : List (String × Json)}
    (h : validateFields members = .ok ()) : Readable members := by
  have hfield : ∀ {key value}, Json.member? members key = some value →
      validateField key value = .ok () := fun hm => validateFields_ok h _ (mem_of_member? hm)
  constructor
  · intro key hkey value hm
    have hv := hfield hm
    rw [validateField, if_pos hkey, need_ok] at hv
    cases value <;> simp_all [isUnsigned, asNat]
  · intro key hkey value hm
    have hv := hfield hm
    have hint : key ∉ intFields := by
      rcases List.mem_cons.mp hkey with rfl | hkey
      · decide
      · rw [List.mem_singleton.mp hkey]
        decide
    rw [validateField, if_neg hint, if_pos hkey, need_ok] at hv
    cases value <;> simp_all [isBool, asBool]
  · intro value hm
    have hv := hfield hm
    rw [validateField, if_neg (by decide), if_neg (by decide), if_pos rfl, need_ok] at hv
    exact asNames_of_isNames hv
  · intro key hint hbool hrefs value hm
    have hv := hfield hm
    rw [validateField, if_neg hint, if_neg hbool, if_neg hrefs, need_ok] at hv
    cases value <;> simp_all [isName, asName]

lemma field_ok {α : Type} {read : Json → Except (Exc Raised) α} {members : List (String × Json)}
    {key : String} (hmem : (Json.member? members key).isSome)
    (hread : ∀ value, Json.member? members key = some value → ∃ a, read value = .ok a) :
    ∃ a, field read members key = .ok a := by
  obtain ⟨value, hvalue⟩ := Option.isSome_iff_exists.mp hmem
  obtain ⟨a, ha⟩ := hread value hvalue
  exact ⟨a, by simp [field, hvalue, ha]⟩

lemma field?_ok {α : Type} {read : Json → Except (Exc Raised) α} {members : List (String × Json)}
    {key : String} (hread : ∀ value, Json.member? members key = some value → ∃ a, read value = .ok a) :
    ∃ a, field? read members key = .ok a := by
  cases hvalue : Json.member? members key with
  | none => exact ⟨none, by simp [field?, hvalue]⟩
  | some value =>
      obtain ⟨a, ha⟩ := hread value hvalue
      exact ⟨some a, by simp [field?, hvalue, ha]⟩

namespace Readable

variable {members : List (String × Json)} (h : Readable members)
include h

lemma natField (key : String) (hkey : key ∈ intFields)
    (hmem : (Json.member? members key).isSome) : ∃ n, field asNat members key = .ok n :=
  field_ok hmem (h.nat key hkey)

lemma natField? (key : String) (hkey : key ∈ intFields) :
    ∃ n, field? asNat members key = .ok n :=
  field?_ok (h.nat key hkey)

lemma boolField? (key : String) (hkey : key ∈ boolFields) :
    ∃ b, field? asBool members key = .ok b :=
  field?_ok (h.bool key hkey)

lemma nameField (key : String) (hint : key ∉ intFields) (hbool : key ∉ boolFields)
    (hrefs : key ≠ "refs") (hmem : (Json.member? members key).isSome) :
    ∃ s, field asName members key = .ok s :=
  field_ok hmem (h.name key hint hbool hrefs)

lemma nameField? (key : String) (hint : key ∉ intFields) (hbool : key ∉ boolFields)
    (hrefs : key ≠ "refs") : ∃ s, field? asName members key = .ok s :=
  field?_ok (h.name key hint hbool hrefs)

lemma readDecode (hdst : (Json.member? members "dst").isSome)
    (hw : (Json.member? members "width").isSome) (hh : (Json.member? members "height").isSome) :
    ∃ args, readDecode members = .ok args := by
  obtain ⟨dst, h1⟩ := h.nameField "dst" (by decide) (by decide) (by decide) hdst
  obtain ⟨w, h2⟩ := h.natField "width" (by decide) hw
  obtain ⟨hgt, h3⟩ := h.natField "height" (by decide) hh
  obtain ⟨depth, h4⟩ := h.natField? "bit_depth" (by decide)
  obtain ⟨key, h5⟩ := h.boolField? "key" (by decide)
  obtain ⟨refs, h6⟩ := field?_ok h.refs
  obtain ⟨backing, h7⟩ := h.natField? "backing_bytes" (by decide)
  obtain ⟨force, h8⟩ := h.boolField? "force_kernel_lookup" (by decide)
  exact ⟨_, by simp [Vp9State.readDecode, h1, h2, h3, h4, h5, h6, h7, h8]; rfl⟩

lemma readFields (op : Op)
    (hreq : ∀ key ∈ op.fields.1, (Json.member? members key).isSome) :
    ∃ e, readFields members op = .ok e := by
  cases op with
  | «open» =>
      obtain ⟨x, hx⟩ := h.nameField? "session" (by decide) (by decide) (by decide)
      exact ⟨.open x, by simp [Vp9State.readFields, hx]⟩
  | outputSFmt =>
      obtain ⟨w, hw⟩ := h.natField "width" (by decide) (hreq _ (by decide))
      obtain ⟨y, hy⟩ := h.natField "height" (by decide) (hreq _ (by decide))
      exact ⟨.outputSFmt w y, by simp [Vp9State.readFields, hw, hy]⟩
  | captureSFmt =>
      obtain ⟨w, hw⟩ := h.natField "width" (by decide) (hreq _ (by decide))
      obtain ⟨y, hy⟩ := h.natField "height" (by decide) (hreq _ (by decide))
      obtain ⟨d, hd⟩ := h.natField? "bit_depth" (by decide)
      exact ⟨.captureSFmt w y d, by simp [Vp9State.readFields, hw, hy, hd]⟩
  | proposedReconfigure =>
      obtain ⟨w, hw⟩ := h.natField "width" (by decide) (hreq _ (by decide))
      obtain ⟨y, hy⟩ := h.natField "height" (by decide) (hreq _ (by decide))
      obtain ⟨d, hd⟩ := h.natField? "bit_depth" (by decide)
      exact ⟨.proposedReconfigure w y d, by simp [Vp9State.readFields, hw, hy, hd]⟩
  | captureReqbufs =>
      obtain ⟨n, hn⟩ := h.natField "count" (by decide) (hreq _ (by decide))
      exact ⟨.captureReqbufs n, by simp [Vp9State.readFields, hn]⟩
  | queueDst =>
      obtain ⟨x, hx⟩ := h.nameField "dst" (by decide) (by decide) (by decide) (hreq _ (by decide))
      obtain ⟨n, hn⟩ := h.natField? "backing_bytes" (by decide)
      exact ⟨.queueDst x n, by simp [Vp9State.readFields, hx, hn]⟩
  | decode =>
      obtain ⟨args, hargs⟩ := h.readDecode (hreq _ (by decide)) (hreq _ (by decide))
        (hreq _ (by decide))
      exact ⟨.decode args, by simp [Vp9State.readFields, hargs]⟩
  | submit =>
      obtain ⟨args, hargs⟩ := h.readDecode (hreq _ (by decide)) (hreq _ (by decide))
        (hreq _ (by decide))
      exact ⟨.submit args, by simp [Vp9State.readFields, hargs]⟩
  | «export» =>
      obtain ⟨x, hx⟩ := h.nameField "name" (by decide) (by decide) (by decide) (hreq _ (by decide))
      obtain ⟨n, hn⟩ := h.natField? "backing_bytes" (by decide)
      exact ⟨.export x n, by simp [Vp9State.readFields, hx, hn]⟩
  | register =>
      obtain ⟨x, hx⟩ := h.nameField "name" (by decide) (by decide) (by decide) (hreq _ (by decide))
      obtain ⟨t, ht⟩ := h.natField? "timestamp" (by decide)
      obtain ⟨i, hi⟩ := h.natField? "index" (by decide)
      exact ⟨.register x t i, by simp [Vp9State.readFields, hx, ht, hi]⟩
  | injectFailure =>
      obtain ⟨x, hx⟩ := h.nameField? "phase" (by decide) (by decide) (by decide)
      exact ⟨.injectFailure x, by simp [Vp9State.readFields, hx]⟩
  | askFirmware =>
      obtain ⟨x, hx⟩ := h.nameField? "question" (by decide) (by decide) (by decide)
      exact ⟨.askFirmware x, by simp [Vp9State.readFields, hx]⟩
  | outputStreamon => exact ⟨_, rfl⟩
  | outputStreamoff => exact ⟨_, rfl⟩
  | captureStreamon => exact ⟨_, rfl⟩
  | captureStreamoff => exact ⟨_, rfl⟩
  | snapshot => exact ⟨_, rfl⟩

end Readable

/-- **A validated event is read without an exception**: no handler meets a missing member or a
value of the wrong kind. -/
theorem readEvent_of_validateEvent {v : Json} (h : validateEvent v = .ok ()) :
    ∃ e, readEvent v = .ok e := by
  cases v with
  | obj members =>
      simp only [validateEvent, Except.bind_ok, need_ok] at h
      obtain ⟨op, hop, _, ⟨hreq, _⟩, hfields⟩ := h
      obtain ⟨e, he⟩ := (readable_of_validateFields hfields).readFields op hreq
      exact ⟨e, by simp [readEvent, hop, he]⟩
  | _ => simp [validateEvent] at h

end OmarchyM1Video.Vp9State
