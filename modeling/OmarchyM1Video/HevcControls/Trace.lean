import Mathlib.Data.List.Basic
import OmarchyM1Video.Py.Dict
import OmarchyM1Video.Py.Json

/-!
The readers of `experiments/hevc-controls/normalize.py`: how a trace event is taken apart.

An event is a JSON object, given by its members; `parse` admits no other.  Every reader either
returns a value or raises `Reject`, which carries its message, or the built-in exception of the
subscript that fails.

* `integer`, `flags`, `bufferFlags`, `timestamp`: scalar values and flag texts;
* `arguments`, `controls`, `payload`: the arguments of an ioctl and its control payloads;
* `select`: the file descriptor of the video context and the position of its last open.
-/

namespace OmarchyM1Video.HevcControls

open OmarchyM1Video.Py

/-- An event of the trace. -/
abbrev Event := List (String × Json)

/-- A computation that reads the trace and may raise. -/
abbrev Read := Except (Exc String)

/-- `Reject(message)`. -/
def reject (message : String) : Exc String := .raise message

/-! ### Members of an event -/

/-- `e[name]`. -/
def item (e : Event) (name : String) : Read Json := found (Json.member? e name) (.builtin .keyError)

/-- `name in e`. -/
def has (e : Event) (name : String) : Bool := (Json.member? e name).isSome

/-- `e.get("ioctl") == name`. -/
def opIs (e : Event) (name : String) : Bool :=
  match Json.member? e "ioctl" with
  | some op => op.eqStr name
  | none => false

/-- `bool(e.get("ioctl"))`. -/
def hasOp (e : Event) : Bool :=
  match Json.member? e "ioctl" with
  | some op => op.truthy
  | none => false

/-- `e.get("fd") == fd`. -/
def onFd (fd : ℤ) (e : Event) : Bool :=
  match Json.member? e "fd" with
  | some v => v.eqInt fd
  | none => false

/-- `"open" in e or "open64" in e`. -/
def isOpen (e : Event) : Bool := has e "open" || has e "open64"

/-! ### Scalar values -/

/-- `2**32 - 1`, the default upper bound of `integer`. -/
def u32Max : ℤ := 0xFFFFFFFF

/-- `2**63 - 1`. -/
def i64Max : ℤ := 0x7FFFFFFFFFFFFFFF

/-- `2**64 - 1`. -/
def u64Max : ℤ := 0xFFFFFFFFFFFFFFFF

/-- `integer(value, low, high)`; a Boolean is no integer. -/
def integer (value : Json) (low high : ℤ) : Read ℤ :=
  match value with
  | .int n => if low ≤ n ∧ n ≤ high then .ok n else .error (reject "invalid integer")
  | _ => .error (reject "invalid integer")

/-- The characters that `str.strip` removes. -/
def isSpace (c : Char) : Bool :=
  c.toNat ∈ [9, 10, 11, 12, 13, 28, 29, 30, 31, 32, 0x85, 0xA0, 0x1680, 0x2028, 0x2029, 0x202F,
    0x205F, 0x3000] || decide (0x2000 ≤ c.toNat ∧ c.toNat ≤ 0x200A)

/-- `text.strip()`. -/
def strip (cs : List Char) : List Char :=
  ((cs.dropWhile isSpace).reverse.dropWhile isSpace).reverse

/-- `[t.strip() for t in text.split("|")]`. -/
def tokens (text : String) : List String :=
  (text.toList.splitOn '|').map fun cs => String.ofList (strip cs)

/-- `flags(value, prefix, allowed)`: the names of the flags that are set. -/
def flags (value : Json) (lead : String) (allowed : List String) : Read (List String) :=
  match value with
  | .str text => do
      let ts := if text = "" then [] else tokens text
      need ts.Nodup (reject "duplicate flag")
      need (∀ t ∈ ts, t ∈ allowed.map (lead ++ ·)) (reject "unknown flag encoding")
      return ts.map fun t => String.ofList (t.toList.drop lead.length)
  | _ => .error (reject "missing flags")

/-- `re.fullmatch(r"V4L2_BUF_FLAG_[A-Z0-9_]+", t)`. -/
def isBufferFlag (t : String) : Bool :=
  let lead := "V4L2_BUF_FLAG_".toList
  let rest := t.toList.drop lead.length
  lead.isPrefixOf t.toList && !rest.isEmpty &&
    rest.all fun c => c.isUpper || c.isDigit || c = '_'

/-- `buffer_flags(value)`. -/
def bufferFlags (value : Json) : Read (List String) :=
  match value with
  | .str text => do
      let ts := tokens text
      need (∀ t ∈ ts, isBufferFlag t) (reject "unknown numeric buffer flag")
      need ("V4L2_BUF_FLAG_ERROR" ∉ ts) (reject "buffer error")
      need ("V4L2_BUF_FLAG_M2M_HOLD_CAPTURE_BUF" ∉ ts)
        (reject "partial/multi-request pictures are unsupported")
      return ts
  | _ => .error (reject "missing buffer flags")

/-- `timestamp(buf)`. -/
def timestamp (buf : Json) : Read ℤ := do
  let ns ← integer (← buf.item "timestamp_ns") 0 u64Max
  let tv ← buf.item "timestamp"
  let sec ← integer (← tv.item "tv_sec") 0 i64Max
  let usec ← integer (← tv.item "tv_usec") 0 999999
  need (ns = sec * 1000000000 + usec * 1000) (reject "inconsistent timestamp")
  need (ns % 1000 = 0 ∧ ns / 1000 ≤ u32Max) (reject "not a GStreamer system-frame timestamp")
  return ns

/-! ### Arguments and controls -/

/-- `arguments(event, direction, key)`. -/
def arguments (e : Event) (direction key : String) : Read Json := do
  let outer ← item e direction
  let result ← outer.item key
  need result.isObj (reject "missing ioctl arguments")
  return result

/-- The control payloads that the adapter reads. -/
inductive Control where
  | sps | decodeParams | sliceParams
  deriving DecidableEq, Repr

namespace Control

/-- `CID + name`. -/
def cid : Control → String
  | sps => "V4L2_CID_STATELESS_HEVC_SPS"
  | decodeParams => "V4L2_CID_STATELESS_HEVC_DECODE_PARAMS"
  | sliceParams => "V4L2_CID_STATELESS_HEVC_SLICE_PARAMS"

/-- `SIZES[name]`. -/
def size : Control → ℤ
  | sps => 40
  | decodeParams => 328
  | sliceParams => 280

/-- `"v4l2_ctrl_hevc_" + name.lower()`. -/
def payloadKey : Control → String
  | sps => "v4l2_ctrl_hevc_sps"
  | decodeParams => "v4l2_ctrl_hevc_decode_params"
  | sliceParams => "v4l2_ctrl_hevc_slice_params"

end Control

/-- The identifier of a control, if it is an object with a string identifier. -/
def controlId? (c : Json) : Option String :=
  match c.get? "id" with
  | some (.str name) => some name
  | _ => none

/-- `controls(event)`: the argument object and the controls by identifier. -/
def controls (e : Event) : Read (Json × Dict String Json) := do
  let ext ← arguments e "from_userspace" "v4l2_ext_controls"
  let items ← ext.item "controls"
  match items with
  | .arr cs => do
      let count ← integer (← ext.item "count") 0 64
      need ((cs.length : ℤ) = count) (reject "incomplete controls array")
      need (∀ c ∈ cs, (controlId? c).isSome) (reject "invalid control")
      need (cs.filterMap controlId?).Nodup (reject "duplicate control")
      return (ext, Dict.update ∅ (cs.filterMap fun c => (controlId? c).map fun name => (name, c)))
  | _ => .error (reject "incomplete controls array")

/-- `payload(ctrls, name)`. -/
def payload (ctrls : Dict String Json) (name : Control) : Read Json := do
  let c ← found (ctrls.get? name.cid) (.builtin .keyError)
  let size ← integer (← c.item "size") 0 u32Max
  need (size = name.size)
    (reject "unsupported control size (multi-slice traces lose all but first slice)")
  let p ← c.item name.payloadKey
  need p.isObj (reject "missing control payload")
  return p

/-! ### The video context -/

/-- The first loop of `normalize`: the position and the descriptor of every event that sets decode
parameters. -/
def candidates : List (Event × ℕ) → Read (List (ℕ × ℤ))
  | [] => .ok []
  | (e, i) :: rest =>
      if opIs e "VIDIOC_S_EXT_CTRLS" then do
        let (_, cs) ← controls e
        if cs.contains Control.decodeParams.cid then do
          let fd ← integer (← item e "fd") 0 u32Max
          let more ← candidates rest
          return (i, fd) :: more
        else candidates rest
      else candidates rest

/-- The descriptor of the video context and the position of its last open before the first decode
parameters. -/
def select (events : List Event) : Read (ℤ × ℕ) := do
  let cands ← candidates events.zipIdx
  let (first, fd) ← found cands.head? (reject "expected exactly one HEVC video context")
  need (∀ c ∈ cands, c.2 = fd) (reject "expected exactly one HEVC video context")
  let opens := ((events.take first).zipIdx.filter fun p => onFd fd p.1 && isOpen p.1).map Prod.snd
  let start ← found opens.getLast? (reject "missing video open / truncated context")
  return (fd, start)

end OmarchyM1Video.HevcControls
