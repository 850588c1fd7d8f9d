import Mathlib.Algebra.Order.Group.Nat
import Mathlib.Data.Nat.Notation
import Mathlib.Tactic.IntervalCases
import Mathlib.Tactic.Ring
import Mathlib.Tactic.SplitIfs
import OmarchyM1Video.Py.Bytes
import OmarchyM1Video.Py.Exec

/-!
The first frame of a WebM file, as `tests/vp9-sub64-scan.py` finds it.

* `vint`, `blockFrame`, `scan`, `walk`: `_vint`, and the loops of `_webm_first_frame`, which end
  because every range is left for smaller ones;
* `Safe`: what raises `ValueError` only;
* `Elements`: a list of EBML elements of known sizes, how it is written (`encode`), and the first block in it
  (`firstBlock`);
* `webm_first_frame`: **the frame that is found is that of the first block**, and for no bytes at
  all
  is a byte read that is not there.
-/

namespace OmarchyM1Video.Vp9Scan

open OmarchyM1Video.Py

/-- What the functions return, or the exception: a `ValueError` with its text, or a built-in one. -/
abbrev Result (α : Type) := Except (Exc String) α

/-- `data[i]`, of an index that is not negative. -/
def byteAt (data : List UInt8) (i : ℕ) : Result UInt8 :=
  match data[i]? with
  | some b => .ok b
  | none => .error (.builtin .indexError)

/-- `while not (first & (0x80 >> (length - 1)))`, from this length on. -/
def widthFrom (first : ℕ) (length : ℕ) : Result ℕ :=
  if first &&& (0x80 >>> (length - 1)) ≠ 0 then .ok length
  else if 8 < length + 1 then .error (.raise "invalid EBML width")
  else widthFrom first (length + 1)
termination_by 9 - length

/-- `for i in range(1, length): value = (value << 8) | data[pos + i]`, from an index on. -/
def valueFrom (data : List UInt8) (i : ℕ) : ℕ → ℕ → Result ℕ
  | 0, value => .ok value
  | n + 1, value => do
      let b ← byteAt data i
      valueFrom data (i + 1) n (value <<< 8 ||| b.toNat)

/-- `first if keep_marker else first & (0x7F >> (length - 1))`. -/
def firstValue (keepMarker : Bool) (first length : ℕ) : ℕ :=
  if keepMarker then first else first &&& (0x7F >>> (length - 1))

/-- `_vint(data, pos, keep_marker)`. -/
def vint (data : List UInt8) (pos : ℕ) (keepMarker : Bool) : Result (ℕ × ℕ) :=
  if data.length ≤ pos then .error (.raise "truncated EBML id/size")
  else do
    let first ← byteAt data pos
    if first = 0 then .error (.raise "invalid EBML width")
    else do
      let length ← widthFrom first.toNat 1
      if data.length < pos + length then .error (.raise "truncated EBML value")
      else do
        let value := firstValue keepMarker first.toNat length
        return (← valueFrom data (pos + 1) (length - 1) value, pos + length)

/-- `MASTER`: Segment, Cluster, BlockGroup. -/
def master : List ℕ := [0x18538067, 0x1F43B675, 0xA0]

/-- `BLOCK`: SimpleBlock, Block. -/
def block : List ℕ := [0xA3, 0xA1]

/-- The frame of the block whose body is `data[pos:pos + size]`. -/
def blockFrame (data : List UInt8) (pos size : ℕ) : Result (List UInt8) := do
  let (_, bp) ← vint (data.take (pos + size)) pos false  -- track number
  if pos + size < bp + 3 then .error (.raise "truncated block header")
  else do
    let flags ← byteAt data (bp + 2)  -- after the timecode
    if flags &&& 0x06 ≠ 0 then .error (.raise "laced block is not supported")
    else .ok ((data.take (pos + size)).drop (bp + 3))

/-- The id and the size of an element, and where its body is. -/
def header (data : List UInt8) (pos stop : ℕ) : Result (ℕ × ℕ × ℕ) := do
  let (eid, pos) ← vint data pos true
  let (size, pos) ← vint data pos false
  if stop < pos ∨ stop - pos < size then .error (.raise "EBML element overruns its parent")
  else .ok (eid, size, pos)

/-- How the inner loop ends: with a frame, with the range of a master element and what is left of
its parent, or at the end of its range. -/
inductive Scanned where
  | frame (data : List UInt8)
  | nested (inside rest : ℕ × ℕ)
  | done
  deriving DecidableEq, Repr

section Lengths

variable {data : List UInt8} {pos stop v p eid size : ℕ} {keep : Bool}

lemma ok_bind {α β : Type} (a : α) (f : α → Result β) : (Except.ok a >>= f) = f a := rfl

lemma bind_ok_iff {α β : Type} {x : Result α} {f : α → Result β} {b : β} :
    (x >>= f) = .ok b ↔ ∃ a, x = .ok a ∧ f a = .ok b := by
  rcases x with e | a
  · exact iff_of_false (by rintro ⟨⟩) (by rintro ⟨_, ⟨⟩, _⟩)
  · exact ⟨fun h => ⟨a, rfl, h⟩, fun ⟨a', heq, h⟩ => Except.ok.inj heq ▸ h⟩

lemma widthFrom_pos {first length w : ℕ} (hlength : 1 ≤ length)
    (h : widthFrom first length = .ok w) : 1 ≤ w := by
  induction length using widthFrom.induct first with
  | case1 length hbit =>
      rw [widthFrom, if_pos hbit] at h
      cases h
      exact hlength
  | case2 length hbit hlarge =>
      rw [widthFrom, if_neg hbit, if_pos hlarge] at h
      cases h
  | case3 length hbit hlarge ih =>
      rw [widthFrom, if_neg hbit, if_neg hlarge] at h
      exact ih (by omega) h

/-- What is read takes up one byte at least, and is there. -/
lemma lt_of_vint (h : vint data pos keep = .ok (v, p)) : pos < p ∧ p ≤ data.length := by
  rw [vint] at h
  split_ifs at h with hpos
  obtain ⟨first, _, h⟩ := bind_ok_iff.mp h
  split_ifs at h with hzero
  obtain ⟨length, hwidth, h⟩ := bind_ok_iff.mp h
  have hle := widthFrom_pos (Nat.le_refl 1) hwidth
  split_ifs at h with hshort
  obtain ⟨value, _, h⟩ := bind_ok_iff.mp h
  obtain ⟨-, rfl⟩ := Prod.mk.inj (Except.ok.inj h)
  exact ⟨by omega, Nat.not_lt.mp hshort⟩

lemma header_bounds (h : header data pos stop = .ok (eid, size, p)) :
    pos + 2 ≤ p ∧ p + size ≤ stop := by
  obtain ⟨⟨eid', q⟩, hid, h⟩ := bind_ok_iff.mp h
  obtain ⟨⟨size', p'⟩, hsize, h⟩ := bind_ok_iff.mp h
  dsimp only at h
  split_ifs at h with hrange
  cases h
  have hq := (lt_of_vint hid).1
  have hp := (lt_of_vint hsize).1
  omega

end Lengths

/-- The inner loop: `while pos < end`. -/
def scan (data : List UInt8) (pos stop : ℕ) : Result Scanned :=
  if pos < stop then
    match _h : header data pos stop with
    | .error e => .error e
    | .ok (eid, size, pos') =>
        if eid ∈ block then (blockFrame data pos' size).map .frame
        else if eid ∈ master then .ok (.nested (pos', pos' + size) (pos' + size, stop))
        else scan data (pos' + size) stop
  else .ok .done
termination_by stop - pos
decreasing_by
  have hbounds := header_bounds _h
  omega

/-- What is left to read of the ranges on the stack. -/
def left (stack : List (ℕ × ℕ)) : ℕ := (stack.map fun r => 2 * (r.2 - r.1) + 1).sum

lemma scan_eq (data : List UInt8) (pos stop : ℕ) : scan data pos stop =
    if pos < stop then
      match header data pos stop with
      | .error e => .error e
      | .ok (eid, size, pos') =>
          if eid ∈ block then (blockFrame data pos' size).map .frame
          else if eid ∈ master then .ok (.nested (pos', pos' + size) (pos' + size, stop))
          else scan data (pos' + size) stop
    else .ok .done := by
  rw [scan]
  split_ifs
  · split <;> simp_all
  · rfl

/-- How the inner loop ends: at the end of its range, or at one element, whose header is bad, or
which is a block, or a master element. -/
lemma scan_cases (data : List UInt8) (pos stop : ℕ) : scan data pos stop = .ok .done ∨
    ∃ p, pos ≤ p ∧ p < stop ∧
      ((∃ e, header data p stop = .error e ∧ scan data pos stop = .error e) ∨
      ∃ eid size p', header data p stop = .ok (eid, size, p') ∧
        ((eid ∈ block ∧ scan data pos stop = (blockFrame data p' size).map .frame) ∨
        (eid ∈ master ∧
          scan data pos stop = .ok (.nested (p', p' + size) (p' + size, stop))))) := by
  induction hn : stop - pos using Nat.strong_induction_on generalizing pos with
  | _ n ih =>
      rw [scan_eq]
      by_cases hlt : pos < stop
      · rw [if_pos hlt]
        rcases hheader : header data pos stop with e | ⟨eid, size, p'⟩
        · exact .inr ⟨pos, Nat.le_refl pos, hlt, .inl ⟨e, hheader, rfl⟩⟩
        · have hbounds := header_bounds hheader
          dsimp only
          split_ifs with hblock hmaster
          · exact .inr ⟨pos, Nat.le_refl pos, hlt, .inr ⟨eid, size, p', hheader,
              .inl ⟨hblock, rfl⟩⟩⟩
          · exact .inr ⟨pos, Nat.le_refl pos, hlt, .inr ⟨eid, size, p', hheader,
              .inr ⟨hmaster, rfl⟩⟩⟩
          · -- the element is left, and the loop goes on behind it
            obtain hdone | ⟨p, hp, hrest⟩ := ih (stop - (p' + size)) (by omega) (p' + size) rfl
            · exact .inl hdone
            · exact .inr ⟨p, by omega, hrest⟩
      · rw [if_neg hlt]
        exact .inl rfl

/-- The two ranges that come in place of one. -/
lemma nested_bounds {data : List UInt8} {pos stop : ℕ} {inside rest : ℕ × ℕ}
    (h : scan data pos stop = .ok (.nested inside rest)) :
    pos + 2 ≤ inside.1 ∧ inside.1 ≤ inside.2 ∧ rest = (inside.2, stop) ∧ inside.2 ≤ stop := by
  obtain hdone | ⟨p, hp, _, ⟨e, _, herror⟩ | ⟨eid, size, p', hheader, ⟨_,
    hframe⟩ | ⟨_, hnested⟩⟩⟩ :=
    scan_cases data pos stop
  · rw [h] at hdone
    cases hdone
  · rw [h] at herror
    cases herror
  · rw [h] at hframe
    cases hblock : blockFrame data p' size <;> rw [hblock] at hframe <;> cases hframe
  · rw [h] at hnested
    cases hnested
    have hbounds := header_bounds hheader
    exact ⟨by omega, Nat.le_add_right _ _, rfl, hbounds.2⟩

/-- `while stack`. -/
def walk (data : List UInt8) (stack : List (ℕ × ℕ)) : Result (List UInt8) :=
  match stack with
  | [] => .error (.raise "no block found")
  | (pos, stop) :: stack =>
      match _h : scan data pos stop with
      | .error e => .error e
      | .ok (.frame frame) => .ok frame
      | .ok (.nested inside rest) => walk data (inside :: rest :: stack)
      | .ok .done => walk data stack
termination_by left stack
decreasing_by
  · obtain ⟨hfirst, hinside, rfl, hstop⟩ := nested_bounds _h
    simp only [left, List.map_cons, List.sum_cons]
    omega
  · simp only [left, List.map_cons, List.sum_cons]
    omega

/-- `_webm_first_frame(data)`. -/
def webmFirstFrame (data : List UInt8) : Result (List UInt8) := walk data [(0, data.length)]

/-! ### No byte is read that is not there -/

section Safe

variable {α β : Type} {x : Result α} {f : α → Result β} {data : List UInt8} {pos stop size : ℕ}
  {keep : Bool}

/-- What raises `ValueError` only. -/
def Safe (x : Result α) : Prop := ∀ e, x = .error e → ∃ text, e = .raise text

lemma safe_ok (a : α) : Safe (.ok a : Result α) := by rintro e ⟨⟩

lemma safe_raise (text : String) : Safe (.error (.raise text) : Result α) := by
  rintro e ⟨⟩
  exact ⟨text, rfl⟩

lemma Safe.bind (hx : Safe x) (hf : ∀ a, x = .ok a → Safe (f a)) : Safe (x >>= f) := by
  rcases x with e | a
  · rintro e' ⟨⟩
    exact hx e rfl
  · exact hf a rfl

lemma safe_byteAt (h : pos < data.length) : Safe (byteAt data pos) := by
  rw [byteAt, List.getElem?_eq_getElem h]
  exact safe_ok _

lemma safe_widthFrom (first length : ℕ) : Safe (widthFrom first length) := by
  induction length using widthFrom.induct first with
  | case1 length hbit =>
      rw [widthFrom, if_pos hbit]
      exact safe_ok _
  | case2 length hbit hlarge =>
      rw [widthFrom, if_neg hbit, if_pos hlarge]
      exact safe_raise _
  | case3 length hbit hlarge ih =>
      rw [widthFrom, if_neg hbit, if_neg hlarge]
      exact ih

lemma safe_valueFrom {n : ℕ} (h : pos + n ≤ data.length) (value : ℕ) :
    Safe (valueFrom data pos n value) := by
  induction n generalizing pos value with
  | zero => exact safe_ok _
  | succ n ih => exact (safe_byteAt (by omega)).bind fun b _ => ih (by omega) _

lemma safe_vint (data : List UInt8) (pos : ℕ) (keep : Bool) : Safe (vint data pos keep) := by
  rw [vint]
  split_ifs with hpos
  · exact safe_raise _
  · refine (safe_byteAt (not_le.mp hpos)).bind fun first _ => ?_
    split_ifs with hzero
    · exact safe_raise _
    · refine (safe_widthFrom _ _).bind fun length hlength => ?_
      have hlen := widthFrom_pos (Nat.le_refl 1) hlength
      split_ifs with hshort
      · exact safe_raise _
      · exact (safe_valueFrom (by omega) _).bind fun _ _ => safe_ok _

lemma safe_header (data : List UInt8) (pos stop : ℕ) : Safe (header data pos stop) := by
  refine (safe_vint _ _ _).bind fun id _ => (safe_vint _ _ _).bind fun size _ => ?_
  dsimp only
  split_ifs
  · exact safe_raise _
  · exact safe_ok _

lemma safe_blockFrame (h : pos + size ≤ data.length) : Safe (blockFrame data pos size) := by
  refine (safe_vint _ _ _).bind fun track htrack => ?_
  dsimp only
  split_ifs with hshort
  · exact safe_raise _
  · refine (safe_byteAt (by omega)).bind fun flags _ => ?_
    split_ifs
    · exact safe_raise _
    · exact safe_ok _

lemma safe_scan (h : stop ≤ data.length) : Safe (scan data pos stop) := by
  obtain hdone | ⟨p, hp, _, ⟨e, hheader, herror⟩ | ⟨eid, size, p', hheader, ⟨_,
    hframe⟩ | ⟨_, hnested⟩⟩⟩ :=
    scan_cases data pos stop
  · rw [hdone]
    exact safe_ok _
  · obtain ⟨text, rfl⟩ := safe_header _ _ _ e hheader
    rw [herror]
    exact safe_raise text
  · have hbounds := header_bounds hheader
    have hsafe := safe_blockFrame (Nat.le_trans hbounds.2 h)
    rw [hframe]
    rcases hblock : blockFrame data p' size with e | frame
    · obtain ⟨text, rfl⟩ := hsafe e hblock
      exact safe_raise text
    · exact safe_ok _
  · rw [hnested]
    exact safe_ok _

/-- A frame is a part of the data, up to the end of its block. -/
lemma blockFrame_slice {frame : List UInt8} (h : blockFrame data pos size = .ok frame) :
    ∃ bp, bp ≤ pos + size ∧ frame = (data.take (pos + size)).drop bp := by
  obtain ⟨⟨_, bp⟩, _, h⟩ := bind_ok_iff.mp h
  dsimp only at h
  split_ifs at h with hshort
  obtain ⟨flags, _, h⟩ := bind_ok_iff.mp h
  split_ifs at h with hlaced
  cases h
  exact ⟨bp + 3, Nat.not_lt.mp hshort, rfl⟩

lemma scan_slice {frame : List UInt8} (h : scan data pos stop = .ok (.frame frame)) :
    ∃ bp last, bp ≤ last ∧ last ≤ stop ∧ frame = (data.take last).drop bp := by
  obtain hdone | ⟨p, hp, _, ⟨e, _, herror⟩ | ⟨eid, size, p', hheader, ⟨_,
    hframe⟩ | ⟨_, hnested⟩⟩⟩ :=
    scan_cases data pos stop
  · rw [h] at hdone
    cases hdone
  · rw [h] at herror
    cases herror
  · rw [h] at hframe
    rcases hblock : blockFrame data p' size with e | frame'
    · rw [hblock] at hframe
      cases hframe
    · rw [hblock] at hframe
      cases hframe
      obtain ⟨bp, hbp, hslice⟩ := blockFrame_slice hblock
      exact ⟨bp, p' + size, hbp, (header_bounds hheader).2, hslice⟩
  · rw [h] at hnested
    cases hnested

lemma walk_cons (data : List UInt8) (pos stop : ℕ) (stack : List (ℕ × ℕ)) :
    walk data ((pos, stop) :: stack) =
      match scan data pos stop with
      | .error e => .error e
      | .ok (.frame frame) => .ok frame
      | .ok (.nested inside rest) => walk data (inside :: rest :: stack)
      | .ok .done => walk data stack := by
  rw [walk]
  split <;> simp_all

/-- The ranges on the stack are ranges of the data. -/
lemma walk_safe {stack : List (ℕ × ℕ)} (h : ∀ r ∈ stack, r.2 ≤ data.length) :
    Safe (walk data stack) ∧ ∀ frame, walk data stack = .ok frame →
      ∃ bp last, bp ≤ last ∧ last ≤ data.length ∧ frame = (data.take last).drop bp := by
  induction hn : left stack using Nat.strong_induction_on generalizing stack with
  | _ n ih =>
      cases stack with
      | nil =>
          rw [walk]
          exact ⟨safe_raise _, by rintro frame ⟨⟩⟩
      | cons r stack =>
          obtain ⟨pos, stop⟩ := r
          have hstop : stop ≤ data.length := h (pos, stop) List.mem_cons_self
          have hstack : ∀ r ∈ stack, r.2 ≤ data.length := fun r hr =>
              h r (List.mem_cons_of_mem _ hr)
          have hsafe : Safe (scan data pos stop) := safe_scan hstop
          rw [walk_cons]
          rcases hscan : scan data pos stop with e | frame | ⟨inside, rest⟩ | _
          · obtain ⟨text, rfl⟩ := hsafe e hscan
            exact ⟨safe_raise text, by rintro frame ⟨⟩⟩
          · refine ⟨safe_ok _, ?_⟩
            rintro frame ⟨⟩
            obtain ⟨bp, last, hbp, hlast, hslice⟩ := scan_slice hscan
            exact ⟨bp, last, hbp, Nat.le_trans hlast hstop, hslice⟩
          · obtain ⟨hfirst, hinside, rfl, hlast⟩ := nested_bounds hscan
            refine ih _ ?_ ?_ rfl
            · rw [← hn]
              simp only [left, List.map_cons, List.sum_cons]
              omega
            · intro r hr
              rw [List.mem_cons, List.mem_cons] at hr
              obtain rfl | rfl | hr := hr
              · exact Nat.le_trans hlast hstop
              · exact hstop
              · exact hstack r hr
          · refine ih _ ?_ hstack rfl
            rw [← hn]
            simp only [left, List.map_cons, List.sum_cons]
            omega

end Safe

/-! ### Elements -/

/-- So many bytes of a number, the highest first. -/
def bigBytes (w n : ℕ) : List UInt8 := (natBytes w n).reverse

/-- The id of an element, with its marker, and its width. -/
structure ElementId where
  value : ℕ
  width : ℕ
  one_le : 1 ≤ width
  le_eight : width ≤ 8
  marker_le : 2 ^ (7 * width) ≤ value
  lt_marker : value < 2 ^ (7 * width + 1)

/-- A list of EBML elements: the first one, and those behind it. The body of an element is data, or
a list of elements. The width is that of its size. -/
inductive Elements where
  | nil
  | leaf (id : ElementId) (width : ℕ) (body : List UInt8) (rest : Elements)
  | node (id : ElementId) (width : ℕ) (inside rest : Elements)

/-- A number below `2 ^ (7 * w)`, with its marker. -/
def sizeBytes (w n : ℕ) : List UInt8 := bigBytes w (2 ^ (7 * w) + n)

/-- An element: its id, the size of its body, and its body. -/
def elementBytes (id : ElementId) (width : ℕ) (body : List UInt8) : List UInt8 :=
  bigBytes id.width id.value ++ (sizeBytes width body.length ++ body)

namespace Elements

/-- The bytes of the elements. -/
def encode : Elements → List UInt8
  | nil => []
  | leaf id width body rest => elementBytes id width body ++ rest.encode
  | node id width inside rest => elementBytes id width inside.encode ++ rest.encode

/-- The sizes fit into their widths, and no master element has data for its body. -/
def Valid : Elements → Prop
  | nil => True
  | leaf id width body rest => (1 ≤ width ∧ width ≤ 8 ∧ body.length < 2 ^ (7 * width)) ∧
      id.value ∉ master ∧ rest.Valid
  | node _ width inside rest => (1 ≤ width ∧ width ≤ 8 ∧ inside.encode.length < 2 ^ (7 * width)) ∧
      inside.Valid ∧ rest.Valid

/-- The body of the first block that is in no element but Segments, Clusters and BlockGroups. -/
def firstBlock : Elements → Option (List UInt8)
  | nil => none
  | leaf id _ body rest => if id.value ∈ block then some body else rest.firstBlock
  | node id _ inside rest =>
      if id.value ∈ block then some inside.encode
      else if id.value ∈ master then inside.firstBlock.or rest.firstBlock
      else rest.firstBlock

end Elements

section Numbers

variable {data pre post : List UInt8} {w m n v k b : ℕ} {keep : Bool}

lemma byteSpan_eq (w : ℕ) : byteSpan w = 2 ^ (8 * w) := by
  induction w with
  | zero => rfl
  | succ w ih => rw [byteSpan, ih, Nat.mul_succ, Nat.pow_add, Nat.mul_comm]

lemma natBytes_snoc (w m : ℕ) :
    natBytes (w + 1) m = natBytes w m ++ [UInt8.ofNat (m / byteSpan w)] := by
  induction w generalizing m with
  | zero =>
      rw [byteSpan, Nat.div_one]
      rfl
  | succ w ih =>
      rw [natBytes, ih, natBytes, Nat.div_div_eq_div_mul, byteSpan]
      rfl

lemma bigBytes_succ (w m : ℕ) :
    bigBytes (w + 1) m = UInt8.ofNat (m / byteSpan w) :: bigBytes w m := by
  rw [bigBytes, natBytes_snoc, List.reverse_append]
  rfl

@[simp] lemma length_bigBytes (w m : ℕ) : (bigBytes w m).length = w := by
  rw [bigBytes, List.length_reverse, length_natBytes]

lemma byteAt_append (pre post : List UInt8) (b : UInt8) :
    byteAt (pre ++ b :: post) pre.length = .ok b := by
  rw [byteAt, List.getElem?_append_right (Nat.le_refl _), Nat.sub_self]
  rfl

lemma shift_or (v : ℕ) (b : UInt8) : v <<< 8 ||| b.toNat = v * 256 + b.toNat := by
  rw [← Nat.shiftLeft_add_eq_or_of_lt b.toNat_lt, Nat.shiftLeft_eq]

/-- The value of bytes that are there. -/
lemma valueFrom_bigBytes (pre post : List UInt8) (w m v : ℕ) :
    valueFrom (pre ++ (bigBytes w m ++ post)) pre.length w v =
      .ok (v * byteSpan w + m % byteSpan w) := by
  induction w generalizing pre v with
  | zero => rw [valueFrom, byteSpan, Nat.mod_one, Nat.mul_one, Nat.add_zero]
  | succ w ih =>
      have hbyte := byteAt_append pre (bigBytes w m ++ post) (UInt8.ofNat (m / byteSpan w))
      have hrest := ih (pre ++ [UInt8.ofNat (m / byteSpan w)])
        (v <<< 8 ||| (UInt8.ofNat (m / byteSpan w)).toNat)
      rw [List.append_assoc, List.length_append] at hrest
      rw [bigBytes_succ, List.cons_append, valueFrom, hbyte]
      refine hrest.trans (congrArg Except.ok ?_)
      have hmod : m % (byteSpan w * 256) = m % byteSpan w + byteSpan w * (m / byteSpan w % 256) :=
        Nat.mod_mul
      rw [shift_or, UInt8.toNat_ofNat', byteSpan, Nat.mul_comm 256, hmod]
      ring

/-- The width of a first byte, and what is left of it without its marker. -/
lemma first_byte_table : ((List.range 8).all fun k => (List.range 256).all fun b =>
    decide (2 ^ (7 - k) ≤ b → b < 2 ^ (8 - k) →
      widthFrom b 1 = .ok (k + 1) ∧ b &&& (0x7F >>> k) = b - 2 ^ (7 - k))) = true := by
  decide +kernel

lemma first_byte (hk : k < 8) (hlow : 2 ^ (7 - k) ≤ b) (hhigh : b < 2 ^ (8 - k)) :
    widthFrom b 1 = .ok (k + 1) ∧ b &&& (0x7F >>> k) = b - 2 ^ (7 - k) := by
  have hbyte : b < 256 := lt_of_lt_of_le hhigh (Nat.pow_le_pow_right Nat.two_pos (show 8 - k ≤ 8 by
      omega))
  have htable := List.all_eq_true.mp first_byte_table k (List.mem_range.mpr hk)
  exact of_decide_eq_true (List.all_eq_true.mp htable b (List.mem_range.mpr hbyte)) hlow hhigh

/-- The first byte of a number with its marker, and the number from it and the bytes behind it. -/
lemma marker_bounds (hk : k < 8) (hlow : 2 ^ (7 * (k + 1)) ≤ m)
    (hhigh : m < 2 ^ (7 * (k + 1) + 1)) :
    2 ^ (7 - k) ≤ m / byteSpan k ∧ m / byteSpan k < 2 ^ (8 - k) ∧
      (m / byteSpan k - 2 ^ (7 - k)) * byteSpan k + m % byteSpan k = m - 2 ^ (7 * (k + 1)) := by
  have hspan : byteSpan k = 2 ^ (8 * k) := byteSpan_eq k
  have hdiv := Nat.div_add_mod m (byteSpan k)
  have hlt := Nat.mod_lt m (byteSpan_pos k)
  rw [hspan] at hdiv hlt ⊢
  interval_cases k <;> omega

/-- A number with its marker is read, and nothing but its bytes. -/
lemma vint_bigBytes (hw : 1 ≤ w) (hle : w ≤ 8) (hlow : 2 ^ (7 * w) ≤ m)
    (hhigh : m < 2 ^ (7 * w + 1))
    (pre post : List UInt8) (keep : Bool) :
    vint (pre ++ (bigBytes w m ++ post)) pre.length keep =
      .ok (if keep then m else m - 2 ^ (7 * w), pre.length + w) := by
  obtain ⟨k, rfl⟩ := Nat.exists_eq_succ_of_ne_zero (Nat.pos_iff_ne_zero.mp hw)
  obtain ⟨hfirst, hfirst', hvalue⟩ := marker_bounds (by omega) hlow hhigh
  obtain ⟨hwidth, hmask⟩ := first_byte (by omega) hfirst hfirst'
  have hbyte : (UInt8.ofNat (m / byteSpan k)).toNat = m / byteSpan k := by
    have hlarge : 2 ^ (8 - k) ≤ 2 ^ 8 := Nat.pow_le_pow_right Nat.two_pos (by omega)
    rw [UInt8.toNat_ofNat', Nat.mod_eq_of_lt (by omega)]
  have hnonzero : UInt8.ofNat (m / byteSpan k) ≠ 0 := by
    intro h
    rw [h] at hbyte
    have hpos : 0 < 2 ^ (7 - k) := Nat.two_pow_pos _
    change 0 = _ at hbyte
    omega
  have hlength : (pre ++ (bigBytes (k + 1) m ++ post)).length = pre.length + (k + 1) + post.length
      := by
    rw [List.length_append, List.length_append, length_bigBytes]
    omega
  have hrest := valueFrom_bigBytes (pre ++ [UInt8.ofNat (m / byteSpan k)]) post k m
    (firstValue keep (m / byteSpan k) (k + 1))
  rw [List.append_assoc, List.length_append] at hrest
  have hread := byteAt_append pre (bigBytes k m ++ post) (UInt8.ofNat (m / byteSpan k))
  rw [Nat.succ_eq_add_one, vint, hlength, if_neg (by omega), bigBytes_succ, List.cons_append, hread,
    ok_bind, if_neg hnonzero, hbyte, hwidth, ok_bind, if_neg (by omega)]
  refine (congrArg (· >>= _) hrest).trans ?_
  rw [ok_bind]
  cases keep with
  | false =>
      rw [firstValue, if_neg (by decide), if_neg (by decide), Nat.add_sub_cancel, hmask, hvalue]
      rfl
  | true =>
      rw [firstValue, if_pos rfl, if_pos rfl, Nat.mul_comm, Nat.div_add_mod]
      rfl

end Numbers

/-! ### The first block -/

section FirstBlock

variable {pre post body payload : List UInt8} {id : ElementId} {width stop size : ℕ}

/-- The header of an element that is there. -/
lemma header_of_element (hw : 1 ≤ width ∧ width ≤ 8 ∧ body.length < 2 ^ (7 * width))
    (pre post : List UInt8) (hstop : pre.length + (elementBytes id width body).length ≤ stop) :
    header (pre ++ (elementBytes id width body ++ post)) pre.length stop =
      .ok (id.value, body.length, pre.length + id.width + width) := by
  obtain ⟨hone, height, hbody⟩ := hw
  have hid := vint_bigBytes id.one_le id.le_eight id.marker_le id.lt_marker pre
    (sizeBytes width body.length ++ body ++ post) true
  have hsize := @vint_bigBytes width (2 ^ (7 * width) + body.length) hone height
    (Nat.le_add_right _ _) (by rw [Nat.pow_succ]; omega) (pre ++ bigBytes id.width id.value)
    (body ++ post) false
  rw [if_pos rfl, List.append_assoc] at hid
  rw [if_neg (by decide), Nat.add_sub_cancel_left, List.append_assoc, List.length_append,
    length_bigBytes] at hsize
  have hlength : (elementBytes id width body).length = id.width + (width + body.length) := by
    rw [elementBytes, sizeBytes, List.length_append, List.length_append, length_bigBytes,
      length_bigBytes]
  have hdata : pre ++ (elementBytes id width body ++ post) =
      pre ++ (bigBytes id.width id.value ++ (sizeBytes width body.length ++ (body ++ post))) := by
    rw [elementBytes, List.append_assoc, List.append_assoc]
  rw [hdata, header, hid, ok_bind]
  dsimp only
  rw [sizeBytes, hsize, ok_bind]
  dsimp only
  rw [if_neg (by omega)]

/-- The body of a block without lacing: the track number, the timecode, the flags, and the frame. -/
def blockBody (width track : ℕ) (t₁ t₂ flags : UInt8) (payload : List UInt8) : List UInt8 :=
  sizeBytes width track ++ ([t₁, t₂, flags] ++ payload)

lemma blockFrame_of_body {width track : ℕ} {t₁ t₂ flags : UInt8}
    (hw : 1 ≤ width ∧ width ≤ 8 ∧ track < 2 ^ (7 * width)) (hflags : flags &&& 0x06 = 0)
    (pre post : List UInt8) :
    blockFrame (pre ++ (blockBody width track t₁ t₂ flags payload ++ post)) pre.length
      (blockBody width track t₁ t₂ flags payload).length = .ok payload := by
  obtain ⟨hone, height, htrack⟩ := hw
  have hread := @vint_bigBytes width (2 ^ (7 * width) + track) hone height
    (Nat.le_add_right _ _) (by rw [Nat.pow_succ]; omega) pre ([t₁, t₂, flags] ++ payload) false
  rw [if_neg (by decide), Nat.add_sub_cancel_left] at hread
  have hlength : (blockBody width track t₁ t₂ flags payload).length = width + 3 + payload.length :=
      by
    rw [blockBody, sizeBytes, List.length_append, List.length_append, length_bigBytes]
    change width + (3 + _) = _
    omega
  have htake : (pre ++ (blockBody width track t₁ t₂ flags payload ++ post)).take
      (pre.length + (blockBody width track t₁ t₂ flags payload).length) =
        pre ++ blockBody width track t₁ t₂ flags payload := by
    rw [← List.append_assoc, ← List.length_append, List.take_left]
  have hbyte := byteAt_append (pre ++ sizeBytes width track ++ [t₁, t₂]) (payload ++ post) flags
  have hpos : (pre ++ sizeBytes width track ++ [t₁, t₂]).length = pre.length + width + 2 := by
    rw [List.length_append, List.length_append, sizeBytes, length_bigBytes]
    rfl
  rw [hpos, List.append_assoc, List.append_assoc] at hbyte
  have hdrop : (pre ++ blockBody width track t₁ t₂ flags payload).drop (pre.length + width + 3) =
      payload := by
    have hlen : (pre ++ sizeBytes width track ++ [t₁, t₂,
        flags]).length = pre.length + width + 3 := by
      rw [List.length_append, List.length_append, sizeBytes, length_bigBytes]
      rfl
    rw [blockBody, ← List.append_assoc, ← List.append_assoc, List.drop_left' hlen]
  have hdata : pre ++ (blockBody width track t₁ t₂ flags payload ++ post) =
      pre ++ (sizeBytes width track ++ ([t₁, t₂] ++ flags :: (payload ++ post))) := by
    rw [blockBody, List.append_assoc]
    rfl
  rw [← hdata] at hbyte
  have htrackRead : vint (pre ++ blockBody width track t₁ t₂ flags payload) pre.length false =
      .ok (track, pre.length + width) := hread
  rw [blockFrame, htake, htrackRead, ok_bind]
  dsimp only
  rw [if_neg (by omega), hbyte, ok_bind, if_neg (not_not.mpr hflags), hdrop]

lemma length_elementBytes (id : ElementId) (width : ℕ) (body : List UInt8) :
    (elementBytes id width body).length = id.width + width + body.length := by
  rw [elementBytes, sizeBytes, List.length_append, List.length_append, length_bigBytes,
    length_bigBytes, Nat.add_assoc]

/-- The walk at an element. -/
lemma walk_element (hw : 1 ≤ width ∧ width ≤ 8 ∧ body.length < 2 ^ (7 * width))
    (pre post : List UInt8) (hstop : pre.length + (elementBytes id width body).length ≤ stop)
    (stack : List (ℕ × ℕ)) :
    walk (pre ++ (elementBytes id width body ++ post)) ((pre.length, stop) :: stack) =
      if id.value ∈ block then
        blockFrame (pre ++ (elementBytes id width body ++ post)) (pre.length + id.width + width)
          body.length
      else if id.value ∈ master then
        walk (pre ++ (elementBytes id width body ++ post))
          ((pre.length + id.width + width, pre.length + id.width + width + body.length) ::
            (pre.length + id.width + width + body.length, stop) :: stack)
      else
        walk (pre ++ (elementBytes id width body ++ post))
          ((pre.length + id.width + width + body.length, stop) :: stack) := by
  have hlength := length_elementBytes id width body
  have hone := id.one_le
  rw [walk_cons, scan_eq, if_pos (by omega), header_of_element hw pre post hstop]
  dsimp only
  split_ifs with hblock hmaster
  · cases blockFrame (pre ++ (elementBytes id width body ++ post))
      (pre.length + id.width + width) body.length <;> rfl
  · rfl
  · rw [walk_cons]

lemma walk_done (data : List UInt8) (pos : ℕ) (stack : List (ℕ × ℕ)) :
    walk data ((pos, pos) :: stack) = walk data stack := by
  rw [walk_cons, scan_eq, if_neg (Nat.lt_irrefl pos)]

/-- The range holds these elements. -/
def InRange (data : List UInt8) (r : ℕ × ℕ) (f : Elements) : Prop :=
  ∃ pre post, data = pre ++ (f.encode ++ post) ∧ r = (pre.length, pre.length + f.encode.length)

lemma inRange_rest (id : ElementId) (width : ℕ) (body pre post : List UInt8) (rest : Elements) :
    InRange (pre ++ (elementBytes id width body ++ rest.encode ++ post))
      (pre.length + id.width + width + body.length,
        pre.length + (elementBytes id width body ++ rest.encode).length) rest := by
  refine ⟨pre ++ elementBytes id width body, post, ?_, ?_⟩
  · rw [List.append_assoc, List.append_assoc]
  · rw [List.length_append, List.length_append, length_elementBytes]
    congr 1 <;> omega

/-- The body of an element, in the data. -/
lemma data_eq_body (id : ElementId) (width : ℕ) (body pre post : List UInt8) :
    pre ++ (elementBytes id width body ++ post) =
      pre ++ bigBytes id.width id.value ++ sizeBytes width body.length ++ (body ++ post) := by
  rw [elementBytes]
  simp only [List.append_assoc]

lemma length_before_body (id : ElementId) (width n : ℕ) (pre : List UInt8) :
    (pre ++ bigBytes id.width id.value ++ sizeBytes width n).length =
      pre.length + id.width + width := by
  rw [List.length_append, List.length_append, sizeBytes, length_bigBytes, length_bigBytes]

lemma inRange_inside (id : ElementId) (width : ℕ) (pre post : List UInt8) (inside : Elements) :
    InRange (pre ++ (elementBytes id width inside.encode ++ post))
      (pre.length + id.width + width, pre.length + id.width + width + inside.encode.length)
      inside := by
  refine ⟨_, post, data_eq_body id width inside.encode pre post, ?_⟩
  rw [length_before_body]

/-- A block is returned. -/
lemma frame_of_element {blockWidth track : ℕ} {t₁ t₂ flags : UInt8}
    (hw : 1 ≤ blockWidth ∧ blockWidth ≤ 8 ∧ track < 2 ^ (7 * blockWidth))
    (hflags : flags &&& 0x06 = 0) (id : ElementId) (width : ℕ) (pre post : List UInt8)
    (hbody : body = blockBody blockWidth track t₁ t₂ flags payload) :
    blockFrame (pre ++ (elementBytes id width body ++ post)) (pre.length + id.width + width)
      body.length = .ok payload := by
  rw [data_eq_body, ← length_before_body id width body.length, hbody]
  exact blockFrame_of_body hw hflags _ post

/-- Less is left behind an element. -/
lemma left_rest_lt (id : ElementId) (width pos : ℕ) (body rest : List UInt8)
    (stack : List (ℕ × ℕ)) :
    left ((pos + id.width + width + body.length,
        pos + (elementBytes id width body ++ rest).length) :: stack) <
      left ((pos, pos + (elementBytes id width body ++ rest).length) :: stack) := by
  have hone := id.one_le
  rw [List.length_append, length_elementBytes]
  simp only [left, List.map_cons, List.sum_cons]
  omega

/-- Less is left in an element and behind it. -/
lemma left_nested_lt (id : ElementId) (width pos : ℕ) (body rest : List UInt8)
    (stack : List (ℕ × ℕ)) :
    left ((pos + id.width + width, pos + id.width + width + body.length) ::
        (pos + id.width + width + body.length,
          pos + (elementBytes id width body ++ rest).length) :: stack) <
      left ((pos, pos + (elementBytes id width body ++ rest).length) :: stack) := by
  have hone := id.one_le
  rw [List.length_append, length_elementBytes]
  simp only [left, List.map_cons, List.sum_cons]
  omega

/-- The step of the walk at an element of a range, from what comes of the smaller ranges. -/
lemma walk_step {data : List UInt8} {stack : List ((ℕ × ℕ) × Elements)} {rest : Elements}
    {blockWidth track : ℕ} {flags : UInt8} (t₁ t₂ : UInt8)
    (hw : 1 ≤ blockWidth ∧ blockWidth ≤ 8 ∧ track < 2 ^ (7 * blockWidth))
    (hflags : flags &&& 0x06 = 0)
    (hbody : 1 ≤ width ∧ width ≤ 8 ∧ body.length < 2 ^ (7 * width))
    (hdata : data = pre ++ (elementBytes id width body ++ rest.encode ++ post))
    (hframe : id.value ∈ block → body = blockBody blockWidth track t₁ t₂ flags payload)
    (hinside : id.value ∉ block → id.value ∈ master →
      walk data ((pre.length + id.width + width, pre.length + id.width + width + body.length) ::
        (pre.length + id.width + width + body.length,
          pre.length + (elementBytes id width body ++ rest.encode).length) :: stack.map Prod.fst) =
        .ok payload)
    (hrest : id.value ∉ block → id.value ∉ master →
      walk data ((pre.length + id.width + width + body.length,
        pre.length + (elementBytes id width body ++ rest.encode).length) :: stack.map Prod.fst) =
        .ok payload) :
    walk data ((pre.length, pre.length + (elementBytes id width body ++ rest.encode).length) ::
      stack.map Prod.fst) = .ok payload := by
  have hle : pre.length + (elementBytes id width body).length ≤
      pre.length + (elementBytes id width body ++ rest.encode).length := by
    rw [List.length_append]
    omega
  rw [List.append_assoc] at hdata
  subst hdata
  rw [walk_element hbody pre (rest.encode ++ post) hle]
  split_ifs with hblock hmaster
  · exact frame_of_element hw hflags id width pre _ (hframe hblock)
  · exact hinside hblock hmaster
  · exact hrest hblock hmaster

/-- The walk reads the elements of its ranges one after another, and returns the first block. -/
lemma walk_of_firstBlock {data : List UInt8} {stack : List ((ℕ × ℕ) × Elements)}
    {blockWidth track : ℕ} {t₁ t₂ flags : UInt8}
    (hw : 1 ≤ blockWidth ∧ blockWidth ≤ 8 ∧ track < 2 ^ (7 * blockWidth))
    (hflags : flags &&& 0x06 = 0) (h : ∀ x ∈ stack, InRange data x.1 x.2 ∧ x.2.Valid)
    (hblock : stack.findSome? (fun x => x.2.firstBlock) =
      some (blockBody blockWidth track t₁ t₂ flags payload)) :
    walk data (stack.map Prod.fst) = .ok payload := by
  induction hn : left (stack.map Prod.fst) using Nat.strong_induction_on generalizing stack with
  | _ n ih =>
      cases stack with
      | nil => cases hblock
      | cons x stack =>
          obtain ⟨r, f⟩ := x
          obtain ⟨⟨pre, post, hdata, hr⟩, hvalid⟩ := h _ List.mem_cons_self
          have hstack := fun y hy => h y (List.mem_cons_of_mem _ hy)
          dsimp only at hdata hr hvalid
          subst hr
          rw [List.findSome?_cons] at hblock
          cases f with
          | nil =>
              rw [List.map_cons]
              change walk data ((pre.length, pre.length) :: _) = _
              rw [walk_done]
              refine ih _ ?_ hstack hblock rfl
              rw [← hn]
              simp only [left, List.map_cons, List.sum_cons]
              omega
          | leaf id width body rest =>
              obtain ⟨hbody, hnot, hrest⟩ := hvalid
              rw [Elements.firstBlock] at hblock
              refine walk_step t₁ t₂ hw hflags hbody hdata ?_ ?_ ?_
              · intro hid
                rw [if_pos hid] at hblock
                exact Option.some.inj hblock
              · exact fun _ hmaster => absurd hmaster hnot
              · intro hid _
                rw [if_neg hid] at hblock
                refine @ih _ ?_ (((_, _), rest) :: stack) ?_ hblock rfl
                · exact hn ▸ left_rest_lt id _ _ _ _ _
                · exact List.forall_mem_cons.mpr ⟨⟨hdata ▸ inRange_rest id width body pre post rest,
                    hrest⟩, hstack⟩
          | node id width inside rest =>
              obtain ⟨hbody, hinside, hrest⟩ := hvalid
              rw [Elements.encode] at hdata
              rw [Elements.firstBlock] at hblock
              refine walk_step t₁ t₂ hw hflags hbody hdata ?_ ?_ ?_
              · intro hid
                rw [if_pos hid] at hblock
                exact Option.some.inj hblock
              · intro hid hmaster
                rw [if_neg hid, if_pos hmaster] at hblock
                refine @ih _ ?_ (((_, _), inside) :: ((_, _), rest) :: stack) ?_ ?_ rfl
                · exact hn ▸ left_nested_lt id _ _ _ _ _
                · have hin := inRange_inside id width pre (rest.encode ++ post) inside
                  rw [← List.append_assoc (elementBytes id width inside.encode), ← hdata] at hin
                  refine List.forall_mem_cons.mpr ⟨⟨hin, hinside⟩, ?_⟩
                  exact List.forall_mem_cons.mpr
                    ⟨⟨hdata ▸ inRange_rest id width inside.encode pre post rest, hrest⟩, hstack⟩
                · rw [List.findSome?_cons, List.findSome?_cons, ← hblock]
                  cases inside.firstBlock <;> rfl
              · intro hid hmaster
                rw [if_neg hid, if_neg hmaster] at hblock
                refine @ih _ ?_ (((_, _), rest) :: stack) ?_ hblock rfl
                · exact hn ▸ left_rest_lt id _ _ _ _ _
                · exact List.forall_mem_cons.mpr
                    ⟨⟨hdata ▸ inRange_rest id width inside.encode pre post rest, hrest⟩, hstack⟩

end FirstBlock

/-- **The frame that is found is that of the first block.** Of any data the search comes to an end,
raises `ValueError` at most, and returns a part of the data; of elements it returns the frame of the
first block that is in Segments, Clusters and BlockGroups only, if that has no lacing. -/
theorem webm_first_frame :
    (∀ data : List UInt8, (∀ e, webmFirstFrame data = .error e → ∃ text, e = .raise text) ∧
      ∀ frame, webmFirstFrame data = .ok frame →
        ∃ bp last, bp ≤ last ∧ last ≤ data.length ∧ frame = (data.take last).drop bp) ∧
    ∀ (f : Elements) (width track : ℕ) (t₁ t₂ flags : UInt8) (payload : List UInt8), f.Valid →
      1 ≤ width ∧ width ≤ 8 ∧ track < 2 ^ (7 * width) → flags &&& 0x06 = 0 →
      f.firstBlock = some (blockBody width track t₁ t₂ flags payload) →
        webmFirstFrame f.encode = .ok payload := by
  refine ⟨fun data => walk_safe ?_, fun f width track t₁ t₂ flags payload hf hw hflags hblock => ?_⟩
  · intro r hr
    rw [List.mem_singleton.mp hr]
  · have hrange : InRange f.encode (0, f.encode.length) f :=
      ⟨[], [], by rw [List.append_nil, List.nil_append], by rw [List.length_nil, Nat.zero_add]⟩
    refine @walk_of_firstBlock payload f.encode [((0, f.encode.length), f)] width track t₁ t₂ flags
      hw hflags ?_ ?_
    · exact List.forall_mem_singleton.mpr ⟨hrange, hf⟩
    · rw [List.findSome?_cons, hblock]

/-- The id of a SimpleBlock. -/
def simpleBlockId : ElementId := ⟨0xA3, 1, by decide, by decide, by decide, by decide⟩

/-- The id of a Segment. -/
def segmentId : ElementId := ⟨0x18538067, 4, by decide, by decide, by decide, by decide⟩

/-- The id of a Cluster. -/
def clusterId : ElementId := ⟨0x1F43B675, 4, by decide, by decide, by decide, by decide⟩

/-- An empty cluster does not hide the block behind it. -/
def emptyCluster : Elements :=
  .node segmentId 1 (.node clusterId 2 .nil (.node clusterId 1
    (.leaf simpleBlockId 1 (blockBody 1 1 0 0 0x80 [0x82]) .nil) .nil)) .nil

theorem webm_first_frame_empty_cluster : webmFirstFrame emptyCluster.encode = .ok [0x82] := by
  refine webm_first_frame.2 emptyCluster 1 1 0 0 0x80 [0x82] ?_ (by decide) (by decide) ?_
  · exact ⟨by decide +kernel, ⟨by decide +kernel, trivial,
      ⟨by decide +kernel, ⟨by decide +kernel, by decide, trivial⟩, trivial⟩⟩, trivial⟩
  · rfl

end OmarchyM1Video.Vp9Scan
