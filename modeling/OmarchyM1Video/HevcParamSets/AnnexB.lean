import OmarchyM1Video.HevcParamSets.Rbsp

/-!
Byte streams of NAL units: `split_annexb` and `join_annexb` of `hevcnal.py`, the scan for start
codes of `nals` in `tests/h264-interlace-scan.py`, and that of `parameter_set_evidence` in
`deployment/derive_targets.py`.

* `Nal`: a NAL unit as the fixtures have it;
* `scanStarts`, `extents`: where the start codes are, and what is between them;
* `Nal.not_code`: no start code begins inside of a unit;
* `nal_codec`: what comes back of a payload, of bits, of a value and of a list of units.
-/

namespace OmarchyM1Video.HevcParamSets.Hevcnal

open OmarchyM1Video.Bits OmarchyM1Video.Py

/-! ### Splitting and joining -/

/-- `START_CODE`. -/
def startCode : List UInt8 := [0, 0, 0, 1]

/-- `join_annexb(nals)`. -/
def joinAnnexb (nals : List (List UInt8)) : List UInt8 := nals.flatMap (startCode ++ ·)

/-- `data[start:stop]`. -/
def slice (data : List UInt8) (start stop : ℕ) : List UInt8 := (data.drop start).take (stop - start)

/-- `rstrip(b"\x00")`. -/
def rstrip (bytes : List UInt8) : List UInt8 := bytes.rdropWhile fun b => b = 0

/-- What `split_annexb` has found when it comes to a start code. -/
def closed (data : List UInt8) (start : Option ℕ) (stop : ℕ) : List (List UInt8) :=
  match start with
  | some start => [rstrip (slice data start stop)]
  | none => []

/-- The loop of `split_annexb`: the start of the last unit, and the units before it. -/
def splitLoop (data : List UInt8) (i : ℕ) (start : Option ℕ) (nals : List (List UInt8)) :
    Option ℕ × List (List UInt8) :=
  if i + 2 < data.length then
    if (data.drop i).take 3 = [0, 0, 1] then
      splitLoop data (i + 3) (some (i + 3)) (nals ++ closed data start i)
    else splitLoop data (i + 1) start nals
  else (start, nals)
termination_by data.length - i

/-- The units with the last one. -/
def splitEnd (data : List UInt8) (r : Option ℕ × List (List UInt8)) : List (List UInt8) :=
  match r.1 with
  | some start => r.2 ++ [if start < data.length then rstrip (data.drop start) else []]
  | none => r.2

/-- `split_annexb(data)`. -/
def splitAnnexb (data : List UInt8) : List (List UInt8) :=
  (splitEnd data (splitLoop data 0 none [])).filter (· ≠ [])

/-! ### Scanning for start codes -/

/-- A start code of three or of four bytes. -/
inductive StartCode
  | three
  | four
  deriving DecidableEq, Repr

def StartCode.length : StartCode → ℕ
  | .three => 3
  | .four => 4

lemma StartCode.length_pos (c : StartCode) : 0 < c.length := by cases c <;> decide

/-- The start codes from a position on, by what looks for one there. -/
def scanStarts (codeAt : List UInt8 → Option StartCode) (data : List UInt8) (i : ℕ) :
    List (ℕ × StartCode) :=
  if i + 3 ≤ data.length then
    match codeAt (data.drop i) with
    | some c => (i, c) :: scanStarts codeAt data (i + c.length)
    | none => scanStarts codeAt data (i + 1)
  else []
termination_by data.length - i
decreasing_by
  · have hpos := StartCode.length_pos ‹StartCode›
    omega
  · omega

/-- What `nals` looks for. -/
def nalsCodeAt (s : List UInt8) : Option StartCode :=
  if s.take 3 = [0, 0, 1] then some .three
  else if s.take 4 = [0, 0, 0, 1] then some .four
  else none

/-- What `parameter_set_evidence` looks for. -/
def evidenceCodeAt (s : List UInt8) : Option StartCode :=
  if s.take 4 = [0, 0, 0, 1] then some .four
  else if s.take 3 = [0, 0, 1] then some .three
  else none

/-- Where a unit begins and where the next start code or the stream ends. -/
def extents (starts : List (ℕ × StartCode)) (size : ℕ) : List (ℕ × ℕ) :=
  (starts.zip (starts.tail.map Prod.fst ++ [size])).map fun p => (p.1.1 + p.1.2.length, p.2)

/-- `nals(data)`: the type, the first byte and the payload of each unit. -/
def nals (data : List UInt8) : List (UInt8 × UInt8 × List UInt8) :=
  (extents (scanStarts nalsCodeAt data 0) data.length).filterMap fun p =>
    match slice data p.1 p.2 with
    | [] => none
    | b :: payload => some (b &&& 0x1f, b, stripEpb (b :: payload))

/-- The loop of `parameter_set_evidence` over the start codes: the bytes of which it takes the types. -/
def startBytes (raw : List UInt8) : Except String (List UInt8) :=
  (extents (scanStarts evidenceCodeAt raw 0) raw.length).mapM fun p =>
    if p.1 < p.2 then
      match raw[p.1]? with
      | some b => .ok b
      | none => .error "index out of range"
    else .error "empty Annex-B NAL unit"

/-- `parameter_set_evidence(path)`, up to the types. -/
def evidenceBytes (raw : List UInt8) : Except String (List UInt8) := do
  need (scanStarts evidenceCodeAt raw 0 ≠ []) "stream has no Annex-B NAL units"
  startBytes raw

/-- The two scans look for the same, if in another order. -/
lemma evidenceCodeAt_eq : evidenceCodeAt = nalsCodeAt := by
  funext s
  rw [evidenceCodeAt, nalsCodeAt]
  by_cases hfour : s.take 4 = [0, 0, 0, 1]
  · have hthree : s.take 3 ≠ [0, 0, 1] := by
      intro h
      have htake : (s.take 4).take 3 = s.take 3 := by rw [List.take_take]; rfl
      rw [hfour, h] at htake
      exact absurd htake (by decide)
    rw [if_pos hfour, if_neg hthree, if_pos hfour]
  · rw [if_neg hfour, if_neg hfour]

/-! ### Units -/

/-- A NAL unit: a header whose second byte is not zero, and a payload that does not end with
zero. -/
structure Nal where
  first : UInt8
  second : UInt8
  payload : List UInt8
  second_ne : second ≠ 0
  last_ne : ∃ b, payload.getLast? = some b ∧ b ≠ 0

/-- The bytes of a unit. -/
def Nal.bytes (n : Nal) : List UInt8 := n.first :: n.second :: escape n.payload

section Units

variable {data pre a rest : List UInt8} {n : Nal} {ns : List Nal} {i j p : ℕ} {x b : UInt8}

lemma escapeFrom_getLast? {zeros : ℕ} {r : List UInt8} (h : r.getLast? = some b) :
    (escapeFrom zeros r).getLast? = some b := by
  induction r generalizing zeros with
  | nil => exact absurd h (by simp)
  | cons c rest ih =>
      rw [escapeFrom]
      cases rest with
      | nil =>
          rw [escapeFrom, escapeFrom]
          split_ifs
          · exact h
          · exact h
      | cons d rest =>
          rw [List.getLast?_cons_cons] at h
          have hrest := fun zeros => @ih zeros h
          have hne : ∀ zeros, escapeFrom zeros (d :: rest) ≠ [] := fun zeros hnil => by
            have := hrest zeros
            rw [hnil] at this
            exact absurd this (by simp)
          split_ifs
          · rw [List.getLast?_cons_cons, List.getLast?_cons, hrest]
            rfl
          · rw [List.getLast?_cons, hrest]
            rfl

lemma Nal.getLast?_bytes (n : Nal) : ∃ b, n.bytes.getLast? = some b ∧ b ≠ 0 := by
  obtain ⟨b, hb, hne⟩ := n.last_ne
  have hlast := @escapeFrom_getLast? b 0 _ hb
  refine ⟨b, ?_, hne⟩
  rw [Nal.bytes, List.getLast?_cons, List.getLast?_cons, escape, hlast]
  rfl

/-- No start code begins inside of a unit, whatever comes after it. -/
lemma Nal.not_code (hj : j < n.bytes.length) (hx : x ≤ 2) :
    (n.bytes.drop j ++ rest).take 3 ≠ [0, 0, x] := by
  intro htake
  obtain ⟨b, hb, hne⟩ := n.getLast?_bytes
  have hlast : (n.bytes.drop j).getLast? = some b := by
    rw [List.getLast?_drop, if_neg (by omega), hb]
  match hdrop : n.bytes.drop j with
  | [] =>
      rw [hdrop] at hlast
      exact absurd hlast (by simp)
  | [c] =>
      rw [hdrop] at hlast htake
      obtain rfl := Option.some.inj hlast
      exact hne (List.cons.inj htake).1
  | [c, d] =>
      rw [hdrop] at hlast htake
      obtain rfl := Option.some.inj hlast
      exact hne (List.cons.inj (List.cons.inj htake).2).1
  | c :: d :: e :: t =>
      rw [hdrop] at htake
      obtain ⟨rfl, hde⟩ := List.cons.inj htake
      obtain ⟨rfl, he⟩ := List.cons.inj hde
      obtain ⟨rfl, _⟩ := List.cons.inj he
      match j with
      | 0 => exact n.second_ne (List.cons.inj (List.cons.inj hdrop).2).1
      | 1 => exact n.second_ne (List.cons.inj hdrop).1
      | k + 2 =>
          refine not_code_infix_escape hx n.payload ⟨(escape n.payload).take k, t, ?_⟩
          have hsuffix : (escape n.payload).drop k = [0, 0, e] ++ t := hdrop
          rw [List.append_assoc, ← hsuffix, List.take_append_drop]

/-- A scan goes past bytes at which no start code begins. -/
lemma splitLoop_skip {start : Option ℕ} {acc : List (List UInt8)}
    (h : ∀ j < a.length, (a.drop j ++ rest).take 3 ≠ [0, 0, 1]) :
    splitLoop (pre ++ (a ++ rest)) pre.length start acc =
      splitLoop (pre ++ (a ++ rest)) (pre.length + a.length) start acc := by
  induction a generalizing pre with
  | nil => rfl
  | cons c a ih =>
      have hdata : pre ++ (c :: a ++ rest) = pre ++ [c] ++ (a ++ rest) := by
        rw [List.append_assoc, List.singleton_append, List.cons_append]
      have htail := @ih (pre ++ [c]) fun j hj => h (j + 1) (Nat.succ_lt_succ hj)
      rw [← hdata, List.length_append, List.length_singleton] at htail
      rw [List.length_cons, Nat.add_comm a.length, ← Nat.add_assoc, ← htail, splitLoop]
      by_cases hmore : pre.length + 2 < (pre ++ (c :: a ++ rest)).length
      · have hhead := h 0 (Nat.succ_pos _)
        rw [List.drop_zero] at hhead
        rw [if_pos hmore, List.drop_left, if_neg hhead]
      · rw [if_neg hmore, splitLoop, if_neg (by omega)]

lemma scanStarts_skip {codeAt : List UInt8 → Option StartCode}
    (h : ∀ j < a.length, codeAt (a.drop j ++ rest) = none) :
    scanStarts codeAt (pre ++ (a ++ rest)) pre.length =
      scanStarts codeAt (pre ++ (a ++ rest)) (pre.length + a.length) := by
  induction a generalizing pre with
  | nil => rfl
  | cons c a ih =>
      have hdata : pre ++ (c :: a ++ rest) = pre ++ [c] ++ (a ++ rest) := by
        rw [List.append_assoc, List.singleton_append, List.cons_append]
      have htail := @ih (pre ++ [c]) fun j hj => h (j + 1) (Nat.succ_lt_succ hj)
      rw [← hdata, List.length_append, List.length_singleton] at htail
      rw [List.length_cons, Nat.add_comm a.length, ← Nat.add_assoc, ← htail, scanStarts]
      by_cases hmore : pre.length + 3 ≤ (pre ++ (c :: a ++ rest)).length
      · have hhead := h 0 (Nat.succ_pos _)
        rw [List.drop_zero] at hhead
        rw [if_pos hmore, List.drop_left, hhead]
      · rw [if_neg hmore, scanStarts, if_neg (by omega)]

/-- The start code of a unit. -/
lemma splitLoop_code {start : Option ℕ} {acc : List (List UInt8)} :
    splitLoop (pre ++ (startCode ++ rest)) pre.length start acc =
      splitLoop (pre ++ (startCode ++ rest)) (pre.length + 4) (some (pre.length + 4))
        (acc ++ closed (pre ++ (startCode ++ rest)) start (pre.length + 1)) := by
  have hlength : (pre ++ (startCode ++ rest)).length = pre.length + (4 + rest.length) := by
    rw [List.length_append, List.length_append]
    rfl
  have hone : (pre ++ (startCode ++ rest)).drop (pre.length + 1) = 0 :: 0 :: 1 :: rest := by
    rw [← List.drop_drop, List.drop_left]
    rfl
  rw [splitLoop, if_pos (by omega), List.drop_left, if_neg (by rw [startCode]; simp), splitLoop,
    if_pos (by omega), hone, if_pos (show (0 :: 0 :: 1 :: rest).take 3 = [0, 0, 1] from rfl)]

lemma nalsCodeAt_startCode (rest : List UInt8) : nalsCodeAt (startCode ++ rest) = some .four := rfl

lemma Nal.nalsCodeAt_eq_none (hj : j < n.bytes.length) :
    nalsCodeAt (n.bytes.drop j ++ rest) = none := by
  have hfour : (n.bytes.drop j ++ rest).take 4 ≠ [0, 0, 0, 1] := by
    intro h
    refine @Nal.not_code rest n j 0 hj (by decide) ?_
    have htake := congrArg (List.take 3) h
    rwa [List.take_take] at htake
  rw [nalsCodeAt, if_neg (n.not_code hj (by decide)), if_neg hfour]

/-! ### Streams of units -/

/-- The stream of the units. -/
def stream (ns : List Nal) : List UInt8 := joinAnnexb (ns.map Nal.bytes)

lemma stream_cons (n : Nal) (ns : List Nal) :
    stream (n :: ns) = startCode ++ (n.bytes ++ stream ns) := by
  rw [stream, stream, List.map_cons, joinAnnexb, List.flatMap_cons, List.append_assoc, joinAnnexb]

lemma Nal.rstrip_bytes (n : Nal) (k : ℕ) : rstrip (n.bytes ++ List.replicate k 0) = n.bytes := by
  induction k with
  | zero =>
      obtain ⟨b, hb, hne⟩ := n.getLast?_bytes
      obtain ⟨init, hinit⟩ := List.getLast?_eq_some_iff.mp hb
      rw [List.replicate_zero, List.append_nil, hinit]
      exact List.rdropWhile_concat_neg _ _ _ (by simpa using hne)
  | succ k ih =>
      rw [List.replicate_succ', ← List.append_assoc, rstrip,
        List.rdropWhile_concat_pos _ _ _ (by decide)]
      exact ih

/-- The units from the one on that has begun at the end of `pre`. -/
lemma splitEnd_splitLoop {acc : List (List UInt8)} :
    splitEnd (pre ++ (n.bytes ++ stream ns))
      (splitLoop (pre ++ (n.bytes ++ stream ns)) pre.length (some pre.length) acc) =
        acc ++ (n :: ns).map Nal.bytes := by
  induction ns generalizing pre n acc with
  | nil =>
      have hpos : 0 < n.bytes.length := by
        rw [Nal.bytes, List.length_cons]
        omega
      have hlength : (pre ++ (n.bytes ++ stream [])).length = pre.length + n.bytes.length := by
        rw [List.length_append, List.length_append]
        rfl
      rw [splitLoop_skip fun j hj => n.not_code hj (by decide), splitLoop, if_neg (by omega),
        splitEnd]
      dsimp only
      rw [if_pos (by omega), List.drop_left]
      exact congrArg (fun units => acc ++ [units]) (n.rstrip_bytes 0)
  | cons m ns ih =>
      have hdata : pre ++ (n.bytes ++ (startCode ++ (m.bytes ++ stream ns))) =
          pre ++ n.bytes ++ (startCode ++ (m.bytes ++ stream ns)) := (List.append_assoc _ _ _).symm
      have hdata' : pre ++ n.bytes ++ (startCode ++ (m.bytes ++ stream ns)) =
          pre ++ n.bytes ++ startCode ++ (m.bytes ++ stream ns) := (List.append_assoc _ _ _).symm
      have hunit : closed (pre ++ n.bytes ++ (startCode ++ (m.bytes ++ stream ns)))
          (some pre.length) ((pre ++ n.bytes).length + 1) = [n.bytes] := by
        rw [closed, slice, List.append_assoc, List.drop_left, List.length_append]
        rw [show pre.length + n.bytes.length + 1 - pre.length = n.bytes.length + 1 by omega,
          List.take_length_add_append]
        exact congrArg (fun unit => [unit]) (n.rstrip_bytes 1)
      have hstart : (pre ++ n.bytes).length + 4 = (pre ++ n.bytes ++ startCode).length :=
        (@List.length_append _ _ startCode).symm
      rw [splitLoop_skip fun j hj => n.not_code hj (by decide), stream_cons, hdata,
        ← List.length_append, splitLoop_code, hunit, hstart, hdata', ih, List.append_assoc]
      rfl

lemma Nal.bytes_ne_nil (n : Nal) : n.bytes ≠ [] := List.cons_ne_nil _ _

/-- A stream is split into its units. -/
theorem splitAnnexb_stream (ns : List Nal) : splitAnnexb (stream ns) = ns.map Nal.bytes := by
  have hunits : splitEnd (stream ns) (splitLoop (stream ns) 0 none []) = ns.map Nal.bytes := by
    cases ns with
    | nil =>
        rw [splitLoop, if_neg (by decide)]
        rfl
    | cons n ns =>
        have hcode := @splitLoop_code [] (n.bytes ++ stream ns) none []
        rw [stream_cons]
        rw [List.nil_append, List.length_nil] at hcode
        rw [hcode]
        exact @splitEnd_splitLoop startCode _ _ _
  rw [splitAnnexb, hunits, List.filter_eq_self]
  intro unit hunit
  obtain ⟨n, _, rfl⟩ := List.mem_map.mp hunit
  exact decide_eq_true n.bytes_ne_nil

/-- Where the start codes of a stream are. -/
def positions : ℕ → List Nal → List (ℕ × StartCode)
  | _, [] => []
  | p, n :: ns => (p, .four) :: positions (p + 4 + n.bytes.length) ns

/-- Where the units of a stream are. -/
def spans : ℕ → List Nal → List (ℕ × ℕ)
  | _, [] => []
  | p, n :: ns => (p + 4, p + 4 + n.bytes.length) :: spans (p + 4 + n.bytes.length) ns

lemma scanStarts_stream (pre : List UInt8) (ns : List Nal) :
    scanStarts nalsCodeAt (pre ++ stream ns) pre.length = positions pre.length ns := by
  induction ns generalizing pre with
  | nil =>
      have hlength : (pre ++ stream []).length = pre.length := by
        rw [List.length_append]
        rfl
      rw [scanStarts, if_neg (by omega)]
      rfl
  | cons n ns ih =>
      have hlength : (pre ++ stream (n :: ns)).length =
          pre.length + (4 + (n.bytes ++ stream ns).length) := by
        rw [stream_cons, List.length_append, List.length_append]
        rfl
      have hdata : pre ++ (startCode ++ (n.bytes ++ stream ns)) =
          pre ++ startCode ++ (n.bytes ++ stream ns) := (List.append_assoc _ _ _).symm
      have hdata' : pre ++ startCode ++ (n.bytes ++ stream ns) =
          pre ++ startCode ++ n.bytes ++ stream ns := (List.append_assoc _ _ _).symm
      have hrest := ih (pre ++ startCode ++ n.bytes)
      rw [← hdata', @List.length_append _ (pre ++ startCode),
        ← scanStarts_skip fun j hj => n.nalsCodeAt_eq_none hj, ← hdata] at hrest
      rw [scanStarts, if_pos (by omega), List.drop_left, stream_cons, nalsCodeAt_startCode]
      refine congrArg (List.cons (pre.length, StartCode.four)) (Eq.trans ?_ (hrest.trans ?_))
      · rw [List.length_append]
        rfl
      · rw [List.length_append]
        rfl

lemma extents_positions (p : ℕ) (ns : List Nal) :
    extents (positions p ns) (p + (stream ns).length) = spans p ns := by
  induction ns generalizing p with
  | nil => rfl
  | cons n ns ih =>
      have hlength : p + (stream (n :: ns)).length =
          p + 4 + n.bytes.length + (stream ns).length := by
        rw [stream_cons, List.length_append, List.length_append, ← Nat.add_assoc, ← Nat.add_assoc]
        rfl
      have hrest := ih (p + 4 + n.bytes.length)
      rw [extents] at hrest
      rw [hlength, extents, positions, List.tail_cons, spans, ← hrest]
      -- the next unit begins where this one ends, and so does the stream after the last one
      cases ns with
      | nil => rfl
      | cons m ns => rfl

/-- The unit that begins at the end of `pre`, after its start code. -/
lemma stream_cons_append (pre : List UInt8) (n : Nal) (ns : List Nal) :
    pre ++ stream (n :: ns) = pre ++ startCode ++ (n.bytes ++ stream ns) ∧
      pre ++ stream (n :: ns) = pre ++ startCode ++ n.bytes ++ stream ns ∧
      pre.length + 4 = (pre ++ startCode).length ∧
      pre.length + 4 + n.bytes.length = (pre ++ startCode ++ n.bytes).length := by
  have hstart : pre.length + 4 = (pre ++ startCode).length :=
    (@List.length_append _ _ startCode).symm
  refine ⟨?_, ?_, hstart, ?_⟩
  · rw [stream_cons, List.append_assoc]
  · rw [stream_cons, List.append_assoc, List.append_assoc]
  · rw [hstart, @List.length_append _ (pre ++ startCode)]

lemma slice_spans (pre : List UInt8) (ns : List Nal) :
    (spans pre.length ns).map (fun p => slice (pre ++ stream ns) p.1 p.2) = ns.map Nal.bytes := by
  induction ns generalizing pre with
  | nil => rfl
  | cons n ns ih =>
      obtain ⟨hunit, hnext, hstart, hstop⟩ := stream_cons_append pre n ns
      have hslice : slice (pre ++ stream (n :: ns)) (pre ++ startCode).length
          (pre ++ startCode ++ n.bytes).length = n.bytes := by
        rw [hunit, slice, List.drop_left, @List.length_append _ (pre ++ startCode),
          Nat.add_sub_cancel_left, List.take_left]
      rw [spans, List.map_cons, List.map_cons, hstop, hstart, hslice, hnext, ih]

/-- `nals` finds the units, with their first bytes. -/
theorem nals_stream (ns : List Nal) :
    nals (stream ns) = ns.map fun n => (n.first &&& 0x1f, n.first, stripEpb n.bytes) := by
  have hstarts := scanStarts_stream [] ns
  have hextents := extents_positions 0 ns
  have hslices := slice_spans [] ns
  rw [List.nil_append, List.length_nil] at hstarts hslices
  rw [Nat.zero_add] at hextents
  rw [nals, hstarts, hextents]
  have hmap := congrArg (List.filterMap fun unit : List UInt8 =>
    match unit with
    | [] => none
    | b :: payload => some (b &&& 0x1f, b, stripEpb (b :: payload))) hslices
  rw [List.filterMap_map, List.filterMap_map] at hmap
  exact hmap.trans (congrFun (List.filterMap_eq_map
    (f := fun n : Nal => (n.first &&& 0x1f, n.first, stripEpb n.bytes))) ns)

lemma mapM_spans (pre : List UInt8) (ns : List Nal) :
    ((spans pre.length ns).mapM fun p =>
      if p.1 < p.2 then
        match (pre ++ stream ns)[p.1]? with
        | some b => Except.ok b
        | none => .error "index out of range"
      else .error "empty Annex-B NAL unit") = .ok (ns.map Nal.first) := by
  induction ns generalizing pre with
  | nil => rfl
  | cons n ns ih =>
      obtain ⟨hunit, hnext, hstart, hstop⟩ := stream_cons_append pre n ns
      have hget : (pre ++ stream (n :: ns))[(pre ++ startCode).length]? = some n.first := by
        rw [hunit, List.getElem?_append_right (Nat.le_refl _), Nat.sub_self]
        rfl
      have hpos : 0 < n.bytes.length := List.length_pos_iff.mpr n.bytes_ne_nil
      have hrest := ih (pre ++ startCode ++ n.bytes)
      rw [← hnext] at hrest
      rw [spans, List.mapM_cons, hstop, hrest, hstart, List.map_cons, hget, if_pos (by
        rw [@List.length_append _ (pre ++ startCode)]
        omega)]
      rfl

/-- `parameter_set_evidence` finds the same first bytes. -/
theorem startBytes_stream (ns : List Nal) :
    startBytes (stream ns) = .ok (ns.map Nal.first) := by
  have hstarts := scanStarts_stream [] ns
  have hextents := extents_positions 0 ns
  have hbytes := mapM_spans [] ns
  rw [List.nil_append, List.length_nil] at hstarts hbytes
  rw [Nat.zero_add] at hextents
  rw [startBytes, evidenceCodeAt_eq, hstarts, hextents]
  exact hbytes

/-- It refuses the stream without a unit, and no other. -/
theorem evidenceBytes_stream (ns : List Nal) : evidenceBytes (stream ns) =
    if ns = [] then .error "stream has no Annex-B NAL units" else .ok (ns.map Nal.first) := by
  have hstarts := scanStarts_stream [] ns
  rw [List.nil_append, List.length_nil] at hstarts
  rw [evidenceBytes, evidenceCodeAt_eq, hstarts, startBytes_stream]
  cases ns with
  | nil => rfl
  | cons n ns => rfl

end Units

/-! ### The codec -/

/-- A payload, bits, a value and a list of units come back from what is made of them, and both scans
find the first bytes of the units; `parameter_set_evidence` refuses the stream that has none. -/
theorem nal_codec :
    (∀ r, unescape (escape r) = r ∧ stripEpb (escape r) = r ∧
      ∀ x : UInt8, x ≤ 2 → ¬[0, 0, x] <:+: escape r) ∧
    (∀ b, Reader.ofRbsp (toRbsp b) = .ok ⟨b, 0⟩) ∧
    (∀ v : ℕ, v < 2 ^ 32 - 1 → ∃ code, ueBits v = .ok code ∧ ∀ pre post : List Bool,
      Reader.ue ⟨pre ++ code ++ post, pre.length⟩ =
        .ok (v, ⟨pre ++ code ++ post, pre.length + code.length⟩)) ∧
    ∀ ns : List Nal, splitAnnexb (joinAnnexb (ns.map Nal.bytes)) = ns.map Nal.bytes ∧
      (nals (joinAnnexb (ns.map Nal.bytes))).map (fun unit => unit.2.1) = ns.map Nal.first ∧
      startBytes (joinAnnexb (ns.map Nal.bytes)) = .ok (ns.map Nal.first) ∧
      evidenceBytes (joinAnnexb (ns.map Nal.bytes)) =
        if ns = [] then .error "stream has no Annex-B NAL units" else .ok (ns.map Nal.first) := by
  refine ⟨fun r => ⟨unescape_escape r, stripEpb_escape r, fun x hx => not_code_infix_escape hx r⟩,
    ofRbsp_toRbsp, fun v hv => ⟨ueCode v, ?_, ue_of_ueCode hv⟩, fun ns =>
      ⟨splitAnnexb_stream ns, ?_, startBytes_stream ns, evidenceBytes_stream ns⟩⟩
  · rw [ueBits, if_neg (by omega), Int.toNat_natCast]
  · have hnals := nals_stream ns
    rw [stream] at hnals
    rw [hnals, List.map_map]
    rfl

/-- Two units; the payload of the first has a start code in it. -/
def twoUnits : List Nal :=
  [⟨0x42, 1, [0, 0, 1, 5], by decide, 5, rfl, by decide⟩, ⟨0x26, 1, [7], by decide, 7, rfl, by decide⟩]

/-- The code of five with no bits around it, and two units, one with an emulation prevention byte. -/
theorem nal_codec_five : (∃ code, ueBits 5 = .ok code ∧
    Reader.ue ⟨[] ++ code ++ [], 0⟩ = .ok (5, ⟨[] ++ code ++ [], 0 + code.length⟩)) ∧
    joinAnnexb (twoUnits.map Nal.bytes) =
      [0, 0, 0, 1, 0x42, 1, 0, 0, 3, 1, 5, 0, 0, 0, 1, 0x26, 1, 7] ∧
    splitAnnexb (joinAnnexb (twoUnits.map Nal.bytes)) =
      [[0x42, 1, 0, 0, 3, 1, 5], [0x26, 1, 7]] ∧
    (nals (joinAnnexb (twoUnits.map Nal.bytes))).map (fun unit => unit.2.1) = [0x42, 0x26] ∧
    evidenceBytes (joinAnnexb (twoUnits.map Nal.bytes)) = .ok [0x42, 0x26] := by
  obtain ⟨code, hcode, hread⟩ := nal_codec.2.2.1 5 (by decide)
  obtain ⟨hsplit, hnals, -, hevidence⟩ := nal_codec.2.2.2 twoUnits
  exact ⟨⟨code, hcode, hread [] []⟩, by decide, hsplit, hnals, hevidence⟩

end OmarchyM1Video.HevcParamSets.Hevcnal
