import OmarchyM1Video.HevcParamSets.Rbsp

/-!
The edits of `experiments/hevc-parameter-sets/hevcnal.py`: the functions that read the ids of a
parameter set, and those that put one other value into it.

* `Read`: a computation with a `Bits` object;
* `vpsIds`, `spsIds`, `ppsIds`, `setVpsId`, …: the functions of the source;
* `Reads`, `Local`: what a computation reads depends on the bits that it passes, and not on those
  before or after them;
* `Edit`: the edits as one type; `Edit.Framed`, what an edit leaves as it is, and `Edit.Outcome`,
  what comes of it, one lemma for each edit;
* `edit_touches_its_code`: **an edit touches its own code**, is read back, and is undone by the
  edit back.
-/

namespace OmarchyM1Video.HevcParamSets.Hevcnal

open OmarchyM1Video.Bits OmarchyM1Video.Py

/-- What `hevcnal.py` raises. -/
inductive Raised where
  | valueError (text : String)
  | assertionError
  deriving DecidableEq, Repr

/-- A computation with a `Bits` object. -/
abbrev Read := EStateM (Exc Raised) Reader

/-- A method of `Bits` that raises `ValueError` only. -/
def method {α : Type} (x : Reader → Except String (α × Reader)) : Read α := fun s =>
  match x s with
  | .ok (a, s') => .ok a s'
  | .error text => .error (.raise (.valueError text)) s

/-- `bits.u(n)`. -/
def u (n : ℕ) : Read ℕ := method fun s => s.u n

/-- `bits.ue()`. -/
def ue : Read ℕ := method Reader.ue

/-- `bits.pos`. -/
def pos : Read ℕ := do return (← get).pos

/-- `bits.replace(start, end, new_bits)`. -/
def Reader.replace (s : Reader) (start stop : ℕ) (new : List Bool) : Reader where
  bits := s.bits.take start ++ new ++ s.bits.drop stop
  pos := start + new.length

/-- `bits.replace(start, end, new_bits)`, where the making of the bits may raise. -/
def replace (start stop : ℕ) (new : Except String (List Bool)) : Read Unit :=
  method fun s => new.map fun new => ((), s.replace start stop new)

def hevcNalVps : ℕ := 32
def hevcNalSps : ℕ := 33
def hevcNalPps : ℕ := 34

/-- `nal_type(nal)`. -/
def nalType (nal : List UInt8) : Except (Exc Raised) ℕ :=
  match nal with
  | [] => .error (.builtin .indexError)
  | b :: _ => .ok (b.toNat >>> 1 &&& 0x3F)

/-- `_payload(nal)`. -/
def payload (nal : List UInt8) : Except (Exc Raised) Reader :=
  (Reader.ofRbsp (unescape (nal.drop 2))).mapError fun text => .raise (.valueError text)

/-- `_rebuild(nal, bits)`. -/
def rebuild (nal : List UInt8) (bits : Reader) : List UInt8 :=
  nal.take 2 ++ escape (toRbsp bits.bits)

/-- `_skip_ptl(bits, max_sub_layers)`. -/
def skipPtl (maxSubLayers : ℕ) : Read Unit := do
  let _ ← u 96  -- general profile/tier (88 bits) and general_level_idc
  let present ← (List.range (maxSubLayers - 1)).mapM fun _ => do
    return (← u 1, ← u 1)
  onlyIf (1 < maxSubLayers) do
    let _ ← u (2 * (8 - (maxSubLayers - 1)))
  present.forM fun flags => do
    onlyIf (flags.1 ≠ 0) do
      let _ ← u 88
    onlyIf (flags.2 ≠ 0) do
      let _ ← u 8

/-- What stands between the VPS id and the SPS id: from `max_sub_layers = bits.u(3) + 1` on. -/
def subLayers : Read Unit := do
  let maxSubLayers := (← u 3) + 1
  raiseIf (7 < maxSubLayers) (.raise (.valueError "multi-layer SPS extension is not supported"))
  let _ ← u 1
  skipPtl maxSubLayers

/-- The result of a computation on the payload. -/
def onPayload {α : Type} (nal : List UInt8) (x : Read α) : Except (Exc Raised) (α × Reader) := do
  let bits ← payload nal
  match x bits with
  | .ok a bits => .ok (a, bits)
  | .error e _ => .error e

/-- The steps of `vps_ids`. -/
def readVpsIds : Read (List (String × ℕ)) := do
  return [("vps_id", ← u 4)]

/-- The steps of `sps_ids`. -/
def readSpsIds : Read (List (String × ℕ)) := do
  let vpsId ← u 4
  subLayers
  return [("vps_id", vpsId), ("sps_id", ← ue)]

/-- The steps of `pps_ids`. -/
def readPpsIds : Read (List (String × ℕ)) := do
  return [("pps_id", ← ue), ("sps_id", ← ue)]

/-- `vps_ids(nal)`. -/
def vpsIds (nal : List UInt8) : Except (Exc Raised) (List (String × ℕ)) :=
  (onPayload nal readVpsIds).map Prod.fst

/-- `sps_ids(nal)`. -/
def spsIds (nal : List UInt8) : Except (Exc Raised) (List (String × ℕ)) :=
  (onPayload nal readSpsIds).map Prod.fst

/-- `pps_ids(nal)`. -/
def ppsIds (nal : List UInt8) : Except (Exc Raised) (List (String × ℕ)) :=
  (onPayload nal readPpsIds).map Prod.fst

/-- A setter: the assertion of the type, its steps, and `return _rebuild(nal, bits)`. -/
def rewrite (type : ℕ) (nal : List UInt8) (x : Read Unit) : Except (Exc Raised) (List UInt8) := do
  if (← nalType nal) ≠ type then
    throw (.raise .assertionError)
  let (_, bits) ← onPayload nal x
  return rebuild nal bits

/-- `set_vps_id(nal, vps_id)`. -/
def setVpsId (nal : List UInt8) (vpsId : ℤ) : Except (Exc Raised) (List UInt8) :=
  rewrite hevcNalVps nal do
    replace 0 4 (uBits vpsId 4)

/-- `set_sps_ids(nal, vps_id, sps_id)`. -/
def setSpsIds (nal : List UInt8) (vpsId spsId : Option ℤ) : Except (Exc Raised) (List UInt8) :=
  rewrite hevcNalSps nal do
    let oldVps ← u 4
    replace 0 4 (uBits (vpsId.getD oldVps) 4)
    subLayers
    let start ← pos
    let _ ← ue
    match spsId with
    | none => pure ()
    | some spsId => replace start (← pos) (ueBits spsId)

/-- `set_pps_id(nal, pps_id)`. -/
def setPpsId (nal : List UInt8) (ppsId : ℤ) : Except (Exc Raised) (List UInt8) :=
  rewrite hevcNalPps nal do
    let _ ← ue
    replace 0 (← pos) (ueBits ppsId)

/-- `set_pps_sps_id(nal, sps_id)`. -/
def setPpsSpsId (nal : List UInt8) (spsId : ℤ) : Except (Exc Raised) (List UInt8) :=
  rewrite hevcNalPps nal do
    let _ ← ue
    let start ← pos
    let _ ← ue
    replace start (← pos) (ueBits spsId)

/-- `set_sps_chroma_format_idc(nal, value)`. -/
def setSpsChromaFormatIdc (nal : List UInt8) (value : ℤ) : Except (Exc Raised) (List UInt8) :=
  rewrite hevcNalSps nal do
    let _ ← u 4
    subLayers
    let _ ← ue
    let start ← pos
    let _ ← ue
    replace start (← pos) (ueBits value)

/-- `set_pps_num_ref_idx_l0_minus1(nal, value)`. -/
def setPpsNumRefIdxL0Minus1 (nal : List UInt8) (value : ℤ) : Except (Exc Raised) (List UInt8) :=
  rewrite hevcNalPps nal do
    let _ ← ue
    let _ ← ue
    let _ ← u 7  -- dependent slices, output flag, extra header bits, sign hiding, cabac init
    let start ← pos
    let _ ← ue
    replace start (← pos) (ueBits value)

/-! ### What a computation reads -/

section Reads

variable {α β : Type} {x : Read α} {f : α → Read β} {a : α} {b : β} {s s' : Reader}
  {bits pre rest post xs ys low new : List Bool} {n k z v : ℕ}

/-- The computation passes these bits, whatever is before and after them, and its result is `a`. -/
def Reads (x : Read α) (xs : List Bool) (a : α) : Prop :=
  ∀ pre post, x ⟨pre ++ (xs ++ post), pre.length⟩ =
    .ok a ⟨pre ++ (xs ++ post), (pre ++ xs).length⟩

/-- The computation depends on the bits that it passes, and changes none. -/
def Local (x : Read α) : Prop :=
  ∀ pre rest a s, x ⟨pre ++ rest, pre.length⟩ = .ok a s →
    ∃ xs post, rest = xs ++ post ∧ s = ⟨pre ++ xs ++ post, (pre ++ xs).length⟩ ∧ Reads x xs a

lemma Reads.pure (a : α) : Reads (pure a) [] a := fun pre post => by
  rw [List.append_nil]
  rfl

lemma Reads.bind (hx : Reads x xs a) (hf : Reads (f a) ys b) : Reads (x >>= f) (xs ++ ys) b := by
  intro pre post
  have hfirst := hx pre (ys ++ post)
  have hsecond := hf (pre ++ xs) post
  simp only [List.append_assoc] at hfirst hsecond ⊢
  exact bind_ok.mpr ⟨a, _, hfirst, hsecond⟩

lemma Local.pure (a : α) : Local (Pure.pure a : Read α) := by
  intro pre rest a' s h
  obtain ⟨rfl, rfl⟩ := EStateM.Result.ok.inj h
  exact ⟨[], rest, rfl, by rw [List.append_nil], Reads.pure a⟩

lemma Local.throw (e : Exc Raised) : Local (throw e : Read α) := by
  intro pre rest a s h
  cases h

lemma Local.bind (hx : Local x) (hf : ∀ a, Local (f a)) : Local (x >>= f) := by
  intro pre rest b s h
  obtain ⟨a, s₁, hfirst, hsecond⟩ := bind_ok.mp h
  obtain ⟨xs, post, rfl, rfl, hxs⟩ := hx _ _ _ _ hfirst
  obtain ⟨ys, post, rfl, rfl, hys⟩ := hf a _ _ _ _ hsecond
  refine ⟨xs ++ ys, post, (List.append_assoc _ _ _).symm, ?_, hxs.bind hys⟩
  rw [List.append_assoc pre]

lemma method_ok {y : Reader → Except String (α × Reader)} :
    method y s = .ok a s' ↔ y s = .ok (a, s') := by
  rw [method]
  rcases y s with e | ⟨a', s₁⟩
  · exact iff_of_false (by rintro ⟨⟩) (by rintro ⟨⟩)
  · rw [EStateM.Result.ok.injEq, Except.ok.injEq, Prod.mk.injEq]

/-- Bits that are read are there. -/
lemma Reader.u_inv (h : Reader.u ⟨pre ++ rest, pre.length⟩ n = .ok (v, s)) :
    ∃ xs post, rest = xs ++ post ∧ xs.length = n ∧ v = bitsNat xs ∧
      s = ⟨pre ++ rest, pre.length + n⟩ := by
  rw [Reader.u] at h
  split_ifs at h with hlen
  rw [List.length_append, not_lt] at hlen
  change pre.length + n ≤ _ at hlen
  obtain ⟨rfl, rfl⟩ := Prod.mk.inj (Except.ok.inj h)
  refine ⟨rest.take n, rest.drop n, (List.take_append_drop n rest).symm, ?_, ?_, rfl⟩
  · rw [List.length_take]
    omega
  · rw [List.drop_left]

lemma reads_u (xs : List Bool) : Reads (u xs.length) xs (bitsNat xs) := by
  intro pre post
  rw [List.length_append]
  exact method_ok.mpr (u_of_append rfl rfl)

lemma u_inv (h : u n ⟨pre ++ rest, pre.length⟩ = .ok v s) :
    ∃ xs post, rest = xs ++ post ∧ xs.length = n ∧ v = bitsNat xs ∧
      s = ⟨pre ++ xs ++ post, (pre ++ xs).length⟩ := by
  obtain ⟨xs, post, rfl, rfl, rfl, rfl⟩ := Reader.u_inv (method_ok.mp h)
  refine ⟨xs, post, rfl, rfl, rfl, ?_⟩
  rw [List.length_append, List.append_assoc]

lemma local_u (n : ℕ) : Local (u n) := by
  intro pre rest v s h
  obtain ⟨xs, post, hrest, rfl, rfl, hs⟩ := u_inv h
  exact ⟨xs, post, hrest, hs, reads_u xs⟩

/-- One step of the loop: a one ends the zeros, and a zero is one more. -/
lemma ueFrom_step (h : Reader.ueFrom ⟨pre ++ rest, pre.length⟩ z = .ok (v, s)) :
    (∃ low post, rest = true :: (low ++ post) ∧ low.length = z ∧ v = 2 ^ z - 1 + bitsNat low ∧
      s = ⟨pre ++ rest, pre.length + (1 + z)⟩) ∨
    ∃ rest', rest = false :: rest' ∧ z + 1 ≤ 31 ∧
      Reader.ueFrom ⟨pre ++ [false] ++ rest', (pre ++ [false]).length⟩ (z + 1) = .ok (v, s) := by
  rw [Reader.ueFrom] at h
  rcases hbit : Reader.u ⟨pre ++ rest, pre.length⟩ 1 with e | ⟨bit, s₁⟩
  · rw [hbit] at h
    cases h
  · obtain ⟨xs, rest, rfl, hxs, rfl, rfl⟩ := Reader.u_inv hbit
    obtain ⟨c, rfl⟩ := List.length_eq_one_iff.mp hxs
    rw [hbit] at h
    dsimp only at h
    rw [← List.append_assoc, show pre.length + 1 = (pre ++ [c]).length by
      rw [List.length_append, List.length_singleton]] at h
    cases c with
    | false =>
        rw [if_pos (by decide)] at h
        split_ifs at h with hlarge
        exact .inr ⟨rest, rfl, not_lt.mp hlarge, h⟩
    | true =>
        rw [if_neg (by decide)] at h
        rcases hlow : Reader.u ⟨pre ++ [true] ++ rest, (pre ++ [true]).length⟩ z with e | ⟨w, s₂⟩
        · rw [hlow] at h
          cases h
        · obtain ⟨low, post, rfl, hlength, rfl, rfl⟩ := Reader.u_inv hlow
          rw [hlow] at h
          obtain ⟨rfl, rfl⟩ := Prod.mk.inj (Except.ok.inj h)
          refine .inl ⟨low, post, rfl, hlength, rfl, ?_⟩
          rw [List.append_assoc, List.length_append, List.length_singleton, Nat.add_assoc]

/-- A code that is read is there, after so many zeros. -/
lemma ueFrom_inv (hz : z ≤ 31) (h : Reader.ueFrom ⟨pre ++ rest, pre.length⟩ z = .ok (v, s)) :
    ∃ k low post, rest = List.replicate k false ++ true :: (low ++ post) ∧ low.length = z + k ∧
      z + k ≤ 31 ∧ v = 2 ^ (z + k) - 1 + bitsNat low ∧
      s = ⟨pre ++ rest, pre.length + (k + 1 + low.length)⟩ := by
  induction hfuel : 31 - z generalizing z pre rest with
  | zero =>
      obtain ⟨low, post, rfl, rfl, rfl, rfl⟩ | ⟨_, _, hle, _⟩ := ueFrom_step h
      · refine ⟨0, low, post, rfl, rfl, hz, rfl, ?_⟩
        rw [Nat.zero_add]
      · omega
  | succ fuel ih =>
      obtain ⟨low, post, rfl, rfl, rfl, rfl⟩ | ⟨rest, rfl, hle, hnext⟩ := ueFrom_step h
      · refine ⟨0, low, post, rfl, rfl, hz, rfl, ?_⟩
        rw [Nat.zero_add]
      · obtain ⟨k, low, post, rfl, hlow, hsize, rfl, rfl⟩ := ih hle hnext (by omega)
        have hsum : z + 1 + k = z + (k + 1) := by omega
        rw [hsum] at hlow hsize ⊢
        refine ⟨k + 1, low, post, rfl, hlow, hsize, rfl, ?_⟩
        rw [List.append_assoc, List.length_append, List.length_singleton]
        congr 1
        omega

/-- A value has one code. -/
lemma ueCode_of_low (low : List Bool) :
    ueCode (2 ^ low.length - 1 + bitsNat low) =
      List.replicate low.length false ++ true :: low := by
  have hlt := bitsNat_lt low
  have hcode : 2 ^ low.length - 1 + bitsNat low + 1 = 2 ^ low.length + bitsNat low := by
    have hpos : 0 < 2 ^ low.length := Nat.two_pow_pos _
    omega
  have hsize : (2 ^ low.length + bitsNat low).size = low.length + 1 := by
    refine Nat.le_antisymm (Nat.size_le.mpr ?_) (Nat.lt_size.mpr (Nat.le_add_right _ _))
    rw [pow_succ]
    omega
  have hbits : natBits (low.length + 1) (bitsNat (true :: low)) = true :: low :=
    natBits_bitsNat (true :: low)
  rw [bitsNat_cons, Bool.toNat_true, Nat.one_mul] at hbits
  rw [ueCode, hcode, hsize, hbits, Nat.add_sub_cancel]

/-- A code that is read is the code of its value. -/
lemma ue_inv (h : ue ⟨pre ++ rest, pre.length⟩ = .ok v s) :
    ∃ post, rest = ueCode v ++ post ∧ v < 2 ^ 32 - 1 ∧
      s = ⟨pre ++ ueCode v ++ post, (pre ++ ueCode v).length⟩ := by
  obtain ⟨k, low, post, rfl, hlow, hsize, rfl, rfl⟩ :=
    ueFrom_inv (Nat.zero_le 31) (method_ok.mp h)
  rw [Nat.zero_add] at hlow hsize
  rw [Nat.zero_add, ← hlow, ueCode_of_low]
  have hlt := bitsNat_lt low
  have hpow : 2 ^ low.length ≤ 2 ^ 31 := Nat.pow_le_pow_right (by decide) (by omega)
  refine ⟨post, ?_, by omega, ?_⟩
  · rw [List.append_assoc, List.cons_append]
  · rw [List.append_assoc, List.append_assoc, List.cons_append, List.length_append,
      List.length_append, List.length_replicate, List.length_cons]
    congr 1
    omega

lemma reads_ue (hv : v < 2 ^ 32 - 1) : Reads ue (ueCode v) v := by
  intro pre post
  have hread := ue_of_ueCode hv pre post
  rw [List.append_assoc] at hread
  rw [List.length_append]
  exact method_ok.mpr hread

/-- No code is the beginning of another. -/
lemma ueCode_append_inj {a b : ℕ} (ha : a < 2 ^ 32 - 1) (hb : b < 2 ^ 32 - 1)
    (h : ueCode a ++ xs = ueCode b ++ ys) : a = b ∧ xs = ys := by
  have hread := reads_ue ha [] xs
  rw [h, reads_ue hb [] ys] at hread
  obtain ⟨rfl, -⟩ := EStateM.Result.ok.inj hread
  exact ⟨rfl, List.append_cancel_left h⟩

lemma local_ue : Local ue := by
  intro pre rest v s h
  obtain ⟨post, hrest, hv, hs⟩ := ue_inv h
  exact ⟨ueCode v, post, hrest, hs, reads_ue hv⟩

lemma local_mapM {ι : Type} {g : ι → Read α} (h : ∀ i, Local (g i)) (l : List ι) :
    Local (l.mapM g) := by
  induction l with
  | nil =>
      rw [List.mapM_nil]
      exact Local.pure _
  | cons i l ih =>
      rw [List.mapM_cons]
      exact (h i).bind fun _ => ih.bind fun _ => Local.pure _

lemma local_forM {ι : Type} {g : ι → Read PUnit} (h : ∀ i, Local (g i)) (l : List ι) :
    Local (l.forM g) := by
  induction l with
  | nil => exact Local.pure _
  | cons i l ih => exact (h i).bind fun _ => ih

lemma local_raiseIf (c : Prop) [Decidable c] (e : Exc Raised) : Local (raiseIf c e) := by
  rw [raiseIf]
  split_ifs
  · exact Local.throw e
  · exact Local.pure _

lemma local_onlyIf {y : Read Unit} (c : Prop) [Decidable c] (h : Local y) :
    Local (onlyIf c y) := by
  rw [onlyIf]
  split_ifs
  · exact h
  · exact Local.pure _

lemma local_skipPtl (n : ℕ) : Local (skipPtl n) := by
  have hskip : ∀ n, Local (do let _ ← u n : Read Unit) := fun n =>
    (local_u n).bind fun _ => Local.pure _
  have hflags : Local (do return (← u 1, ← u 1) : Read (ℕ × ℕ)) :=
    (local_u 1).bind fun _ => (local_u 1).bind fun _ => Local.pure _
  refine (local_u 96).bind fun _ => (local_mapM (fun _ => hflags) _).bind fun present => ?_
  refine (local_onlyIf _ (hskip _)).bind fun _ => local_forM (fun flags => ?_) present
  exact (local_onlyIf _ (hskip 88)).bind fun _ => local_onlyIf _ (hskip 8)

lemma local_subLayers : Local subLayers := by
  refine (local_u 3).bind fun n => (local_raiseIf _ _).bind fun _ => ?_
  exact (local_u 1).bind fun _ => local_skipPtl _

/-- `start = bits.pos; bits.ue(); bits.replace(start, bits.pos, ue_bits(value))`, if there is a
value. -/
def putUe (value : Option ℤ) : Read Unit := do
  let start ← pos
  let _ ← ue
  match value with
  | none => pure ()
  | some value => replace start (← pos) (ueBits value)

lemma replace_append (pre old new post : List Bool) (p : ℕ) :
    Reader.replace ⟨pre ++ (old ++ post), p⟩ pre.length (pre ++ old).length new =
      ⟨pre ++ (new ++ post), (pre ++ new).length⟩ := by
  rw [Reader.replace, List.take_left, ← List.append_assoc pre old, List.drop_left,
    List.append_assoc, List.length_append]

lemma ueBits_ok {value : ℤ} : ueBits value = .ok new ↔ 0 ≤ value ∧ new = ueCode value.toNat := by
  rw [ueBits]
  split_ifs with hneg
  · exact iff_of_false (by rintro ⟨⟩) fun h => absurd h.1 (Int.not_le.mpr hneg)
  · rw [Except.ok.injEq, eq_comm]
    exact (and_iff_right (Int.not_lt.mp hneg)).symm

/-- The code that is replaced is that of a value, and the code of the new value is in its place. -/
lemma putUe_inv {value : Option ℤ} (h : putUe value ⟨pre ++ rest, pre.length⟩ = .ok () s) :
    ∃ old post, rest = ueCode old ++ post ∧ old < 2 ^ 32 - 1 ∧ (∀ v ∈ value, 0 ≤ v) ∧
      s.bits = pre ++ (ueCode (value.getD old).toNat ++ post) := by
  obtain ⟨start, _, hstart, h⟩ := bind_ok.mp h
  obtain ⟨rfl, rfl⟩ := EStateM.Result.ok.inj hstart
  obtain ⟨old, _, hue, h⟩ := bind_ok.mp h
  obtain ⟨post, rfl, hold, rfl⟩ := ue_inv hue
  cases value with
  | none =>
      obtain ⟨-, rfl⟩ := EStateM.Result.ok.inj h
      exact ⟨old, post, rfl, hold, by simp, List.append_assoc _ _ _⟩
  | some value =>
      obtain ⟨stop, _, hstop, h⟩ := bind_ok.mp h
      obtain ⟨rfl, rfl⟩ := EStateM.Result.ok.inj hstop
      rw [replace, method_ok] at h
      rcases hnew : ueBits value with e | new
      · rw [hnew] at h
        cases h
      · obtain ⟨hvalue, rfl⟩ := ueBits_ok.mp hnew
        rw [hnew] at h
        obtain ⟨-, rfl⟩ := Prod.mk.inj (Except.ok.inj h)
        refine ⟨old, post, rfl, hold, by simpa using hvalue, ?_⟩
        rw [List.append_assoc]
        exact congrArg Reader.bits (replace_append _ _ _ _ _)

lemma putUe_ok {value : Option ℤ} (hv : v < 2 ^ 32 - 1) (hvalue : ∀ w ∈ value, 0 ≤ w)
    (pre post : List Bool) :
    putUe value ⟨pre ++ (ueCode v ++ post), pre.length⟩ =
      .ok () ⟨pre ++ (ueCode (value.getD v).toNat ++ post),
        (pre ++ ueCode (value.getD v).toNat).length⟩ := by
  refine bind_ok.mpr ⟨pre.length, _, rfl, bind_ok.mpr ⟨v, _, reads_ue hv pre post, ?_⟩⟩
  cases value with
  | none => rfl
  | some value =>
      refine bind_ok.mpr ⟨(pre ++ ueCode v).length, _, rfl, ?_⟩
      rw [replace, ueBits_ok.mpr ⟨hvalue value rfl, rfl⟩, method_ok]
      exact congrArg (fun s => Except.ok ((), s)) (replace_append pre (ueCode v) _ post _)

/-- The ids of a PPS that are read are those of its first two codes. -/
lemma readPpsIds_inv {ids : List (String × ℕ)} (h : readPpsIds ⟨pre ++ rest,
    pre.length⟩ = .ok ids s) :
    ∃ a b post, rest = ueCode a ++ (ueCode b ++ post) ∧ a < 2 ^ 32 - 1 ∧ b < 2 ^ 32 - 1 ∧
      ids = [("pps_id", a), ("sps_id", b)] := by
  obtain ⟨a, _, ha, h⟩ := bind_ok.mp h
  obtain ⟨rest, rfl, hasize, rfl⟩ := ue_inv ha
  obtain ⟨b, _, hb, h⟩ := bind_ok.mp h
  obtain ⟨post, rfl, hbsize, rfl⟩ := ue_inv hb
  obtain ⟨rfl, -⟩ := EStateM.Result.ok.inj h
  exact ⟨a, b, post, rfl, hasize, hbsize, rfl⟩

lemma reads_readPpsIds {a b : ℕ} (ha : a < 2 ^ 32 - 1) (hb : b < 2 ^ 32 - 1) :
    Reads readPpsIds (ueCode a ++ ueCode b) [("pps_id", a), ("sps_id", b)] := by
  rw [← List.append_nil (ueCode b)]
  refine Reads.bind (reads_ue ha) (Reads.bind (reads_ue hb) ?_)
  exact Reads.pure _

lemma reads_readSpsIds {mid : List Bool} {b : ℕ} (hxs : xs.length = 4)
    (hmid : Reads subLayers mid ()) (hb : b < 2 ^ 32 - 1) :
    Reads readSpsIds (xs ++ (mid ++ ueCode b)) [("vps_id", bitsNat xs), ("sps_id", b)] := by
  have hfour := reads_u xs
  rw [hxs] at hfour
  rw [← List.append_nil (ueCode b)]
  refine Reads.bind hfour (Reads.bind hmid (Reads.bind (reads_ue hb) ?_))
  exact Reads.pure _

end Reads

/-! ### The edits -/

/-- A call of one of the setters, but for the NAL unit. -/
inductive Edit where
  | vps (vpsId : ℤ)
  | sps (vpsId spsId : Option ℤ)
  | ppsId (ppsId : ℤ)
  | ppsSps (spsId : ℤ)
  | chromaFormatIdc (value : ℤ)
  | numRefIdxL0Minus1 (value : ℤ)
  deriving DecidableEq, Repr

namespace Edit

/-- The call. -/
def apply (nal : List UInt8) : Edit → Except (Exc Raised) (List UInt8)
  | vps v => setVpsId nal v
  | sps v s => setSpsIds nal v s
  | ppsId v => setPpsId nal v
  | ppsSps v => setPpsSpsId nal v
  | chromaFormatIdc v => setSpsChromaFormatIdc nal v
  | numRefIdxL0Minus1 v => setPpsNumRefIdxL0Minus1 nal v

/-- The ids that the parameter set of the edit has. -/
def ids (nal : List UInt8) : Edit → Except (Exc Raised) (List (String × ℕ))
  | vps _ => vpsIds nal
  | sps _ _ | chromaFormatIdc _ => spsIds nal
  | ppsId _ | ppsSps _ | numRefIdxL0Minus1 _ => ppsIds nal

/-- The ids that are edited, and their new values. -/
def edited : Edit → List (String × ℤ)
  | vps v => [("vps_id", v)]
  | sps v s => (v.map ("vps_id", ·)).toList ++ (s.map ("sps_id", ·)).toList
  | ppsId v => [("pps_id", v)]
  | ppsSps v => [("sps_id", v)]
  | chromaFormatIdc _ | numRefIdxL0Minus1 _ => []

/-- The new value for an edited id, and the old value for every other. -/
def update (e : Edit) (ids : List (String × ℕ)) : List (String × ℕ) :=
  ids.map fun id => (id.1, ((e.edited.lookup id.1).getD id.2).toNat)

/-- The values that have a code which `bits.ue` reads. -/
def Admissible : Edit → Prop
  | vps _ => True
  | sps _ s => ∀ v ∈ s, v < 2 ^ 32 - 1
  | ppsId v | ppsSps v | chromaFormatIdc v | numRefIdxL0Minus1 v => v < 2 ^ 32 - 1

end Edit


namespace Edit

/-- The type of the NAL unit that the call is for. -/
def type : Edit → ℕ
  | vps _ => hevcNalVps
  | sps _ _ | chromaFormatIdc _ => hevcNalSps
  | ppsId _ | ppsSps _ | numRefIdxL0Minus1 _ => hevcNalPps

/-- What the call reads before the last code that it replaces. -/
def before : Edit → Read Unit
  | vps _ | ppsId _ => pure ()
  | sps _ _ => do
      let _ ← u 4
      subLayers
  | ppsSps _ => do
      let _ ← ue
  | chromaFormatIdc _ => do
      let _ ← u 4
      subLayers
      let _ ← ue
  | numRefIdxL0Minus1 _ => do
      let _ ← ue
      let _ ← ue
      let _ ← u 7

/-- One code is replaced, at the place to which `before` reads, and no bit before or after it. -/
def Replaced (before : Read Unit) (old new : ℤ) (bits bits' : List Bool) : Prop :=
  ∃ pre post, before ⟨bits, 0⟩ = .ok () ⟨bits, pre.length⟩ ∧
    bits = pre ++ (ueCode old.toNat ++ post) ∧ bits' = pre ++ (ueCode new.toNat ++ post)

/-- What an edit does to the bits of a payload. The second edit is the edit back: that of the same
field, with the value which was there. -/
def Framed (bits bits' : List Bool) : Edit → Edit → Prop
  | vps new, vps old => bits' = natBits 4 new.toNat ++ bits.drop 4 ∧
      (4 ≤ bits.length → bits.take 4 = natBits 4 old.toNat)
  | sps newVps newSps, sps oldVps oldSps => ∃ (vpsId : ℕ) (mid : List Bool) (spsId : ℕ)
      (post : List Bool),
      oldVps = newVps.map (fun _ => ↑vpsId) ∧ oldSps = newSps.map (fun _ => ↑spsId) ∧
        bits = natBits 4 vpsId ++ (mid ++ (ueCode spsId ++ post)) ∧
        bits' = natBits 4 (newVps.getD vpsId).toNat ++
          (mid ++ (ueCode (newSps.getD spsId).toNat ++ post)) ∧
        subLayers ⟨bits, 4⟩ = .ok () ⟨bits, 4 + mid.length⟩
  | ppsId new, ppsId old => Replaced (pure ()) old new bits bits'
  | ppsSps new, ppsSps old => Replaced (before (ppsSps new)) old new bits bits'
  | chromaFormatIdc new, chromaFormatIdc old =>
      Replaced (before (chromaFormatIdc new)) old new bits bits'
  | numRefIdxL0Minus1 new, numRefIdxL0Minus1 old =>
      Replaced (before (numRefIdxL0Minus1 new)) old new bits bits'
  | _, _ => False

/-- The steps of the call. -/
def steps : Edit → Read Unit
  | vps v => replace 0 4 (uBits v 4)
  | sps v s => do
      let oldVps ← u 4
      replace 0 4 (uBits (v.getD oldVps) 4)
      subLayers
      putUe s
  | ppsId v => do
      before (ppsId v)
      putUe (some v)
  | ppsSps v => do
      before (ppsSps v)
      putUe (some v)
  | chromaFormatIdc v => do
      before (chromaFormatIdc v)
      putUe (some v)
  | numRefIdxL0Minus1 v => do
      before (numRefIdxL0Minus1 v)
      putUe (some v)

/-- The ids, from the bits of the payload. -/
def readIds : Edit → Read (List (String × ℕ))
  | vps _ => readVpsIds
  | sps _ _ | chromaFormatIdc _ => readSpsIds
  | ppsId _ | ppsSps _ | numRefIdxL0Minus1 _ => readPpsIds

lemma ids_eq (e : Edit) (nal : List UInt8) :
    e.ids nal = (onPayload nal e.readIds).map Prod.fst := by
  cases e <;> rfl

/-- The ids can be read: of a VPS after the edit, of an SPS before it. Of a PPS they can be read
before the edit, or the edit is that of its first id and does not make up for the second. -/
def Known (bits bits' : List Bool) (e : Edit) : Prop :=
  match e with
  | vps v => ∃ s, readVpsIds ⟨bits', 0⟩ = .ok [("vps_id", v.toNat)] s
  | ppsId _ => ∀ ids s, readPpsIds ⟨bits', 0⟩ = .ok ids s → ∃ ids s,
      readPpsIds ⟨bits, 0⟩ = .ok ids s
  | e => ∃ ids s, e.readIds ⟨bits, 0⟩ = .ok ids s

/-- What an edit does to the bits of a payload, and what comes of it. -/
structure Outcome (e back : Edit) (bits bits' : List Bool) : Prop where
  framed : Framed bits bits' e back
  /-- The ids are there after the edit if they are before it. -/
  reads : e.Admissible → ∀ ids s, e.readIds ⟨bits, 0⟩ = .ok ids s →
    ∃ s', e.readIds ⟨bits', 0⟩ = .ok (e.update ids) s'
  undo : e.Admissible → (∀ v, e = vps v → 4 ≤ bits.length) →
    ∃ s, back.steps ⟨bits', 0⟩ = .ok () s ∧ s.bits = bits
  known : e.Admissible → Known bits bits' e

section Put

variable {w : Read Unit} {bits pre post : List Bool} {old value : ℤ} {v : ℕ} {s : Reader}

lemma replaced_of_reads (hw : Reads w pre ()) (old new : ℤ) (post : List Bool) :
    Replaced w old new (pre ++ (ueCode old.toNat ++ post)) (pre ++ (ueCode new.toNat ++ post)) :=
  ⟨pre, post, hw [] (ueCode old.toNat ++ post), rfl, rfl⟩

/-- The old value is put back. -/
lemma put_back (hw : Reads w pre ()) (hv : v < 2 ^ 32 - 1) (old : ℕ) (post : List Bool) :
    ∃ s, (do w; putUe (some (old : ℤ))) ⟨pre ++ (ueCode v ++ post), 0⟩ = .ok () s ∧
      s.bits = pre ++ (ueCode old ++ post) :=
  ⟨_, bind_ok.mpr ⟨(), _, hw [] (ueCode v ++ post),
    putUe_ok hv (fun w hw => by rw [← Option.some.inj hw]; exact Int.natCast_nonneg old) _ post⟩,
        rfl⟩

end Put

section Outcomes

variable {bits : List Bool} {v : ℤ} {s : Reader}

lemma outcome_ppsId (h : (ppsId v).steps ⟨bits, 0⟩ = .ok () s) :
    ∃ old, Outcome (ppsId v) (ppsId old) bits s.bits := by
  obtain ⟨_, _, hbefore, h⟩ := bind_ok.mp h
  obtain ⟨-, rfl⟩ := EStateM.Result.ok.inj hbefore
  obtain ⟨old, post, rfl, hold, hnew, hbits⟩ := @putUe_inv s [] bits _ h
  rw [List.nil_append, Option.getD_some] at hbits
  rw [hbits]
  refine ⟨old, replaced_of_reads (Reads.pure ()) old v post, ?_, fun hv _ => ?_, fun hv => ?_⟩
  · intro hv ids s' hids
    change v < _ at hv
    obtain ⟨a, b, rest, hrest, ha, hb, rfl⟩ := @readPpsIds_inv s' [] _ _ hids
    obtain ⟨rfl, rfl⟩ := ueCode_append_inj hold ha hrest
    have hread := @reads_readPpsIds v.toNat b (by omega) hb [] rest
    rw [List.append_assoc] at hread
    exact ⟨_, hread⟩
  · change v < _ at hv
    exact put_back (Reads.pure ()) (by omega) old post
  · intro ids s' hids
    change v < _ at hv
    obtain ⟨a, b, rest, hrest, ha, hb, rfl⟩ := @readPpsIds_inv s' [] _ _ hids
    obtain ⟨-, rfl⟩ := ueCode_append_inj (by omega) ha hrest
    have hread := reads_readPpsIds hold hb [] rest
    rw [List.append_assoc] at hread
    exact ⟨_, _, hread⟩

lemma outcome_ppsSps (h : (ppsSps v).steps ⟨bits, 0⟩ = .ok () s) :
    ∃ old, Outcome (ppsSps v) (ppsSps old) bits s.bits := by
  obtain ⟨_, _, hbefore, h⟩ := bind_ok.mp h
  obtain ⟨a, _, hue, hbefore⟩ := bind_ok.mp hbefore
  obtain ⟨-, rfl⟩ := EStateM.Result.ok.inj hbefore
  obtain ⟨rest, rfl, ha, rfl⟩ := @ue_inv _ [] bits _ hue
  obtain ⟨old, post, rfl, hold, hnew, hbits⟩ := putUe_inv h
  rw [List.nil_append, Option.getD_some] at hbits
  have hreads : Reads (ppsSps v).before (ueCode a) () := by
    rw [← List.append_nil (ueCode a)]
    exact Reads.bind (reads_ue ha) (Reads.pure ())
  rw [hbits]
  refine ⟨old, replaced_of_reads hreads old v post, ?_, fun hv _ => ?_, fun _ => ?_⟩
  · intro hv ids s' hids
    change v < _ at hv
    obtain ⟨a', b, rest, hrest, ha', hb, rfl⟩ := @readPpsIds_inv s' [] _ _ hids
    change ueCode a ++ (ueCode old ++ post) = _ at hrest
    obtain ⟨rfl, hsecond⟩ := ueCode_append_inj ha ha' hrest
    obtain ⟨rfl, rfl⟩ := ueCode_append_inj hold hb hsecond
    have hread := @reads_readPpsIds a v.toNat ha (by omega) [] post
    rw [List.append_assoc] at hread
    exact ⟨_, hread⟩
  · change v < _ at hv
    exact put_back hreads (by omega) old post
  · have hread := reads_readPpsIds ha hold [] post
    rw [List.append_assoc] at hread
    exact ⟨_, _, hread⟩

/-- Ids that are before the code are as they were. -/
lemma reads_ids {x : Read (List (String × ℕ))} {xs post post' : List Bool}
    {ids ids' : List (String × ℕ)} (hx : Reads x xs ids) (h : x ⟨xs ++ post, 0⟩ = .ok ids' s) :
    ∃ s', x ⟨xs ++ post', 0⟩ = .ok (ids'.map fun id => (id.1, (id.2 : ℤ).toNat)) s' := by
  have hread := hx [] post
  rw [List.nil_append, List.length_nil] at hread
  rw [hread] at h
  obtain ⟨rfl, -⟩ := EStateM.Result.ok.inj h
  exact ⟨_, by rw [List.map_id'']; exact hx [] post'; exact fun _ => rfl⟩

lemma outcome_numRefIdxL0Minus1 (h : (numRefIdxL0Minus1 v).steps ⟨bits, 0⟩ = .ok () s) :
    ∃ old, Outcome (numRefIdxL0Minus1 v) (numRefIdxL0Minus1 old) bits s.bits := by
  obtain ⟨_, _, hbefore, h⟩ := bind_ok.mp h
  obtain ⟨a, _, hue, hbefore⟩ := bind_ok.mp hbefore
  obtain ⟨rest, rfl, ha, rfl⟩ := @ue_inv _ [] bits _ hue
  obtain ⟨b, _, hue, hbefore⟩ := bind_ok.mp hbefore
  obtain ⟨rest, rfl, hb, rfl⟩ := ue_inv hue
  obtain ⟨_, _, hseven, hbefore⟩ := bind_ok.mp hbefore
  obtain ⟨flags, rest, rfl, rfl, hflags⟩ := local_u 7 _ _ _ _ hseven
  obtain ⟨-, rfl⟩ := EStateM.Result.ok.inj hbefore
  obtain ⟨old, post, rfl, hold, hnew, hbits⟩ := putUe_inv h
  rw [List.nil_append, Option.getD_some] at hbits
  have hreads : Reads (numRefIdxL0Minus1 v).before (ueCode a ++ ueCode b ++ flags) () := by
    rw [List.append_assoc, ← List.append_nil flags]
    exact Reads.bind (reads_ue ha) (Reads.bind (reads_ue hb) (Reads.bind hflags (Reads.pure ())))
  have hassoc : ∀ rest, ueCode a ++ (ueCode b ++ (flags ++ rest)) =
      ueCode a ++ ueCode b ++ flags ++ rest := by
    intro rest
    rw [List.append_assoc, List.append_assoc]
  rw [hbits, hassoc]
  refine ⟨old, replaced_of_reads hreads old v post, ?_, fun hv _ => ?_, fun _ => ?_⟩
  · intro _ ids s' hids
    rw [List.append_assoc] at hids ⊢
    exact reads_ids (reads_readPpsIds ha hb) hids
  · change v < _ at hv
    exact put_back hreads (by omega) old post
  · have hread := reads_readPpsIds ha hb [] (flags ++ (ueCode old ++ post))
    rw [← List.append_assoc, ← List.append_assoc] at hread
    exact ⟨_, _, hread⟩

lemma outcome_chromaFormatIdc (h : (chromaFormatIdc v).steps ⟨bits, 0⟩ = .ok () s) :
    ∃ old, Outcome (chromaFormatIdc v) (chromaFormatIdc old) bits s.bits := by
  obtain ⟨_, _, hbefore, h⟩ := bind_ok.mp h
  obtain ⟨_, _, hfour, hbefore⟩ := bind_ok.mp hbefore
  obtain ⟨xs, rest, rfl, hxs, rfl, rfl⟩ := @u_inv _ [] bits _ _ hfour
  obtain ⟨_, _, hlayers, hbefore⟩ := bind_ok.mp hbefore
  obtain ⟨mid, rest, rfl, rfl, hmid⟩ := local_subLayers _ _ _ _ hlayers
  obtain ⟨b, _, hue, hbefore⟩ := bind_ok.mp hbefore
  obtain ⟨rest, rfl, hb, rfl⟩ := ue_inv hue
  obtain ⟨-, rfl⟩ := EStateM.Result.ok.inj hbefore
  obtain ⟨old, post, rfl, hold, hnew, hbits⟩ := putUe_inv h
  rw [List.nil_append, Option.getD_some] at hbits
  have hreads : Reads (chromaFormatIdc v).before (xs ++ mid ++ ueCode b) () := by
    rw [List.append_assoc, ← List.append_nil (ueCode b)]
    have hfour := reads_u xs
    rw [hxs] at hfour
    exact Reads.bind hfour (Reads.bind hmid (Reads.bind (reads_ue hb) (Reads.pure ())))
  have hassoc : ∀ rest, xs ++ (mid ++ (ueCode b ++ rest)) = xs ++ mid ++ ueCode b ++ rest := by
    intro rest
    rw [List.append_assoc, List.append_assoc]
  rw [hbits, hassoc]
  refine ⟨old, replaced_of_reads hreads old v post, ?_, fun hv _ => ?_, fun _ => ?_⟩
  · intro _ ids s' hids
    rw [List.append_assoc xs] at hids ⊢
    exact reads_ids (reads_readSpsIds hxs hmid hb) hids
  · change v < _ at hv
    exact put_back hreads (by omega) old post
  · have hread := reads_readSpsIds hxs hmid hb [] (ueCode old ++ post)
    rw [← List.append_assoc xs] at hread
    exact ⟨_, _, hread⟩

/-- What four bits are replaced by. -/
lemma putFour_iff {p : ℕ} : replace 0 4 (uBits v 4) ⟨bits, p⟩ = .ok () s ↔
    (0 ≤ v ∧ v < 16) ∧ s = ⟨natBits 4 v.toNat ++ bits.drop 4, 4⟩ := by
  have hpow : (2 : ℤ) ^ Int.toNat 4 = 16 := by decide
  rw [replace, method_ok, uBits, hpow]
  by_cases h : 0 ≤ v ∧ v < 16
  · rw [if_neg (by omega)]
    constructor
    · intro heq
      obtain ⟨-, rfl⟩ := Prod.mk.inj (Except.ok.inj heq)
      exact ⟨h, rfl⟩
    · rintro ⟨-, rfl⟩
      rfl
  · rw [if_pos (Or.inr h)]
    exact iff_of_false (by rintro ⟨⟩) fun heq => h heq.1

lemma bitsNat_four (h : 0 ≤ v ∧ v < 16) : bitsNat (natBits 4 v.toNat) = v.toNat := by
  rw [bitsNat_natBits]
  exact Nat.mod_eq_of_lt (by omega)

lemma outcome_vps (h : (vps v).steps ⟨bits, 0⟩ = .ok () s) :
    ∃ old, Outcome (vps v) (vps old) bits s.bits := by
  obtain ⟨hv, rfl⟩ := putFour_iff.mp h
  have hread := reads_u (natBits 4 v.toNat) [] (bits.drop 4)
  rw [length_natBits, bitsNat_four hv] at hread
  refine ⟨bitsNat (bits.take 4), ⟨rfl, fun hfour => ?_⟩, ?_, ?_,
    fun _ => ⟨_, bind_ok.mpr ⟨v.toNat, _, hread, rfl⟩⟩⟩
  · have hbits := natBits_bitsNat (bits.take 4)
    rw [List.length_take, Nat.min_eq_left hfour] at hbits
    exact hbits.symm
  · intro _ ids s' hids
    obtain ⟨a, _, hfour, hids⟩ := bind_ok.mp hids
    obtain ⟨rfl, -⟩ := EStateM.Result.ok.inj hids
    exact ⟨_, bind_ok.mpr ⟨v.toNat, _, hread, rfl⟩⟩
  · intro _ hfour
    have hold := bitsNat_lt (bits.take 4)
    rw [List.length_take, Nat.min_eq_left (hfour v rfl)] at hold
    refine ⟨_, putFour_iff.mpr ⟨⟨Int.natCast_nonneg _, by omega⟩, rfl⟩, ?_⟩
    have hbits := natBits_bitsNat (bits.take 4)
    rw [List.length_take, Nat.min_eq_left (hfour v rfl)] at hbits
    dsimp only
    rw [Int.toNat_natCast, hbits, List.drop_left' (length_natBits 4 _), List.take_append_drop]

lemma outcome_sps {vpsId spsId : Option ℤ} (h : (sps vpsId spsId).steps ⟨bits, 0⟩ = .ok () s) :
    ∃ oldVps oldSps, Outcome (sps vpsId spsId) (sps oldVps oldSps) bits s.bits := by
  obtain ⟨_, _, hfour, h⟩ := bind_ok.mp h
  obtain ⟨xs, rest, rfl, hxs, rfl, rfl⟩ := @u_inv _ [] bits _ _ hfour
  obtain ⟨_, _, hput, h⟩ := bind_ok.mp h
  obtain ⟨hvps, rfl⟩ := putFour_iff.mp hput
  rw [List.nil_append, List.drop_left' hxs] at h
  obtain ⟨_, _, hlayers, h⟩ := bind_ok.mp h
  obtain ⟨mid, rest, rfl, rfl, hmid⟩ := local_subLayers (natBits 4 _) _ _ _ hlayers
  obtain ⟨old, post, rfl, hold, hnew, hbits⟩ := putUe_inv h
  rw [List.append_assoc] at hbits
  rw [hbits]
  have hvpsBits := natBits_bitsNat xs
  rw [hxs] at hvpsBits
  have hsize : (sps vpsId spsId).Admissible → (spsId.getD old).toNat < 2 ^ 32 - 1 := by
    intro hadm
    cases spsId with
    | none => exact hold
    | some v =>
        have hv := hadm v rfl
        change v.toNat < _
        omega
  have hread := reads_readSpsIds hxs hmid hold [] post
  rw [List.append_assoc, List.append_assoc] at hread
  refine ⟨vpsId.map fun _ => ↑(bitsNat xs), spsId.map fun _ => ↑old,
    ⟨bitsNat xs, mid, old, post, rfl, rfl, by rw [hvpsBits], rfl, ?_⟩, ?_, ?_,
    fun _ => ⟨_, _, hread⟩⟩
  · have hread := hmid xs (ueCode old ++ post)
    rw [List.length_append, hxs] at hread
    exact hread
  · intro hadm ids s' hids
    obtain ⟨rfl, -⟩ := EStateM.Result.ok.inj (hids.symm.trans hread)
    have hnewRead := reads_readSpsIds (length_natBits 4 (vpsId.getD ↑(bitsNat xs)).toNat) hmid
      (hsize hadm) [] post
    rw [List.append_assoc, List.append_assoc, bitsNat_four hvps] at hnewRead
    have hupdate : (sps vpsId spsId).update [("vps_id", bitsNat xs), ("sps_id", old)] =
        [("vps_id", (vpsId.getD ↑(bitsNat xs)).toNat), ("sps_id", (spsId.getD ↑old).toNat)] := by
      cases vpsId <;> cases spsId <;> rfl
    rw [hupdate]
    exact ⟨_, hnewRead⟩
  · intro hadm _
    have hread := reads_u (natBits 4 (vpsId.getD ↑(bitsNat xs)).toNat) []
      (mid ++ (ueCode (spsId.getD ↑old).toNat ++ post))
    rw [length_natBits, bitsNat_four hvps] at hread
    have hbackVps : ((vpsId.map fun _ => (↑(bitsNat xs) : ℤ)).getD
        ↑(vpsId.getD ↑(bitsNat xs)).toNat) = bitsNat xs := by
      cases vpsId <;> rfl
    have hbackSps : ((spsId.map fun _ =>
        (↑old : ℤ)).getD ↑(spsId.getD ↑old).toNat).toNat = old := by
      cases spsId <;> rfl
    have hlt := bitsNat_lt xs
    rw [hxs] at hlt
    have hput : replace 0 4 (uBits ((vpsId.map fun _ => (↑(bitsNat xs) : ℤ)).getD
          ↑(vpsId.getD ↑(bitsNat xs)).toNat) 4)
        ⟨natBits 4 (vpsId.getD ↑(bitsNat xs)).toNat ++
          (mid ++ (ueCode (spsId.getD ↑old).toNat ++ post)), 4⟩ =
        .ok () ⟨xs ++ (mid ++ (ueCode (spsId.getD ↑old).toNat ++ post)), xs.length⟩ := by
      rw [hbackVps]
      refine putFour_iff.mpr ⟨⟨Int.natCast_nonneg _, by omega⟩, ?_⟩
      rw [List.drop_left' (length_natBits 4 _), Int.toNat_natCast, hvpsBits, hxs]
    have hlast := @putUe_ok _ (spsId.map fun _ => (↑old : ℤ)) (hsize hadm) (fun w hw => by
      obtain ⟨_, _, rfl⟩ := Option.map_eq_some_iff.mp hw
      exact Int.natCast_nonneg old) (xs ++ mid) post
    rw [hbackSps, List.append_assoc, List.append_assoc] at hlast
    refine ⟨_, bind_ok.mpr ⟨_, _, hread, bind_ok.mpr ⟨(), _, hput, bind_ok.mpr ⟨(), _, hmid xs _,
      hlast⟩⟩⟩, rfl⟩

end Outcomes

lemma outcome (e : Edit) {bits : List Bool} {s : Reader} (h : e.steps ⟨bits, 0⟩ = .ok () s) :
    ∃ back, back.type = e.type ∧ Outcome e back bits s.bits := by
  cases e with
  | vps v =>
      obtain ⟨old, hold⟩ := outcome_vps h
      exact ⟨vps old, rfl, hold⟩
  | sps v w =>
      obtain ⟨oldVps, oldSps, hold⟩ := outcome_sps h
      exact ⟨sps oldVps oldSps, rfl, hold⟩
  | ppsId v =>
      obtain ⟨old, hold⟩ := outcome_ppsId h
      exact ⟨ppsId old, rfl, hold⟩
  | ppsSps v =>
      obtain ⟨old, hold⟩ := outcome_ppsSps h
      exact ⟨ppsSps old, rfl, hold⟩
  | chromaFormatIdc v =>
      obtain ⟨old, hold⟩ := outcome_chromaFormatIdc h
      exact ⟨chromaFormatIdc old, rfl, hold⟩
  | numRefIdxL0Minus1 v =>
      obtain ⟨old, hold⟩ := outcome_numRefIdxL0Minus1 h
      exact ⟨numRefIdxL0Minus1 old, rfl, hold⟩

/-! ### NAL units -/

section Nal

variable {nal edited : List UInt8} {e : Edit} {s : Reader} {α : Type} {x : Read α} {a : α}

lemma payload_ok : payload nal = .ok s ↔ Reader.ofRbsp (unescape (nal.drop 2)) = .ok s := by
  rw [payload]
  cases Reader.ofRbsp (unescape (nal.drop 2)) with
  | error text => exact iff_of_false (by rintro ⟨⟩) (by rintro ⟨⟩)
  | ok s' => exact ⟨fun h => by cases h; rfl, fun h => by cases h; rfl⟩

lemma payload_pos (h : payload nal = .ok s) : s = ⟨s.bits, 0⟩ := by
  have h := payload_ok.mp h
  rw [Reader.ofRbsp] at h
  split_ifs at h
  cases h
  rfl

/-- A NAL unit with a payload has its header. -/
lemma two_le_of_payload (h : payload nal = .ok s) : 2 ≤ nal.length := by
  by_contra hlen
  have h := payload_ok.mp h
  rw [List.drop_eq_nil_of_le (by omega)] at h
  cases h

lemma payload_rebuild (h : 2 ≤ nal.length) (s : Reader) :
    payload (rebuild nal s) = .ok ⟨s.bits, 0⟩ := by
  have htake : (nal.take 2).length = 2 := by
    rw [List.length_take]
    omega
  rw [payload_ok, rebuild, List.drop_left' htake, unescape_escape, ofRbsp_toRbsp]

lemma take_rebuild (h : 2 ≤ nal.length) (s : Reader) : (rebuild nal s).take 2 = nal.take 2 := by
  rw [rebuild, List.take_left' (by rw [List.length_take]; omega)]

lemma nalType_rebuild (h : 2 ≤ nal.length)
    (s : Reader) : nalType (rebuild nal s) = nalType nal := by
  match nal, h with
  | b :: c :: rest, _ => rfl

lemma onPayload_ok : onPayload nal x = .ok (a, s) ↔
    ∃ bits, payload nal = .ok ⟨bits, 0⟩ ∧ x ⟨bits, 0⟩ = .ok a s := by
  rw [onPayload]
  rcases hpayload : payload nal with err | r
  · exact iff_of_false (by rintro ⟨⟩) (by rintro ⟨_, ⟨⟩, _⟩)
  · rw [payload_pos hpayload]
    change (match x ⟨r.bits, 0⟩ with
      | .ok a bits => Except.ok (a, bits)
      | .error e _ => .error e) = _ ↔ _
    constructor
    · intro h
      refine ⟨r.bits, rfl, ?_⟩
      rcases hx : x ⟨r.bits, 0⟩ with ⟨a', s'⟩ | ⟨err, s'⟩
      · rw [hx] at h
        cases h
        rfl
      · rw [hx] at h
        cases h
    · rintro ⟨bits, hbits, hx⟩
      cases hbits
      rw [hx]

lemma ids_ok {ids : List (String × ℕ)} : e.ids nal = .ok ids ↔
    ∃ bits s, payload nal = .ok ⟨bits, 0⟩ ∧ e.readIds ⟨bits, 0⟩ = .ok ids s := by
  rw [ids_eq]
  constructor
  · intro h
    rcases hread : onPayload nal e.readIds with err | ⟨ids', s⟩
    · rw [hread] at h
      cases h
    · rw [hread] at h
      cases h
      obtain ⟨bits, hbits, hids⟩ := onPayload_ok.mp hread
      exact ⟨bits, s, hbits, hids⟩
  · rintro ⟨bits, s, hbits, hids⟩
    rw [onPayload_ok.mpr ⟨bits, hbits, hids⟩]
    rfl

lemma rewrite_ok {type : ℕ} {x : Read Unit} : rewrite type nal x = .ok edited ↔
    nalType nal = .ok type ∧ ∃ bits s, payload nal = .ok ⟨bits, 0⟩ ∧ x ⟨bits, 0⟩ = .ok () s ∧
      edited = rebuild nal s := by
  rw [rewrite]
  rcases htype : nalType nal with err | t
  · exact iff_of_false (by rintro ⟨⟩) (by rintro ⟨⟨⟩, _⟩)
  · change (if t ≠ type then Except.error (Exc.raise Raised.assertionError)
      else (onPayload nal x).map fun r => rebuild nal r.2) = _ ↔ _
    split_ifs with hne
    · exact iff_of_false (by rintro ⟨⟩) fun h => hne (Except.ok.inj h.1)
    · obtain rfl := not_not.mp hne
      rw [and_iff_right rfl]
      constructor
      · intro h
        rcases hx : onPayload nal x with err | ⟨_, s⟩
        · rw [hx] at h
          cases h
        · rw [hx] at h
          cases h
          obtain ⟨bits, hbits, hsteps⟩ := onPayload_ok.mp hx
          exact ⟨bits, s, hbits, hsteps, rfl⟩
      · rintro ⟨bits, s, hbits, hsteps, rfl⟩
        rw [onPayload_ok.mpr ⟨bits, hbits, hsteps⟩]
        rfl

lemma apply_ok : e.apply nal = .ok edited ↔ nalType nal = .ok e.type ∧
    ∃ bits s, payload nal = .ok ⟨bits, 0⟩ ∧ e.steps ⟨bits, 0⟩ = .ok () s ∧
      edited = rebuild nal s := by
  cases e with
  | vps v => exact rewrite_ok
  | sps v w => exact rewrite_ok
  | ppsId v => exact rewrite_ok
  | ppsSps v =>
      simp only [steps, before, bind_assoc, pure_bind]
      exact rewrite_ok
  | chromaFormatIdc v =>
      simp only [steps, before, bind_assoc, pure_bind]
      exact rewrite_ok
  | numRefIdxL0Minus1 v =>
      simp only [steps, before, bind_assoc, pure_bind]
      exact rewrite_ok

/-- The form that `_rebuild` produces. -/
def Built (nal : List UInt8) : Prop := ∃ bits, nal = rebuild nal bits

lemma eq_of_built {bits : List Bool} (h : Built nal) (hbits : payload nal = .ok ⟨bits, 0⟩)
    (hs : s.bits = bits) : nal.take 2 ++ escape (toRbsp s.bits) = nal := by
  obtain ⟨r, hr⟩ := h
  have hpayload := payload_rebuild (two_le_of_payload hbits) r
  rw [← hr, hbits] at hpayload
  cases hpayload
  rw [hs]
  exact hr.symm

/-- The edit back gives back a NAL unit that `_rebuild` made. -/
lemma apply_back {back : Edit} {bits bits' : List Bool} (h : nalType edited = .ok back.type)
    (hbits : payload nal = .ok ⟨bits, 0⟩) (hbits' : payload edited = .ok ⟨bits', 0⟩)
    (htake : edited.take 2 = nal.take 2) (hbuilt : Built nal)
    (hundo : ∃ s, back.steps ⟨bits', 0⟩ = .ok () s ∧ s.bits = bits) :
    back.apply edited = .ok nal := by
  obtain ⟨s, hsteps, hs⟩ := hundo
  refine apply_ok.mpr ⟨h, bits', s, hbits', hsteps, ?_⟩
  rw [rebuild, htake]
  exact (eq_of_built hbuilt hbits hs).symm

/-- **An edit of a parameter set touches its own code**: the bits before and after the code are
unchanged, the new value is read back for an edited id and the old one for every other, and the
edit back gives the NAL unit that it was. The ids of a PPS are read after the edit of its first id
only if they can be read before it. -/
theorem edit_touches_its_code (h : e.apply nal = .ok edited) :
    ∃ back bits bits', payload nal = .ok ⟨bits, 0⟩ ∧ payload edited = .ok ⟨bits', 0⟩ ∧
      edited.take 2 = nal.take 2 ∧ Framed bits bits' e back ∧
      (e.Admissible →
        (∀ ids, e.ids nal = .ok ids → e.ids edited = .ok (e.update ids)) ∧
        (∀ v, e = vps v → e.ids edited = .ok [("vps_id", v.toNat)]) ∧
        (∀ v, e = ppsId v → (∃ ids, e.ids edited = .ok ids) → ∃ ids, e.ids nal = .ok ids) ∧
        ((∀ v, e ≠ vps v) → (∀ v, e ≠ ppsId v) → ∃ ids, e.ids nal = .ok ids) ∧
        (Built nal → (∀ v, e = vps v → 4 ≤ bits.length) → back.apply edited = .ok nal)) := by
  obtain ⟨htype, bits, s, hbits, hsteps, rfl⟩ := apply_ok.mp h
  obtain ⟨back, hback, hout⟩ := e.outcome hsteps
  have hlen := two_le_of_payload hbits
  have hbits' := payload_rebuild hlen s
  have htake := take_rebuild hlen s
  refine ⟨back, bits, s.bits, hbits, hbits', htake, hout.framed, fun hadm => ?_⟩
  refine ⟨?_, ?_, ?_, ?_, ?_⟩
  · intro ids hids
    obtain ⟨_, s', heq, hread⟩ := ids_ok.mp hids
    rw [hbits] at heq
    cases heq
    obtain ⟨s₁, hnew⟩ := hout.reads hadm ids s' hread
    exact ids_ok.mpr ⟨s.bits, s₁, hbits', hnew⟩
  · rintro v rfl
    obtain ⟨s₁, hnew⟩ := hout.known hadm
    exact ids_ok.mpr ⟨s.bits, s₁, hbits', hnew⟩
  · rintro v rfl ⟨ids, hids⟩
    obtain ⟨_, s', heq, hread⟩ := ids_ok.mp hids
    rw [hbits'] at heq
    cases heq
    obtain ⟨ids, s₁, hold⟩ := hout.known hadm ids s' hread
    exact ⟨ids, ids_ok.mpr ⟨bits, s₁, hbits, hold⟩⟩
  · intro hvps hpps
    have hknown := hout.known hadm
    have hold : ∃ ids s, e.readIds ⟨bits, 0⟩ = .ok ids s := by
      cases e with
      | vps v => exact absurd rfl (hvps v)
      | ppsId v => exact absurd rfl (hpps v)
      | sps v w => exact hknown
      | ppsSps v => exact hknown
      | chromaFormatIdc v => exact hknown
      | numRefIdxL0Minus1 v => exact hknown
    obtain ⟨ids, s₁, hread⟩ := hold
    exact ⟨ids, ids_ok.mpr ⟨bits, s₁, hbits, hread⟩⟩
  · intro hbuilt hfour
    refine apply_back ?_ hbits hbits' htake hbuilt (hout.undo hadm hfour)
    rw [nalType_rebuild hlen, htype, hback]

theorem edit_touches_its_code_pps :
    ppsIds [0x44, 0x01, 0x92] = .ok [("pps_id", 0), ("sps_id", 3)] := by
  have h : (ppsSps 3).apply [0x44, 0x01, 0xE0] = .ok [0x44, 0x01, 0x92] := by decide +kernel
  obtain ⟨_, _, _, _, _, _, _, hids⟩ := edit_touches_its_code h
  exact (hids (show (3 : ℤ) < 2 ^ 32 - 1 by decide)).1 [("pps_id", 0), ("sps_id",
    0)] (by decide +kernel)

/-- The id of a PPS that has no second id is edited, and its ids are not read back. -/
theorem ids_not_read_back : ¬∀ (e : Edit) (nal edited : List UInt8), e.apply nal = .ok edited →
    e.Admissible → ∃ ids, e.ids edited = .ok ids := by
  intro h
  have hedit : (ppsId 1).apply [0x44, 0x01, 0xC0] = .ok [0x44, 0x01, 0x50] := by decide +kernel
  obtain ⟨ids, hids⟩ := h (ppsId 1) _ _ hedit (show (1 : ℤ) < 2 ^ 32 - 1 by decide)
  have hraised : (ppsId 1).ids [0x44, 0x01, 0x50] =
      .error (.raise (.valueError "read past end of RBSP")) := by decide +kernel
  rw [hraised] at hids
  cases hids

end Nal

end Edit

end OmarchyM1Video.HevcParamSets.Hevcnal
