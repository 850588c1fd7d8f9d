import Mathlib.Tactic.Choose
import OmarchyM1Video.Py.Dict
import OmarchyM1Video.Py.Json
import OmarchyM1Video.Recorder.Controls

/-!
The offline reader and writer of the control bytes: `unpack_controls` and `pack_controls` of
`experiments/hevc-avd-command-trace/parser.py`.

Both follow the same field list as the kernel.

* `unpackControls`, `packControls`: the two functions;
* `get?_readFields`: what is unpacked under each name;
* `control_wire_bijection`: the two are inverse to each other, and what the kernel packs is unpacked
  to the members of the structures.
-/

namespace OmarchyM1Video.CommandTrace

open OmarchyM1Video.Py OmarchyM1Video.Recorder

/-- `kind.startswith('S')`. -/
def signed : Member → Bool
  | .s8 _ => true
  | .s32 _ => true
  | _ => false

/-- `kind == 'BYTES'`. -/
def isBytes : Member → Bool
  | .bytes _ _ => true
  | _ => false

/-- A byte as an element of a list of integers. -/
def byteJson (b : UInt8) : Json := .int b.toNat

/-- An element of a list that is a byte. -/
def jsonByte : Json → Option UInt8
  | .int n => if 0 ≤ n ∧ n ≤ 255 then some (UInt8.ofNat n.toNat) else none
  | _ => none

/-- `buf[i:i + count]`. -/
def slice (buf : List UInt8) (i count : ℕ) : List UInt8 := (buf.drop i).take count

/-- The value of a field. -/
def readField (m : Member) (data : List UInt8) : Json :=
  if isBytes m then .arr (data.map byteJson) else .int (bytesInt (signed m) data)

/-- The loop of `unpack_controls`. -/
def readFields : List Field → List UInt8 → ℕ → Dict String Json → Dict String Json
  | [], _, _, c => c
  | f :: fields, buf, i, c =>
      readFields fields buf (i + f.member.count)
        (c.set f.name (readField f.member (slice buf i f.member.count)))

/-- `unpack_controls(buf)`. -/
def unpackControls (buf : List UInt8) : Except String (Dict String Json) := do
  need (buf.length = cmdControl) "controls require exactly 1392 bytes"
  need ((buf.drop cmdPacked).all (· = 0) = true) "nonzero wire padding"
  return readFields controlLayout buf 0 ∅

/-- The bytes of a field. -/
def writeField (f : Field) (v : Json) : Except String (List UInt8) :=
  if isBytes f.member then
    match v with
    | .arr xs =>
        if xs.length = f.member.count then
          found (xs.mapM jsonByte) ("array domain: " ++ f.name)
        else .error ("array domain: " ++ f.name)
    | _ => .error ("array domain: " ++ f.name)
  else
    match v with
    | .int n => found (intBytes (signed f.member) f.member.count n) ("scalar range: " ++ f.name)
    | _ => .error ("scalar domain: " ++ f.name)

/-- The loop of `pack_controls`; a name that is missing raises `KeyError`. -/
def writeFields (c : Dict String Json) : List Field → List UInt8 → Except String (List UInt8)
  | [], data => .ok data
  | f :: fields, data => do
      let v ← found (c.get? f.name) "KeyError"
      let bytes ← writeField f v
      writeFields c fields (data ++ bytes)

/-- `{name for _, name, _ in LAYOUT}`. -/
def layoutNames : List String := controlLayout.map Field.name

/-- `pack_controls(c)`. -/
def packControls (c : Dict String Json) : Except String (List UInt8) := do
  need (c.keys.all (layoutNames.contains ·) = true ∧ layoutNames.all (c.contains ·) = true)
    "missing/unknown control fields"
  let data ← writeFields c controlLayout []
  return data ++ List.replicate (cmdControl - cmdPacked) 0

/-! ### One field -/

section Field

variable {f : Field} {m : Member} {data : List UInt8} {v : Json}

/-- The values that a field takes. -/
def InRange (m : Member) (v : Json) : Prop :=
  if isBytes m then ∃ data : List UInt8, data.length = m.count ∧ v = .arr (data.map byteJson)
  else ∃ n, v = .int n ∧ fits (signed m) m.count n

lemma jsonByte_byteJson (b : UInt8) : jsonByte (byteJson b) = some b := by
  have hb : b.toNat < 256 := b.toNat_lt
  rw [byteJson, jsonByte, if_pos (by omega), Int.toNat_natCast, UInt8.ofNat_toNat]

lemma mapM_jsonByte (data : List UInt8) : data.mapM (jsonByte ∘ byteJson) = some data := by
  induction data with
  | nil => rfl
  | cons b data ih => simp [jsonByte_byteJson, ih]

/-- What is read from bytes is written as these bytes. -/
lemma writeField_readField (h : data.length = f.member.count) :
    writeField f (readField f.member data) = .ok data := by
  by_cases hbytes : isBytes f.member = true
  · simp [writeField, readField, hbytes, h, mapM_jsonByte]
  · have hround := intBytes_bytesInt (signed f.member) data
    rw [h] at hround
    simp [writeField, readField, hbytes, hround]

/-- A value in range is written as so many bytes, and they are read as the value. -/
lemma writeField_inRange (h : InRange f.member v) :
    ∃ data, writeField f v = .ok data ∧ data.length = f.member.count ∧
      readField f.member data = v := by
  by_cases hbytes : isBytes f.member = true
  · rw [InRange, if_pos hbytes] at h
    obtain ⟨data, hlength, rfl⟩ := h
    refine ⟨data, ?_, hlength, by simp [readField, hbytes]⟩
    simp [writeField, hbytes, hlength, mapM_jsonByte]
  · rw [InRange, if_neg hbytes] at h
    obtain ⟨n, rfl, hfits⟩ := h
    have hdata : intBytes (signed f.member) f.member.count n =
        some (natBytes f.member.count (n % byteSpan f.member.count).toNat) := if_pos hfits
    obtain ⟨hlength, hvalue⟩ := bytesInt_intBytes hdata
    refine ⟨_, ?_, hlength, by simp [readField, hbytes, hvalue]⟩
    simp [writeField, hbytes, hdata]

/-- What is read from so many bytes is in range. -/
lemma inRange_readField (h : data.length = m.count) : InRange m (readField m data) := by
  by_cases hbytes : isBytes m = true
  · rw [InRange, if_pos hbytes, readField, if_pos hbytes]
    exact ⟨data, h, rfl⟩
  · rw [InRange, if_neg hbytes, readField, if_neg hbytes]
    have hround := intBytes_bytesInt (signed m) data
    rw [intBytes, h] at hround
    split_ifs at hround with hfits
    exact ⟨_, rfl, hfits⟩

end Field

/-! ### All fields -/

section Fields

variable {fields pre post : List Field} {f : Field} {buf data : List UInt8} {i : ℕ}
  {c d : Dict String Json} {name : String}

lemma layoutSize_cons (f : Field) (fields : List Field) :
    layoutSize (f :: fields) = f.member.count + layoutSize fields := by
  simp [layoutSize]

lemma length_slice {count : ℕ} (h : i + count ≤ buf.length) : (slice buf i count).length = count := by
  rw [slice, List.length_take, List.length_drop]
  omega

/-- A name that no field has is left alone. -/
lemma get?_readFields_of_notMem (h : name ∉ fields.map Field.name) :
    (readFields fields buf i d).get? name = d.get? name := by
  induction fields generalizing i d with
  | nil => rfl
  | cons f fields ih =>
      rw [List.map_cons, List.mem_cons, not_or] at h
      rw [readFields, ih h.2, Dict.get?_set, if_neg h.1]

/-- **What is unpacked under each name** is the field's value at its place. -/
theorem get?_readFields (hnodup : (fields.map Field.name).Nodup) (h : fields = pre ++ f :: post) :
    (readFields fields buf i d).get? f.name =
      some (readField f.member (slice buf (i + layoutSize pre) f.member.count)) := by
  induction pre generalizing fields i d with
  | nil =>
      subst h
      rw [List.nil_append, List.map_cons, List.nodup_cons] at hnodup
      rw [List.nil_append, readFields, get?_readFields_of_notMem hnodup.1, Dict.get?_set, if_pos rfl]
      rfl
  | cons g pre ih =>
      subst h
      rw [List.cons_append, List.map_cons, List.nodup_cons] at hnodup
      rw [List.cons_append, readFields, ih hnodup.2 rfl, layoutSize_cons, Nat.add_assoc]

/-- What was read from bytes is written as these bytes. -/
lemma writeFields_slices (hsize : i + layoutSize fields ≤ buf.length)
    (h : ∀ pre f post, fields = pre ++ f :: post → c.get? f.name =
      some (readField f.member (slice buf (i + layoutSize pre) f.member.count))) :
    writeFields c fields data = .ok (data ++ slice buf i (layoutSize fields)) := by
  induction fields generalizing i data with
  | nil => simp [writeFields, slice, layoutSize]
  | cons f fields ih =>
      rw [layoutSize_cons] at hsize
      have hlength : (slice buf i f.member.count).length = f.member.count := length_slice (by omega)
      have hhead : c.get? f.name = some (readField f.member (slice buf i f.member.count)) :=
        h [] f fields rfl
      have hrest : writeFields c fields (data ++ slice buf i f.member.count) =
          .ok (data ++ slice buf i f.member.count ++
            slice buf (i + f.member.count) (layoutSize fields)) := by
        refine ih (by omega) fun pre g post heq => ?_
        rw [h (f :: pre) g post (by rw [heq, List.cons_append]), layoutSize_cons, Nat.add_assoc]
      have hjoin : slice buf i f.member.count ++ slice buf (i + f.member.count) (layoutSize fields) =
          slice buf i (f.member.count + layoutSize fields) := by
        rw [slice, slice, slice, List.take_add, List.drop_drop]
      rw [writeFields, hhead]
      simp only [found, Except.bind_ok, layoutSize_cons]
      refine ⟨_, rfl, _, writeField_readField hlength, ?_⟩
      rw [hrest, List.append_assoc, hjoin]

/-- What is written is read again at each place. -/
lemma writeFields_chunks {chunk : Field → List UInt8}
    (h : ∀ f ∈ fields, ∃ v, c.get? f.name = some v ∧ writeField f v = .ok (chunk f)) :
    writeFields c fields data = .ok (data ++ fields.flatMap chunk) := by
  induction fields generalizing data with
  | nil => simp [writeFields]
  | cons f fields ih =>
      obtain ⟨v, hv, hchunk⟩ := h f List.mem_cons_self
      have hrest : writeFields c fields (data ++ chunk f) =
          .ok (data ++ chunk f ++ fields.flatMap chunk) :=
        ih fun g hg => h g (List.mem_cons_of_mem f hg)
      rw [writeFields, hv]
      simp only [found, Except.bind_ok]
      refine ⟨_, rfl, _, hchunk, ?_⟩
      rw [hrest, List.flatMap_cons, List.append_assoc]

/-- Each chunk is where the chunks before it end. -/
lemma slice_chunks {chunk : Field → List UInt8} {rest : List UInt8}
    (hlength : ∀ f ∈ fields, (chunk f).length = f.member.count) (h : fields = pre ++ f :: post) :
    slice (fields.flatMap chunk ++ rest) (0 + layoutSize pre) f.member.count = chunk f := by
  subst h
  have hpre : (pre.flatMap chunk).length = 0 + layoutSize pre := by
    rw [List.length_flatMap, layoutSize, Nat.zero_add]
    refine congrArg List.sum (List.map_congr_left fun g hg => ?_)
    exact hlength g (List.mem_append_left _ hg)
  have hf : (chunk f).length = f.member.count := hlength f (by simp)
  rw [slice, List.flatMap_append, List.flatMap_cons, List.append_assoc, List.drop_left' hpre,
    List.append_assoc, List.take_left' hf]

end Fields

/-! ### The whole buffer -/

/-- No name stands for two fields. -/
lemma layoutNames_nodup : layoutNames.Nodup := by decide +kernel

/-- The value of the member that a field copies. -/
def memberValue (k : Controls) : Member → Json
  | .u8 get => .int (get k).toNat
  | .s8 get => .int (get k).toInt
  | .u16 get => .int (get k).toNat
  | .u32 get => .int (get k).toNat
  | .s32 get => .int (get k).toInt
  | .u64 get => .int (get k).toNat
  | .bytes _ get => .arr ((List.ofFn (get k)).map byteJson)

/-- The bytes of an unsigned number that fits are read as the number. -/
lemma bytesInt_natBytes {w n : ℕ} (h : n < byteSpan w) : bytesInt false (natBytes w n) = n := by
  rw [bytesInt, bytesNat_natBytes h]
  simp

/-- The bytes of a signed number that fits are read as the number. -/
lemma bytesInt_natBytes_signed {w n : ℕ} {v : ℤ} (hfits : fits true w v)
    (h : (v % byteSpan w).toNat = n) : bytesInt true (natBytes w n) = v := by
  have hbytes : intBytes true w v = some (natBytes w n) := by rw [intBytes, if_pos hfits, h]
  exact (bytesInt_intBytes hbytes).2

/-- The pattern of a signed number is the number modulo the number of patterns. -/
lemma toInt_emod_toNat {w : ℕ} (x : BitVec w) : (x.toInt % (2 ^ w : ℕ)).toNat = x.toNat := by
  rw [BitVec.toInt_eq_toNat_bmod, Int.bmod_emod, ← Int.natCast_emod, Int.toNat_natCast,
    Nat.mod_eq_of_lt x.isLt]

/-- The bytes that the kernel packs of a member are read as its value. -/
lemma readField_chunk (k : Controls) (m : Member) : readField m (m.chunk k) = memberValue k m := by
  cases m with
  | u8 get => exact congrArg Json.int (bytesInt_natBytes (get k).toNat_lt)
  | u16 get => exact congrArg Json.int (bytesInt_natBytes (get k).toNat_lt)
  | u32 get => exact congrArg Json.int (bytesInt_natBytes (get k).toNat_lt)
  | u64 get => exact congrArg Json.int (bytesInt_natBytes (get k).toNat_lt)
  | s8 get =>
      refine congrArg Json.int (bytesInt_natBytes_signed ?_ ?_)
      · have hlow := (get k).le_toInt
        have hhigh := (get k).toInt_lt
        simp only [fits, if_true, byteSpan]
        omega
      · exact toInt_emod_toNat (get k).toBitVec
  | s32 get =>
      refine congrArg Json.int (bytesInt_natBytes_signed ?_ ?_)
      · have hlow := (get k).le_toInt
        have hhigh := (get k).toInt_lt
        simp only [fits, if_true, byteSpan]
        omega
      · exact toInt_emod_toNat (get k).toBitVec
  | bytes count get => rfl

variable {buf : List UInt8} {c : Dict String Json}

/-- A buffer of the right length whose padding is zero is unpacked, field by field. -/
lemma unpackControls_ok (hlength : buf.length = cmdControl) (hpad : ∀ b ∈ buf.drop cmdPacked, b = 0) :
    unpackControls buf = .ok (readFields controlLayout buf 0 ∅) := by
  have hall : (buf.drop cmdPacked).all (· = 0) = true := by simpa using hpad
  simp [unpackControls, hlength, hall, need]

/-- What is unpacked has the names of the layout and no others. -/
lemma get?_unpacked_eq_none {name : String} (h : name ∉ layoutNames) :
    (readFields controlLayout buf 0 ∅).get? name = none :=
  get?_readFields_of_notMem h

lemma exists_field {name : String} (h : name ∈ layoutNames) :
    ∃ pre f post, controlLayout = pre ++ f :: post ∧ f.name = name := by
  obtain ⟨f, hf, rfl⟩ := List.mem_map.mp h
  obtain ⟨pre, post, hsplit⟩ := List.append_of_mem hf
  exact ⟨pre, f, post, hsplit, rfl⟩

/-- A dictionary with the names of the layout is packed field by field. -/
lemma packControls_ok {data : List UInt8} (hnames : ∀ name, (∃ v, c.get? name = some v) ↔
      name ∈ layoutNames) (h : writeFields c controlLayout [] = .ok data) :
    packControls c = .ok (data ++ List.replicate (cmdControl - cmdPacked) 0) := by
  have hkeys : c.keys.all (layoutNames.contains ·) = true := by
    simp only [List.all_eq_true, List.contains_iff_mem]
    exact fun name hname => (hnames name).mp (Dict.mem_keys_iff.mp hname)
  have hall : layoutNames.all (c.contains ·) = true := by
    simp only [List.all_eq_true]
    exact fun name hname => Dict.contains_iff.mpr ((hnames name).mpr hname)
  simp only [packControls, Except.bind_ok, need_ok, Except.pure_ok]
  exact ⟨(), ⟨hkeys, hall⟩, data, h, rfl⟩

/-- Chunks of the right lengths, with the padding, are unpacked chunk by chunk. -/
lemma unpack_chunks {chunk : Field → List UInt8}
    (hlength : ∀ f ∈ controlLayout, (chunk f).length = f.member.count) :
    ∃ c, unpackControls (controlLayout.flatMap chunk ++
        List.replicate (cmdControl - cmdPacked) 0) = .ok c ∧
      (∀ f ∈ controlLayout, c.get? f.name = some (readField f.member (chunk f))) ∧
      ∀ name, name ∉ layoutNames → c.get? name = none := by
  have hsize : (controlLayout.flatMap chunk).length = cmdPacked := by
    rw [List.length_flatMap, ← layoutSize_controlLayout, layoutSize]
    exact congrArg List.sum (List.map_congr_left hlength)
  have hlength' : (controlLayout.flatMap chunk ++
      List.replicate (cmdControl - cmdPacked) 0).length = cmdControl := by
    rw [List.length_append, hsize, List.length_replicate]
    rfl
  have hpad : ∀ b ∈ (controlLayout.flatMap chunk ++
      List.replicate (cmdControl - cmdPacked) 0).drop cmdPacked, b = 0 := by
    rw [List.drop_left' hsize]
    exact fun b hb => List.eq_of_mem_replicate hb
  refine ⟨_, unpackControls_ok hlength' hpad, fun f hf => ?_,
    fun name hname => get?_unpacked_eq_none hname⟩
  obtain ⟨pre, post, hsplit⟩ := List.append_of_mem hf
  rw [get?_readFields layoutNames_nodup hsplit, slice_chunks hlength hsplit]

/-- What is unpacked has just the names of the layout. -/
lemma unpacked_names (name : String) :
    (∃ v, (readFields controlLayout buf 0 ∅).get? name = some v) ↔ name ∈ layoutNames := by
  refine ⟨fun ⟨v, hv⟩ => ?_, fun hname => ?_⟩
  · by_contra hnot
    rw [get?_unpacked_eq_none hnot] at hv
    exact absurd hv (by simp)
  · obtain ⟨pre, f, post, hsplit, rfl⟩ := exists_field hname
    exact ⟨_, get?_readFields layoutNames_nodup hsplit⟩

/-- A buffer is what its fields are packed to. -/
lemma pack_unpack (hlength : buf.length = cmdControl) (hpad : ∀ b ∈ buf.drop cmdPacked, b = 0) :
    packControls (readFields controlLayout buf 0 ∅) = .ok buf := by
  have hsize : 0 + layoutSize controlLayout ≤ buf.length := by
    rw [hlength, layoutSize_controlLayout]
    decide
  have hwrite : writeFields (readFields controlLayout buf 0 ∅) controlLayout [] =
      .ok ([] ++ slice buf 0 (layoutSize controlLayout)) :=
    writeFields_slices hsize fun pre f post hsplit => get?_readFields layoutNames_nodup hsplit
  have hdrop : buf.drop cmdPacked = List.replicate (cmdControl - cmdPacked) 0 := by
    rw [List.eq_replicate_iff, List.length_drop, hlength]
    exact ⟨rfl, hpad⟩
  rw [packControls_ok unpacked_names hwrite, List.nil_append, slice, List.drop_zero,
    layoutSize_controlLayout, ← hdrop, List.take_append_drop]

/-- A dictionary with the names of the layout and values in range is what its bytes are unpacked
to. -/
lemma unpack_pack (hnames : ∀ name, (∃ v, c.get? name = some v) ↔ name ∈ layoutNames)
    (hrange : ∀ f ∈ controlLayout, ∀ v, c.get? f.name = some v → InRange f.member v) :
    ∃ buf c', packControls c = .ok buf ∧ unpackControls buf = .ok c' ∧
      ∀ name, c'.get? name = c.get? name := by
  have hfield : ∀ f ∈ controlLayout, ∃ data v, c.get? f.name = some v ∧
      writeField f v = .ok data ∧ data.length = f.member.count ∧ readField f.member data = v := by
    intro f hf
    obtain ⟨v, hv⟩ := (hnames f.name).mpr (List.mem_map_of_mem hf)
    obtain ⟨data, hdata⟩ := writeField_inRange (hrange f hf v hv)
    exact ⟨data, v, hv, hdata⟩
  choose! chunk hchunk using hfield
  have hwrite : writeFields c controlLayout [] = .ok ([] ++ controlLayout.flatMap chunk) := by
    refine writeFields_chunks fun f hf => ?_
    obtain ⟨v, hv, hdata, _⟩ := hchunk f hf
    exact ⟨v, hv, hdata⟩
  obtain ⟨c', hc', hfields, hother⟩ := unpack_chunks fun f hf => (hchunk f hf).choose_spec.2.2.1
  refine ⟨_, c', packControls_ok hnames hwrite, hc', fun name => ?_⟩
  by_cases hname : name ∈ layoutNames
  · obtain ⟨f, hf, rfl⟩ := List.mem_map.mp hname
    obtain ⟨v, hv, _, _, hread⟩ := hchunk f hf
    rw [hfields f hf, hv, hread]
  · have hnone : c.get? name = none := by
      rw [Option.eq_none_iff_forall_ne_some]
      exact fun v hv => hname ((hnames name).mp ⟨v, hv⟩)
    rw [hother name hname, hnone]

/-- **The control wire format is a bijection.**  A buffer with zero padding is what its fields are
packed to; a dictionary with the names of the layout and values in range is what its bytes are
unpacked to; and what the kernel packs is unpacked to the members of the structures. -/
theorem control_wire_bijection :
    (∀ buf : List UInt8, buf.length = cmdControl → (∀ b ∈ buf.drop cmdPacked, b = 0) →
      ∃ c, unpackControls buf = .ok c ∧ packControls c = .ok buf) ∧
    (∀ c : Dict String Json, (∀ name, (∃ v, c.get? name = some v) ↔ name ∈ layoutNames) →
      (∀ f ∈ controlLayout, ∀ v, c.get? f.name = some v → InRange f.member v) →
      ∃ buf c', packControls c = .ok buf ∧ unpackControls buf = .ok c' ∧
        ∀ name, c'.get? name = c.get? name) ∧
    ∀ k : Controls, ∃ c, unpackControls (Recorder.packControls k ++
        List.replicate (cmdControl - cmdPacked) 0) = .ok c ∧
      (∀ f ∈ controlLayout, c.get? f.name = some (memberValue k f.member)) ∧
      ∀ name, name ∉ layoutNames → c.get? name = none := by
  refine ⟨fun buf hlength hpad => ?_, fun c hnames hrange => ?_, fun k => ?_⟩
  · exact ⟨_, unpackControls_ok hlength hpad, pack_unpack hlength hpad⟩
  · exact unpack_pack hnames hrange
  · rw [packControls_eq]
    obtain ⟨c, hc, hfields, hother⟩ := unpack_chunks fun f _ => f.member.length_chunk k
    refine ⟨c, hc, fun f hf => ?_, hother⟩
    rw [hfields f hf, readField_chunk]

/-- A buffer in which every packed byte is `0xff`. -/
def onesControls : List UInt8 :=
  List.replicate cmdPacked 0xff ++ List.replicate (cmdControl - cmdPacked) 0

/-- A field of that buffer. -/
lemma slice_onesControls {i count : ℕ} (h : i + count ≤ cmdPacked) :
    slice onesControls i count = List.replicate count 0xff := by
  rw [slice, onesControls, List.drop_append_of_le_length (by rw [List.length_replicate]; omega),
    List.take_append_of_le_length (by rw [List.length_drop, List.length_replicate]; omega),
    List.drop_replicate, List.take_replicate]
  congr 1
  omega

/-- The buffer goes through the wire format both ways; signed members are `-1`, and the elements of an array
255. -/
theorem onesControls_round_trip :
    ∃ c, unpackControls onesControls = .ok c ∧ packControls c = .ok onesControls ∧
      c.get? "init_qp_minus26" = some (.int (-1)) ∧
      c.get? "column_width_minus1" = some (.arr (List.replicate 20 (.int 255))) ∧
      ∃ buf c', packControls c = .ok buf ∧ unpackControls buf = .ok c' ∧
        ∀ name, c'.get? name = c.get? name := by
  have hlength : onesControls.length = cmdControl := by
    rw [onesControls, List.length_append, List.length_replicate, List.length_replicate]
    decide
  have hpad : ∀ b ∈ onesControls.drop cmdPacked, b = 0 := by
    rw [onesControls, List.drop_left' List.length_replicate]
    exact fun b hb => List.eq_of_mem_replicate hb
  obtain ⟨c, hc, hpack⟩ := control_wire_bijection.1 _ hlength hpad
  obtain rfl := Except.ok.inj ((unpackControls_ok hlength hpad).symm.trans hc)
  have hfields : ∀ f ∈ controlLayout, (readFields controlLayout onesControls 0 ∅).get? f.name =
      some (readField f.member (List.replicate f.member.count 0xff)) := by
    intro f hf
    obtain ⟨pre, post, hsplit⟩ := List.append_of_mem hf
    have hsize : layoutSize controlLayout =
        layoutSize pre + (f.member.count + layoutSize post) := by
      rw [hsplit, layoutSize, layoutSize, layoutSize, List.map_append, List.sum_append,
        List.map_cons, List.sum_cons]
    rw [layoutSize_controlLayout] at hsize
    rw [get?_readFields layoutNames_nodup hsplit, slice_onesControls (by omega)]
  have hsigned := hfields ⟨"init_qp_minus26", .s8 (·.pps.initQpMinus26)⟩
    (List.mem_of_getElem? (i := 29) rfl)
  have hbytes := hfields ⟨"column_width_minus1", .bytes 20 (·.pps.columnWidthMinus1)⟩
    (List.mem_of_getElem? (i := 35) rfl)
  refine ⟨_, hc, hpack, hsigned, hbytes,
    control_wire_bijection.2.1 _ unpacked_names fun f hf v hv => ?_⟩
  rw [hfields f hf] at hv
  obtain rfl := Option.some.inj hv
  exact inRange_readField List.length_replicate

end OmarchyM1Video.CommandTrace
