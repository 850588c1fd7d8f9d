import Mathlib.Combinatorics.Colex
import OmarchyM1Video.CommandTrace.Compare

/-!
What the comparison reads of the controls of a picture.

* `Fits`: a dictionary whose values are those of the layout, in range; `copiedFields_fits`: what is read
  from controls is one, and so is what control bytes unpack to;
* `pack_eq_iff`: two of them have the same bytes just when they have the same values;
* `Separates`, `Changed`: a table of flags that tells a control's own flags apart, and two inputs of a
  field that differ; `copiedValue_injective`: they are copied to different values;
* `ioctlControls`: the controls of an ioctl as they are written down; `copiedFields_ioctl`: the values
  copied of them are the members of the structures.
-/

namespace OmarchyM1Video.CommandTrace

open OmarchyM1Video.Py OmarchyM1Video.Recorder

/-! ### Dictionaries of the layout -/

/-- A dictionary with the names of the layout and values in range. -/
structure Fits (c : Dict String Json) : Prop where
  names : ∀ name, (∃ v, c.get? name = some v) ↔ name ∈ layoutNames
  range : ∀ f ∈ controlLayout, ∀ v, c.get? f.name = some v → InRange f.member v

section Fields

variable {f : Field} {m : Member} {fields : List Field} {v v' : Json} {c c' : Dict String Json}
  {data bytes buf : List UInt8} {name : String}

lemma intOf_byteJson (b : UInt8) : intOf (byteJson b) = some (b.toNat : ℤ) := rfl

lemma mapM_intOf (data : List UInt8) :
    (data.map byteJson).mapM intOf = some (data.map fun b => (b.toNat : ℤ)) := by
  induction data with
  | nil => rfl
  | cons b data ih => rw [List.map_cons, List.mapM_cons, intOf_byteJson, ih]; rfl

/-- Values in range are told apart by what is compared of them. -/
lemma wireValue_injective (h : InRange m v) (h' : InRange m v') (heq : wireValue v = wireValue v') :
    v = v' := by
  by_cases hbytes : isBytes m = true
  · rw [InRange, if_pos hbytes] at h h'
    obtain ⟨data, _, rfl⟩ := h
    obtain ⟨data', _, rfl⟩ := h'
    simp only [wireValue, mapM_intOf, Option.map_some, Option.some.injEq, Sum.inr.injEq] at heq
    have hinj : Function.Injective fun b : UInt8 => (b.toNat : ℤ) :=
      fun a b hab => UInt8.toNat_inj.mp (Int.ofNat_inj.mp hab)
    rw [List.map_injective_iff.mpr hinj heq]
  · rw [InRange, if_neg hbytes] at h h'
    obtain ⟨n, rfl, _⟩ := h
    obtain ⟨n', rfl, _⟩ := h'
    simpa [wireValue] using heq

/-- An element that is a byte is the byte. -/
lemma eq_byteJson {x : Json} {b : UInt8} (h : jsonByte x = some b) : x = byteJson b := by
  cases x with
  | int n =>
      simp only [jsonByte] at h
      split_ifs at h with hrange
      obtain rfl := Option.some.inj h
      have hlt : n.toNat < 256 := by omega
      rw [byteJson, UInt8.toNat_ofNat_of_lt' hlt, Int.toNat_of_nonneg hrange.1]
  | _ => simp [jsonByte] at h

lemma eq_map_byteJson {xs : List Json} (h : xs.mapM jsonByte = some data) :
    xs = data.map byteJson := by
  induction xs generalizing data with
  | nil =>
      obtain rfl : [] = data := by simpa using h
      rfl
  | cons x xs ih =>
      simp only [List.mapM_cons, Option.bind_eq_bind, Option.bind_eq_some_iff] at h
      obtain ⟨b, hb, more, hmore, hdata⟩ := h
      obtain rfl : b :: more = data := by simpa using hdata
      rw [List.map_cons, ← eq_byteJson hb, ← ih hmore]

/-- Only values in range are written. -/
lemma inRange_of_writeField (h : writeField f v = .ok bytes) : InRange f.member v := by
  by_cases hbytes : isBytes f.member = true
  · rw [InRange, if_pos hbytes]
    cases v with
    | arr xs =>
        simp only [writeField, hbytes, if_true] at h
        split_ifs at h with hlength
        rw [found_ok] at h
        have hxs := eq_map_byteJson h
        refine ⟨bytes, ?_, congrArg Json.arr hxs⟩
        rw [← hlength, hxs, List.length_map]
    | _ => simp [writeField, hbytes] at h
  · rw [InRange, if_neg hbytes]
    cases v with
    | int n =>
        simp only [writeField, hbytes, Bool.false_eq_true, if_false, found_ok, intBytes] at h
        split_ifs at h with hfits
        exact ⟨n, rfl, hfits⟩
    | _ => simp [writeField, hbytes] at h

/-- Each field that is written has a value. -/
lemma writeFields_ok (h : writeFields c fields data = .ok bytes) :
    ∀ f ∈ fields, ∃ v bytes, c.get? f.name = some v ∧ writeField f v = .ok bytes := by
  induction fields generalizing data with
  | nil => simp
  | cons f fields ih =>
      simp only [writeFields, Except.bind_ok, found_ok] at h
      obtain ⟨v, hv, chunk, hchunk, hrest⟩ := h
      intro g hg
      rcases List.mem_cons.mp hg with rfl | hg
      · exact ⟨v, chunk, hv, hchunk⟩
      · exact ih hrest g hg

/-- What is written depends on the values alone. -/
lemma writeFields_congr (h : ∀ name, c.get? name = c'.get? name) :
    writeFields c fields data = writeFields c' fields data := by
  induction fields generalizing data with
  | nil => rfl
  | cons f fields ih =>
      rw [writeFields, writeFields, h]
      exact bind_congr fun v => bind_congr fun chunk => ih

/-- A dictionary with the names of the layout that is packed has values in range. -/
lemma fits_of_pack (hnames : ∀ name, (∃ v, c.get? name = some v) ↔ name ∈ layoutNames)
    (h : packControls c = .ok buf) : Fits c := by
  refine ⟨hnames, fun f hf v hv => ?_⟩
  simp only [packControls, Except.bind_ok] at h
  obtain ⟨_, _, data, hdata, _⟩ := h
  obtain ⟨v', bytes, hv', hbytes⟩ := writeFields_ok hdata f hf
  obtain rfl := Option.some.inj (hv'.symm.trans hv)
  exact inRange_of_writeField hbytes

/-- What control bytes are unpacked to. -/
lemma unpackControls_eq (h : unpackControls buf = .ok c) :
    c = readFields controlLayout buf 0 ∅ ∧ packControls c = .ok buf ∧ Fits c := by
  simp only [unpackControls, Except.bind_ok, need_ok, Except.pure_ok] at h
  obtain ⟨_, hlength, _, hpad, rfl⟩ := h
  have hpack := pack_unpack hlength (fun b hb => by simpa using List.all_eq_true.mp hpad b hb)
  exact ⟨rfl, hpack, fits_of_pack unpacked_names hpack⟩

/-- Dictionaries of the layout have the same bytes just when they have the same values. -/
lemma pack_eq_iff (hc : Fits c) (h : unpackControls buf = .ok c') :
    packControls c = .ok buf ↔ ∀ name, c.get? name = c'.get? name := by
  constructor
  · intro hpack
    obtain ⟨buf', d, hpack', hd, hsame⟩ := unpack_pack hc.names hc.range
    obtain rfl := Except.ok.inj (hpack'.symm.trans hpack)
    obtain rfl := Except.ok.inj (hd.symm.trans h)
    exact fun name => (hsame name).symm
  · intro hsame
    obtain ⟨_, hpack, hfits⟩ := unpackControls_eq h
    simp only [packControls, Except.bind_ok, need_ok, Except.pure_ok] at hpack
    obtain ⟨_, _, data, hdata, hbuf⟩ := hpack
    rw [← writeFields_congr hsame] at hdata
    rw [packControls_ok hc.names hdata, hbuf]

end Fields

/-! ### What is read from controls -/

section Copied

variable {flags : Dict String ℕ} {sources : Sources} {layout : List (Field × Base)}
  {p : Field × Base} {controls : Json} {d result fields : Dict String Json} {name : String}

/-- The fields of the layout, in its order. -/
lemma copiedLayout_names : copiedLayout.map (fun p => p.1.name) = layoutNames := by
  have hlength : controlLayout.length ≤ bases.length := by decide
  have hcomp : (fun p : Field × Base => p.1.name) = Field.name ∘ Prod.fst := rfl
  rw [layoutNames, copiedLayout, hcomp, ← List.map_map, List.map_fst_zip hlength]

/-- A name that no field has is left alone. -/
lemma copyFields_of_notMem (h : copyFields flags sources layout d = .ok result)
    (hname : name ∉ layout.map fun p => p.1.name) : result.get? name = d.get? name := by
  induction layout generalizing d with
  | nil =>
      obtain rfl : d = result := Except.ok.inj h
      rfl
  | cons p layout ih =>
      rw [List.map_cons, List.mem_cons, not_or] at hname
      simp only [copyFields, Except.bind_ok] at h
      obtain ⟨v, _, x, _, hrest⟩ := h
      rw [ih hrest hname.2, Dict.get?_set, if_neg hname.1]

/-- Under the name of a field is the value copied of its input. -/
lemma copyFields_get? (h : copyFields flags sources layout d = .ok result)
    (hnodup : (layout.map fun p => p.1.name).Nodup) (hp : p ∈ layout) :
    ∃ v x, sources.value p = .ok v ∧ copiedValue flags p v = .ok x ∧
      result.get? p.1.name = some x := by
  induction layout generalizing d with
  | nil => exact absurd hp List.not_mem_nil
  | cons q layout ih =>
      rw [List.map_cons, List.nodup_cons] at hnodup
      simp only [copyFields, Except.bind_ok] at h
      obtain ⟨v, hv, x, hx, hrest⟩ := h
      rcases List.mem_cons.mp hp with rfl | hp
      · refine ⟨v, x, hv, hx, ?_⟩
        rw [copyFields_of_notMem hrest hnodup.1, Dict.get?_set, if_pos rfl]
      · exact ih hrest hnodup.2 hp

/-- **What is read from controls** is the value copied of each field's input, and fits the layout. -/
theorem copiedFields_fits (h : copiedFields controls flags = .ok fields) :
    Fits fields ∧ ∀ p ∈ copiedLayout, ∃ v x, fieldInput controls p = .ok v ∧
      copiedValue flags p v = .ok x ∧ fields.get? p.1.name = some x := by
  simp only [copiedFields, Except.bind_ok, Except.pure_ok] at h
  obtain ⟨sources, hsources, result, hcopy, _, _, buf, hpack, rfl⟩ := h
  have hnodup : (copiedLayout.map fun p => p.1.name).Nodup := by
    rw [copiedLayout_names]
    exact layoutNames_nodup
  refine ⟨fits_of_pack (fun name => ?_) hpack, fun p hp => ?_⟩
  · rw [← copiedLayout_names]
    constructor
    · rintro ⟨v, hv⟩
      by_contra hname
      rw [copyFields_of_notMem hcopy hname] at hv
      exact absurd hv (by simp)
    · intro hname
      obtain ⟨p, hp, rfl⟩ := List.mem_map.mp hname
      obtain ⟨_, x, _, _, hx⟩ := copyFields_get? hcopy hnodup hp
      exact ⟨x, hx⟩
  · obtain ⟨v, x, hv, hx, hget⟩ := copyFields_get? hcopy hnodup hp
    refine ⟨v, x, ?_, hx, hget⟩
    rw [fieldInput, hsources]
    exact hv

end Copied

/-! ### Inputs that differ -/

/-- A table of flags that gives each control's own flags bits of their own. -/
def Separates (flags : Dict String ℕ) : Prop :=
  ∀ base, ∃ bit : String → ℕ, (∀ name ∈ ownFlags base, flags.get? name = some (2 ^ bit name)) ∧
    ∀ name ∈ ownFlags base, ∀ name' ∈ ownFlags base, bit name = bit name' → name = name'

/-- The input of a field differs: another set of the control's own flags, or another value. -/
def Changed (p : Field × Base) (v v' : Json) : Prop :=
  if isFlags p.1.name = true then
    ∃ names names' : List String, v = .arr (names.map .str) ∧ v' = .arr (names'.map .str) ∧
      (∀ name ∈ names ++ names', name ∈ ownFlags p.2) ∧ ∃ name, ¬(name ∈ names ↔ name ∈ names')
  else v ≠ v'

section Changed

variable {flags : Dict String ℕ} {p : Field × Base} {names names' : List String} {bit : String → ℕ}
  {v v' x x' : Json}

lemma fst_bitValues (names : List String) : (bitValues names).map Prod.fst = names := by
  rw [bitValues, List.map_map]
  exact List.zipIdx_map_fst 0 names

lemma mem_bitValues {names : List String} {name : String} (h : name ∈ names) :
    (name, 2 ^ names.idxOf name) ∈ bitValues names := by
  refine List.mem_map.mpr ⟨(name, names.idxOf name), ?_, rfl⟩
  exact List.mem_zipIdx_iff_getElem?.mpr (List.getElem?_idxOf h)

/-- A flag of a control has the bit of its place. -/
lemma uapiFlags_own {base : Base} {name : String} (h : name ∈ ownFlags base) :
    uapiFlags.get? name = some (2 ^ (ownFlags base).idxOf name) := by
  have hkeys : (∅ : Dict String ℕ).keys = [] := rfl
  have hnodup : ((∅ : Dict String ℕ).keys ++ ([Base.sps, .pps, .sl, .decode].flatMap
      (bitValues ∘ ownFlags) ++ [("V4L2_HEVC_EXT_SPS_ST_RPS_FLAG_INTER_REF_PIC_SET_PRED", 1),
        ("V4L2_HEVC_EXT_SPS_LT_RPS_FLAG_USED_LT", 1)]).map Prod.fst).Nodup := by
    simp only [hkeys, List.nil_append, List.flatMap_cons, List.flatMap_nil, Function.comp_apply,
      List.map_append, fst_bitValues]
    simp [ownFlags]
  have hbase : base ∈ [Base.sps, .pps, .sl, .decode] := by
    cases base with
    | sc => exact absurd h List.not_mem_nil
    | w => exact absurd h List.not_mem_nil
    | _ => simp
  refine Dict.mem_entries_iff.mp ?_
  rw [uapiFlags, Dict.entries_update hnodup]
  refine List.mem_append_right _ ?_
  exact List.mem_append_left _ (List.mem_flatMap.mpr ⟨base, hbase, mem_bitValues h⟩)

/-- The table of the header does. -/
theorem separates_uapiFlags : Separates uapiFlags := fun base =>
  ⟨(ownFlags base).idxOf, fun _ hname => uapiFlags_own hname,
    fun _ hname _ _ heq => (List.idxOf_inj hname).mp heq⟩

/-- Sets of bits with one sum are equal. -/
lemma mem_iff_of_sum_eq {l l' : List ℕ} (h : l.Nodup) (h' : l'.Nodup)
    (hsum : (l.map (2 ^ ·)).sum = (l'.map (2 ^ ·)).sum) (n : ℕ) : n ∈ l ↔ n ∈ l' := by
  have hsets : l.toFinset = l'.toFinset := by
    refine Finset.geomSum_injective (le_refl 2) ?_
    change ∑ i ∈ l.toFinset, 2 ^ i = ∑ i ∈ l'.toFinset, 2 ^ i
    rw [List.sum_toFinset _ h, List.sum_toFinset _ h', hsum]
  rw [← List.mem_toFinset, hsets, List.mem_toFinset]

/-- The mask of a list of flags is the sum of their bits. -/
lemma flagsValue_ok (hbit : ∀ name ∈ names, flags.get? name = some (2 ^ bit name))
    (h : flagsValue flags (.arr (names.map .str)) = .ok x) :
    names.Nodup ∧ x = .int (((names.map bit).map (2 ^ ·)).sum : ℕ) := by
  have hnamed : (names.map Json.str).mapM (flagOf flags) =
      some (names.map fun name => (name, 2 ^ bit name)) := by
    clear h
    induction names with
    | nil => rfl
    | cons name names ih =>
        rw [List.map_cons, List.mapM_cons, flagOf, hbit name List.mem_cons_self,
          ih fun name' hname' => hbit name' (List.mem_cons_of_mem _ hname')]
        rfl
  simp only [flagsValue, Except.bind_ok, need_ok, found_ok, hnamed, Option.some.injEq,
    Except.pure_ok] at h
  obtain ⟨_, _, _, rfl, _, hnodup, rfl⟩ := h
  rw [List.map_map] at hnodup
  refine ⟨by simpa [Function.comp_def] using hnodup, ?_⟩
  rw [List.map_map, List.map_map]
  rfl

/-- An element of a domain is told by its byte. -/
lemma intIn_injective {signed : Bool} {x y : Json} {n m : ℤ} (hx : intIn signed x = some n)
    (hy : intIn signed y = some m) (h : n % 256 = m % 256) : x = y := by
  cases x with
  | int a =>
      cases y with
      | int b =>
          simp only [intIn] at hx hy
          split_ifs at hx hy <;> simp_all <;> omega
      | _ => simp [intIn] at hy
  | _ => simp [intIn] at hx

lemma mapM_intIn_injective {signed : Bool} {xs ys : List Json} {ns ms : List ℤ}
    (hxs : xs.mapM (intIn signed) = some ns) (hys : ys.mapM (intIn signed) = some ms)
    (h : ns.map (· % 256) = ms.map (· % 256)) : xs = ys := by
  induction xs generalizing ys ns ms with
  | nil =>
      obtain rfl : [] = ns := by simpa using hxs
      obtain rfl : ms = [] := by simpa using h.symm
      cases ys with
      | nil => rfl
      | cons y ys => simp [Option.bind_eq_some_iff] at hys
  | cons x xs ih =>
      simp only [List.mapM_cons, Option.bind_eq_bind, Option.pure_def, Option.bind_eq_some_iff,
        Option.some.injEq] at hxs
      obtain ⟨n, hn, ns, hns, rfl⟩ := hxs
      cases ys with
      | nil =>
          obtain rfl : [] = ms := by simpa using hys
          simp at h
      | cons y ys =>
          simp only [List.mapM_cons, Option.bind_eq_bind, Option.pure_def, Option.bind_eq_some_iff,
            Option.some.injEq] at hys
          obtain ⟨m, hm, ms, hms, rfl⟩ := hys
          simp only [List.map_cons, List.cons.injEq] at h
          rw [intIn_injective hn hm h.1, ih hns hms h.2]

/-- **Inputs that differ are copied to values that differ.** -/
theorem copiedValue_injective (hflags : Separates flags) (hv : copiedValue flags p v = .ok x)
    (hv' : copiedValue flags p v' = .ok x') (h : Changed p v v') : x ≠ x' := by
  by_cases hisFlags : isFlags p.1.name = true
  · rw [Changed, if_pos hisFlags] at h
    obtain ⟨names, names', rfl, rfl, hown, name, hname⟩ := h
    rw [copiedValue, if_pos hisFlags] at hv hv'
    obtain ⟨bit, hbit, hinj⟩ := hflags p.2
    have hnames : ∀ n ∈ names, n ∈ ownFlags p.2 := fun n hn => hown n (List.mem_append_left _ hn)
    have hnames' : ∀ n ∈ names', n ∈ ownFlags p.2 := fun n hn => hown n (List.mem_append_right _ hn)
    obtain ⟨hnodup, rfl⟩ := flagsValue_ok (fun n hn => hbit n (hnames n hn)) hv
    obtain ⟨hnodup', rfl⟩ := flagsValue_ok (fun n hn => hbit n (hnames' n hn)) hv'
    intro heq
    have hbits := mem_iff_of_sum_eq
      (hnodup.map_on fun n hn m hm => hinj n (hnames n hn) m (hnames m hm))
      (hnodup'.map_on fun n hn m hm => hinj n (hnames' n hn) m (hnames' m hm))
      (Int.ofNat_inj.mp (Json.int.inj heq))
    -- A bit tells the flag, so the lists have the same flags.
    have hsub : ∀ {l l' : List String}, (∀ n ∈ l, n ∈ ownFlags p.2) →
        (∀ n ∈ l', n ∈ ownFlags p.2) → (∀ b, b ∈ l.map bit → b ∈ l'.map bit) →
        ∀ n ∈ l, n ∈ l' := by
      intro l l' hl hl' hmem n hn
      obtain ⟨m, hm, hbm⟩ := List.mem_map.mp (hmem _ (List.mem_map_of_mem hn))
      rwa [← hinj m (hl' m hm) n (hl n hn) hbm]
    exact hname ⟨hsub hnames hnames' (fun b => (hbits b).mp) name,
      hsub hnames' hnames (fun b => (hbits b).mpr) name⟩
  · rw [Changed, if_neg hisFlags] at h
    rw [copiedValue, if_neg hisFlags] at hv hv'
    by_cases hbytes : isBytes p.1.member = true
    · rw [if_pos hbytes] at hv hv'
      cases v with
      | arr xs =>
          cases v' with
          | arr ys =>
              simp only [bytesValue, Except.bind_ok, need_ok, found_ok, Except.pure_ok] at hv hv'
              obtain ⟨_, _, ns, hns, rfl⟩ := hv
              obtain ⟨_, _, ms, hms, rfl⟩ := hv'
              intro heq
              have hbytes' : ns.map (· % 256) = ms.map (· % 256) := by
                have hinj : Function.Injective Json.int := fun a b => Json.int.inj
                refine List.map_injective_iff.mpr hinj ?_
                rw [List.map_map, List.map_map]
                exact Json.arr.inj heq
              exact h (congrArg Json.arr (mapM_intIn_injective hns hms hbytes'))
          | _ => simp [bytesValue] at hv'
      | _ => simp [bytesValue] at hv
    · rw [if_neg hbytes] at hv hv'
      obtain rfl := Except.ok.inj hv
      obtain rfl := Except.ok.inj hv'
      exact h

end Changed

/-! ### The controls of an ioctl -/

/-- A field of the controls as it is written down: the flags under their names, the weights with their
signs. -/
def inputValue (k : Controls) (names : Base → List String) (p : Field × Base) : Json :=
  if isFlags p.1.name then .arr ((names p.2).map .str)
  else match p.1.member with
    | .bytes _ get => .arr ((List.ofFn (get k)).map fun b =>
        .int (if p.2 = .w then b.toInt8.toInt else b.toNat))
    | m => memberValue k m

/-- The fields of one structure. -/
def inputMembers (k : Controls) (names : Base → List String) (base : Base) : List (String × Json) :=
  (copiedLayout.filter (·.2 = base)).map fun p => (memberName p.1.name, inputValue k names p)

/-- The controls of an ioctl. -/
def ioctlControls (k : Controls) (names : Base → List String) : Json :=
  let members := fun base => Json.obj (inputMembers k names base)
  let weights := ("v4l2_hevc_pred_weight_table", members .w)
  .obj [("SPS", members .sps), ("PPS", members .pps), ("SCALING_MATRIX", members .sc),
    ("SLICE_PARAMS", .obj (weights :: inputMembers k names .sl)), ("DECODE_PARAMS", members .decode)]

section Ioctl

variable {flags : Dict String ℕ} {k : Controls} {names : Base → List String} {p : Field × Base}
  {buf : List UInt8} {c c' : Dict String Json}

/-- No name stands for two members of a structure. -/
lemma memberNames_nodup (base : Base) :
    ((copiedLayout.filter (·.2 = base)).map fun p => memberName p.1.name).Nodup := by
  cases base <;> decide +kernel

/-- A member is found under its name. -/
lemma member?_of_nodup {α : Type} {l : List α} {value : α → Json} {a : α} (name : α → String)
    (hnodup : (l.map name).Nodup) (ha : a ∈ l) :
    Json.member? (l.map fun a => (name a, value a)) (name a) = some (value a) := by
  induction l with
  | nil => exact absurd ha List.not_mem_nil
  | cons b l ih =>
      rw [List.map_cons, List.nodup_cons] at hnodup
      rw [Json.member?, List.map_cons, List.find?_cons]
      rcases List.mem_cons.mp ha with rfl | ha
      · rw [decide_eq_true rfl]
        rfl
      · have hne : name b ≠ name a := fun heq => hnodup.1 (heq ▸ List.mem_map_of_mem ha)
        rw [decide_eq_false hne]
        exact ih hnodup.2 ha

lemma member?_inputMembers (k : Controls) (names : Base → List String) (hp : p ∈ copiedLayout) :
    Json.member? (inputMembers k names p.2) (memberName p.1.name) = some (inputValue k names p) :=
  member?_of_nodup (fun p : Field × Base => memberName p.1.name) (memberNames_nodup p.2)
    (List.mem_filter.mpr ⟨hp, decide_eq_true rfl⟩)

lemma memberName_ne (hp : p ∈ copiedLayout) :
    memberName p.1.name ≠ "v4l2_hevc_pred_weight_table" := by
  have hmem : p.1.name ∈ layoutNames := by
    rw [← copiedLayout_names]
    exact List.mem_map_of_mem hp
  rw [memberName]
  split_ifs
  · simp
  · intro heq
    exact absurd (heq ▸ hmem) (by decide +kernel)

lemma subscript_ok {members : List (String × Json)} {name : String} {v : Json} :
    subscript (.obj members) name = .ok v ↔ Json.member? members name = some v :=
  found_ok

/-- What a field is copied from. -/
lemma fieldInput_ioctl (k : Controls) (names : Base → List String) (hp : p ∈ copiedLayout) :
    fieldInput (ioctlControls k names) p = .ok (inputValue k names p) := by
  have hmember := subscript_ok.mpr (member?_inputMembers k names hp)
  have hne := memberName_ne hp
  simp only [fieldInput, sourcesOf, Except.bind_ok, Except.pure_ok, Sources.value]
  refine ⟨_, ⟨_, rfl, _, rfl, _, rfl, _, rfl, _, rfl, rfl⟩, ?_⟩
  obtain ⟨f, base⟩ := p
  cases base with
  | sl =>
      refine ⟨_, rfl, subscript_ok.mpr ?_⟩
      rw [Json.member?, List.find?_cons_of_neg (by simpa using hne.symm)]
      exact subscript_ok.mp hmember
  | decode => exact ⟨_, rfl, hmember⟩
  | _ => exact ⟨_, rfl, hmember⟩

/-- A byte, with its sign or without. -/
lemma byte_emod (b : UInt8) : b.toInt8.toInt % 256 = b.toNat ∧ -128 ≤ b.toInt8.toInt ∧
    b.toInt8.toInt ≤ 127 := by
  have hint : b.toInt8.toInt = b.toBitVec.toInt := rfl
  have hnat : b.toBitVec.toNat = b.toNat := rfl
  have hlt := b.toNat_lt
  rw [hint, BitVec.toInt_eq_toNat_cond, hnat]
  split_ifs <;> omega

lemma mapM_intIn (signed : Bool) (data : List UInt8) :
    (data.map fun b => Json.int (if signed then b.toInt8.toInt else b.toNat)).mapM (intIn signed) =
      some (data.map fun b => if signed then b.toInt8.toInt else b.toNat) := by
  induction data with
  | nil => rfl
  | cons b data ih =>
      have hbyte := byte_emod b
      have hlt := b.toNat_lt
      rw [List.map_cons, List.mapM_cons, ih]
      have hhead : intIn signed (.int (if signed then b.toInt8.toInt else b.toNat)) =
          some (if signed then b.toInt8.toInt else b.toNat) := by
        rw [intIn]
        split_ifs <;> first | rfl | omega
      rw [hhead]
      rfl

/-- The value copied of a field is the member of the structure. -/
lemma copiedValue_ioctl (hmask : isFlags p.1.name = true →
      flagsValue flags (.arr ((names p.2).map .str)) = .ok (memberValue k p.1.member)) :
    copiedValue flags p (inputValue k names p) = .ok (memberValue k p.1.member) := by
  obtain ⟨⟨name, m⟩, base⟩ := p
  by_cases hflags : isFlags name = true
  · rw [copiedValue, if_pos hflags, inputValue, if_pos hflags]
    exact hmask hflags
  · rw [copiedValue, if_neg hflags, inputValue, if_neg hflags]
    cases m with
    | bytes count get =>
        have hmap := mapM_intIn (base = .w) (List.ofFn (get k))
        simp only [decide_eq_true_eq] at hmap
        simp only [isBytes, if_true, bytesValue, Except.bind_ok, need_ok, found_ok, Except.pure_ok,
          Member.count, List.length_map, List.length_ofFn, hmap]
        refine ⟨(), trivial, _, rfl, ?_⟩
        rw [memberValue, List.map_map]
        refine congrArg Json.arr (List.map_congr_left fun b _ => congrArg Json.int ?_)
        by_cases hbase : base = .w
        · simpa [hbase] using (byte_emod b).1
        · have hlt := b.toNat_lt
          simp only [hbase, if_false]
          omega
    | _ => rfl

lemma intField_congr (h : ∀ name, c.get? name = c'.get? name) (name : String) :
    intField c name = intField c' name := by
  rw [intField, intField, h]

/-- The domain of the controls is one of their values. -/
lemma validateControls_congr (h : ∀ name, c.get? name = c'.get? name) :
    validateControls c = validateControls c' := by
  simp only [validateControls, checkFlags, checkTiles, checkGeometry, checkSlice, checkRange,
    intField_congr h]

/-- A loop whose values are all there ends. -/
lemma copyFields_exists (flags : Dict String ℕ) {sources : Sources} {layout : List (Field × Base)} {d : Dict String Json}
    (h : ∀ p ∈ layout, ∃ v x, sources.value p = .ok v ∧ copiedValue flags p v = .ok x) :
    ∃ result, copyFields flags sources layout d = .ok result := by
  induction layout generalizing d with
  | nil => exact ⟨d, rfl⟩
  | cons p layout ih =>
      obtain ⟨v, x, hv, hx⟩ := h p List.mem_cons_self
      obtain ⟨result, hresult⟩ := ih (d := d.set p.1.name x)
        fun q hq => h q (List.mem_cons_of_mem p hq)
      refine ⟨result, ?_⟩
      simp only [copyFields, Except.bind_ok]
      exact ⟨v, hv, x, hx, hresult⟩

/-- **What is copied of the controls of an ioctl** is what the bytes that the kernel packs of them are
unpacked to, where the names of the flags give its masks and the values are in their domain. -/
theorem copiedFields_ioctl (hmask : ∀ p ∈ copiedLayout, isFlags p.1.name = true →
      flagsValue flags (.arr ((names p.2).map .str)) = .ok (memberValue k p.1.member))
    (hc : unpackControls buf = .ok c)
    (hmember : ∀ f ∈ controlLayout, c.get? f.name = some (memberValue k f.member))
    (hdomain : validateControls c = .ok ()) :
    ∃ fields, copiedFields (ioctlControls k names) flags = .ok fields ∧
      ∀ name, fields.get? name = c.get? name := by
  have hinput := fun p (hp : p ∈ copiedLayout) => fieldInput_ioctl k names hp
  have hvalue := fun p (hp : p ∈ copiedLayout) => copiedValue_ioctl (hmask p hp)
  have hfirst : (⟨"video_parameter_set_id", .u8 (·.sps.videoParameterSetId)⟩, .sps) ∈ copiedLayout :=
    List.mem_cons_self
  obtain ⟨sources, hsources, _⟩ := Except.bind_ok.mp (hinput _ hfirst)
  have hsource : ∀ p ∈ copiedLayout, sources.value p = .ok (inputValue k names p) := by
    intro p hp
    obtain ⟨sources', hsources', hp'⟩ := Except.bind_ok.mp (hinput p hp)
    obtain rfl := Except.ok.inj (hsources.symm.trans hsources')
    exact hp'
  obtain ⟨fields, hfields⟩ := copyFields_exists flags (d := ∅)
    fun p hp => ⟨_, _, hsource p hp, hvalue p hp⟩
  have hnodup : (copiedLayout.map fun p => p.1.name).Nodup := by
    rw [copiedLayout_names]
    exact layoutNames_nodup
  obtain ⟨_, hpack, hfits⟩ := unpackControls_eq hc
  have hsame : ∀ name, fields.get? name = c.get? name := by
    intro name
    by_cases hname : name ∈ layoutNames
    · have hname' := hname
      rw [← copiedLayout_names] at hname'
      obtain ⟨p, hp, rfl⟩ := List.mem_map.mp hname'
      obtain ⟨v, x, hv, hx, hget⟩ := copyFields_get? hfields hnodup hp
      obtain rfl := Except.ok.inj (hv.symm.trans (hsource p hp))
      obtain rfl := Except.ok.inj (hx.symm.trans (hvalue p hp))
      rw [hget, hmember p.1 (List.of_mem_zip hp).1]
    · have hname' := hname
      rw [← copiedLayout_names] at hname'
      rw [copyFields_of_notMem hfields hname', Dict.get?_empty, eq_comm,
        Option.eq_none_iff_forall_ne_some]
      exact fun v hv => hname ((hfits.names name).mp ⟨v, hv⟩)
  have hfits' : Fits fields := ⟨fun name => by rw [hsame, hfits.names],
    fun f hf v hv => hfits.range f hf v (hsame f.name ▸ hv)⟩
  refine ⟨fields, ?_, hsame⟩
  simp only [copiedFields, Except.bind_ok, Except.pure_ok]
  refine ⟨sources, hsources, fields, hfields, (), ?_, buf, (pack_eq_iff hfits' hc).mpr hsame, rfl⟩
  rw [validateControls_congr hsame, hdomain]

end Ioctl

end OmarchyM1Video.CommandTrace
