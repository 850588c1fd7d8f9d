import Mathlib.Data.Fin.Basic
import Mathlib.Data.List.FinRange
import Mathlib.Data.List.Nodup
import OmarchyM1Video.C.Strings
import OmarchyM1Video.Py.Exec

/-!
The manifest of approved builds: the loop of `hevc_content_runtime` in `integration/runtime.h`,
which splits it where it lies in its buffer.

* `manifestLoop`, `parseManifest`: the loop, with the checks before and after it;
* `Entry`, `IsManifest`: a line of a manifest, and what a manifest is;
* `manifestLoop_iff`: the loop goes from line to line;
* `manifest_iff`: what is accepted, and what is read from it in any order.
-/

namespace OmarchyM1Video.ReferenceContent.ApprovedBuilds

open OmarchyM1Video.C

/-! ### The loop -/

/-- The bytes of a literal. -/
def literal (s : String) : List UInt8 := s.toList.map fun c => UInt8.ofNat c.toNat

/-- `keys`. -/
def keys : List (List UInt8) :=
  ["kernel_source", "avd_patchset", "kernel", "apple_avd", "videobuf2_common", "videobuf2_v4l2",
    "videobuf2_dma_contig", "va", "gst"].map literal

/-- `values`: what stands before the zero of each. -/
abbrev Values := Fin 9 → List UInt8

/-- A lowercase hexadecimal digit. -/
def isHex (c : UInt8) : Bool := ('0'.toNat ≤ c.toNat && c.toNat ≤ '9'.toNat) ||
  ('a'.toNat ≤ c.toNat && c.toNat ≤ 'f'.toNat)

def builtin : List UInt8 := literal "builtin"

/-- A value stored under its key, if there is such a key, without a value, and the value is one. -/
def record (values : Values) (name value : List UInt8) : Option Values :=
  let key := keys.idxOf name
  if hkey : key < 9 then
    if values ⟨key, hkey⟩ ≠ [] ∨ value.length = 0 ∨ 128 < value.length then none
    else if value.any fun c => !isHex c && value != builtin then none
    else some (Function.update values ⟨key, hkey⟩ value)
  else none

/-- The loop over the lines of the manifest. It writes zeros over the ends of lines and of keys. -/
def manifestLoop (buf : List UInt8) (cursor : ℕ) (values : Values) : Option Values :=
  if cstr buf cursor = [] then some values
  else
    match _hstop : strchr buf cursor 10 with
    | none => none
    | some stop =>
        let buf₁ := buf.set stop 0
        match strchr buf₁ cursor 32 with
        | none => none
        | some space =>
            let buf₂ := buf₁.set space 0
            match record values (cstr buf₂ cursor) (cstr buf₂ (space + 1)) with
            | none => none
            | some values => manifestLoop buf₂ (stop + 1) values
termination_by buf.length - cursor
decreasing_by
  have hrange := strchr_range _hstop
  rw [List.length_set, List.length_set]
  omega

/-- The manifest of so many bytes, with what stands after it in the buffer: the bound of
`hevc_content_read`, the look for zeros, the loop, and the look for keys without a value. -/
def parseManifest (content pad : List UInt8) : Option Values :=
  if 4095 < content.length then none
  else if 0 ∈ content then none
  else
    match manifestLoop (content ++ 0 :: pad) 0 fun _ => [] with
    | none => none
    | some values => if ∀ key, values key ≠ [] then some values else none

/-! ### Lines -/

/-- A line of a manifest. -/
structure Entry where
  key : Fin 9
  value : List UInt8
  deriving DecidableEq, Repr

/-- The name of a key. -/
def name (key : Fin 9) : List UInt8 := keys.getD key []

/-- The bytes of a line. -/
def Entry.line (e : Entry) : List UInt8 := name e.key ++ 32 :: e.value

/-- One to 128 characters, hexadecimal or `builtin`. -/
def GoodValue (value : List UInt8) : Prop :=
  1 ≤ value.length ∧ value.length ≤ 128 ∧ ((∀ c ∈ value, isHex c = true) ∨ value = builtin)

/-- The lines, each with its end. -/
def unlines (lines : List (List UInt8)) : List UInt8 := lines.flatMap (· ++ [10])

/-- A content of lines with good values in which each key is once. -/
def IsManifest (content : List UInt8) (entries : List Entry) : Prop :=
  content = unlines (entries.map Entry.line) ∧ (∀ e ∈ entries, GoodValue e.value) ∧
    ∀ key, (entries.map Entry.key).count key = 1

/-- The values after the entries. -/
def Reads (values : Values) : List Entry → Values → Prop
  | [], r => r = values
  | e :: entries, r => GoodValue e.value ∧ values e.key = [] ∧
      Reads (Function.update values e.key e.value) entries r

section Lines

variable {values r : Values} {value line : List UInt8} {e f : Entry} {entries : List Entry}

lemma name_plain (key : Fin 9) : 0 ∉ name key ∧ 10 ∉ name key ∧ 32 ∉ name key := by
  revert key
  decide

lemma idxOf_name (key : Fin 9) : keys.idxOf (name key) = key := by
  revert key
  decide

lemma name_injective : Function.Injective name := fun k l h => by
  have hidx := idxOf_name k
  rw [h, idxOf_name l] at hidx
  exact Fin.ext hidx.symm

lemma GoodValue.plain (h : GoodValue value) : 0 ∉ value ∧ 10 ∉ value := by
  obtain ⟨_, _, hhex | rfl⟩ := h
  · exact ⟨fun hmem => absurd (hhex 0 hmem) (by decide),
      fun hmem => absurd (hhex 10 hmem) (by decide)⟩
  · decide

/-- What is recorded is an entry. -/
lemma record_eq_some {text : List UInt8} : record values text value = some r ↔
    ∃ key, text = name key ∧ GoodValue value ∧ values key = [] ∧
      r = Function.update values key value := by
  have hvalue : (value.any fun c => !isHex c && value != builtin) = false ↔
      (∀ c ∈ value, isHex c = true) ∨ value = builtin := by
    rw [List.any_eq_false]
    by_cases hb : value = builtin
    · simp [hb]
    · simp [hb]
  have hlength : value.length = 0 ∨ 128 < value.length ↔
      ¬(1 ≤ value.length ∧ value.length ≤ 128) := by omega
  rw [record]
  by_cases hkey : keys.idxOf text < 9
  · have htext : text = name ⟨keys.idxOf text, hkey⟩ := by
      have hget : keys[keys.idxOf text]? = some text :=
        List.getElem?_eq_some_iff.mpr ⟨hkey, List.getElem_idxOf hkey⟩
      rw [name, List.getD_eq_getElem?_getD, hget, Option.getD_some]
    rw [dif_pos hkey]
    generalize (⟨keys.idxOf text, hkey⟩ : Fin 9) = key at htext
    constructor
    · intro h
      split_ifs at h with hbad hchars
      rw [not_or, hlength, not_not, not_not] at hbad
      exact ⟨key, htext, ⟨hbad.2.1, hbad.2.2, hvalue.mp (Bool.eq_false_of_not_eq_true hchars)⟩,
        hbad.1, (Option.some.inj h).symm⟩
    · rintro ⟨l, hl, ⟨hlow, hhigh, hchars⟩, hempty, rfl⟩
      obtain rfl := name_injective (htext.symm.trans hl)
      rw [if_neg (by
        rw [not_or, hlength, not_not, not_not]
        exact ⟨hempty, hlow, hhigh⟩), if_neg (by rw [hvalue.mpr hchars]; simp)]
  · rw [dif_neg hkey]
    refine ⟨fun h => absurd h (by simp), ?_⟩
    rintro ⟨key, rfl, -⟩
    rw [idxOf_name] at hkey
    exact absurd key.isLt hkey

/-! ### From line to line -/

variable {pre rest pad text a : List UInt8}

lemma manifestLoop_of_strchr {buf : List UInt8} {cursor stop : ℕ} (hne : cstr buf cursor ≠ [])
    (hstop : strchr buf cursor 10 = some stop) :
    manifestLoop buf cursor values = (strchr (buf.set stop 0) cursor 32).bind fun space =>
      let buf₂ := (buf.set stop 0).set space 0
      (record values (cstr buf₂ cursor) (cstr buf₂ (space + 1))).bind
        (manifestLoop buf₂ (stop + 1)) := by
  rw [manifestLoop, if_neg hne]
  split
  · next hnone => exact absurd (hnone.symm.trans hstop) (by simp)
  · next stop' hsome =>
      obtain rfl := Option.some.inj (hsome.symm.trans hstop)
      dsimp only
      cases strchr (buf.set stop' 0) cursor 32 with
      | none => rfl
      | some space =>
          dsimp only [Option.bind_some]
          cases record values (cstr ((buf.set stop' 0).set space 0) cursor)
            (cstr ((buf.set stop' 0).set space 0) (space + 1)) with
          | none => rfl
          | some values => rfl

/-- No character of a line with its end is zero. -/
lemma zero_notMem_append {c : UInt8} (hc : c ≠ 0) (ha : 0 ∉ a) (hrest : 0 ∉ rest) :
    0 ∉ a ++ c :: rest := by
  rw [List.mem_append, List.mem_cons]
  rintro (h | h | h)
  · exact ha h
  · exact hc h.symm
  · exact hrest h

/-- The loop after the end of a line has been found. -/
lemma manifestLoop_end (hline : 0 ∉ line ∧ 10 ∉ line) (hrest : 0 ∉ rest) :
    manifestLoop (pre ++ (line ++ 10 :: rest ++ 0 :: pad)) pre.length values =
      (strchr (pre ++ (line ++ 0 :: (rest ++ 0 :: pad))) pre.length 32).bind fun space =>
        let buf := (pre ++ (line ++ 0 :: (rest ++ 0 :: pad))).set space 0
        (record values (cstr buf pre.length) (cstr buf (space + 1))).bind
          (manifestLoop buf (pre.length + line.length + 1)) := by
  have hall := zero_notMem_append (c := 10) (by decide) hline.1 hrest
  have hne : cstr (pre ++ (line ++ 10 :: rest ++ 0 :: pad)) pre.length ≠ [] := by
    rw [cstr_append hall]
    simp
  rw [manifestLoop_of_strchr hne (strchr_append hall hline.2), List.append_assoc line,
    List.cons_append, set_append]

/-- The loop with a line that it has split. -/
lemma manifestLoop_line (htext : 0 ∉ text ∧ 10 ∉ text ∧ 32 ∉ text)
    (hvalue : 0 ∉ value ∧ 10 ∉ value) (hrest : 0 ∉ rest) :
    ∃ pre', manifestLoop (pre ++ (text ++ 32 :: value ++ 10 :: rest ++ 0 :: pad)) pre.length
      values = (record values text value).bind
        (manifestLoop (pre' ++ (rest ++ 0 :: pad)) pre'.length) := by
  have hline : 0 ∉ text ++ 32 :: value :=
    zero_notMem_append (by decide) htext.1 hvalue.1
  have hnew : 10 ∉ text ++ 32 :: value := by
    rw [List.mem_append, List.mem_cons]
    rintro (h | h | h)
    · exact htext.2.1 h
    · exact absurd h (by decide)
    · exact hvalue.2 h
  refine ⟨pre ++ (text ++ 0 :: value ++ [0]), ?_⟩
  -- the buffer with both zeros, from the key, from the value and from the next line on
  have hset : (pre ++ (text ++ 32 :: value ++ 0 :: (rest ++ 0 :: pad))).set
      (pre.length + text.length) 0 = pre ++ (text ++ 0 :: (value ++ 0 :: (rest ++ 0 :: pad))) := by
    rw [List.append_assoc text, List.cons_append, set_append]
  have hbuf : pre ++ (text ++ 0 :: (value ++ 0 :: (rest ++ 0 :: pad))) =
      pre ++ text ++ [0] ++ (value ++ 0 :: (rest ++ 0 :: pad)) := by
    simp only [List.append_assoc, List.cons_append, List.nil_append]
  have hbuf' : pre ++ (text ++ 0 :: (value ++ 0 :: (rest ++ 0 :: pad))) =
      pre ++ (text ++ 0 :: value ++ [0]) ++ (rest ++ 0 :: pad) := by
    simp only [List.append_assoc, List.cons_append, List.nil_append]
  have hvalueAt : pre.length + text.length + 1 = (pre ++ text ++ [0]).length := by
    rw [List.length_append, List.length_append, List.length_singleton]
  have hnext : pre.length + (text ++ 32 :: value).length + 1 =
      (pre ++ (text ++ 0 :: value ++ [0])).length := by
    simp only [List.length_append, List.length_cons, List.length_nil]
    omega
  rw [manifestLoop_end ⟨hline, hnew⟩ hrest, strchr_append hline htext.2.2, Option.bind_some]
  dsimp only
  rw [hset, cstr_append htext.1, hvalueAt]
  conv_lhs => rw [hbuf, cstr_append hvalue.1, ← hbuf, hbuf', hnext]

/-- A rest that is not empty and has no line, or a line without a space. -/
lemma manifestLoop_none (hrest : 0 ∉ rest) (hne : rest ≠ []) (hnew : 10 ∉ rest) :
    manifestLoop (pre ++ (rest ++ 0 :: pad)) pre.length values = none := by
  have hcstr : cstr (pre ++ (rest ++ 0 :: pad)) pre.length ≠ [] := by rwa [cstr_append hrest]
  rw [manifestLoop, if_neg hcstr]
  split
  · rfl
  · next stop hsome => exact absurd (hsome.symm.trans (strchr_eq_none hrest hnew)) (by simp)

lemma manifestLoop_none_of_line (hline : 0 ∉ line ∧ 10 ∉ line) (hrest : 0 ∉ rest)
    (hspace : 32 ∉ line) :
    manifestLoop (pre ++ (line ++ 10 :: rest ++ 0 :: pad)) pre.length values = none := by
  rw [manifestLoop_end hline hrest, strchr_eq_none hline.1 hspace, Option.bind_none]

lemma manifestLoop_nil : manifestLoop (pre ++ 0 :: pad) pre.length values = some values := by
  have hcstr : cstr (pre ++ 0 :: pad) pre.length = [] := cstr_append (s := []) List.not_mem_nil
  rw [manifestLoop, if_pos hcstr]

lemma unlines_cons (line : List UInt8) (lines : List (List UInt8)) :
    unlines (line :: lines) = line ++ 10 :: unlines lines := by
  rw [unlines, List.flatMap_cons, List.append_assoc, unlines]
  rfl

/-- The loop reads the entries of which the rest consists. -/
lemma manifestLoop_iff (hrest : 0 ∉ rest) :
    manifestLoop (pre ++ (rest ++ 0 :: pad)) pre.length values = some r ↔
      ∃ entries, rest = unlines (entries.map Entry.line) ∧ Reads values entries r := by
  induction hn : rest.length using Nat.strong_induction_on generalizing rest pre values with
  | _ n ih =>
      have hread : ∀ {text value rest' : List UInt8}, rest = text ++ 32 :: value ++ 10 :: rest' →
          0 ∉ text ∧ 10 ∉ text ∧ 32 ∉ text → 0 ∉ value ∧ 10 ∉ value → 0 ∉ rest' →
          (manifestLoop (pre ++ (rest ++ 0 :: pad)) pre.length values = some r ↔
            ∃ values', record values text value = some values' ∧
              ∃ entries, rest' = unlines (entries.map Entry.line) ∧ Reads values' entries r) := by
        rintro text value rest' rfl htext hvalue hrest'
        obtain ⟨pre', hloop⟩ := @manifestLoop_line values _ pre _ pad _
          htext hvalue hrest'
        rw [hloop, Option.bind_eq_some_iff]
        refine exists_congr fun values' => and_congr_right fun _ => ih rest'.length ?_ hrest' rfl
        simp only [List.length_append, List.length_cons] at hn
        omega
      constructor
      · intro h
        by_cases hne : rest = []
        · subst hne
          rw [List.nil_append, manifestLoop_nil] at h
          exact ⟨[], rfl, (Option.some.inj h).symm⟩
        · by_cases hnew : 10 ∈ rest
          · obtain ⟨line, rest', rfl, hline⟩ := List.eq_append_cons_of_mem hnew
            rw [List.mem_append, List.mem_cons, not_or, not_or] at hrest
            by_cases hspace : 32 ∈ line
            · obtain ⟨text, value, rfl, htext⟩ := List.eq_append_cons_of_mem hspace
              rw [List.mem_append, List.mem_cons, not_or, not_or] at hrest hline
              obtain ⟨values', hrecord, entries, rfl, hreads⟩ := (hread rfl
                ⟨hrest.1.1, hline.1, htext⟩ ⟨hrest.1.2.2, hline.2.2⟩ hrest.2.2).mp h
              obtain ⟨key, rfl, hgood, hempty, rfl⟩ := record_eq_some.mp hrecord
              exact ⟨⟨key, value⟩ :: entries, (unlines_cons _ _).symm, hgood, hempty, hreads⟩
            · rw [manifestLoop_none_of_line ⟨hrest.1, hline⟩ hrest.2.2 hspace] at h
              exact absurd h (by simp)
          · rw [manifestLoop_none hrest hne hnew] at h
            exact absurd h (by simp)
      · rintro ⟨entries, hunlines, hreads⟩
        cases entries with
        | nil =>
            obtain rfl : rest = [] := hunlines
            obtain rfl : r = values := hreads
            rw [List.nil_append, manifestLoop_nil]
        | cons e entries =>
            obtain ⟨hgood, hempty, hreads⟩ := hreads
            rw [List.map_cons, unlines_cons] at hunlines
            have hrest' := hrest
            rw [hunlines, List.mem_append, List.mem_cons, not_or, not_or] at hrest'
            exact (hread hunlines (name_plain e.key) hgood.plain hrest'.2.2).mpr
              ⟨_, record_eq_some.mpr ⟨e.key, rfl, hgood, hempty, rfl⟩, entries, rfl, hreads⟩

/-! ### The table -/

/-- What is read is in the table, and the rest of the table stays. -/
lemma Reads.get (h : Reads values entries r) :
    (∀ e ∈ entries, GoodValue e.value ∧ values e.key = [] ∧ r e.key = e.value) ∧
      (entries.map Entry.key).Nodup ∧ ∀ key ∉ entries.map Entry.key, r key = values key := by
  induction entries generalizing values with
  | nil =>
      obtain rfl : r = values := h
      exact ⟨fun e he => absurd he List.not_mem_nil, List.nodup_nil, fun _ _ => rfl⟩
  | cons e entries ih =>
      obtain ⟨hgood, hempty, hreads⟩ := h
      obtain ⟨hall, hnodup, hkeep⟩ := ih hreads
      have hnew : e.key ∉ entries.map Entry.key := by
        intro hmem
        obtain ⟨f, hf, hkey⟩ := List.mem_map.mp hmem
        obtain ⟨_, hfree, _⟩ := hall f hf
        rw [hkey, Function.update_self] at hfree
        rw [hfree] at hgood
        exact absurd hgood.1 (by simp)
      refine ⟨?_, ?_, ?_⟩
      · intro f hf
        cases List.mem_cons.mp hf with
        | inl heq =>
            subst heq
            refine ⟨hgood, hempty, ?_⟩
            rw [hkeep f.key hnew, Function.update_self]
        | inr hf =>
            obtain ⟨hgood', hfree, hget⟩ := hall f hf
            have hne : f.key ≠ e.key := fun heq => hnew (heq ▸ List.mem_map_of_mem hf)
            rw [Function.update_of_ne hne] at hfree
            exact ⟨hgood', hfree, hget⟩
      · rw [List.map_cons]
        exact List.nodup_cons.mpr ⟨hnew, hnodup⟩
      · intro key hkey
        rw [List.map_cons, List.mem_cons, not_or] at hkey
        rw [hkeep key hkey.2, Function.update_of_ne hkey.1]

/-- Good values of keys that have none yet are read. -/
lemma exists_reads (hgood : ∀ e ∈ entries, GoodValue e.value)
    (hnodup : (entries.map Entry.key).Nodup) (hempty : ∀ e ∈ entries, values e.key = []) :
    ∃ r, Reads values entries r := by
  induction entries generalizing values with
  | nil => exact ⟨values, rfl⟩
  | cons e entries ih =>
      rw [List.map_cons, List.nodup_cons] at hnodup
      obtain ⟨r, hr⟩ := @ih (Function.update values e.key e.value)
        (fun f hf => hgood f (List.mem_cons_of_mem _ hf)) hnodup.2 fun f hf => by
          have hne : f.key ≠ e.key := fun heq => hnodup.1 (heq ▸ List.mem_map_of_mem hf)
          rw [Function.update_of_ne hne]
          exact hempty f (List.mem_cons_of_mem _ hf)
      exact ⟨r, hgood e (List.mem_cons_self ..), hempty e (List.mem_cons_self ..), hr⟩

lemma Entry.line_injective (h : e.line = f.line) : e = f := by
  obtain ⟨hname, hvalue⟩ := split_unique (name_plain e.key).2.2 (name_plain f.key).2.2 h
  cases e with
  | mk key value =>
      cases f with
      | mk key' value' => rw [Entry.mk.injEq]; exact ⟨name_injective hname, hvalue⟩

lemma unlines_injective {lines lines' : List (List UInt8)} (hlines : ∀ l ∈ lines, 10 ∉ l)
    (hlines' : ∀ l ∈ lines', 10 ∉ l) (h : unlines lines = unlines lines') : lines = lines' := by
  induction lines generalizing lines' with
  | nil =>
      cases lines' with
      | nil => rfl
      | cons l' lines' =>
          rw [unlines_cons] at h
          exact absurd h.symm (by simp [unlines])
  | cons l lines ih =>
      cases lines' with
      | nil =>
          rw [unlines_cons] at h
          exact absurd h (by simp [unlines])
      | cons l' lines' =>
          rw [List.forall_mem_cons] at hlines hlines'
          rw [unlines_cons, unlines_cons] at h
          obtain ⟨rfl, htail⟩ := split_unique hlines.1 hlines'.1 h
          rw [ih hlines.2 hlines'.2 htail]

lemma Entry.line_plain (h : GoodValue e.value) : 0 ∉ e.line ∧ 10 ∉ e.line := by
  obtain ⟨hzero, hnew, _⟩ := name_plain e.key
  rw [Entry.line, List.mem_append, List.mem_append, List.mem_cons, List.mem_cons, not_or, not_or,
    not_or, not_or]
  exact ⟨⟨hzero, by decide, h.plain.1⟩, hnew, by decide, h.plain.2⟩

lemma zero_notMem_unlines (h : ∀ e ∈ entries, GoodValue e.value) :
    0 ∉ unlines (entries.map Entry.line) := by
  intro hmem
  obtain ⟨line, hline, hzero⟩ := List.mem_flatMap.mp hmem
  obtain ⟨e, he, rfl⟩ := List.mem_map.mp hline
  cases List.mem_append.mp hzero with
  | inl hzero => exact (Entry.line_plain (h e he)).1 hzero
  | inr hzero => exact absurd (List.mem_singleton.mp hzero) (by decide)

/-- What is accepted, and what is read from it. -/
theorem parseManifest_eq_some {content : List UInt8} : parseManifest content pad = some r ↔
    content.length ≤ 4095 ∧ ∃ entries, IsManifest content entries ∧
      ∀ e ∈ entries, r e.key = e.value := by
  have hloop : ∀ {content : List UInt8}, 0 ∉ content →
      (manifestLoop (content ++ 0 :: pad) 0 (fun _ => []) = some r ↔
        ∃ entries, content = unlines (entries.map Entry.line) ∧ Reads (fun _ => []) entries r) :=
    fun hzero => @manifestLoop_iff _ _ [] _ _ hzero
  rw [parseManifest]
  constructor
  · intro h
    split_ifs at h with hsize hzero
    split at h
    · exact absurd h (by simp)
    · next values hsome =>
        split_ifs at h with hfull
        obtain rfl := Option.some.inj h
        obtain ⟨entries, hcontent, hreads⟩ := (hloop hzero).mp hsome
        obtain ⟨hall, hnodup, hkeep⟩ := hreads.get
        refine ⟨Nat.not_lt.mp hsize, entries, ⟨hcontent, fun e he => (hall e he).1, fun key => ?_⟩,
          fun e he => (hall e he).2.2⟩
        refine List.count_eq_one_of_mem hnodup ?_
        by_contra hmem
        exact hfull key (hkeep key hmem)
  · rintro ⟨hsize, entries, ⟨rfl, hgood, hcount⟩, hget⟩
    have hzero := zero_notMem_unlines hgood
    have hnodup : (entries.map Entry.key).Nodup :=
      List.nodup_iff_count_le_one.mpr fun key => (hcount key).le
    obtain ⟨s, hs⟩ := @exists_reads (fun _ => []) _ hgood hnodup fun _ _ => rfl
    obtain ⟨hall, _, _⟩ := hs.get
    have hmem : ∀ key, ∃ e ∈ entries, e.key = key := fun key =>
      List.mem_map.mp (List.count_pos_iff.mp (by rw [hcount key]; exact Nat.one_pos))
    have heq : s = r := by
      funext key
      obtain ⟨e, he, rfl⟩ := hmem key
      rw [(hall e he).2.2, hget e he]
    subst heq
    rw [if_neg (Nat.not_lt.mpr hsize), if_neg hzero, (hloop hzero).mpr ⟨entries, rfl, hs⟩]
    refine if_pos fun key hkey => ?_
    obtain ⟨e, he, rfl⟩ := hmem key
    have hlow := (hgood e he).1
    rw [← hget e he, hkey] at hlow
    exact absurd hlow (by simp)

end Lines

/-- A manifest is accepted if it is one, and the table is that of its lines in any order. -/
theorem manifest_iff :
    (∀ content pad r, parseManifest content pad = some r ↔ content.length ≤ 4095 ∧
      ∃ entries, IsManifest content entries ∧ ∀ e ∈ entries, r e.key = e.value) ∧
    ∀ lines lines' pad pad' r r', (∀ l ∈ lines, 10 ∉ l) → (∀ l ∈ lines', 10 ∉ l) →
      (∀ l, l ∈ lines ↔ l ∈ lines') → parseManifest (unlines lines) pad = some r →
        parseManifest (unlines lines') pad' = some r' → r = r' := by
  refine ⟨fun content pad r => parseManifest_eq_some, ?_⟩
  intro lines lines' pad pad' r r' hlines hlines' hsame h h'
  obtain ⟨_, entries, ⟨hunlines, hgood, hcount⟩, hget⟩ := parseManifest_eq_some.mp h
  obtain ⟨_, entries', ⟨hunlines', hgood', _⟩, hget'⟩ := parseManifest_eq_some.mp h'
  have hplain : ∀ {entries : List Entry}, (∀ e ∈ entries, GoodValue e.value) →
      ∀ l ∈ entries.map Entry.line, 10 ∉ l := fun hgood l hl => by
    obtain ⟨e, he, rfl⟩ := List.mem_map.mp hl
    exact (Entry.line_plain (hgood e he)).2
  obtain rfl := unlines_injective hlines (hplain hgood) hunlines
  obtain rfl := unlines_injective hlines' (hplain hgood') hunlines'
  funext key
  obtain ⟨e, he, rfl⟩ : ∃ e ∈ entries, e.key = key :=
    List.mem_map.mp (List.count_pos_iff.mp (by rw [hcount key]; exact Nat.one_pos))
  obtain ⟨f, hf, hline⟩ := List.mem_map.mp ((hsame e.line).mp (List.mem_map_of_mem he))
  obtain rfl := Entry.line_injective hline
  rw [hget f he, hget' f hf]

/-- Nine keys in order and from the last to the first, each with one digit. -/
theorem manifest_iff_digits :
    (∃ r, parseManifest (unlines (((List.finRange 9).map fun k => Entry.mk k [97]).map
      Entry.line)) [] = some r) ∧
    ∀ r r', parseManifest (unlines (((List.finRange 9).map fun k => Entry.mk k [97]).map
        Entry.line)) [] = some r →
      parseManifest (unlines (((List.finRange 9).reverse.map fun k => Entry.mk k [97]).map
        Entry.line)) [] = some r' → r = r' := by
  refine ⟨⟨fun _ => [97], (manifest_iff.1 _ _ _).mpr ⟨by decide +kernel, _, ⟨rfl, ?_, by decide⟩, ?_⟩⟩,
    fun r r' => manifest_iff.2 _ _ _ _ _ _ (by decide) (by decide) (fun l => ?_)⟩
  · intro e he
    obtain ⟨k, _, rfl⟩ := List.mem_map.mp he
    exact ⟨Nat.le_refl 1, Nat.one_le_of_lt (by decide : 1 < 128), .inl fun c hc => by
      rw [List.mem_singleton.mp hc]
      decide⟩
  · intro e he
    obtain ⟨k, _, rfl⟩ := List.mem_map.mp he
    rfl
  · rw [List.map_reverse, List.map_reverse, List.mem_reverse]

end OmarchyM1Video.ReferenceContent.ApprovedBuilds
