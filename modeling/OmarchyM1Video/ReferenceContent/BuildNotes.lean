import OmarchyM1Video.C.Memory
import OmarchyM1Video.Py.Bytes
import OmarchyM1Video.Py.JsonText

/-!
The build-id notes of an ELF file: `hevc_content_note` of `integration/runtime.h`, and `note_id` of
`live-campaign/prepare.py`, which prepares the identifiers that it is compared with.

An access outside of the buffer, or outside of `id`, has no result.

* `Note`, `Note.Encodes`, `Notes`: a well-formed note, its bytes, and a sequence of notes;
* `hevcContentNote`, `noteId`: the two parsers;
* `headNote?`, `notes_iff`: the first note of a buffer, and a sequence of notes by it;
* `Walks`: a parser that goes from note to note, which both of them are;
* `hevcContentNote_iff`, `noteId_iff`: what they accept, and `build_note_iff`, the two together.
-/

namespace OmarchyM1Video.ReferenceContent.BuildNotes

open OmarchyM1Video.Py OmarchyM1Video.C

/-! ### Notes -/

/-- A note, by its name, its descriptor and its type. -/
structure Note where
  name : List UInt8
  desc : List UInt8
  kind : ℕ
  deriving DecidableEq, Repr

/-- `(n + 3) & ~3`. -/
def padded (n : ℕ) : ℕ := (n + 3) / 4 * 4

/-- The bytes of a note: its header, and its name and its descriptor with what pads them. -/
def Note.Encodes (n : Note) (bytes : List UInt8) : Prop :=
  n.kind < 0x100000000 ∧ ∃ p q : List UInt8,
    n.name.length + p.length = padded n.name.length ∧
      n.desc.length + q.length = padded n.desc.length ∧
        bytes = natBytes 4 n.name.length ++ natBytes 4 n.desc.length ++ natBytes 4 n.kind ++
          (n.name ++ p) ++ (n.desc ++ q)

/-- A sequence of well-formed notes. -/
def Notes (data : List UInt8) (ns : List Note) : Prop :=
  ∃ chunks, List.Forall₂ Note.Encodes ns chunks ∧ data = chunks.flatten

/-- `"GNU\0"`. -/
def gnu : List UInt8 := [71, 78, 85, 0]

/-- A GNU build-id note. -/
def Note.IsBuildId (n : Note) : Prop := n.kind = 3 ∧ n.name = gnu

instance (n : Note) : Decidable n.IsBuildId := inferInstanceAs (Decidable (_ ∧ _))

/-- Bytes in lowercase hexadecimal. -/
def hexText (bytes : List UInt8) : List Char := bytes.flatMap fun b => hexDigits 2 b.toNat

/-! ### The parser of the run -/

/-- `id`, an array of characters. -/
abbrev IdArray := Fin 129 → Char

/-- So many bytes of the buffer from an offset on. -/
def bytesAt (data : List UInt8) (offset count : ℕ) : Option (List UInt8) :=
  if offset + count ≤ data.length then some ((data.drop offset).take count) else none

/-- A field of the header. -/
def word (data : List UInt8) (offset : ℕ) : Option ℕ := (bytesAt data offset 4).map bytesNat

/-- The loop of `hevc_content_note`, and its result: `none` is an access out of bounds, `some none`
is `false`, and `some (some id)` is `true` with `id`. `id₀` is what `id` holds before. -/
def contentLoop (id₀ : IdArray) (data : List UInt8) (offset : ℕ) (found : Option IdArray) :
    Option (Option IdArray) :=
  if offset < data.length then
    if data.length - offset < 12 then some none
    else
      match word data offset, word data (offset + 4), word data (offset + 8) with
      | some n₀, some n₁, some n₂ =>
          if data.length - (offset + 12) < n₀ ∨ 0xffffffff - 3 < n₀ ∨ 0xffffffff - 3 < n₁ then
            some none
          else if data.length - (offset + 12) < padded n₀ ∨
              data.length - (offset + 12) - padded n₀ < padded n₁ then some none
          else if n₂ = 3 ∧ n₀ = 4 then
            match bytesAt data (offset + 12) 4 with
            | none => none
            | some name =>
                if name = gnu then
                  if found.isSome ∨ n₁ = 0 ∨ 64 < n₁ then some none
                  else
                    match bytesAt data (offset + 12 + padded n₀) n₁ with
                    | none => none
                    | some desc =>
                        match storeAll id₀ 0 (hexText desc ++ ['\x00']) with
                        | none => none
                        | some id =>
                            contentLoop id₀ data (offset + 12 + (padded n₀ + padded n₁)) (some id)
                else contentLoop id₀ data (offset + 12 + (padded n₀ + padded n₁)) found
          else contentLoop id₀ data (offset + 12 + (padded n₀ + padded n₁)) found
      | _, _, _ => none
  else some found
termination_by data.length - offset

/-- `hevc_content_note`. -/
def hevcContentNote (data : List UInt8) (id : IdArray) : Option (Option IdArray) :=
  contentLoop id data 0 none

/-- The text of `id`. -/
def idText (id : IdArray) : List Char := (List.ofFn id).takeWhile (· ≠ '\x00')

/-! ### The parser of the preparation -/

/-- The loop of `note_id`: the identifiers that it finds. -/
def noteLoop (raw : List UInt8) (offset : ℕ) (found : List (List Char)) :
    Except String (List (List Char)) :=
  if offset < raw.length then
    if raw.length < offset + 12 then .error "short ELF note"
    else
      let namesz := bytesNat ((raw.drop offset).take 4)
      let descsz := bytesNat ((raw.drop (offset + 4)).take 4)
      let kind := bytesNat ((raw.drop (offset + 8)).take 4)
      let name := offset + 12
      let desc := name + padded namesz
      let stop := desc + padded descsz
      if raw.length < stop then .error "ELF note extent"
      else if kind = 3 ∧ (raw.drop name).take namesz = gnu then
        if descsz ∈ [16, 20, 32] then
          noteLoop raw stop (found ++ [hexText ((raw.drop desc).take descsz)])
        else .error "ELF build-ID extent"
      else noteLoop raw stop found
  else .ok found
termination_by raw.length - offset

/-- `note_id(raw)`. -/
def noteId (raw : List UInt8) : Except String (List Char) :=
  match noteLoop raw 0 [] with
  | .ok [id] => .ok id
  | .ok _ => .error "missing/ambiguous ELF build-ID"
  | .error e => .error e

/-! ### The first note -/

/-- The first note of a buffer, and what comes after it. -/
def headNote? (data : List UInt8) : Option (Note × List UInt8) :=
  if data.length < 12 then none
  else
    let n₀ := bytesNat (data.take 4)
    let n₁ := bytesNat ((data.drop 4).take 4)
    let body := data.drop 12
    if body.length < padded n₀ + padded n₁ then none
    else some ({
      name := body.take n₀
      desc := (body.drop (padded n₀)).take n₁
      kind := bytesNat ((data.drop 8).take 4) }, body.drop (padded n₀ + padded n₁))

section Head

variable {data rest chunk : List UInt8} {n : Note} {ns : List Note} {k : ℕ}

lemma le_padded (k : ℕ) : k ≤ padded k := by
  rw [padded]
  omega

lemma bytesNat_lt_word (data : List UInt8) (h : data.length = 4) : bytesNat data < 0x100000000 := by
  have hlt := bytesNat_lt data
  rwa [h] at hlt

lemma natBytes_word (h : data.length = 4) : natBytes 4 (bytesNat data) = data := by
  have hbytes := natBytes_bytesNat data
  rwa [h] at hbytes

/-- A note that is read is one that its bytes encode. -/
lemma encodes_of_headNote? (h : headNote? data = some (n, rest)) :
    ∃ chunk, n.Encodes chunk ∧ data = chunk ++ rest := by
  rw [headNote?] at h
  split_ifs at h with hshort
  dsimp only at h
  split_ifs at h with hbody
  obtain ⟨rfl, rfl⟩ := Prod.mk.inj (Option.some.inj h)
  have hlength : (data.drop 12).length = data.length - 12 := List.length_drop
  have h₀ : (data.take 4).length = 4 := by rw [List.length_take]; omega
  have h₁ : ((data.drop 4).take 4).length = 4 := by rw [List.length_take, List.length_drop]; omega
  have h₂ : ((data.drop 8).take 4).length = 4 := by rw [List.length_take, List.length_drop]; omega
  have hp₀ := le_padded (bytesNat (data.take 4))
  have hp₁ := le_padded (bytesNat ((data.drop 4).take 4))
  have hheader : data = data.take 4 ++
      ((data.drop 4).take 4 ++ ((data.drop 8).take 4 ++ data.drop 12)) := by
    have hsplit : ∀ k, data.drop k = (data.drop k).take 4 ++ data.drop (k + 4) := fun k => by
      rw [← List.drop_drop, List.take_append_drop]
    rw [← hsplit 8, ← hsplit 4, List.take_append_drop]
  generalize hn₀ : bytesNat (data.take 4) = n₀ at *
  generalize hn₁ : bytesNat ((data.drop 4).take 4) = n₁ at *
  generalize hbodyEq : data.drop 12 = body at *
  have hname : (body.take n₀).length = n₀ := by rw [List.length_take]; omega
  have hdesc : ((body.drop (padded n₀)).take n₁).length = n₁ := by
    rw [List.length_take, List.length_drop]
    omega
  refine ⟨_, ⟨bytesNat_lt_word _ h₂, (body.drop n₀).take (padded n₀ - n₀),
    (body.drop (padded n₀ + n₁)).take (padded n₁ - n₁), ?_, ?_, rfl⟩, ?_⟩
  · rw [hname, List.length_take, List.length_drop]
    omega
  · rw [hdesc, List.length_take, List.length_drop]
    omega
  · have hpart : ∀ a b, a ≤ b → (body.drop a).take (b - a) ++ body.drop b = body.drop a := by
      intro a b hab
      have := List.take_append_drop (b - a) (body.drop a)
      rwa [List.drop_drop, Nat.add_sub_cancel' hab] at this
    have hbodySplit : body = body.take n₀ ++ ((body.drop n₀).take (padded n₀ - n₀) ++
        ((body.drop (padded n₀)).take n₁ ++ ((body.drop (padded n₀ + n₁)).take (padded n₁ - n₁) ++
          body.drop (padded n₀ + padded n₁)))) := by
      have h₃ := hpart (padded n₀ + n₁) (padded n₀ + padded n₁) (by omega)
      have h₄ := hpart (padded n₀) (padded n₀ + n₁) (by omega)
      rw [show padded n₀ + padded n₁ - (padded n₀ + n₁) = padded n₁ - n₁ by omega] at h₃
      rw [show padded n₀ + n₁ - padded n₀ = n₁ by omega] at h₄
      rw [h₃, h₄, hpart n₀ (padded n₀) hp₀, List.take_append_drop]
    simp only [hname, hdesc]
    rw [← hn₀, ← hn₁, natBytes_word h₀, natBytes_word h₁, natBytes_word h₂, hn₀, hn₁]
    conv_lhs => rw [hheader, hbodySplit]
    simp only [List.append_assoc]

/-- The bytes of a note are read as that note. -/
lemma headNote?_of_encodes (h : n.Encodes chunk) (hsize : (chunk ++ rest).length < 0x80000000) :
    headNote? (chunk ++ rest) = some (n, rest) := by
  obtain ⟨hkind, p, q, hp, hq, rfl⟩ := h
  have hname : n.name.length < byteSpan 4 := by
    simp only [List.length_append, length_natBytes] at hsize
    change _ < 0x100000000
    omega
  have hdesc : n.desc.length < byteSpan 4 := by
    simp only [List.length_append, length_natBytes] at hsize
    change _ < 0x100000000
    omega
  have htake : ∀ (a b : List UInt8) (k : ℕ), a.length = k → (a ++ b).take k = a :=
    fun a b k hk => by rw [← hk, List.take_left]
  have hdrop : ∀ (a b : List UInt8) (k : ℕ), a.length = k → (a ++ b).drop k = b :=
    fun a b k hk => by rw [← hk, List.drop_left]
  have hlen := length_natBytes 4
  simp only [List.append_assoc]
  have h₀ := htake _ (natBytes 4 n.desc.length ++ (natBytes 4 n.kind ++ (n.name ++ (p ++
    (n.desc ++ (q ++ rest)))))) 4 (hlen n.name.length)
  have h₁ := hdrop _ (natBytes 4 n.desc.length ++ (natBytes 4 n.kind ++ (n.name ++ (p ++
    (n.desc ++ (q ++ rest)))))) 4 (hlen n.name.length)
  have h₂ := hdrop (natBytes 4 n.name.length ++ natBytes 4 n.desc.length) (natBytes 4 n.kind ++
    (n.name ++ (p ++ (n.desc ++ (q ++ rest))))) 8 (by rw [List.length_append, hlen, hlen])
  have h₃ := hdrop (natBytes 4 n.name.length ++ natBytes 4 n.desc.length ++ natBytes 4 n.kind)
    (n.name ++ (p ++ (n.desc ++ (q ++ rest)))) 12 (by simp only [List.length_append, hlen])
  simp only [List.append_assoc] at h₂ h₃
  have hbody : (n.name ++ (p ++ (n.desc ++ (q ++ rest)))).drop (padded n.name.length) =
      n.desc ++ (q ++ rest) := by
    rw [← List.append_assoc]
    exact hdrop _ _ _ (by rw [List.length_append, hp])
  have hrest : (n.name ++ (p ++ (n.desc ++ (q ++ rest)))).drop
      (padded n.name.length + padded n.desc.length) = rest := by
    rw [← List.drop_drop, hbody, ← List.append_assoc]
    exact hdrop _ _ _ (by rw [List.length_append, hq])
  rw [headNote?, if_neg (by simp only [List.length_append, hlen]; omega)]
  dsimp only
  rw [h₀, h₁, h₂, h₃, htake _ _ 4 (hlen _), htake _ _ 4 (hlen _), bytesNat_natBytes hname,
    bytesNat_natBytes hdesc, bytesNat_natBytes hkind, if_neg (by
      simp only [List.length_append]
      omega), hbody, hrest, htake _ _ _ rfl, htake _ _ _ rfl]

lemma notes_nil_iff : Notes [] ns ↔ ns = [] := by
  constructor
  · rintro ⟨chunks, hchunks, hflat⟩
    cases hchunks with
    | nil => rfl
    | cons hfirst _ =>
        -- a note has a header
        obtain ⟨_, p, q, _, _, rfl⟩ := hfirst
        have hlength := congrArg List.length hflat
        simp only [List.flatten_cons, List.length_append, length_natBytes,
          List.length_nil] at hlength
        omega
  · rintro rfl
    exact ⟨[], .nil, rfl⟩

/-- A buffer that is not empty is a sequence of notes if its first note is followed by one. -/
lemma notes_iff (hne : data ≠ []) (hsize : data.length < 0x80000000) :
    Notes data ns ↔
      ∃ n rest ns', headNote? data = some (n, rest) ∧ Notes rest ns' ∧ ns = n :: ns' := by
  constructor
  · rintro ⟨chunks, hchunks, rfl⟩
    cases hchunks with
    | nil => exact absurd rfl hne
    | cons hfirst hrest =>
        exact ⟨_, _, _, headNote?_of_encodes hfirst hsize, ⟨_, hrest, rfl⟩, rfl⟩
  · rintro ⟨n, rest, ns', hhead, ⟨chunks, hchunks, rfl⟩, rfl⟩
    obtain ⟨chunk, hchunk, rfl⟩ := encodes_of_headNote? hhead
    exact ⟨chunk :: chunks, .cons hchunk hchunks, rfl⟩

/-- A buffer has at most one sequence of notes. -/
lemma Notes.unique {ms : List Note} (hsize : data.length < 0x80000000) (hms : Notes data ms)
    (hns : Notes data ns) : ms = ns := by
  induction ms generalizing data ns with
  | nil =>
      obtain ⟨chunks, hchunks, rfl⟩ := hms
      cases hchunks
      exact (notes_nil_iff.mp hns).symm
  | cons m ms ih =>
      have hne : data ≠ [] := by
        rintro rfl
        exact absurd (notes_nil_iff.mp hms) (by simp)
      obtain ⟨n, rest, ms', hhead, hrest, hcons⟩ := (notes_iff hne hsize).mp hms
      obtain ⟨n', rest', ns', hhead', hrest', rfl⟩ := (notes_iff hne hsize).mp hns
      obtain ⟨rfl, rfl⟩ := List.cons.inj hcons
      obtain ⟨rfl, rfl⟩ := Prod.mk.inj (Option.some.inj (hhead.symm.trans hhead'))
      obtain ⟨chunk, _, rfl⟩ := encodes_of_headNote? hhead
      rw [List.length_append] at hsize
      rw [ih (by omega) hrest hrest']

end Head

/-! ### Loops over notes -/

section Loop

variable {σ ρ : Type} {data : List UInt8} {loop : ℕ → σ → ρ} {step : σ → Note → Option σ}
  {done : σ → ρ} {Fails : ρ → Prop} {offset : ℕ} {s s' : σ} {ns : List Note}

/-- A parser that goes from note to note: what it does at the end, at a place where there is no
note, and with a note, after which it goes on unless `step` refuses the note. -/
structure Walks (data : List UInt8) (loop : ℕ → σ → ρ) (step : σ → Note → Option σ) (done : σ → ρ)
    (Fails : ρ → Prop) : Prop where
  stop : ∀ offset s, data.length ≤ offset → loop offset s = done s
  bad : ∀ offset s, offset < data.length → headNote? (data.drop offset) = none →
    Fails (loop offset s)
  note : ∀ offset s n rest, offset < data.length → headNote? (data.drop offset) = some (n, rest) →
    ∃ next, offset < next ∧ data.drop next = rest ∧ (step s n = none → Fails (loop offset s)) ∧
      ∀ s', step s n = some s' → loop offset s = loop next s'

/-- With a sequence of notes a parser does what its steps do with them. -/
lemma Walks.of_notes (h : Walks data loop step done Fails) (offset : ℕ) (s : σ)
    (hsize : data.length < 0x80000000) (hns : Notes (data.drop offset) ns) :
    (ns.foldlM step s = none → Fails (loop offset s)) ∧
      ∀ s', ns.foldlM step s = some s' → loop offset s = done s' := by
  induction hk : data.length - offset using Nat.strong_induction_on generalizing offset s ns with
  | _ k ih =>
      by_cases hlt : offset < data.length
      · have hne : data.drop offset ≠ [] := by
          rw [Ne, List.drop_eq_nil_iff]
          omega
        have hdrop : (data.drop offset).length < 0x80000000 := by
          rw [List.length_drop]
          omega
        obtain ⟨n, rest, ns', hhead, hrest, rfl⟩ := (notes_iff hne hdrop).mp hns
        obtain ⟨next, hnext, rfl, hrefused, hgoes⟩ := h.note offset s n rest hlt hhead
        rw [List.foldlM_cons, Option.bind_eq_bind]
        cases hstep : step s n with
        | none =>
            rw [Option.bind_none]
            exact ⟨fun _ => hrefused hstep, fun s' hs' => absurd hs' (by simp)⟩
        | some t =>
            rw [Option.bind_some, hgoes t hstep]
            exact ih (data.length - next) (by omega) next t hrest rfl
      · rw [List.drop_eq_nil_of_le (Nat.not_lt.mp hlt), notes_nil_iff] at hns
        subst hns
        rw [h.stop offset s (Nat.not_lt.mp hlt)]
        exact ⟨fun hnone => absurd hnone (by simp), fun s' hs' => by rw [Option.some.inj hs']⟩

/-- A buffer that is no sequence of notes is refused. -/
lemma Walks.of_not (h : Walks data loop step done Fails) (offset : ℕ) (s : σ)
    (hsize : data.length < 0x80000000) (hns : ∀ ns, ¬Notes (data.drop offset) ns) : Fails (loop offset s) := by
  induction hk : data.length - offset using Nat.strong_induction_on generalizing offset s with
  | _ k ih =>
      by_cases hlt : offset < data.length
      · have hne : data.drop offset ≠ [] := by
          rw [Ne, List.drop_eq_nil_iff]
          omega
        have hdrop : (data.drop offset).length < 0x80000000 := by
          rw [List.length_drop]
          omega
        cases hhead : headNote? (data.drop offset) with
        | none => exact h.bad offset s hlt hhead
        | some p =>
            obtain ⟨n, rest⟩ := p
            obtain ⟨next, hnext, rfl, hrefused, hgoes⟩ := h.note offset s n rest hlt hhead
            cases hstep : step s n with
            | none => exact hrefused hstep
            | some t =>
                rw [hgoes t hstep]
                exact ih (data.length - next) (by omega) next t (fun ns' hns' => hns (n :: ns')
                  ((notes_iff hne hdrop).mpr ⟨n, _, ns', hhead, hns', rfl⟩)) rfl
      · refine absurd ?_ (hns [])
        rw [List.drop_eq_nil_of_le (Nat.not_lt.mp hlt), notes_nil_iff]

end Loop

/-! ### The parser of the run -/

/-- `id` after the descriptor of a build-id note. -/
def idOf (id₀ : IdArray) (desc : List UInt8) : IdArray :=
  fun i => (hexText desc ++ ['\x00']).getD i (id₀ i)

/-- What `hevc_content_note` does with a note. -/
def contentStep (id₀ : IdArray) (found : Option IdArray) (n : Note) : Option (Option IdArray) :=
  if n.IsBuildId then
    if found.isSome ∨ n.desc.length = 0 ∨ 64 < n.desc.length then none
    else some (some (idOf id₀ n.desc))
  else some found

section Content

variable {data rest : List UInt8} {n : Note} {offset : ℕ} {found : Option IdArray} {id₀ : IdArray}

lemma length_hexText (bytes : List UInt8) : (hexText bytes).length = 2 * bytes.length := by
  induction bytes with
  | nil => rfl
  | cons b bytes ih =>
      have hcons : hexText (b :: bytes) = hexDigits 2 b.toNat ++ hexText bytes := rfl
      rw [hcons, List.length_append, ih, List.length_cons, length_hexDigits]
      omega

/-- The identifier fits into the array. -/
lemma storeAll_hexText {desc : List UInt8} (h : desc.length ≤ 64) :
    storeAll id₀ 0 (hexText desc ++ ['\x00']) = some (idOf id₀ desc) := by
  have hfits : 0 + (hexText desc ++ ['\x00']).length ≤ 129 := by
    rw [List.length_append, length_hexText, List.length_singleton]
    omega
  obtain ⟨b, hb, hget⟩ := storeAll_of_le (a := id₀) (i := 0) hfits
  rw [hb]
  refine congrArg some (funext fun i => ?_)
  rw [hget i, if_pos (Nat.zero_le _)]
  rfl

/-- Bytes inside the buffer. -/
lemma bytesAt_drop {k count : ℕ} (h : offset + k + count ≤ data.length) :
    bytesAt data (offset + k) count = some (((data.drop offset).drop k).take count) := by
  rw [bytesAt, if_pos h, List.drop_drop]

/-- The header of a note. -/
lemma word_drop {k : ℕ} (h : offset + k + 4 ≤ data.length) :
    word data (offset + k) = some (bytesNat (((data.drop offset).drop k).take 4)) := by
  rw [word, bytesAt_drop h, Option.map_some]

lemma contentLoop_bad (hlt : offset < data.length) (hhead : headNote? (data.drop offset) = none) :
    contentLoop id₀ data offset found = some none := by
  have hlength : (data.drop offset).length = data.length - offset := List.length_drop
  rw [contentLoop, if_pos hlt]
  by_cases hshort : data.length - offset < 12
  · rw [if_pos hshort]
  · have h₀ := @word_drop data offset 0 (by omega)
    rw [Nat.add_zero, List.drop_zero] at h₀
    rw [headNote?, if_neg (by omega)] at hhead
    dsimp only at hhead
    rw [if_neg hshort, h₀, word_drop (by omega), word_drop (by omega)]
    dsimp only
    generalize bytesNat ((data.drop offset).take 4) = n₀ at hhead ⊢
    generalize bytesNat (((data.drop offset).drop 4).take 4) = n₁ at hhead ⊢
    split_ifs at hhead with hbody
    rw [List.length_drop, hlength] at hbody
    by_cases hfirst : data.length - (offset + 12) < n₀ ∨ 0xffffffff - 3 < n₀ ∨ 0xffffffff - 3 < n₁
    · rw [if_pos hfirst]
    · rw [if_neg hfirst, if_pos (by omega)]

lemma contentLoop_note (hsize : data.length < 0x80000000) (hlt : offset < data.length)
    (hhead : headNote? (data.drop offset) = some (n, rest)) :
    ∃ next, offset < next ∧ data.drop next = rest ∧
      (contentStep id₀ found n = none → contentLoop id₀ data offset found = some none) ∧
      ∀ s', contentStep id₀ found n = some s' →
        contentLoop id₀ data offset found = contentLoop id₀ data next s' := by
  have hlength : (data.drop offset).length = data.length - offset := List.length_drop
  rw [headNote?] at hhead
  split_ifs at hhead with hshort
  have h₀ := @word_drop data offset 0 (by omega)
  rw [Nat.add_zero, List.drop_zero] at h₀
  dsimp only at hhead
  rw [contentLoop, if_pos hlt, if_neg (by omega), h₀, word_drop (by omega), word_drop (by omega)]
  dsimp only
  generalize bytesNat ((data.drop offset).take 4) = n₀ at hhead ⊢
  generalize bytesNat (((data.drop offset).drop 4).take 4) = n₁ at hhead ⊢
  generalize bytesNat (((data.drop offset).drop 8).take 4) = kind at hhead ⊢
  split_ifs at hhead with hbody
  obtain ⟨rfl, rfl⟩ := Prod.mk.inj (Option.some.inj hhead)
  rw [List.length_drop, hlength] at hbody
  have hp₀ := le_padded n₀
  have hp₁ := le_padded n₁
  refine ⟨offset + 12 + (padded n₀ + padded n₁), by omega,
    by rw [List.drop_drop, List.drop_drop, Nat.add_assoc], ?_⟩
  rw [if_neg (by omega), if_neg (by omega), contentStep]
  simp only [Note.IsBuildId]
  have hname : ((data.drop offset).drop 12).take n₀ = gnu → n₀ = 4 := fun heq => by
    have hcount := congrArg List.length heq
    rw [List.length_take, List.length_drop, hlength] at hcount
    change _ = 4 at hcount
    omega
  have hdesc : (((data.drop offset).drop 12).drop (padded n₀)).take n₁ =
      ((data.drop offset).drop (12 + padded n₀)).take n₁ := by rw [List.drop_drop]
  have hdescLength : (((data.drop offset).drop (12 + padded n₀)).take n₁).length = n₁ := by
    rw [List.length_take, List.length_drop, hlength]
    omega
  rw [hdesc, hdescLength]
  by_cases hfour : kind = 3 ∧ n₀ = 4
  · obtain ⟨rfl, rfl⟩ := hfour
    rw [if_pos (show (3 : ℕ) = 3 ∧ (4 : ℕ) = 4 from ⟨rfl, rfl⟩), bytesAt_drop (by omega)]
    dsimp only
    by_cases hgnu : ((data.drop offset).drop 12).take 4 = gnu
    · rw [if_pos hgnu, if_pos ⟨rfl, hgnu⟩]
      by_cases hrefused : found.isSome = true ∨ n₁ = 0 ∨ 64 < n₁
      · rw [if_pos hrefused, if_pos hrefused]
        exact ⟨fun _ => rfl, fun s' hs' => absurd hs' (by simp)⟩
      · have hread : bytesAt data (offset + 12 + padded 4) n₁ =
            some (((data.drop offset).drop (12 + padded 4)).take n₁) := by
          rw [Nat.add_assoc]
          exact bytesAt_drop (by omega)
        rw [if_neg hrefused, if_neg hrefused, hread]
        dsimp only
        rw [storeAll_hexText (by omega)]
        exact ⟨fun hnone => absurd hnone (by simp), fun s' hs' => by rw [← Option.some.inj hs']⟩
    · rw [if_neg hgnu, if_neg fun hid => hgnu hid.2]
      exact ⟨fun hnone => absurd hnone (by simp), fun s' hs' => by rw [Option.some.inj hs']⟩
  · rw [if_neg hfour, if_neg fun hid => hfour ⟨hid.1, hname hid.2⟩]
    exact ⟨fun hnone => absurd hnone (by simp), fun s' hs' => by rw [Option.some.inj hs']⟩

lemma contentLoop_walks (hsize : data.length < 0x80000000) :
    Walks data (contentLoop id₀ data) (contentStep id₀) some (· = some none) where
  stop offset s h := by rw [contentLoop, if_neg (Nat.not_lt.mpr h)]
  bad _ _ := contentLoop_bad
  note _ _ _ _ := contentLoop_note hsize

/-- After a build-id note there is no other. -/
lemma foldlM_contentStep_some {ns : List Note} {id : IdArray} {r : Option IdArray} :
    ns.foldlM (contentStep id₀) (some id) = some r ↔
      ns.filter (·.IsBuildId) = [] ∧ r = some id := by
  induction ns with
  | nil =>
      rw [List.foldlM_nil, List.filter_nil, Option.pure_def, Option.some.injEq, eq_comm]
      simp only [true_and]
  | cons n ns ih =>
      rw [List.foldlM_cons, Option.bind_eq_bind, contentStep]
      by_cases hid : n.IsBuildId
      · rw [if_pos hid, if_pos (.inl Option.isSome_some), Option.bind_none,
          List.filter_cons_of_pos (by simpa using hid)]
        simp
      · rw [if_neg hid, Option.bind_some, ih, List.filter_cons_of_neg (by simpa using hid)]

lemma foldlM_contentStep_none {ns : List Note} {r : Option IdArray} :
    ns.foldlM (contentStep id₀) none = some r ↔
      (ns.filter (·.IsBuildId) = [] ∧ r = none) ∨ ∃ n, ns.filter (·.IsBuildId) = [n] ∧
        1 ≤ n.desc.length ∧ n.desc.length ≤ 64 ∧ r = some (idOf id₀ n.desc) := by
  induction ns with
  | nil =>
      rw [List.foldlM_nil, List.filter_nil, Option.pure_def, Option.some.injEq, eq_comm]
      simp
  | cons n ns ih =>
      rw [List.foldlM_cons, Option.bind_eq_bind, contentStep]
      by_cases hid : n.IsBuildId
      · rw [if_pos hid, List.filter_cons_of_pos (by simpa using hid)]
        by_cases hrefused : (none : Option IdArray).isSome = true ∨ n.desc.length = 0 ∨
            64 < n.desc.length
        · rw [if_pos hrefused, Option.bind_none]
          refine ⟨fun hnone => absurd hnone (by simp), ?_⟩
          rintro (⟨hnil, -⟩ | ⟨m, hm, hlow, hhigh, -⟩)
          · exact absurd hnil (by simp)
          · obtain ⟨rfl, -⟩ := List.cons.inj hm
            rcases hrefused with hfound | hzero | hlong
            · exact absurd hfound (by simp)
            · omega
            · omega
        · rw [if_neg hrefused, Option.bind_some, foldlM_contentStep_some]
          rw [not_or, not_or] at hrefused
          obtain ⟨-, hzero, hlong⟩ := hrefused
          constructor
          · rintro ⟨hnil, rfl⟩
            exact .inr ⟨n, by rw [hnil], by omega, by omega, rfl⟩
          · rintro (⟨hnil, -⟩ | ⟨m, hm, -, -, rfl⟩)
            · exact absurd hnil (by simp)
            · obtain ⟨rfl, hnil⟩ := List.cons.inj hm
              exact ⟨hnil, rfl⟩
      · rw [if_neg hid, Option.bind_some, ih, List.filter_cons_of_neg (by simpa using hid)]

/-- A buffer that is a sequence of notes with one build-id note. -/
def OneBuildId (data : List UInt8) (n : Note) : Prop :=
  ∃ ns, Notes data ns ∧ ns.filter (·.IsBuildId) = [n]

lemma OneBuildId.unique {m : Note} (hsize : data.length < 0x80000000) (hm : OneBuildId data m)
    (hn : OneBuildId data n) : m = n := by
  obtain ⟨ms, hms, hm⟩ := hm
  obtain ⟨ns, hns, hn⟩ := hn
  obtain rfl := hms.unique hsize hns
  exact (List.cons.inj (hm.symm.trans hn)).1

/-- No access is out of bounds. -/
lemma hevcContentNote_total (hsize : data.length < 0x80000000) :
    ∃ r, hevcContentNote data id₀ = some r := by
  have hwalks := @contentLoop_walks _ id₀ hsize
  by_cases hns : ∃ ns, Notes data ns
  · obtain ⟨ns, hns⟩ := hns
    obtain ⟨hrefused, hdone⟩ := hwalks.of_notes 0 none hsize hns
    cases hfold : ns.foldlM (contentStep id₀) none with
    | none => exact ⟨_, hrefused hfold⟩
    | some r => exact ⟨_, hdone r hfold⟩
  · exact ⟨_, hwalks.of_not 0 none hsize (not_exists.mp hns)⟩

theorem hevcContentNote_iff {id : IdArray} (hsize : data.length < 0x80000000) :
    hevcContentNote data id₀ = some (some id) ↔
      ∃ n, OneBuildId data n ∧ 1 ≤ n.desc.length ∧ n.desc.length ≤ 64 ∧ id = idOf id₀ n.desc := by
  have hwalks := @contentLoop_walks _ id₀ hsize
  constructor
  · intro h
    by_cases hns : ∃ ns, Notes data ns
    · obtain ⟨ns, hns⟩ := hns
      obtain ⟨hrefused, hdone⟩ := hwalks.of_notes 0 none hsize hns
      cases hfold : ns.foldlM (contentStep id₀) none with
      | none => exact absurd ((hrefused hfold).symm.trans h) (by simp)
      | some r =>
          obtain rfl := Option.some.inj ((hdone r hfold).symm.trans h)
          rcases foldlM_contentStep_none.mp hfold with ⟨_, hnone⟩ | ⟨n, hn, hlow, hhigh, hid⟩
          · exact absurd hnone (by simp)
          · exact ⟨n, ⟨ns, hns, hn⟩, hlow, hhigh, Option.some.inj hid⟩
    · have hbad : hevcContentNote data id₀ = some none :=
        hwalks.of_not 0 none hsize (not_exists.mp hns)
      exact absurd (hbad.symm.trans h) (by simp)
  · rintro ⟨n, ⟨ns, hns, hn⟩, hlow, hhigh, rfl⟩
    exact (hwalks.of_notes 0 none hsize hns).2 _
      (foldlM_contentStep_none.mpr (.inr ⟨n, hn, hlow, hhigh, rfl⟩))

/-- The digits are followed by a zero. -/
lemma ofFn_idOf {desc : List UInt8} (h : desc.length ≤ 64) :
    ∃ rest, List.ofFn (idOf id₀ desc) = hexText desc ++ '\x00' :: rest := by
  have hlength : (hexText desc ++ ['\x00']).length = 2 * desc.length + 1 := by
    rw [List.length_append, length_hexText, List.length_singleton]
  refine ⟨(List.ofFn (idOf id₀ desc)).drop (2 * desc.length + 1), ?_⟩
  have htake : (List.ofFn (idOf id₀ desc)).take (2 * desc.length + 1) =
      hexText desc ++ ['\x00'] := by
    have hcount : ((List.ofFn (idOf id₀ desc)).take (2 * desc.length + 1)).length =
        (hexText desc ++ ['\x00']).length := by
      rw [List.length_take, List.length_ofFn, hlength]
      omega
    refine List.ext_getElem hcount fun i _ _ => ?_
    rw [List.getElem_take, List.getElem_ofFn, idOf, List.getElem_eq_getD]
  rw [List.append_cons, ← htake, List.take_append_drop]

lemma idText_idOf {desc : List UInt8} (h : desc.length ≤ 64) :
    idText (idOf id₀ desc) = hexText desc := by
  obtain ⟨rest, hrest⟩ := @ofFn_idOf id₀ _ h
  have hdigit : ∀ c ∈ hexText desc, decide (c ≠ '\x00') = true := by
    intro c hc
    obtain ⟨b, _, hb⟩ := List.mem_flatMap.mp hc
    rw [decide_eq_true_eq]
    rintro rfl
    exact absurd (isLowerHex_of_mem_hexDigits hb) (by decide)
  rw [idText, hrest, List.takeWhile_append_of_pos hdigit, List.takeWhile_cons_of_neg (by decide),
    List.append_nil]

end Content

/-! ### The parser of the preparation -/

/-- What `note_id` does with a note. -/
def idStep (found : List (List Char)) (n : Note) : Option (List (List Char)) :=
  if n.IsBuildId then
    if n.desc.length ∈ [16, 20, 32] then some (found ++ [hexText n.desc]) else none
  else some found

lemma noteLoop_walks {data : List UInt8} :
    Walks data (noteLoop data) idStep .ok fun r => ∀ ids, r ≠ .ok ids where
  stop offset s h := by rw [noteLoop, if_neg (Nat.not_lt.mpr h)]
  bad offset s hlt hhead := by
    have hlength : (data.drop offset).length = data.length - offset := List.length_drop
    rw [noteLoop, if_pos hlt]
    by_cases hshort : data.length < offset + 12
    · rw [if_pos hshort]
      exact fun ids => by simp
    · rw [headNote?, if_neg (by omega)] at hhead
      dsimp only at hhead ⊢
      simp only [List.drop_drop, List.length_drop] at hhead
      split_ifs at hhead with hbody
      rw [if_neg hshort, if_pos (by omega)]
      exact fun ids => by simp
  note offset s n rest hlt hhead := by
    have hlength : (data.drop offset).length = data.length - offset := List.length_drop
    rw [headNote?] at hhead
    split_ifs at hhead with hshort
    dsimp only at hhead
    simp only [List.drop_drop] at hhead
    rw [noteLoop, if_pos hlt, if_neg (by omega)]
    dsimp only
    generalize bytesNat ((data.drop offset).take 4) = n₀ at hhead ⊢
    generalize bytesNat ((data.drop (offset + 4)).take 4) = n₁ at hhead ⊢
    generalize bytesNat ((data.drop (offset + 8)).take 4) = kind at hhead ⊢
    split_ifs at hhead with hbody
    obtain ⟨rfl, rfl⟩ := Prod.mk.inj (Option.some.inj hhead)
    rw [List.length_drop] at hbody
    have hp₁ := le_padded n₁
    refine ⟨offset + 12 + padded n₀ + padded n₁, by omega, by rw [Nat.add_assoc], ?_⟩
    have hdesc : ((data.drop (offset + 12 + padded n₀)).take n₁).length = n₁ := by
      rw [List.length_take, List.length_drop]
      omega
    rw [if_neg (by omega), idStep]
    simp only [Note.IsBuildId, hdesc]
    by_cases hid : kind = 3 ∧ (data.drop (offset + 12)).take n₀ = gnu
    · rw [if_pos hid, if_pos hid]
      by_cases hextent : n₁ ∈ [16, 20, 32]
      · rw [if_pos hextent, if_pos hextent]
        exact ⟨fun hnone => absurd hnone (by simp), fun s' hs' => by rw [Option.some.inj hs']⟩
      · rw [if_neg hextent, if_neg hextent]
        exact ⟨fun _ ids => by simp, fun s' hs' => absurd hs' (by simp)⟩
    · rw [if_neg hid, if_neg hid]
      exact ⟨fun hnone => absurd hnone (by simp), fun s' hs' => by rw [Option.some.inj hs']⟩

lemma foldlM_idStep {ns : List Note} {found ids : List (List Char)} :
    ns.foldlM idStep found = some ids ↔
      (∀ n ∈ ns.filter (·.IsBuildId), n.desc.length ∈ [16, 20, 32]) ∧
        ids = found ++ (ns.filter (·.IsBuildId)).map fun n => hexText n.desc := by
  induction ns generalizing found with
  | nil =>
      rw [List.foldlM_nil, List.filter_nil, List.map_nil, List.append_nil, Option.pure_def,
        Option.some.injEq, eq_comm]
      simp
  | cons n ns ih =>
      rw [List.foldlM_cons, Option.bind_eq_bind, idStep]
      by_cases hid : n.IsBuildId
      · rw [if_pos hid, List.filter_cons_of_pos (by simpa using hid), List.forall_mem_cons,
          List.map_cons]
        by_cases hextent : n.desc.length ∈ [16, 20, 32]
        · rw [if_pos hextent, Option.bind_some, ih, List.append_assoc, List.singleton_append]
          simp only [hextent, true_and]
        · rw [if_neg hextent, Option.bind_none]
          simp only [hextent, false_and, reduceCtorEq]
      · rw [if_neg hid, Option.bind_some, ih, List.filter_cons_of_neg (by simpa using hid)]

theorem noteId_iff {data : List UInt8} {text : List Char} (hsize : data.length < 0x80000000) :
    noteId data = .ok text ↔
      ∃ n, OneBuildId data n ∧ n.desc.length ∈ [16, 20, 32] ∧ text = hexText n.desc := by
  have hloop : noteId data = .ok text ↔ noteLoop data 0 [] = .ok [text] := by
    rw [noteId]
    split
    · next id hid => rw [hid]; simp
    · next ids hne hids =>
        rw [hids]
        refine ⟨fun h => absurd h (by simp), fun h => ?_⟩
        obtain rfl := Except.ok.inj h
        exact absurd rfl (hne text)
    · next e he => rw [he]; simp
  rw [hloop]
  constructor
  · intro h
    by_cases hns : ∃ ns, Notes data ns
    · obtain ⟨ns, hns⟩ := hns
      obtain ⟨hrefused, hdone⟩ := noteLoop_walks.of_notes 0 [] hsize hns
      cases hfold : ns.foldlM idStep [] with
      | none => exact absurd h (hrefused hfold _)
      | some ids =>
          obtain rfl := Except.ok.inj ((hdone ids hfold).symm.trans h)
          obtain ⟨hextent, hids⟩ := foldlM_idStep.mp hfold
          rw [List.nil_append, eq_comm, List.map_eq_singleton_iff] at hids
          obtain ⟨n, hn, htext⟩ := hids
          rw [hn, List.forall_mem_singleton] at hextent
          exact ⟨n, ⟨ns, hns, hn⟩, hextent, htext.symm⟩
    · exact absurd h (noteLoop_walks.of_not 0 [] hsize (not_exists.mp hns) _)
  · rintro ⟨n, ⟨ns, hns, hn⟩, hextent, rfl⟩
    refine (noteLoop_walks.of_notes 0 [] hsize hns).2 _ (foldlM_idStep.mpr ?_)
    rw [hn, List.map_singleton, List.nil_append]
    exact ⟨fun m hm => by rwa [List.mem_singleton.mp hm], rfl⟩

/-! ### Both -/

/-- What `hevc_content_note` accepts and stores, and what `note_id` prepares for it. -/
theorem build_note_iff {data : List UInt8} {id₀ : IdArray} (hsize : data.length < 0x80000000) :
    (∃ r, hevcContentNote data id₀ = some r) ∧
      ((∃ id, hevcContentNote data id₀ = some (some id)) ↔
        ∃ n, OneBuildId data n ∧ 1 ≤ n.desc.length ∧ n.desc.length ≤ 64) ∧
      (∀ id n, hevcContentNote data id₀ = some (some id) → OneBuildId data n →
        ∃ rest, List.ofFn id = hexText n.desc ++ '\x00' :: rest) ∧
      ∀ text, noteId data = .ok text ↔
        ∃ id n, hevcContentNote data id₀ = some (some id) ∧ OneBuildId data n ∧
          n.desc.length ∈ [16, 20, 32] ∧ text = idText id := by
  have hbound : ∀ k ∈ [16, 20, 32], 1 ≤ k ∧ k ≤ 64 := by decide
  refine ⟨hevcContentNote_total hsize, ⟨?_, ?_⟩, fun id n h hn => ?_, fun text => ?_⟩
  · rintro ⟨id, h⟩
    obtain ⟨n, hn, hlow, hhigh, _⟩ := (hevcContentNote_iff hsize).mp h
    exact ⟨n, hn, hlow, hhigh⟩
  · rintro ⟨n, hn, hlow, hhigh⟩
    exact ⟨_, (hevcContentNote_iff hsize).mpr ⟨n, hn, hlow, hhigh, rfl⟩⟩
  · obtain ⟨m, hm, _, hhigh, rfl⟩ := (hevcContentNote_iff hsize).mp h
    obtain rfl := hm.unique hsize hn
    exact ofFn_idOf hhigh
  · rw [noteId_iff hsize]
    constructor
    · rintro ⟨n, hn, hextent, rfl⟩
      obtain ⟨hlow, hhigh⟩ := hbound _ hextent
      exact ⟨_, n, (hevcContentNote_iff hsize).mpr ⟨n, hn, hlow, hhigh, rfl⟩, hn, hextent,
        (idText_idOf hhigh).symm⟩
    · rintro ⟨id, n, h, hn, hextent, rfl⟩
      obtain ⟨m, hm, _, hhigh, rfl⟩ := (hevcContentNote_iff hsize).mp h
      obtain rfl := hm.unique hsize hn
      exact ⟨m, hm, hextent, idText_idOf hhigh⟩

/-- A build-id note of four bytes. -/
theorem build_note_iff_short :
    ∃ id, hevcContentNote [4, 0, 0, 0, 4, 0, 0, 0, 3, 0, 0, 0, 71, 78, 85, 0, 1, 0x23, 0x45, 0x67]
      (fun _ => '\x00') = some (some id) := by
  let n : Note := { name := gnu, desc := [1, 0x23, 0x45, 0x67], kind := 3 }
  have hn : n.Encodes [4, 0, 0, 0, 4, 0, 0, 0, 3, 0, 0, 0, 71, 78, 85, 0, 1, 0x23, 0x45, 0x67] :=
    ⟨by decide, [], [], by decide, by decide, by decide⟩
  exact (build_note_iff (by decide)).2.1.mpr
    ⟨n, ⟨[n], ⟨[_], .cons hn .nil, rfl⟩, rfl⟩, by decide, by decide⟩

end OmarchyM1Video.ReferenceContent.BuildNotes
