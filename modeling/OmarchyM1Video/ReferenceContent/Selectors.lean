import Mathlib.Data.List.TakeWhile
import OmarchyM1Video.Py.Text
import OmarchyM1Video.ReferenceContent.GstRunner
import OmarchyM1Video.ReferenceContent.VaCallsite

/-!
What the two parsers of selectors accept: `gst_hevc_runner_parse_frames` and
`vaapi_observer_parse_outputs`.

* `commas`, `Selects`: a list of decimal numbers between commas, the language of both;
* `Item`, `Loosely`: what `strtoull` takes of an item, white space and then a sign included;
* `parseFrames_iff`, `vaapiObserverParseOutputs_iff`: what the parsers accept;
* `selectors_iff`: where both accept the one language;
* `white_space_accepted`: a string outside of it that the second accepts.
-/

namespace OmarchyM1Video.ReferenceContent.Selectors

open OmarchyM1Video.Py (decimal intOf)

/-! ### Languages -/

/-- Words between commas. -/
def commas : List (List Char) → List Char
  | [] => []
  | [word] => word
  | word :: words => word ++ ',' :: commas words

/-- A list of one to eight nonempty strings of digits, with distinct values below a bound. -/
def Selects (bound : ℕ) (text : List Char) (words : List (List Char)) : Prop :=
  text = commas words ∧ words ≠ [] ∧ words.length ≤ 8 ∧
    (∀ word ∈ words, word ≠ [] ∧ (∀ c ∈ word, c.isDigit = true) ∧ intOf word < bound) ∧
      (words.map intOf).Nodup

/-- An item as `strtoull` reads it: white space, a sign (a minus, or else a plus), and digits. -/
structure Item where
  spaces : List Char
  sign : Option Bool
  word : List Char
  deriving DecidableEq, Repr

/-- The characters of a sign. -/
def signText : Option Bool → List Char
  | none => []
  | some true => ['-']
  | some false => ['+']

def Item.text (i : Item) : List Char := i.spaces ++ (signText i.sign ++ i.word)

def Item.value (i : Item) : UInt64 :=
  if i.sign = some true then 0 - UInt64.ofNat (intOf i.word) else UInt64.ofNat (intOf i.word)

/-- A sign stands after white space only, where the parser does not look for it. -/
def Item.Reads (i : Item) : Prop :=
  (∀ c ∈ i.spaces, Va.isSpace c = true) ∧ (i.sign ≠ none → i.spaces ≠ []) ∧ i.word ≠ [] ∧
    (∀ c ∈ i.word, c.isDigit = true) ∧ intOf i.word < UInt64.size

/-- A list of one to eight items with distinct values. -/
def Loosely (text : List Char) (items : List Item) : Prop :=
  text = commas (items.map Item.text) ∧ items ≠ [] ∧ items.length ≤ 8 ∧ (∀ i ∈ items, i.Reads) ∧
    (items.map Item.value).Nodup

section Words

variable {word : List Char} {words : List (List Char)} {text rest : List Char} {n bound : ℕ}

lemma commas_cons (word : List Char) {words : List (List Char)} (h : words ≠ []) :
    commas (word :: words) = word ++ ',' :: commas words := by
  cases words with
  | nil => exact absurd rfl h
  | cons word' words => rfl

lemma commas_ne_nil (hne : words ≠ []) (h : ∀ w ∈ words, w ≠ []) :
    commas words ≠ [] := by
  obtain ⟨w, words, rfl⟩ := List.exists_cons_of_ne_nil hne
  have hw := h w (List.mem_cons_self ..)
  cases words with
  | nil => exact hw
  | cons w' words => exact List.append_ne_nil_of_left_ne_nil hw _

lemma strsplit_ne_nil (text : List Char) : GstRunner.strsplit text ≠ [] := by
  induction text with
  | nil => exact List.cons_ne_nil _ _
  | cons c text ih =>
      rw [GstRunner.strsplit]
      split_ifs
      · exact List.cons_ne_nil _ _
      · split
        · exact List.cons_ne_nil _ _
        · exact List.cons_ne_nil _ _

/-- What is split is joined again. -/
lemma commas_strsplit (text : List Char) : commas (GstRunner.strsplit text) = text := by
  induction text with
  | nil => rfl
  | cons c text ih =>
      rw [GstRunner.strsplit]
      split_ifs with hc
      · rw [commas_cons _ (strsplit_ne_nil text), ih, hc]
        rfl
      · cases hsplit : GstRunner.strsplit text with
        | nil => exact absurd hsplit (strsplit_ne_nil text)
        | cons word words =>
            rw [hsplit] at ih
            dsimp only
            cases words with
            | nil => exact congrArg (List.cons c) ih
            | cons word' words => exact congrArg (List.cons c) ih

lemma strsplit_append (h : ',' ∉ word) (rest : List Char) :
    GstRunner.strsplit (word ++ ',' :: rest) = word :: GstRunner.strsplit rest := by
  induction word with
  | nil => rw [List.nil_append, GstRunner.strsplit, if_pos rfl]
  | cons c word ih =>
      rw [List.mem_cons, not_or] at h
      rw [List.cons_append, GstRunner.strsplit, if_neg (Ne.symm h.1), ih h.2]

lemma strsplit_word (h : ',' ∉ word) : GstRunner.strsplit word = [word] := by
  induction word with
  | nil => rfl
  | cons c word ih =>
      rw [List.mem_cons, not_or] at h
      rw [GstRunner.strsplit, if_neg (Ne.symm h.1), ih h.2]

/-- What is joined is split again. -/
lemma strsplit_commas (h : ∀ word ∈ words, ',' ∉ word) (hne : words ≠ []) :
    GstRunner.strsplit (commas words) = words := by
  induction words with
  | nil => exact absurd rfl hne
  | cons word words ih =>
      rw [List.forall_mem_cons] at h
      by_cases hwords : words = []
      · subst hwords
        exact strsplit_word h.1
      · rw [commas_cons _ hwords, strsplit_append h.1, ih h.2 hwords]

lemma notMem_of_digits (h : ∀ c ∈ word, c.isDigit = true) {c : Char} (hc : c.isDigit = false) :
    c ∉ word := fun hmem => by
  rw [h c hmem] at hc
  exact absurd hc (by decide)

/-- Both ways to read digits. -/
lemma strtoull_eq (word : List Char) : GstRunner.strtoull word = intOf word := by
  rw [GstRunner.strtoull, intOf, Nat.ofDigitChars]
  congr 1
  funext n c
  rw [Nat.mul_comm]

end Words

/-! ### The parser of the runner -/

section Frames

open OmarchyM1Video.ReferenceContent.GstRunner

variable {frames found : List UInt32} {values words : List (List Char)} {text : List Char}

/-- A value below the bound of both. -/
lemma ofNat_inj {a b : ℕ} (ha : a < 0xffffffff) (hb : b < 0xffffffff)
    (h : UInt32.ofNat a = UInt32.ofNat b) : a = b := by
  have heq := congrArg UInt32.toNat h
  rwa [UInt32.toNat_ofNat_of_lt' (ha.trans (by decide)),
    UInt32.toNat_ofNat_of_lt' (hb.trans (by decide))] at heq

/-- What the loop accepts. -/
lemma parseValues_iff (hframes : frames.Nodup) (hcount : frames.length ≤ 8) :
    parseValues frames values = (true, found) ↔
      (∀ v ∈ values, v ≠ [] ∧ (∀ c ∈ v, c.isDigit = true) ∧ intOf v < 0xffffffff) ∧
        frames.length + values.length ≤ 8 ∧ found.Nodup ∧
          found = frames ++ values.map fun v => UInt32.ofNat (intOf v) := by
  induction values generalizing frames with
  | nil =>
      rw [parseValues, Prod.mk.injEq, List.map_nil, List.append_nil, List.length_nil, Nat.add_zero]
      constructor
      · rintro ⟨-, rfl⟩
        exact ⟨fun v hv => absurd hv List.not_mem_nil, hcount, hframes, rfl⟩
      · rintro ⟨-, -, -, rfl⟩
        exact ⟨rfl, rfl⟩
  | cons v values ih =>
      have hshape : (v.all Char.isDigit = false ∨ v = []) ↔
          ¬(v ≠ [] ∧ ∀ c ∈ v, c.isDigit = true) := by
        rw [not_and_or, not_not, or_comm, ← Bool.not_eq_true, List.all_eq_true]
      rw [parseValues, strtoull_eq, List.forall_mem_cons, List.length_cons, List.map_cons,
        List.append_cons]
      by_cases hgood : v ≠ [] ∧ ∀ c ∈ v, c.isDigit = true
      · rw [if_neg (fun h => hshape.mp h hgood)]
        dsimp only
        by_cases hrange : 0xffffffff ≤ intOf v ∨ contentSlots ≤ frames.length
        · rw [if_pos hrange]
          refine ⟨fun h => absurd (congrArg Prod.fst h) (by simp), ?_⟩
          rintro ⟨⟨⟨_, _, hbound⟩, _⟩, hlength, _⟩
          cases hrange with
          | inl hle => omega
          | inr hle =>
              change 8 ≤ frames.length at hle
              omega
        · rw [if_neg hrange]
          rw [not_or, Nat.not_le, Nat.not_le] at hrange
          obtain ⟨hbound, hfree⟩ := hrange
          change frames.length < 8 at hfree
          by_cases hmem : UInt32.ofNat (intOf v) ∈ frames
          · rw [if_pos hmem]
            refine ⟨fun h => absurd (congrArg Prod.fst h) (by simp), ?_⟩
            rintro ⟨_, _, hnodup, rfl⟩
            have hdup := (List.nodup_append.mp hnodup).1
            exact absurd rfl ((List.nodup_append.mp hdup).2.2 _ hmem _ (List.mem_singleton_self _))
          · have hnodup : (frames ++ [UInt32.ofNat (intOf v)]).Nodup := by
              rw [List.nodup_append]
              refine ⟨hframes, List.nodup_singleton _, fun a ha b hb => ?_⟩
              rw [List.mem_singleton.mp hb]
              exact fun heq => hmem (heq ▸ ha)
            rw [if_neg hmem, ih hnodup (by rw [List.length_append, List.length_singleton]; omega),
              List.length_append, List.length_singleton, Nat.add_assoc, Nat.add_comm 1]
            exact and_congr_left fun _ => ⟨fun h => ⟨⟨hgood.1, hgood.2, hbound⟩, h⟩, fun h => h.2⟩
      · rw [if_pos (hshape.mpr hgood)]
        refine ⟨fun h => absurd (congrArg Prod.fst h) (by simp), ?_⟩
        rintro ⟨⟨⟨hne, hdigits, _⟩, _⟩, _⟩
        exact absurd ⟨hne, hdigits⟩ hgood

/-- What `gst_hevc_runner_parse_frames` accepts, and what it stores. -/
lemma parseFrames_iff {runner : Gst.Runner} (htext : runner.framesText = some text) :
    (parseFrames runner).1 = true ∧ (parseFrames runner).2.frames = found ↔
      ∃ words, Selects 0xffffffff text words ∧
        found = words.map fun w => UInt32.ofNat (intOf w) := by
  -- distinct values stay distinct in 32 bits
  have hnodup : ∀ {words : List (List Char)},
      (∀ w ∈ words, w ≠ [] ∧ (∀ c ∈ w, c.isDigit = true) ∧ intOf w < 0xffffffff) →
        ((words.map intOf).Nodup ↔ (words.map fun w => UInt32.ofNat (intOf w)).Nodup) := by
    intro words hwords
    rw [show (words.map fun w => UInt32.ofNat (intOf w)) = (words.map intOf).map UInt32.ofNat from
      (List.map_map (g := UInt32.ofNat) (f := intOf)).symm]
    refine ⟨fun h => h.map_on fun a ha b hb => ?_, List.Nodup.of_map _⟩
    obtain ⟨w, hw, rfl⟩ := List.mem_map.mp ha
    obtain ⟨w', hw', rfl⟩ := List.mem_map.mp hb
    exact ofNat_inj (hwords w hw).2.2 (hwords w' hw').2.2
  rw [parseFrames, htext]
  cases text with
  | nil =>
      refine ⟨fun h => absurd h.1 (by simp), ?_⟩
      rintro ⟨words, ⟨htext, hne, _, hwords, _⟩, _⟩
      obtain ⟨w, ws, rfl⟩ := List.exists_cons_of_ne_nil hne
      obtain ⟨c, cs, rfl⟩ := List.exists_cons_of_ne_nil (hwords w (List.mem_cons_self ..)).1
      cases ws with
      | nil => exact absurd htext (by simp [commas])
      | cons w' ws => exact absurd htext (by simp [commas])
  | cons c cs =>
      have hloop := fun found => @parseValues_iff [] found
        (GstRunner.strsplit (c :: cs)) List.nodup_nil (Nat.zero_le 8)
      simp only [List.nil_append, List.length_nil, Nat.zero_add] at hloop
      dsimp only
      constructor
      · rintro ⟨hok, rfl⟩
        rw [Bool.and_eq_true] at hok
        obtain ⟨hwords, hlength, hdistinct, hfound⟩ :=
          (hloop (parseValues [] (GstRunner.strsplit (c :: cs))).2).mp (Prod.ext hok.1 rfl)
        refine ⟨GstRunner.strsplit (c :: cs), ⟨(commas_strsplit _).symm, strsplit_ne_nil _, hlength,
          hwords, (hnodup hwords).mpr ?_⟩, hfound⟩
        rwa [← hfound]
      · rintro ⟨words, ⟨htext, hne, hlength, hwords, hdistinct⟩, rfl⟩
        have hsplit : GstRunner.strsplit (c :: cs) = words := by
          rw [htext]
          exact strsplit_commas (fun w hw => notMem_of_digits (hwords w hw).2.1 (by decide)) hne
        rw [hsplit] at hloop ⊢
        rw [(hloop _).mpr ⟨hwords, hlength, (hnodup hwords).mp hdistinct, rfl⟩]
        refine ⟨?_, rfl⟩
        obtain ⟨w, ws, rfl⟩ := List.exists_cons_of_ne_nil hne
        rfl

end Frames

/-! ### The parser of the call site -/

section Outputs

open OmarchyM1Video.ReferenceContent.Va

variable {outputs found : List UInt64} {free : ℕ} {p rest word : List Char} {v : UInt64} {i : Item}

/-- Digits are read up to what is not one. -/
lemma digits_append {value n : ℕ} (hword : ∀ c ∈ word, c.isDigit = true)
    (hrest : ∀ c ∈ rest.head?, c.isDigit = false) :
    digits value n (word ++ rest) = (Nat.ofDigitChars 10 word value, n + word.length, rest) := by
  induction word generalizing value n with
  | nil =>
      cases rest with
      | nil => rfl
      | cons c rest =>
          rw [List.nil_append, digits, hrest c rfl]
          rfl
  | cons c word ih =>
      rw [List.forall_mem_cons] at hword
      rw [List.cons_append, digits, if_pos hword.1, ih hword.2, List.length_cons,
        Nat.add_right_comm, Nat.add_assoc n]
      rfl

/-- What is read are the digits at the start. -/
lemma exists_digits (p : List Char) : ∃ word rest, p = word ++ rest ∧
    (∀ c ∈ word, c.isDigit = true) ∧ ∀ c ∈ rest.head?, c.isDigit = false := by
  refine ⟨p.takeWhile Char.isDigit, p.dropWhile Char.isDigit,
    List.takeWhile_append_dropWhile.symm, fun c hc => List.mem_takeWhile_imp hc, fun c hc => ?_⟩
  have hdrop := List.head?_dropWhile_not Char.isDigit p
  rw [hc] at hdrop
  simpa using hdrop

/-- White space, a sign and digits, each as far as it goes. -/
lemma strtoull_append {spaces : List Char} {sign : Option Bool}
    (hspaces : ∀ c ∈ spaces, isSpace c = true) (hword : ∀ c ∈ word, c.isDigit = true)
    (hrest : ∀ c ∈ rest.head?, c.isDigit = false)
    (hsign : sign = none → ∀ c ∈ (word ++ rest).head?, isSpace c = false ∧ c ≠ '-' ∧ c ≠ '+') :
    Va.strtoull (spaces ++ (signText sign ++ (word ++ rest))) =
      if word.length = 0 ∨ UInt64.size ≤ intOf word then none
      else some ((⟨spaces, sign, word⟩ : Item).value, rest) := by
  have hdigits := @digits_append rest word 0 0 hword hrest
  rw [Nat.zero_add] at hdigits
  have hdrop : (spaces ++ (signText sign ++ (word ++ rest))).dropWhile isSpace =
      signText sign ++ (word ++ rest) := by
    rw [List.dropWhile_append_of_pos hspaces]
    cases sign with
    | none =>
        cases hbody : word ++ rest with
        | nil => rfl
        | cons c cs =>
            rw [hbody] at hsign
            exact List.dropWhile_cons_of_neg (by rw [(hsign rfl c rfl).1]; exact Bool.false_ne_true)
    | some minus =>
        cases minus with
        | true => exact List.dropWhile_cons_of_neg (by decide)
        | false => exact List.dropWhile_cons_of_neg (by decide)
  rw [Va.strtoull, hdrop]
  cases sign with
  | none =>
      have hhead : ∀ c, c = '-' ∨ c = '+' → (word ++ rest).head? ≠ some c := by
        rintro c hc heq
        obtain ⟨_, hminus, hplus⟩ := hsign rfl c heq
        exact hc.elim hminus hplus
      have hminus := hhead '-' (.inl rfl)
      have hplus := hhead '+' (.inr rfl)
      simp only [signText, List.nil_append, hminus, hplus, or_false, if_false, hdigits, Item.value,
        reduceCtorEq]
      rfl
  | some minus =>
      cases minus with
      | true =>
          simp only [signText, List.cons_append, List.nil_append, List.head?_cons, true_or, if_true,
            List.tail_cons, hdigits, Item.value]
          rfl
      | false =>
          simp only [signText, List.cons_append, List.nil_append, List.head?_cons, List.tail_cons,
            hdigits, Item.value, Option.some.injEq, Bool.false_eq_true, if_false, or_true, if_true,
            show ('+' = '-') = False from by decide]
          rfl

/-- Every text is white space, a sign, digits and a rest. -/
lemma exists_parts (p : List Char) : ∃ spaces sign word rest,
    p = spaces ++ (signText sign ++ (word ++ rest)) ∧ (∀ c ∈ spaces, isSpace c = true) ∧
      (∀ c ∈ word, c.isDigit = true) ∧ (∀ c ∈ rest.head?, c.isDigit = false) ∧
        (sign = none → ∀ c ∈ (word ++ rest).head?, isSpace c = false ∧ c ≠ '-' ∧ c ≠ '+') := by
  have hbody : ∀ c ∈ (p.dropWhile isSpace).head?, isSpace c = false := fun c hc => by
    have hdrop := List.head?_dropWhile_not isSpace p
    rw [hc] at hdrop
    simpa using hdrop
  have hsplit : p = p.takeWhile isSpace ++ p.dropWhile isSpace :=
    List.takeWhile_append_dropWhile.symm
  have hspaces : ∀ c ∈ p.takeWhile isSpace, isSpace c = true := fun c hc =>
    List.mem_takeWhile_imp hc
  generalize p.dropWhile isSpace = body at hbody hsplit
  by_cases hsign : ∃ minus, ∃ tail, body = signText (some minus) ++ tail
  · obtain ⟨minus, tail, rfl⟩ := hsign
    obtain ⟨word, rest, rfl, hword, hrest⟩ := exists_digits tail
    exact ⟨_, some minus, word, rest, hsplit, hspaces, hword, hrest, fun h => absurd h (by simp)⟩
  · obtain ⟨word, rest, rfl, hword, hrest⟩ := exists_digits body
    refine ⟨_, none, word, rest, hsplit, hspaces, hword, hrest, fun _ c hc => ⟨hbody c hc, ?_, ?_⟩⟩
    · rintro rfl
      obtain ⟨tail, htail⟩ := List.head?_eq_some_iff.mp hc
      exact hsign ⟨true, tail, htail⟩
    · rintro rfl
      obtain ⟨tail, htail⟩ := List.head?_eq_some_iff.mp hc
      exact hsign ⟨false, tail, htail⟩

lemma digit_plain {c : Char} (h : c.isDigit = true) : isSpace c = false ∧ c ≠ '-' ∧ c ≠ '+' := by
  refine ⟨?_, ?_, ?_⟩
  · have hlow : 48 ≤ c.toNat := (Char.isDigit_iff_toNat.mp h).1
    rw [isSpace, Bool.or_eq_false_iff, decide_eq_false_iff_not, Bool.and_eq_false_iff,
      decide_eq_false_iff_not, decide_eq_false_iff_not]
    refine ⟨?_, .inr (by omega)⟩
    rintro rfl
    exact absurd h (by decide)
  · rintro rfl
    exact absurd h (by decide)
  · rintro rfl
    exact absurd h (by decide)

/-- An item is read from where no sign stands. -/
lemma strtoull_iff (hplus : p.head? ≠ some '+') (hminus : p.head? ≠ some '-') :
    Va.strtoull p = some (v, rest) ↔ ∃ i : Item, i.Reads ∧ p = i.text ++ rest ∧ v = i.value ∧
      ∀ c ∈ rest.head?, c.isDigit = false := by
  constructor
  · intro h
    obtain ⟨spaces, sign, word, rest', rfl, hspaces, hword, hrest, hsign⟩ := exists_parts p
    rw [strtoull_append hspaces hword hrest hsign] at h
    split_ifs at h with hbad
    obtain ⟨rfl, rfl⟩ := Prod.mk.inj (Option.some.inj h)
    rw [not_or, Nat.not_le] at hbad
    refine ⟨⟨spaces, sign, word⟩, ⟨hspaces, ?_, fun hnil => hbad.1 (congrArg List.length hnil),
      hword, hbad.2⟩, ?_, rfl, hrest⟩
    · rintro hsome rfl
      cases sign with
      | none => exact hsome rfl
      | some minus =>
          cases minus with
          | true => exact hminus rfl
          | false => exact hplus rfl
    · simp only [Item.text, List.append_assoc]
  · rintro ⟨i, ⟨hspaces, _, hne, hword, hbound⟩, rfl, rfl, hrest⟩
    have hread := @strtoull_append _ _ _ i.sign hspaces hword hrest fun _ c hc => by
      obtain ⟨d, ds, hd⟩ := List.exists_cons_of_ne_nil hne
      rw [hd] at hc hword
      obtain rfl : d = c := Option.some.inj hc
      exact digit_plain (hword d (List.mem_cons_self ..))
    rw [Item.text, List.append_assoc, List.append_assoc, hread, if_neg]
    rw [not_or, Nat.not_le]
    exact ⟨fun hzero => hne (List.length_eq_zero_iff.mp hzero), hbound⟩

lemma Item.text_ne_nil (h : i.Reads) : i.text ≠ [] := by
  rw [Item.text]
  exact List.append_ne_nil_of_right_ne_nil _ (List.append_ne_nil_of_right_ne_nil _ h.2.2.1)

/-- An item does not begin with a sign. -/
lemma Item.head_text (h : i.Reads) (rest : List Char) :
    (i.text ++ rest).head? ≠ some '+' ∧ (i.text ++ rest).head? ≠ some '-' := by
  obtain ⟨hspaces, hsign, hne, hword, _⟩ := h
  obtain ⟨spaces, sign, word⟩ := i
  cases spaces with
  | cons c cs =>
      have hc := hspaces c (List.mem_cons_self ..)
      refine ⟨fun heq => ?_, fun heq => ?_⟩
      · obtain rfl : c = '+' := Option.some.inj heq
        exact absurd hc (by decide)
      · obtain rfl : c = '-' := Option.some.inj heq
        exact absurd hc (by decide)
  | nil =>
      cases sign with
      | some minus => exact absurd rfl (hsign (by simp))
      | none =>
          obtain ⟨d, ds, rfl⟩ := List.exists_cons_of_ne_nil hne
          obtain ⟨_, hminus, hplus⟩ := digit_plain (hword d (List.mem_cons_self ..))
          exact ⟨fun heq => hplus (Option.some.inj heq), fun heq => hminus (Option.some.inj heq)⟩

/-- What the loop accepts. -/
lemma parseOutputs_iff (houtputs : outputs.Nodup) :
    parseOutputs free outputs p = some found ↔ ∃ items : List Item, items ≠ [] ∧
      p = commas (items.map Item.text) ∧ items.length ≤ free ∧ (∀ i ∈ items, i.Reads) ∧
        found.Nodup ∧ found = outputs ++ items.map Item.value := by
  induction free generalizing outputs p with
  | zero =>
      rw [parseOutputs]
      refine ⟨fun h => absurd h (by simp), ?_⟩
      rintro ⟨items, hne, _, hlength, _⟩
      exact absurd (List.length_eq_zero_iff.mp (Nat.le_zero.mp hlength)) hne
  | succ free ih =>
      have hnew : ∀ {v : UInt64}, v ∉ outputs → (outputs ++ [v]).Nodup := fun hv => by
        rw [List.nodup_append]
        refine ⟨houtputs, List.nodup_singleton _, fun a ha b hb => ?_⟩
        rw [List.mem_singleton.mp hb]
        exact fun heq => hv (heq ▸ ha)
      rw [parseOutputs]
      constructor
      · intro h
        split_ifs at h with hsign
        rw [not_or] at hsign
        cases hread : Va.strtoull p with
        | none =>
            rw [hread] at h
            exact absurd h (by simp)
        | some r =>
            obtain ⟨v, rest⟩ := r
            obtain ⟨i, hreads, rfl, rfl, _⟩ := (strtoull_iff hsign.1 hsign.2).mp hread
            rw [hread] at h
            dsimp only at h
            split_ifs at h with hmem
            cases rest with
            | nil =>
                obtain rfl := Option.some.inj h
                exact ⟨[i], List.cons_ne_nil _ _, List.append_nil _,
                  Nat.succ_le_succ (Nat.zero_le _), List.forall_mem_singleton.mpr hreads,
                  hnew hmem, rfl⟩
            | cons c p =>
                dsimp only at h
                split_ifs at h with hcomma
                rw [not_or, not_not] at hcomma
                obtain ⟨rfl, _⟩ := hcomma
                obtain ⟨items, hne, rfl, hlength, hall, hnodup, hfound⟩ := (ih (hnew hmem)).mp h
                refine ⟨i :: items, List.cons_ne_nil _ _, ?_, Nat.succ_le_succ hlength,
                  List.forall_mem_cons.mpr ⟨hreads, hall⟩, hnodup, ?_⟩
                · rw [List.map_cons, commas_cons _ (by simpa using hne)]
                · rw [hfound, List.append_assoc, List.singleton_append, List.map_cons]
      · rintro ⟨items, hne, rfl, hlength, hall, hnodup, rfl⟩
        obtain ⟨i, items, rfl⟩ := List.exists_cons_of_ne_nil hne
        rw [List.forall_mem_cons] at hall
        rw [List.map_cons, List.append_cons] at hnodup
        have hmem : i.value ∉ outputs := fun hmem =>
          (List.nodup_append.mp (List.nodup_append.mp hnodup).1).2.2 _ hmem _
            (List.mem_singleton_self _) rfl
        by_cases hitems : items = []
        · subst hitems
          have hhead := i.head_text hall.1 []
          have hread := (strtoull_iff hhead.1 hhead.2).mpr
            ⟨i, hall.1, rfl, rfl, fun c hc => absurd hc (by simp)⟩
          rw [List.append_nil] at hhead hread
          rw [List.map_singleton, commas, if_neg (not_or.mpr hhead), hread]
          dsimp only
          rw [if_neg hmem]
          rfl
        · have htexts : items.map Item.text ≠ [] := by simpa using hitems
          have hhead := i.head_text hall.1 (',' :: commas (items.map Item.text))
          have hread := (strtoull_iff hhead.1 hhead.2).mpr
            ⟨i, hall.1, rfl, rfl, fun c hc => by obtain rfl := Option.some.inj hc; rfl⟩
          have hmore : commas (items.map Item.text) ≠ [] := commas_ne_nil htexts fun w hw => by
            obtain ⟨j, hj, rfl⟩ := List.mem_map.mp hw
            exact j.text_ne_nil (hall.2 j hj)
          rw [List.map_cons, commas_cons _ htexts, if_neg (not_or.mpr hhead), hread]
          dsimp only
          rw [if_neg hmem, if_neg (by simpa using hmore)]
          refine (ih (hnew hmem)).mpr ⟨items, hitems, rfl, Nat.le_of_succ_le_succ hlength,
            hall.2, ?_, ?_⟩
          · rw [List.map_cons, List.append_cons]
            exact hnodup
          · rw [List.map_cons, List.append_cons]

/-- What `vaapi_observer_parse_outputs` accepts, and what it stores. -/
lemma vaapiObserverParseOutputs_iff : vaapiObserverParseOutputs p = some found ↔
    ∃ items, Loosely p items ∧ found = items.map Item.value := by
  rw [vaapiObserverParseOutputs]
  by_cases hp : p = []
  · subst hp
    rw [if_pos rfl]
    refine ⟨fun h => absurd h (by simp), ?_⟩
    rintro ⟨items, ⟨htext, hne, _, hall, _⟩, _⟩
    refine absurd htext.symm (commas_ne_nil (by simpa using hne) fun w hw => ?_)
    obtain ⟨i, hi, rfl⟩ := List.mem_map.mp hw
    exact i.text_ne_nil (hall i hi)
  · rw [if_neg hp, parseOutputs_iff List.nodup_nil]
    refine exists_congr fun items => ⟨?_, ?_⟩
    · rintro ⟨hne, htext, hlength, hall, hnodup, rfl⟩
      exact ⟨⟨htext, hne, hlength, hall, hnodup⟩, rfl⟩
    · rintro ⟨⟨htext, hne, hlength, hall, hnodup⟩, rfl⟩
      exact ⟨hne, htext, hlength, hall, hnodup, rfl⟩

end Outputs

/-! ### One language -/

section Language

open OmarchyM1Video.ReferenceContent.GstRunner (parseFrames)
open OmarchyM1Video.ReferenceContent.Va (vaapiObserverParseOutputs)

variable {text : List Char} {words : List (List Char)} {items : List Item} {c : Char}

/-- Both parsers accept a text as the list that it is, and nothing else. -/
def OneLanguage (text : List Char) : Prop :=
  (∀ (runner : Gst.Runner) frames, runner.framesText = some text →
    ((parseFrames runner).1 = true ∧ (parseFrames runner).2.frames = frames ↔
      ∃ words, Selects 0xffffffff text words ∧
        frames = words.map fun w => UInt32.ofNat (intOf w))) ∧
  ∀ outputs, vaapiObserverParseOutputs text = some outputs ↔
    ∃ words, Selects UInt64.size text words ∧ outputs = words.map fun w => UInt64.ofNat (intOf w)

lemma mem_commas : c ∈ commas words → c = ',' ∨ ∃ w ∈ words, c ∈ w := by
  induction words with
  | nil => exact fun h => absurd h List.not_mem_nil
  | cons w words ih =>
      cases words with
      | nil => exact fun h => .inr ⟨w, List.mem_cons_self .., h⟩
      | cons w' words =>
          intro h
          cases List.mem_append.mp h with
          | inl h => exact .inr ⟨w, List.mem_cons_self .., h⟩
          | inr h =>
              obtain rfl | h := List.mem_cons.mp h
              · exact .inl rfl
              · obtain heq | ⟨v, hv, hc⟩ := ih h
                · exact .inl heq
                · exact .inr ⟨v, List.mem_cons_of_mem _ hv, hc⟩

lemma mem_commas_of_mem {w : List Char} (hw : w ∈ words) (hc : c ∈ w) : c ∈ commas words := by
  induction words with
  | nil => exact absurd hw List.not_mem_nil
  | cons v words ih =>
      cases words with
      | nil =>
          obtain rfl := List.mem_singleton.mp hw
          exact hc
      | cons v' words =>
          obtain rfl | hw := List.mem_cons.mp hw
          · exact List.mem_append_left _ hc
          · exact List.mem_append_right _ (List.mem_cons_of_mem _ (ih hw))

/-- There is no white space in a list of numbers. -/
lemma Selects.not_space {bound : ℕ} (h : Selects bound text words) (hc : c ∈ text) :
    Va.isSpace c = false := by
  obtain ⟨rfl, _, _, hwords, _⟩ := h
  obtain rfl | ⟨w, hw, hcw⟩ := mem_commas hc
  · rfl
  · exact (digit_plain ((hwords w hw).2.1 c hcw)).1

lemma nodup_ofNat (h : ∀ w ∈ words, intOf w < UInt64.size) :
    (words.map intOf).Nodup ↔ (words.map fun w => UInt64.ofNat (intOf w)).Nodup := by
  rw [show (words.map fun w => UInt64.ofNat (intOf w)) = (words.map intOf).map UInt64.ofNat from
    (List.map_map (g := UInt64.ofNat) (f := intOf)).symm]
  refine ⟨fun hnodup => hnodup.map_on fun a ha b hb heq => ?_, List.Nodup.of_map _⟩
  obtain ⟨w, hw, rfl⟩ := List.mem_map.mp ha
  obtain ⟨w', hw', rfl⟩ := List.mem_map.mp hb
  have hnat := congrArg UInt64.toNat heq
  rwa [UInt64.toNat_ofNat_of_lt' (h w hw), UInt64.toNat_ofNat_of_lt' (h w' hw')] at hnat

/-- A list of numbers is a list of items without white space, and the other way round. -/
lemma selects_iff {outputs : List UInt64} :
    (∃ words, Selects UInt64.size text words ∧
        outputs = words.map fun w => UInt64.ofNat (intOf w)) ↔
      ∃ items, Loosely text items ∧ (∀ i ∈ items, i.spaces = []) ∧
        outputs = items.map Item.value := by
  constructor
  · rintro ⟨words, ⟨htext, hne, hlength, hwords, hnodup⟩, rfl⟩
    have hvalues : (words.map fun w => (⟨[], none, w⟩ : Item)).map Item.value =
        words.map fun w => UInt64.ofNat (intOf w) := by
      rw [List.map_map]
      rfl
    refine ⟨words.map fun w => ⟨[], none, w⟩, ⟨?_, by simpa using hne, ?_, ?_, ?_⟩, ?_,
      hvalues.symm⟩
    · rw [htext, List.map_map]
      exact congrArg commas (List.map_id words).symm
    · rwa [List.length_map]
    · intro i hi
      obtain ⟨w, hw, rfl⟩ := List.mem_map.mp hi
      exact ⟨fun c hc => absurd hc List.not_mem_nil, fun h => absurd rfl h, hwords w hw⟩
    · rw [hvalues]
      exact (nodup_ofNat fun w hw => (hwords w hw).2.2).mp hnodup
    · intro i hi
      obtain ⟨w, _, rfl⟩ := List.mem_map.mp hi
      rfl
  · rintro ⟨items, ⟨htext, hne, hlength, hall, hnodup⟩, hplain, rfl⟩
    have hsign : ∀ i ∈ items, i.sign = none := fun i hi => by
      by_contra h
      exact (hall i hi).2.1 h (hplain i hi)
    have hvalues : items.map Item.value =
        (items.map Item.word).map fun w => UInt64.ofNat (intOf w) := by
      rw [List.map_map]
      refine List.map_congr_left fun i hi => ?_
      rw [Item.value, hsign i hi]
      rfl
    have hwords : ∀ w ∈ items.map Item.word,
        w ≠ [] ∧ (∀ c ∈ w, c.isDigit = true) ∧ intOf w < UInt64.size := by
      intro w hw
      obtain ⟨i, hi, rfl⟩ := List.mem_map.mp hw
      exact (hall i hi).2.2
    refine ⟨items.map Item.word, ⟨?_, by simpa using hne, ?_, hwords, ?_⟩, hvalues⟩
    · rw [htext]
      refine congrArg commas (List.map_congr_left fun i hi => ?_)
      rw [Item.text, hplain i hi, hsign i hi]
      rfl
    · rwa [List.length_map]
    · rw [hvalues] at hnodup
      exact (nodup_ofNat fun w hw => (hwords w hw).2.2).mpr hnodup

/-- The second parser accepts white space before an item, and then a sign; for every text of which
it does not accept an item in that way, both have the one language. Both undo the joining of decimal
numbers. -/
theorem selectors_iff (text : List Char) :
    (OneLanguage text ↔ ¬∃ items, Loosely text items ∧ ∃ i ∈ items, i.spaces ≠ []) ∧
    ∀ selectors : List ℕ, selectors ≠ [] → selectors.length ≤ 8 → selectors.Nodup →
      ((∀ n ∈ selectors, n < 0xffffffff) → ∀ runner : Gst.Runner,
        runner.framesText = some (commas (selectors.map decimal)) →
          (parseFrames runner).1 = true ∧
            (parseFrames runner).2.frames = selectors.map UInt32.ofNat) ∧
      ((∀ n ∈ selectors, n < UInt64.size) →
        vaapiObserverParseOutputs (commas (selectors.map decimal)) =
          some (selectors.map UInt64.ofNat)) := by
  have hback : ∀ {β : Type} (f : ℕ → β) (selectors : List ℕ),
      (selectors.map decimal).map (fun w => f (intOf w)) = selectors.map f := by
    intro β f selectors
    rw [List.map_map]
    exact List.map_congr_left fun n _ => congrArg f (Py.intOf_decimal n)
  have hselects : ∀ {selectors : List ℕ} {bound : ℕ}, selectors ≠ [] → selectors.length ≤ 8 →
      selectors.Nodup → (∀ n ∈ selectors, n < bound) →
        Selects bound (commas (selectors.map decimal)) (selectors.map decimal) := by
    intro selectors bound hne hlength hnodup hbound
    refine ⟨rfl, by simpa using hne, by rwa [List.length_map], fun w hw => ?_, ?_⟩
    · obtain ⟨n, hn, rfl⟩ := List.mem_map.mp hw
      refine ⟨Py.decimal_ne_nil n, fun c hc => Py.isDigit_of_mem_decimal hc, ?_⟩
      rw [Py.intOf_decimal]
      exact hbound n hn
    · have hsame : (selectors.map decimal).map intOf = selectors :=
        (hback id selectors).trans (List.map_id _)
      rwa [hsame]
  refine ⟨⟨?_, fun hplain => ?_⟩, fun selectors hne hlength hnodup => ⟨?_, ?_⟩⟩
  · rintro hone ⟨items, hloose, i, hi, hspaces⟩
    obtain ⟨words, hwords, _⟩ :=
      (hone.2 _).mp (vaapiObserverParseOutputs_iff.mpr ⟨items, hloose, rfl⟩)
    obtain ⟨c, cs, hcons⟩ := List.exists_cons_of_ne_nil hspaces
    have hc : c ∈ i.spaces := hcons ▸ List.mem_cons_self ..
    have hmem : c ∈ text := by
      rw [hloose.1]
      exact mem_commas_of_mem (List.mem_map_of_mem hi) (List.mem_append_left _ hc)
    have hspace := (hloose.2.2.2.1 i hi).1 c hc
    rw [hwords.not_space hmem] at hspace
    exact absurd hspace (by decide)
  · refine ⟨fun runner frames htext => parseFrames_iff htext, fun outputs => ?_⟩
    rw [vaapiObserverParseOutputs_iff, selects_iff]
    refine exists_congr fun items => and_congr_right fun hloose => ?_
    refine ⟨fun h => ⟨fun i hi => ?_, h⟩, fun h => h.2⟩
    by_contra hspaces
    exact hplain ⟨items, hloose, i, hi, hspaces⟩
  · intro hbound runner htext
    refine (parseFrames_iff htext).mpr ⟨_, hselects hne hlength hnodup hbound, ?_⟩
    exact (hback UInt32.ofNat selectors).symm
  · intro hbound
    obtain ⟨items, hloose, _, hvalues⟩ :=
      selects_iff.mp ⟨_, hselects hne hlength hnodup hbound, rfl⟩
    refine vaapiObserverParseOutputs_iff.mpr ⟨items, hloose, ?_⟩
    rw [← hvalues, hback UInt64.ofNat selectors]

/-- Two selectors. -/
theorem selectors_iff_two :
    vaapiObserverParseOutputs (commas ([0, 7].map decimal)) = some ([0, 7].map UInt64.ofNat) :=
  ((selectors_iff ['5']).2 [0, 7] (by decide) (by decide) (by decide)).2 (by decide)

/-- A space before a number, and a space with a minus. -/
theorem white_space_accepted : ¬OneLanguage [' ', '5'] ∧
    vaapiObserverParseOutputs [' ', '-', '5'] = some [0 - 5] := by
  refine ⟨fun h => ?_, by decide⟩
  obtain ⟨words, hwords, _⟩ := (h.2 [5]).mp (by decide)
  exact absurd (hwords.not_space (c := ' ') (List.mem_cons_self ..)) (by decide)

end Language

end OmarchyM1Video.ReferenceContent.Selectors
