import OmarchyM1Video.Py.Json
import OmarchyM1Video.Py.Text

/-!
`json.loads` on a text, and texts that it reads back.

A text is the list of its characters.  The scanner follows the one of the `json` module, with its two
hooks, `object_pairs_hook` and `parse_constant`.  Lean has no string with an unpaired surrogate: a
text that escapes one is refused.

* `utf8`, `decodeUtf8`: `text.encode("utf-8")` and `data.decode("utf-8")`;
* `hexDigits`, `hexValue`: a number in so many hexadecimal digits, and `int(text, 16)`;
* `scanOnce`, `loads`: the scanner;
* `Reads`: a text without blanks that spells a value, and `reads_nat`, `reads_str`, `reads_arr`,
  `reads_obj`: how such texts are put together;
* `loads_reads`: what is spelt is read back.
-/

namespace OmarchyM1Video.Py

/-! ### Bytes -/

/-- `text.encode("utf-8")`. -/
def utf8 (text : List Char) : List UInt8 := text.flatMap String.utf8EncodeChar

/-- `data.decode("utf-8")`; none is `UnicodeDecodeError`. -/
def decodeUtf8 (data : List UInt8) : Option (List Char) := data.toByteArray.utf8Decode?.map Array.toList

lemma decodeUtf8_utf8 (text : List Char) : decodeUtf8 (utf8 text) = some text := by
  have h : (utf8 text).toByteArray.utf8Decode? = some text.toArray := List.utf8Decode?_utf8Encode
  rw [decodeUtf8, h, Option.map_some]

lemma utf8_ascii {text : List Char} (h : ∀ c ∈ text, c.toNat < 128) :
    utf8 text = text.map fun c => c.val.toUInt8 := by
  induction text with
  | nil => rfl
  | cons c text ih =>
      obtain ⟨hc, hrest⟩ := List.forall_mem_cons.mp h
      have hrest' := ih hrest
      rw [utf8] at hrest' ⊢
      rw [List.flatMap_cons, hrest', String.utf8EncodeChar_eq_singleton (utf8Size_of_lt hc)]
      rfl

/-! ### Hexadecimal digits -/

/-- So many hexadecimal digits of a number, as `%0wx` prints them. -/
def hexDigits : ℕ → ℕ → List Char
  | 0, _ => []
  | w + 1, n => hexDigits w (n / 16) ++ [Nat.digitChar (n % 16)]

/-- `char in "0123456789abcdef"`. -/
def isLowerHex (c : Char) : Bool := c.isDigit || (97 ≤ c.toNat && c.toNat ≤ 102)

/-- The value of a lower-case hexadecimal digit. -/
def hexDigitValue (c : Char) : ℕ := if c.isDigit then c.toNat - 48 else c.toNat - 87

/-- `int(text, 16)` of lower-case hexadecimal digits. -/
def hexValue (text : List Char) : ℕ := text.foldl (fun value c => 16 * value + hexDigitValue c) 0

section Hex

variable {w n : ℕ} {c : Char}

@[simp] lemma length_hexDigits (w n : ℕ) : (hexDigits w n).length = w := by
  induction w generalizing n with
  | zero => rfl
  | succ w ih => rw [hexDigits, List.length_append, ih, List.length_singleton]

lemma isLowerHex_digitChar : ∀ d < 16, isLowerHex d.digitChar = true ∧ hexDigitValue d.digitChar = d := by
  decide

lemma isLowerHex_of_mem_hexDigits (h : c ∈ hexDigits w n) : isLowerHex c = true := by
  induction w generalizing n with
  | zero => exact absurd h List.not_mem_nil
  | succ w ih =>
      rcases List.mem_append.mp h with h | h
      · exact ih h
      · rw [List.mem_singleton.mp h]
        exact (isLowerHex_digitChar _ (Nat.mod_lt n (by decide))).1

/-- **A number is read back** from its hexadecimal digits. -/
theorem hexValue_hexDigits (w n : ℕ) : hexValue (hexDigits w n) = n % 16 ^ w := by
  induction w generalizing n with
  | zero => rw [Nat.pow_zero, Nat.mod_one, hexDigits, hexValue, List.foldl_nil]
  | succ w ih =>
      have hlast := (isLowerHex_digitChar _ (Nat.mod_lt n (by decide))).2
      have hfold : hexValue (hexDigits (w + 1) n) =
          16 * hexValue (hexDigits w (n / 16)) + hexDigitValue (n % 16).digitChar := by
        rw [hexDigits, hexValue, List.foldl_append]
        rfl
      rw [hfold, ih, hlast, Nat.pow_succ, Nat.mul_comm (16 ^ w) 16, Nat.mod_mul]
      omega

end Hex

/-! ### Floats -/

/-- The float nearest to `n / d`, with ties to the even one. -/
def roundFloat (negative : Bool) (n d : ℕ) : PyFloat :=
  if n = 0 then .finite 0
  else
    let k : ℤ := (n.log2 : ℤ) - d.log2
    let reaches := if 0 ≤ k then d <<< k.toNat ≤ n else d ≤ n <<< (-k).toNat
    let log := if reaches then k else k - 1
    -- the exponent of the last place; below it lie the subnormal floats
    let e := max (log - 52) (-1074)
    let num := n <<< (-e).toNat
    let den := d <<< e.toNat
    let low := num / den
    let rest := num % den
    let mantissa := if 2 * rest < den ∨ 2 * rest = den ∧ low % 2 = 0 then low else low + 1
    if 1 <<< 1024 ≤ mantissa <<< e.toNat then .infinite negative
    else .finite (mkRat (if negative then -(mantissa <<< e.toNat : ℕ) else (mantissa <<< e.toNat : ℕ))
      (1 <<< (-e).toNat))

/-! ### The scanner -/

/-- What `json.loads` raises. -/
inductive LoadError (ε : Type) where
  /-- `JSONDecodeError`. -/
  | decode
  /-- `ValueError`: an integer of more than 4300 digits. -/
  | digits
  /-- The exception of a hook. -/
  | raised (e : ε)
  deriving DecidableEq

/-- `object_pairs_hook` and `parse_constant`. -/
structure Hooks (ε : Type) where
  object : List (String × Json) → Except ε Json
  constant : PyFloat → Except ε Json

/-- The blanks of JSON. -/
def isBlank (c : Char) : Bool := c = ' ' || c = '\t' || c = '\n' || c = '\r'

/-- The text after its blanks. -/
def skip (text : List Char) : List Char := text.dropWhile isBlank

/-- The value of a hexadecimal digit of either case. -/
def hexDigit? (c : Char) : Option ℕ :=
  if isLowerHex c then some (hexDigitValue c)
  else if 65 ≤ c.toNat ∧ c.toNat ≤ 70 then some (c.toNat - 55) else none

/-- The four digits of an escape. -/
def hex4 (a b c d : Char) : Option ℕ :=
  match hexDigit? a, hexDigit? b, hexDigit? c, hexDigit? d with
  | some a, some b, some c, some d => some (((a * 16 + b) * 16 + c) * 16 + d)
  | _, _, _, _ => none

/-- The character of a backslash and a letter. -/
def unescape (c : Char) : Option Char :=
  if c = '"' ∨ c = '\\' ∨ c = '/' then some c
  else if c = 'b' then some '\x08'
  else if c = 'f' then some '\x0c'
  else if c = 'n' then some '\n'
  else if c = 'r' then some '\r'
  else if c = 't' then some '\t'
  else none

/-- A code unit of an escape, and what comes after it. -/
def unit (text : List Char) : Option (ℕ × List Char) :=
  match text with
  | h₃ :: h₂ :: h₁ :: h₀ :: rest => (hex4 h₃ h₂ h₁ h₀).map fun n => (n, rest)
  | _ => none

/-- The character of an escape after its backslash, and what comes after it. -/
def escape (text : List Char) : Option (Char × List Char) :=
  if text.head? = some 'u' then
    match unit text.tail with
    | none => none
    | some (high, rest) =>
        if 0xD800 ≤ high ∧ high < 0xDC00 then
          -- a high surrogate and the low one that has to come after it
          if rest.head? = some '\\' ∧ rest.tail.head? = some 'u' then
            match unit rest.tail.tail with
            | none => none
            | some (low, rest) =>
                if 0xDC00 ≤ low ∧ low < 0xE000 then
                  some (.ofNat (0x10000 + (high - 0xD800) * 0x400 + (low - 0xDC00)), rest)
                else none
          else none
        else if 0xDC00 ≤ high ∧ high < 0xE000 then none
        else some (.ofNat high, rest)
  else
    match text with
    | [] => none
    | c :: rest => (unescape c).map fun c => (c, rest)

/-- The characters of a string up to the closing quote, and what comes after it. -/
def scanString : ℕ → List Char → Option (List Char × List Char)
  | 0, _ => none
  | _, [] => none
  | fuel + 1, c :: cs =>
      if c = '"' then some ([], cs)
      else if c = '\\' then
        match escape cs with
        | none => none
        | some (c, cs) => (scanString fuel cs).map fun (s, rest) => (c :: s, rest)
      else if c.toNat < 32 then none
      else (scanString fuel cs).map fun (s, rest) => (c :: s, rest)

/-- A string after its opening quote. -/
def scanQuoted (text : List Char) : Option (List Char × List Char) := scanString text.length text

/-- The text after a word that it starts with. -/
def after (word text : List Char) : Option (List Char) :=
  if word.isPrefixOf text then some (text.drop word.length) else none

/-- The digits after the point, if there are any. -/
def fraction (text : List Char) : List Char :=
  if text.head? = some '.' then text.tail.takeWhile Char.isDigit else []

/-- The sign and the digits of an exponent, if there are any. -/
def exponent (text : List Char) : List Char × List Char :=
  if text.head? = some 'e' ∨ text.head? = some 'E' then
    let sign := text.tail.takeWhile fun c => c = '+' || c = '-'
    if 1 < sign.length then ([], []) else (sign, (text.tail.drop sign.length).takeWhile Char.isDigit)
  else ([], [])

/-- `float(text)` of a literal by its parts. -/
def floatOf (negative : Bool) (whole frac sign exp : List Char) : PyFloat :=
  let n := intOf (whole ++ frac)
  let e : ℤ := (if sign = ['-'] then -(intOf exp : ℤ) else intOf exp) - frac.length
  roundFloat negative (n * Nat.pow 10 e.toNat) (Nat.pow 10 (-e).toNat)

/-- A number, if the text starts with one. -/
def scanNumber {ε : Type} (text : List Char) : Except (LoadError ε) (Json × List Char) :=
  let negative := decide (text.head? = some '-')
  let body := if negative then text.tail else text
  let whole := if body.head? = some '0' then ['0'] else body.takeWhile Char.isDigit
  if whole = [] then .error .decode
  else
    let rest := body.drop whole.length
    let frac := fraction rest
    let rest := if frac = [] then rest else rest.drop (frac.length + 1)
    let (sign, exp) := exponent rest
    let rest := if exp = [] then rest else rest.drop (sign.length + exp.length + 1)
    if frac = [] ∧ exp = [] then
      if 4300 < whole.length then .error .digits
      else .ok (.int (if negative then -(intOf whole : ℤ) else intOf whole), rest)
    else .ok (.float (floatOf negative whole frac sign exp), rest)

section Scanner

variable {ε : Type} (hooks : Hooks ε)

/-- What a hook returns or raises. -/
def hooked (x : Except ε Json) (rest : List Char) : Except (LoadError ε) (Json × List Char) :=
  match x with
  | .ok j => .ok (j, rest)
  | .error e => .error (.raised e)

/-- A literal or a number. -/
def scanScalar (text : List Char) : Except (LoadError ε) (Json × List Char) :=
  match after ['n', 'u', 'l', 'l'] text with
  | some rest => .ok (.null, rest)
  | none =>
    match after ['t', 'r', 'u', 'e'] text with
    | some rest => .ok (.bool true, rest)
    | none =>
      match after ['f', 'a', 'l', 's', 'e'] text with
      | some rest => .ok (.bool false, rest)
      | none =>
        match after ['N', 'a', 'N'] text with
        | some rest => hooked (hooks.constant .nan) rest
        | none =>
          match after ['I', 'n', 'f', 'i', 'n', 'i', 't', 'y'] text with
          | some rest => hooked (hooks.constant (.infinite false)) rest
          | none =>
            match after ['-', 'I', 'n', 'f', 'i', 'n', 'i', 't', 'y'] text with
            | some rest => hooked (hooks.constant (.infinite true)) rest
            | none => scanNumber text

mutual

/-- `scan_once`: the value that the text starts with, and what comes after it. -/
def scanOnce : ℕ → List Char → Except (LoadError ε) (Json × List Char)
  | 0, _ => .error .decode
  | fuel + 1, text =>
      if text.head? = some '"' then
        match scanQuoted text.tail with
        | some (s, rest) => .ok (.str (String.ofList s), rest)
        | none => .error .decode
      else if text.head? = some '{' then
        if (skip text.tail).head? = some '}' then hooked (hooks.object []) (skip text.tail).tail
        else scanMembers fuel [] (skip text.tail)
      else if text.head? = some '[' then
        if (skip text.tail).head? = some ']' then .ok (.arr [], (skip text.tail).tail)
        else scanElements fuel [] (skip text.tail)
      else scanScalar hooks text

/-- The members of an object from one on, and what comes after the object. -/
def scanMembers : ℕ → List (String × Json) → List Char → Except (LoadError ε) (Json × List Char)
  | 0, _, _ => .error .decode
  | fuel + 1, members, text =>
      if text.head? = some '"' then
        match scanQuoted text.tail with
        | none => .error .decode
        | some (name, rest) =>
            if (skip rest).head? = some ':' then
              match scanOnce fuel (skip (skip rest).tail) with
              | .error e => .error e
              | .ok (value, rest) =>
                  if (skip rest).head? = some '}' then
                    hooked (hooks.object (members ++ [(String.ofList name, value)])) (skip rest).tail
                  else if (skip rest).head? = some ',' then
                    scanMembers fuel (members ++ [(String.ofList name, value)]) (skip (skip rest).tail)
                  else .error .decode
            else .error .decode
      else .error .decode

/-- The elements of an array from one on, and what comes after the array. -/
def scanElements : ℕ → List Json → List Char → Except (LoadError ε) (Json × List Char)
  | 0, _, _ => .error .decode
  | fuel + 1, elements, text =>
      match scanOnce fuel text with
      | .error e => .error e
      | .ok (value, rest) =>
          if (skip rest).head? = some ']' then .ok (.arr (elements ++ [value]), (skip rest).tail)
          else if (skip rest).head? = some ',' then
            scanElements fuel (elements ++ [value]) (skip (skip rest).tail)
          else .error .decode

end

/-- `json.loads(text, object_pairs_hook=…, parse_constant=…)`.  Two calls of the scanner at most lie
between two characters. -/
def loads (text : List Char) : Except (LoadError ε) Json :=
  if text.head? = some '\uFEFF' then .error .decode
  else
    match scanOnce hooks (2 * text.length + 2) (skip text) with
    | .error e => .error e
    | .ok (value, rest) => if skip rest = [] then .ok value else .error .decode

end Scanner

/-! ### Texts that spell a value -/

/-- A character that stands for itself in a string. -/
def Literal (c : Char) : Prop := c ≠ '"' ∧ c ≠ '\\' ∧ 32 ≤ c.toNat

instance (c : Char) : Decidable (Literal c) := inferInstanceAs (Decidable (_ ∧ _))

/-- What may come after a value. -/
def Follows (rest : List Char) : Prop :=
  ∀ c, rest.head? = some c → c = ',' ∨ c = ']' ∨ c = '}' ∨ c = '\n'

/-- Texts with a comma between each two of them. -/
def joined : List (List Char) → List Char
  | [] => []
  | [t] => t
  | t :: u :: ts => t ++ ',' :: joined (u :: ts)

/-- A string and its quotes. -/
def quoted (s : List Char) : List Char := '"' :: (s ++ ['"'])

/-- A member of an object. -/
def memberText (name text : List Char) : List Char := quoted name ++ ':' :: text

section Reads

variable {ε : Type}

/-- The text spells the value: it is read as the value wherever it stands. -/
structure Reads (hooks : Hooks ε) (text : List Char) (value : Json) : Prop where
  head : ∃ c cs, text = c :: cs ∧ isBlank c = false ∧ c ≠ ']' ∧ c ≠ '\uFEFF'
  scan : ∀ fuel rest, 2 * text.length ≤ fuel → Follows rest →
    scanOnce hooks fuel (text ++ rest) = .ok (value, rest)

variable {hooks : Hooks ε} {text name rest : List Char} {value : Json}

lemma skip_cons {c : Char} {cs : List Char} (h : isBlank c = false) : skip (c :: cs) = c :: cs := by
  rw [skip, List.dropWhile_cons_of_neg (Bool.eq_false_iff.mp h)]

lemma Reads.skip (h : Reads hooks text value) : skip (text ++ rest) = text ++ rest := by
  obtain ⟨c, cs, rfl, hblank, -⟩ := h.head
  exact skip_cons hblank

lemma Reads.length_pos (h : Reads hooks text value) : 0 < text.length := by
  obtain ⟨c, cs, rfl, -⟩ := h.head
  exact Nat.succ_pos _

lemma scanString_literal {s : List Char} (h : ∀ c ∈ s, Literal c) {fuel : ℕ}
    (hfuel : s.length < fuel) : scanString fuel (s ++ '"' :: rest) = some (s, rest) := by
  induction s generalizing fuel with
  | nil =>
      obtain ⟨fuel, rfl⟩ := Nat.exists_eq_succ_of_ne_zero (Nat.ne_of_gt hfuel)
      rw [List.nil_append, scanString, if_pos rfl]
  | cons c s ih =>
      obtain ⟨hquote, hbackslash, hplain⟩ := h c List.mem_cons_self
      obtain ⟨fuel, rfl⟩ := Nat.exists_eq_succ_of_ne_zero (Nat.ne_zero_of_lt hfuel)
      rw [List.cons_append, scanString, if_neg hquote, if_neg hbackslash,
        if_neg (Nat.not_lt.mpr hplain),
        ih (fun c hc => h c (List.mem_cons_of_mem _ hc)) (Nat.lt_of_succ_lt_succ hfuel)]
      rfl

lemma scanQuoted_literal {s : List Char} (h : ∀ c ∈ s, Literal c) :
    scanQuoted (s ++ '"' :: rest) = some (s, rest) := by
  refine scanString_literal h ?_
  rw [List.length_append, List.length_cons]
  omega

lemma quoted_append (s rest : List Char) : quoted s ++ rest = '"' :: (s ++ '"' :: rest) := by
  rw [quoted, List.cons_append, List.append_assoc]
  rfl

lemma reads_str {s : List Char} (h : ∀ c ∈ s, Literal c) :
    Reads hooks (quoted s) (.str (String.ofList s)) where
  head := ⟨'"', s ++ ['"'], rfl, by decide, by decide, by decide⟩
  scan
    | 0, rest, hfuel, _ => absurd hfuel (Nat.not_le_of_lt (Nat.succ_pos _))
    | fuel + 1, rest, _, _ => by
        rw [quoted_append, scanOnce, List.head?_cons, if_pos rfl, List.tail_cons,
          scanQuoted_literal h]

/-- A word that is no number, string, array or object. -/
lemma reads_word {word : List Char} {c : Char} {cs : List Char} (hword : word = c :: cs)
    (hc : isBlank c = false ∧ c ≠ ']' ∧ c ≠ '\uFEFF' ∧ c ≠ '"' ∧ c ≠ '{' ∧ c ≠ '[')
    (h : ∀ rest, scanScalar hooks (word ++ rest) = .ok (value, rest)) : Reads hooks word value where
  head := ⟨c, cs, hword, hc.1, hc.2.1, hc.2.2.1⟩
  scan
    | 0, rest, hfuel, _ => absurd hfuel (Nat.not_le_of_lt (by rw [hword]; exact Nat.succ_pos _))
    | fuel + 1, rest, _, _ => by
        have hhead : (word ++ rest).head? = some c := by rw [hword]; rfl
        have hne : ∀ d, c ≠ d → ¬ (word ++ rest).head? = some d := by
          rw [hhead]
          exact fun d hd heq => hd (Option.some.inj heq)
        rw [scanOnce, if_neg (hne _ hc.2.2.2.1), if_neg (hne _ hc.2.2.2.2.1),
          if_neg (hne _ hc.2.2.2.2.2), h]

lemma reads_null : Reads hooks ['n', 'u', 'l', 'l'] .null :=
  reads_word rfl (by decide) fun _ => rfl

lemma reads_true : Reads hooks ['t', 'r', 'u', 'e'] (.bool true) :=
  reads_word rfl (by decide) fun _ => rfl

lemma reads_false : Reads hooks ['f', 'a', 'l', 's', 'e'] (.bool false) :=
  reads_word rfl (by decide) fun _ => rfl

/-- Only the number zero starts with a zero. -/
lemma head_decimal_ne_zero {n : ℕ} (hn : n ≠ 0) : (decimal n).head? ≠ some '0' := by
  induction n using Nat.strongRecOn with
  | ind n ih =>
      rw [decimal, Nat.toDigits_eq_if (by decide)]
      split_ifs with hlt
      · have hdigit : ∀ d < 10, d ≠ 0 → d.digitChar ≠ '0' := by decide
        exact fun h => hdigit n hlt hn (Option.some.inj h)
      · rw [List.head?_append_of_ne_nil _ Nat.toDigits_ne_nil]
        exact ih (n / 10) (by omega) (by omega)

lemma after_eq_none {word text : List Char} {c : Char} (hword : word.head? = some c)
    (htext : text.head? ≠ some c) : after word text = none := by
  rcases word with _ | ⟨d, word⟩
  · exact absurd hword.symm (Option.some_ne_none c)
  · refine if_neg fun h => htext ?_
    obtain rfl : d = c := Option.some.inj hword
    rw [List.isPrefixOf_iff_prefix] at h
    obtain ⟨rest, rfl⟩ := h
    rfl

lemma ne_of_isDigit {c d : Char} (hc : c.isDigit = true) (hd : d.isDigit = false) : c ≠ d := by
  rintro rfl
  exact absurd (hc.symm.trans hd) (by decide)

/-- What comes after a number is neither a digit nor a point nor an exponent. -/
lemma Follows.head (h : Follows rest) {c : Char} (hc : c ≠ ',' ∧ c ≠ ']' ∧ c ≠ '}' ∧ c ≠ '\n') :
    rest.head? ≠ some c := by
  intro hhead
  rcases h c hhead with rfl | rfl | rfl | rfl
  · exact hc.1 rfl
  · exact hc.2.1 rfl
  · exact hc.2.2.1 rfl
  · exact hc.2.2.2 rfl

lemma Follows.takeWhile (h : Follows rest) : rest.takeWhile Char.isDigit = [] := by
  rcases rest with _ | ⟨c, cs⟩
  · rfl
  · refine List.takeWhile_cons_of_neg ?_
    rcases h c rfl with rfl | rfl | rfl | rfl <;> decide

lemma whole_decimal {n : ℕ} (hrest : Follows rest) :
    (if (decimal n ++ rest).head? = some '0' then ['0']
      else (decimal n ++ rest).takeWhile Char.isDigit) = decimal n := by
  have hne : (decimal n ++ rest).head? = (decimal n).head? :=
    List.head?_append_of_ne_nil _ (decimal_ne_nil n)
  rw [hne]
  split_ifs with hzero
  · have hn : n = 0 := by
      by_contra hn
      exact head_decimal_ne_zero hn hzero
    rw [hn]
    rfl
  · rw [List.takeWhile_append_of_pos fun c hc => isDigit_of_mem_decimal hc, hrest.takeWhile,
      List.append_nil]

lemma scanNumber_decimal {n : ℕ} (hn : (decimal n).length ≤ 4300) (hrest : Follows rest) :
    (scanNumber (decimal n ++ rest) : Except (LoadError ε) _) = .ok (.int n, rest) := by
  obtain ⟨c, cs, hcs⟩ := List.exists_cons_of_ne_nil (decimal_ne_nil n)
  have hdigit : c.isDigit = true := isDigit_of_mem_decimal (n := n) (hcs ▸ List.mem_cons_self)
  have hsign : decide ((decimal n ++ rest).head? = some '-') = false := by
    rw [hcs]
    exact decide_eq_false fun h => ne_of_isDigit hdigit (by decide) (Option.some.inj h)
  have hfraction : fraction rest = [] := if_neg (hrest.head (by decide))
  have hexponent : exponent rest = ([], []) :=
    if_neg (not_or.mpr ⟨hrest.head (by decide), hrest.head (by decide)⟩)
  simp only [scanNumber, hsign, Bool.false_eq_true, if_false, whole_decimal hrest, decimal_ne_nil,
    List.drop_left, hfraction, hexponent, if_true, and_self, Nat.not_lt.mpr hn, intOf_decimal]

lemma reads_nat {n : ℕ} (hn : (decimal n).length ≤ 4300) : Reads hooks (decimal n) (.int n) := by
  obtain ⟨c, cs, hcs⟩ := List.exists_cons_of_ne_nil (decimal_ne_nil n)
  have hdigit : c.isDigit = true := isDigit_of_mem_decimal (n := n) (hcs ▸ List.mem_cons_self)
  have hblank : isBlank c = false := by
    rw [isBlank]
    simp only [Bool.or_eq_false_iff, decide_eq_false_iff_not]
    exact ⟨⟨⟨ne_of_isDigit hdigit (by decide), ne_of_isDigit hdigit (by decide)⟩,
      ne_of_isDigit hdigit (by decide)⟩, ne_of_isDigit hdigit (by decide)⟩
  refine ⟨⟨c, cs, hcs, hblank, ne_of_isDigit hdigit (by decide), ne_of_isDigit hdigit (by decide)⟩, ?_⟩
  rintro (_ | fuel) rest hfuel hrest
  · rw [hcs] at hfuel
    exact absurd hfuel (Nat.not_le_of_lt (Nat.succ_pos _))
  · have hne : ∀ d, d.isDigit = false → (decimal n ++ rest).head? ≠ some d := by
      intro d hd h
      rw [hcs] at h
      exact ne_of_isDigit hdigit hd (Option.some.inj h)
    rw [scanOnce, if_neg (hne _ (by decide)), if_neg (hne _ (by decide)), if_neg (hne _ (by decide)),
      scanScalar, after_eq_none rfl (hne 'n' (by decide)), after_eq_none rfl (hne 't' (by decide)),
      after_eq_none rfl (hne 'f' (by decide)), after_eq_none rfl (hne 'N' (by decide)),
      after_eq_none rfl (hne 'I' (by decide)), after_eq_none rfl (hne '-' (by decide))]
    exact scanNumber_decimal hn hrest

/-! ### Arrays and objects -/

lemma follows_cons {c : Char} (hc : c = ',' ∨ c = ']' ∨ c = '}' ∨ c = '\n') : Follows (c :: rest) :=
  fun _ hd => Option.some.inj hd ▸ hc

lemma skip_joined {ts : List (List Char)} {xs : List Json} (h : List.Forall₂ (Reads hooks) ts xs)
    (hts : ts ≠ []) :
    skip (joined ts ++ rest) = joined ts ++ rest ∧ (joined ts ++ rest).head? ≠ some ']' := by
  rcases h with _ | @⟨t, x, ts, xs, ht, -⟩
  · exact absurd rfl hts
  · obtain ⟨c, cs, hcs, hblank, hclose, -⟩ := ht.head
    obtain ⟨cs', hcs'⟩ : ∃ cs', joined (t :: ts) ++ rest = c :: cs' := by
      rcases ts with _ | ⟨u, ts⟩ <;> rw [joined, hcs] <;> exact ⟨_, rfl⟩
    rw [hcs']
    exact ⟨skip_cons hblank, fun h => hclose (Option.some.inj h)⟩

lemma scanElements_joined {ts : List (List Char)} {xs : List Json}
    (h : List.Forall₂ (Reads hooks) ts xs) (hts : ts ≠ []) {fuel : ℕ} {acc : List Json}
    (hfuel : 2 * (joined ts).length < fuel) :
    scanElements hooks fuel acc (joined ts ++ ']' :: rest) = .ok (.arr (acc ++ xs), rest) := by
  induction h generalizing fuel acc with
  | nil => exact absurd rfl hts
  | @cons t x ts xs ht hts' ih =>
      obtain ⟨fuel, rfl⟩ := Nat.exists_eq_succ_of_ne_zero (Nat.ne_zero_of_lt hfuel)
      rcases ts with _ | ⟨u, ts⟩
      · rw [joined] at hfuel ⊢
        cases hts'
        rw [scanElements, ht.scan fuel _ (Nat.le_of_lt_succ hfuel) (follows_cons (.inr (.inl rfl)))]
        dsimp only
        rw [skip_cons (by decide), List.head?_cons, if_pos rfl, List.tail_cons]
      · rw [joined, List.length_append, List.length_cons] at hfuel
        rw [joined, List.append_assoc, List.cons_append, scanElements,
          ht.scan fuel _ (by omega) (follows_cons (.inl rfl))]
        dsimp only
        rw [skip_cons (by decide), List.head?_cons, if_neg (by decide), if_pos rfl, List.tail_cons,
          (skip_joined hts' (List.cons_ne_nil u ts)).1, ih (List.cons_ne_nil u ts) (by omega),
          List.append_assoc, List.singleton_append]

/-- **An array** is spelt by its elements. -/
theorem reads_arr {ts : List (List Char)} {xs : List Json} (h : List.Forall₂ (Reads hooks) ts xs)
    (hts : ts ≠ []) : Reads hooks ('[' :: (joined ts ++ [']'])) (.arr xs) where
  head := ⟨'[', joined ts ++ [']'], rfl, by decide, by decide, by decide⟩
  scan
    | 0, rest, hfuel, _ => absurd hfuel (Nat.not_le_of_lt (Nat.succ_pos _))
    | fuel + 1, rest, hfuel, _ => by
        rw [List.length_cons, List.length_append, List.length_singleton] at hfuel
        obtain ⟨hskip, hclose⟩ :
            skip (joined ts ++ ']' :: rest) = joined ts ++ ']' :: rest ∧
              (joined ts ++ ']' :: rest).head? ≠ some ']' := skip_joined h hts
        rw [List.cons_append, List.append_assoc, List.singleton_append, scanOnce, List.head?_cons,
          if_neg (by decide), if_neg (by decide), if_pos rfl, List.tail_cons, hskip, if_neg hclose,
          scanElements_joined h hts (by omega), List.nil_append]

/-- The text of a member spells it. -/
structure ReadsMember (hooks : Hooks ε) (m : List Char × List Char) (p : String × Json) : Prop where
  literal : ∀ c ∈ m.1, Literal c
  name : String.ofList m.1 = p.1
  value : Reads hooks m.2 p.2

/-- The texts of members. -/
def members (ms : List (List Char × List Char)) : List Char :=
  joined (ms.map fun m => memberText m.1 m.2)

lemma scanMembers_member {m : List Char × List Char} {p : String × Json} (hm : ReadsMember hooks m p)
    (hrest : Follows rest) {fuel : ℕ} (hfuel : 2 * m.2.length ≤ fuel) {acc : List (String × Json)} :
    scanMembers hooks (fuel + 1) acc (memberText m.1 m.2 ++ rest) =
      if (skip rest).head? = some '}' then hooked (hooks.object (acc ++ [p])) (skip rest).tail
      else if (skip rest).head? = some ',' then
        scanMembers hooks fuel (acc ++ [p]) (skip (skip rest).tail)
      else .error .decode := by
  have hpair : (String.ofList m.1, p.2) = p := by rw [hm.name]
  have htext : memberText m.1 m.2 ++ rest = '"' :: (m.1 ++ '"' :: ':' :: (m.2 ++ rest)) := by
    rw [memberText, List.append_assoc, quoted_append, List.cons_append]
  rw [htext, scanMembers, List.head?_cons, if_pos rfl, List.tail_cons, scanQuoted_literal hm.literal]
  dsimp only
  rw [skip_cons (by decide), List.head?_cons, if_pos rfl, List.tail_cons, hm.value.skip,
    hm.value.scan fuel rest hfuel hrest]
  dsimp only
  rw [hpair]

lemma length_memberText {m : List Char × List Char} : m.2.length < (memberText m.1 m.2).length := by
  rw [memberText, List.length_append, List.length_cons]
  omega

lemma scanMembers_members {ms : List (List Char × List Char)} {ps : List (String × Json)}
    (h : List.Forall₂ (ReadsMember hooks) ms ps) (hms : ms ≠ []) {fuel : ℕ}
    {acc : List (String × Json)} (hfuel : 2 * (members ms).length < fuel) :
    scanMembers hooks fuel acc (members ms ++ '}' :: rest) =
      hooked (hooks.object (acc ++ ps)) rest := by
  induction h generalizing fuel acc with
  | nil => exact absurd rfl hms
  | @cons m p ms ps hm hms' ih =>
      obtain ⟨fuel, rfl⟩ := Nat.exists_eq_succ_of_ne_zero (Nat.ne_zero_of_lt hfuel)
      have hlength : m.2.length < (memberText m.1 m.2).length := length_memberText
      rcases ms with _ | ⟨n, ms⟩
      · cases hms'
        change 2 * (memberText m.1 m.2).length < _ at hfuel
        change scanMembers hooks _ _ (memberText m.1 m.2 ++ _) = _
        rw [scanMembers_member hm (follows_cons (.inr (.inr (.inl rfl)))) (by omega),
          skip_cons (by decide), List.head?_cons, if_pos rfl, List.tail_cons]
      · have hmembers : members (m :: n :: ms) = memberText m.1 m.2 ++ ',' :: members (n :: ms) := rfl
        have hskip : skip (members (n :: ms) ++ '}' :: rest) = members (n :: ms) ++ '}' :: rest := by
          rcases ms with _ | ⟨o, ms⟩ <;> exact skip_cons (c := '"') (by decide)
        rw [hmembers, List.length_append, List.length_cons] at hfuel
        rw [hmembers, List.append_assoc, List.cons_append,
          scanMembers_member hm (follows_cons (.inl rfl)) (by omega), skip_cons (by decide),
          List.head?_cons, if_neg (by decide), if_pos rfl, List.tail_cons, hskip,
          ih (List.cons_ne_nil n ms) (by omega), List.append_assoc, List.singleton_append]

/-- **An object** is spelt by its members, where the hook accepts them. -/
theorem reads_obj {ms : List (List Char × List Char)} {ps : List (String × Json)}
    (h : List.Forall₂ (ReadsMember hooks) ms ps) (hms : ms ≠ []) (hhook : hooks.object ps = .ok value) :
    Reads hooks ('{' :: (members ms ++ ['}'])) value where
  head := ⟨'{', members ms ++ ['}'], rfl, by decide, by decide, by decide⟩
  scan
    | 0, rest, hfuel, _ => absurd hfuel (Nat.not_le_of_lt (Nat.succ_pos _))
    | fuel + 1, rest, hfuel, _ => by
        rw [List.length_cons, List.length_append, List.length_singleton] at hfuel
        obtain ⟨cs, hcs⟩ : ∃ cs, members ms ++ '}' :: rest = '"' :: cs := by
          rcases ms with _ | ⟨m, _ | ⟨n, ms⟩⟩
          · exact absurd rfl hms
          · exact ⟨_, rfl⟩
          · exact ⟨_, rfl⟩
        have hskip : skip (members ms ++ '}' :: rest) = members ms ++ '}' :: rest := by
          rw [hcs]
          exact skip_cons (by decide)
        have hopen : (members ms ++ '}' :: rest).head? ≠ some '}' := by
          rw [hcs]
          exact fun h => absurd (Option.some.inj h) (by decide)
        rw [List.cons_append, List.append_assoc, List.singleton_append, scanOnce, List.head?_cons,
          if_neg (by decide), if_pos rfl, List.tail_cons, hskip, if_neg hopen,
          scanMembers_members h hms (by omega), List.nil_append, hhook]
        rfl

/-- **What is spelt on a line is read back.** -/
theorem loads_reads (h : Reads hooks text value) : loads hooks (text ++ ['\n']) = .ok value := by
  obtain ⟨c, cs, hcs, -, -, hbom⟩ := h.head
  have hhead : (text ++ ['\n']).head? ≠ some '\uFEFF' := by
    rw [hcs]
    exact fun h => hbom (Option.some.inj h)
  have hfuel : 2 * text.length ≤ 2 * (text ++ ['\n']).length + 2 := by
    rw [List.length_append, List.length_singleton]
    omega
  rw [loads, if_neg hhead, h.skip, h.scan _ _ hfuel (follows_cons (.inr (.inr (.inr rfl))))]
  exact if_pos rfl

end Reads

end OmarchyM1Video.Py
