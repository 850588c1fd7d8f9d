import Mathlib.Algebra.BigOperators.Group.List.Basic
import Mathlib.Algebra.GroupWithZero.Nat
import Mathlib.Data.Nat.Notation
import OmarchyM1Video.Py.Exec

/-!
Texts of decimal numbers, printed row by row and read back with `splitlines`, `split` and `int`.

A text is the list of its characters.

* `splitlines`, `split`, `encodedLength`, `isDecimal`, `decimal`: the methods of a Python string that
  a reader of such a text uses;
* `unsignedToken`: a number in its only spelling;
* `row`, `unlines`: a tag and numbers after it, and rows one after the other, as a printer writes them;
* `splitlines_unlines`, `split_row`, `unsignedToken_decimal`: what is printed is read back;
* `encodedLength_unlines_le`: how long it gets.
-/

namespace OmarchyM1Video.Py

/-! ### Methods of a string -/

/-- `c.isspace()`. -/
def isSpace (c : Char) : Bool :=
  let n := c.toNat
  (9 ≤ n && n ≤ 13) || (28 ≤ n && n ≤ 32) || n = 0x85 || n = 0xA0 || n = 0x1680 ||
    (0x2000 ≤ n && n ≤ 0x200A) || n = 0x2028 || n = 0x2029 || n = 0x202F || n = 0x205F || n = 0x3000

/-- The characters that `splitlines` breaks at. -/
def isLineBreak (c : Char) : Bool :=
  let n := c.toNat
  (10 ≤ n && n ≤ 13) || (28 ≤ n && n ≤ 30) || n = 0x85 || n = 0x2028 || n = 0x2029

/-- Each carriage return with a line feed after it is one break. -/
def joinBreaks : List Char → List Char
  | [] => []
  | c :: cs => if c = '\r' ∧ cs.head? = some '\n' then joinBreaks cs else c :: joinBreaks cs

/-- `text.splitlines()`: a break at the end starts no line. -/
def splitlines (text : List Char) : List (List Char) :=
  let parts := (joinBreaks text).splitOnP isLineBreak
  if parts.getLast? = some [] then parts.dropLast else parts

/-- `text.split()`. -/
def split (text : List Char) : List (List Char) := (text.splitOnP isSpace).filter (· ≠ [])

/-- `len(text.encode())`. -/
def encodedLength (text : List Char) : ℕ := (text.map Char.utf8Size).sum

/-- `token.isascii() and token.isdecimal()`. -/
def isDecimal (token : List Char) : Bool := !token.isEmpty && token.all Char.isDigit

/-- `int(token)` of decimal digits. -/
def intOf (token : List Char) : ℕ := Nat.ofDigitChars 10 token 0

/-- `str(n)`. -/
def decimal (n : ℕ) : List Char := Nat.toDigits 10 n

/-- A number below `bound`, in its only spelling; the messages are those of a token that is not
decimal or too long, and of a number that is out of range or spelt otherwise. -/
def unsignedToken (shape range : String) (bound : ℕ) (token : List Char) : Except String ℕ := do
  need (isDecimal token = true ∧ token.length ≤ 20) shape
  need (decimal (intOf token) = token ∧ intOf token < bound) range
  return intOf token

/-! ### What a printer writes -/

/-- A tag and numbers after it, each after a blank. -/
def row (tag : Char) (values : List ℕ) : List Char := tag :: values.flatMap fun n => ' ' :: decimal n

/-- Rows, each with a line feed at its end. -/
def unlines (rows : List (List Char)) : List Char := rows.flatMap fun r => r ++ ['\n']

/-! ### Characters -/

/-- A printable ASCII character that is no blank. -/
def Plain (c : Char) : Prop := 32 < c.toNat ∧ c.toNat < 127

lemma Plain.isSpace {c : Char} (h : Plain c) : isSpace c = false := by
  obtain ⟨hlow, hhigh⟩ := h
  simp only [Py.isSpace, Bool.or_eq_false_iff, Bool.and_eq_false_iff, decide_eq_false_iff_not]
  omega

lemma Plain.isLineBreak {c : Char} (h : Plain c) : isLineBreak c = false := by
  obtain ⟨hlow, hhigh⟩ := h
  simp only [Py.isLineBreak, Bool.or_eq_false_iff, Bool.and_eq_false_iff, decide_eq_false_iff_not]
  omega

lemma Plain.ne_return {c : Char} (h : Plain c) : c ≠ '\r' := by
  rintro rfl
  exact absurd h.1 (by decide)

lemma isLineBreak_of_all {text : List Char} (h : text.all (fun c => !isLineBreak c) = true) :
    ∀ c ∈ text, isLineBreak c = false := by
  simpa using h

lemma utf8Size_of_lt {c : Char} (h : c.toNat < 128) : c.utf8Size = 1 := by
  rw [Char.utf8Size, if_pos]
  exact UInt32.le_iff_toNat_le.mpr (Nat.le_of_lt_succ h)

lemma Plain.utf8Size {c : Char} (h : Plain c) : c.utf8Size = 1 :=
  utf8Size_of_lt (Nat.lt_trans h.2 (by decide))

lemma isDigit_of_mem_decimal {n : ℕ} {c : Char} (h : c ∈ decimal n) : c.isDigit = true :=
  Nat.isDigit_of_mem_toDigits (by decide) (by decide) h

lemma plain_of_isDigit {c : Char} (h : c.isDigit = true) : Plain c := by
  simp only [Char.isDigit, Bool.and_eq_true, decide_eq_true_eq, UInt32.le_iff_toNat_le, ge_iff_le] at h
  have hlow : 48 ≤ c.toNat := h.1
  have hhigh : c.toNat ≤ 57 := h.2
  exact ⟨by omega, by omega⟩

lemma plain_of_mem_decimal {n : ℕ} {c : Char} (h : c ∈ decimal n) : Plain c :=
  plain_of_isDigit (isDigit_of_mem_decimal h)

/-! ### Numbers -/

lemma decimal_ne_nil (n : ℕ) : decimal n ≠ [] := Nat.toDigits_ne_nil

lemma length_decimal_le {n k : ℕ} (hk : 0 < k) (h : n < 10 ^ k) : (decimal n).length ≤ k :=
  (Nat.length_toDigits_le_iff (by decide) hk).mpr h

lemma intOf_decimal (n : ℕ) : intOf (decimal n) = n := Nat.ofDigitChars_ten_toDigits

/-- **A number is read back** from its spelling. -/
theorem unsignedToken_decimal (shape range : String) {n bound : ℕ} (h : n < bound)
    (hbound : bound ≤ 0x10000000000000000) :
    unsignedToken shape range bound (decimal n) = .ok n := by
  have hdecimal : isDecimal (decimal n) = true := by
    rw [isDecimal, Bool.and_eq_true]
    refine ⟨?_, List.all_eq_true.mpr fun c hc => isDigit_of_mem_decimal hc⟩
    simpa using decimal_ne_nil n
  have hlength : (decimal n).length ≤ 20 := length_decimal_le (by decide) (by omega)
  simp [unsignedToken, need, hdecimal, hlength, intOf_decimal, h]

lemma mapM_unsignedToken (shape range : String) {bound : ℕ} (hbound : bound ≤ 0x10000000000000000)
    {values : List ℕ} (h : ∀ n ∈ values, n < bound) :
    (values.map decimal).mapM (unsignedToken shape range bound) = .ok values := by
  induction values with
  | nil => rfl
  | cons n values ih =>
      rw [List.map_cons, List.mapM_cons,
        unsignedToken_decimal shape range (h n List.mem_cons_self) hbound]
      rw [ih fun m hm => h m (List.mem_cons_of_mem _ hm)]
      rfl

/-! ### Rows -/

/-- The characters of a row. -/
lemma mem_row {tag c : Char} {values : List ℕ} (h : c ∈ row tag values) :
    c = tag ∨ c = ' ' ∨ Plain c := by
  simp only [row, List.mem_cons, List.mem_flatMap] at h
  rcases h with h | ⟨n, _, h | h⟩
  · exact Or.inl h
  · exact Or.inr (Or.inl h)
  · exact Or.inr (Or.inr (plain_of_mem_decimal h))

lemma splitOnP_row {values : List ℕ} {token : List Char} (h : ∀ c ∈ token, Plain c) :
    (token ++ values.flatMap fun n => ' ' :: decimal n).splitOnP isSpace =
      token :: values.map decimal := by
  induction values generalizing token with
  | nil =>
      rw [List.flatMap_nil, List.append_nil]
      exact List.splitOnP_eq_singleton fun c hc => (h c hc).isSpace
  | cons n values ih =>
      rw [List.flatMap_cons, List.cons_append, List.splitOnP_append_cons_of_forall_mem
        (fun c hc => (h c hc).isSpace) ' ' (by decide), ih fun c hc => plain_of_mem_decimal hc]
      rfl

/-- **The tokens of a row** are its tag and its numbers. -/
theorem split_row {tag : Char} (htag : Plain tag) (values : List ℕ) :
    split (row tag values) = [tag] :: values.map decimal := by
  have hsplit : ([tag] ++ values.flatMap fun n => ' ' :: decimal n).splitOnP isSpace =
      [tag] :: values.map decimal := splitOnP_row (by simpa using htag)
  rw [List.singleton_append] at hsplit
  rw [split, row, hsplit, List.filter_eq_self.mpr]
  intro token htoken
  rcases List.mem_cons.mp htoken with rfl | htoken
  · rfl
  · obtain ⟨n, _, rfl⟩ := List.mem_map.mp htoken
    simpa using decimal_ne_nil n

/-- A row that is written on one line. -/
def OneLine (r : List Char) : Prop := ∀ c ∈ r, c = ' ' ∨ Plain c

lemma oneLine_row {tag : Char} (htag : Plain tag) (values : List ℕ) : OneLine (row tag values) := by
  intro c hc
  rcases mem_row hc with rfl | h
  · exact Or.inr htag
  · exact h

lemma OneLine.isLineBreak {r : List Char} (h : OneLine r) : ∀ c ∈ r, isLineBreak c = false := by
  intro c hc
  rcases h c hc with rfl | hplain
  · decide
  · exact hplain.isLineBreak

lemma joinBreaks_of_notMem {text : List Char} (h : '\r' ∉ text) : joinBreaks text = text := by
  induction text with
  | nil => rfl
  | cons c cs ih =>
      rw [List.mem_cons, not_or] at h
      rw [joinBreaks, if_neg fun hc => h.1 hc.1.symm, ih h.2]

lemma splitOnP_unlines {rows : List (List Char)} (h : ∀ r ∈ rows, OneLine r) :
    (unlines rows).splitOnP isLineBreak = rows ++ [[]] := by
  induction rows with
  | nil => rfl
  | cons r rows ih =>
      have hr := (h r List.mem_cons_self).isLineBreak
      rw [unlines, List.flatMap_cons, List.append_assoc, List.singleton_append,
        List.splitOnP_append_cons_of_forall_mem hr '\n' (by decide)]
      exact congrArg (r :: ·) (ih fun r hr => h r (List.mem_cons_of_mem _ hr))

/-- **The lines of a text** are the rows that were written. -/
theorem splitlines_unlines {rows : List (List Char)} (h : ∀ r ∈ rows, OneLine r) :
    splitlines (unlines rows) = rows := by
  have hreturn : '\r' ∉ unlines rows := by
    intro hmem
    simp only [unlines, List.mem_flatMap, List.mem_append, List.mem_singleton] at hmem
    obtain ⟨r, hr, hc | hc⟩ := hmem
    · rcases h r hr _ hc with hc | hc
      · exact absurd hc (by decide)
      · exact hc.ne_return rfl
    · exact absurd hc (by decide)
  simp [splitlines, joinBreaks_of_notMem hreturn, splitOnP_unlines h]

/-! ### Lengths -/

lemma encodedLength_append (a b : List Char) :
    encodedLength (a ++ b) = encodedLength a + encodedLength b := by
  simp [encodedLength]

lemma encodedLength_decimal (n : ℕ) : encodedLength (decimal n) = (decimal n).length := by
  have hone : (decimal n).map Char.utf8Size = (decimal n).map fun _ => 1 :=
    List.map_congr_left fun c hc => (plain_of_mem_decimal hc).utf8Size
  rw [encodedLength, hone]
  simp

/-- How long a row of numbers of at most `k` digits gets. -/
lemma encodedLength_row_le {tag : Char} (htag : Plain tag) {values : List ℕ} {k : ℕ} (hk : 0 < k)
    (h : ∀ n ∈ values, n < 10 ^ k) :
    encodedLength (row tag values) ≤ 1 + values.length * (k + 1) := by
  have hnumbers : encodedLength (values.flatMap fun n => ' ' :: decimal n) ≤
      values.length * (k + 1) := by
    induction values with
    | nil => exact Nat.zero_le _
    | cons n values ih =>
        have hn := length_decimal_le hk (h n List.mem_cons_self)
        have hrest := ih fun m hm => h m (List.mem_cons_of_mem _ hm)
        have hfirst : encodedLength (' ' :: decimal n) = 1 + (decimal n).length := by
          rw [← encodedLength_decimal]
          rfl
        rw [List.flatMap_cons, encodedLength_append, hfirst, List.length_cons, Nat.succ_mul]
        omega
  have htagLength : encodedLength (row tag values) =
      1 + encodedLength (values.flatMap fun n => ' ' :: decimal n) := by
    rw [row, encodedLength, List.map_cons, List.sum_cons, htag.utf8Size]
    rfl
  omega

lemma encodedLength_unlines_append (a b : List (List Char)) :
    encodedLength (unlines (a ++ b)) = encodedLength (unlines a) + encodedLength (unlines b) := by
  rw [unlines, List.flatMap_append, encodedLength_append]
  rfl

/-- How long a text gets whose rows are not longer than `n`. -/
lemma encodedLength_unlines_le {rows : List (List Char)} {n : ℕ}
    (h : ∀ r ∈ rows, encodedLength r ≤ n) : encodedLength (unlines rows) ≤ rows.length * (n + 1) := by
  induction rows with
  | nil => exact Nat.zero_le _
  | cons r rows ih =>
      have hr := h r List.mem_cons_self
      have hrest := ih fun r hr => h r (List.mem_cons_of_mem _ hr)
      have hbreak : encodedLength ['\n'] = 1 := rfl
      rw [unlines, List.flatMap_cons, encodedLength_append, encodedLength_append, hbreak,
        List.length_cons, Nat.succ_mul]
      change encodedLength r + 1 + encodedLength (unlines rows) ≤ _
      omega

end OmarchyM1Video.Py
