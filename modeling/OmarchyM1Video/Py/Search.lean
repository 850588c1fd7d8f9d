import Mathlib.Data.List.Forall2
import Mathlib.Data.List.TakeWhile
import OmarchyM1Video.Py.Text

/-!
Searching a text: where a marker stands in it, and the matches of a pattern that is searched for.

A place in a text is the text from there on.

* `occurrences`: the places of a marker;
* `literal`, `digits`, `finditer`: the parts of a pattern, and `pattern.finditer(text)`;
* `AtBreak`, `occurrences_splitlines`: the places of a marker that has no line break are those in the
  lines, one after the other, and up to the end of the line the text from there on is the same;
* `mem_finditer`: a match is one at some place.
-/

namespace OmarchyM1Video.Py

/-! ### Searching -/

/-- The places of a marker. -/
def occurrences (marker : List Char) : List Char → List (List Char)
  | [] => []
  | c :: cs =>
      if marker.isPrefixOf (c :: cs) then (c :: cs) :: occurrences marker cs
      else occurrences marker cs

/-- A part of a pattern that matches itself: what is left after it. -/
def literal (text s : List Char) : Option (List Char) :=
  if text.isPrefixOf s then some (s.drop text.length) else none

/-- `([0-9]+)`: the digits, and what is left after them. -/
def digits (s : List Char) : Option (List Char × List Char) :=
  if s.takeWhile Char.isDigit = [] then none
  else some (s.takeWhile Char.isDigit, s.dropWhile Char.isDigit)

/-- `pattern.finditer(text)`: each match with what is left after it; so many characters belong to the
match before. -/
def finditer {α : Type} (match_ : List Char → Option (α × List Char)) :
    ℕ → List Char → List (α × List Char)
  | _, [] => []
  | k + 1, _ :: cs => finditer match_ k cs
  | 0, c :: cs =>
      match match_ (c :: cs) with
      | some (a, rest) => (a, rest) :: finditer match_ (cs.length - rest.length) cs
      | none => finditer match_ 0 cs

section Search

variable {α : Type} {match_ : List Char → Option (α × List Char)} {marker s t rest text : List Char}
  {a : α} {k : ℕ}

lemma literal_eq_some : literal t s = some rest ↔ s = t ++ rest := by
  rw [literal]
  split_ifs with h
  · obtain ⟨r, rfl⟩ := List.isPrefixOf_iff_prefix.mp h
    simp
  · simp only [false_iff]
    rintro rfl
    exact h (List.isPrefixOf_iff_prefix.mpr (List.prefix_append _ _))

lemma digits_eq_some (h : digits s = some (t, rest)) :
    s = t ++ rest ∧ t ≠ [] ∧ ∀ c ∈ t, c.isDigit = true := by
  rw [digits] at h
  split_ifs at h with hne
  obtain ⟨rfl, rfl⟩ := Prod.mk.inj (Option.some.inj h)
  exact ⟨List.takeWhile_append_dropWhile.symm, hne, fun c hc => List.mem_takeWhile_imp hc⟩

/-- A match is one at some place. -/
lemma mem_finditer (h : (a, rest) ∈ finditer match_ k text) :
    ∃ pre s, text = pre ++ s ∧ match_ s = some (a, rest) := by
  induction text generalizing k with
  | nil => rw [finditer] at h; exact absurd h List.not_mem_nil
  | cons c cs ih =>
      have hlater : ∀ {k}, (a, rest) ∈ finditer match_ k cs →
          ∃ pre s, c :: cs = pre ++ s ∧ match_ s = some (a, rest) := by
        intro k hk
        obtain ⟨pre, s, rfl, hs⟩ := ih hk
        exact ⟨c :: pre, s, rfl, hs⟩
      cases k with
      | succ k => exact hlater h
      | zero =>
          rw [finditer] at h
          cases hmatch : match_ (c :: cs) with
          | none => rw [hmatch] at h; exact hlater h
          | some p =>
              rw [hmatch] at h
              rcases List.mem_cons.mp h with heq | h
              · exact ⟨[], c :: cs, rfl, hmatch.trans (congrArg some heq.symm)⟩
              · exact hlater h

/-- The marker stands where it begins. -/
lemma occurrences_of_isPrefixOf (hmarker : marker ≠ []) (h : marker.isPrefixOf s = true) :
    s ∈ occurrences marker s := by
  cases s with
  | nil =>
      rw [List.isPrefixOf_iff_prefix, List.prefix_nil] at h
      exact absurd h hmarker
  | cons c cs =>
      rw [occurrences, if_pos h]
      exact List.mem_cons_self

lemma mem_occurrences_append (h : s ∈ occurrences marker t) :
    s ∈ occurrences marker (rest ++ t) := by
  induction rest with
  | nil => exact h
  | cons c rest ih =>
      rw [List.cons_append, occurrences]
      split_ifs
      · exact List.mem_cons_of_mem _ ih
      · exact ih

lemma isPrefixOf_of_mem_occurrences (h : s ∈ occurrences marker text) :
    marker.isPrefixOf s = true := by
  induction text with
  | nil => exact absurd h List.not_mem_nil
  | cons c cs ih =>
      rw [occurrences] at h
      split_ifs at h with hc
      · rcases List.mem_cons.mp h with rfl | h
        · exact hc
        · exact ih h
      · exact ih h

lemma forall₂_comp {β γ δ : Type} {r : β → γ → Prop} {q : γ → δ → Prop} {xs : List β} {ys : List γ}
    {zs : List δ} (h : List.Forall₂ r xs ys) (h' : List.Forall₂ q ys zs) :
    List.Forall₂ (fun x z => ∃ y, r x y ∧ q y z) xs zs := by
  induction h generalizing zs with
  | nil =>
      cases h'
      exact .nil
  | cons hxy _ ih =>
      cases h' with
      | cons hyz hrest => exact .cons ⟨_, hxy, hyz⟩ (ih hrest)

end Search

/-! ### Lines -/

/-- What is left at the end of a line: nothing, or a break. -/
def AtBreak (rest : List Char) : Prop := ∀ c, rest.head? = some c → isLineBreak c = true

section Lines

variable {marker a b s t text rest : List Char} {c : Char}

/-- A marker without a break begins in a line or not, whatever comes after the line. -/
lemma isPrefixOf_append_atBreak (hmarker : ∀ c ∈ marker, isLineBreak c = false) (h : AtBreak rest) :
    marker.isPrefixOf (a ++ rest) = marker.isPrefixOf a := by
  induction marker generalizing a with
  | nil => rfl
  | cons m marker ih =>
      have htail : ∀ c ∈ marker, isLineBreak c = false := fun c hc =>
        hmarker c (List.mem_cons_of_mem m hc)
      cases a with
      | cons x a =>
          rw [List.cons_append, List.isPrefixOf_cons_cons, List.isPrefixOf_cons_cons, ih htail]
      | nil =>
          cases rest with
          | nil => rfl
          | cons x rest =>
              have hne : m ≠ x := by
                rintro rfl
                exact absurd (h m rfl) (by simp [hmarker m List.mem_cons_self])
              simp [List.isPrefixOf_cons_cons, hne]

/-- The first line, and what comes after it. -/
lemma splitOnP_head (text : List Char) : ∃ line lines rest, text.splitOnP isLineBreak = line :: lines ∧
    text = line ++ rest ∧ AtBreak rest := by
  induction text with
  | nil => exact ⟨[], [], [], rfl, rfl, by simp [AtBreak]⟩
  | cons c cs ih =>
      obtain ⟨line, lines, rest, hsplit, hcs, hrest⟩ := ih
      rw [List.splitOnP_cons_eq_if_modifyHead]
      split_ifs with hc
      · refine ⟨[], _, c :: cs, rfl, rfl, fun x hx => ?_⟩
        obtain rfl : c = x := by simpa using hx
        exact hc
      · refine ⟨c :: line, lines, rest, by rw [hsplit]; rfl, by rw [hcs]; rfl, hrest⟩

/-- A place in a line, and the place in the text. -/
def InLine (s t : List Char) : Prop := ∃ rest, t = s ++ rest ∧ AtBreak rest

/-- The places of a marker in the lines are those in the text. -/
lemma occurrences_splitOnP (text : List Char) (hne : marker ≠ []) (hmarker : ∀ c ∈ marker, isLineBreak c = false) :
    List.Forall₂ InLine ((text.splitOnP isLineBreak).flatMap (occurrences marker))
      (occurrences marker text) := by
  induction text with
  | nil => exact List.Forall₂.nil
  | cons c cs ih =>
      rw [List.splitOnP_cons_eq_if_modifyHead]
      split_ifs with hc
      · have hnot : marker.isPrefixOf (c :: cs) = false := by
          cases marker with
          | nil => exact absurd rfl hne
          | cons m marker =>
              have hmc : m ≠ c := by
                rintro rfl
                exact absurd hc (by simp [hmarker m List.mem_cons_self])
              simp [List.isPrefixOf_cons_cons, hmc]
        rw [List.flatMap_cons, occurrences, List.nil_append, occurrences, hnot]
        exact ih
      · obtain ⟨line, lines, rest, hsplit, hcs, hrest⟩ := splitOnP_head cs
        rw [hsplit] at ih ⊢
        rw [List.modifyHead_cons, List.flatMap_cons]
        rw [List.flatMap_cons] at ih
        have hsame : marker.isPrefixOf (c :: cs) = marker.isPrefixOf (c :: line) := by
          rw [hcs, ← List.cons_append, isPrefixOf_append_atBreak hmarker hrest]
        rw [occurrences, occurrences, hsame]
        split_ifs
        · refine List.Forall₂.cons ⟨rest, ?_, hrest⟩ ih
          rw [hcs, List.cons_append]
        · exact ih

lemma joinBreaks_cons (hc : c ≠ '\r') : joinBreaks (c :: s) = c :: joinBreaks s := by
  rw [joinBreaks, if_neg fun h => hc h.1]

/-- A text that goes on with characters that are no breaks does so with its breaks joined. -/
lemma joinBreaks_append (h : ∀ c ∈ a, isLineBreak c = false) :
    joinBreaks (a ++ s) = a ++ joinBreaks s := by
  induction a with
  | nil => rfl
  | cons c a ih =>
      have hc : c ≠ '\r' := by
        rintro rfl
        exact absurd (h '\r' List.mem_cons_self) (by decide)
      rw [List.cons_append, joinBreaks_cons hc, ih fun x hx => h x (List.mem_cons_of_mem c hx)]
      rfl

/-- The other way round. -/
lemma eq_append_of_joinBreaks (h : ∀ c ∈ a, isLineBreak c = false) (hs : joinBreaks s = a ++ rest) :
    ∃ r, s = a ++ r ∧ joinBreaks r = rest := by
  induction a generalizing s with
  | nil => exact ⟨s, rfl, hs⟩
  | cons c a ih =>
      cases s with
      | nil => rw [joinBreaks, List.cons_append] at hs; exact absurd hs (by simp)
      | cons x s =>
          rw [joinBreaks] at hs
          split_ifs at hs with hx
          · -- The line feed after a carriage return is no character of the marker.
            obtain ⟨rfl, hhead⟩ := hx
            cases s with
            | nil => exact absurd hhead (by simp)
            | cons y s =>
                obtain rfl : y = '\n' := by simpa using hhead
                rw [joinBreaks_cons (by decide), List.cons_append, List.cons.injEq] at hs
                exact absurd (h c List.mem_cons_self) (by rw [← hs.1]; decide)
          · rw [List.cons_append, List.cons.injEq] at hs
            obtain ⟨rfl, hs⟩ := hs
            obtain ⟨r, rfl, hr⟩ := ih (fun y hy => h y (List.mem_cons_of_mem x hy)) hs
            exact ⟨r, rfl, hr⟩

/-- The places of a marker with the breaks joined are those in the text. -/
lemma occurrences_joinBreaks (text : List Char) (hne : marker ≠ []) (hmarker : ∀ c ∈ marker, isLineBreak c = false) :
    List.Forall₂ (fun s t => s = joinBreaks t) (occurrences marker (joinBreaks text))
      (occurrences marker text) := by
  have hsame : ∀ t, marker.isPrefixOf (joinBreaks t) = marker.isPrefixOf t := by
    intro t
    rw [Bool.eq_iff_iff, List.isPrefixOf_iff_prefix, List.isPrefixOf_iff_prefix]
    constructor
    · rintro ⟨rest, hrest⟩
      obtain ⟨r, rfl, _⟩ := eq_append_of_joinBreaks hmarker hrest.symm
      exact List.prefix_append _ _
    · rintro ⟨rest, rfl⟩
      rw [joinBreaks_append hmarker]
      exact List.prefix_append _ _
  induction text with
  | nil => exact List.Forall₂.nil
  | cons c cs ih =>
      have hc := hsame (c :: cs)
      rw [joinBreaks] at hc ⊢
      split_ifs at hc ⊢ with hbreak
      · -- The carriage return that is dropped is no place of the marker.
        have hnot : marker.isPrefixOf (c :: cs) = false := by
          cases marker with
          | nil => exact absurd rfl hne
          | cons m marker =>
              have hm : m ≠ '\r' := by
                rintro rfl
                exact absurd (hmarker '\r' List.mem_cons_self) (by decide)
              simp [List.isPrefixOf_cons_cons, hbreak.1, hm]
        rw [occurrences, hnot]
        exact ih
      · rw [occurrences, occurrences, hc]
        split_ifs
        · refine List.Forall₂.cons ?_ ih
          rw [joinBreaks, if_neg hbreak]
        · exact ih

/-- The place in a line of a text, and in the text. -/
def OfLine (s t : List Char) : Prop := InLine s (joinBreaks t)

/-- **The places of a marker** that has no break are those in the lines, in their order. -/
theorem occurrences_splitlines (text : List Char) (hne : marker ≠ []) (hmarker : ∀ c ∈ marker, isLineBreak c = false) :
    List.Forall₂ OfLine ((splitlines text).flatMap (occurrences marker))
      (occurrences marker text) := by
  have hlines : (splitlines text).flatMap (occurrences marker) =
      ((joinBreaks text).splitOnP isLineBreak).flatMap (occurrences marker) := by
    rw [splitlines]
    split_ifs with hlast
    · obtain ⟨init, hinit⟩ := List.getLast?_eq_some_iff.mp hlast
      rw [hinit, List.dropLast_concat, List.flatMap_append, List.flatMap_singleton, occurrences,
        List.append_nil]
    · rfl
  rw [hlines]
  have hfirst := occurrences_splitOnP (joinBreaks text) hne hmarker
  have hsecond := occurrences_joinBreaks text hne hmarker
  refine List.Forall₂.imp ?_ (forall₂_comp hfirst hsecond)
  rintro s t ⟨u, hu, rfl⟩
  exact hu

end Lines

end OmarchyM1Video.Py
