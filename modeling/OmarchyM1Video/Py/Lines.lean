import Mathlib.Data.List.Perm.Basic
import Mathlib.Data.Set.List
import OmarchyM1Video.Py.JsonText
import OmarchyM1Video.Py.Search

/-!
A log as a list of lines: the bytes, the text and what `splitlines` makes of it.

* `terminated`: pieces, each with an end after it; `exists_terminated`, `terminated_inj`: each list
  is pieces and a rest, in one way;
* `decodeUtf8_eq_some`, `utf8_terminated`: the lines of a text are those of its bytes;
* `splitlines_terminated`: each line gives its own lines to `splitlines`;
* `perm_of_logs`: reordered lines of a log are the reordered lines of its text.
-/

namespace OmarchyM1Video.Py

/-! ### Pieces -/

/-- Pieces, each with `x` after it. -/
def terminated {α : Type} (x : α) (pieces : List (List α)) : List α := pieces.flatMap (· ++ [x])

section Pieces

variable {α : Type} {x : α} {pieces pieces' : List (List α)} {last last' : List α}

lemma terminated_cons (x : α) (piece : List α) (pieces : List (List α)) (last : List α) :
    terminated x (piece :: pieces) ++ last = piece ++ x :: (terminated x pieces ++ last) := by
  rw [terminated, List.flatMap_cons, List.append_assoc, List.append_assoc, List.singleton_append,
    terminated]

/-- Each list is made of pieces and a rest. -/
lemma exists_terminated [DecidableEq α] (x : α) (s : List α) :
    ∃ pieces last, s = terminated x pieces ++ last ∧ (∀ piece ∈ pieces, x ∉ piece) ∧ x ∉ last := by
  induction s with
  | nil => exact ⟨[], [], rfl, by simp, List.not_mem_nil⟩
  | cons y s ih =>
      obtain ⟨pieces, last, rfl, hpieces, hlast⟩ := ih
      by_cases hy : x = y
      · subst hy
        refine ⟨[] :: pieces, last, (terminated_cons x [] pieces last).symm, fun piece hpiece => ?_,
          hlast⟩
        rcases List.mem_cons.mp hpiece with rfl | hpiece
        · exact List.not_mem_nil
        · exact hpieces piece hpiece
      · cases pieces with
        | nil =>
            refine ⟨[], y :: last, rfl, by simp, ?_⟩
            rw [List.mem_cons, not_or]
            exact ⟨hy, hlast⟩
        | cons piece pieces =>
            refine ⟨(y :: piece) :: pieces, last, ?_, fun p hp => ?_, hlast⟩
            · rw [terminated_cons, terminated_cons, List.cons_append]
            · rcases List.mem_cons.mp hp with rfl | hp
              · rw [List.mem_cons, not_or]
                exact ⟨hy, hpieces piece List.mem_cons_self⟩
              · exact hpieces p (List.mem_cons_of_mem _ hp)

lemma splitOnP_terminated [BEq α] [LawfulBEq α] (hpieces : ∀ piece ∈ pieces, x ∉ piece)
    (hlast : x ∉ last) : (terminated x pieces ++ last).splitOnP (· == x) = pieces ++ [last] := by
  have hplain : ∀ {s : List α}, x ∉ s → ∀ y ∈ s, (y == x) = false := fun hs y hy =>
    beq_eq_false_iff_ne.mpr fun heq => hs (heq ▸ hy)
  induction pieces with
  | nil => exact List.splitOnP_eq_singleton (hplain hlast)
  | cons piece pieces ih =>
      rw [terminated_cons, List.splitOnP_append_cons_of_forall_mem
        (hplain (hpieces piece List.mem_cons_self)) x (beq_self_eq_true x),
        ih fun p hp => hpieces p (List.mem_cons_of_mem _ hp)]
      rfl

/-- In one way. -/
theorem terminated_inj [BEq α] [LawfulBEq α] (hpieces : ∀ piece ∈ pieces, x ∉ piece)
    (hpieces' : ∀ piece ∈ pieces', x ∉ piece) (hlast : x ∉ last) (hlast' : x ∉ last')
    (h : terminated x pieces ++ last = terminated x pieces' ++ last') :
    pieces = pieces' ∧ last = last' := by
  have hsplit := splitOnP_terminated hpieces hlast
  rw [h, splitOnP_terminated hpieces' hlast'] at hsplit
  obtain ⟨rfl, hend⟩ := List.append_inj' hsplit rfl
  exact ⟨rfl, (List.cons.inj hend).1.symm⟩

end Pieces

/-! ### Bytes -/

/-- The bytes of a text are those that are decoded to it. -/
lemma decodeUtf8_eq_some {raw : List UInt8} {text : List Char} :
    decodeUtf8 raw = some text ↔ raw = utf8 text := by
  constructor
  · intro h
    obtain ⟨chars, hchars, rfl⟩ := Option.map_eq_some_iff.mp h
    have hsome : raw.toByteArray.utf8Decode?.isSome = true := by rw [hchars]; rfl
    have hencode := ByteArray.utf8Encode_get_utf8Decode? (h := hsome)
    simp only [hchars, Option.get_some] at hencode
    have hdata := congrArg (fun b : ByteArray => b.data.toList) hencode
    simpa [List.utf8Encode, utf8] using hdata.symm
  · rintro rfl
    exact decodeUtf8_utf8 text

lemma utf8_injective : Function.Injective utf8 := fun a b h =>
  Option.some.inj ((decodeUtf8_utf8 a).symm.trans (h ▸ decodeUtf8_utf8 b))

/-- Only a line feed has the byte of one. -/
lemma mem_utf8EncodeChar {c : Char} : 10 ∈ String.utf8EncodeChar c ↔ c = '\n' := by
  constructor
  · intro h
    have hbyte : ∀ n : ℕ, n < 256 → (10 : UInt8) = UInt8.ofNat n → n = 10 := fun n hn heq => by
      have hnat := congrArg UInt8.toNat heq
      rw [UInt8.toNat_ofNat_of_lt' hn] at hnat
      exact hnat.symm
    rw [String.utf8EncodeChar] at h
    split_ifs at h with h₁ h₂ h₃
    · have hval := hbyte _ (by omega) (List.mem_singleton.mp h)
      exact Char.ext (UInt32.toNat_inj.mp hval)
    all_goals
      simp only [List.mem_cons, List.not_mem_nil, or_false] at h
      exfalso
    · rcases h with h | h <;> have := hbyte _ (by omega) h <;> omega
    · rcases h with h | h | h <;> have := hbyte _ (by omega) h <;> omega
    · rcases h with h | h | h | h <;> have := hbyte _ (by omega) h <;> omega
  · rintro rfl
    decide

lemma mem_utf8 {text : List Char} : 10 ∈ utf8 text ↔ '\n' ∈ text := by
  rw [utf8, List.mem_flatMap]
  constructor
  · rintro ⟨c, hc, hbyte⟩
    rwa [mem_utf8EncodeChar.mp hbyte] at hc
  · exact fun h => ⟨'\n', h, mem_utf8EncodeChar.mpr rfl⟩

lemma utf8_append (a b : List Char) : utf8 (a ++ b) = utf8 a ++ utf8 b := List.flatMap_append

/-- The bytes of lines are the lines of the bytes. -/
lemma utf8_terminated (texts : List (List Char)) (last : List Char) :
    utf8 (terminated '\n' texts ++ last) = terminated 10 (texts.map utf8) ++ utf8 last := by
  induction texts with
  | nil => rfl
  | cons t texts ih =>
      have hbreak : utf8 ('\n' :: (terminated '\n' texts ++ last)) =
          10 :: utf8 (terminated '\n' texts ++ last) := rfl
      rw [List.map_cons, terminated_cons, terminated_cons, utf8_append, hbreak, ih]

/-! ### Lines -/

/-- A line up to its line feed: what comes after it is broken for itself. -/
lemma joinBreaks_line (r : List Char) :
    ∃ r', ∀ s, joinBreaks (r ++ '\n' :: s) = r' ++ '\n' :: joinBreaks s := by
  induction r with
  | nil => exact ⟨[], fun s => joinBreaks_cons (by decide)⟩
  | cons c r ih =>
      obtain ⟨r', hr'⟩ := ih
      have hhead : ∀ s, (r ++ '\n' :: s).head? = (r ++ ['\n']).head? := fun s => by
        cases r <;> rfl
      by_cases hjoined : c = '\r' ∧ (r ++ ['\n']).head? = some '\n'
      · refine ⟨r', fun s => ?_⟩
        rw [List.cons_append, joinBreaks, hhead s, if_pos hjoined, hr']
      · refine ⟨c :: r', fun s => ?_⟩
        rw [List.cons_append, joinBreaks, hhead s, if_neg hjoined, hr']
        rfl

/-- The lines of a line, and of what comes after it. -/
lemma splitlines_append (r s : List Char) :
    splitlines (r ++ '\n' :: s) = splitlines (r ++ ['\n']) ++ splitlines s := by
  obtain ⟨r', hr'⟩ := joinBreaks_line r
  have hparts : ∀ t, (joinBreaks (r ++ '\n' :: t)).splitOnP isLineBreak =
      r'.splitOnP isLineBreak ++ (joinBreaks t).splitOnP isLineBreak := fun t => by
    rw [hr' t, List.splitOnP_append_cons _ _ (by decide)]
  have hne := List.splitOnP_ne_nil isLineBreak (joinBreaks s)
  have hone : splitlines (r ++ ['\n']) = r'.splitOnP isLineBreak := by
    have hnil : (joinBreaks []).splitOnP isLineBreak = [[]] := rfl
    rw [splitlines, hparts [], hnil, if_pos (List.getLast?_concat ..)]
    exact List.dropLast_concat
  rw [hone, splitlines, splitlines, hparts s, List.getLast?_append_of_ne_nil _ hne,
    List.dropLast_append_of_ne_nil hne]
  split_ifs <;> rfl

/-- **The lines of a log** are those of its lines, in their order. -/
theorem splitlines_terminated (texts : List (List Char)) (last : List Char) :
    splitlines (terminated '\n' texts ++ last) =
      (texts.flatMap fun t => splitlines (t ++ ['\n'])) ++ splitlines last := by
  induction texts with
  | nil => rfl
  | cons t texts ih =>
      rw [terminated_cons, splitlines_append, ih, List.flatMap_cons, List.append_assoc]

lemma isSuffix_of_mem_occurrences {marker s text : List Char} (h : s ∈ occurrences marker text) :
    s <:+ text := by
  induction text with
  | nil => exact absurd h List.not_mem_nil
  | cons c cs ih =>
      rw [occurrences] at h
      split_ifs at h
      · rcases List.mem_cons.mp h with rfl | h
        · exact List.suffix_refl _
        · exact (ih h).trans (List.suffix_cons c cs)
      · exact (ih h).trans (List.suffix_cons c cs)

/-- A marker without a break is in no line of a text that does not have it. -/
lemma occurrences_line {marker text : List Char} (hne : marker ≠ [])
    (hmarker : ∀ c ∈ marker, isLineBreak c = false) (h : ¬utf8 marker <:+: utf8 text) :
    ∀ line ∈ splitlines (text ++ ['\n']), occurrences marker line = [] := by
  have hnone : occurrences marker (text ++ ['\n']) = [] := by
    rw [List.eq_nil_iff_forall_not_mem]
    intro s hs
    have hinside : marker <:+: text ++ ['\n'] := (List.isPrefixOf_iff_prefix.mp
      (isPrefixOf_of_mem_occurrences hs)).isInfix.trans (isSuffix_of_mem_occurrences hs).isInfix
    rcases List.infix_concat_iff.mp hinside with hsuffix | hinside
    · rcases List.suffix_concat_iff.mp hsuffix with hnil | ⟨t, rfl, _⟩
      · exact hne hnil
      · exact absurd (hmarker '\n' (by simp)) (by decide)
    · obtain ⟨a, b, rfl⟩ := hinside
      exact h ⟨utf8 a, utf8 b, by rw [utf8_append, utf8_append]⟩
  have hplaces := occurrences_splitlines (text ++ ['\n']) hne hmarker
  rw [hnone, List.forall₂_nil_right_iff, List.flatMap_eq_nil_iff] at hplaces
  exact hplaces

/-- **The lines of a reordered log.**  If the lines of the bytes are the lines of a text in another
order, and others between them, then so are those of its text. -/
theorem perm_of_logs {pieces noise pieces' : List (List UInt8)} {last : List UInt8}
    {text text' : List Char} (htext : terminated 10 pieces ++ last = utf8 text)
    (htext' : terminated 10 pieces' ++ last = utf8 text') (hpieces : ∀ piece ∈ pieces, 10 ∉ piece)
    (hnoise : ∀ piece ∈ noise, 10 ∉ piece) (hlast : 10 ∉ last)
    (hperm : pieces'.Perm (pieces ++ noise)) :
    ∃ texts others texts' rest, text = terminated '\n' texts ++ rest ∧
      text' = terminated '\n' texts' ++ rest ∧ noise = others.map utf8 ∧
        texts'.Perm (texts ++ others) := by
  have hpieces' : ∀ piece ∈ pieces', 10 ∉ piece := fun piece hpiece =>
    (List.mem_append.mp (hperm.subset hpiece)).elim (hpieces piece) (hnoise piece)
  have hlines : ∀ {pieces : List (List UInt8)} {text : List Char}, (∀ piece ∈ pieces, 10 ∉ piece) →
      terminated 10 pieces ++ last = utf8 text →
        ∃ texts rest, text = terminated '\n' texts ++ rest ∧ pieces = texts.map utf8 ∧
          last = utf8 rest := by
    intro pieces text hpieces htext
    obtain ⟨texts, rest, rfl, htexts, hrest⟩ := exists_terminated '\n' text
    rw [utf8_terminated] at htext
    have hplain : ∀ piece ∈ texts.map utf8, 10 ∉ piece := fun piece hpiece => by
      obtain ⟨t, ht, rfl⟩ := List.mem_map.mp hpiece
      exact fun hmem => htexts t ht (mem_utf8.mp hmem)
    obtain ⟨h, hend⟩ := terminated_inj hpieces hplain hlast
      (fun hmem => hrest (mem_utf8.mp hmem)) htext
    exact ⟨texts, rest, rfl, h, hend⟩
  obtain ⟨texts, rest, rfl, rfl, hrest⟩ := hlines hpieces htext
  obtain ⟨texts', rest', rfl, rfl, hrest'⟩ := hlines hpieces' htext'
  obtain rfl := utf8_injective (hrest.symm.trans hrest')
  have hothers : noise ∈ Set.range (List.map utf8) := by
    rw [Set.range_list_map]
    intro piece hpiece
    obtain ⟨t, _, ht⟩ := List.mem_map.mp (hperm.symm.subset (List.mem_append_right _ hpiece))
    exact ⟨t, ht⟩
  obtain ⟨others, rfl⟩ := hothers
  rw [← List.map_append, List.map_perm_map_iff utf8_injective] at hperm
  exact ⟨texts, others, texts', rest, rfl, rfl, rfl, hperm⟩

end OmarchyM1Video.Py
