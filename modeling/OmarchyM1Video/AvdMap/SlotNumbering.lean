import Mathlib.Data.List.FinRange
import OmarchyM1Video.AvdMap.Acceptance

/-!
The map does not depend on how the slots of the DPB are numbered.

The slots of a picture may be permuted, if the slot numbers in its lists are renamed along.  The history
of the map has buffers and pictures and no slots, so two such runs go through the same states, and only
the slot numbers in what is reported differ.

* `permuted`: a list with its entries permuted and numbered anew;
* `renameSlot`, `Record.renumber`: the permuted record;
* `SameButSlots`: the two reports of a picture agree but for the slot numbers;
* `mapDpb_renumber`, `mapList_renumber`, `motion_renumber`: each part of a report;
* `mapRecord_renumber`, `mapLoop_renumber`, `mapRecords_renumber`: one picture, the loop and the map.
-/

namespace OmarchyM1Video.AvdMap

open OmarchyM1Video.Py

/-! ### Permuted lists -/

section Permuted

variable {α β : Type} {n : ℕ} {xs : List α} (σ : Equiv.Perm (Fin n)) (f : ℕ → α → α)

/-- The entries of a list, permuted: entry `k` becomes entry `σ k` and gets its number. -/
def permuted (h : xs.length = n) : List α :=
  List.ofFn fun j : Fin n => f j (xs.get ((σ.symm j).cast h.symm))

variable (h : xs.length = n)

@[simp] lemma permuted_length : (permuted σ f h).length = n := List.length_ofFn

lemma getElem?_permuted (k : Fin n) : (permuted σ f h)[(σ k : ℕ)]? = xs[(k : ℕ)]?.map (f (σ k)) := by
  have hk : (k : ℕ) < xs.length := h.symm ▸ k.2
  rw [permuted, List.getElem?_ofFn, dif_pos (σ k).2, List.getElem?_eq_getElem hk]
  simp

/-- What does not depend on the number of an entry is permuted. -/
lemma map_permuted_perm (g : α → β) (hg : ∀ j x, g (f j x) = g x) :
    ((permuted σ f h).map g).Perm (xs.map g) := by
  subst h
  rw [permuted, List.map_ofFn]
  have hcomp : (g ∘ fun j : Fin xs.length => f j (xs.get ((σ.symm j).cast rfl)))
      = (fun k : Fin xs.length => g (xs.get k)) ∘ σ.symm := by
    funext j
    exact hg _ _
  rw [hcomp]
  refine (Equiv.Perm.ofFn_comp_perm σ.symm _).trans (List.Perm.of_eq ?_)
  rw [← Function.comp_def, ← List.map_ofFn, List.ofFn_get]

end Permuted

/-! ### Permuted records -/

/-- The number of a slot after the renumbering; what is no slot keeps its number. -/
def renameSlot {n : ℕ} (σ : Equiv.Perm (Fin n)) (slot : ℤ) : ℤ :=
  if h : 0 ≤ slot ∧ slot.toNat < n then ((σ ⟨slot.toNat, h.2⟩ : Fin n) : ℕ) else slot

/-- A slice whose lists have the new slot numbers. -/
def SliceRecord.renumber {n : ℕ} (σ : Equiv.Perm (Fin n)) (s : SliceRecord) : SliceRecord :=
  { s with l0 := s.l0.map (renameSlot σ), l1 := s.l1.map (renameSlot σ) }

/-- A record whose slots are permuted, with the new slot numbers in all its lists. -/
def Record.renumber (r : Record) (σ : Equiv.Perm (Fin r.dpb.length)) : Record :=
  { r with
    dpb := permuted σ (fun j e => { e with i := j }) rfl
    slices := r.slices.map (SliceRecord.renumber σ)
    stBefore := r.stBefore.map (renameSlot σ)
    stAfter := r.stAfter.map (renameSlot σ)
    ltCurr := r.ltCurr.map (renameSlot σ) }

@[simp] lemma renumber_dpb_length (r : Record) (σ : Equiv.Perm (Fin r.dpb.length)) :
    (r.renumber σ).dpb.length = r.dpb.length := by
  simp [Record.renumber]

/-- The same in another slot. -/
def Reference.inSlot (slot : ℕ) (ref : Reference) : Reference := { ref with slot }

/-- What is reported of a slot, but for its number. -/
def Reference.content (ref : Reference) : ℤ × Writer × ℤ × Word × Option ℕ :=
  (ref.compressedBuffer, ref.writer, ref.longTerm, ref.header, ref.headerIfSlicePocEqualsDecodePoc)

/-- The writers of a reference list, in its order. -/
def writerSequence (entries : List ListEntry) : List (ℕ × Writer) :=
  entries.map fun entry => (entry.position, entry.writer)

/-- Two reports of a picture that agree but for the slot numbers: the same slots up to their order, the
same writers in the lists, and the same motion reference. -/
structure SameButSlots (m m' : Mapped) : Prop where
  rest : m' = { m with dpb := m'.dpb, l0 := m'.l0, l1 := m'.l1 }
  dpb : (m'.dpb.map Reference.content).Perm (m.dpb.map Reference.content)
  l0 : writerSequence m'.l0 = writerSequence m.l0
  l1 : writerSequence m'.l1 = writerSequence m.l1

section Slots

variable {n : ℕ} {σ : Equiv.Perm (Fin n)} {slot : ℤ}

lemma renameSlot_of_lt (h : 0 ≤ slot ∧ slot.toNat < n) :
    renameSlot σ slot = ((σ ⟨slot.toNat, h.2⟩ : Fin n) : ℕ) := dif_pos h

lemma renameSlot_range (h : 0 ≤ slot ∧ slot < n) :
    0 ≤ renameSlot σ slot ∧ renameSlot σ slot < n := by
  have hlt : slot.toNat < n := by omega
  rw [renameSlot_of_lt ⟨h.1, hlt⟩]
  have := (σ ⟨slot.toNat, hlt⟩).2
  omega

/-- The slots that a DPB has are the same ones after the renumbering. -/
lemma itemAt_permuted {refs : List Reference} (hlen : refs.length = n) (h : 0 ≤ slot ∧ slot < n)
    {ref : Reference} (href : itemAt refs slot = .ok ref) (f : ℕ → Reference → Reference) :
    ∃ k, itemAt (permuted σ f hlen) (renameSlot σ slot) = .ok (f k ref) := by
  have hlt : slot.toNat < n := by omega
  refine ⟨σ ⟨slot.toNat, hlt⟩, ?_⟩
  rw [itemAt_ok] at href ⊢
  rw [renameSlot_of_lt ⟨h.1, hlt⟩, Int.toNat_natCast, getElem?_permuted, href]
  rfl

end Slots

/-! ### The DPB -/

section Dpb

variable {writers : Dict ℤ Writer} {r : Record} {seen : List ℤ} {slot : ℕ} {dpb : List DpbEntry}
  {refs : List Reference}

lemma mapEntry_seen {e : DpbEntry} {ref : Reference} : mapEntry writers r seen slot e = .ok ref ↔
    e.buf ∉ seen ∧ mapEntry writers r [] slot e = .ok ref := by
  simp only [mapEntry, Except.bind_ok, need_ok, integer_ok, found_ok, Except.pure_ok,
    List.not_mem_nil, not_false_eq_true, and_true]
  constructor
  · rintro ⟨_, hplain, lt, hlt, _, ⟨htarget, hseen⟩, hrest⟩
    exact ⟨hseen, (), hplain, lt, hlt, (), htarget, hrest⟩
  · rintro ⟨hseen, _, hplain, lt, hlt, _, htarget, hrest⟩
    exact ⟨(), hplain, lt, hlt, (), ⟨htarget, hseen⟩, hrest⟩

/-- The DPB is read slot by slot, and no buffer is in it twice. -/
lemma mapDpb_iff : mapDpb writers r seen slot dpb = .ok refs ↔ refs.length = dpb.length ∧
    (∀ e ∈ dpb, e.buf ∉ seen) ∧ (dpb.map DpbEntry.buf).Nodup ∧
      ∀ j e ref, dpb[j]? = some e → refs[j]? = some ref →
        mapEntry writers r [] (slot + j) e = .ok ref := by
  induction dpb generalizing seen slot refs with
  | nil =>
      simp only [mapDpb, Except.ok.injEq, List.length_nil, List.length_eq_zero_iff]
      constructor
      · rintro rfl
        simp
      · rintro ⟨rfl, _⟩
        rfl
  | cons e dpb ih =>
      simp only [mapDpb, Except.bind_ok, Except.pure_ok, @mapEntry_seen _ _ seen, ih]
      constructor
      · rintro ⟨ref, ⟨hseen, href⟩, more, ⟨hlen, hfresh, hnodup, hslots⟩, rfl⟩
        refine ⟨by simp [hlen], fun e' he' => ?_, ?_, fun j e' ref' he' href' => ?_⟩
        · rcases List.mem_cons.mp he' with rfl | he'
          · exact hseen
          · exact fun hmem => hfresh e' he' (List.mem_cons_of_mem _ hmem)
        · rw [List.map_cons, List.nodup_cons]
          refine ⟨fun hmem => ?_, hnodup⟩
          obtain ⟨e', he', heq⟩ := List.mem_map.mp hmem
          exact hfresh e' he' (heq ▸ List.mem_cons_self)
        · cases j with
          | zero =>
              obtain rfl : e = e' := by simpa using he'
              obtain rfl : ref = ref' := by simpa using href'
              exact href
          | succ j =>
              have hslot := hslots j e' ref' (by simpa using he') (by simpa using href')
              rwa [Nat.add_right_comm, Nat.add_assoc] at hslot
      · rintro ⟨hlen, hfresh, hnodup, hslots⟩
        obtain ⟨ref, more, rfl⟩ := List.exists_cons_of_length_eq_add_one hlen
        rw [List.map_cons, List.nodup_cons] at hnodup
        refine ⟨ref, ⟨hfresh e List.mem_cons_self, hslots 0 e ref rfl rfl⟩, more,
          ⟨Nat.succ.inj hlen, fun e' he' hmem => ?_, hnodup.2, fun j e' ref' he' href' => ?_⟩, rfl⟩
        · rcases List.mem_cons.mp hmem with heq | hmem
          · exact hnodup.1 (List.mem_map.mpr ⟨e', he', heq⟩)
          · exact hfresh e' (List.mem_cons_of_mem _ he') hmem
        · have hslot := hslots (j + 1) e' ref' (by simpa using he') (by simpa using href')
          rwa [← Nat.add_assoc, Nat.add_right_comm] at hslot

/-- An entry is read in the same way in another slot. -/
lemma mapEntry_renumber {σ : Equiv.Perm (Fin r.dpb.length)} {k j : ℕ} {e : DpbEntry} {ref : Reference}
    (h : mapEntry writers r [] k e = .ok ref) :
    mapEntry writers (r.renumber σ) [] j { e with i := j } = .ok { ref with slot := j } := by
  have hlen := renumber_dpb_length r σ
  simp only [mapEntry, Except.bind_ok, need_ok, integer_ok, found_ok, Except.pure_ok, hlen] at h ⊢
  obtain ⟨_, ⟨_, hfield⟩, lt, hlt, _, halias, w, hw, _, hpoc, header, hheader, full, hfull, rfl⟩ := h
  exact ⟨(), ⟨trivial, hfield⟩, lt, hlt, (), halias, w, hw, (), hpoc, header, hheader, full, hfull, rfl⟩

/-- **The DPB** of a permuted record is the permuted DPB. -/
lemma mapDpb_renumber (σ : Equiv.Perm (Fin r.dpb.length)) (hlen : refs.length = r.dpb.length)
    (h : mapDpb writers r [] 0 r.dpb = .ok refs) :
    mapDpb writers (r.renumber σ) [] 0 (r.renumber σ).dpb
      = .ok (permuted σ Reference.inSlot hlen) := by
  obtain ⟨_, _, hnodup, hslots⟩ := mapDpb_iff.mp h
  refine mapDpb_iff.mpr ⟨by simp [Record.renumber], by simp, ?_, fun j e ref he href => ?_⟩
  · exact (map_permuted_perm σ (fun j e => { e with i := j }) rfl DpbEntry.buf fun _ _ => rfl).nodup_iff.mpr
      hnodup
  · have hj : j < r.dpb.length := by
      have := (List.getElem?_eq_some_iff.mp href).1
      rwa [permuted_length] at this
    obtain ⟨k, hk⟩ := σ.surjective ⟨j, hj⟩
    have hval : (σ k : ℕ) = j := congrArg Fin.val hk
    rw [← hval, Record.renumber] at he
    dsimp only at he
    rw [getElem?_permuted] at he
    rw [← hval, getElem?_permuted] at href
    obtain ⟨e', he', rfl⟩ := Option.map_eq_some_iff.mp he
    obtain ⟨ref', href', rfl⟩ := Option.map_eq_some_iff.mp href
    rw [Nat.zero_add, ← hval]
    exact mapEntry_renumber (hslots k e' ref' he' href')

end Dpb

/-! ### The lists and the motion reference -/

section Lists

variable {refs : List Reference} {n : ℕ} {σ : Equiv.Perm (Fin n)} (hlen : refs.length = n)
  (f : ℕ → Reference → Reference) (hf : ∀ k ref, (f k ref).writer = ref.writer)

include hf

lemma mapListEntry_renumber {li position : ℕ} {slot : ℤ} {entry : ListEntry}
    (h : mapListEntry refs li position slot = .ok entry) (hshort : n ≤ 16) :
    ∃ entry', mapListEntry (permuted σ f hlen) li position (renameSlot σ slot) = .ok entry' ∧
      entry'.position = entry.position ∧ entry'.writer = entry.writer := by
  simp only [mapListEntry, refListWord, Except.bind_ok, integer_ok, Except.pure_ok] at h
  obtain ⟨_, ⟨rfl, hlow, hhigh⟩, _, ⟨_, ⟨rfl, hli⟩, _, ⟨rfl, hposition⟩, _, _, rfl⟩, ref, href, rfl⟩ := h
  have hrange := @renameSlot_range _ σ slot ⟨hlow, by omega⟩
  obtain ⟨k, hk⟩ := itemAt_permuted (σ := σ) hlen ⟨hlow, by omega⟩ href f
  simp only [mapListEntry, refListWord, Except.bind_ok, integer_ok, Except.pure_ok, permuted_length]
  exact ⟨_, ⟨_, ⟨rfl, hrange.1, by omega⟩, _, ⟨_, ⟨rfl, hli⟩, _, ⟨rfl, hposition⟩, _,
    ⟨rfl, hrange.1, by omega⟩, rfl⟩, _, hk, rfl⟩, rfl, hf k ref⟩

/-- The entries of a list have the same writers. -/
lemma mapEntries_renumber {li start : ℕ} {slots : List ℤ} {entries : List ListEntry}
    (h : (slots.zipIdx start).mapM (fun p => mapListEntry refs li p.2 p.1) = .ok entries)
    (hshort : n ≤ 16) :
    ∃ entries', ((slots.map (renameSlot σ)).zipIdx start).mapM
        (fun p => mapListEntry (permuted σ f hlen) li p.2 p.1) = .ok entries' ∧
      writerSequence entries' = writerSequence entries := by
  induction slots generalizing start entries with
  | nil => exact ⟨entries, h, rfl⟩
  | cons slot slots ih =>
      simp only [List.zipIdx_cons, List.mapM_cons, List.map_cons, Except.bind_ok, Except.pure_ok] at h ⊢
      obtain ⟨entry, hentry, more, hmore, rfl⟩ := h
      obtain ⟨entry', hentry', hposition, hwriter⟩ :=
        mapListEntry_renumber (σ := σ) hlen f hf hentry hshort
      obtain ⟨more', hmore', hsequence⟩ := ih hmore
      refine ⟨entry' :: more', ⟨entry', hentry', more', hmore', rfl⟩, ?_⟩
      rw [writerSequence, writerSequence, List.map_cons, List.map_cons, hposition, hwriter]
      exact congrArg _ hsequence

/-- **A reference list** has the same writers. -/
lemma mapList_renumber {li : ℕ} {slots : List ℤ} {entries : List ListEntry}
    (h : mapList refs li slots = .ok entries) (hshort : n ≤ 16) :
    ∃ entries', mapList (permuted σ f hlen) li (slots.map (renameSlot σ)) = .ok entries' ∧
      writerSequence entries' = writerSequence entries := by
  simp only [mapList, Except.bind_ok, need_ok, List.length_map] at h ⊢
  obtain ⟨_, hlength, h⟩ := h
  obtain ⟨entries', hentries', hsequence⟩ := mapEntries_renumber (σ := σ) hlen f hf h hshort
  exact ⟨entries', ⟨(), hlength, hentries'⟩, hsequence⟩

/-- The collocated writer is the same. -/
lemma collocated_renumber {s : SliceRecord} {w : Writer}
    (hslots : ∀ slot ∈ s.l0 ++ s.l1, 0 ≤ slot ∧ slot < n) (h : collocated s refs = .ok w) :
    collocated (s.renumber σ) (permuted σ f hlen) = .ok w := by
  simp only [collocated, Except.bind_ok, found_ok, integer_ok, Except.pure_ok] at h ⊢
  obtain ⟨colL0, hcolL0, col, hcol, _, ⟨rfl, hlow, hhigh⟩, slot, hslot, ref, href, rfl⟩ := h
  have hselected : (if s.type = "P" ∨ colL0 ≠ 0 then (s.renumber σ).l0 else (s.renumber σ).l1)
      = (if s.type = "P" ∨ colL0 ≠ 0 then s.l0 else s.l1).map (renameSlot σ) := by
    split_ifs <;> rfl
  have hmem : slot ∈ s.l0 ++ s.l1 := by
    have := List.mem_of_getElem? (itemAt_ok.mp hslot)
    split_ifs at this
    · exact List.mem_append_left _ this
    · exact List.mem_append_right _ this
  obtain ⟨k, hk⟩ := itemAt_permuted (σ := σ) hlen (hslots slot hmem) href f
  refine ⟨colL0, hcolL0, col, hcol, col, ⟨rfl, hlow, ?_⟩, renameSlot σ slot, ?_, _, hk, hf k ref⟩
  · rw [show (s.renumber σ).type = s.type from rfl, hselected, List.length_map]
    exact hhigh
  · rw [show (s.renumber σ).type = s.type from rfl, hselected, itemAt_ok, List.getElem?_map,
      itemAt_ok.mp hslot]
    rfl

/-- **The motion reference** is the same. -/
lemma motion_renumber {s : SliceRecord} {mo : Motion}
    (hslots : ∀ slot ∈ s.l0 ++ s.l1, 0 ≤ slot ∧ slot < n) (h : motion s refs = .ok mo) :
    motion (s.renumber σ) (permuted σ f hlen) = .ok mo := by
  have hfields : ∀ refValid, motionFields (s.renumber σ) refValid = motionFields s refValid := by
    intro refValid
    rw [motionFields, motionFields, SliceRecord.renumber]
    dsimp only
    rw [List.length_map, List.length_map]
  have hinter : ∀ col, interMotion (s.renumber σ) col = interMotion s col := by
    intro col
    rw [interMotion, interMotion, hfields]
    rfl
  by_cases htype : s.type = "I"
  · rw [motion, if_pos htype] at h
    rw [motion, if_pos (show (s.renumber σ).type = "I" from htype)]
    exact h
  · rw [motion, if_neg htype] at h
    rw [motion, if_neg (show (s.renumber σ).type ≠ "I" from htype)]
    simp only [Except.bind_ok, hinter] at h ⊢
    obtain ⟨col, hcol, hmo⟩ := h
    refine ⟨col, ?_, hmo⟩
    by_cases htmvp : s.tmvp = 0
    · rw [collocated?, if_pos htmvp] at hcol
      rw [collocated?, if_pos (show (s.renumber σ).tmvp = 0 from htmvp)]
      exact hcol
    · rw [collocated?, if_neg htmvp] at hcol
      rw [collocated?, if_neg (show (s.renumber σ).tmvp ≠ 0 from htmvp)]
      cases hc : collocated s refs with
      | error e => simp [hc, Except.map] at hcol
      | ok w =>
          rw [collocated_renumber hlen f hf hslots hc]
          rwa [hc] at hcol

end Lists

/-! ### One picture and the whole map -/

section Map

variable {st st' : State} {context : ℤ} {run : String} {ordinal : ℕ} {r : Record}

lemma checkRecord_renumber {s : SliceRecord} (σ : Equiv.Perm (Fin r.dpb.length))
    (h : checkRecord st context run ordinal r = .ok s) :
    checkRecord st context run ordinal (r.renumber σ) = .ok (s.renumber σ) := by
  simp only [checkRecord, Except.bind_ok, need_ok, found_ok, Except.pure_ok,
    renumber_dpb_length] at h ⊢
  obtain ⟨_, hschema, _, hcontext, _, hnumbers, _, hsingle, poc, hpoc, _, hfresh, target, htarget, _,
    hlen, s', hhead, _, hslice, tmvp, htmvp, _, hshort, rfl⟩ := h
  refine ⟨(), hschema, (), hcontext, (), hnumbers, (), hsingle, poc, hpoc, (), hfresh, target, htarget,
    (), ?_, s'.renumber σ, ?_, (), hslice, tmvp, htmvp, (), hshort, rfl⟩
  · exact (List.length_map _).trans hlen
  · rw [Record.renumber, List.head?_map, hhead]
    rfl

lemma checkIndices_iff {n : ℕ} {indices : List ℤ} :
    checkIndices n indices = .ok () ↔ ∀ i ∈ indices, 0 ≤ i ∧ i < n := by
  rw [checkIndices]
  induction indices with
  | nil => simp
  | cons i indices ih =>
      simp only [List.forM_eq_forM] at ih ⊢
      simp only [List.forM_cons, Except.bind_ok, integer_ok, Except.pure_ok, ih, List.mem_cons,
        forall_eq_or_imp]
      constructor
      · rintro ⟨_, ⟨_, ⟨rfl, hi⟩, _⟩, hindices⟩
        exact ⟨⟨hi.1, by omega⟩, hindices⟩
      · rintro ⟨hi, hindices⟩
        exact ⟨(), ⟨i, ⟨rfl, hi.1, by omega⟩, trivial⟩, hindices⟩

/-- The slots of a list are in the DPB. -/
lemma ListsSlots.range {refs : List Reference} {slots : List ℤ} {entries : List ListEntry}
    (h : ListsSlots refs slots entries) : ∀ slot ∈ slots, 0 ≤ slot ∧ slot < refs.length := by
  intro slot hmem
  obtain ⟨j, hj⟩ := List.mem_iff_getElem?.mp hmem
  have hbound : j < entries.length := h.1 ▸ (List.getElem?_eq_some_iff.mp hj).1
  obtain ⟨_, _, hnonneg, ref, href, _⟩ := h.2 j slot entries[j] hj (List.getElem?_eq_getElem hbound)
  have hlt := (List.getElem?_eq_some_iff.mp href).1
  exact ⟨hnonneg, by omega⟩

/-- **One picture**: a permuted record is accepted, with the same state after it. -/
lemma mapRecord_renumber {m : Mapped} (σ : Equiv.Perm (Fin r.dpb.length))
    (h : mapRecord st context run ordinal r = .ok (m, st')) :
    ∃ m', mapRecord st context run ordinal (r.renumber σ) = .ok (m', st') ∧ SameButSlots m m' := by
  simp only [mapRecord, Except.bind_ok, need_ok, Except.pure_ok, Prod.mk.injEq] at h
  obtain ⟨s, hs, refs, hrefs, _, hindices, l0, hl0, l1, hl1, _, hlists, _, hcol, mo, hmo, rfl, rfl⟩ := h
  have hlen := (mapDpb_ok hrefs).1
  have hshort : r.dpb.length ≤ 16 := by
    simp only [checkRecord, Except.bind_ok, need_ok, integer_ok, found_ok, Except.pure_ok] at hs
    obtain ⟨_, _, _, _, _, _, _, _, _, _, _, _, _, _, _, _, _, _, _, _, _, _, _, hshort, _⟩ := hs
    exact hshort
  have hrange : ∀ slot ∈ s.l0 ++ s.l1, 0 ≤ slot ∧ slot < (r.dpb.length : ℤ) := by
    intro slot hslot
    rw [← hlen]
    rcases List.mem_append.mp hslot with hslot | hslot
    · exact ListsSlots.range (mapList_ok hl0) slot hslot
    · exact ListsSlots.range (mapList_ok hl1) slot hslot
  obtain ⟨l0', hl0', hsequence0⟩ := mapList_renumber (σ := σ) hlen
    Reference.inSlot (fun _ _ => rfl) hl0 hshort
  obtain ⟨l1', hl1', hsequence1⟩ := mapList_renumber (σ := σ) hlen
    Reference.inSlot (fun _ _ => rfl) hl1 hshort
  have hmo' := motion_renumber (σ := σ) hlen Reference.inSlot (fun _ _ => rfl)
    hrange hmo
  have hindices' : checkIndices r.dpb.length
      ((r.renumber σ).stBefore ++ (r.renumber σ).stAfter ++ (r.renumber σ).ltCurr) = .ok () := by
    have hrenamed : (r.renumber σ).stBefore ++ (r.renumber σ).stAfter ++ (r.renumber σ).ltCurr
        = (r.stBefore ++ r.stAfter ++ r.ltCurr).map (renameSlot σ) := by
      simp [Record.renumber]
    rw [hlen] at hindices
    rw [hrenamed, checkIndices_iff]
    rw [checkIndices_iff] at hindices
    intro i hi
    obtain ⟨slot, hslot, rfl⟩ := List.mem_map.mp hi
    exact renameSlot_range (hindices slot hslot)
  have hlists' : ((s.renumber σ).type = "I" ∧ (s.renumber σ).l0 = [] ∧ (s.renumber σ).l1 = []) ∨
      ((s.renumber σ).type = "P" ∧ (s.renumber σ).l0 ≠ [] ∧ (s.renumber σ).l1 = []) ∨
      ((s.renumber σ).type = "B" ∧ (s.renumber σ).l0 ≠ [] ∧ (s.renumber σ).l1 ≠ []) := by
    simpa [SliceRecord.renumber] using hlists
  refine ⟨{ picture := ordinal, poc := r.poc, sliceType := s.type, nal := s.nal
            destination := st.current ordinal r s
            previousDestinationWriter := st.writers.get? r.target
            dpb := permuted σ Reference.inSlot hlen
            referenceTableEmitted := s.type ≠ "I", l0 := l0', l1 := l1', motion := mo }, ?_,
    ⟨rfl, map_permuted_perm σ Reference.inSlot hlen Reference.content fun _ _ => rfl, hsequence0, hsequence1⟩⟩
  simp only [mapRecord, Except.bind_ok, need_ok, Except.pure_ok, Prod.mk.injEq]
  exact ⟨s.renumber σ, checkRecord_renumber σ hs, _, mapDpb_renumber σ hlen hrefs, (),
    by rwa [permuted_length], l0', hl0', l1', hl1', (), hlists', (), hcol, mo, hmo', rfl, rfl⟩

/-- A record and one with its slots permuted. -/
def Renumbers (r r' : Record) : Prop := ∃ σ, r' = r.renumber σ

lemma mapLoop_renumber {records records' : List Record} {mapped : List Mapped}
    (h : mapLoop context run st ordinal records = .ok mapped)
    (hrecords : List.Forall₂ Renumbers records records') :
    ∃ mapped', mapLoop context run st ordinal records' = .ok mapped' ∧
      List.Forall₂ SameButSlots mapped mapped' := by
  induction hrecords generalizing st ordinal mapped with
  | nil =>
      obtain rfl := Except.ok.inj h
      exact ⟨[], rfl, .nil⟩
  | cons hr _ ih =>
      obtain ⟨σ, rfl⟩ := hr
      simp only [mapLoop, Except.bind_ok, Except.pure_ok] at h ⊢
      obtain ⟨⟨m, st₁⟩, hm, more, hmore, rfl⟩ := h
      obtain ⟨m', hm', hsame⟩ := mapRecord_renumber σ hm
      obtain ⟨more', hmore', hrest⟩ := ih hmore
      exact ⟨m' :: more', ⟨(m', st₁), hm', more', hmore', rfl⟩, .cons hsame hrest⟩

end Map

/-- **The map does not depend on the numbering of the slots.**  If the slots of each record are
permuted, the records are accepted again, and the reports agree but for the slot numbers. -/
theorem mapRecords_renumber {records records' : List Record} {expected : ℤ} {mapped : List Mapped}
    (h : mapRecords records expected = .ok mapped)
    (hrecords : List.Forall₂ Renumbers records records') :
    ∃ mapped', mapRecords records' expected = .ok mapped' ∧
      List.Forall₂ SameButSlots mapped mapped' := by
  simp only [mapRecords, Except.bind_ok, need_ok, found_ok, ← hrecords.length_eq] at h ⊢
  obtain ⟨n, hn, _, hlen, first, hfirst, hloop⟩ := h
  obtain ⟨mapped', hloop', hsame⟩ := mapLoop_renumber hloop hrecords
  cases hrecords with
  | nil => exact absurd hfirst (by simp)
  | cons hr _ =>
      obtain ⟨σ, rfl⟩ := hr
      obtain rfl := Option.some.inj hfirst
      exact ⟨mapped', ⟨n, hn, (), hlen, _, rfl, hloop'⟩, hsame⟩

/-- The fixture with the slots of every picture in reverse order. -/
def reversedFixture : List Record := fixture.map fun r => r.renumber Fin.revPerm

/-- The fixture and its reverse have the same map but for the slot numbers. -/
theorem reversedFixture_same : ∃ mapped mapped', mapRecords fixture 5 = .ok mapped ∧
    mapRecords reversedFixture 5 = .ok mapped' ∧
    mapped.map (fun m => m.motion.collocated.map Writer.picture)
      = [none, none, some 2, some 3, some 4] ∧
    List.Forall₂ SameButSlots mapped mapped' := by
  obtain ⟨mapped, h, hpictures⟩ := ok_of_collocatedPictures collocatedPictures_fixture
  have hrecords : List.Forall₂ Renumbers fixture reversedFixture := by
    rw [reversedFixture, List.forall₂_map_right_iff, List.forall₂_same]
    exact fun r _ => ⟨Fin.revPerm, rfl⟩
  obtain ⟨mapped', h', hsame⟩ := mapRecords_renumber h hrecords
  exact ⟨mapped, mapped', h, h', hpictures, hsame⟩

end OmarchyM1Video.AvdMap
