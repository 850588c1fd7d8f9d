import OmarchyM1Video.AvdMap.Model
import OmarchyM1Video.Py.History

/-!
What `map_records` reports is the history of the buffers.

The loop keeps, of every buffer, the last picture before the current one that wrote it and the
number of pictures that did; both are functions of the records alone.

* `writerOf`, `Writes`: a picture as a writer, and the last writer of a buffer;
* `Tracks`, `Tracks.next`: what the loop keeps, and that an iteration keeps it;
* `mapDpb_ok`, `mapList_ok`, `motion_ok`: the parts of a report;
* `Reports`, `mapRecord_reports`, `mapRecords_reports`: a report in terms of the records.
-/

namespace OmarchyM1Video.AvdMap

open OmarchyM1Video.Py

/-! ### The history of the buffers -/

/-- How many of the first `n` pictures have a buffer as their target. -/
def countTarget (records : List Record) (n : ℕ) (b : ℤ) : ℕ :=
  (records.take n).countP fun r => r.target = b

/-- Picture `q`, counted from zero, as a writer. -/
def writerOf (records : List Record) (q : ℕ) (r : Record) : Writer :=
  { picture := q + 1, poc := r.poc, buffer := r.target
    generation := countTarget records (q + 1) r.target
    isIntra := (r.slices.head?.map SliceRecord.type) = some "I" }

/-- The last of the first `p` pictures that has `b` as its target is the writer `w`. -/
def Writes (records : List Record) (p : ℕ) (b : ℤ) (w : Writer) : Prop :=
  ∃ q r, LastBefore (fun r => r.target = b) records p q ∧ records[q]? = some r ∧
    w = writerOf records q r

/-- The state of the loop before picture `n`. -/
structure Tracks (records : List Record) (n : ℕ) (st : State) : Prop where
  writers : ∀ b w, st.writers.get? b = some w ↔ Writes records n b w
  generations : ∀ b, (st.generations.get? b).getD 0 = countTarget records n b
  pocs : ∀ c, c ∈ st.pocs ↔ ∃ k r, k < n ∧ records[k]? = some r ∧ r.poc = c

section Step

variable {records : List Record} {n : ℕ} {r : Record}

lemma countTarget_succ (hr : records[n]? = some r) (b : ℤ) :
    countTarget records (n + 1) b = countTarget records n b + if r.target = b then 1 else 0 := by
  rw [countTarget, List.take_add_one, hr, List.countP_append]
  simp [countTarget]

lemma writes_succ (hr : records[n]? = some r) {b : ℤ} {w : Writer} :
    Writes records (n + 1) b w ↔
      if b = r.target then writerOf records n r = w else Writes records n b w := by
  simp only [Writes, lastBefore_succ hr]
  by_cases hb : b = r.target
  · subst hb
    simp only [true_and, not_true_eq_false, false_and, or_false, if_true]
    constructor
    · rintro ⟨q, r', rfl, hr', rfl⟩
      rw [Option.some.inj (hr.symm.trans hr')]
    · rintro rfl
      exact ⟨n, r, rfl, hr, rfl⟩
  · have hne : r.target ≠ b := fun h => hb h.symm
    simp only [hne, hb, false_and, not_false_eq_true, true_and, false_or, if_false]

lemma tracks_nil : Tracks records 0 {} where
  writers b w := by
    simp only [Dict.get?_empty, reduceCtorEq, false_iff]
    rintro ⟨q, _, hlast, _⟩
    exact not_lastBefore_zero hlast
  generations b := by simp [countTarget]
  pocs c := by simp

/-- The picture as the loop builds it is the picture as a writer. -/
lemma Tracks.current_eq {st : State} {s : SliceRecord} (h : Tracks records n st)
    (hr : records[n]? = some r) (hs : r.slices = [s]) :
    st.current (n + 1) r s = writerOf records n r := by
  simp [State.current, writerOf, h.generations, countTarget_succ hr, hs]

/-- **One iteration** keeps the last writers and the counts. -/
lemma Tracks.next {st : State} {s : SliceRecord} (h : Tracks records n st)
    (hr : records[n]? = some r) (hs : r.slices = [s]) :
    Tracks records (n + 1) (st.next (n + 1) r s) where
  writers b w := by
    rw [writes_succ hr, State.next, h.current_eq hr hs, Dict.get?_set]
    by_cases hb : b = r.target
    · rw [if_pos hb, if_pos hb, Option.some.injEq]
    · rw [if_neg hb, if_neg hb, h.writers]
  generations b := by
    rw [State.next, Dict.get?_set, countTarget_succ hr]
    by_cases hb : b = r.target
    · rw [if_pos hb, if_pos hb.symm, Option.getD_some, h.generations, hb]
    · rw [if_neg hb, if_neg fun heq => hb heq.symm, h.generations, Nat.add_zero]
  pocs c := by
    rw [State.next, List.mem_cons, h.pocs]
    constructor
    · rintro (rfl | ⟨k, r', hk, hr', hc⟩)
      · exact ⟨n, r, by omega, hr, rfl⟩
      · exact ⟨k, r', by omega, hr', hc⟩
    · rintro ⟨k, r', hk, hr', hc⟩
      rcases Nat.lt_succ_iff_lt_or_eq.mp hk with hlt | rfl
      · exact Or.inr ⟨k, r', hlt, hr', hc⟩
      · obtain rfl := Option.some.inj (hr.symm.trans hr')
        exact Or.inl hc.symm

end Step

/-! ### The parts of a report -/

@[simp] lemma integer_ok {value low high v : ℤ} :
    integer value low high = .ok v ↔ value = v ∧ low ≤ value ∧ value ≤ high := by
  simp only [integer, Except.bind_ok, need_ok, Except.pure_ok]
  constructor
  · rintro ⟨_, hrange, rfl⟩
    exact ⟨rfl, hrange⟩
  · rintro ⟨rfl, hrange⟩
    exact ⟨(), hrange, rfl⟩

@[simp] lemma itemAt_ok {α : Type} {xs : List α} {i : ℤ} {x : α} :
    itemAt xs i = .ok x ↔ xs[i.toNat]? = some x := by
  rw [itemAt, found_ok]

/-- The reference of a slot: the writer that its buffer has in the map, with the same POC. -/
structure ReadsSlot (writers : Dict ℤ Writer) (slot : ℕ) (e : DpbEntry) (ref : Reference) : Prop where
  slot : ref.slot = slot
  writer : writers.get? e.buf = some ref.writer
  poc : ref.writer.poc = e.poc
  buffer : ref.compressedBuffer = e.buf

lemma mapEntry_ok {writers : Dict ℤ Writer} {r : Record} {seen : List ℤ} {slot : ℕ} {e : DpbEntry}
    {ref : Reference} (h : mapEntry writers r seen slot e = .ok ref) :
    ReadsSlot writers slot e ref ∧ e.buf ≠ r.target ∧ e.buf ∉ seen := by
  simp only [mapEntry, Except.bind_ok, need_ok, integer_ok, found_ok, Except.pure_ok] at h
  obtain ⟨_, _, _, _, _, halias, w, hw, _, hpoc, _, _, _, _, rfl⟩ := h
  exact ⟨⟨rfl, hw, hpoc, rfl⟩, halias⟩

/-- The references of a DPB, and that no slot aliases the target or another slot. -/
lemma mapDpb_ok {writers : Dict ℤ Writer} {r : Record} {seen : List ℤ} {slot : ℕ}
    {dpb : List DpbEntry} {refs : List Reference} (h : mapDpb writers r seen slot dpb = .ok refs) :
    refs.length = dpb.length ∧
      (∀ j e ref, dpb[j]? = some e → refs[j]? = some ref →
        ReadsSlot writers (slot + j) e ref) ∧
      (∀ e ∈ dpb, e.buf ≠ r.target ∧ e.buf ∉ seen) ∧ (dpb.map DpbEntry.buf).Nodup := by
  induction dpb generalizing seen slot refs with
  | nil =>
      simp only [mapDpb, Except.ok.injEq] at h
      subst h
      simp
  | cons e dpb ih =>
      simp only [mapDpb, Except.bind_ok, Except.pure_ok] at h
      obtain ⟨ref, href, more, hmore, rfl⟩ := h
      obtain ⟨hreads, htarget, hseen⟩ := mapEntry_ok href
      obtain ⟨hlen, hslots, halias, hnodup⟩ := ih hmore
      refine ⟨by simp [hlen], fun j e' ref' he href' => ?_, fun e' he => ?_, ?_⟩
      · cases j with
        | zero =>
            obtain rfl : e = e' := by simpa using he
            obtain rfl : ref = ref' := by simpa using href'
            exact hreads
        | succ j =>
            have hslot := hslots j e' ref' (by simpa using he) (by simpa using href')
            rwa [show slot + 1 + j = slot + (j + 1) by omega] at hslot
      · rcases List.mem_cons.mp he with rfl | he
        · exact ⟨htarget, hseen⟩
        · exact ⟨(halias e' he).1, fun hmem => (halias e' he).2 (List.mem_cons_of_mem _ hmem)⟩
      · rw [List.map_cons, List.nodup_cons]
        refine ⟨fun hmem => ?_, hnodup⟩
        obtain ⟨e', he', heq⟩ := List.mem_map.mp hmem
        exact (halias e' he').2 (heq ▸ List.mem_cons_self)

/-- The writer of the slot with an index. -/
def SlotWriter (refs : List Reference) (slot : ℤ) (w : Writer) : Prop :=
  0 ≤ slot ∧ ∃ ref, refs[slot.toNat]? = some ref ∧ ref.writer = w

/-- The entries of a reference list: one for each index, with the writer of its slot. -/
def ListsSlots (refs : List Reference) (slots : List ℤ) (entries : List ListEntry) : Prop :=
  entries.length = slots.length ∧ ∀ j slot (entry : ListEntry), slots[j]? = some slot →
    entries[j]? = some entry → entry.position = j ∧ entry.slot = slot ∧ SlotWriter refs slot entry.writer

lemma mapListEntry_ok {refs : List Reference} {li position : ℕ} {slot : ℤ} {entry : ListEntry}
    (h : mapListEntry refs li position slot = .ok entry) :
    entry.position = position ∧ entry.slot = slot ∧ SlotWriter refs slot entry.writer := by
  simp only [mapListEntry, Except.bind_ok, integer_ok, itemAt_ok, Except.pure_ok] at h
  obtain ⟨_, ⟨rfl, hlow, _⟩, _, _, ref, href, rfl⟩ := h
  exact ⟨rfl, rfl, hlow, ref, href, rfl⟩

lemma mapList_ok {refs : List Reference} {li : ℕ} {slots : List ℤ} {entries : List ListEntry}
    (h : mapList refs li slots = .ok entries) : ListsSlots refs slots entries := by
  simp only [mapList, Except.bind_ok, need_ok] at h
  obtain ⟨_, _, h⟩ := h
  obtain ⟨hlen, hget⟩ := mapM_ok h
  refine ⟨by simpa using hlen, fun j slot entry hslot hentry => ?_⟩
  refine mapListEntry_ok (hget j (slot, j) entry ?_ hentry)
  simp [List.getElem?_zipIdx, hslot]

/-- The list that a slice finds its collocated reference in. -/
def selected (s : SliceRecord) (colL0 : ℤ) : List ℤ :=
  if s.type = "P" ∨ colL0 ≠ 0 then s.l0 else s.l1

/-- The collocated writer: that of the slot which the selected list has at the given index, where
the slice uses one. -/
def Collocates (s : SliceRecord) (refs : List Reference) (w : Option Writer) : Prop :=
  if s.type = "I" ∨ s.tmvp = 0 then w = none
  else ∃ colL0 col slot w', s.colL0 = some colL0 ∧ s.col = some col ∧ 0 ≤ col ∧
    (selected s colL0)[col.toNat]? = some slot ∧ SlotWriter refs slot w' ∧ w = some w'

lemma interMotion_collocated {s : SliceRecord} {col : Option Writer} {m : Motion}
    (h : interMotion s col = .ok m) : m.collocated = col := by
  simp only [interMotion, Except.bind_ok, Except.pure_ok] at h
  obtain ⟨_, _, rfl⟩ := h
  rfl

/-- The collocated writer; every index of the selected lists is a slot. -/
lemma motion_ok {s : SliceRecord} {refs : List Reference} {m : Motion}
    (hslots : ∀ slot ∈ s.l0 ++ s.l1, 0 ≤ slot) (h : motion s refs = .ok m) :
    Collocates s refs m.collocated := by
  rw [motion] at h
  rw [Collocates]
  by_cases htype : s.type = "I"
  · rw [if_pos htype] at h
    simp only [Except.bind_ok, Except.pure_ok] at h
    obtain ⟨_, _, rfl⟩ := h
    rw [if_pos (Or.inl htype)]
  · rw [if_neg htype, Except.bind_ok] at h
    obtain ⟨col, hcol, hmotion⟩ := h
    rw [interMotion_collocated hmotion]
    rw [collocated?] at hcol
    by_cases htmvp : s.tmvp = 0
    · rw [if_pos htmvp, Except.ok.injEq] at hcol
      rw [if_pos (Or.inr htmvp), hcol]
    · rw [if_neg htmvp] at hcol
      rw [if_neg (not_or.mpr ⟨htype, htmvp⟩)]
      cases hc : collocated s refs with
      | error e => simp [hc, Except.map] at hcol
      | ok w =>
          obtain rfl : some w = col := by simpa [hc, Except.map] using hcol
          simp only [collocated, Except.bind_ok, found_ok, integer_ok, itemAt_ok,
            Except.pure_ok] at hc
          obtain ⟨colL0, hcolL0, index, hindex, _, ⟨rfl, hlow, _⟩, slot, hslot, ref, href, rfl⟩ := hc
          have hmem : slot ∈ s.l0 ++ s.l1 := by
            have := List.mem_of_getElem? hslot
            split_ifs at this
            · exact List.mem_append_left _ this
            · exact List.mem_append_right _ this
          exact ⟨colL0, index, slot, ref.writer, hcolL0, hindex, hlow, hslot,
            ⟨hslots slot hmem, ref, href, rfl⟩, rfl⟩

/-! ### Reports -/

/-- **What is reported of picture `p`**, in terms of the records. -/
structure Reports (records : List Record) (p : ℕ) (r : Record) (m : Mapped) : Prop where
  picture : m.picture = p + 1
  /-- The destination is the picture as a writer, its generation the count up to it. -/
  destination : m.destination = writerOf records p r
  previous : ∀ w, m.previousDestinationWriter = some w ↔ Writes records p r.target w
  slots : m.dpb.length = r.dpb.length
  /-- The writer of a slot is the last writer of its buffer, with the same POC. -/
  dpb : ∀ j e (ref : Reference), r.dpb[j]? = some e → m.dpb[j]? = some ref →
    ref.slot = j ∧ Writes records p e.buf ref.writer ∧ ref.writer.poc = e.poc
  own : ∀ e ∈ r.dpb, e.buf ≠ r.target
  distinct : (r.dpb.map DpbEntry.buf).Nodup
  lists : ∃ s, r.slices = [s] ∧ ListsSlots m.dpb s.l0 m.l0 ∧ ListsSlots m.dpb s.l1 m.l1 ∧
    Collocates s m.dpb m.motion.collocated

lemma ListsSlots.nonneg {refs : List Reference} {slots : List ℤ} {entries : List ListEntry}
    (h : ListsSlots refs slots entries) : ∀ slot ∈ slots, 0 ≤ slot := by
  intro slot hmem
  obtain ⟨j, hj⟩ := List.mem_iff_getElem?.mp hmem
  have hbound : j < entries.length := h.1 ▸ (List.getElem?_eq_some_iff.mp hj).1
  obtain ⟨_, _, hnonneg, _⟩ := h.2 j slot entries[j] hj (List.getElem?_eq_getElem hbound)
  exact hnonneg

lemma checkRecord_ok {st : State} {context : ℤ} {run : String} {ordinal : ℕ} {r : Record}
    {s : SliceRecord} (h : checkRecord st context run ordinal r = .ok s) : r.slices = [s] := by
  simp only [checkRecord, Except.bind_ok, need_ok, integer_ok, found_ok, Except.pure_ok] at h
  obtain ⟨_, _, _, _, _, _, _, _, _, _, _, _, _, _, _, hlen, s', hhead, _, _, _, _, _, _, rfl⟩ := h
  obtain ⟨s'', hs⟩ := List.length_eq_one_iff.mp hlen
  rw [hs, List.head?_cons, Option.some.injEq] at hhead
  rw [hs, hhead]

/-- **One iteration** reports the picture. -/
lemma mapRecord_reports {records : List Record} {n : ℕ} {st st' : State} {context : ℤ}
    {run : String} {r : Record} {m : Mapped} (htracks : Tracks records n st)
    (hr : records[n]? = some r) (h : mapRecord st context run (n + 1) r = .ok (m, st')) :
    Reports records n r m ∧ Tracks records (n + 1) st' := by
  simp only [mapRecord, Except.bind_ok, need_ok, Except.pure_ok, Prod.mk.injEq] at h
  obtain ⟨s, hs, refs, hrefs, _, _, l0, hl0, l1, hl1, _, _, _, _, motion, hmotion, rfl, rfl⟩ := h
  have hslice := checkRecord_ok hs
  obtain ⟨hlen, hslots, halias, hnodup⟩ := mapDpb_ok hrefs
  have hlist0 := mapList_ok hl0
  have hlist1 := mapList_ok hl1
  have hnonneg : ∀ slot ∈ s.l0 ++ s.l1, 0 ≤ slot := fun slot hmem =>
    (List.mem_append.mp hmem).elim (hlist0.nonneg slot) (hlist1.nonneg slot)
  refine ⟨⟨rfl, htracks.current_eq hr hslice, fun w => htracks.writers _ w, hlen, ?_,
    fun e he => (halias e he).1, hnodup, s, hslice, hlist0, hlist1, motion_ok hnonneg hmotion⟩,
    htracks.next hr hslice⟩
  intro j e ref he href
  have hreads := hslots j e ref he href
  exact ⟨by rw [hreads.slot, Nat.zero_add], (htracks.writers _ _).mp hreads.writer, hreads.poc⟩

/-- The loop from a picture on reports each of the remaining ones. -/
lemma mapLoop_reports {records : List Record} {context : ℤ} {run : String} {rest : List Record}
    {n : ℕ} {st : State} {mapped : List Mapped} (htracks : Tracks records n st)
    (hrest : records.drop n = rest) (h : mapLoop context run st (n + 1) rest = .ok mapped) :
    mapped.length = rest.length ∧ ∀ j r m, rest[j]? = some r → mapped[j]? = some m →
      Reports records (n + j) r m := by
  induction rest generalizing n st mapped with
  | nil =>
      simp only [mapLoop, Except.ok.injEq] at h
      subst h
      simp
  | cons r rest ih =>
      simp only [mapLoop, Except.bind_ok, Except.pure_ok] at h
      obtain ⟨⟨m, st'⟩, hm, more, hmore, rfl⟩ := h
      have hr : records[n]? = some r := by
        rw [← Nat.add_zero n, ← List.getElem?_drop, hrest, List.getElem?_cons_zero]
      obtain ⟨hreports, htracks'⟩ := mapRecord_reports htracks hr hm
      have hdrop : records.drop (n + 1) = rest := by
        rw [← List.drop_drop, hrest, List.drop_one, List.tail_cons]
      obtain ⟨hlen, hget⟩ := ih htracks' hdrop hmore
      refine ⟨by simp [hlen], fun j r' m' hr' hm' => ?_⟩
      cases j with
      | zero =>
          obtain rfl : r = r' := by simpa using hr'
          obtain rfl : m = m' := by simpa using hm'
          exact hreports
      | succ j =>
          have hnext := hget j r' m' (by simpa using hr') (by simpa using hm')
          rwa [show n + 1 + j = n + (j + 1) by omega] at hnext

/-- **The reference map is the history of the buffers**: of every accepted list of records, each
report names the last writers before its picture and counts the pictures of each buffer. -/
theorem mapRecords_reports {records : List Record} {expected : ℤ} {mapped : List Mapped}
    (h : mapRecords records expected = .ok mapped) :
    mapped.length = records.length ∧
      ∀ p r m, records[p]? = some r → mapped[p]? = some m → Reports records p r m := by
  simp only [mapRecords, Except.bind_ok, need_ok, found_ok] at h
  obtain ⟨_, _, _, _, first, _, hloop⟩ := h
  obtain ⟨hlen, hget⟩ := mapLoop_reports (n := 0) tracks_nil List.drop_zero hloop
  refine ⟨hlen, fun p r m hr hm => ?_⟩
  have hreports := hget p r m hr hm
  rwa [Nat.zero_add] at hreports

/-- A picture of the fixture: its number, POC, target and type, the buffers and POCs of its DPB, and
the collocated reference. -/
def fixtureRecord (pic poc target : ℤ) (type : String) (refs : List (ℤ × ℤ)) (colL0 col : ℤ) :
    Record :=
  { schema, run := "0000000000000001", ctx := 1, seq := pic, pic, req := pic, first := 1, last := 1
    target, poc
    dpb := refs.zipIdx.map fun p => { i := p.2, buf := p.1.1, poc := p.1.2, lt := 1, field := 0 }
    slices := [{ i := 0, type, nal := if type = "I" then 21 else 1, tmvp := 1
                 l0 := if type = "I" then [] else [0, 1], l1 := if type = "I" then [] else [1, 0]
                 colL0 := some colL0, col := some col }]
    stBefore := [], stAfter := []
    ltCurr := (List.range refs.length).map fun i => (i : ℤ) }

/-- Five pictures; the fourth one writes the buffer of the first again. -/
def fixture : List Record :=
  [fixtureRecord 1 0 4 "I" [] 0 0, fixtureRecord 2 2 5 "I" [(4, 0)] 0 0,
    fixtureRecord 3 1 6 "B" [(4, 0), (5, 2)] 0 0, fixtureRecord 4 3 4 "B" [(5, 2), (6, 1)] 1 1,
    fixtureRecord 5 4 7 "B" [(4, 3), (6, 1)] 1 0]

/-- The pictures that are collocated with. -/
def collocatedPictures (result : Except String (List Mapped)) : Option (List (Option ℕ)) :=
  result.toOption.map fun mapped => mapped.map fun m => m.motion.collocated.map Writer.picture

lemma collocatedPictures_fixture :
    collocatedPictures (mapRecords fixture 5) = some [none, none, some 2, some 3, some 4] := by
  decide +kernel

lemma ok_of_collocatedPictures {result : Except String (List Mapped)} {ps : List (Option ℕ)}
    (h : collocatedPictures result = some ps) : ∃ mapped, result = .ok mapped ∧
      mapped.map (fun m => m.motion.collocated.map Writer.picture) = ps := by
  cases result with
  | error e => simp [collocatedPictures, Except.toOption] at h
  | ok mapped => exact ⟨mapped, rfl, Option.some.inj h⟩

/-- The fixture is mapped, and its last picture is collocated with the fourth. -/
theorem fixture_reports : ∃ mapped r m, mapRecords fixture 5 = .ok mapped ∧ fixture[4]? = some r ∧
    mapped[4]? = some m ∧ m.motion.collocated.map Writer.picture = some 4 ∧
      Reports fixture 4 r m := by
  obtain ⟨mapped, h, hpictures⟩ := ok_of_collocatedPictures collocatedPictures_fixture
  have hget : (mapped.map fun m => m.motion.collocated.map Writer.picture)[4]? = some (some 4) := by
    rw [hpictures]
    rfl
  rw [List.getElem?_map, Option.map_eq_some_iff] at hget
  obtain ⟨m, hm, hcollocated⟩ := hget
  exact ⟨mapped, _, m, h, rfl, hm, hcollocated, (mapRecords_reports h).2 4 _ m rfl hm⟩

end OmarchyM1Video.AvdMap
