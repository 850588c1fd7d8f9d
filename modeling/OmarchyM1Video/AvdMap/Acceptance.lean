import Mathlib.Tactic.IntervalCases
import OmarchyM1Video.AvdMap.History
import OmarchyM1Video.HevcControls.Domain

/-!
What `map_records` accepts, and that the records of `normalize` are among it.

The map finds a writer by buffer and POC, the normalizer by timestamp and order of completion.  A
record of the normalizer is in the domain of the map as soon as its numbers are ones that the map
can put into a command word, and then both name the same picture.

* `SliceMappable`, `Mappable`: the domain of the map, in terms of the records;
* `mapRecord_accepts`, `mapRecords_accepts`: everything in the domain is accepted;
* `ofRecord`: a record of the normalizer as one of the map;
* `InMapDomain`, `normalize_mapped`: the two stages agree.
-/

namespace OmarchyM1Video.AvdMap

open OmarchyM1Video.Py

/-! ### The domain of the map -/

/-- A slice that the map accepts in a picture with `n` slots. -/
structure SliceMappable (n : ℕ) (s : SliceRecord) : Prop where
  i : s.i = 0
  tmvp : 0 ≤ s.tmvp ∧ s.tmvp ≤ 1
  short : s.l0.length ≤ 16 ∧ s.l1.length ≤ 16
  slots : ∀ slot ∈ s.l0 ++ s.l1, 0 ≤ slot ∧ slot < n
  lists : (s.type = "I" ∧ s.l0 = [] ∧ s.l1 = []) ∨ (s.type = "P" ∧ s.l0 ≠ [] ∧ s.l1 = []) ∨
    (s.type = "B" ∧ s.l0 ≠ [] ∧ s.l1 ≠ [])
  col : s.tmvp ≠ 0 → ∃ colL0 col, s.colL0 = some colL0 ∧ s.col = some col ∧ 0 ≤ colL0 ∧ colL0 ≤ 1 ∧
    0 ≤ col ∧ col ≤ 255 ∧ (s.type ≠ "I" → col < (selected s colL0).length)

/-- An entry that the map accepts in slot `j` of the picture `p` with the record `r`. -/
structure EntryMappable (records : List Record) (p : ℕ) (r : Record) (j : ℕ) (e : DpbEntry) :
    Prop where
  plain : e.i = j ∧ e.field = 0
  lt : 0 ≤ e.lt ∧ e.lt ≤ 1
  own : e.buf ≠ r.target
  writer : ∃ w, Writes records p e.buf w ∧ w.poc = e.poc
  poc : -0x80000000 ≤ e.poc ∧ e.poc ≤ 0x7FFFFFFF
  delta : -0x80000000 ≤ r.poc - e.poc ∧ r.poc - e.poc ≤ 0x7FFFFFFF

/-- A record that the map accepts as picture `p`. -/
structure Mappable (records : List Record) (context : ℤ) (run : String) (p : ℕ) (r : Record) :
    Prop where
  schema : r.schema = schema
  context : r.ctx = context ∧ r.run = run
  numbers : r.seq = p + 1 ∧ r.pic = p + 1 ∧ r.req = p + 1
  single : r.first = r.last ∧ r.last = 1 ∧ r.slicesOmitted = 0
  poc : -0x80000000 ≤ r.poc ∧ r.poc ≤ 0x7FFFFFFF
  fresh : ∀ k r', k < p → records[k]? = some r' → r'.poc ≠ r.poc
  target : 0 ≤ r.target ∧ r.target ≤ 0xFFFFFFFF
  slice : ∃ s, r.slices = [s] ∧ SliceMappable r.dpb.length s
  short : r.dpb.length ≤ 16
  distinct : (r.dpb.map DpbEntry.buf).Nodup
  entries : ∀ j e, r.dpb[j]? = some e → EntryMappable records p r j e
  indices : ∀ i ∈ r.stBefore ++ r.stAfter ++ r.ltCurr, 0 ≤ i ∧ i < r.dpb.length

/-! ### Command words -/

lemma integer_of_range {value low high : ℤ} (h : low ≤ value ∧ value ≤ high) :
    integer value low high = .ok value := integer_ok.mpr ⟨rfl, h⟩

/-- A word is predicted if every known field stays in its mask. -/
lemma word_of_masked {fields : List (String × ℕ × Option ℕ)}
    (h : ∀ f ∈ fields, ∀ bits, f.2.2 = some bits → bits &&& f.2.1 = bits) :
    ∃ w, word fields = .ok w := by
  have hbits : ∃ out, wordBits fields = .ok out := by
    induction fields with
    | nil => exact ⟨_, rfl⟩
    | cons f fields ih =>
        obtain ⟨⟨value, unknown, missing⟩, hrest⟩ :=
          ih fun f' hf' => h f' (List.mem_cons_of_mem _ hf')
        obtain ⟨name, mask, bits⟩ := f
        cases bits with
        | none =>
            refine ⟨(value, unknown ||| mask, name :: missing), ?_⟩
            simp only [wordBits, Except.bind_ok, Except.pure_ok]
            exact ⟨_, hrest, rfl⟩
        | some bits =>
            have hmask := h (name, mask, some bits) List.mem_cons_self bits rfl
            refine ⟨(value ||| bits, unknown, missing), ?_⟩
            simp only [wordBits, Except.bind_ok, need_ok, Except.pure_ok]
            exact ⟨(), hmask, _, hrest, rfl⟩
  obtain ⟨out, hout⟩ := hbits
  simp only [word, Except.bind_ok, Except.pure_ok]
  exact ⟨_, out, hout, rfl⟩

lemma refHeader_accepts {count lt : ℤ} {pocs : Option (ℤ × ℤ)} (hcount : 1 ≤ count ∧ count ≤ 16)
    (hlt : 0 ≤ lt ∧ lt ≤ 1)
    (hpocs : ∀ a b, pocs = some (a, b) → (-0x80000000 ≤ a ∧ a ≤ 0x7FFFFFFF) ∧
      (-0x80000000 ≤ b ∧ b ≤ 0x7FFFFFFF) ∧ -0x80000000 ≤ a - b ∧ a - b ≤ 0x7FFFFFFF) :
    ∃ w, refHeader count lt pocs = .ok w := by
  have hdelta : ∃ delta, pocDelta pocs = .ok delta ∧
      ∀ bits, delta = some bits → bits &&& 0x1ffff = bits := by
    cases pocs with
    | none => exact ⟨none, rfl, by simp⟩
    | some ab =>
        obtain ⟨ha, hb, hab⟩ := hpocs ab.1 ab.2 rfl
        refine ⟨some ((ab.1 - ab.2) % 0x20000).toNat, ?_, ?_⟩
        · simp only [pocDelta, Except.bind_ok, integer_ok, Except.pure_ok]
          exact ⟨_, ⟨rfl, ha⟩, _, ⟨rfl, hb⟩, _, ⟨rfl, hab⟩, rfl⟩
        · rintro bits hbits
          obtain rfl := Option.some.inj hbits
          rw [show (0x1ffff : ℕ) = 2 ^ 17 - 1 from rfl, Nat.and_two_pow_sub_one_eq_mod]
          exact Nat.mod_eq_of_lt (by omega)
  obtain ⟨delta, hdelta, hmask⟩ := hdelta
  have hword : ∃ w, word [("count_minus_one", 0xf0000000, some ((count - 1).toNat * 0x10000000)),
      ("constant", 0x1000000, some 0x1000000),
      ("long_term", 0x20000, some (lt.toNat * 0x20000)),
      ("slice_pic_order_cnt", 0x1ffff, delta)] = .ok w := by
    refine word_of_masked ?_
    simp only [List.forall_mem_cons, List.not_mem_nil, IsEmpty.forall_iff, implies_true, and_true,
      Option.some.injEq, forall_eq']
    obtain ⟨hlow, hhigh⟩ := hcount
    obtain ⟨hlt₀, hlt₁⟩ := hlt
    refine ⟨?_, rfl, ?_, hmask⟩
    · interval_cases count <;> rfl
    · interval_cases lt <;> rfl
  obtain ⟨w, hw⟩ := hword
  simp only [refHeader, Except.bind_ok, integer_ok]
  exact ⟨w, _, ⟨rfl, hcount⟩, _, ⟨rfl, hlt⟩, delta, hdelta, hw⟩

/-! ### Acceptance -/

lemma mapEntry_accepts {records : List Record} {n : ℕ} {st : State} {r : Record} {seen : List ℤ}
    {slot : ℕ} {e : DpbEntry} (htracks : Tracks records n st)
    (hr : -0x80000000 ≤ r.poc ∧ r.poc ≤ 0x7FFFFFFF) (hcount : 1 ≤ r.dpb.length ∧ r.dpb.length ≤ 16)
    (he : EntryMappable records n r slot e) (hseen : e.buf ∉ seen) :
    ∃ ref, mapEntry st.writers r seen slot e = .ok ref := by
  obtain ⟨w, hw, hpoc⟩ := he.writer
  have hlength : (1 : ℤ) ≤ r.dpb.length ∧ (r.dpb.length : ℤ) ≤ 16 := by omega
  obtain ⟨header, hheader⟩ : ∃ w, refHeader r.dpb.length e.lt none = .ok w :=
    refHeader_accepts hlength he.lt (by simp)
  obtain ⟨full, hfull⟩ : ∃ w, refHeader r.dpb.length e.lt (some (r.poc, e.poc)) = .ok w := by
    refine refHeader_accepts hlength he.lt ?_
    rintro _ _ ⟨⟩
    exact ⟨hr, he.poc, he.delta⟩
  simp only [mapEntry, Except.bind_ok, need_ok, integer_ok, found_ok, Except.pure_ok]
  exact ⟨_, (), he.plain, e.lt, ⟨rfl, he.lt⟩, (), ⟨he.own, hseen⟩, w, (htracks.writers _ _).mpr hw, (),
    hpoc, header, hheader, full, hfull, rfl⟩

lemma mapDpb_accepts {records : List Record} {n : ℕ} {st : State} {r : Record} {seen : List ℤ}
    {slot : ℕ} {dpb : List DpbEntry} (htracks : Tracks records n st)
    (hr : -0x80000000 ≤ r.poc ∧ r.poc ≤ 0x7FFFFFFF) (hcount : r.dpb.length ≤ 16)
    (hsome : dpb ≠ [] → 1 ≤ r.dpb.length)
    (he : ∀ j e, dpb[j]? = some e → EntryMappable records n r (slot + j) e)
    (hseen : ∀ e ∈ dpb, e.buf ∉ seen) (hnodup : (dpb.map DpbEntry.buf).Nodup) :
    ∃ refs, mapDpb st.writers r seen slot dpb = .ok refs := by
  induction dpb generalizing seen slot with
  | nil => exact ⟨[], rfl⟩
  | cons e dpb ih =>
      rw [List.map_cons, List.nodup_cons] at hnodup
      have hlen := hsome (List.cons_ne_nil _ _)
      obtain ⟨ref, href⟩ := mapEntry_accepts htracks hr ⟨hlen, hcount⟩ (he 0 e rfl)
        (hseen e List.mem_cons_self)
      obtain ⟨more, hmore⟩ : ∃ refs, mapDpb st.writers r (e.buf :: seen) (slot + 1) dpb = .ok refs := by
        refine ih (fun _ => hlen) (fun j e' hj => ?_) (fun e' hmem heq => ?_) hnodup.2
        · have hnext := he (j + 1) e' (by simpa using hj)
          rwa [show slot + (j + 1) = slot + 1 + j by omega] at hnext
        · rcases List.mem_cons.mp heq with heq | hold
          · exact hnodup.1 (List.mem_map.mpr ⟨e', hmem, heq⟩)
          · exact hseen e' (List.mem_cons_of_mem _ hmem) hold
      simp only [mapDpb, Except.bind_ok, Except.pure_ok]
      exact ⟨_, ref, href, more, hmore, rfl⟩

lemma itemAt_of_range {α : Type} {xs : List α} {i : ℤ} (h : 0 ≤ i ∧ i < xs.length) :
    ∃ x, itemAt xs i = .ok x := by
  have hbound : i.toNat < xs.length := by omega
  exact ⟨xs[i.toNat], itemAt_ok.mpr (List.getElem?_eq_getElem hbound)⟩

lemma mapList_accepts {refs : List Reference} {li : ℕ} {slots : List ℤ} (hli : li ≤ 1)
    (hrefs : refs.length ≤ 16) (hshort : slots.length ≤ 16)
    (hslots : ∀ slot ∈ slots, 0 ≤ slot ∧ slot < refs.length) :
    ∃ entries, mapList refs li slots = .ok entries := by
  have hall : ∀ q ∈ slots.zipIdx, ∃ entry, mapListEntry refs li q.2 q.1 = .ok entry := by
    rintro ⟨slot, j⟩ hmem
    have hget := List.mem_zipIdx_iff_getElem?.mp hmem
    have hj : j < slots.length := (List.getElem?_eq_some_iff.mp hget).1
    have hrange := hslots slot (List.mem_of_getElem? hget)
    obtain ⟨ref, href⟩ := itemAt_of_range hrange
    simp only [mapListEntry, refListWord, Except.bind_ok, integer_ok, Except.pure_ok]
    exact ⟨_, slot, ⟨rfl, by omega⟩, _, ⟨_, ⟨rfl, by omega⟩, _, ⟨rfl, by omega⟩, _,
      ⟨rfl, by omega⟩, rfl⟩, ref, href, rfl⟩
  obtain ⟨entries, hentries⟩ := mapM_of_forall_ok hall
  simp only [mapList, Except.bind_ok, need_ok]
  exact ⟨entries, (), hshort, hentries⟩

lemma motionFields_accepts {s : SliceRecord} {refValid : Option Bool}
    (hshort : s.l0.length ≤ 16 ∧ s.l1.length ≤ 16) : ∃ w, word (motionFields s refValid) = .ok w := by
  have hlength : ∀ {k : ℕ}, k ≤ 16 →
      (k - 1) * 0x800 &&& 0xf800 = (k - 1) * 0x800 ∧ (k - 1) * 0x80 &&& 0x780 = (k - 1) * 0x80 := by
    intro k hk
    interval_cases k <;> exact ⟨rfl, rfl⟩
  refine word_of_masked ?_
  simp only [motionFields, List.forall_mem_cons, List.not_mem_nil, IsEmpty.forall_iff, implies_true,
    and_true, Option.some.injEq, forall_eq', reduceCtorEq, true_and]
  refine ⟨rfl, ?_, (hlength hshort.1).1, ?_, ?_, ?_, ?_⟩
  · split_ifs <;> rfl
  · intro bits hbits
    split_ifs at hbits
    exact Option.some.inj hbits ▸ (hlength hshort.2).2
  · intro bits hbits
    split_ifs at hbits
    exact Option.some.inj hbits ▸ rfl
  · split_ifs <;> rfl
  · rintro bits hbits
    obtain ⟨valid, _, rfl⟩ := Option.map_eq_some_iff.mp hbits
    cases valid <;> rfl

lemma motion_accepts {s : SliceRecord} {refs : List Reference} (hs : SliceMappable refs.length s) :
    ∃ m, motion s refs = .ok m := by
  rw [motion]
  by_cases htype : s.type = "I"
  · rw [if_pos htype]
    obtain ⟨w, hw⟩ : ∃ w, word [("I early return", 0xffffffff, some 0x2d020000)] = .ok w :=
      word_of_masked (by simp)
    simp only [Except.bind_ok, Except.pure_ok]
    exact ⟨_, w, hw, rfl⟩
  · rw [if_neg htype]
    have hcol : ∃ col, collocated? s refs = .ok col := by
      rw [collocated?]
      by_cases htmvp : s.tmvp = 0
      · exact ⟨none, by rw [if_pos htmvp]⟩
      · rw [if_neg htmvp]
        obtain ⟨colL0, col, hcolL0, hcol, _, _, hlow, _, hlen⟩ := hs.col htmvp
        obtain ⟨slot, hslot⟩ := itemAt_of_range ⟨hlow, hlen htype⟩
        have hmem : slot ∈ s.l0 ++ s.l1 := by
          have := List.mem_of_getElem? (itemAt_ok.mp hslot)
          rw [selected] at this
          split_ifs at this
          · exact List.mem_append_left _ this
          · exact List.mem_append_right _ this
        obtain ⟨ref, href⟩ := itemAt_of_range (hs.slots slot hmem)
        refine ⟨some ref.writer, ?_⟩
        have hok : collocated s refs = .ok ref.writer := by
          simp only [collocated, Except.bind_ok, found_ok, integer_ok, Except.pure_ok]
          have := hlen htype
          rw [selected] at this
          exact ⟨colL0, hcolL0, col, hcol, col, ⟨rfl, hlow, by omega⟩, slot, hslot, ref, href, rfl⟩
        rw [hok]
        rfl
    obtain ⟨col, hcol⟩ := hcol
    have hmotion : ∃ m, interMotion s col = .ok m := by
      simp only [interMotion, Except.bind_ok, Except.pure_ok]
      obtain ⟨w, hw⟩ := motionFields_accepts hs.short
      exact ⟨_, w, hw, rfl⟩
    obtain ⟨m, hm⟩ := hmotion
    exact ⟨m, by rw [Except.bind_ok]; exact ⟨col, hcol, hm⟩⟩

lemma checkRecord_accepts {records : List Record} {n : ℕ} {st : State} {context : ℤ} {run : String}
    {r : Record} {s : SliceRecord} (htracks : Tracks records n st) (hn : n + 1 ≤ 10000)
    (hr : Mappable records context run n r) (hs : r.slices = [s]) (hslice : SliceMappable r.dpb.length s) :
    checkRecord st context run (n + 1) r = .ok s := by
  obtain ⟨hseq, hpic, hreq⟩ := hr.numbers
  have hfresh : r.poc ∉ st.pocs := by
    rw [htracks.pocs]
    rintro ⟨k, r', hk, hr', hpoc⟩
    exact hr.fresh k r' hk hr' hpoc
  have hnumbers : [r.seq, r.pic, r.req].forM (fun v => do
      let m ← integer v 1 10000
      need (m = (n + 1 : ℕ)) "incomplete or reordered picture") = .ok () := by
    rw [hseq, hpic, hreq]
    simp only [List.forM_eq_forM, List.forM_cons, List.forM_nil, Except.bind_ok, integer_ok, need_ok, Except.pure_ok]
    exact ⟨(), ⟨_, ⟨rfl, by omega⟩, by omega⟩, (), ⟨_, ⟨rfl, by omega⟩, by omega⟩, (),
      ⟨_, ⟨rfl, by omega⟩, by omega⟩, trivial⟩
  have htype : s.type = "I" ∨ s.type = "P" ∨ s.type = "B" :=
    hslice.lists.imp And.left (Or.imp And.left And.left)
  simp only [checkRecord, Except.bind_ok, need_ok, integer_ok, found_ok, Except.pure_ok]
  exact ⟨(), hr.schema, (), hr.context, (), hnumbers, (), hr.single, _, ⟨rfl, hr.poc⟩, (), hfresh, _,
    ⟨rfl, hr.target⟩, (), by rw [hs]; rfl, s, by rw [hs]; rfl, (), ⟨hslice.i, htype⟩, _,
    ⟨rfl, hslice.tmvp⟩, (), hr.short, rfl⟩

lemma checkIndices_accepts {n : ℕ} {indices : List ℤ} (h : ∀ i ∈ indices, 0 ≤ i ∧ i < n) :
    checkIndices n indices = .ok () := by
  rw [checkIndices]
  induction indices with
  | nil => rfl
  | cons i indices ih =>
      have hi := h i List.mem_cons_self
      simp only [List.forM_eq_forM, List.forM_cons, Except.bind_ok, integer_ok, Except.pure_ok]
      exact ⟨(), ⟨i, ⟨rfl, by omega⟩, trivial⟩, ih fun j hj => h j (List.mem_cons_of_mem _ hj)⟩

lemma checkCollocated_accepts {n : ℕ} {s : SliceRecord} (h : SliceMappable n s) :
    checkCollocated s = .ok () := by
  rw [checkCollocated]
  by_cases htmvp : s.tmvp = 0
  · rw [if_pos htmvp]
  · rw [if_neg htmvp]
    obtain ⟨colL0, col, hcolL0, hcol, h₀, h₁, hlow, hhigh, _⟩ := h.col htmvp
    simp only [Except.bind_ok, found_ok, integer_ok, Except.pure_ok]
    exact ⟨colL0, hcolL0, _, ⟨rfl, h₀, h₁⟩, col, hcol, _, ⟨rfl, hlow, hhigh⟩, trivial⟩

/-- **One iteration** accepts a record of the domain. -/
lemma mapRecord_accepts {records : List Record} {n : ℕ} {st : State} {context : ℤ} {run : String}
    {r : Record} (htracks : Tracks records n st) (hn : n + 1 ≤ 10000)
    (hr : Mappable records context run n r) :
    ∃ out, mapRecord st context run (n + 1) r = .ok out := by
  obtain ⟨s, hs, hslice⟩ := hr.slice
  have hcheck := checkRecord_accepts htracks hn hr hs hslice
  obtain ⟨refs, hrefs⟩ : ∃ refs, mapDpb st.writers r [] 0 r.dpb = .ok refs := by
    refine mapDpb_accepts htracks hr.poc hr.short (fun hne => ?_) (fun j e he => ?_) (by simp)
      hr.distinct
    · exact List.length_pos_iff.mpr hne
    · rw [Nat.zero_add]
      exact hr.entries j e he
  have hlen := (mapDpb_ok hrefs).1
  have hslots := hslice.slots
  rw [← hlen] at hslice hslots
  have hshort : refs.length ≤ 16 := hlen ▸ hr.short
  have hindices := checkIndices_accepts (n := refs.length) (hlen ▸ hr.indices)
  obtain ⟨l0, hl0⟩ : ∃ entries, mapList refs 0 s.l0 = .ok entries :=
    mapList_accepts (by omega) hshort hslice.short.1
      fun slot hmem => hslots slot (List.mem_append_left _ hmem)
  obtain ⟨l1, hl1⟩ : ∃ entries, mapList refs 1 s.l1 = .ok entries :=
    mapList_accepts (by omega) hshort hslice.short.2
      fun slot hmem => hslots slot (List.mem_append_right _ hmem)
  obtain ⟨m, hm⟩ := motion_accepts hslice
  simp only [mapRecord, Except.bind_ok, need_ok, Except.pure_ok]
  exact ⟨_, s, hcheck, refs, hrefs, (), hindices, l0, hl0, l1, hl1, (), hslice.lists, (),
    checkCollocated_accepts hslice, m, hm, rfl⟩

lemma mapLoop_accepts {records : List Record} {context : ℤ} {run : String} {rest : List Record}
    {n : ℕ} {st : State} (htracks : Tracks records n st) (hrest : records.drop n = rest)
    (hcount : records.length ≤ 10000)
    (h : ∀ p r, records[p]? = some r → Mappable records context run p r) :
    ∃ mapped, mapLoop context run st (n + 1) rest = .ok mapped := by
  induction rest generalizing n st with
  | nil => exact ⟨[], rfl⟩
  | cons r rest ih =>
      have hr : records[n]? = some r := by
        rw [← Nat.add_zero n, ← List.getElem?_drop, hrest, List.getElem?_cons_zero]
      have hn : n < records.length := (List.getElem?_eq_some_iff.mp hr).1
      obtain ⟨⟨m, st'⟩, hm⟩ := mapRecord_accepts htracks (by omega) (h n r hr)
      have hdrop : records.drop (n + 1) = rest := by
        rw [← List.drop_drop, hrest, List.drop_one, List.tail_cons]
      obtain ⟨more, hmore⟩ := ih (mapRecord_reports htracks hr hm).2 hdrop
      simp only [mapLoop, Except.bind_ok, Except.pure_ok]
      exact ⟨_, (m, st'), hm, more, hmore, rfl⟩

/-- **Everything in the domain is accepted.** -/
theorem mapRecords_accepts {records : List Record} {expected context : ℤ} {run : String}
    (hexpected : 1 ≤ expected ∧ expected ≤ 10000) (hlen : (records.length : ℤ) = expected)
    (h : ∀ p r, records[p]? = some r → Mappable records context run p r) :
    ∃ mapped, mapRecords records expected = .ok mapped := by
  obtain ⟨first, hfirst⟩ : ∃ first, records[0]? = some first :=
    ⟨records[0], List.getElem?_eq_getElem (by omega)⟩
  have hcontext := (h 0 first hfirst).context
  obtain ⟨mapped, hmapped⟩ : ∃ mapped, mapLoop context run {} (0 + 1) records = .ok mapped :=
    mapLoop_accepts tracks_nil List.drop_zero (by omega) h
  simp only [mapRecords, Except.bind_ok, need_ok, integer_ok, found_ok]
  refine ⟨mapped, _, ⟨rfl, hexpected⟩, (), hlen, first, by rw [List.head?_eq_getElem?, hfirst], ?_⟩
  rwa [hcontext.1, hcontext.2]

/-! ### The records of the normalizer -/

/-- An entry of the normalizer, as the map reads it. -/
def ofEntry (d : HevcControls.DpbEntry) : DpbEntry :=
  { i := d.i, buf := d.buf, poc := d.poc, lt := d.lt, field := d.field }

/-- A slice of the normalizer; the collocated reference is there with `tmvp` only. -/
def ofSlice (st : HevcControls.SliceRecord) : SliceRecord :=
  { i := st.i, type := st.type, nal := st.nal, tmvp := st.tmvp, l0 := st.l0, l1 := st.l1
    colL0 := st.col.map Prod.fst, col := st.col.map Prod.snd }

/-- A record of the normalizer; it does not say how many slices were left out. -/
def ofRecord (r : HevcControls.Record) : Record :=
  { schema := r.schema, run := r.run, ctx := r.ctx, seq := r.seq, pic := r.pic, req := r.req
    first := r.first, last := r.last, target := r.target, poc := r.poc
    dpb := r.dpb.map ofEntry, slices := r.slices.map ofSlice
    stBefore := r.stBefore, stAfter := r.stAfter, ltCurr := r.ltCurr }

/-- What the map asks for beyond what the normalizer promises: no POC twice, and in each DPB no
buffer twice, no field, and differences of POCs that fit a command word. -/
def InMapDomain (records : List HevcControls.Record) : Prop :=
  (records.map HevcControls.Record.poc).Nodup ∧ ∀ r ∈ records,
    (r.dpb.map HevcControls.DpbEntry.buf).Nodup ∧ ∀ d ∈ r.dpb, d.field = 0 ∧
      -0x80000000 ≤ r.poc - d.poc ∧ r.poc - d.poc ≤ 0x7FFFFFFF

instance (records : List HevcControls.Record) : Decidable (InMapDomain records) :=
  inferInstanceAs (Decidable (_ ∧ _))

/-- The timestamp names the picture `n` in the normalizer. -/
def Names (l : HevcControls.Ledger) (ts : ℤ) (n : ℕ) : Prop :=
  ∃ id, l.byTimestamp.get? ts = some id ∧ (l.objects id).pic = some n

lemma selected_ofSlice {st : HevcControls.SliceRecord} {colL0 : ℤ} (h : colL0 = 0 ∨ colL0 = 1) :
    selected (ofSlice st) colL0 = st.selected colL0 := by
  rcases h with rfl | rfl <;> simp [selected, HevcControls.SliceRecord.selected, ofSlice]

lemma sliceMappable_ofSlice {n : ℕ} {st : HevcControls.SliceRecord}
    (h : HevcControls.SliceInRange st) (hslots : ∀ i ∈ st.l0 ++ st.l1, 0 ≤ i ∧ i < n) :
    SliceMappable n (ofSlice st) where
  i := by simp [ofSlice, h.i]
  tmvp := by
    rcases h.tmvp with htmvp | htmvp <;> simp [ofSlice, htmvp]
  short := h.short
  slots := hslots
  lists := h.lists
  col htmvp := by
    obtain ⟨colL0, col, hcol, hcolL0, hlow, hhigh, hlen⟩ := h.col htmvp
    refine ⟨colL0, col, by simp [ofSlice, hcol], by simp [ofSlice, hcol], by omega, by omega, hlow,
      hhigh, fun htype => ?_⟩
    rw [selected_ofSlice hcolL0]
    exact hlen htype

/-- A resolved reference is to the last writer of its buffer. -/
lemma writes_of_resolves {log : List HevcControls.Action} {records : List HevcControls.Record}
    {p q : ℕ} {ts : ℤ} {d : HevcControls.DpbEntry} (h : HevcControls.Resolves log records p q ts d) :
    ∃ w, Writes (records.map ofRecord) p d.buf w ∧ w.poc = d.poc ∧ w.picture = q + 1 := by
  obtain ⟨r, hr, htarget, hpoc⟩ := h.content
  have hget : (records.map ofRecord)[q]? = some (ofRecord r) := by simp [hr]
  refine ⟨writerOf (records.map ofRecord) q (ofRecord r), ⟨q, ofRecord r, ?_, hget, rfl⟩, hpoc, rfl⟩
  refine ⟨h.earlier, ⟨ofRecord r, hget, htarget⟩, fun k r' hqk hkp hk => ?_⟩
  rw [List.getElem?_map, Option.map_eq_some_iff] at hk
  obtain ⟨r₁, hr₁, rfl⟩ := hk
  exact h.intact k r₁ hqk hkp hr₁

lemma writes_unique {records : List Record} {p : ℕ} {b : ℤ} {w w' : Writer}
    (h : Writes records p b w) (h' : Writes records p b w') : w = w' := by
  obtain ⟨q, r, hlast, hr, rfl⟩ := h
  obtain ⟨q', r', hlast', hr', rfl⟩ := h'
  obtain rfl := hlast.unique hlast'
  rw [Option.some.inj (hr.symm.trans hr')]

section Normalized

variable {events : List HevcControls.Event} {expected : ℤ} {run : String}
  {records : List HevcControls.Record} {associations : List HevcControls.Association}

/-- A record of the normalizer is in the domain of the map. -/
lemma normalize_mappable
    (h : HevcControls.normalize events expected run = .ok (records, associations))
    (hdomain : InMapDomain records) {p : ℕ} {r : HevcControls.Record} (hr : records[p]? = some r) :
    Mappable (records.map ofRecord) 1 run p (ofRecord r) := by
  obtain ⟨fd, start, s, _, _, _, hrecords⟩ := HevcControls.normalize_resolves h
  obtain ⟨⟨hpic, hseq, hreq⟩, hentries, hindices⟩ := hrecords p r hr
  have hmem := List.mem_of_getElem? hr
  have hrange := (HevcControls.normalize_inRange h).2 r hmem
  obtain ⟨hdistinct, hdpb⟩ := hdomain.2 r hmem
  obtain ⟨st, hst, hslice⟩ := hrange.slice
  have hlen : (ofRecord r).dpb.length = r.dpb.length := by simp [ofRecord]
  refine ⟨hrange.schema, ⟨by simp [ofRecord, hrange.ctx], hrange.run⟩, ⟨?_, ?_, ?_⟩,
    ⟨by simp [ofRecord, hrange.single], by simp [ofRecord, hrange.single], rfl⟩, hrange.poc, ?_,
    hrange.target, ⟨ofSlice st, by simp [ofRecord, hst], ?_⟩, by rw [hlen]; exact hrange.short, ?_, ?_,
    ?_⟩
  · simp [ofRecord, hseq]
  · simp [ofRecord, hpic]
  · simp [ofRecord, hreq]
  · intro k r' hk hr' hpoc
    rw [List.getElem?_map, Option.map_eq_some_iff] at hr'
    obtain ⟨r₁, hr₁, rfl⟩ := hr'
    have hsame : (records.map HevcControls.Record.poc)[k]? =
        (records.map HevcControls.Record.poc)[p]? := by
      rw [List.getElem?_map, List.getElem?_map, hr₁, hr]
      exact congrArg some hpoc
    have hbound : k < (records.map HevcControls.Record.poc).length := by
      rw [List.length_map]
      exact (List.getElem?_eq_some_iff.mp hr₁).1
    exact absurd ((List.getElem?_inj hbound hdomain.1).mp hsame) (by omega)
  · refine sliceMappable_ofSlice hslice fun i hi => ?_
    rw [hlen]
    refine hindices i ?_
    simp only [HevcControls.Record.indices, hst, List.flatMap_singleton, List.mem_append] at hi ⊢
    exact Or.inr hi
  · simpa [ofRecord, List.map_map, Function.comp_def, ofEntry] using hdistinct
  · intro j e he
    simp only [ofRecord, List.getElem?_map, Option.map_eq_some_iff] at he
    obtain ⟨d, hd, rfl⟩ := he
    obtain ⟨q, ts, _, hresolves⟩ := hentries j d hd
    obtain ⟨w, hw, hpoc, _⟩ := writes_of_resolves hresolves
    obtain ⟨hi, hlt, hdpoc⟩ := hrange.entries j d hd
    obtain ⟨hfield, hdelta⟩ := hdpb d (List.mem_of_getElem? hd)
    exact ⟨⟨by simp [ofEntry, hi], hfield⟩, by simp only [ofEntry]; omega,
      fun heq => hresolves.own r hr heq.symm, ⟨w, hw, hpoc⟩, hdpoc, hdelta⟩
  · intro i hi
    rw [hlen]
    refine hindices i ?_
    simp only [HevcControls.Record.indices, ofRecord, List.mem_append] at hi ⊢
    exact Or.inl hi

/-- **The two stages agree**: the map accepts the records of the normalizer, and the writer that it
finds for a slot by buffer and POC is the picture that the timestamp of the slot named. -/
theorem normalize_mapped
    (h : HevcControls.normalize events expected run = .ok (records, associations))
    (hdomain : InMapDomain records) :
    ∃ s mapped, HevcControls.scan HevcControls.keepOutput events expected run = .ok s ∧
      mapRecords (records.map ofRecord) expected = .ok mapped ∧ mapped.length = records.length ∧
      ∀ p r m, records[p]? = some r → mapped[p]? = some m → m.dpb.length = r.dpb.length ∧
        ∀ j (ref : Reference), m.dpb[j]? = some ref →
          ∃ ts, HevcControls.EntryStamp s.toLedger p j ts ∧
            Names s.toLedger ts ref.writer.picture := by
  obtain ⟨fd, start, s, hselect, hscan, hlen, hrecords⟩ := HevcControls.normalize_resolves h
  obtain ⟨mapped, hmapped⟩ : ∃ mapped, mapRecords (records.map ofRecord) expected = .ok mapped := by
    have hmappable : ∀ p r, (records.map ofRecord)[p]? = some r →
        Mappable (records.map ofRecord) 1 run p r := by
      intro p r hr
      rw [List.getElem?_map, Option.map_eq_some_iff] at hr
      obtain ⟨r₀, hr₀, rfl⟩ := hr
      exact normalize_mappable h hdomain hr₀
    refine mapRecords_accepts (HevcControls.normalize_inRange h).1 ?_ hmappable
    rw [List.length_map, hlen]
  obtain ⟨hcount, hreports⟩ := mapRecords_reports hmapped
  refine ⟨s, mapped, hscan, hmapped, by rw [hcount, List.length_map], fun p r m hr hm => ?_⟩
  have hreport := hreports p (ofRecord r) m (by simp [hr]) hm
  have hslots : m.dpb.length = r.dpb.length := by
    rw [hreport.slots]
    simp [ofRecord]
  refine ⟨hslots, fun j ref hj => ?_⟩
  have hbound : j < r.dpb.length := hslots ▸ (List.getElem?_eq_some_iff.mp hj).1
  have hd : r.dpb[j]? = some r.dpb[j] := List.getElem?_eq_getElem hbound
  obtain ⟨_, hwrites, _⟩ := hreport.dpb j (ofEntry r.dpb[j]) ref (by simp [ofRecord, hd]) hj
  obtain ⟨q, ts, hstamp, hresolves⟩ := (hrecords p r hr).2.1 j _ hd
  obtain ⟨w, hw, _, hpicture⟩ := writes_of_resolves hresolves
  obtain rfl := writes_unique hwrites hw
  -- The picture with the timestamp is the one that the normalizer finds.
  obtain ⟨fd', start', hselect', hscanned⟩ := HevcControls.scanned_of_scan hscan
  obtain ⟨rfl, rfl⟩ := Prod.mk.inj (Except.ok.inj (hselect.symm.trans hselect'))
  have hinv := HevcControls.inv_of_run hscanned.run
  obtain ⟨id, hid, hts⟩ :=
    (HevcControls.tracks_of_run hscanned.run).pictureAt_iff.mp hresolves.picture
  refine ⟨ts, hstamp, id, (hinv.byTs ts id).mpr ⟨List.mem_of_getElem? hid, hts⟩, ?_⟩
  rw [hpicture, hinv.numbered q id hid]

end Normalized

lemma fixture_inMapDomain :
    ((HevcControls.normalize HevcControls.fixture 2 "1234567890abcdef").toOption.any
      fun out => decide (InMapDomain out.1 ∧ out.1.map (fun r => r.dpb.length) = [0, 1])) = true := by
  decide +kernel

/-- Both stages name the first picture as the reference of the second one of the fixture. -/
theorem fixture_mapped : ∃ (s : HevcControls.Scan) (mapped : List Mapped) (m : Mapped)
    (ref : Reference) (ts : ℤ),
    HevcControls.scan HevcControls.keepOutput HevcControls.fixture 2 "1234567890abcdef" = .ok s ∧
      mapped[1]? = some m ∧ m.dpb[0]? = some ref ∧ HevcControls.EntryStamp s.toLedger 1 0 ts ∧
      Names s.toLedger ts ref.writer.picture := by
  obtain ⟨⟨records, associations⟩, h, hcheck⟩ := ok_of_any fixture_inMapDomain
  obtain ⟨hdomain, hlengths⟩ := decide_eq_true_eq.mp hcheck
  obtain ⟨s, mapped, hscan, _, hcount, hslots⟩ := normalize_mapped h hdomain
  obtain ⟨first, rest, hcons, _, hrest⟩ := List.map_eq_cons_iff.mp hlengths
  obtain ⟨r, hr, hone⟩ := List.map_eq_singleton_iff.mp hrest
  change records = first :: rest at hcons
  have hget : records[1]? = some r := by rw [hcons, hr, List.getElem?_cons_succ]; rfl
  have hbound : 1 < mapped.length := by simp [hcount, hcons, hr]
  obtain ⟨hlen, hnames⟩ := hslots 1 r mapped[1] hget (List.getElem?_eq_getElem hbound)
  have hslot : 0 < (mapped[1]).dpb.length := by rw [hlen, hone]; exact Nat.one_pos
  obtain ⟨ts, hstamp, hnamed⟩ := hnames 0 _ (List.getElem?_eq_getElem hslot)
  exact ⟨s, mapped, _, _, ts, hscan, List.getElem?_eq_getElem hbound,
    List.getElem?_eq_getElem hslot, hstamp, hnamed⟩

end OmarchyM1Video.AvdMap
