import OmarchyM1Video.Py.History
import OmarchyM1Video.TraceCheck.Validate

/-!
A capture without findings names the true writers.

The validator keeps the last START of every buffer; a reference without a finding names it, and a
timestamp without a finding resolves to it.

* `Known`, `Known.begin`: what the state says of the STARTs so far, and that a START keeps it;
* `Refers`, `refers_of_findings`: a reference without a finding is to the last START on its buffer;
* `resolve_writer`: a timestamp without a finding resolves to its writer;
* `RowSound`, `checkGroup_sound`, `validateLoop_sound`, `validate_sound`: every record of a capture.
-/

namespace OmarchyM1Video.TraceCheck

open OmarchyM1Video.Py OmarchyM1Video.AvdMap

@[simp] lemma checkValue_nil {τ : Type} {row : TraceRow τ} {c : Prop} [Decidable c] {code : String} :
    checkValue row c code = [] ↔ c := by
  by_cases h : c <;> simp [checkValue, h]

/-! ### The STARTs so far -/

/-- The STARTs of records, in order. -/
def startsOf (rows : List (TraceRow UInt64)) : List (StartRow UInt64) :=
  rows.filterMap TraceRow.start?

/-- A START on a buffer. -/
def OnBuffer (b : ℕ) (s : StartRow UInt64) : Prop := s.buf.buffer = b

/-- A START on a buffer and an allocation. -/
def OnAllocation (b a : ℕ) (s : StartRow UInt64) : Prop := s.buf.buffer = b ∧ s.buf.allocation = a

/-- What the state says of the first `n` STARTs. -/
structure Known (ss : List (StartRow UInt64)) (n : ℕ) (st : State) : Prop where
  numbered : ∀ k s, k < n → ss[k]? = some s → s.picture = k + 1
  starts : ∀ q s, st.starts.get? q = some s → ∃ k, k < n ∧ q = k + 1 ∧ ss[k]? = some s
  writers : ∀ b s, st.currentWriters.get? b = some s →
    ∃ k, LastBefore (OnBuffer b) ss n k ∧ ss[k]? = some s
  allocations : ∀ b, st.currentAllocations.get? b =
    (st.currentWriters.get? b).map fun s => s.buf.allocation
  histories : ∀ b a q, st.histories.get? (b, a) = some q →
    ∃ k, LastBefore (OnAllocation b a) ss n k ∧ q = k + 1

section Known

variable {ss : List (StartRow UInt64)} {n : ℕ} {st : State}

lemma known_nil : Known ss 0 {} where
  numbered k s hk := by omega
  starts := by simp
  writers := by simp
  allocations := by simp
  histories := by simp

/-- **A START keeps what the state says.** -/
lemma Known.begin {s : StartRow UInt64} (h : Known ss n st) (hs : ss[n]? = some s)
    (hpicture : s.picture = n + 1) : Known ss (n + 1) (st.begin s) where
  numbered k s' hk hs' := by
    rcases Nat.lt_succ_iff_lt_or_eq.mp hk with hlt | rfl
    · exact h.numbered k s' hlt hs'
    · rwa [← Option.some.inj (hs.symm.trans hs')]
  starts q s' hq := by
    rw [State.begin, Dict.get?_set] at hq
    split_ifs at hq with heq
    · obtain rfl := Option.some.inj hq
      exact ⟨n, by omega, heq.trans hpicture, hs⟩
    · obtain ⟨k, hk, rfl, hget⟩ := h.starts q s' hq
      exact ⟨k, by omega, rfl, hget⟩
  writers b s' hb := by
    rw [State.begin, Dict.get?_set] at hb
    simp only [lastBefore_succ hs]
    split_ifs at hb with heq
    · obtain rfl := Option.some.inj hb
      exact ⟨n, Or.inl ⟨heq.symm, rfl⟩, hs⟩
    · obtain ⟨k, hk, hget⟩ := h.writers b s' hb
      exact ⟨k, Or.inr ⟨fun hon => heq hon.symm, hk⟩, hget⟩
  allocations b := by
    rw [State.begin, Dict.get?_set, Dict.get?_set]
    split_ifs with heq
    · rfl
    · exact h.allocations b
  histories b a q hq := by
    rw [State.begin, Dict.get?_set] at hq
    simp only [lastBefore_succ hs]
    split_ifs at hq with heq
    · obtain ⟨rfl, rfl⟩ := Prod.mk.inj heq
      exact ⟨n, Or.inl ⟨⟨rfl, rfl⟩, rfl⟩, (Option.some.inj hq).symm.trans hpicture⟩
    · obtain ⟨k, hk, rfl⟩ := h.histories b a q hq
      refine ⟨k, Or.inr ⟨fun hon => heq ?_, hk⟩, rfl⟩
      rw [← hon.1, ← hon.2]

/-- The allocations are not part of it. -/
lemma Known.congr {allocations : Dict ℕ ℕ} (h : Known ss n st) :
    Known ss n { st with allocations } := ⟨h.numbered, h.starts, h.writers, h.allocations, h.histories⟩

end Known

/-! ### References -/

/-- The buffer `b`, as it is referred to by picture `p`, was written by the picture of the START `s`:
an earlier one, the last that was started on it. -/
structure Refers (ss : List (StartRow UInt64)) (p : ℕ) (b : BufferRow UInt64)
    (s : StartRow UInt64) : Prop where
  start : s ∈ ss
  writer : s.picture = b.writer
  earlier : b.writer < p
  last : ∀ s' ∈ ss, b.writer < s'.picture → s'.picture ≤ p → s'.buf.buffer ≠ b.buffer
  buffer : s.buf.buffer = b.buffer
  allocation : s.buf.allocation = b.allocation
  timestamp : s.buf.timestamp = b.timestamp
  intra : b.intra = ofCond (s.type = 2)
  completed : b.completed = 1

/-- The last START on a buffer, if it is on an allocation, is the last one on both. -/
lemma lastBefore_onAllocation {ss : List (StartRow UInt64)} {n k b a : ℕ} {s : StartRow UInt64}
    (h : LastBefore (OnBuffer b) ss n k) (hs : ss[k]? = some s) (ha : s.buf.allocation = a) :
    LastBefore (OnAllocation b a) ss n k := by
  obtain ⟨hk, ⟨s', hs', hon⟩, hlast⟩ := h
  obtain rfl := Option.some.inj (hs.symm.trans hs')
  exact ⟨hk, ⟨s, hs, hon, ha⟩, fun j t hkj hjn ht hboth => hlast j t hkj hjn ht hboth.1⟩

section References

variable {ss : List (StartRow UInt64)} {n : ℕ} {st : State}

/-- What a reference without a finding says, before it is compared with its own picture. -/
lemma reference_known (h : Known ss n st) {row : TraceRow UInt64} {b : BufferRow UInt64}
    (hnil : referenceFindings st row b = []) :
    ∃ k s, LastBefore (OnBuffer b.buffer) ss n k ∧ ss[k]? = some s ∧ b.writer = k + 1 ∧
      st.currentWriters.get? b.buffer = some s ∧ st.starts.get? b.writer = some s ∧
      s.buf.allocation = b.allocation ∧ s.buf.timestamp = b.timestamp ∧
      b.intra = ofCond (s.type = 2) ∧ b.completed = 1 := by
  simp only [referenceFindings, List.append_eq_nil_iff, checkValue_nil] at hnil
  obtain ⟨⟨⟨halloc, hhistory, hcontains⟩, hknown⟩, hcompleted⟩ := hnil
  rw [h.allocations, Option.map_eq_some_iff] at halloc
  obtain ⟨s, hs, hsalloc⟩ := halloc
  obtain ⟨k, hlast, hget⟩ := h.writers _ _ hs
  obtain ⟨k', hlast', hwriter⟩ := h.histories _ _ _ hhistory
  obtain rfl := (lastBefore_onAllocation hlast hget hsalloc).unique hlast'
  obtain ⟨s', hs'⟩ := Dict.contains_iff.mp hcontains
  obtain ⟨j, _, hj, hgetj⟩ := h.starts _ _ hs'
  obtain rfl : k = j := by omega
  obtain rfl := Option.some.inj (hget.symm.trans hgetj)
  rw [hs'] at hknown
  simp only [List.append_eq_nil_iff, checkValue_nil] at hknown
  exact ⟨k, s, hlast, hget, hwriter, hs, hs', hsalloc, hknown.1.symm, hknown.2, hcompleted⟩

/-- **A reference without a finding** from the picture of the last START is to an earlier one. -/
lemma refers_of_findings (h : Known ss n st) (hss : ∀ (k : ℕ) (s : StartRow UInt64), ss[k]? = some s →
      s.picture = k + 1) {row : TraceRow UInt64} {b : BufferRow UInt64}
    (hnil : referenceFindings st row b = []) (hearlier : b.writer < n) :
    ∃ s, Refers ss n b s ∧ st.starts.get? b.writer = some s ∧
      st.currentWriters.get? b.buffer = some s := by
  obtain ⟨k, s, ⟨hk, ⟨s', hs', hon⟩, hlast⟩, hget, hwriter, hcurrent, hstart, halloc, hstamp, hintra,
    hcompleted⟩ := reference_known h hnil
  obtain rfl := Option.some.inj (hget.symm.trans hs')
  refine ⟨s, ⟨List.mem_of_getElem? hget, ?_, hearlier, ?_, hon, halloc, hstamp, hintra, hcompleted⟩,
    hstart, hcurrent⟩
  · rw [hss k s hget, hwriter]
  · intro t ht hlt hle
    obtain ⟨j, hj⟩ := List.mem_iff_getElem?.mp ht
    have hpicture := hss j t hj
    exact hlast j t (by omega) (by omega) hj

/-- A timestamp that at most one current writer has resolves to the one that has it. -/
lemma resolve_writer {currentWriters : Dict ℕ (StartRow UInt64)} {b : ℕ} {s : StartRow UInt64}
    {stamp : UInt64} (hs : currentWriters.get? b = some s) (hstamp : s.buf.timestamp = stamp)
    (hone : (resolve currentWriters true stamp).candidates.length ≤ 1) :
    (resolve currentWriters true stamp).writer = some s.picture := by
  have hvalue : s ∈ currentWriters.values :=
    List.mem_map.mpr ⟨(b, s), Dict.mem_entries_iff.mpr hs, rfl⟩
  have hmem : s.picture ∈ candidatesOf currentWriters stamp := by
    rw [candidatesOf, List.mem_insertionSort]
    exact List.mem_map_of_mem (List.mem_filter.mpr ⟨hvalue, by simpa using hstamp⟩)
  simp only [resolve, if_true] at hone ⊢
  have hlen : (candidatesOf currentWriters stamp).length = 1 := by
    have := List.length_pos_of_mem hmem
    omega
  obtain ⟨q, hq⟩ := List.length_eq_one_iff.mp hlen
  rw [hq, List.mem_singleton] at hmem
  rw [hq, hmem]
  rfl

end References

/-! ### Records -/

/-- A record and what it is normalized to: every timestamp resolves to the writer of the record, and
a reference is to the last START on its buffer. -/
def RowSound (ss : List (StartRow UInt64)) : TraceRow UInt64 → TraceRow Resolved → Prop
  | .start s, .start o => o.buf.timestamp.writer = some s.buf.writer
  | .done d, .done o => o.buf.timestamp.writer = some d.buf.writer
  | .table t, .table o =>
      (∃ s, Refers ss t.picture t.buf s ∧ t.poc = s.poc) ∧ t.requestedTimestamp = t.buf.timestamp ∧
        o.buf.timestamp.writer = some t.buf.writer ∧
        o.requestedTimestamp.writer = some t.buf.writer
  | .list _, .list _ => True
  | .motion m, .motion o => m.lookup ≠ 0 →
      (∃ s, Refers ss m.picture m.buf s) ∧ m.requestedTimestamp = m.buf.timestamp ∧
        o.buf.timestamp.writer = some m.buf.writer ∧
        o.requestedTimestamp.writer = some m.buf.writer
  | _, _ => False

/-! ### The checks of a group -/

/-- Two states that differ in their allocations only. -/
def SameHistory (st st' : State) : Prop := ∃ allocations, st' = { st with allocations }

lemma SameHistory.refl (st : State) : SameHistory st st := ⟨st.allocations, rfl⟩

lemma SameHistory.trans {st₁ st₂ st₃ : State} (h : SameHistory st₁ st₂) (h' : SameHistory st₂ st₃) :
    SameHistory st₁ st₃ := by
  obtain ⟨a, rfl⟩ := h
  obtain ⟨b, rfl⟩ := h'
  exact ⟨b, rfl⟩

lemma SameHistory.known {ss : List (StartRow UInt64)} {n : ℕ} {st st' : State}
    (h : SameHistory st st') (hknown : Known ss n st) : Known ss n st' := by
  obtain ⟨a, rfl⟩ := h
  exact hknown.congr

section Checks

variable {st st' : State} {start : StartRow UInt64} {found : List Finding}

lemma checkBuffer_ok {mv : ℕ} {row : TraceRow UInt64} {b : BufferRow UInt64} {destination : Bool}
    (h : checkBuffer st mv row b destination = .ok (st', found)) :
    SameHistory st st' ∧ found = bufferFindings st mv row b destination := by
  simp only [checkBuffer, Except.bind_ok, Except.pure_ok, Prod.mk.injEq] at h
  obtain ⟨_, _, rfl, rfl⟩ := h
  exact ⟨⟨_, rfl⟩, rfl⟩

/-- A slot of the table without a finding. -/
def SlotClean (st : State) (pic : ℕ) (t : TableRow UInt64) : Prop :=
  referenceFindings st (.table t) t.buf = [] ∧ ∃ header, tableFindings st pic t header = []

lemma checkSlot_ok {i : ℕ} {t : TableRow UInt64} (h : checkSlot st start i t = .ok (st', found)) :
    SameHistory st st' ∧ (found = [] → SlotClean st start.picture t) := by
  simp only [checkSlot, Except.bind_ok, need_ok, Except.pure_ok, Prod.mk.injEq] at h
  obtain ⟨_, _, ⟨st₁, found₁⟩, hbuffer, header, _, value, _, rfl, rfl⟩ := h
  obtain ⟨hsame, rfl⟩ := checkBuffer_ok hbuffer
  refine ⟨hsame, fun hnil => ?_⟩
  obtain ⟨hbufferNil, htable⟩ := List.append_eq_nil_iff.mp hnil
  obtain ⟨_, rfl⟩ := hsame
  simp only [bufferFindings, List.append_eq_nil_iff, Bool.false_eq_true, if_false] at hbufferNil
  exact ⟨hbufferNil.2, value, htable⟩

lemma checkTable_ok {table : List (TableRow UInt64)} {i : ℕ}
    (h : checkTable start st i table = .ok (st', found)) :
    SameHistory st st' ∧ (found = [] → ∀ t ∈ table, SlotClean st start.picture t) := by
  induction table generalizing st i found with
  | nil =>
      simp only [checkTable, Except.ok.injEq, Prod.mk.injEq] at h
      obtain ⟨rfl, rfl⟩ := h
      exact ⟨SameHistory.refl st, by simp⟩
  | cons t table ih =>
      simp only [checkTable, Except.bind_ok, Except.pure_ok, Prod.mk.injEq] at h
      obtain ⟨⟨st₁, found₁⟩, hslot, ⟨st₂, found₂⟩, hrest, rfl, rfl⟩ := h
      obtain ⟨hsame₁, hclean₁⟩ := checkSlot_ok hslot
      obtain ⟨hsame₂, hclean₂⟩ := ih hrest
      refine ⟨hsame₁.trans hsame₂, fun hnil t' ht' => ?_⟩
      obtain ⟨hnil₁, hnil₂⟩ := List.append_eq_nil_iff.mp hnil
      rcases List.mem_cons.mp ht' with rfl | ht'
      · exact hclean₁ hnil₁
      · obtain ⟨_, rfl⟩ := hsame₁
        exact hclean₂ hnil₂ t' ht'

/-- A motion record without a finding: no lookup, or one that found what the table has. -/
def MotionClean (st : State) (table : List (TableRow UInt64)) (m : MotionRow UInt64) : Prop :=
  m.lookup ≠ 0 → referenceFindings st (.motion m) m.buf = [] ∧ ∃ t ∈ table, lookupFindings m t = []

lemma checkMotion_ok {table : List (TableRow UInt64)} {m : MotionRow UInt64}
    (h : checkMotion st start table m = .ok (st', found)) :
    SameHistory st st' ∧ (found = [] → MotionClean st table m) := by
  rw [checkMotion] at h
  split_ifs at h with htype
  · simp only [Except.bind_ok, need_ok, Except.pure_ok, Prod.mk.injEq] at h
    obtain ⟨_, ⟨hlookup, _⟩, rfl, rfl⟩ := h
    exact ⟨SameHistory.refl st, fun _ hne => absurd hlookup hne⟩
  · simp only [checkLookup, Except.bind_ok, need_ok, found_ok, Except.pure_ok, Prod.mk.injEq] at h
    obtain ⟨_, _, slot, _, t, ht, ⟨st₁, found₁⟩, hbuffer, rfl, rfl⟩ := h
    obtain ⟨hsame, rfl⟩ := checkBuffer_ok hbuffer
    refine ⟨hsame, fun hnil _ => ?_⟩
    obtain ⟨hfirst, hlookup⟩ := List.append_eq_nil_iff.mp hnil
    have hbufferNil := (List.append_eq_nil_iff.mp hfirst).2
    simp only [bufferFindings, List.append_eq_nil_iff, Bool.false_eq_true, if_false] at hbufferNil
    exact ⟨hbufferNil.2, t, List.mem_of_getElem? ht, hlookup⟩

lemma checkCommands_ok {expected : Option (List Mapped)} {table : List (TableRow UInt64)}
    {lists : List ListRow} {motion : List (MotionRow UInt64)}
    (hmotion : motion.length = ofCond (Detail start.picture))
    (htable : table.length = if Detail start.picture ∧ start.type ≠ 2 then start.dpbCount else 0)
    (h : checkCommands expected st start table lists motion = .ok (st', found)) :
    SameHistory st st' ∧ (found = [] → (∀ t ∈ table, SlotClean st start.picture t) ∧
      ∀ m ∈ motion, MotionClean st table m) := by
  rw [checkCommands] at h
  split_ifs at h with hdetail
  · rw [ofCond, if_pos hdetail] at hmotion
    obtain ⟨m, rfl⟩ := List.length_eq_one_iff.mp hmotion
    simp only [Except.bind_ok, found_ok, List.head?_cons, Option.some.injEq, checkDetail, need_ok,
      Except.pure_ok, Prod.mk.injEq] at h
    obtain ⟨_, rfl, _, _, ⟨st₁, found₁⟩, hslots, wanted, _, _, _, found₂, _, ⟨st₂, found₃⟩, hlookup, _,
      _, found₄, _, rfl, rfl⟩ := h
    obtain ⟨hsame₁, hclean₁⟩ := checkTable_ok hslots
    obtain ⟨hsame₂, hclean₂⟩ := checkMotion_ok hlookup
    refine ⟨hsame₁.trans hsame₂, fun hnil => ?_⟩
    simp only [List.append_eq_nil_iff] at hnil
    obtain ⟨⟨⟨⟨⟨hnil₁, _⟩, hnil₃⟩, _⟩, _⟩, _⟩ := hnil
    refine ⟨hclean₁ hnil₁, fun m' hm' => ?_⟩
    rw [List.mem_singleton.mp hm']
    obtain ⟨_, rfl⟩ := hsame₁
    exact hclean₂ hnil₃
  · rw [ofCond, if_neg hdetail] at hmotion
    rw [if_neg fun hboth => hdetail hboth.1] at htable
    obtain rfl := List.length_eq_zero_iff.mp hmotion
    obtain rfl := List.length_eq_zero_iff.mp htable
    simp only [Except.bind_ok, need_ok, Except.pure_ok, Prod.mk.injEq] at h
    obtain ⟨_, _, rfl, rfl⟩ := h
    exact ⟨SameHistory.refl st, by simp⟩

end Checks

/-! ### Groups -/

/-- A group: one START, the end of the same picture, and the same buffer for both. -/
structure GroupShape (g : List (TraceRow UInt64)) (start : StartRow UInt64)
    (done : DoneRow UInt64) : Prop where
  head : g.head? = some (.start start)
  pictures : ∀ r ∈ g, r.picture = start.picture
  starts : startsOf g = [start]
  dones : ∀ d, .done d ∈ g → d = done
  writer : start.buf.writer = start.picture
  same : { start.buf with completed := done.buf.completed } = done.buf

lemma start?_eq_none {row : TraceRow UInt64} (h : row.kind ≠ 1) : row.start? = none := by
  cases row with
  | start s => exact absurd rfl h
  | _ => rfl

/-- The kinds of a group say where its START is. -/
lemma startsOf_group {g : List (TraceRow UInt64)} {s : StartRow UInt64} {i j k : ℕ}
    (hhead : g.head? = some (.start s))
    (hkinds : g.map TraceRow.kind = [1] ++ List.replicate i 3 ++ List.replicate j 4 ++
      List.replicate k 5 ++ [2]) : startsOf g = [s] := by
  obtain ⟨rest, rfl⟩ := List.head?_eq_some_iff.mp hhead
  simp only [List.map_cons, List.cons_append, List.nil_append, List.cons.injEq] at hkinds
  have hrest : ∀ r ∈ rest, r.start? = none := by
    intro r hr
    have hmem : r.kind ∈ rest.map TraceRow.kind := List.mem_map_of_mem hr
    rw [hkinds.2] at hmem
    refine start?_eq_none fun hone => ?_
    simp [hone, List.mem_replicate] at hmem
  have hnil : rest.filterMap TraceRow.start? = [] := List.filterMap_eq_nil_iff.mpr hrest
  have hsome : (TraceRow.start s).start? = some s := rfl
  rw [startsOf, List.filterMap_cons_some hsome, hnil]

/-- The kinds of a group say where its end is. -/
lemma dones_group {g : List (TraceRow UInt64)} {done d : DoneRow UInt64} {i j k : ℕ}
    (hlast : g.getLast? = some (.done done))
    (hkinds : g.map TraceRow.kind = [1] ++ List.replicate i 3 ++ List.replicate j 4 ++
      List.replicate k 5 ++ [2]) (hd : .done d ∈ g) : d = done := by
  obtain ⟨init, rfl⟩ := List.getLast?_eq_some_iff.mp hlast
  rw [List.map_append, List.map_singleton] at hkinds
  have hinit := (List.append_inj_left' hkinds rfl)
  rcases List.mem_append.mp hd with hd | hd
  · have hmem : (2 : ℕ) ∈ init.map TraceRow.kind := List.mem_map.mpr ⟨.done d, hd, rfl⟩
    rw [hinit] at hmem
    simp [List.mem_replicate] at hmem
  · exact TraceRow.done.inj (List.mem_singleton.mp hd)

/-- **What the checks of a group have seen.** -/
lemma checkGroup_ok {expected : Option (List Mapped)} {st st' : State} {g : List (TraceRow UInt64)}
    {found : List Finding} (h : checkGroup expected st g = .ok (st', found)) :
    ∃ start done, GroupShape g start done ∧ SameHistory (st.begin start) st' ∧
      (found = [] → (∀ t ∈ g.filterMap TraceRow.table?, SlotClean st' start.picture t) ∧
        ∀ m ∈ g.filterMap TraceRow.motion?,
          MotionClean st' (g.filterMap TraceRow.table?) m) := by
  rw [checkGroup] at h
  split at h
  next start done hhead hlast =>
    simp only [checkPicture, Except.bind_ok, checkShape, checkOrder, need_ok, Except.pure_ok,
      Prod.mk.injEq] at h
    obtain ⟨_, ⟨_, hpictures, _, _, _, _, _, ⟨hwriter, _⟩, hsame⟩, found₁, _, ⟨st₁, found₂⟩, hbuffer, _,
      ⟨_, hmotion, _, htable, hkinds⟩, ⟨st₂, found₃⟩, hcommands, rfl, rfl⟩ := h
    obtain ⟨hhistory₁, _⟩ := checkBuffer_ok hbuffer
    obtain ⟨hhistory₂, hclean⟩ := checkCommands_ok hmotion htable hcommands
    refine ⟨start, done, ⟨hhead, hpictures, startsOf_group hhead hkinds,
      fun d hd => dones_group hlast hkinds hd, hwriter, hsame⟩, hhistory₁.trans hhistory₂,
      fun hnil => ?_⟩
    obtain ⟨_, rfl⟩ := hhistory₂
    exact hclean (List.append_eq_nil_iff.mp hnil).2
  next => exact absurd h (by simp)

/-- The timestamps of a record of a group without a finding are not ambiguous. -/
lemma stamps_clean {currentWriters : Dict ℕ (StartRow UInt64)} {g : List (TraceRow UInt64)}
    (hnil : groupStampFindings currentWriters g = []) {row : TraceRow UInt64} (hrow : row ∈ g) :
    stampFindings row (normalizeRow currentWriters row) = [] :=
  List.flatMap_eq_nil_iff.mp hnil row hrow

section Sound

variable {ss : List (StartRow UInt64)} {n : ℕ} {st st' : State} {g : List (TraceRow UInt64)}
  {start : StartRow UInt64} {done : DoneRow UInt64}

/-- A buffer that the picture of a group refers to without a finding, and its timestamps. -/
lemma reference_sound (hss : ∀ (k : ℕ) (s : StartRow UInt64), ss[k]? = some s → s.picture = k + 1)
    (hknown : Known ss n st) {row : TraceRow UInt64} {b : BufferRow UInt64}
    (hnil : referenceFindings st row b = []) (hearlier : b.writer < n) {requested : UInt64}
    (hrequested : requested = b.timestamp)
    (hone : (resolve st.currentWriters true b.timestamp).candidates.length ≤ 1) :
    ∃ s, Refers ss n b s ∧ st.starts.get? b.writer = some s ∧
      (resolve st.currentWriters true b.timestamp).writer = some b.writer ∧
      (resolve st.currentWriters true requested).writer = some b.writer := by
  obtain ⟨s, hrefers, hstart, hcurrent⟩ := refers_of_findings hknown hss hnil hearlier
  have hwriter := resolve_writer hcurrent hrefers.timestamp hone
  rw [hrefers.writer] at hwriter
  exact ⟨s, hrefers, hstart, hwriter, hrequested ▸ hwriter⟩

/-- **A group without a finding** is sound, record by record. -/
lemma group_sound (hss : ∀ (k : ℕ) (s : StartRow UInt64), ss[k]? = some s → s.picture = k + 1)
    (hknown : Known ss n st') (hshape : GroupShape g start done) (hn : start.picture = n)
    (hwriter : st'.currentWriters.get? start.buf.buffer = some start)
    (htables : ∀ t ∈ g.filterMap TraceRow.table?, SlotClean st' start.picture t)
    (hmotions : ∀ m ∈ g.filterMap TraceRow.motion?, MotionClean st' (g.filterMap TraceRow.table?) m)
    (hstamps : groupStampFindings st'.currentWriters g = []) {row : TraceRow UInt64} (hrow : row ∈ g) :
    RowSound ss row (normalizeRow st'.currentWriters row) := by
  have hclean := stamps_clean hstamps hrow
  cases row with
  | start s =>
      obtain rfl : s = start := by
        have hmem : s ∈ startsOf g := List.mem_filterMap.mpr ⟨_, hrow, rfl⟩
        rwa [hshape.starts, List.mem_singleton] at hmem
      simp only [normalizeRow, TraceRow.map, StartRow.map, BufferRow.map, stampFindings,
        ambiguousFindings, checkValue_nil, hasBuffer] at hclean
      change (resolve st'.currentWriters true s.buf.timestamp).writer = some s.buf.writer
      rw [hshape.writer]
      exact resolve_writer hwriter rfl hclean
  | done d =>
      obtain rfl := hshape.dones d hrow
      have hstamp : start.buf.timestamp = d.buf.timestamp := by rw [← hshape.same]
      have hsame : d.buf.writer = start.picture := by rw [← hshape.same, ← hshape.writer]
      simp only [normalizeRow, TraceRow.map, DoneRow.map, BufferRow.map, stampFindings,
        ambiguousFindings, checkValue_nil, hasBuffer] at hclean
      change (resolve st'.currentWriters true d.buf.timestamp).writer = some d.buf.writer
      rw [hsame]
      exact resolve_writer hwriter hstamp hclean
  | table t =>
      obtain ⟨hnil, header, htable⟩ := htables t (List.mem_filterMap.mpr ⟨_, hrow, rfl⟩)
      simp only [normalizeRow, TraceRow.map, TableRow.map, BufferRow.map, stampFindings,
        ambiguousFindings, List.append_eq_nil_iff, checkValue_nil, hasBuffer] at hclean
      simp only [tableFindings, List.append_eq_nil_iff, checkValue_nil] at htable
      obtain ⟨⟨⟨⟨⟨_, hrequested⟩, hearlier⟩, hpoc⟩, _⟩, _⟩ := htable
      obtain ⟨s, hrefers, hstart, hresolved⟩ :=
        reference_sound hss hknown hnil (hn ▸ hearlier) hrequested hclean.1
      rw [hstart] at hpoc
      have hpicture : t.picture = n := (hshape.pictures _ hrow).trans hn
      exact ⟨⟨s, hpicture ▸ hrefers, (checkValue_nil.mp hpoc).symm⟩, hrequested, hresolved⟩
  | list a => trivial
  | motion m =>
      intro hlookup
      obtain ⟨hnil, t, ht, hfound⟩ :=
        hmotions m (List.mem_filterMap.mpr ⟨_, hrow, rfl⟩) hlookup
      obtain ⟨_, header, htable⟩ := htables t ht
      have hbuffer : hasBuffer (.motion m) = true := by simpa [hasBuffer] using hlookup
      simp only [normalizeRow, TraceRow.map, MotionRow.map, BufferRow.map, stampFindings,
        ambiguousFindings, List.append_eq_nil_iff, checkValue_nil, hbuffer] at hclean ⊢
      simp only [tableFindings, List.append_eq_nil_iff, checkValue_nil] at htable
      simp only [lookupFindings, List.append_eq_nil_iff, checkValue_nil] at hfound
      obtain ⟨⟨⟨⟨_, hrequested⟩, hsame⟩, _⟩, _⟩ := hfound
      have hearlier : m.buf.writer < n := by
        rw [hsame, ← hn]
        exact htable.1.1.1.2
      obtain ⟨s, hrefers, _, hresolved⟩ :=
        reference_sound hss hknown hnil hearlier (hrequested.1.trans hrequested.2) hclean.1
      have hpicture : m.picture = n := (hshape.pictures _ hrow).trans hn
      exact ⟨⟨s, hpicture ▸ hrefers⟩, hrequested.1.trans hrequested.2, hresolved⟩

end Sound

/-! ### The loop -/

/-- An open group begins with the START of the next picture. -/
def OpenGroup (group : List (TraceRow UInt64)) (next : ℕ) : Prop :=
  ∀ row, group.head? = some row → ∃ s, row = .start s ∧ s.picture = next

lemma OpenGroup.append {group : List (TraceRow UInt64)} {next : ℕ} {row : TraceRow UInt64}
    (h : OpenGroup group next) (hposition : checkPosition group next row = .ok ()) :
    OpenGroup (group ++ [row]) next := by
  rw [checkPosition] at hposition
  split_ifs at hposition with hkind
  · rw [need_ok] at hposition
    obtain ⟨rfl, hpicture⟩ := hposition
    intro row' hrow'
    obtain rfl : row = row' := by simpa using hrow'
    cases row with
    | start s => exact ⟨s, rfl, hpicture⟩
    | _ => simp [TraceRow.kind] at hkind
  · rw [need_ok] at hposition
    intro row' hrow'
    rw [List.head?_append_of_ne_nil _ hposition] at hrow'
    exact h row' hrow'

lemma startsOf_append (rows rows' : List (TraceRow UInt64)) :
    startsOf (rows ++ rows') = startsOf rows ++ startsOf rows' := List.filterMap_append

/-- The START of a group that has been checked is that of the next picture. -/
lemma GroupShape.picture {g : List (TraceRow UInt64)} {start : StartRow UInt64}
    {done : DoneRow UInt64} {next : ℕ} (h : GroupShape g start done) (hopen : OpenGroup g next) :
    start.picture = next := by
  obtain ⟨s, hs, hpicture⟩ := hopen _ h.head
  rw [TraceRow.start.inj hs, hpicture]

/-- The pictures are started in order. -/
lemma validateLoop_numbered {expected : Option (List Mapped)} {rows : List (TraceRow UInt64)}
    {st : State} {group : List (TraceRow UInt64)} {next : ℕ}
    {out : List Finding × List (TraceRow Resolved)} (hopen : OpenGroup group next)
    (h : validateLoop expected st group next rows = .ok out) :
    next ≤ 301 ∧ (startsOf (group ++ rows)).map StartRow.picture = List.range' next (301 - next) := by
  induction rows generalizing st group next out with
  | nil =>
      simp only [validateLoop, Except.bind_ok, need_ok] at h
      obtain ⟨_, ⟨rfl, rfl⟩, _⟩ := h
      exact ⟨Nat.le_refl _, rfl⟩
  | cons row rows ih =>
      simp only [validateLoop, Except.bind_ok] at h
      obtain ⟨_, hposition, h⟩ := h
      have hopen' := hopen.append hposition
      have hsplit : group ++ row :: rows = (group ++ [row]) ++ rows := by simp
      split_ifs at h with hkind
      · simp only [Except.bind_ok, Except.pure_ok] at h
        obtain ⟨⟨st', found₁⟩, hgroup, ⟨found₂, more⟩, hrest, _⟩ := h
        obtain ⟨start, done, hshape, _⟩ := checkGroup_ok hgroup
        obtain ⟨hle, hpictures⟩ := ih (by simp [OpenGroup]) hrest
        refine ⟨by omega, ?_⟩
        rw [List.nil_append] at hpictures
        rw [hsplit, startsOf_append, hshape.starts, List.map_append, hpictures, List.map_singleton,
          hshape.picture hopen', show 301 - next = 301 - (next + 1) + 1 by omega, List.range'_succ]
        rfl
      · rw [hsplit]
        exact ih hopen' h

/-- **The loop from a record on** is sound, if it ends without findings. -/
lemma validateLoop_sound {ss : List (StartRow UInt64)}
    (hss : ∀ (k : ℕ) (s : StartRow UInt64), ss[k]? = some s → s.picture = k + 1)
    {expected : Option (List Mapped)} {rows : List (TraceRow UInt64)} {n : ℕ} {st : State}
    {group : List (TraceRow UInt64)} {out : List (TraceRow Resolved)} (hknown : Known ss n st)
    (hopen : OpenGroup group (n + 1)) (hdrop : ss.drop n = startsOf (group ++ rows))
    (h : validateLoop expected st group (n + 1) rows = .ok ([], out)) :
    List.Forall₂ (RowSound ss) (group ++ rows) out := by
  induction rows generalizing n st group out with
  | nil =>
      simp only [validateLoop, Except.bind_ok, need_ok, Except.pure_ok, Prod.mk.injEq] at h
      obtain ⟨_, ⟨rfl, _⟩, _, rfl⟩ := h
      exact List.Forall₂.nil
  | cons row rows ih =>
      simp only [validateLoop, Except.bind_ok] at h
      obtain ⟨_, hposition, h⟩ := h
      have hopen' := hopen.append hposition
      have hsplit : group ++ row :: rows = (group ++ [row]) ++ rows := by simp
      rw [hsplit] at hdrop ⊢
      split_ifs at h with hkind
      · simp only [Except.bind_ok, Except.pure_ok, Prod.mk.injEq, List.append_eq_nil_iff] at h
        obtain ⟨⟨st', found₁⟩, hgroup, ⟨found₂, more⟩, hrest, ⟨⟨hnil₁, hstamps⟩, hnil₂⟩, rfl⟩ := h
        obtain ⟨start, done, hshape, hsame, hclean⟩ := checkGroup_ok hgroup
        obtain ⟨htables, hmotions⟩ := hclean hnil₁
        have hpicture := hshape.picture hopen'
        rw [startsOf_append, hshape.starts, List.singleton_append] at hdrop
        have hget : ss[n]? = some start := by
          rw [← Nat.add_zero n, ← List.getElem?_drop, hdrop, List.getElem?_cons_zero]
        have hknown' := hsame.known (hknown.begin hget hpicture)
        have hwriter : st'.currentWriters.get? start.buf.buffer = some start := by
          obtain ⟨_, rfl⟩ := hsame
          simp [State.begin]
        refine List.rel_append ?_ ?_
        · rw [List.forall₂_map_right_iff]
          exact List.forall₂_same.mpr fun r hr => group_sound hss hknown' hshape hpicture hwriter
            htables hmotions hstamps hr
        · obtain rfl := hnil₂
          have hnone : OpenGroup [] (n + 1 + 1) := by simp [OpenGroup]
          have htail : ss.drop (n + 1) = startsOf ([] ++ rows) := by
            rw [← List.drop_drop, hdrop, List.drop_one, List.tail_cons, List.nil_append]
          exact ih hknown' hnone htail hrest
      · exact ih hknown hopen' hdrop h

/-- **Trace validation is sound**: in a capture without findings the pictures are started in order,
every reference is to the last START on its buffer, and every timestamp resolves to the writer of its
record. -/
theorem validate_sound {c : TraceCapture} {expected : Option (List Mapped)} {result : Validated}
    (h : validate c expected = .ok result) (hfindings : result.findings = []) :
    (startsOf c.records).map StartRow.picture = List.range' 1 300 ∧
      List.Forall₂ (RowSound (startsOf c.records)) c.records result.records := by
  simp only [validate, Except.bind_ok, Except.pure_ok] at h
  obtain ⟨_, _, ⟨found, out⟩, hloop, rfl⟩ := h
  obtain rfl : found = [] := hfindings
  have hopen : OpenGroup [] 1 := by simp [OpenGroup]
  have hnumbers := (validateLoop_numbered hopen hloop).2
  rw [List.nil_append] at hnumbers
  refine ⟨hnumbers, ?_⟩
  have hss : ∀ (k : ℕ) (s : StartRow UInt64), (startsOf c.records)[k]? = some s →
      s.picture = k + 1 := by
    intro k s hs
    have hget : ((startsOf c.records).map StartRow.picture)[k]? = some s.picture := by simp [hs]
    have hk : k < 300 := by
      have hbound := (List.getElem?_eq_some_iff.mp hget).1
      rwa [hnumbers, List.length_range'] at hbound
    rw [hnumbers, List.getElem?_range' hk, Option.some.injEq] at hget
    omega
  exact validateLoop_sound hss known_nil hopen (by simp) hloop

/-- The sample is sound. -/
theorem sample_sound : ∃ result, validate sample none = .ok result ∧
    List.Forall₂ (RowSound (startsOf sample.records)) sample.records result.records := by
  obtain ⟨result, h, hfindings⟩ := sample_validated
  exact ⟨result, h, (validate_sound h hfindings).2⟩

end OmarchyM1Video.TraceCheck
