import OmarchyM1Video.TraceCheck.Validate

/-!
Raw timestamps stay private.

Every check compares timestamps with each other only, so an injective renaming of the timestamps of a
capture changes nothing in what `validate` returns.  The motion record of an I slice is all zero and
is not renamed.

* `rename`, `TraceCapture.rename`, `State.rename`: the renaming;
* `checkBuffer_rename`, `checkTable_rename`, `checkMotion_rename`, `checkGroup_rename`: the checks;
* `normalizeRow_rename`: what timestamps resolve to;
* `validate_rename`: the whole validator.
-/

namespace OmarchyM1Video.TraceCheck

open OmarchyM1Video.Py OmarchyM1Video.AvdMap

/-! ### The renaming -/

section

variable (f : UInt64 → UInt64)

/-- The motion record of an I slice keeps its timestamps. -/
def MotionRow.rename (m : MotionRow UInt64) : MotionRow UInt64 := if m.type = 2 then m else m.map f

/-- The renaming of a record. -/
def rename : TraceRow UInt64 → TraceRow UInt64
  | .motion m => .motion (m.rename f)
  | row => row.map f

/-- The renaming of a capture. -/
def TraceCapture.rename (c : TraceCapture) : TraceCapture :=
  { c with records := c.records.map (TraceCheck.rename f) }

/-- The renaming of what is known of the pictures. -/
def State.rename (st : State) : State :=
  { st with
    starts := st.starts.mapVals (StartRow.map f)
    currentWriters := st.currentWriters.mapVals (StartRow.map f) }

/-- The renaming of the state that a check returns with its findings. -/
def renameChecked (out : Except String (State × List Finding)) :
    Except String (State × List Finding) := out.map fun p => (p.1.rename f, p.2)

end

section Rename

variable {f : UInt64 → UInt64}

@[simp] lemma kind_rename (row : TraceRow UInt64) : (rename f row).kind = row.kind := by
  cases row <;> rfl

lemma MotionRow.rename_eq (m : MotionRow UInt64) : m.rename f = m ∨ m.rename f = m.map f := by
  rw [MotionRow.rename]
  exact ite_eq_or_eq _ _ _

lemma MotionRow.rename_picture (m : MotionRow UInt64) : (m.rename f).picture = m.picture := by
  rcases m.rename_eq (f := f) with h | h
  · rw [h]
  · rw [h]
    rfl

@[simp] lemma picture_rename (row : TraceRow UInt64) : (rename f row).picture = row.picture := by
  cases row with
  | motion m => exact m.rename_picture
  | _ => rfl

/-- A finding depends on the kind and the picture of its record only. -/
lemma checkValue_congr {row row' : TraceRow UInt64} {c c' : Prop} [Decidable c] [Decidable c']
    (hkind : row'.kind = row.kind) (hpicture : row'.picture = row.picture) (hc : c' ↔ c)
    (code : String) : checkValue row' c' code = checkValue row c code := by
  simp only [checkValue, hkind, hpicture, hc]

/-- A computation that does not depend on timestamps, followed by one that can be renamed. -/
lemma bind_renamed {α : Type} {x : Except String α}
    {k k' : α → Except String (State × List Finding)} (h : ∀ a, k' a = renameChecked f (k a)) :
    (x >>= k') = renameChecked f (x >>= k) := by
  cases x with
  | error e => rfl
  | ok a => exact h a

/-- A check that can be renamed, followed by another one. -/
lemma renamed_bind {x x' : Except String (State × List Finding)}
    {k k' : State × List Finding → Except String (State × List Finding)}
    (hx : x' = renameChecked f x)
    (h : ∀ st found, k' (st.rename f, found) = renameChecked f (k (st, found))) :
    (x' >>= k') = renameChecked f (x >>= k) := by
  subst hx
  cases x with
  | error e => rfl
  | ok p => exact h p.1 p.2

/-! ### Buffers -/

lemma get?_starts_rename (st : State) (k : ℕ) :
    (st.rename f).starts.get? k = (st.starts.get? k).map (StartRow.map f) :=
  Dict.get?_mapVals _ _ _

lemma begin_rename (st : State) (s : StartRow UInt64) :
    (st.rename f).begin (s.map f) = (st.begin s).rename f := by
  simp only [State.begin, State.rename, Dict.mapVals_set]
  rfl

variable (hf : Function.Injective f)
include hf

lemma referenceFindings_rename (st : State) {row row' : TraceRow UInt64}
    (hkind : row'.kind = row.kind) (hpicture : row'.picture = row.picture) (b : BufferRow UInt64) :
    referenceFindings (st.rename f) row' (b.map f) = referenceFindings st row b := by
  have hcheck : ∀ {c c' : Prop} [Decidable c] [Decidable c'] (_ : c' ↔ c) (code : String),
      checkValue row' c' code = checkValue row c code :=
    fun hc code => checkValue_congr hkind hpicture hc code
  have hcontains : (st.rename f).starts.contains b.writer = st.starts.contains b.writer :=
    Dict.contains_mapVals _ _ _
  refine congrArg₂ _ (congrArg₂ _ (congrArg₂ _ (hcheck Iff.rfl _) (hcheck ?_ _)) ?_)
    (hcheck Iff.rfl _)
  · change _ ∧ (st.rename f).starts.contains b.writer = true ↔ _
    rw [hcontains]
    exact Iff.rfl
  · -- What is known of the writer is renamed with it.
    have hwriter : (b.map f).writer = b.writer := rfl
    rw [hwriter, get?_starts_rename]
    cases st.starts.get? b.writer with
    | none => rfl
    | some known => exact congrArg₂ _ (hcheck hf.eq_iff _) (hcheck Iff.rfl _)

lemma bufferFindings_rename (st : State) (mv : ℕ) {row row' : TraceRow UInt64}
    (hkind : row'.kind = row.kind) (hpicture : row'.picture = row.picture) (b : BufferRow UInt64)
    (destination : Bool) :
    bufferFindings (st.rename f) mv row' (b.map f) destination =
      bufferFindings st mv row b destination := by
  refine congrArg₂ _ (congrArg₂ _ (checkValue_congr hkind hpicture Iff.rfl _)
    (checkValue_congr hkind hpicture Iff.rfl _)) ?_
  cases destination with
  | false => exact referenceFindings_rename hf st hkind hpicture b
  | true => rfl

lemma checkBuffer_rename (st : State) (mv : ℕ) (row row' : TraceRow UInt64)
    (hkind : row'.kind = row.kind) (hpicture : row'.picture = row.picture) (b : BufferRow UInt64)
    (destination : Bool) :
    checkBuffer (st.rename f) mv row' (b.map f) destination =
      renameChecked f (checkBuffer st mv row b destination) := by
  have hneed : needBuffer (st.rename f) mv (b.map f) = needBuffer st mv b := rfl
  rw [checkBuffer, checkBuffer, hneed, bufferFindings_rename hf st mv hkind hpicture]
  cases needBuffer st mv b with
  | error e => rfl
  | ok u => rfl

/-! ### The reference table -/

lemma tableFindings_rename (st : State) (pic : ℕ) (t : TableRow UInt64) (header : ℕ) :
    tableFindings (st.rename f) pic (t.map f) header = tableFindings st pic t header := by
  simp only [tableFindings, checkValue, TraceRow.picture, TraceRow.kind, TableRow.map, BufferRow.map,
    hf.eq_iff, get?_starts_rename]
  cases st.starts.get? t.buf.writer <;> rfl

lemma checkSlot_rename (st : State) (start : StartRow UInt64) (i : ℕ) (t : TableRow UInt64) :
    checkSlot (st.rename f) (start.map f) i (t.map f) =
      renameChecked f (checkSlot st start i t) := by
  refine bind_renamed fun _ => renamed_bind ?_ fun st' found => ?_
  · exact checkBuffer_rename hf st start.mv (.table t) (.table (t.map f)) rfl rfl t.buf false
  · refine bind_renamed fun header => bind_renamed fun value => ?_
    change pure (_, _ ++ tableFindings (st'.rename f) start.picture (t.map f) value) = _
    rw [tableFindings_rename hf]
    rfl

lemma checkTable_rename (start : StartRow UInt64) (table : List (TableRow UInt64)) (st : State)
    (i : ℕ) : checkTable (start.map f) (st.rename f) i (table.map (TableRow.map f)) =
      renameChecked f (checkTable start st i table) := by
  induction table generalizing st i with
  | nil => rfl
  | cons t table ih =>
      refine renamed_bind (checkSlot_rename hf st start i t) fun st₁ found₁ => ?_
      exact renamed_bind (ih st₁ (i + 1)) fun st₂ found₂ => rfl

/-! ### The motion reference -/

lemma BufferRow.map_inj {b c : BufferRow UInt64} : b.map f = c.map f ↔ b = c := by
  obtain ⟨⟩ := b
  obtain ⟨⟩ := c
  simp only [BufferRow.map, BufferRow.mk.injEq, hf.eq_iff]

lemma lookupFindings_rename (m : MotionRow UInt64) (t : TableRow UInt64) :
    lookupFindings (m.map f) (t.map f) = lookupFindings m t := by
  simp only [lookupFindings, checkValue, TraceRow.picture, TraceRow.kind, MotionRow.map, TableRow.map,
    BufferRow.map_inj hf]
  simp only [BufferRow.map, hf.eq_iff]
  rfl

lemma checkLookup_rename (st : State) (start : StartRow UInt64) (table : List (TableRow UInt64))
    (m : MotionRow UInt64) :
    checkLookup (st.rename f) (start.map f) (table.map (TableRow.map f)) (m.map f) =
      renameChecked f (checkLookup st start table m) := by
  refine bind_renamed fun _ => bind_renamed fun slot => ?_
  dsimp only
  rw [List.getElem?_map]
  cases table[slot]? with
  | none => rfl
  | some t =>
      refine renamed_bind ?_ fun st' found => ?_
      · exact checkBuffer_rename hf st start.mv (.motion m) (.motion (m.map f)) rfl rfl m.buf false
      · dsimp only
        rw [lookupFindings_rename hf]
        rfl

lemma checkMotion_rename (st : State) (start : StartRow UInt64) (table : List (TableRow UInt64))
    {m : MotionRow UInt64} (htype : m.type = start.type) :
    checkMotion (st.rename f) (start.map f) (table.map (TableRow.map f)) (m.rename f) =
      renameChecked f (checkMotion st start table m) := by
  rw [checkMotion, checkMotion]
  change (if start.type = 2 then _ else _) = _
  by_cases hstart : start.type = 2
  · rw [if_pos hstart, if_pos hstart, MotionRow.rename, if_pos (htype.trans hstart)]
    exact bind_renamed fun _ => rfl
  · rw [if_neg hstart, if_neg hstart, MotionRow.rename, if_neg fun h => hstart (htype.symm.trans h)]
    exact checkLookup_rename hf st start table m

/-! ### Groups -/

omit hf in
lemma needMotion_rename (start : StartRow UInt64) (m : MotionRow UInt64) :
    needMotion (start.map f) (m.rename f) = needMotion start m := by
  rcases m.rename_eq (f := f) with h | h <;> rw [h] <;> rfl

omit hf in
lemma expectedLists_rename (start : StartRow UInt64) (m : MotionRow UInt64) (slots : ℕ) :
    expectedLists (start.map f) (m.rename f) slots = expectedLists start m slots := by
  rcases m.rename_eq (f := f) with h | h <;> rw [h] <;> rfl

omit hf in
lemma MotionRow.rename_word (m : MotionRow UInt64) : (m.rename f).word = m.word := by
  rcases m.rename_eq (f := f) with h | h
  · rw [h]
  · rw [h]
    rfl

omit hf in
lemma motionWord_rename (m : MotionRow UInt64) : motionWord (m.rename f) = motionWord m := by
  rcases m.rename_eq (f := f) with h | h
  · rw [h]
  · rw [h]
    rfl

omit hf in
lemma predictedTable_rename (start : StartRow UInt64) (table : List (TableRow UInt64))
    (pred : Mapped) :
    predictedTable (start.map f) (table.map (TableRow.map f)) pred =
      predictedTable start table pred := by
  rw [predictedTable, predictedTable, List.length_map, List.zip_map_left, List.flatMap_map]
  rfl

omit hf in
lemma checkValue_motion_rename (m : MotionRow UInt64) (c : Prop) [Decidable c] (code : String) :
    checkValue (.motion (m.rename f) : TraceRow UInt64) c code =
      checkValue (.motion m : TraceRow UInt64) c code := by
  simp only [checkValue, TraceRow.picture, TraceRow.kind, m.rename_picture]

omit hf in
lemma compareExpected_rename (expected : Option (List Mapped)) (start : StartRow UInt64)
    (table : List (TableRow UInt64)) (lists : List ListRow) (m : MotionRow UInt64) :
    compareExpected expected (start.map f) (table.map (TableRow.map f)) lists (m.rename f) =
      compareExpected expected start table lists m := by
  cases expected with
  | none => rfl
  | some expected =>
      simp only [compareExpected, predictedTable_rename, m.rename_word, checkValue_motion_rename]
      rfl

lemma checkDetail_rename (expected : Option (List Mapped)) (st : State) (start : StartRow UInt64)
    (table : List (TableRow UInt64)) (lists : List ListRow) (m : MotionRow UInt64) :
    checkDetail expected (st.rename f) (start.map f) (table.map (TableRow.map f)) lists (m.rename f) =
      renameChecked f (checkDetail expected st start table lists m) := by
  rw [checkDetail, checkDetail, needMotion_rename, expectedLists_rename, motionWord_rename,
    compareExpected_rename, List.length_map, m.rename_word]
  cases hneed : needMotion start m with
  | error e => rfl
  | ok u =>
      have htype : m.type = start.type := by
        simp only [needMotion, Except.bind_ok, need_ok] at hneed
        exact hneed.choose_spec.1.1
      refine renamed_bind (checkTable_rename hf start table st 0) fun st₁ found₁ => ?_
      refine bind_renamed fun wanted => bind_renamed fun _ => bind_renamed fun found₂ => ?_
      refine renamed_bind (checkMotion_rename hf st₁ start table htype) fun st₂ found₃ => ?_
      refine bind_renamed fun word => bind_renamed fun found₄ => ?_
      rw [checkValue_motion_rename]
      rfl

lemma checkCommands_rename (expected : Option (List Mapped)) (st : State) (start : StartRow UInt64)
    (table : List (TableRow UInt64)) (lists : List ListRow) (motion : List (MotionRow UInt64)) :
    checkCommands expected (st.rename f) (start.map f) (table.map (TableRow.map f)) lists
        (motion.map (MotionRow.rename f)) =
      renameChecked f (checkCommands expected st start table lists motion) := by
  rw [checkCommands, checkCommands]
  change (if Detail start.picture then _ else _) = _
  by_cases hdetail : Detail start.picture
  · rw [if_pos hdetail, if_pos hdetail, List.head?_map]
    cases motion.head? with
    | none => rfl
    | some m => exact checkDetail_rename hf expected st start table lists m
  · rw [if_neg hdetail, if_neg hdetail]
    exact bind_renamed fun _ => rfl

lemma checkShape_rename (g : List (TraceRow UInt64)) (start : StartRow UInt64)
    (done : DoneRow UInt64) :
    checkShape (g.map (rename f)) (start.map f) (done.map f) = checkShape g start done := by
  have hpictures : (∀ r ∈ g.map (rename f), r.picture = start.picture) ↔
      ∀ r ∈ g, r.picture = start.picture := by simp
  have hbuf := BufferRow.map_inj hf (b := { start.buf with completed := done.buf.completed })
    (c := done.buf)
  simp only [checkShape, StartRow.map, DoneRow.map, hpictures]
  simp only [need, BufferRow.map] at hbuf ⊢
  simp only [hbuf]
  rfl

omit hf in
lemma filterMap_rename {α : Type} (read : TraceRow UInt64 → Option α) (g' : α → α)
    (h : ∀ row, read (rename f row) = (read row).map g') (g : List (TraceRow UInt64)) :
    (g.map (rename f)).filterMap read = (g.filterMap read).map g' := by
  rw [List.filterMap_map, List.map_filterMap]
  exact congrArg (fun k => g.filterMap k) (funext h)

lemma checkPicture_rename (expected : Option (List Mapped)) (st : State)
    (g : List (TraceRow UInt64)) (start : StartRow UInt64) (done : DoneRow UInt64) :
    checkPicture expected (st.rename f) (g.map (rename f)) (start.map f) (done.map f) =
      renameChecked f (checkPicture expected st g start done) := by
  have htable : (g.map (rename f)).filterMap TraceRow.table? =
      (g.filterMap TraceRow.table?).map (TableRow.map f) :=
    filterMap_rename _ _ (fun row => by cases row <;> rfl) g
  have hlist : (g.map (rename f)).filterMap TraceRow.list? = g.filterMap TraceRow.list? := by
    rw [filterMap_rename _ id (fun row => by cases row <;> rfl) g, List.map_id]
  have hmotion : (g.map (rename f)).filterMap TraceRow.motion? =
      (g.filterMap TraceRow.motion?).map (MotionRow.rename f) :=
    filterMap_rename _ _ (fun row => by cases row <;> rfl) g
  have horder : ∀ table lists motion, checkOrder (g.map (rename f)) (start.map f) table lists motion =
      checkOrder g start table lists motion := by
    intro table lists motion
    simp only [checkOrder, List.map_map, Function.comp_def, kind_rename]
    rfl
  have hpredicted : predictedStart expected (start.map f) = predictedStart expected start := by
    cases expected <;> rfl
  have hfindings : startFindings (st.rename f) (start.map f) = startFindings st start := rfl
  rw [checkPicture, checkPicture, checkShape_rename hf, hpredicted, begin_rename, htable, hlist,
    hmotion, hfindings]
  simp only [List.length_map, horder]
  refine bind_renamed fun _ => bind_renamed fun found₁ => renamed_bind ?_ fun st₁ found₂ => ?_
  · exact checkBuffer_rename hf (st.begin start) start.mv (.start start) (.start (start.map f)) rfl rfl
      start.buf true
  · refine bind_renamed fun _ => ?_
    exact renamed_bind (checkCommands_rename hf expected st₁ start _ _ _) fun st₂ found₃ => rfl

lemma checkGroup_rename (expected : Option (List Mapped)) (st : State)
    (g : List (TraceRow UInt64)) :
    checkGroup expected (st.rename f) (g.map (rename f)) =
      renameChecked f (checkGroup expected st g) := by
  rw [checkGroup, checkGroup, List.head?_map, List.getLast?_map]
  cases g.head? with
  | none => rfl
  | some first =>
      cases g.getLast? with
      | none => cases first <;> rfl
      | some last =>
          cases first with
          | start start =>
              cases last with
              | done done => exact checkPicture_rename hf expected st g start done
              | _ => rfl
          | _ => rfl

/-! ### Resolved timestamps -/

lemma candidatesOf_rename (currentWriters : Dict ℕ (StartRow UInt64)) (stamp : UInt64) :
    candidatesOf (currentWriters.mapVals (StartRow.map f)) (f stamp) =
      candidatesOf currentWriters stamp := by
  have hfilter : ((fun s : StartRow UInt64 => decide (s.buf.timestamp = f stamp)) ∘ StartRow.map f) =
      fun s => decide (s.buf.timestamp = stamp) :=
    funext fun s => decide_eq_decide.mpr hf.eq_iff
  rw [candidatesOf, candidatesOf, Dict.values_mapVals, List.filter_map, hfilter, List.map_map]
  rfl

lemma resolve_rename (currentWriters : Dict ℕ (StartRow UInt64)) (hasBuffer : Bool) :
    resolve (currentWriters.mapVals (StartRow.map f)) hasBuffer ∘ f =
      resolve currentWriters hasBuffer := by
  funext stamp
  rw [Function.comp_apply, resolve, resolve, candidatesOf_rename hf]

omit hf in
lemma TraceRow.map_map {σ : Type} (g : UInt64 → σ) (row : TraceRow UInt64) :
    (row.map f).map g = row.map (g ∘ f) := by
  cases row <;> rfl

omit hf in
lemma hasBuffer_map (row : TraceRow UInt64) : hasBuffer (row.map f) = hasBuffer row := by
  cases row <;> rfl

lemma normalizeRow_map (currentWriters : Dict ℕ (StartRow UInt64)) (row : TraceRow UInt64) :
    normalizeRow (currentWriters.mapVals (StartRow.map f)) (row.map f) =
      normalizeRow currentWriters row := by
  rw [normalizeRow, normalizeRow, hasBuffer_map, TraceRow.map_map, resolve_rename hf]

/-- A record is normalized as before; the motion record of an I slice has no lookup. -/
lemma normalizeRow_rename (currentWriters : Dict ℕ (StartRow UInt64)) {row : TraceRow UInt64}
    (hrow : ∀ m, row = .motion m → m.type = 2 → m.lookup = 0) :
    normalizeRow (currentWriters.mapVals (StartRow.map f)) (rename f row) =
      normalizeRow currentWriters row := by
  cases row with
  | motion m =>
      by_cases htype : m.type = 2
      · have hlookup : hasBuffer (.motion m) = false := by simp [hasBuffer, hrow m rfl htype]
        rw [rename, MotionRow.rename, if_pos htype, normalizeRow, normalizeRow, hlookup]
        rfl
      · rw [rename, MotionRow.rename, if_neg htype]
        exact normalizeRow_map hf currentWriters (.motion m)
  | start s => exact normalizeRow_map hf currentWriters (.start s)
  | done d => exact normalizeRow_map hf currentWriters (.done d)
  | table t => exact normalizeRow_map hf currentWriters (.table t)
  | list a => exact normalizeRow_map hf currentWriters (.list a)

omit hf in
lemma checkGroup_lookup {expected : Option (List Mapped)} {st st' : State}
    {g : List (TraceRow UInt64)} {found : List Finding} {m : MotionRow UInt64}
    (h : checkGroup expected st g = .ok (st', found)) (hm : .motion m ∈ g) (htype : m.type = 2) :
    m.lookup = 0 := by
  rw [checkGroup] at h
  split at h
  next start done hstart hdone =>
    simp only [checkPicture, Except.bind_ok, checkOrder, need_ok, Except.pure_ok] at h
    obtain ⟨_, _, _, _, ⟨st₁, _⟩, _, _, ⟨_, hcount, _⟩, ⟨st₂, _⟩, hcommands, _⟩ := h
    have hmem : m ∈ g.filterMap TraceRow.motion? := List.mem_filterMap.mpr ⟨_, hm, rfl⟩
    rw [checkCommands] at hcommands
    by_cases hdetail : Detail start.picture
    · rw [if_pos hdetail] at hcommands
      rw [ofCond, if_pos hdetail] at hcount
      obtain ⟨m', hm'⟩ := List.length_eq_one_iff.mp hcount
      rw [hm', List.mem_singleton] at hmem
      subst hmem
      simp only [hm', Except.bind_ok, found_ok, List.head?_cons, Option.some.injEq] at hcommands
      obtain ⟨_, rfl, hcheck⟩ := hcommands
      simp only [checkDetail, needMotion, Except.bind_ok, need_ok] at hcheck
      obtain ⟨_, ⟨_, ⟨hsame, _⟩, _⟩, _, _, _, _, _, _, _, _, ⟨_, _⟩, hmotion, _⟩ := hcheck
      rw [checkMotion, if_pos (hsame.symm.trans htype)] at hmotion
      simp only [Except.bind_ok, need_ok] at hmotion
      exact hmotion.choose_spec.1.1
    · rw [ofCond, if_neg hdetail] at hcount
      rw [List.length_eq_zero_iff.mp hcount] at hmem
      exact absurd hmem List.not_mem_nil
  next => exact absurd h (by simp)

/-- The normalized records and the findings of a group that has been checked. -/
lemma group_rename {expected : Option (List Mapped)} {st st' : State} {g : List (TraceRow UInt64)}
    {found : List Finding} (h : checkGroup expected st g = .ok (st', found)) :
    (g.map (rename f)).map (normalizeRow (st'.rename f).currentWriters) =
        g.map (normalizeRow st'.currentWriters) ∧
      groupStampFindings (st'.rename f).currentWriters (g.map (rename f)) =
        groupStampFindings st'.currentWriters g := by
  have hrow : ∀ row ∈ g, normalizeRow (st'.rename f).currentWriters (rename f row) =
      normalizeRow st'.currentWriters row := by
    intro row hmem
    refine normalizeRow_rename hf _ ?_
    rintro m rfl htype
    exact checkGroup_lookup h hmem htype
  refine ⟨?_, ?_⟩
  · rw [List.map_map]
    exact List.map_congr_left hrow
  · rw [groupStampFindings, groupStampFindings, List.flatMap_map]
    refine List.flatMap_congr fun row hmem => ?_
    rw [hrow row hmem]
    have hcheck : ∀ (name : String) (r : Resolved),
        ambiguousFindings (rename f row) name r = ambiguousFindings row name r := fun name r =>
      checkValue_congr (kind_rename row) (picture_rename row) Iff.rfl _
    cases hnorm : normalizeRow st'.currentWriters row <;> simp only [stampFindings, hcheck]

/-! ### The validator -/

lemma validateLoop_rename (expected : Option (List Mapped)) (rows : List (TraceRow UInt64))
    (st : State) (group : List (TraceRow UInt64)) (next : ℕ) :
    validateLoop expected (st.rename f) (group.map (rename f)) next (rows.map (rename f)) =
      validateLoop expected st group next rows := by
  induction rows generalizing st group next with
  | nil =>
      simp only [List.map_nil, validateLoop, List.map_eq_nil_iff]
  | cons row rows ih =>
      have hposition : checkPosition (group.map (rename f)) next (rename f row) =
          checkPosition group next row := by
        simp only [checkPosition, kind_rename, picture_rename, ne_eq, List.map_eq_nil_iff]
      have happend : group.map (rename f) ++ [rename f row] = (group ++ [row]).map (rename f) := by
        simp
      rw [List.map_cons, validateLoop, validateLoop, hposition, kind_rename, happend,
        checkGroup_rename hf, ih]
      refine congrArg _ (funext fun _ => ?_)
      by_cases hkind : row.kind = 2
      · rw [if_pos hkind, if_pos hkind]
        cases hgroup : checkGroup expected st (group ++ [row]) with
        | error e => rfl
        | ok out =>
            obtain ⟨hrows, hfindings⟩ := group_rename hf hgroup
            have hrest := ih out.1 [] (next + 1)
            change (validateLoop expected (out.1.rename f) ([].map (rename f)) (next + 1) _ >>= _) =
              (validateLoop expected out.1 [] (next + 1) rows >>= _)
            rw [hrest, hrows, hfindings]
      · rw [if_neg hkind, if_neg hkind]

end Rename

/-- **Raw timestamps stay private**: an injective renaming of the timestamps of a capture changes
nothing in what is returned, findings and normalized records included. -/
theorem validate_rename {f : UInt64 → UInt64} (hf : Function.Injective f) (c : TraceCapture)
    (expected : Option (List Mapped)) : validate (c.rename f) expected = validate c expected := by
  have hloop : validateLoop expected {} [] 1 (c.records.map (rename f)) =
      validateLoop expected {} [] 1 c.records := validateLoop_rename hf expected c.records {} [] 1
  rw [validate, validate, TraceCapture.rename, hloop]

/-- The sample with other timestamps. -/
theorem sample_renamed : ∃ result, validate sample none = .ok result ∧
    validate (sample.rename (· + 1)) none = .ok result := by
  obtain ⟨result, h, _⟩ := sample_validated
  exact ⟨result, h, (validate_rename (add_left_injective 1) sample none).trans h⟩

end OmarchyM1Video.TraceCheck
