import OmarchyM1Video.Recorder.Session

/-!
The reference recorder: `experiments/hevc-avd-trace/kernel/avd-trace-core.h`.

A capture holds the shared state and an array of records.  A record is appended while its context is
selected, and filled in by the hook that appended it.

* `AtrRecord`, `AtrCapture`: `struct atr_record`, `struct atr_capture`;
* `atrOpen`, `atrBind`, `atrAppend`, `atrStart`, `atrDone`, `atrClose`, `atrSeal`: the functions;
* `atrMachine`: the recorder whose operations they are;
* `atr_keeps`: the records follow the append operations of the recorded context.
-/

namespace OmarchyM1Video.Recorder

open OmarchyM1Video.C

/-- `struct atr_record`. -/
@[ext]
structure AtrRecord where
  run : ℕ := 0
  context : ℕ := 0
  sequence : ℕ := 0
  kind : ℕ := 0
  picture : ℕ := 0
  v : Fin 72 → UInt64 := fun _ => 0

/-- `ATR_CAPACITY`. -/
def traceCapacity : ℕ := 2048

/-- `struct atr_capture`. -/
@[ext]
structure AtrCapture extends Core where
  count : ℕ := 0
  attempted : ℕ := 0
  records : Fin 2048 → AtrRecord := fun _ => {}

/-- A zeroed capture with its run, its process and its phase. -/
def atrArmed (run pid : ℕ) : AtrCapture := { toCore := Core.armed run pid }

/-! ### The functions -/

def atrOpen (c : AtrCapture) (pid : ℕ) : AtrCapture := { c with toCore := c.toCore.opened pid }

def atrBind (c : AtrCapture) (pid context : ℕ) (hevc : Bool) : AtrCapture :=
  { c with toCore := c.toCore.bind pid context hevc }

def atrSelected (c : AtrCapture) (context : ℕ) : Bool := c.toCore.selected context

/-- `atr_append`: the capture, and the index of the record that is returned. -/
def atrAppend (c : AtrCapture) (context kind : ℕ) : Option (AtrCapture × Option ℕ) :=
  if atrSelected c context then
    let c₁ := { c with attempted := wrap64 (c.attempted + 1) }
    if c₁.count = traceCapacity then
      some ({ c₁ with toCore := c₁.toCore.raise .overflow }, none)
    else do
      let r ← load c₁.records c₁.count
      let records ← store c₁.records c₁.count { r with
        run := c₁.run
        context
        sequence := c₁.attempted
        kind
        picture := c₁.pictures }
      return ({ c₁ with count := wrap64 (c₁.count + 1), records }, some c₁.count)
  else some (c, none)

/-- The arguments of `atr_start` that are checked. -/
structure AtrShape where
  slices : ℕ
  entryCapacity : ℕ
  entryPoints : ℕ
  deriving DecidableEq, Repr

/-- `slices != 1 || !entry_capacity || entry_capacity > 256 || entry_points`. -/
def AtrShape.malformed (s : AtrShape) : Bool :=
  s.slices ≠ 1 || s.entryCapacity = 0 || 256 < s.entryCapacity || s.entryPoints ≠ 0

def atrStart (c : AtrCapture) (context : ℕ) (shape : AtrShape) : AtrCapture :=
  { c with toCore := c.toCore.start context shape.malformed }

def atrDone (c : AtrCapture) (context : ℕ) (success : Bool) : AtrCapture :=
  { c with toCore := c.toCore.done context success }

def atrClose (c : AtrCapture) (context : ℕ) : AtrCapture :=
  { c with toCore := c.toCore.close context }

/-- `atr_seal`, which returns one where `Core.sealable` holds. -/
def atrSeal (c : AtrCapture) : AtrCapture := { c with toCore := c.toCore.sealUp }

/-! ### The recorder -/

/-- `atr_append(c, context, kind)` as an operation. -/
structure Append where
  context : ℕ
  kind : ℕ
  deriving DecidableEq, Repr

abbrev AtrOp := Op AtrShape Bool Append

/-- One operation of the recorder. -/
def atrStep (op : AtrOp) (c : AtrCapture) : Option AtrCapture :=
  match op with
  | .opened pid => some (atrOpen c pid)
  | .bind pid context hevc => some (atrBind c pid context hevc)
  | .start context shape => some (atrStart c context shape)
  | .done context success => some (atrDone c context success)
  | .close context => some (atrClose c context)
  | .sealUp => some (atrSeal c)
  | .extra a => (atrAppend c a.context a.kind).map Prod.fst

/-- What `atr_append` does to a capture of the recorded context: it counts the attempt, and stores
the record where there is room. -/
lemma atrAppend_eq_some {c c' : AtrCapture} {context kind : ℕ} {r : Option ℕ} :
    atrAppend c context kind = some (c', r) ↔
      (c.selected context = false ∧ c = c' ∧ r = none) ∨
      (c.selected context = true ∧ c.count = traceCapacity ∧ r = none ∧
        { c with attempted := wrap64 (c.attempted + 1), toCore := c.toCore.raise .overflow } = c') ∨
      (c.selected context = true ∧ ∃ h : c.count < 2048, r = some c.count ∧
        { c with
          attempted := wrap64 (c.attempted + 1)
          count := wrap64 (c.count + 1)
          records := Function.update c.records ⟨c.count, h⟩ { c.records ⟨c.count, h⟩ with
            run := c.run
            context
            sequence := wrap64 (c.attempted + 1)
            kind
            picture := c.pictures } } = c') := by
  rw [atrAppend, atrSelected]
  cases hsel : c.selected context with
  | false => simp [eq_comm]
  | true =>
      by_cases hfull : c.count = traceCapacity
      · have hnlt : ¬c.count < 2048 := by
          rw [hfull]
          decide
        simp only [exists_prop_of_false hnlt]
        simp [hfull, eq_comm, and_comm]
      · by_cases hlt : c.count < 2048
        · simp [hfull, load_of_lt hlt, store_of_lt hlt, hlt, eq_comm, and_comm]
        · simp [hfull, hlt, load]

/-- The reference recorder. -/
def atrMachine : Machine AtrShape Bool Append AtrCapture where
  core := AtrCapture.toCore
  step := atrStep
  malformed := AtrShape.malformed
  succeeded := id
  lawful := by
    intro op c c' h
    cases op with
    | extra a =>
        simp only [atrStep, Option.map_eq_some_iff, Prod.exists, exists_and_right,
          exists_eq_right] at h
        obtain ⟨r, h⟩ := h
        rcases atrAppend_eq_some.mp h with ⟨_, rfl, _⟩ | ⟨_, _, _, rfl⟩ | ⟨_, _, _, rfl⟩
        · exact ⟨0, by simp [Core.next]⟩
        · exact ⟨Fault.overflow.bit, rfl⟩
        · exact ⟨0, by simp [Core.next]⟩
    | _ =>
        obtain rfl := Option.some.inj h
        exact ⟨0, by rw [Nat.or_zero]; rfl⟩

/-! ### The records -/

/-- Whether the operation appends a record of the context. -/
def isAppend (ctx : ℕ) : AtrOp → Bool
  | .extra a => a.context = ctx
  | _ => false

/-- The records of the context that have been appended. -/
def appends (ctx : ℕ) (ops : List AtrOp) : ℕ := ops.countP (isAppend ctx)

lemma appends_concat {ctx : ℕ} {ops : List AtrOp} {op : AtrOp} :
    appends ctx (ops ++ [op]) = appends ctx ops + if isAppend ctx op then 1 else 0 := by
  rw [appends, List.countP_append, List.countP_singleton, appends]

/-- Record `k` is the one that an append operation of the context asked for. -/
def RecordOf (run ctx : ℕ) (during : List AtrOp) (k : ℕ) (r : AtrRecord) : Prop :=
  ∃ pre kind post, during = pre ++ .extra ⟨ctx, kind⟩ :: post ∧ appends ctx pre = k ∧
    r.run = run ∧ r.context = ctx ∧ r.sequence = k + 1 ∧ r.kind = kind ∧ r.picture = starts ctx pre

lemma RecordOf.concat {run ctx k : ℕ} {during : List AtrOp} {r : AtrRecord}
    (h : RecordOf run ctx during k r) (op : AtrOp) : RecordOf run ctx (during ++ [op]) k r := by
  obtain ⟨pre, kind, post, rfl, h⟩ := h
  exact ⟨pre, kind, post ++ [op], by simp, h⟩

/-- One more record, after those that are there. -/
lemma records_update {run ctx n : ℕ} {during : List AtrOp} {records : Fin 2048 → AtrRecord}
    {hn : n < 2048} {r : AtrRecord} {op : AtrOp}
    (h : ∀ k : Fin 2048, k < n → RecordOf run ctx during k (records k))
    (hr : RecordOf run ctx (during ++ [op]) n r) (k : Fin 2048) (hk : k < n + 1) :
    RecordOf run ctx (during ++ [op]) k (Function.update records ⟨n, hn⟩ r k) := by
  by_cases hlast : k = ⟨n, hn⟩
  · subst hlast
    rwa [Function.update_self]
  · have hne : (k : ℕ) ≠ n := fun heq => hlast (Fin.ext heq)
    rw [Function.update_of_ne hlast]
    exact (h k (by omega)).concat op

/-- What the capture holds of the operations since the binding. -/
structure AtrKept (ctx : ℕ) (during : List AtrOp) (c : AtrCapture) : Prop where
  count : c.count = appends ctx during
  attempted : c.attempted = appends ctx during
  room : c.count ≤ traceCapacity
  pictures : c.pictures = starts ctx during
  bound : c.pictures ≤ pictureCount
  records : ∀ k : Fin 2048, k < c.count → RecordOf c.run ctx during k (c.records k)

/-- A capture that has recorded nothing. -/
structure AtrFresh (c : AtrCapture) : Prop where
  count : c.count = 0
  attempted : c.attempted = 0
  pictures : c.pictures = 0

lemma atrStep_extra {a : Append} {c c' : AtrCapture} :
    atrStep (.extra a) c = some c' ↔ ∃ r, atrAppend c a.context a.kind = some (c', r) := by
  simp [atrStep]

/-- The operations on the shared state leave the records alone. -/
lemma atrStep_frame {op : AtrOp} {c c' : AtrCapture} (h : atrMachine.step op c = some c')
    (hop : ∀ a, op ≠ .extra a) :
    c'.count = c.count ∧ c'.attempted = c.attempted ∧ c'.records = c.records := by
  cases op with
  | extra a => exact absurd rfl (hop a)
  | _ =>
      obtain rfl := Option.some.inj h
      exact ⟨rfl, rfl, rfl⟩

/-- A record is appended only while its context is recorded. -/
lemma atrStep_idle {op : AtrOp} {c c' : AtrCapture} (h : atrMachine.step op c = some c')
    (hphase : c.phase ≠ .active) :
    c'.count = c.count ∧ c'.attempted = c.attempted ∧ c'.records = c.records := by
  cases op with
  | extra a =>
      obtain ⟨r, h⟩ := atrStep_extra.mp h
      rcases atrAppend_eq_some.mp h with ⟨_, rfl, _⟩ | ⟨hsel, _⟩ | ⟨hsel, _⟩
      · exact ⟨rfl, rfl, rfl⟩
      · exact absurd (Core.selected_iff.mp hsel).1 hphase
      · exact absurd (Core.selected_iff.mp hsel).1 hphase
  | _ => exact atrStep_frame h (by simp)

/-- Nothing is recorded before the binding. -/
lemma AtrFresh.step {op : AtrOp} {c c' : AtrCapture} (h : AtrFresh c) (hphase : c.phase = .armed)
    (hstep : atrMachine.step op c = some c') : AtrFresh c' := by
  have hidle : c.phase ≠ .active := by simp [hphase]
  obtain ⟨hcount, hattempted, _⟩ := atrStep_idle hstep hidle
  have hpictures : c'.pictures = c.pictures :=
    Machine.step_pictures hstep fun hactive => absurd hactive hidle
  exact ⟨hcount.trans h.count, hattempted.trans h.attempted, hpictures.trans h.pictures⟩

/-- What is kept of the records depends on a few fields only. -/
lemma AtrKept.of_eq {ctx : ℕ} {during : List AtrOp} {c c' : AtrCapture} (h : AtrKept ctx during c)
    (hfields : c'.count = c.count ∧ c'.attempted = c.attempted ∧ c'.records = c.records)
    (hrun : c'.run = c.run) (hpictures : c'.pictures = c.pictures) : AtrKept ctx during c' := by
  obtain ⟨hcount, hattempted, hrecords⟩ := hfields
  refine ⟨hcount.trans h.count, hattempted.trans h.attempted, ?_, hpictures.trans h.pictures, ?_, ?_⟩
  · exact hcount ▸ h.room
  · exact hpictures ▸ h.bound
  · rw [hcount, hrecords, hrun]
    exact h.records

/-- An operation of a context that is recorded. -/
lemma AtrKept.active {ctx : ℕ} {during : List AtrOp} {op : AtrOp} {c c' : AtrCapture}
    (h : AtrKept ctx during c) (hactive : c.phase = .active) (hctx : c.context = ctx)
    (hstep : atrMachine.step op c = some c') (hclean : c'.errors = 0) :
    AtrKept ctx (during ++ [op]) c' := by
  obtain ⟨_, hop⟩ := Machine.step_clean hstep hclean
  obtain ⟨hpictures, hbound⟩ := hop.pictures hactive h.bound
  have hpictures' : c'.pictures = starts ctx (during ++ [op]) := by
    rw [starts_concat, ← h.pictures, ← hctx]
    exact hpictures
  have hrun : c'.run = c.run := Machine.step_run hstep
  -- Whatever does not append a record keeps those that are there.
  have hkeep : c'.count = c.count ∧ c'.attempted = c.attempted ∧ c'.records = c.records →
      isAppend ctx op = false → AtrKept ctx (during ++ [op]) c' := by
    rintro ⟨hcount, hattempted, hrecords⟩ hnot
    have happends : appends ctx (during ++ [op]) = appends ctx during := by
      rw [appends_concat, hnot]
      rfl
    refine ⟨?_, ?_, hcount ▸ h.room, hpictures', hbound, ?_⟩
    · rw [hcount, happends, h.count]
    · rw [hattempted, happends, h.attempted]
    · rw [hcount, hrecords, hrun]
      exact fun k hk => (h.records k hk).concat op
  cases op with
  | extra a =>
      obtain ⟨r, happend⟩ := atrStep_extra.mp hstep
      rcases atrAppend_eq_some.mp happend with ⟨hsel, rfl, _⟩ | ⟨_, _, _, rfl⟩ | ⟨hsel, hlt, _, rfl⟩
      · refine hkeep ⟨rfl, rfl, rfl⟩ ?_
        simpa [isAppend, Core.selected, hactive, hctx] using hsel
      · exact absurd hclean Core.raise_errors_ne
      · obtain rfl : a.context = ctx := (Core.selected_iff.mp hsel).2.trans hctx
        have happends : appends a.context (during ++ [.extra a]) = appends a.context during + 1 := by
          rw [appends_concat]
          simp [isAppend]
        have hcount : wrap64 (c.count + 1) = c.count + 1 := wrap64_of_lt (by omega)
        have hattempted : wrap64 (c.attempted + 1) = c.count + 1 := by
          rw [h.attempted, ← h.count, hcount]
        refine ⟨?_, ?_, ?_, hpictures', hbound, ?_⟩
        · rw [happends, ← h.count, hcount]
        · rw [happends, ← h.count, hattempted]
        · rw [hcount]
          exact hlt
        · rw [hcount, hattempted]
          refine records_update h.records ?_
          exact ⟨during, a.kind, [], rfl, h.count.symm, rfl, rfl, rfl, rfl, h.pictures⟩
  | _ => exact hkeep (atrStep_frame hstep (by simp)) rfl

/-- **The records follow the append operations of the recorded context.** -/
theorem atr_keeps : atrMachine.Keeps AtrFresh AtrKept where
  fresh h hphase hstep _ := h.step hphase hstep
  bind := by
    intro pid ctx c c' h hphase hstep _
    have h' := h.step hphase hstep
    refine ⟨h'.count, h'.attempted, ?_, h'.pictures, ?_, ?_⟩
    · exact h'.count ▸ Nat.zero_le _
    · exact h'.pictures ▸ Nat.zero_le _
    · rw [h'.count]
      exact fun k hk => absurd hk (Nat.not_lt_zero k)
  active h hactive hctx hstep hclean _ := h.active hactive hctx hstep hclean
  close := by
    intro ctx during c c' h _ hstep
    refine h.of_eq (atrStep_frame hstep (by simp)) (Machine.step_run hstep) ?_
    exact Machine.step_pictures hstep (by simp)
  idle := by
    intro ctx during op c c' h hphase hstep
    have hidle : c.phase ≠ .active := by
      rcases hphase with hphase | hphase
      · exact hphase ▸ by decide
      · exact hphase ▸ by decide
    refine h.of_eq (atrStep_idle hstep hidle) (Machine.step_run hstep) ?_
    exact Machine.step_pictures hstep fun hactive => absurd hactive hidle

/-! ### Bounds -/

/-- `atr_append` stays in range as long as the count does. -/
lemma atrAppend_total {c : AtrCapture} (h : c.count ≤ traceCapacity) (context kind : ℕ) :
    ∃ c' r, atrAppend c context kind = some (c', r) ∧ c'.count ≤ traceCapacity := by
  cases hsel : c.selected context with
  | false => exact ⟨c, none, atrAppend_eq_some.mpr (Or.inl ⟨hsel, rfl, rfl⟩), h⟩
  | true =>
      by_cases hfull : c.count = traceCapacity
      · exact ⟨_, _, atrAppend_eq_some.mpr (Or.inr (Or.inl ⟨hsel, hfull, rfl, rfl⟩)), h⟩
      · have hlt : c.count < 2048 := Nat.lt_of_le_of_ne h hfull
        refine ⟨_, _, atrAppend_eq_some.mpr (Or.inr (Or.inr ⟨hsel, hlt, rfl, rfl⟩)), ?_⟩
        rw [wrap64_of_lt (by omega)]
        exact hlt

/-- Every operation stays in range. -/
lemma atrStep_total {c : AtrCapture} (h : c.count ≤ traceCapacity) (op : AtrOp) :
    ∃ c', atrMachine.step op c = some c' ∧ c'.count ≤ traceCapacity := by
  cases op with
  | extra a =>
      obtain ⟨c', r, happend, hcount⟩ := atrAppend_total h a.context a.kind
      exact ⟨c', atrStep_extra.mpr ⟨r, happend⟩, hcount⟩
  | _ => exact ⟨_, rfl, h⟩

end OmarchyM1Video.Recorder
