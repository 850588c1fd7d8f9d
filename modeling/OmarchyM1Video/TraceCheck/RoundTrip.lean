import OmarchyM1Video.Recorder.Snapshots
import OmarchyM1Video.Recorder.Soundness
import OmarchyM1Video.TraceCheck.Reader
import OmarchyM1Video.TraceCheck.Records

/-!
What the reader makes of a snapshot of the reference recorder.

The hooks store a call's values at fixed places, and the reader takes the names from its own lists.
The two agree: under each name the reader has what the hook was called with.

* `Call.fieldNames_eq`: the reader's names of a kind are those of the hook's values;
* `Captured`: a capture that the hooks recorded and the control file sealed;
* `snapshots_read_back`: it is read back record by record, and only its process is lost;
* `process_not_printed`: the process is lost.
-/

namespace OmarchyM1Video.TraceCheck

open OmarchyM1Video.C OmarchyM1Video.Py OmarchyM1Video.Recorder

/-! ### The names -/

lemma bufferFields_names (ctx : AvdCtx) (buf : DecodedBuffer) :
    (bufferFields ctx buf).map Prod.fst = bufferNames := rfl

lemma refFields_names (a : MotionCall) : a.refFields.map Prod.fst = bufferNames := by
  rw [MotionCall.refFields]
  cases a.ref <;> rfl

lemma listFields_names {names : List String} (h : names.length = 16) (list : Fin 16 → UInt8) :
    (listFields names list).map Prod.fst = names := List.map_fst_zip (by simp [h])

/-- **The reader's names of a kind are those of the hook's values.** -/
theorem Call.fieldNames_eq (call : Call) (picture : ℕ) :
    fieldNames call.kind.code = some ((call.fields picture).map Prod.fst) := by
  cases call with
  | start a => rfl
  | done a dst => rfl
  | detail d =>
      cases d with
      | table a => rfl
      | list a => rfl
      | motion a =>
          change some motionNames = some (a.fields.map Prod.fst)
          simp only [MotionCall.fields, List.map_append, refFields_names,
            listFields_names (show l0Names.length = 16 from rfl),
            listFields_names (show l1Names.length = 16 from rfl)]
          rfl

lemma fieldNames_nodup {kind : ℕ} {keys : List String} (h : fieldNames kind = some keys) :
    (keys ++ ["kind", "picture"]).Nodup := by
  rw [fieldNames.eq_def] at h
  split at h
  · exact Option.some.inj h ▸ by decide +kernel
  · exact Option.some.inj h ▸ by decide +kernel
  · exact Option.some.inj h ▸ by decide +kernel
  · exact Option.some.inj h ▸ by decide +kernel
  · exact Option.some.inj h ▸ by decide +kernel
  · exact absurd h (by simp)

/-! ### The signed fields -/

/-- An encoded picture order count is read back. -/
lemma signed32_stored (x : Int32) :
    signed32 (FieldValue.s32 x).stored.toNat = .ok x.toInt := by
  have hstored : (FieldValue.s32 x).stored.toNat = x.toBitVec.toNat := by
    rw [FieldValue.stored, UInt32.toNat_toUInt64]
    rfl
  have hlt : x.toBitVec.toNat < 0x100000000 := x.toBitVec.isLt
  have hint : x.toInt = x.toBitVec.toInt := rfl
  rw [hstored, hint, BitVec.toInt_eq_toNat_cond, signed32]
  simp only [Except.bind_ok, need_ok, Except.pure_ok]
  refine ⟨(), ⟨by omega, by omega⟩, ?_⟩
  split_ifs <;> omega

/-- The picture order counts are the signed fields. -/
def RightSign (p : String × FieldValue) : Prop :=
  p.2.isSigned = true ↔ p.1 = "poc" ∨ p.1 = "slice_poc"

lemma bufferFields_sign (ctx : AvdCtx) (buf : DecodedBuffer) :
    ∀ p ∈ bufferFields ctx buf, RightSign p := by
  simp [bufferFields, RightSign, FieldValue.isSigned]

lemma refFields_sign (a : MotionCall) : ∀ p ∈ a.refFields, RightSign p := by
  rw [MotionCall.refFields]
  cases a.ref with
  | none => simp [noBufferFields, RightSign, FieldValue.isSigned]
  | some ref => exact bufferFields_sign a.ctx ref

lemma listFields_sign {names : List String} (hpoc : "poc" ∉ names) (hslice : "slice_poc" ∉ names)
    (list : Fin 16 → UInt8) : ∀ p ∈ listFields names list, RightSign p := by
  rintro ⟨name, x⟩ hp
  obtain ⟨hname, hx⟩ := List.of_mem_zip hp
  obtain ⟨y, _, rfl⟩ := List.mem_map.mp hx
  have hne : name ≠ "poc" ∧ name ≠ "slice_poc" :=
    ⟨fun h => hpoc (h ▸ hname), fun h => hslice (h ▸ hname)⟩
  simp [RightSign, FieldValue.isSigned, hne.1, hne.2]

lemma Call.fields_sign (call : Call) (picture : ℕ) : ∀ p ∈ call.fields picture, RightSign p := by
  have happend : ∀ {l l' : List (String × FieldValue)}, (∀ p ∈ l, RightSign p) →
      (∀ p ∈ l', RightSign p) → ∀ p ∈ l ++ l', RightSign p := fun h h' p hp =>
    (List.mem_append.mp hp).elim (h p) (h' p)
  cases call with
  | start a =>
      refine happend (happend ?_ (bufferFields_sign a.ctx _)) ?_
      · simp [RightSign, FieldValue.isSigned]
      · simp [RightSign, FieldValue.isSigned]
  | done a dst =>
      refine happend ?_ (bufferFields_sign a.ctx _)
      simp [RightSign, FieldValue.isSigned]
  | detail d =>
      cases d with
      | table a =>
          refine happend (happend ?_ (bufferFields_sign a.ctx a.ref)) ?_
          · simp [RightSign, FieldValue.isSigned]
          · simp [RightSign, FieldValue.isSigned]
      | list a => simp [Call.fields, DetailCall.fields, ListCall.fields, RightSign, FieldValue.isSigned]
      | motion a =>
          refine happend (happend (happend (happend ?_ (refFields_sign a)) ?_) ?_) ?_
          · simp [RightSign, FieldValue.isSigned]
          · exact listFields_sign (by decide) (by decide) a.sl.refIdxL0
          · exact listFields_sign (by decide) (by decide) a.sl.refIdxL1
          · simp [RightSign, FieldValue.isSigned]

/-! ### A record -/

/-- The named values of a record as they are printed and read. -/
def printed (e : Entry) : List Item :=
  e.fields.map fun p => (p.1, (p.2.stored.toNat, p.2.toInt))

lemma printed_names (e : Entry) : (printed e).map Prod.fst = e.fields.map Prod.fst := by
  rw [printed, List.map_map]
  rfl

lemma printed_signs (e : Entry) : ∀ p ∈ printed e, Signs p := by
  intro p hp
  obtain ⟨⟨name, x⟩, hq, rfl⟩ := List.mem_map.mp hp
  have hsign : RightSign (name, x) := Call.fields_sign e.call e.picture _ hq
  cases x with
  | u64 x =>
      have hnot : ¬(name = "poc" ∨ name = "slice_poc") := fun h =>
        Bool.false_ne_true (hsign.mpr h)
      rw [Signs, if_neg hnot]
      rfl
  | s32 x =>
      rw [Signs, if_pos (hsign.mp rfl)]
      exact signed32_stored x

lemma length_fields_le (call : Call) (picture : ℕ) : (call.fields picture).length ≤ 72 := by
  have hnames := Call.fieldNames_eq call picture
  have hlength : ∀ {kind keys}, fieldNames kind = some keys → keys.length ≤ 72 := by
    intro kind keys h
    rw [fieldNames.eq_def] at h
    split at h
    all_goals first | exact Option.some.inj h ▸ by decide | exact absurd h (by simp)
  simpa using hlength hnames

/-- The values of a record are the named ones, and zeros behind them. -/
lemma ofFn_recordValues {fields : List (String × FieldValue)} (h : fields.length ≤ 72) :
    (List.ofFn fun j => (recordValues fields j).toNat) =
      fields.map (fun p => p.2.stored.toNat) ++ List.replicate (72 - fields.length) 0 := by
  refine List.ext_getElem (by simp; omega) fun k hk hk' => ?_
  rw [List.getElem_ofFn, recordValues]
  by_cases hlt : k < fields.length
  · rw [List.getElem_append_left (by simpa using hlt), List.getD_eq_getElem _ _ (by simpa using hlt)]
    simp
  · rw [List.getElem_append_right (by simpa using hlt), List.getElem_replicate,
      List.getD_eq_default _ _ (by simpa using hlt)]
    rfl

/-- The numbers of a record's row. -/
lemma record_range (e : Entry) {run ctx sequence : ℕ} (hrun : run < 0x10000000000000000)
    (hctx : ctx < 0x10000000000000000) (hseq : sequence < 0x10000000000000000)
    (hpic : e.picture ≤ pictureCount) :
    ∀ m ∈ (e.record run ctx sequence).values, m < 0x10000000000000000 := by
  intro m hm
  rcases List.mem_append.mp hm with hm | hm
  · have hkind : e.call.kind.code ≤ 5 := by cases e.call.kind <;> decide
    simp only [pictureCount] at hpic
    simp only [Entry.record, List.mem_cons, List.not_mem_nil, or_false] at hm
    omega
  · obtain ⟨j, rfl⟩ := List.mem_ofFn.mp hm
    exact UInt64.toNat_lt _

/-- A record of a capture is read back. -/
lemma readRow_record (e : Entry) {run ctx : ℕ} (sequence : ℕ) (hrun : run < 0x10000000000000000)
    (hctx : ctx < 0x10000000000000000) (hseq : sequence < 0x10000000000000000)
    (hpic : 1 ≤ e.picture ∧ e.picture ≤ pictureCount) :
    ∃ r, readRow run ctx sequence (row 'R' (e.record run ctx sequence).values) = .ok r ∧
      r.entries = e.items := by
  have hkeys : fieldNames e.call.kind.code = some ((printed e).map Prod.fst) := by
    rw [printed_names]
    exact Call.fieldNames_eq e.call e.picture
  have hvalues : (List.ofFn fun j => (recordValues e.fields j).toNat) =
      (printed e).map (fun p => p.2.1) ++ List.replicate (72 - e.fields.length) 0 := by
    have hfits : e.fields.length ≤ 72 := length_fields_le e.call e.picture
    rw [ofFn_recordValues hfits, printed, List.map_map]
    rfl
  obtain ⟨r, hread, hentries⟩ := readRow_ok hkeys hpic (fieldNames_nodup hkeys) (printed_signs e)
    (List.length_ofFn ..) hvalues (record_range e hrun hctx hseq hpic.2)
  refine ⟨r, hread, hentries.trans ?_⟩
  rw [withKind, List.map_append, printed, List.map_map]
  rfl

/-- The records of a capture are read back one after the other. -/
lemma readRows {run ctx : ℕ} (hrun : run < 0x10000000000000000) (hctx : ctx < 0x10000000000000000)
    {es : List Entry} {n : ℕ} (hn : n + es.length < 0x10000000000000000)
    (hpics : ∀ e ∈ es, 1 ≤ e.picture ∧ e.picture ≤ pictureCount) :
    ∃ rows, ((((es.zipIdx n).map fun p => row 'R' (p.1.record run ctx p.2).values).zipIdx n).mapM
        fun p => readRow run ctx p.2 p.1) = .ok rows ∧
      rows.map Dict.entries = es.map Entry.items := by
  induction es generalizing n with
  | nil => exact ⟨[], rfl, rfl⟩
  | cons e es ih =>
      rw [List.length_cons] at hn
      obtain ⟨r, hread, hentries⟩ :=
        readRow_record e n hrun hctx (by omega) (hpics e List.mem_cons_self)
      have hrest := ih (n := n + 1) (by omega) fun e he => hpics e (List.mem_cons_of_mem _ he)
      obtain ⟨rows, hrows, hmap⟩ := hrest
      refine ⟨r :: rows, ?_, by rw [List.map_cons, List.map_cons, hentries, hmap]⟩
      rw [List.zipIdx_cons, List.map_cons, List.zipIdx_cons, List.mapM_cons, hread, hrows]
      rfl

/-! ### A capture -/

/-- A capture that was armed, that the hooks recorded, and that was sealed without an error bit and
with as many records as the reader admits; `avd_trace_open` numbers the contexts from one on. -/
structure Captured (run pid : ℕ) (ops : List TraceOp) (c : AtrCapture) : Prop where
  armed : (Command.arm run pid).valid = true
  numbered : ∀ p ctx hevc, Op.bind p ctx hevc ∈ ops → 0 < ctx ∧ ctx < 0x10000000000000000
  hooks : traceMachine.run ops (atrArmed run pid) = some c
  sealed : c.phase = .sealed
  clean : c.errors = 0
  extent : 600 ≤ c.count ∧ c.count ≤ 1139

section Capture

variable {run pid : ℕ} {ops : List TraceOp} {c : AtrCapture}

lemma traceFresh_armed (run pid : ℕ) : TraceFresh (atrArmed run pid) :=
  ⟨fun _ => ⟨rfl, rfl, Nat.zero_le _, rfl⟩, rfl, rfl⟩

/-- Such a capture is of a whole recording, and holds what the hooks recorded in it. -/
lemma Captured.whole (h : Captured run pid ops c) : ∃ before during after,
    ops = before ++ .bind pid c.context true :: (during ++ .close c.context :: after) ∧
      c.toCore = recorded run pid c.context .sealed ∧ TraceKept c.context during c := by
  obtain ⟨ctx, before, during, after, rest, hcore, hrecorded, hkept⟩ :=
    Machine.sealed_clean trace_keeps rfl (traceFresh_armed run pid) h.hooks h.sealed h.clean
  obtain rfl : c.context = ctx := congrArg Core.context hcore
  exact ⟨before, during, _, hrecorded.split, hcore, hkept⟩

lemma Captured.run_range (h : Captured run pid ops c) : 0 < run ∧ run < 0x10000000000000000 := by
  have harmed := h.armed
  simp only [Command.valid, Bool.and_eq_true, decide_eq_true_eq] at harmed
  exact ⟨Nat.pos_of_ne_zero harmed.1.1.1, harmed.1.1.2⟩

lemma length_recordRows (run ctx : ℕ) (es : List Entry) : (recordRows run ctx es).length = es.length := by
  simp [recordRows]

/-- The rows of the records are short lines. -/
lemma recordRows_short {ctx : ℕ} {es : List Entry} (hrun : run < 0x10000000000000000)
    (hctx : ctx < 0x10000000000000000) (hlength : es.length ≤ 2048)
    (hpics : ∀ e ∈ es, 1 ≤ e.picture ∧ e.picture ≤ pictureCount) :
    ∀ r ∈ recordRows run ctx es, OneLine r ∧ encodedLength r ≤ 1618 := by
  have htag : Plain 'R' := ⟨by decide, by decide⟩
  intro r hr
  obtain ⟨⟨e, k⟩, hk, rfl⟩ := List.mem_map.mp hr
  obtain ⟨hlow, hhigh, he⟩ := List.mem_zipIdx hk
  have hmem : e ∈ es := he ▸ List.getElem_mem _
  have hrange := record_range e hrun hctx (show k < 0x10000000000000000 by omega) (hpics e hmem).2
  refine ⟨oneLine_row htag _, ?_⟩
  refine (encodedLength_row_le htag (k := 20) (by decide) fun m hm => ?_).trans ?_
  · exact Nat.lt_trans (hrange m hm) (by decide)
  · simp [AtrRecord.values]

/-- **What is printed is read back**, record by record. -/
lemma Captured.read_back (h : Captured run pid ops c) {during : List TraceOp}
    (hcore : c.toCore = recorded run pid c.context .sealed) (hctx : 0 < c.context ∧
      c.context < 0x10000000000000000) (hkept : TraceKept c.context during c) :
    ∃ text p, c.snapshot = some text ∧ readCapture text run = .ok p ∧ p.run = run ∧
      p.context = c.context ∧ p.count = c.count ∧
      p.records.map Dict.entries = (entries c.context during).map Entry.items := by
  obtain ⟨hrun₀, hrun⟩ := h.run_range
  have hcrun : c.run = run := congrArg Core.run hcore
  have hcount : (entries c.context during).length = c.count := hkept.holding.count.symm
  have hattempted : c.attempted = c.count := hkept.holding.attempted.trans hcount
  obtain ⟨hlow, hhigh⟩ := h.extent
  have hroom : (entries c.context during).length ≤ 2048 := hkept.holding.room
  have hheader : c.headerValues =
      [2, run, c.context, 4, 0, c.count, c.count, 300, 300, 2048, 24, 34, 616] := by
    rw [AtrCapture.headerValues, hattempted, hcore]
    rfl
  have hshort := recordRows_short hrun hctx.2 hroom hkept.numbered
  have htag : Plain 'H' := ⟨by decide, by decide⟩
  have hrange : ∀ m ∈ c.headerValues, m < 0x10000000000000000 := by
    rw [hheader]
    intro m hm
    simp only [List.mem_cons, List.not_mem_nil, or_false] at hm
    omega
  have hsize : encodedLength (unlines (row 'H' c.headerValues ::
      recordRows run c.context (entries c.context during))) ≤ 4194304 := by
    refine (encodedLength_unlines_le (n := 1618) fun r hr => ?_).trans ?_
    · rcases List.mem_cons.mp hr with rfl | hr
      · refine (encodedLength_row_le htag (k := 20) (by decide) fun m hm => ?_).trans ?_
        · exact Nat.lt_trans (hrange m hm) (by decide)
        · simp [hheader]
      · exact (hshort r hr).2
    · rw [List.length_cons, length_recordRows, hcount]
      omega
  have hfits : 1 + (entries c.context during).length < 0x10000000000000000 := by omega
  obtain ⟨rows, hrows, hentries⟩ := readRows hrun hctx.2 hfits hkept.numbered
  have hheaderRead : readHeader run (recordRows run c.context (entries c.context during)).length
      c.headerValues = .ok (run, c.context, c.count) := by
    rw [hheader, length_recordRows, hcount]
    simp only [readHeader, Except.bind_ok, need_ok, Except.pure_ok]
    exact ⟨(), ⟨trivial, trivial, hrun₀, hctx.1⟩, (), ⟨trivial, trivial⟩, (), trivial, (),
      ⟨trivial, trivial, hlow, hhigh⟩, trivial⟩
  have hread := readCapture_ok (by rw [hheader]; rfl) hrange (fun r hr => (hshort r hr).1)
    (by rw [length_recordRows]; exact hroom) hsize hheaderRead hrows
  have hsnapshot := hkept.holding.snapshot_eq
  rw [hcrun] at hsnapshot
  exact ⟨_, _, hsnapshot, hread, rfl, rfl, rfl, hentries⟩

/-! ### Captures that are read alike -/

/-- Named values that are read alike are the same. -/
lemma fields_eq {l l' : List (String × FieldValue)} (hl : ∀ p ∈ l, RightSign p)
    (hl' : ∀ p ∈ l', RightSign p)
    (h : l.map (fun p => (p.1, p.2.toInt)) = l'.map fun p => (p.1, p.2.toInt)) : l = l' := by
  induction l generalizing l' with
  | nil => exact (List.map_eq_nil_iff.mp h.symm).symm
  | cons p l ih =>
      cases l' with
      | nil => exact absurd h (by simp)
      | cons q l' =>
          rw [List.map_cons, List.map_cons, List.cons.injEq, Prod.mk.injEq] at h
          obtain ⟨⟨hname, hint⟩, hrest⟩ := h
          have hp := hl p List.mem_cons_self
          have hq := hl' q List.mem_cons_self
          have hsign : p.2.isSigned = q.2.isSigned := by
            rw [RightSign] at hp hq
            rw [Bool.eq_iff_iff, hp, hq, hname]
          rw [Prod.ext hname (FieldValue.eq_of_toInt hsign hint),
            ih (fun p hp => hl p (List.mem_cons_of_mem _ hp))
              (fun p hp => hl' p (List.mem_cons_of_mem _ hp)) hrest]

/-- Records that are read alike are the same. -/
lemma record_eq {e e' : Entry} (h : e.items = e'.items) (run ctx sequence : ℕ) :
    e.record run ctx sequence = e'.record run ctx sequence := by
  obtain ⟨hfields, hlast⟩ := List.append_inj' h rfl
  rw [List.cons.injEq, List.cons.injEq, Prod.mk.injEq, Prod.mk.injEq] at hlast
  obtain ⟨⟨_, hkind⟩, ⟨_, hpicture⟩, _⟩ := hlast
  have hsame : e.fields = e'.fields :=
    fields_eq (Call.fields_sign e.call e.picture) (Call.fields_sign e'.call e'.picture) hfields
  rw [Entry.record, Entry.record, hsame, Int.ofNat_inj.mp hkind, Int.ofNat_inj.mp hpicture]

lemma recordsOf_eq {es es' : List Entry} (h : es.map Entry.items = es'.map Entry.items)
    (run ctx : ℕ) : recordsOf run ctx es = recordsOf run ctx es' := by
  funext k
  have hk : es[(k : ℕ)]?.map Entry.items = es'[(k : ℕ)]?.map Entry.items := by
    rw [← List.getElem?_map, h, List.getElem?_map]
  rw [recordsOf, recordsOf]
  cases he : es[(k : ℕ)]? with
  | none =>
      cases he' : es'[(k : ℕ)]? with
      | none => rfl
      | some e' => exact absurd hk (by simp [he, he'])
  | some e =>
      cases he' : es'[(k : ℕ)]? with
      | none => exact absurd hk (by simp [he, he'])
      | some e' =>
          rw [he, he', Option.map_some, Option.map_some] at hk
          exact record_eq (Option.some.inj hk) run ctx (k + 1)

end Capture

/-- **Snapshots are read back.**  The reader's names of a kind are those of the values that the hook
stores.  Every capture that the hooks recorded is printed, and read to the calls of a whole
recording, record by record: the kind, the picture, and under each name what the hook was called
with.  Captures that are read alike are the same but for their process. -/
theorem snapshots_read_back :
    (∀ (call : Call) (picture : ℕ),
      fieldNames call.kind.code = some ((call.fields picture).map Prod.fst)) ∧
    (∀ run pid ops c, Captured run pid ops c → ∃ before during after text p,
      ops = before ++ .bind pid c.context true :: (during ++ .close c.context :: after) ∧
      c.count = (entries c.context during).length ∧
      c.records = recordsOf run c.context (entries c.context during) ∧
      c.snapshot = some text ∧ readCapture text run = .ok p ∧
      p.run = run ∧ p.context = c.context ∧ p.count = c.count ∧
      p.records.map Dict.entries = (entries c.context during).map Entry.items) ∧
    ∀ run pid ops c run' pid' ops' c' text text' p, Captured run pid ops c →
      Captured run' pid' ops' c' → c.snapshot = some text → c'.snapshot = some text' →
      readCapture text run = .ok p → readCapture text' run' = .ok p → { c with pid := c'.pid } = c' := by
  refine ⟨Call.fieldNames_eq, fun run pid ops c h => ?_, ?_⟩
  · obtain ⟨before, during, after, hops, hcore, hkept⟩ := h.whole
    have hctx := h.numbered pid c.context true (by rw [hops]; simp)
    obtain ⟨text, p, hsnapshot, hread, hp⟩ := h.read_back hcore hctx hkept
    have hcrun : c.run = run := congrArg Core.run hcore
    exact ⟨before, during, after, text, p, hops, hkept.holding.count, hcrun ▸ hkept.holding.records,
      hsnapshot, hread, hp⟩
  · intro run pid ops c run' pid' ops' c' text text' p h h' htext htext' hp hp'
    obtain ⟨before, during, after, hops, hcore, hkept⟩ := h.whole
    obtain ⟨before', during', after', hops', hcore', hkept'⟩ := h'.whole
    have hctx := h.numbered pid c.context true (by rw [hops]; simp)
    have hctx' := h'.numbered pid' c'.context true (by rw [hops']; simp)
    obtain ⟨_, q, hsnapshot, hread, hrun, hcontext, hcount, hitems⟩ := h.read_back hcore hctx hkept
    obtain ⟨_, q', hsnapshot', hread', hrun', hcontext', hcount', hitems'⟩ :=
      h'.read_back hcore' hctx' hkept'
    obtain rfl := Option.some.inj (htext.symm.trans hsnapshot)
    obtain rfl := Option.some.inj (htext'.symm.trans hsnapshot')
    obtain rfl := Except.ok.inj (hp.symm.trans hread)
    obtain rfl := Except.ok.inj (hp'.symm.trans hread')
    have hrunEq : run = run' := hrun.symm.trans hrun'
    have hcontextEq : c.context = c'.context := hcontext.symm.trans hcontext'
    have hcountEq : c.count = c'.count := hcount.symm.trans hcount'
    have hrecords : c.records = c'.records := by
      rw [hkept.holding.records, hkept'.holding.records, recordsOf_eq (hitems.symm.trans hitems')]
      rw [show c.run = run from congrArg Core.run hcore,
        show c'.run = run' from congrArg Core.run hcore', hrunEq, hcontextEq]
    have hattempted : c.attempted = c'.attempted := by
      rw [hkept.holding.attempted, hkept'.holding.attempted, ← hkept.holding.count,
        ← hkept'.holding.count, hcountEq]
    have hcoreEq : { c.toCore with pid := c'.pid } = c'.toCore := by
      rw [hcore', hcore, hrunEq, hcontextEq]
      rfl
    refine AtrCapture.ext (congrArg Core.run hcoreEq) hcontextEq rfl (congrArg Core.phase hcoreEq)
      (congrArg Core.errors hcoreEq) (congrArg Core.pictures hcoreEq)
      (congrArg Core.completions hcoreEq) (congrArg Core.pending hcoreEq) hcountEq hattempted hrecords

/-! ### A whole recording -/

/-- A picture of one slice. -/
def oneSliceStart : StartCall := { slices := 1, entryCapacity := 1 }

/-- A completion that has succeeded. -/
def successful : DoneCall := { dst := some {}, result := vb2BufStateDone }

section Whole

variable {c : AtrCapture} {ctx n : ℕ}

/-- A record for which there is room leaves the shared state as it is. -/
lemma atrRecord_room {kind : Kind} {fill : (Fin 72 → UInt64) → Option (Fin 72 → UInt64)}
    (hsel : c.selected ctx = true) (hroom : c.count < 2048) (hfill : ∀ v, ∃ v', fill v = some v') :
    ∃ c', atrRecord c ctx kind fill = some c' ∧ c'.toCore = c.toCore := by
  obtain ⟨v, hv⟩ := hfill (c.records ⟨c.count, hroom⟩).v
  exact ⟨_, atrRecord_eq_some.mpr (Or.inr (Or.inr ⟨hsel, hroom, v, hv, rfl⟩)), rfl⟩

lemma step_start_room (hsel : c.selected ctx = true) (hroom : c.count < 2048) (a : StartCall) :
    ∃ c', traceMachine.step (.start ctx a) c = some c' ∧
      c'.toCore = c.toCore.start ctx a.shape.malformed := by
  change ∃ c', (avdTraceStart c ctx a).map Prod.fst = some c' ∧ _
  rw [avdTraceStart_of_selected hsel]
  refine atrRecord_room ((Core.start_selected ctx _).trans hsel) hroom fun v => ?_
  rw [a.fill_eq]
  exact storeAll_total v (by simp [StartCall.values])

lemma step_done_room (hsel : c.selected ctx = true) (hroom : c.count < 2048) {a : DoneCall}
    (hdst : a.dst.isSome = true) : ∃ c', traceMachine.step (.done ctx a) c = some c' ∧
      c'.toCore = c.toCore.done ctx a.success := by
  have hfill : ∀ v, ∃ v', a.fill? v = some v' := by
    intro v
    rw [DoneCall.fill?]
    split
    · rw [a.fill_eq]
      exact storeAll_total v (by simp [DoneCall.values])
    · exact ⟨v, rfl⟩
  have hrecord : ∃ c₁, atrRecord c ctx .done a.fill? = some c₁ ∧ c₁.toCore = c.toCore :=
    atrRecord_room hsel hroom hfill
  obtain ⟨c₁, hc₁, hcore⟩ := hrecord
  change ∃ c', (avdTraceDone c ctx a).map Prod.fst = some c' ∧ _
  rw [avdTraceDone_of_selected hsel, hc₁]
  refine ⟨_, rfl, ?_⟩
  change Core.done { c₁.toCore with errors := c₁.errors ||| a.unplaced } ctx a.success = _
  rw [hcore, DoneCall.unplaced, if_pos hdst, Nat.or_zero]

lemma pictures_succ (ctx n : ℕ) : (Recorder.pictures ctx oneSliceStart successful (n + 1) : List TraceOp) =
    Recorder.pictures ctx oneSliceStart successful n ++ [.start ctx oneSliceStart] ++
      [.done ctx successful] := by
  rw [Recorder.pictures, List.replicate_succ', List.flatten_append, Recorder.pictures]
  simp

lemma length_entries_pictures (ctx n : ℕ) :
    (entries ctx (Recorder.pictures ctx oneSliceStart successful n)).length = 2 * n := by
  induction n with
  | zero => rfl
  | succ n ih =>
      rw [pictures_succ, entries_concat, entries_concat, List.length_append, List.length_append, ih]
      simp [entryOf, successful]
      omega

/-- The capture after some of the pictures. -/
lemma run_pictures (run pid ctx : ℕ) (hn : n ≤ pictureCount) : ∃ c,
    traceMachine.run (.bind pid ctx true :: Recorder.pictures ctx oneSliceStart successful n)
      (atrArmed run pid) = some c ∧
    c.toCore = recording run pid ctx n false ∧
    TraceKept ctx (Recorder.pictures ctx oneSliceStart successful n) c := by
  induction n with
  | zero =>
      have hbind : traceMachine.step (.bind pid ctx true) (atrArmed run pid) =
          some { atrArmed run pid with toCore := recording run pid ctx 0 false } := by
        simp [traceMachine, traceStep, atrBind, atrArmed, Core.bind, Core.armed, recording]
      refine ⟨_, (Machine.run_cons hbind).trans rfl, rfl, ?_⟩
      exact trace_keeps.bind (traceFresh_armed run pid) rfl hbind rfl
  | succ n ih =>
      obtain ⟨c, hrun, hcore, hkept⟩ := ih (by omega)
      have hcount : c.count = 2 * n := hkept.holding.count.trans (length_entries_pictures ctx n)
      simp only [pictureCount] at hn
      have hphase : c.phase = .active := congrArg Core.phase hcore
      have hcontext : c.context = ctx := congrArg Core.context hcore
      -- The start of the picture, and then its completion.
      have hsel : c.selected ctx = true := Core.selected_iff.mpr ⟨hphase, hcontext.symm⟩
      obtain ⟨c₁, hstart, hcore₁⟩ := step_start_room hsel (by omega) oneSliceStart
      have hnext₁ : c₁.toCore = recording run pid ctx n true := by
        have hwrap : wrap64 (n + 1) = n + 1 := wrap64_of_lt (by omega)
        rw [hcore₁, hcore]
        simp [Core.start, Core.selected, recording, Core.raiseIf, hwrap, pictureCount,
          oneSliceStart, StartCall.shape, AtrShape.malformed]
        omega
      have hkept₁ := hkept.active hphase hcontext hstart (congrArg Core.errors hnext₁)
      have hcount₁ : c₁.count = 2 * n + 1 := by
        rw [hkept₁.holding.count, entries_concat, List.length_append, length_entries_pictures]
        simp [entryOf]
      have hphase₁ : c₁.phase = .active := congrArg Core.phase hnext₁
      have hcontext₁ : c₁.context = ctx := congrArg Core.context hnext₁
      have hsel₁ : c₁.selected ctx = true := Core.selected_iff.mpr ⟨hphase₁, hcontext₁.symm⟩
      obtain ⟨c₂, hdone, hcore₂⟩ := step_done_room hsel₁ (by omega) (a := successful) rfl
      have hnext₂ : c₂.toCore = recording run pid ctx (n + 1) false := by
        have hwrap : wrap64 (n + 1) = n + 1 := wrap64_of_lt (by omega)
        rw [hcore₂, hnext₁]
        simp [Core.done, Core.selected, recording, Core.raiseIf, hwrap, successful, DoneCall.success]
      refine ⟨c₂, ?_, hnext₂, ?_⟩
      · rw [pictures_succ, ← List.cons_append, ← List.cons_append]
        exact Machine.run_concat.mpr ⟨c₁, Machine.run_concat.mpr ⟨c, hrun, hstart⟩, hdone⟩
      · rw [pictures_succ]
        exact hkept₁.active hphase₁ hcontext₁ hdone (congrArg Core.errors hnext₂)

/-- The capture of a whole recording. -/
lemma captured_wholeRecording (pid : ℕ) (hpid : pid ≠ 0 ∧ pid ≤ 0x7FFFFFFF) : ∃ c,
    Captured 1 pid (wholeRecording pid 5 oneSliceStart successful) c ∧
    c.toCore = recorded 1 pid 5 .sealed ∧
    TraceKept 5 (Recorder.pictures 5 oneSliceStart successful pictureCount) c := by
  obtain ⟨c, hrun, hcore, hkept⟩ := run_pictures 1 pid 5 (Nat.le_refl pictureCount)
  have hclose : traceMachine.step (.close 5) c = some (atrClose c 5) := rfl
  have hseal : traceMachine.step .sealUp (atrClose c 5) = some (atrSeal (atrClose c 5)) := rfl
  have hdrained : (atrClose c 5).toCore = recorded 1 pid 5 .drained := by
    change c.toCore.close 5 = _
    rw [hcore]
    simp [Core.close, Core.selected, recording, recorded, Core.raiseIf]
  have hsealed : (atrSeal (atrClose c 5)).toCore = recorded 1 pid 5 .sealed := by
    change (atrClose c 5).toCore.sealUp = _
    rw [hdrained]
    simp [Core.sealUp, Core.sealable, recorded, Core.raiseIf]
  have hkept' : TraceKept 5 (Recorder.pictures 5 oneSliceStart successful pictureCount)
      (atrSeal (atrClose c 5)) := by
    have hclosed := trace_keeps.close hkept (congrArg Core.phase hcore) hclose
    exact trace_keeps.idle hclosed (Or.inl (congrArg Core.phase hdrained)) hseal
  have hwhole : traceMachine.run (wholeRecording pid 5 oneSliceStart successful) (atrArmed 1 pid) =
      some (atrSeal (atrClose c 5)) := by
    have hsplit : (wholeRecording pid 5 oneSliceStart successful : List TraceOp) =
        .bind pid 5 true :: Recorder.pictures 5 oneSliceStart successful pictureCount ++ [.close 5] ++
          [.sealUp] := by
      simp [wholeRecording]
    rw [hsplit]
    exact Machine.run_concat.mpr ⟨_, Machine.run_concat.mpr ⟨c, hrun, hclose⟩, hseal⟩
  have hcount : (atrSeal (atrClose c 5)).count = 600 :=
    hkept'.holding.count.trans (length_entries_pictures 5 pictureCount)
  refine ⟨_, ⟨?_, ?_, hwhole, congrArg Core.phase hsealed, congrArg Core.errors hsealed, ?_⟩,
    hsealed, hkept'⟩
  · simpa [Command.valid] using hpid
  · intro p ctx hevc hmem
    simp [wholeRecording, Recorder.pictures] at hmem
    obtain ⟨_, rfl, _⟩ := hmem
    exact ⟨by decide, by decide⟩
  · rw [hcount]
    exact ⟨by decide, by decide⟩

end Whole

/-- The capture of a whole recording by process 7 is read back. -/
theorem wholeRecording_read_back : ∃ c text p,
    Captured 1 7 (wholeRecording 7 5 oneSliceStart successful) c ∧ c.snapshot = some text ∧
      readCapture text 1 = .ok p ∧ p.count = c.count := by
  obtain ⟨c, hcaptured, _⟩ := captured_wholeRecording 7 (by decide)
  obtain ⟨_, _, _, text, p, _, _, _, hsnapshot, hread, _, _, hcount, _⟩ :=
    snapshots_read_back.2.1 1 7 _ c hcaptured
  exact ⟨c, text, p, hcaptured, hsnapshot, hread, hcount⟩

/-- The process is not printed: the captures of processes 7 and 8 differ, and have the same snapshot,
which is read. -/
theorem process_not_printed : ∃ ops ops' c c' text p, Captured 1 7 ops c ∧ Captured 1 8 ops' c' ∧
    c ≠ c' ∧ c.snapshot = some text ∧ c'.snapshot = some text ∧ readCapture text 1 = .ok p := by
  obtain ⟨c, h, hcore, hkept⟩ := captured_wholeRecording 7 (by decide)
  obtain ⟨c', h', hcore', hkept'⟩ := captured_wholeRecording 8 (by decide)
  have hcontext : c.context = 5 := congrArg Core.context hcore
  have hread : ∃ text p, c.snapshot = some text ∧ readCapture text 1 = .ok p ∧ _ :=
    h.read_back (hcontext.symm ▸ hcore) (by rw [hcontext]; decide) (hcontext.symm ▸ hkept)
  obtain ⟨text, p, hsnapshot, hread, _⟩ := hread
  refine ⟨_, _, c, c', text, p, h, h', ?_, hsnapshot, ?_, hread⟩
  · rintro rfl
    exact absurd ((congrArg Core.pid hcore).symm.trans (congrArg Core.pid hcore')) (by decide)
  · have hheader : c'.headerValues = c.headerValues := by
      rw [AtrCapture.headerValues, AtrCapture.headerValues, hkept'.holding.count,
        hkept'.holding.attempted, hkept.holding.count, hkept.holding.attempted, hcore, hcore']
      rfl
    have hrun : c'.run = c.run :=
      (congrArg Core.run hcore').trans (congrArg Core.run hcore).symm
    rw [hkept'.holding.snapshot_eq, hheader, hrun, ← hkept.holding.snapshot_eq, hsnapshot]

/-- **A snapshot is read as typed records**: what the recorder prints of a run that ends sealed without
an error is accepted by the reader.  Its rows have the fields and values of the records that the hooks have
made, one row for each and no field beside them, and each of them is a record of its kind, so that no check
of the validator looks for a field that is not there. -/
theorem captured_typed {run pid : ℕ} {ops : List TraceOp} {c : AtrCapture}
    (h : Captured run pid ops c) : ∃ before during after text p records,
      ops = before ++ .bind pid c.context true :: (during ++ .close c.context :: after) ∧
      c.snapshot = some text ∧ readCapture text run = .ok p ∧
      p.records.map Dict.entries = (entries c.context during).map Entry.items ∧
      p.records.mapM ofRow = .ok records ∧ records.length = c.count := by
  obtain ⟨before, during, after, hops, hcore, hkept⟩ := h.whole
  have hctx := h.numbered pid c.context true (by rw [hops]; simp)
  obtain ⟨text, p, hsnapshot, hread, -, -, -, hitems⟩ := h.read_back hcore hctx hkept
  obtain ⟨records, hrecords⟩ := readCapture_typed hread
  refine ⟨before, during, after, text, p, records, hops, hsnapshot, hread, hitems, hrecords,
    (mapM_ok hrecords).1.trans ?_⟩
  have hlength := congrArg List.length hitems
  rw [List.length_map, List.length_map] at hlength
  exact hlength.trans hkept.holding.count.symm

/-- The rows of a whole recording. -/
theorem captured_typed_whole : ∃ c during text p records, Captured 1 7
    (wholeRecording 7 5 oneSliceStart successful) c ∧ c.snapshot = some text ∧
      readCapture text 1 = .ok p ∧
      p.records.map Dict.entries = (entries c.context during).map Entry.items ∧
      p.records.mapM ofRow = .ok records ∧ records.length = c.count := by
  obtain ⟨c, hcaptured, _⟩ := captured_wholeRecording 7 (by decide)
  obtain ⟨_, during, _, text, p, records, -, hsnapshot, hread, hitems, hrecords, hcount⟩ :=
    captured_typed hcaptured
  exact ⟨c, during, text, p, records, hcaptured, hsnapshot, hread, hitems, hrecords, hcount⟩

end OmarchyM1Video.TraceCheck
