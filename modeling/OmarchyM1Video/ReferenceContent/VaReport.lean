import OmarchyM1Video.ReferenceContent.Report
import OmarchyM1Video.ReferenceContent.VaObservation

/-!
The report of the VA call site, `ff_vaapi_decode_observer_write_report`, and its collector.

The results are in the order in which the outputs came; the collector compares them with the order in
which they were requested.

* `contentVaIdentity`: the identity that the driver writes into a slot;
* `ResultSlot.entry`, `vaapiObserverReportJson`, `writeReport`: the report;
* `ReportOk`: the collector accepts the report and reads the observed identities from it;
* `report_accepted_iff_sorted`: it does where the selectors are in increasing order.
-/

namespace OmarchyM1Video.ReferenceContent.Va

open OmarchyM1Video.Py

/-! ### The identity -/

/-- `struct v4l2r_observer_session`. -/
structure Session where
  run0 : UInt64
  run1 : UInt64
  context : UInt32
  contextGeneration : UInt64
  nonce : UInt64

/-- `struct v4l2r_observer_target`. -/
structure Target where
  surface : UInt32
  surfaceGeneration : UInt64
  allocationGeneration : UInt64
  writer : UInt64

/-- `struct v4l2r_observer_receipt`; a plane size is that of the first plane. -/
structure ObserverReceipt where
  session : Session
  target : Target
  lease : UInt64
  submitted : UInt64
  completed : UInt64
  lastReference : UInt64
  captureIndex : UInt32
  planes : UInt32
  planeSize : UInt64

/-- What `content_va_identity` reads of a capture buffer. -/
structure Capture where
  /-- `cap - ctx->captures`. -/
  position : UInt32
  lastRefSeq : UInt64
  completedWriter : UInt64
  planes : UInt32
  planeSize : UInt64
  memory : UInt32
  flags : UInt32
  count : UInt32
  index : UInt32
  type : UInt32

/-- What it reads of the context. -/
structure Context where
  /-- `codec->pixelformat`, if there is a codec. -/
  codec : Option UInt32
  outputFormat : UInt32
  lease : UInt64
  submitted : UInt64
  completed : UInt64
  queuedCapture : UInt32
  captureType : UInt32
  captureFormat : UInt32
  width : ℕ
  height : ℕ
  bytesperline : ℕ
  /-- `selected`. -/
  selected : UInt32 → Option (Target × Capture)

/-- `V4L2_PIX_FMT_HEVC_SLICE`. -/
def hevcSlice : UInt32 := 0x35363253
/-- `V4L2_PIX_FMT_NV12`. -/
def nv12 : UInt32 := 0x3231564e
/-- `V4L2_MEMORY_MMAP`. -/
def memoryMmap : UInt32 := 1
/-- `V4L2_BUF_TYPE_VIDEO_CAPTURE_MPLANE`. -/
def captureMplane : UInt32 := 9

/-- What `content_va_identity` refuses. -/
def Context.refuses (ctx : Context) (r : ObserverReceipt) (actual : Target) (cap : Capture) : Bool :=
  ctx.codec ≠ some hevcSlice || ctx.outputFormat ≠ hevcSlice || ctx.lease = 0 || ctx.lease ≠ r.lease ||
    actual.surfaceGeneration ≠ r.target.surfaceGeneration ||
    actual.allocationGeneration ≠ r.target.allocationGeneration ||
    actual.writer ≠ r.target.writer || ctx.completed ≠ ctx.submitted ||
    ctx.completed ≠ r.completed || ctx.submitted ≠ r.submitted ||
    cap.lastRefSeq ≠ r.lastReference || cap.completedWriter ≠ actual.writer ||
    ctx.completed < cap.lastRefSeq || r.captureIndex ≠ cap.position || r.planes ≠ 1 ||
    cap.planes ≠ 1 || r.planeSize ≠ cap.planeSize || cap.memory ≠ memoryMmap || cap.flags ≠ 0 ||
    cap.count ≠ 1 || cap.index ≠ r.captureIndex || cap.type ≠ captureMplane ||
    ctx.captureType ≠ captureMplane || ctx.captureFormat ≠ nv12 ||
    !hevcContentLayout ctx.width ctx.height ctx.bytesperline cap.planeSize.toNat ||
    ctx.queuedCapture ≠ 0

/-- `content_va_identity`. -/
def contentVaIdentity (ctx : Context) (r : ObserverReceipt) : Option Identity :=
  match ctx.selected r.target.surface with
  | none => none
  | some (actual, cap) =>
      if ctx.refuses r actual cap then none
      else
        some {
          run0 := r.session.run0
          run1 := r.session.run1
          contextGeneration := r.session.contextGeneration
          session := r.session.nonce
          lease := r.lease
          allocationGeneration := actual.allocationGeneration
          writer := actual.writer
          submitted := r.submitted
          completed := r.completed
          captureIndex := r.captureIndex
          planes := 1
          allocationMemory := cap.memory
          allocationFlags := cap.flags
          allocationType := cap.type
          planeSize := [cap.planeSize]
          detail := .va r.session.context actual.surface actual.surfaceGeneration cap.lastRefSeq }

/-- The identity of a session, with nothing in flight. -/
structure OfSession (session : Session) (i : Identity) : Prop where
  run : i.run0 = session.run0 ∧ i.run1 = session.run1
  context : i.contextGeneration = session.contextGeneration
  nonce : i.session = session.nonce
  drained : i.submitted = i.completed

lemma contentVaIdentity_ofSession {ctx : Context} {r : ObserverReceipt} {i : Identity}
    (h : contentVaIdentity ctx r = some i) : OfSession r.session i := by
  rw [contentVaIdentity] at h
  rcases hselected : ctx.selected r.target.surface with _ | ⟨actual, cap⟩ <;> rw [hselected] at h
  · exact absurd h.symm (Option.some_ne_none i)
  · dsimp only at h
    split_ifs at h with hrefuses
    obtain rfl := Option.some.inj h
    refine ⟨⟨rfl, rfl⟩, rfl, rfl, ?_⟩
    simp only [Context.refuses, Bool.or_eq_true, decide_eq_true_eq, not_or, ne_eq,
      Decidable.not_not] at hrefuses
    obtain ⟨hcompleted, hreceipt, hsubmitted⟩ :
        ctx.completed = ctx.submitted ∧ ctx.completed = r.completed ∧ ctx.submitted = r.submitted := by
      tauto
    exact hsubmitted.symm.trans (hcompleted.symm.trans hreceipt)

/-- The snapshot of an output finds an identity that the driver writes for this session. -/
def FromDriver (session : Session) (e : OutputEnv) : Prop :=
  ∃ ctx r, r.session = session ∧ e.snapshot.identity = contentVaIdentity ctx r

/-! ### The report -/

/-- The common fields of a result slot. -/
def ResultSlot.fields (slot : ResultSlot) : Fields where
  run0 := slot.run0
  run1 := slot.run1
  contextGeneration := slot.contextGeneration
  session := slot.session
  allocationGeneration := slot.allocationGeneration
  writer := slot.writer
  submitted := slot.submitted
  completed := slot.completed
  captureIndex := slot.captureIndex
  digest := if slot.copied then some slot.sha256 else none

/-- An output of the report. -/
def ResultSlot.text (slot : ResultSlot) : List Char :=
  List.flatten [literal "\x7b\"output_ordinal\":", decimal slot.outputIndex.toNat,
    literal ",\"surface\":", decimal slot.surface.toNat, literal ",", slot.fields.text]

section Entries

variable {slot : ResultSlot}

lemma ResultSlot.reads : Reads hooks slot.text (outputObject
    ("output_ordinal", .int slot.outputIndex.toNat) ("surface", .int slot.surface.toNat)
    slot.fields) := by
  have hordinal : literal "\x7b\"output_ordinal\":" = '{' :: (quoted "output_ordinal".toList ++ [':']) :=
    rfl
  have hsurface : literal ",\"surface\":" = ',' :: (quoted "surface".toList ++ [':']) := rfl
  have hcomma : literal "," = [','] := rfl
  have htext : slot.text = '{' :: (memberText "output_ordinal".toList (decimal slot.outputIndex.toNat) ++
      ',' :: (memberText "surface".toList (decimal slot.surface.toNat) ++ ',' :: slot.fields.text)) := by
    simp only [ResultSlot.text, List.flatten_cons, List.flatten_nil, hordinal, hsurface, hcomma,
      memberText, List.append_assoc, List.cons_append, List.nil_append, List.append_nil]
  have hnames : duplicate? [] ("output_ordinal" :: "surface" :: commonNames) = none := rfl
  rw [htext]
  exact reads_output (readsMember rfl (reads_uint64 _)) (readsMember rfl (reads_uint32 _)) hnames

lemma ResultSlot.printable : ∀ c ∈ slot.text, Printable c := by
  refine printable_flatten ?_
  simp only [List.forall_mem_cons]
  exact ⟨printable_all rfl, printable_decimal, printable_all rfl, printable_decimal, printable_all rfl,
    slot.fields.printable, fun t ht => absurd ht List.not_mem_nil⟩

lemma ResultSlot.length_text : slot.text.length ≤ 426 := by
  have hliterals : (literal "\x7b\"output_ordinal\":").length = 18 ∧
      (literal ",\"surface\":").length = 11 ∧ (literal ",").length = 1 := ⟨rfl, rfl, rfl⟩
  have hordinal := length_uint64 slot.outputIndex
  have hsurface := length_uint32 slot.surface
  have hfields := Fields.length_text (f := slot.fields)
  simp only [ResultSlot.text, List.flatten_cons, List.flatten_nil, List.length_append,
    List.length_nil, hliterals]
  omega

/-- An output of the report, with the object that it spells. -/
def ResultSlot.entry (slot : ResultSlot) : Entry where
  text := slot.text
  members := ("output_ordinal", .int slot.outputIndex.toNat) ::
    ("surface", .int slot.surface.toNat) :: slot.fields.members
  reads := slot.reads
  printable := slot.printable

end Entries

/-- `VA_OBSERVER_REPORT_BYTES`. -/
def observerReportBytes : ℕ := 8192

/-- `vaapi_observer_report_json`: the buffer has to have room for the text and a NUL. -/
def vaapiObserverReportJson (slots : List ResultSlot) : Option (List Char) :=
  let text := reportText Va.collector.schema (slots.map ResultSlot.entry)
  if text.length < observerReportBytes then some text else none

/-- `ff_vaapi_decode_observer_write_report`, up to the file. -/
def writeReport (thread : ℕ) (ends closes : Bool) (d : Decoder) : Option (List Char) :=
  match finish thread ends closes d with
  | (.ok, d) => (result thread d).bind vaapiObserverReportJson
  | _ => none

/-! ### The collector -/

/-- What is taken of an identity that is reported: its token is not zero, nor are its generations and the
numbers of its session, its writer and its submissions. -/
structure Nonzero (i : Identity) : Prop where
  run : i.run0 ≠ 0 ∨ i.run1 ≠ 0
  context : i.contextGeneration ≠ 0
  session : i.session ≠ 0
  allocation : i.allocationGeneration ≠ 0
  writer : i.writer ≠ 0
  submitted : i.submitted ≠ 0
  completed : i.completed ≠ 0

instance (i : Identity) : Decidable (Nonzero i) :=
  decidable_of_iff ((i.run0 ≠ 0 ∨ i.run1 ≠ 0) ∧ i.contextGeneration ≠ 0 ∧ i.session ≠ 0 ∧
    i.allocationGeneration ≠ 0 ∧ i.writer ≠ 0 ∧ i.submitted ≠ 0 ∧ i.completed ≠ 0)
    ⟨fun ⟨run, context, session, allocation, writer, submitted, completed⟩ =>
      ⟨run, context, session, allocation, writer, submitted, completed⟩,
     fun h => ⟨h.run, h.context, h.session, h.allocation, h.writer, h.submitted, h.completed⟩⟩

/-- The collector accepts the report for the request, and its outputs carry what was observed. -/
def ReportOk (sha256 : List UInt8 → Vector UInt8 32) (outputs : List UInt64) (copy : Bool)
    (o : Observer) (text : List Char) : Prop :=
  (utf8 text).length ≤ maxReportBytes ∧
  ∃ report found,
    Va.parseReport (utf8 text) (some (outputs.map fun n => (n.toNat : ℤ))) (some copy) = .ok report ∧
    report.get? "outputs" = some (.arr found) ∧ found.length = outputs.length ∧
    ∀ k a, o.attempts[k]? = some a → ∃ output, found[k]? = some output ∧
      output.get? "output_ordinal" = some (.int a.ordinal.toNat) ∧
      output.get? "surface" = some (.int a.surface.toNat) ∧
      Carries output (slotFields sha256 (o.pool.slot k))

section Accepted

variable {slot : ResultSlot} {slots : List ResultSlot}

/-- The object of a result slot. -/
def ResultSlot.object (slot : ResultSlot) : Json :=
  outputObject ("output_ordinal", .int slot.outputIndex.toNat) ("surface", .int slot.surface.toNat)
    slot.fields

lemma ResultSlot.get_head : slot.object.get? "output_ordinal" = some (.int slot.outputIndex.toNat) ∧
    slot.object.get? "surface" = some (.int slot.surface.toNat) := ⟨rfl, rfl⟩

lemma head_notMem_common : "output_ordinal" ∉ commonNames ∧ "surface" ∉ commonNames := by decide

lemma ResultSlot.carries : Carries slot.object slot.fields :=
  carries_outputObject head_notMem_common.1 head_notMem_common.2

lemma ResultSlot.outputOk (h : slot.fields.Sound) : OutputOk Va.collector slot.object slot.fields.shared := by
  have hcarries : Carries slot.object slot.fields := slot.carries
  refine outputOk_outputObject h head_notMem_common.1 head_notMem_common.2 rfl ?_ ?_
  · intro p hp
    have hordinal := slot.outputIndex.toNat_lt
    have hsurface := slot.surface.toNat_lt
    have hcapture := slot.captureIndex.toNat_lt
    simp only [Va.collector, List.mem_cons, List.not_mem_nil, or_false] at hp
    rcases hp with rfl | rfl | rfl
    · exact ⟨_, slot.get_head.1, Int.natCast_nonneg _, Int.ofNat_lt.mpr hordinal⟩
    · exact ⟨_, slot.get_head.2, Int.natCast_nonneg _, Int.ofNat_lt.mpr hsurface⟩
    · exact ⟨_, hcarries.captureIndex, Int.natCast_nonneg _, Int.ofNat_lt.mpr hcapture⟩
  · intro name hname
    simp only [Va.collector, List.mem_cons, List.not_mem_nil, or_false] at hname
    rcases hname with rfl | rfl | rfl | rfl | rfl | rfl
    · exact ⟨_, rfl, h.context⟩
    · exact ⟨_, rfl, h.session⟩
    · exact ⟨_, rfl, h.allocation⟩
    · exact ⟨_, rfl, h.writer⟩
    · exact ⟨_, rfl, h.submitted⟩
    · exact ⟨_, rfl, h.completed⟩

lemma length_report (hcount : slots.length ≤ 8) :
    (reportBody Va.collector.schema (slots.map ResultSlot.entry)).length ≤ 3487 := by
  refine (length_reportBody (n := 426) ?_ ?_).trans (by decide)
  · rw [List.length_map]
    exact hcount
  · intro entry hentry
    obtain ⟨slot, -, rfl⟩ := List.mem_map.mp hentry
    exact slot.length_text

/-- A report of up to eight results fits. -/
lemma vaapiObserverReportJson_eq (hcount : slots.length ≤ 8) : vaapiObserverReportJson slots =
    some (reportText Va.collector.schema (slots.map ResultSlot.entry)) := by
  refine if_pos ?_
  rw [reportText, List.length_append, List.length_singleton]
  exact Nat.lt_of_le_of_lt (Nat.succ_le_succ (length_report hcount)) (by decide)

lemma record_report (hne : slots ≠ []) (hcount : slots.length ≤ 8) :
    record (utf8 (reportText Va.collector.schema (slots.map ResultSlot.entry))) =
      .ok (reportDocument Va.collector.schema (slots.map ResultSlot.entry)) := by
  refine record_reportText rfl rfl (List.map_eq_nil_iff.not.mpr hne) ?_
    (Nat.lt_of_le_of_lt (length_report hcount) (by decide))
  rw [List.length_map]
  exact hcount

/-- The document of a report is in order. -/
lemma documentOk_report {shared : Shared} (hne : slots ≠ []) (hcount : slots.length ≤ 8)
    (hsound : ∀ slot ∈ slots, slot.fields.Sound ∧ slot.fields.shared = shared) :
    DocumentOk Va.collector (reportDocument Va.collector.schema (slots.map ResultSlot.entry))
      (slots.map ResultSlot.object) := by
  have hobjects : (slots.map ResultSlot.entry).map (fun entry => Json.obj entry.members) =
      slots.map ResultSlot.object := by
    rw [List.map_map]
    rfl
  rw [← hobjects]
  refine documentOk_reportDocument shared (List.map_eq_nil_iff.not.mpr hne) ?_ fun entry hentry => ?_
  · rw [List.length_map]
    exact hcount
  · obtain ⟨slot, hslot, rfl⟩ := List.mem_map.mp hentry
    obtain ⟨hfields, rfl⟩ := hsound slot hslot
    exact slot.outputOk hfields

end Accepted

section Collector

variable {u : Setup} {o : Observer} {slots : List ResultSlot} {session : Session}

/-- What the driver lets a snapshot certify. -/
def certifies (session : Session) (copy : Bool) (slot : Slot) : Prop :=
  slot.copied = copy ∧ OfSession session slot.identity

/-- A result slot is that of an observation. -/
lemma Collected.slot (h : Collected u o slots) {slot : ResultSlot} {k : ℕ} (hslot : slots[k]? = some slot) :
    ∃ a, o.attempts[k]? = some a ∧
      slot = ResultSlot.of u.sha256 a.ordinal a.surface (o.pool.slot k) ∧ k < o.pool.used ∧
      u.sound (o.pool.slot k) := by
  obtain rfl := h.slots_eq
  obtain ⟨hk, -⟩ := List.getElem?_eq_some_iff.mp hslot
  rw [h.clean.count] at hk
  obtain ⟨hresult, -, -, hsound⟩ := h.clean.slots k _ (List.getElem?_eq_getElem hk)
  refine ⟨_, List.getElem?_eq_getElem hk, Option.some.inj (hslot.symm.trans hresult), ?_, hsound⟩
  rw [h.clean.used]
  exact hk

lemma Collected.ordinals (h : Collected u o slots) :
    slots.map ResultSlot.outputIndex = o.attempts.map Attempt.ordinal := by
  refine List.ext_getElem? fun k => ?_
  rw [List.getElem?_map, List.getElem?_map]
  rcases hslot : slots[k]? with _ | slot
  · have hlength : slots.length = o.attempts.length := h.slots_eq ▸ h.clean.count
    rw [List.getElem?_eq_none_iff] at hslot
    rw [List.getElem?_eq_none (hlength ▸ hslot)]
    rfl
  · obtain ⟨a, ha, rfl, -⟩ := h.slot hslot
    rw [ha]
    rfl

/-- The fields of a result slot are sound, and those of the session. -/
lemma Collected.sound (h : Collected u o slots) (hu : u.sound = certifies session u.copy)
    (hnonzero : ∀ k < o.pool.used, Nonzero (o.pool.slot k).identity) {slot : ResultSlot}
    (hmem : slot ∈ slots) :
    (slot.fields.Sound ∧ slot.fields.shared =
      ⟨hex64 session.run0, hex64 session.run1, hex64 session.contextGeneration, hex64 session.nonce⟩) ∧
      slot.copied = u.copy := by
  obtain ⟨k, hslot⟩ := List.getElem?_of_mem hmem
  obtain ⟨a, -, rfl, hk, hsound⟩ := h.slot hslot
  rw [hu] at hsound
  obtain ⟨hcopied, hsession⟩ := hsound
  have hid := hnonzero k hk
  refine ⟨⟨⟨hid.run, hid.context, hid.session, hid.allocation, hid.writer, hid.submitted, hid.completed,
    ?_⟩, ?_⟩, hcopied⟩
  · change (o.pool.slot k).identity.submitted ≤ (o.pool.slot k).identity.completed
    rw [hsession.drained]
    exact UInt64.le_refl _
  · change Shared.mk (hex64 (o.pool.slot k).identity.run0) (hex64 (o.pool.slot k).identity.run1)
      (hex64 (o.pool.slot k).identity.contextGeneration) (hex64 (o.pool.slot k).identity.session) = _
    rw [hsession.run.1, hsession.run.2, hsession.context, hsession.nonce]

lemma requested (hnodup : u.outputs.Nodup) (hne : u.outputs ≠ []) (hlength : u.outputs.length ≤ 8) :
    Requested 0x10000000000000000 (u.outputs.map fun n => (n.toNat : ℤ)) := by
  refine ⟨?_, ?_, ?_, ?_⟩
  · rw [List.length_map]
    exact List.length_pos_iff.mpr hne
  · rw [List.length_map]
    exact hlength
  · intro n hn
    obtain ⟨m, -, rfl⟩ := List.mem_map.mp hn
    exact ⟨Int.natCast_nonneg _, Int.ofNat_lt.mpr m.toNat_lt⟩
  · exact hnodup.map fun a b heq => UInt64.toNat_inj.mp (Int.ofNat_inj.mp heq)

/-- The ordinals of the report are those requested exactly where the request was in order. -/
lemma Collected.forall₂_iff (h : Collected u o slots) (hnodup : u.outputs.Nodup) :
    List.Forall₂ (fun output n => Json.get? "output_ordinal" output = some (.int n))
      (slots.map ResultSlot.object) (u.outputs.map fun n => (n.toNat : ℤ)) ↔
    u.outputs.Pairwise (· < ·) := by
  have heq : List.Forall₂ (fun output n => Json.get? "output_ordinal" output = some (.int n))
      (slots.map ResultSlot.object) (u.outputs.map fun n => (n.toNat : ℤ)) ↔
      slots.map ResultSlot.outputIndex = u.outputs := by
    rw [List.forall₂_map_left_iff, List.forall₂_map_right_iff, ← List.forall₂_eq_eq_eq,
      List.forall₂_map_left_iff]
    have hfun : (fun (slot : ResultSlot) (n : UInt64) =>
        Json.get? "output_ordinal" slot.object = some (.int (n.toNat : ℤ))) =
        fun slot n => slot.outputIndex = n := by
      funext slot n
      rw [slot.get_head.1, Option.some.injEq, Json.int.injEq, Int.ofNat_inj, UInt64.toNat_inj]
    rw [hfun]
  have hperm := h.perm hnodup
  rw [heq, h.ordinals]
  constructor
  · intro hsame
    rw [← hsame]
    exact h.clean.sorted
  · intro hsorted
    refine List.Perm.eq_of_pairwise (fun a b _ _ hab hba => ?_) h.clean.sorted hsorted hperm.symm
    exact absurd (UInt64.lt_trans hab hba) (UInt64.lt_irrefl a)

/-- A report of what was collected is accepted exactly where the request was in order. -/
lemma Collected.reportOk_iff (h : Collected u o slots) (hu : u.sound = certifies session u.copy)
    (hnonzero : ∀ k < o.pool.used, Nonzero (o.pool.slot k).identity) (hnodup : u.outputs.Nodup)
    (hne : u.outputs ≠ []) (hlength : u.outputs.length ≤ 8) :
    ∃ text, vaapiObserverReportJson slots = some text ∧
      (ReportOk u.sha256 u.outputs u.copy o text ↔ u.outputs.Pairwise (· < ·)) := by
  have hcount : slots.length = u.outputs.length := by
    rw [← h.length, ← h.slots_eq, h.clean.count]
  have hslots : slots ≠ [] := by
    rintro rfl
    exact hne (List.length_eq_zero_iff.mp hcount.symm)
  have height : slots.length ≤ 8 := hcount ▸ hlength
  have hrecord := record_report hslots height
  have hdocument : DocumentOk Va.collector
      (reportDocument Va.collector.schema (slots.map ResultSlot.entry))
      (slots.map ResultSlot.object) :=
    documentOk_report hslots height fun slot hmem => (h.sound hu hnonzero hmem).1
  refine ⟨_, vaapiObserverReportJson_eq height, ?_⟩
  rw [← h.forall₂_iff hnodup]
  constructor
  · rintro ⟨-, report, found, hparse, -⟩
    obtain ⟨-, hrecord', outputs, hdocument', hordinals, -⟩ := Va.parseReport_ok.mp hparse
    obtain rfl : reportDocument _ _ = report := Except.ok.inj (hrecord.symm.trans hrecord')
    have harray := hdocument.array.symm.trans hdocument'.array
    rw [Option.some.injEq, Json.arr.injEq] at harray
    rwa [harray]
  · intro hordinals
    refine ⟨?_, _, slots.map ResultSlot.object, Va.parseReport_ok.mpr ⟨requested hnodup hne hlength,
      hrecord, _, hdocument, hordinals, fun output houtput => ?_⟩, hdocument.array, ?_, ?_⟩
    · have hprintable : ∀ c ∈ reportBody Va.collector.schema (slots.map ResultSlot.entry), Printable c :=
        printable_reportBody rfl
      obtain ⟨⟨hbytes, -⟩, -⟩ :=
        oneRecord_line hprintable (Nat.lt_of_le_of_lt (length_report height) (by decide))
      exact hbytes
    · obtain ⟨slot, hmem, rfl⟩ := List.mem_map.mp houtput
      rw [slot.carries.copied, ← (h.sound hu hnonzero hmem).2]
      change some (Json.bool (if slot.copied then some slot.sha256 else none).isSome) = _
      cases slot.copied <;> rfl
    · rw [List.length_map, hcount]
    · intro k a ha
      obtain ⟨hslot, -⟩ := h.clean.slots k a ha
      rw [h.slots_eq] at hslot
      refine ⟨_, by rw [List.getElem?_map, hslot]; rfl, ResultSlot.get_head.1, ResultSlot.get_head.2, ?_⟩
      have hfields : (ResultSlot.of u.sha256 a.ordinal a.surface (o.pool.slot k)).fields =
          slotFields u.sha256 (o.pool.slot k) := by
        rw [ResultSlot.fields, slotFields, ResultSlot.of]
        cases (o.pool.slot k).copied <;> rfl
      rw [← hfields]
      exact ResultSlot.carries

lemma conclude_code {closes : Bool} (hfinished : o.finished = false)
    (h : (o.conclude closes).2.finished = true) : (o.conclude closes).1 = .ok := by
  rw [Observer.conclude] at h ⊢
  split_ifs at h ⊢
  · exact absurd (h.symm.trans hfinished) (by decide)
  · exact absurd (h.symm.trans hfinished) (by decide)
  · rfl

/-- A finish that leaves a result has succeeded. -/
lemma finish_code {thread : ℕ} {ends closes : Bool} {d : Decoder}
    (h : result thread (finish thread ends closes d).2 = some slots) :
    (finish thread ends closes d).1 = .ok := by
  obtain ⟨o', ho', -, hfailed, hfinished, -, hactive, howner⟩ := result_some h
  rw [finish] at ho' ⊢
  rcases ho : d.observer with _ | o
  · rfl
  · rw [ho] at ho'
    dsimp only at ho' ⊢
    split_ifs at ho' ⊢ with hthread hdone hbad hends hon
    · obtain rfl := Option.some.inj (ho.symm.trans ho')
      exact absurd howner hthread
    · obtain rfl := Option.some.inj (ho.symm.trans ho')
      exact absurd (hbad.symm.trans hfailed) (by decide)
    · rfl
    · obtain rfl := Option.some.inj ho'
      exact absurd (hends.1.symm.trans hactive) (by decide)
    · obtain rfl := Option.some.inj ho'
      exact conclude_code (Bool.eq_false_iff.mpr hdone) hfinished
    · obtain rfl := Option.some.inj ho'
      exact conclude_code (Bool.eq_false_iff.mpr hdone) hfinished

/-- A result is written. -/
lemma writeReport_eq {thread : ℕ} {ends closes : Bool} {d : Decoder}
    (h : result thread (finish thread ends closes d).2 = some slots) :
    writeReport thread ends closes d = vaapiObserverReportJson slots := by
  have hcode := finish_code h
  rw [writeReport]
  rcases hfinish : finish thread ends closes d with ⟨code, d'⟩
  rw [hfinish] at hcode h
  obtain rfl : code = .ok := hcode
  dsimp only at h ⊢
  rw [h]
  rfl

end Collector

/-- **The report of a complete observation is accepted where the selectors are in increasing order**,
and only there.  For every text of selectors, every run of an armed decoder over the identities of one
session, and every result: the report is written, and the collector accepts it for the request and
reads what was observed from it exactly where each selector is below the next. -/
theorem report_accepted_iff_sorted (sha256 : List UInt8 → Vector UInt8 32) (value : List Char)
    (outputs : List UInt64) (copy binds ends closes : Bool) (thread t : ℕ) (content : Content)
    (session : Session) (d : Decoder) (calls : List Call) (slots : List ResultSlot)
    (hparse : vaapiObserverParseOutputs value = some outputs)
    (harm : arm value copy thread binds content = some d)
    (hdriver : ∀ e, Call.output e ∈ calls → FromDriver session e)
    (hresult : result t (finish t ends closes (run sha256 d calls)).2 = some slots)
    (hnonzero : ∀ o, (finish t ends closes (run sha256 d calls)).2.observer = some o →
      ∀ k < o.pool.used, Nonzero (o.pool.slot k).identity) :
    ∃ o text, (finish t ends closes (run sha256 d calls)).2.observer = some o ∧
      writeReport t ends closes (run sha256 d calls) = some text ∧
      (ReportOk sha256 outputs copy o text ↔ outputs.Pairwise (· < ·)) := by
  obtain ⟨hnodup, hne, hlength⟩ := vaapiObserverParseOutputs_nodup hparse
  let u : Setup := ⟨sha256, outputs, copy, certifies session copy⟩
  have hsound : ∀ c ∈ calls, c.Sound u := by
    intro c hc
    cases c with
    | output e =>
        intro slot hcertified
        obtain ⟨ctx, r, rfl, hidentity⟩ := hdriver e hc
        have hsome : contentVaIdentity ctx r = some slot.identity := by
          rw [← hidentity, hcertified.identity]
        exact ⟨hcertified.copied, contentVaIdentity_ofSession hsome⟩
    | finish => exact trivial
    | flush => exact trivial
    | uninit => exact trivial
  have hinv : Inv u (finish t ends closes (run sha256 d calls)).2 :=
    finish_inv ((inv_arm (u := u) hparse harm).run hnodup hsound)
  obtain ⟨o, ho, hcollected⟩ := collected_of_result hinv hresult
  obtain ⟨text, htext, hiff⟩ := hcollected.reportOk_iff rfl (hnonzero o ho) hnodup hne hlength
  exact ⟨o, text, ho, (writeReport_eq hresult).trans htext, hiff⟩

/-- The session of the plain identities. -/
def plainSession : Session := ⟨1, 2, 0, 3, 1⟩

/-- A receipt for the surface. -/
def plainReceipt (surface : UInt32) : ObserverReceipt where
  session := plainSession
  target := ⟨surface, 1, 5, 1⟩
  lease := 1
  submitted := 4
  completed := 4
  lastReference := 4
  captureIndex := 0
  planes := 1
  planeSize := 345600

/-- A context that has decoded the surface. -/
def plainContext (surface : UInt32) : Context where
  codec := some hevcSlice
  outputFormat := hevcSlice
  lease := 1
  submitted := 4
  completed := 4
  queuedCapture := 0
  captureType := captureMplane
  captureFormat := nv12
  width := 448
  height := 240
  bytesperline := 448
  selected _ := some (⟨surface, 1, 5, 1⟩, ⟨0, 4, 1, 1, 345600, memoryMmap, 0, 1, 0, captureMplane⟩)

lemma plain_fromDriver (surface : UInt32) : FromDriver plainSession (plainOutput surface) :=
  ⟨plainContext surface, plainReceipt surface, rfl, rfl⟩

/-- The result of a plain output. -/
def plainSlot (ordinal : UInt64) (surface : UInt32) : ResultSlot :=
  ⟨ordinal, surface, 1, 2, 3, 1, 5, 1, 4, 4, 0, false, Vector.replicate 32 0⟩

/-- The report of the first two outputs is accepted. -/
theorem report_of_two_outputs :
    let s := run noDigest armedTwo [.output (plainOutput 7), .output (plainOutput 8)]
    ∃ o text, (finish 0 true true s).2.observer = some o ∧ writeReport 0 true true s = some text ∧
      ReportOk noDigest [0, 1] false o text := by
  have hdriver : ∀ e, Call.output e ∈ [Call.output (plainOutput 7), Call.output (plainOutput 8)] →
      FromDriver plainSession e := by
    intro e he
    rcases List.mem_pair.mp he with heq | heq
    · cases heq
      exact plain_fromDriver 7
    · cases heq
      exact plain_fromDriver 8
  have hresult : result 0 (finish 0 true true (run noDigest armedTwo
      [.output (plainOutput 7), .output (plainOutput 8)])).2 =
      some [plainSlot 0 7, plainSlot 1 8] := by decide +kernel
  have hnonzero : ((finish 0 true true (run noDigest armedTwo
      [.output (plainOutput 7), .output (plainOutput 8)])).2.observer.all fun o =>
        decide (∀ k < o.pool.used, Nonzero (o.pool.slot k).identity)) = true := by decide +kernel
  obtain ⟨o, text, ho, htext, hiff⟩ := report_accepted_iff_sorted noDigest ['0', ',', '1'] [0, 1] false
    true true true 0 0 ⟨0, none⟩ plainSession armedTwo [.output (plainOutput 7), .output (plainOutput 8)]
    [plainSlot 0 7, plainSlot 1 8] rfl rfl hdriver hresult
    (by
      intro o ho
      rw [ho] at hnonzero
      exact of_decide_eq_true hnonzero)
  exact ⟨o, text, ho, htext, hiff.mpr (by decide)⟩

/-- A decoder armed for its second output and its first. -/
def armedDescending : Decoder := ⟨some (Observer.armed [1, 0] false 0), ⟨0, none⟩, none⟩

/-- The report of a descending selection is refused. -/
theorem report_of_descending_selectors :
    let s := run noDigest armedDescending [.output (plainOutput 7), .output (plainOutput 8)]
    arm ['1', ',', '0'] false 0 true ⟨0, none⟩ = some armedDescending ∧
    FromDriver plainSession (plainOutput 7) ∧ FromDriver plainSession (plainOutput 8) ∧
    result 0 (finish 0 true true s).2 = some [plainSlot 0 7, plainSlot 1 8] ∧
    ∃ text, writeReport 0 true true s = some text ∧
      ∀ report, Va.parseReport (utf8 text) (some [1, 0]) (some false) ≠ .ok report := by
  intro s
  have hresult : result 0 (finish 0 true true s).2 = some [plainSlot 0 7, plainSlot 1 8] := by
    decide +kernel
  refine ⟨rfl, plain_fromDriver 7, plain_fromDriver 8, hresult,
    reportText Va.collector.schema ([plainSlot 0 7, plainSlot 1 8].map ResultSlot.entry),
    (writeReport_eq hresult).trans (vaapiObserverReportJson_eq (by decide)), ?_⟩
  intro report h
  obtain ⟨-, hrecord, outputs, hdocument, hordinals, -⟩ := Va.parseReport_ok.mp h
  have hne : [plainSlot 0 7, plainSlot 1 8] ≠ [] := List.cons_ne_nil _ _
  obtain rfl : reportDocument _ _ = report :=
    Except.ok.inj ((record_report hne (by decide)).symm.trans hrecord)
  -- the first output of the report is output 0, and output 1 was requested first
  cases hdocument.array
  obtain ⟨hfirst, -⟩ := List.forall₂_cons.mp hordinals
  cases hfirst

end OmarchyM1Video.ReferenceContent.Va
