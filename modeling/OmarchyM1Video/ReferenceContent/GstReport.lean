import Mathlib.Data.List.Perm.Subperm
import Mathlib.Data.List.Nodup
import OmarchyM1Video.ReferenceContent.Report

/-!
The report of the Gst runner, `gst_hevc_runner_json`, and its collector.

The runner checks each slot of the pool before it prints it.  What is printed of a slot is an
`Output`; the collector reads the same outputs from the text.

* `Runner`: `struct _GstHevcRunner`;
* `Runner.output`, `Runner.outputs`, `gstHevcRunnerJson`: the checks and the report;
* `Checked`, `outputs_spec`: what the loop has checked of the outputs it printed;
* `runner_report_accepted`: the collector accepts the report and reads the identities from it.
-/

namespace OmarchyM1Video.ReferenceContent.Gst

open OmarchyM1Video.Py

/-! ### The runner -/

/-- `enum GstHevcRunnerStatus`. -/
inductive Status where
  | disabled
  | configured
  | armed
  | configRefused
  | armRefused
  | streamFailure
  | incomplete
  | cleanupQuarantine
  | reportFailure
  | success
  deriving DecidableEq

/-- `struct _GstHevcRunner`; `frames` are the first `count` of the array. -/
structure Runner where
  framesText : Option (List Char)
  reportPath : Option (List Char)
  frames : List UInt32
  setMask : UInt32
  copy : Bool
  invalid : Bool
  locked : Bool
  armed : Bool
  terminal : Bool
  status : Status

/-! ### The report -/

/-- What is printed of a slot. -/
structure Output where
  frame : UInt32
  request : UInt64
  fields : Fields

/-- The text of an output. -/
def Output.text (o : Output) : List Char :=
  List.flatten [literal "\x7b\"system_frame_number\":", decimal o.frame.toNat,
    literal ",\"request\":\"", hex64 o.request, literal "\",", o.fields.text]

/-- The object that is read back. -/
def Output.object (o : Output) : Json :=
  outputObject ("system_frame_number", .int o.frame.toNat) ("request", hexJson o.request) o.fields

section Entries

variable {o : Output}

lemma Output.reads : Reads hooks o.text o.object := by
  have hframe : literal "\x7b\"system_frame_number\":" =
      '{' :: (quoted "system_frame_number".toList ++ [':']) := rfl
  have hrequest : literal ",\"request\":\"" = ',' :: (quoted "request".toList ++ [':', '"']) := rfl
  have hcomma : literal "\"," = ['"', ','] := rfl
  have htext : o.text = '{' :: (memberText "system_frame_number".toList (decimal o.frame.toNat) ++
      ',' :: (memberText "request".toList (quoted (hex64 o.request)) ++ ',' :: o.fields.text)) := by
    simp only [Output.text, List.flatten_cons, List.flatten_nil, hframe, hrequest, hcomma, memberText,
      quoted, List.append_assoc, List.cons_append, List.nil_append, List.append_nil]
  have hnames : duplicate? [] ("system_frame_number" :: "request" :: commonNames) = none := rfl
  rw [htext]
  exact reads_output (readsMember rfl (reads_uint32 _)) (readsMember rfl (reads_hex64 _)) hnames

lemma Output.printable : ∀ c ∈ o.text, Printable c := by
  refine printable_flatten ?_
  simp only [List.forall_mem_cons]
  exact ⟨printable_all rfl, printable_decimal, printable_all rfl, printable_hex64 _, printable_all rfl,
    o.fields.printable, fun t ht => absurd ht List.not_mem_nil⟩

/-- An output of the report, with the object that it spells. -/
def Output.entry (o : Output) : Entry where
  text := o.text
  members := ("system_frame_number", .int o.frame.toNat) :: ("request", hexJson o.request) ::
    o.fields.members
  reads := o.reads
  printable := o.printable

end Entries

/-- `GST_HEVC_RUNNER_REPORT_BYTES`. -/
def runnerReportBytes : ℕ := 8192

/-- The checks of a slot by itself. -/
def Runner.refuses (runner : Runner) (slot : Slot) (frame : UInt32) (request : UInt64) : Bool :=
  !slot.valid || slot.copied ≠ runner.copy || frame = 0xffffffff ||
    slot.identity.captureIndex = 0xffffffff || (slot.identity.run0 = 0 && slot.identity.run1 = 0) ||
    slot.identity.contextGeneration = 0 || slot.identity.session = 0 || request = 0 ||
    slot.identity.allocationGeneration = 0 || slot.identity.writer = 0 || slot.identity.submitted = 0 ||
    slot.identity.completed = 0 || slot.identity.completed < slot.identity.submitted ||
    !runner.frames.contains frame

section Json

variable (sha256 : List UInt8 → Vector UInt8 32)

/-- What is printed of a slot of this client, if the runner has nothing against it. -/
def Runner.output (runner : Runner) (slot : Slot) : Option Output :=
  match slot.identity.detail with
  | .va .. => none
  | .gst request frame =>
      if runner.refuses slot frame request then none
      else some ⟨frame, request, slotFields sha256 slot⟩

/-- The run, the context and the session are those of the first output. -/
def Fields.sameRun (first f : Fields) : Bool :=
  first.run0 = f.run0 && first.run1 = f.run1 && first.contextGeneration = f.contextGeneration &&
    first.session = f.session

/-- The checks of an output against the ones before it. -/
def conflicts (done : List Output) (o : Output) : Bool :=
  done.any (fun earlier => earlier.frame = o.frame || earlier.request = o.request) ||
    done.head?.any fun first => !Fields.sameRun first.fields o.fields

/-- The loop over the slots; `done` are the outputs that have been printed. -/
def Runner.outputs (runner : Runner) : List Output → List Char → List Slot → Option (List Char)
  | _, json, [] => some json
  | done, json, slot :: slots =>
      match runner.output sha256 slot with
      | none => none
      | some o =>
          if conflicts done o then none
          else
            let json := json ++ ((if done.length = 0 then [] else [',']) ++ o.text)
            if runnerReportBytes ≤ json.length then none
            else runner.outputs (done ++ [o]) json slots

/-- The text before the outputs. -/
def reportHead (count : ℕ) : List Char :=
  List.flatten [literal "\x7b\"schema\":\"", Gst.collector.schema.toList, literal "\",\"count\":",
    decimal count, literal ",\"outputs\":["]

/-- `gst_hevc_runner_json`; a digest is always had, for the type of the checksum is known. -/
def gstHevcRunnerJson (runner : Runner) (pool : Pool) : Option (List Char) :=
  if pool.used ≠ runner.frames.length ∨ pool.used = 0 ∨ contentSlots < pool.used then none
  else
    match runner.outputs sha256 [] (reportHead pool.used) ((List.range pool.used).map pool.slot) with
    | none => none
    | some json =>
        let json := json ++ literal "]\x7d\n"
        if runnerReportBytes < json.length then none else some json

end Json

/-! ### What the loop has checked -/

/-- Outputs that differ from one another and have one run. -/
structure Checked (outputs : List Output) : Prop where
  apart : outputs.Pairwise fun o o' => o.frame ≠ o'.frame ∧ o.request ≠ o'.request
  shared : ∀ first ∈ outputs.head?, ∀ o ∈ outputs, o.fields.shared = first.fields.shared

section Loop

variable {sha256 : List UInt8 → Vector UInt8 32} {runner : Runner} {done : List Output} {o : Output}
  {slot : Slot}

lemma checked_nil : Checked [] := ⟨List.Pairwise.nil, fun first h => absurd h (by simp)⟩

lemma Fields.shared_of_sameRun {f g : Fields} (h : Fields.sameRun f g = true) : g.shared = f.shared := by
  simp only [Fields.sameRun, Bool.and_eq_true, decide_eq_true_eq] at h
  obtain ⟨⟨⟨hrun0, hrun1⟩, hcontext⟩, hsession⟩ := h
  rw [ReferenceContent.Fields.shared, ReferenceContent.Fields.shared, hrun0, hrun1, hcontext, hsession]

/-- An output without a conflict can be added. -/
lemma Checked.concat (h : Checked done) (ho : conflicts done o = false) : Checked (done ++ [o]) := by
  simp only [conflicts, Bool.or_eq_false_iff, List.any_eq_false, Bool.or_eq_true, decide_eq_true_eq,
    not_or] at ho
  obtain ⟨hapart, hrun⟩ := ho
  refine ⟨List.pairwise_append.mpr ⟨h.apart, List.pairwise_singleton _ _, fun earlier he o' ho' => ?_⟩,
    ?_⟩
  · rw [List.mem_singleton.mp ho']
    exact hapart earlier he
  · intro first hfirst o' ho'
    rcases done with _ | ⟨d, done⟩
    · obtain rfl : o = first := Option.some.inj hfirst
      rw [List.mem_singleton.mp ho']
    · obtain rfl : d = first := Option.some.inj hfirst
      rcases List.mem_append.mp ho' with hmem | hmem
      · exact h.shared d rfl o' hmem
      · rw [List.mem_singleton.mp hmem]
        refine Fields.shared_of_sameRun ?_
        simpa using hrun

/-- **The loop prints the outputs of the slots**, which it has checked. -/
lemma outputs_spec {slots : List Slot} {json json' : List Char} (hdone : Checked done)
    (h : runner.outputs sha256 done json slots = some json') :
    ∃ new, List.Forall₂ (fun slot o => runner.output sha256 slot = some o) slots new ∧
      Checked (done ++ new) ∧ json' = json ++ outputsText done.length (new.map Output.entry) := by
  induction slots generalizing done json with
  | nil =>
      refine ⟨[], .nil, ?_, ?_⟩
      · rwa [List.append_nil]
      · exact (Option.some.inj h).symm.trans (List.append_nil json).symm
  | cons slot slots ih =>
      rw [Runner.outputs] at h
      rcases hout : runner.output sha256 slot with _ | o <;> rw [hout] at h
      · exact absurd h.symm (Option.some_ne_none json')
      · dsimp only at h
        obtain ⟨hconflict, h⟩ := Option.ite_none_left_eq_some.mp h
        obtain ⟨-, h⟩ := Option.ite_none_left_eq_some.mp h
        obtain ⟨new, hnew, hchecked, rfl⟩ := ih (hdone.concat (Bool.eq_false_iff.mpr hconflict)) h
        refine ⟨o :: new, .cons hout hnew, ?_, ?_⟩
        · rwa [List.append_assoc, List.singleton_append] at hchecked
        · rw [List.length_append, List.length_singleton, List.map_cons, outputsText, List.append_assoc]
          rfl

lemma output_spec (h : runner.output sha256 slot = some o) :
    slot.identity.detail = .gst o.request o.frame ∧ runner.refuses slot o.frame o.request = false ∧
      o.fields = slotFields sha256 slot := by
  rw [Runner.output] at h
  rcases hdetail : slot.identity.detail with _ | ⟨request, frame⟩ <;> rw [hdetail] at h
  · exact absurd h.symm (Option.some_ne_none o)
  · obtain ⟨hrefuses, h⟩ := Option.ite_none_left_eq_some.mp h
    obtain rfl := Option.some.inj h
    exact ⟨rfl, Bool.eq_false_iff.mpr hrefuses, rfl⟩

/-- What the runner has nothing against. -/
structure Admitted (runner : Runner) (o : Output) : Prop where
  sound : o.fields.Sound
  request : o.request ≠ 0
  frame : o.frame ≠ 0xffffffff
  mem : o.frame ∈ runner.frames
  copied : o.fields.digest.isSome = runner.copy

lemma admitted (h : runner.output sha256 slot = some o) : Admitted runner o := by
  obtain ⟨-, hrefuses, hfields⟩ := output_spec h
  simp only [Runner.refuses, Bool.or_eq_false_iff, Bool.not_eq_eq_eq_not, Bool.not_false,
    decide_eq_false_iff_not, ne_eq, Decidable.not_not, Bool.and_eq_false_iff, List.contains_iff_mem,
    UInt64.not_lt] at hrefuses
  obtain ⟨⟨⟨⟨⟨⟨⟨⟨⟨⟨⟨⟨⟨-, hcopied⟩, hframe⟩, -⟩, hrun⟩, hcontext⟩, hsession⟩, hrequest⟩, hallocation⟩,
    hwriter⟩, hsubmitted⟩, hcompleted⟩, hfrontier⟩, hmem⟩ := hrefuses
  refine ⟨?_, hrequest, hframe, hmem, ?_⟩
  · rw [hfields]
    exact ⟨hrun, hcontext, hsession, hallocation, hwriter, hsubmitted, hcompleted, hfrontier⟩
  · rw [hfields, ← hcopied, slotFields]
    cases slot.copied <;> rfl

end Loop

/-! ### The collector -/

section Collector

variable {sha256 : List UInt8 → Vector UInt8 32} {runner : Runner} {pool : Pool} {o : Output}
  {outputs : List Output} {text : List Char}

lemma Output.get_head : o.object.get? "system_frame_number" = some (.int o.frame.toNat) ∧
    o.object.get? "request" = some (hexJson o.request) := ⟨rfl, rfl⟩

lemma head_notMem_common : "system_frame_number" ∉ commonNames ∧ "request" ∉ commonNames := by decide

lemma Output.carries : Carries o.object o.fields :=
  carries_outputObject head_notMem_common.1 head_notMem_common.2

lemma Output.outputOk (h : Admitted runner o) : OutputOk Gst.collector o.object o.fields.shared := by
  have hcarries : Carries o.object o.fields := o.carries
  have hsound := h.sound
  refine outputOk_outputObject hsound head_notMem_common.1 head_notMem_common.2 rfl ?_ ?_
  · intro p hp
    have hframe := o.frame.toNat_lt
    have hcapture := o.fields.captureIndex.toNat_lt
    simp only [Gst.collector, List.mem_cons, List.not_mem_nil, or_false] at hp
    rcases hp with rfl | rfl
    · exact ⟨_, o.get_head.1, Int.natCast_nonneg _, Int.ofNat_lt.mpr hframe⟩
    · exact ⟨_, hcarries.captureIndex, Int.natCast_nonneg _, Int.ofNat_lt.mpr hcapture⟩
  · intro name hname
    simp only [Gst.collector, List.mem_cons, List.not_mem_nil, or_false] at hname
    rcases hname with rfl | rfl | rfl | rfl | rfl | rfl | rfl
    · exact ⟨_, rfl, h.request⟩
    · exact ⟨_, rfl, hsound.context⟩
    · exact ⟨_, rfl, hsound.session⟩
    · exact ⟨_, rfl, hsound.allocation⟩
    · exact ⟨_, rfl, hsound.writer⟩
    · exact ⟨_, rfl, hsound.submitted⟩
    · exact ⟨_, rfl, hsound.completed⟩

/-- What a report is made of. -/
structure Reported (sha256 : List UInt8 → Vector UInt8 32) (runner : Runner) (pool : Pool)
    (outputs : List Output) (text : List Char) : Prop where
  printed : List.Forall₂ (fun slot o => runner.output sha256 slot = some o)
    ((List.range pool.used).map pool.slot) outputs
  checked : Checked outputs
  text_eq : text = reportText Gst.collector.schema (outputs.map Output.entry)
  bytes : text.length ≤ runnerReportBytes
  count : pool.used = runner.frames.length
  bounds : 1 ≤ pool.used ∧ pool.used ≤ 8

/-- The runner succeeds with a report of the slots. -/
lemma reported_of_json (h : gstHevcRunnerJson sha256 runner pool = some text) :
    ∃ outputs, Reported sha256 runner pool outputs text := by
  rw [gstHevcRunnerJson] at h
  obtain ⟨hused, h⟩ := Option.ite_none_left_eq_some.mp h
  rw [not_or, not_or, ne_eq, Decidable.not_not, Nat.not_lt] at hused
  obtain ⟨hcount, hpos, hmax⟩ := hused
  rcases hloop : runner.outputs sha256 [] (reportHead pool.used) ((List.range pool.used).map pool.slot)
    with _ | json <;> rw [hloop] at h
  · exact absurd h.symm (Option.some_ne_none text)
  · obtain ⟨hbytes, h⟩ := Option.ite_none_left_eq_some.mp h
    obtain ⟨outputs, hout, hchecked, rfl⟩ := outputs_spec checked_nil hloop
    have hlength : pool.used = outputs.length := by
      have := hout.length_eq
      rwa [List.length_map, List.length_range] at this
    obtain rfl := Option.some.inj h
    refine ⟨outputs, hout, hchecked, ?_, Nat.le_of_not_lt hbytes, hcount, Nat.pos_of_ne_zero hpos, hmax⟩
    have hend : literal "]\x7d\n" = literal "]\x7d" ++ ['\n'] := rfl
    rw [hend, hlength, reportText, reportBody, frameText, reportHead, List.length_map]
    simp only [List.flatten_cons, List.flatten_nil, List.append_assoc, List.append_nil, List.length_nil]

namespace Reported

variable (h : Reported sha256 runner pool outputs text)
include h

lemma length : outputs.length = pool.used := by
  have hlength := h.printed.length_eq
  rwa [List.length_map, List.length_range, eq_comm] at hlength

lemma admitted (ho : o ∈ outputs) : Admitted runner o := by
  obtain ⟨k, hk, rfl⟩ := List.getElem_of_mem ho
  exact Gst.admitted (h.printed.get (by rw [h.printed.length_eq]; exact hk) hk)

/-- The frames of the report are the selected ones, each once. -/
lemma perm : (outputs.map Output.frame).Perm runner.frames := by
  have hnodup : (outputs.map Output.frame).Nodup :=
    List.pairwise_map.mpr (h.checked.apart.imp fun hapart => hapart.1)
  have hsubset : outputs.map Output.frame ⊆ runner.frames := by
    intro frame hframe
    obtain ⟨o, ho, rfl⟩ := List.mem_map.mp hframe
    exact (h.admitted ho).mem
  refine (List.subperm_of_subset hnodup hsubset).perm_of_length_le ?_
  rw [List.length_map, h.length, h.count]

lemma entries_ne : outputs.map Output.entry ≠ [] := by
  rw [ne_eq, List.map_eq_nil_iff]
  rintro rfl
  exact absurd (h.length.trans_ge h.bounds.1) (by decide)

lemma entries_length : (outputs.map Output.entry).length ≤ 8 := by
  rw [List.length_map, h.length]
  exact h.bounds.2

/-- The report is decoded to its document. -/
lemma record_eq : record (utf8 text) =
    .ok (reportDocument Gst.collector.schema (outputs.map Output.entry)) := by
  have hbytes := h.bytes
  rw [h.text_eq, reportText, List.length_append, List.length_singleton] at hbytes
  rw [h.text_eq]
  exact record_reportText rfl rfl h.entries_ne h.entries_length hbytes

lemma documentOk : DocumentOk Gst.collector
    (reportDocument Gst.collector.schema (outputs.map Output.entry)) (outputs.map Output.object) := by
  have hobjects : (outputs.map Output.entry).map (fun entry => Json.obj entry.members) =
      outputs.map Output.object := by
    rw [List.map_map]
    rfl
  obtain ⟨first, rest, rfl⟩ := List.exists_cons_of_ne_nil (List.map_eq_nil_iff.not.mp h.entries_ne)
  rw [← hobjects]
  refine documentOk_reportDocument first.fields.shared h.entries_ne h.entries_length fun entry hentry => ?_
  obtain ⟨o, ho, rfl⟩ := List.mem_map.mp hentry
  rw [← h.checked.shared first rfl o ho]
  exact o.outputOk (h.admitted ho)

/-- The selection is one that the collector takes. -/
lemma requested : Requested 0xffffffff (runner.frames.map fun n => (n.toNat : ℤ)) := by
  have hnodup : runner.frames.Nodup := by
    refine h.perm.nodup ?_
    exact List.pairwise_map.mpr (h.checked.apart.imp fun hapart => hapart.1)
  refine ⟨?_, ?_, ?_, ?_⟩
  · rw [List.length_map, ← h.count]
    exact h.bounds.1
  · rw [List.length_map, ← h.count]
    exact h.bounds.2
  · intro n hn
    obtain ⟨frame, hframe, rfl⟩ := List.mem_map.mp hn
    obtain ⟨o, ho, rfl⟩ := List.mem_map.mp (h.perm.mem_iff.mpr hframe)
    have hlt := o.frame.toNat_lt
    have hne : o.frame.toNat ≠ 0xffffffff := fun heq =>
      (h.admitted ho).frame (UInt32.toNat_inj.mp heq)
    exact ⟨Int.natCast_nonneg _, by omega⟩
  · exact hnodup.map fun a b heq => UInt32.toNat_inj.mp (Int.ofNat_inj.mp heq)

/-- The collector accepts the report. -/
lemma parseReport_eq :
    Gst.parseReport (utf8 text) (some (runner.frames.map fun n => (n.toNat : ℤ))) (some runner.copy) =
      .ok (reportDocument Gst.collector.schema (outputs.map Output.entry)) := by
  have hframes : List.Forall₂ (fun output n => Json.get? "system_frame_number" output = some (.int n))
      (outputs.map Output.object) (outputs.map fun o => (o.frame.toNat : ℤ)) := by
    rw [List.forall₂_map_left_iff, List.forall₂_map_right_iff, List.forall₂_same]
    exact fun o _ => o.get_head.1
  have hrequests : List.Forall₂ (fun output s => Json.get? "request" output = some (.str s))
      (outputs.map Output.object) (outputs.map fun o => String.ofList (hex64 o.request)) := by
    rw [List.forall₂_map_left_iff, List.forall₂_map_right_iff, List.forall₂_same]
    exact fun o _ => o.get_head.2
  have hperm : (outputs.map fun o => (o.frame.toNat : ℤ)).Perm
      (runner.frames.map fun n => (n.toNat : ℤ)) := by
    have hmap := h.perm.map fun n : UInt32 => (n.toNat : ℤ)
    rwa [List.map_map] at hmap
  refine Gst.parseReport_ok.mpr ⟨h.requested, h.record_eq, _, _, _, h.documentOk, hframes, hrequests,
    ?_, ?_, ⟨⟨fun n => hperm.mem_iff.mp, fun n => hperm.mem_iff.mpr⟩, hperm.length_eq⟩, ?_⟩
  · exact hperm.nodup_iff.mpr h.requested.2.2.2
  · refine List.pairwise_map.mpr (h.checked.apart.imp fun hapart heq => hapart.2 ?_)
    have hhex := congrArg (fun s => hexValue s.toList) heq
    simp only [String.toList_ofList, hexValue_hex64] at hhex
    exact UInt64.toNat_inj.mp hhex
  · intro output houtput
    obtain ⟨o, ho, rfl⟩ := List.mem_map.mp houtput
    rw [o.carries.copied, (h.admitted ho).copied]

/-- The output of a slot. -/
lemma output_of_slot {k : ℕ} (hk : k < pool.used) :
    ∃ o, outputs[k]? = some o ∧ runner.output sha256 (pool.slot k) = some o := by
  have hk' : k < outputs.length := by rwa [h.length]
  refine ⟨outputs[k], List.getElem?_eq_getElem hk', ?_⟩
  have hout := h.printed.get (by rwa [h.printed.length_eq]) hk'
  simpa using hout

end Reported

/-- The fields of an identity that are reported are the same. -/
structure SameReported (i j : Identity) : Prop where
  /-- The frame and the request. -/
  detail : i.detail = j.detail
  run : i.run0 = j.run0 ∧ i.run1 = j.run1
  context : i.contextGeneration = j.contextGeneration
  session : i.session = j.session
  allocation : i.allocationGeneration = j.allocationGeneration
  writer : i.writer = j.writer
  submitted : i.submitted = j.submitted
  completed : i.completed = j.completed
  captureIndex : i.captureIndex = j.captureIndex

/-- An output carries the identity of a slot, and the digest of its bytes. -/
structure CarriesSlot (sha256 : List UInt8 → Vector UInt8 32) (slot : Slot) (output : Json) : Prop where
  detail : ∃ request frame, slot.identity.detail = .gst request frame ∧
    output.get? "system_frame_number" = some (.int frame.toNat) ∧ HexField output "request" request
  fields : Carries output (slotFields sha256 slot)

lemma carriesSlot {slot : Slot} (h : runner.output sha256 slot = some o) :
    CarriesSlot sha256 slot o.object := by
  obtain ⟨hdetail, -, hfields⟩ := output_spec h
  refine ⟨⟨_, _, hdetail, o.get_head.1, hexField_hexJson o.get_head.2⟩, ?_⟩
  rw [← hfields]
  exact o.carries

lemma CarriesSlot.same {slot slot' : Slot} {output : Json} (h : CarriesSlot sha256 slot output)
    (h' : CarriesSlot sha256 slot' output) : SameReported slot.identity slot'.identity := by
  obtain ⟨request, frame, hdetail, hframe, hrequest⟩ := h.detail
  obtain ⟨request', frame', hdetail', hframe', hrequest'⟩ := h'.detail
  obtain ⟨hrun, hcontext, hsession, hallocation, hwriter, hsubmitted, hcompleted, hcapture⟩ :=
    h.fields.eq h'.fields
  have hnumber := hframe.symm.trans hframe'
  simp only [Option.some.injEq, Json.int.injEq, Int.natCast_inj] at hnumber
  refine ⟨?_, hrun, hcontext, hsession, hallocation, hwriter, hsubmitted, hcompleted, hcapture⟩
  rw [hdetail, hdetail', hrequest.eq hrequest', UInt32.toNat_inj.mp hnumber]

end Collector

/-- **The report of the runner satisfies its collector.**  For every runner and pool for which it is
printed, it is no longer than allowed, the collector accepts it for the frames and the mode of the
runner, each output carries the identity of its slot and, if it was copied, the digest of its bytes;
and a pool with other identities has another report. -/
theorem runner_report_accepted (sha256 : List UInt8 → Vector UInt8 32) (runner : Runner) (pool : Pool)
    (text : List Char) (h : gstHevcRunnerJson sha256 runner pool = some text) :
    (utf8 text).length ≤ 8192 ∧
    (∃ report found,
      Gst.parseReport (utf8 text) (some (runner.frames.map fun n => (n.toNat : ℤ)))
        (some runner.copy) = .ok report ∧
      report.get? "outputs" = some (.arr found) ∧ found.length = pool.used ∧
      ∀ k < pool.used, ∃ output, found[k]? = some output ∧
        CarriesSlot sha256 (pool.slot k) output) ∧
    ∀ runner' pool', gstHevcRunnerJson sha256 runner' pool' = some text →
      pool'.used = pool.used ∧
      ∀ k < pool.used, SameReported (pool.slot k).identity (pool'.slot k).identity := by
  obtain ⟨outputs, hreport⟩ := reported_of_json h
  have hparse := hreport.parseReport_eq
  have hslots : ∀ k < pool.used, ∃ output, (outputs.map Output.object)[k]? = some output ∧
      CarriesSlot sha256 (pool.slot k) output := by
    intro k hk
    obtain ⟨o, ho, hout⟩ := hreport.output_of_slot hk
    exact ⟨o.object, by rw [List.getElem?_map, ho]; rfl, carriesSlot hout⟩
  refine ⟨?_, ⟨_, outputs.map Output.object, hparse, hreport.documentOk.array, ?_, hslots⟩, ?_⟩
  · have hprintable : ∀ c ∈ text, c.toNat < 128 := by
      intro c hc
      rw [hreport.text_eq, reportText, List.mem_append, List.mem_singleton] at hc
      rcases hc with hc | rfl
      · exact (printable_reportBody rfl c hc).2.trans (by decide)
      · decide
    rw [utf8_ascii hprintable, List.length_map]
    exact hreport.bytes
  · rw [List.length_map, hreport.length]
  · intro runner' pool' h'
    obtain ⟨outputs', hreport'⟩ := reported_of_json h'
    -- both are decoded from the one text
    have hdocument := Except.ok.inj (hreport.record_eq.symm.trans hreport'.record_eq)
    have harray := hreport.documentOk.array
    rw [hdocument, hreport'.documentOk.array, Option.some.injEq, Json.arr.injEq] at harray
    have hused : pool'.used = pool.used := by
      have hlength := congrArg List.length harray
      rwa [List.length_map, List.length_map, hreport.length, hreport'.length] at hlength
    refine ⟨hused, fun k hk => ?_⟩
    obtain ⟨output, houtput, hcarries⟩ := hslots k hk
    obtain ⟨o, ho, hout⟩ := hreport'.output_of_slot (hused ▸ hk)
    rw [← harray, List.getElem?_map, ho] at houtput
    obtain rfl := Option.some.inj houtput
    exact hcarries.same (carriesSlot hout)

/-- A runner that is armed for its third frame. -/
def thirdRunner : Runner where
  framesText := some ['3']
  reportPath := some ['r']
  frames := [3]
  setMask := 7
  copy := false
  invalid := false
  locked := true
  armed := true
  terminal := false
  status := .armed

/-- The slot of its third frame. -/
def thirdSlot : Slot :=
  { Slot.zero with
    valid := true
    identity := ⟨1, 0, 2, 3, 1, 4, 5, 6, 6, 0, 1, 1, 0, 9, [345600], .gst 7 3⟩ }

/-- The pool that holds it. -/
def thirdPool : Pool := { (contentInit true 0).setSlot 0 thirdSlot with used := 1 }

/-- A report of one frame, whose run has a zero half. -/
theorem runner_report_of_third_frame :
    ∃ text, gstHevcRunnerJson (fun _ => Vector.replicate 32 0) thirdRunner thirdPool = some text ∧
      (utf8 text).length ≤ 8192 ∧
      ∃ report, Gst.parseReport (utf8 text) (some [3]) (some false) = .ok report := by
  have hsome : (gstHevcRunnerJson (fun _ => Vector.replicate 32 0) thirdRunner thirdPool).isSome = true := by
    decide +kernel
  obtain ⟨text, htext⟩ := Option.isSome_iff_exists.mp hsome
  obtain ⟨hbytes, ⟨report, -, hparse, -⟩, -⟩ := runner_report_accepted _ _ _ text htext
  exact ⟨text, htext, hbytes, report, hparse⟩

end OmarchyM1Video.ReferenceContent.Gst
