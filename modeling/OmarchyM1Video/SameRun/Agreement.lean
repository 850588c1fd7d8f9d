import OmarchyM1Video.ReferenceContent.VaReport
import OmarchyM1Video.SameRun.Report

/-!
The collectors and the join on the same reports.

The join takes both halves of a run to be nonzero, where the collectors (and the call sites, which
print the reports) take the run as a whole to be nonzero; it compares the count of a report with a
number, where the collectors want an integer; and it takes every frame of 32 bits, where the Gst
collector takes the last one for no frame.

* `parseReport`: the collector of a client;
* `Common`: what both have of an output; the join takes it with `Drained` and `BothHalves`;
* `join_of_collector`, `collector_of_join`: the two directions;
* `collector_join_agree`: each accepts what the other does, but for these differences.
-/

namespace OmarchyM1Video.SameRun

open OmarchyM1Video.Py
open OmarchyM1Video.ReferenceContent

/-- The names of a client. -/
def collector : Client → Collector
  | .va => Va.collector
  | .gst => Gst.collector

/-- `parse_report` of the collector of a client. -/
def parseReport : Client → List UInt8 → Option (List ℤ) → Option Bool → Read Json
  | .va => Va.parseReport
  | .gst => Gst.parseReport

/-! ### The differences -/

/-- The statement holds of every output of the report. -/
def EachOutput (P : Json → Prop) (report : Json) : Prop :=
  ∀ outputs, report.get? "outputs" = some (.arr outputs) → ∀ output ∈ outputs, P output

/-- What was submitted is completed. -/
def Drained (output : Json) : Prop := output.get? "completed" = output.get? "submitted"

/-- No half of the run is zero. -/
def BothHalves (output : Json) : Prop :=
  ∀ r₀ r₁, output.get? "run" = some (.arr [.str r₀, .str r₁]) →
    hexValue r₀.toList ≠ 0 ∧ hexValue r₁.toList ≠ 0

/-- The count is an integer, and not a Boolean or a float that equals it. -/
def CountIsInt (report : Json) : Prop := ∃ n, report.get? "count" = some (.int n)

/-- The request generations of the outputs of a Gst report differ. -/
def RequestsApart (client : Client) (outputs : List Json) : Prop :=
  client = .gst → outputs.Pairwise fun o o' => o.get? "request" ≠ o'.get? "request"

/-- The last frame of 32 bits, which is no frame, is not requested. -/
def FramesProper (client : Client) (selectors : List ℤ) : Prop :=
  client = .gst → 0xffffffff ∉ selectors

/-! ### Outputs -/

section Outputs

variable {client : Client} {copy : Bool} {output : Json} {n : ℤ} {shared : Shared}

lemma hasKeys_iff_of_mem {keys keys' : List String} (h : ∀ key, key ∈ keys ↔ key ∈ keys') :
    hasKeys keys output = hasKeys keys' output := by
  cases output with
  | obj members =>
      rw [Bool.eq_iff_iff]
      simp only [hasKeys, Bool.and_eq_true, List.all_eq_true, List.contains_iff_mem, h]
  | _ => rfl

lemma hasKeys_collector :
    hasKeys (collector client).outputKeys output = hasKeys (reportKeys client) output := by
  refine hasKeys_iff_of_mem fun key => ?_
  cases client <;>
    simp only [collector, Va.collector, Gst.collector, reportKeys, reportCommonKeys, List.mem_append,
      List.mem_cons, List.not_mem_nil, or_false] <;> tauto

lemma copyOk_iff : (∃ copied sha256, output.get? "copied" = some copied ∧
    output.get? "sha256" = some sha256 ∧ CopyOk copied sha256) ∧ output.get? "copied" = some (.bool copy) ↔
      output.get? "copied" = some (.bool copy) ∧ DigestOk output copy := by
  constructor
  · rintro ⟨⟨copied, sha256, hcopied, hsha256, hok⟩, hcopy⟩
    refine ⟨hcopy, ?_⟩
    obtain rfl := Option.some.inj (hcopied.symm.trans hcopy)
    rcases hok with ⟨htrue, s, rfl, hs⟩ | ⟨hfalse, rfl⟩
    · cases htrue
      exact ⟨s, hsha256, hs⟩
    · cases hfalse
      exact hsha256
  · rintro ⟨hcopy, hdigest⟩
    cases copy with
    | true =>
        obtain ⟨s, hsha256, hs⟩ := hdigest
        exact ⟨⟨_, _, hcopy, hsha256, .inl ⟨rfl, s, rfl, hs⟩⟩, hcopy⟩
    | false => exact ⟨⟨_, _, hcopy, hdigest, .inr ⟨rfl, rfl⟩⟩, hcopy⟩

/-- What both have of an output. -/
structure Common (client : Client) (copy : Bool) (output : Json) (n : ℤ) (shared : Shared) : Prop where
  ok : OutputOk (collector client) output shared
  coordinate : output.get? (coordinate client).1 = some (.int n)
  copied : output.get? "copied" = some (.bool copy)

lemma ReportOutput.common (h : ReportOutput client copy output n shared) :
    Common client copy output n shared := by
  obtain ⟨allocation, hallocation⟩ := h.allocation
  obtain ⟨writer, hwriter⟩ := h.writer
  obtain ⟨submitted, completed, hsubmitted, hcompleted, hfrontier⟩ := h.frontier
  obtain ⟨m, hcapture⟩ := h.capture
  have hown := h.own
  have hcoordinate := h.coordinate
  refine ⟨⟨?_, ?_, h.run, ⟨h.run0.1, h.run1.1⟩, .inl h.run0.2, ?_, ⟨completed, submitted,
    ⟨hcompleted.1, hcompleted.2.1⟩, ⟨hsubmitted.1, hsubmitted.2.1⟩, hfrontier.ge⟩,
    ⟨h.context.1, h.context.2.1⟩, ⟨h.session.1, h.session.2.1⟩,
    (copyOk_iff.mpr ⟨h.copied, h.digest⟩).1⟩, h.coordinate.1, h.copied⟩
  · rw [hasKeys_collector]
    exact h.keys
  · intro p hp
    cases client <;> simp only [collector, Va.collector, Gst.collector, List.mem_cons, List.not_mem_nil,
      or_false] at hp
    · rcases hp with rfl | rfl | rfl
      · exact ⟨n, hcoordinate⟩
      · exact hown
      · exact ⟨m, hcapture⟩
    · rcases hp with rfl | rfl
      · exact ⟨n, hcoordinate⟩
      · exact ⟨m, hcapture⟩
  · intro name hname
    cases client <;> simp only [collector, Va.collector, Gst.collector, List.mem_cons, List.not_mem_nil,
      or_false] at hname
    · rcases hname with rfl | rfl | rfl | rfl | rfl | rfl
      exacts [⟨_, h.context⟩, ⟨_, h.session⟩, ⟨_, hallocation⟩, ⟨_, hwriter⟩, ⟨_, hsubmitted⟩,
        ⟨_, hcompleted⟩]
    · rcases hname with rfl | rfl | rfl | rfl | rfl | rfl | rfl
      exacts [hown, ⟨_, h.context⟩, ⟨_, h.session⟩, ⟨_, hallocation⟩, ⟨_, hwriter⟩, ⟨_, hsubmitted⟩,
        ⟨_, hcompleted⟩]

lemma ReportOutput.bothHalves (h : ReportOutput client copy output n shared) : BothHalves output := by
  intro r₀ r₁ hrun
  cases h.run.symm.trans hrun
  rw [String.toList_ofList, String.toList_ofList]
  exact ⟨h.run0.2, h.run1.2⟩

lemma NonzeroHex.of_get {name : String} {s : List Char}
    (hget : output.get? name = some (.str (String.ofList s))) (h : ∃ s, NonzeroHex output name s) :
    NonzeroHex output name s := by
  obtain ⟨s', hs'⟩ := h
  have heq := hget.symm.trans hs'.1
  rw [Option.some.injEq, Json.str.injEq] at heq
  obtain rfl : s = s' := String.ofList_injective heq
  exact hs'

lemma reportOutput_of_common (h : Common client copy output n shared) (hdrained : Drained output)
    (hhalves : BothHalves output) : ReportOutput client copy output n shared := by
  have hok := h.ok
  have hhex : ∀ name ∈ (collector client).hexFields, ∃ s, NonzeroHex output name s := hok.hexFields
  have huint : ∀ p ∈ (collector client).uints, ∃ m : ℤ, output.get? p.1 = some (.int m) ∧ 0 ≤ m ∧
      m < (1 <<< p.2 : ℕ) := hok.uints
  have hnames : ∀ name ∈ ["context_generation", "session", "allocation_generation", "writer", "submitted",
      "completed"], name ∈ (collector client).hexFields := by
    cases client <;> decide
  obtain ⟨hrun0, hrun1⟩ := hhalves _ _ hok.run
  rw [String.toList_ofList] at hrun0 hrun1
  obtain ⟨submitted, hsubmitted⟩ := hhex "submitted" (hnames _ (by decide))
  refine ⟨?_, ⟨h.coordinate, ?_⟩, hok.run, ⟨hok.runHex.1, hrun0⟩, ⟨hok.runHex.2, hrun1⟩,
    .of_get hok.context.1 (hhex _ (hnames _ (by decide))),
    .of_get hok.session.1 (hhex _ (hnames _ (by decide))), hhex _ (hnames _ (by decide)),
    hhex _ (hnames _ (by decide)), ⟨submitted, submitted, hsubmitted,
      ⟨hdrained.trans hsubmitted.1, hsubmitted.2⟩, rfl⟩, ?_, h.copied,
    (copyOk_iff.mp ⟨hok.copy, h.copied⟩).2, ?_⟩
  · rw [← hasKeys_collector]
    exact hok.keys
  · obtain ⟨m, hget, hm⟩ := huint (coordinate client) (by cases client <;> decide)
    cases h.coordinate.symm.trans hget
    exact hm
  · exact huint ("capture_index", 32) (by cases client <;> decide)
  · cases client with
    | va => exact huint ("surface", 32) (by decide)
    | gst => exact hhex "request" (by decide)

end Outputs

/-! ### Reports -/

section Reports

variable {client : Client} {copy : Bool} {data : List UInt8} {report : Json} {outputs : List Json}
  {observed selectors : List ℤ} {shared : Shared}

/-- What a collector wants of the coordinates and of the requests. -/
def CollectorSelection (selectors observed : List ℤ) (outputs : List Json) : Client → Prop
  | .va => observed = selectors
  | .gst => observed.Nodup ∧ SelectionOk selectors observed .gst ∧ observed.length = selectors.length ∧
      ∃ requests, List.Forall₂ (fun output s => output.get? "request" = some (.str s)) outputs requests ∧
        requests.Nodup

/-- The bound of a request. -/
def selectorBound : Client → ℤ
  | .va => 0x10000000000000000
  | .gst => 0xffffffff

/-- What the collector of a client accepts. -/
lemma parseReport_ok :
    parseReport client data (some selectors) (some copy) = .ok report ↔
      Requested (selectorBound client) selectors ∧ record data = .ok report ∧
      ∃ outputs observed, DocumentOk (collector client) report outputs ∧
        List.Forall₂ (fun output n => output.get? (coordinate client).1 = some (.int n)) outputs observed ∧
        CollectorSelection selectors observed outputs client ∧
        ∀ output ∈ outputs, output.get? "copied" = some (.bool copy) := by
  cases client with
  | va =>
      rw [parseReport, Va.parseReport_ok]
      constructor
      · rintro ⟨hrequested, hrecord, outputs, hdocument, hordinals, hcopied⟩
        exact ⟨hrequested, hrecord, outputs, selectors, hdocument, hordinals, rfl, hcopied⟩
      · rintro ⟨hrequested, hrecord, outputs, _, hdocument, hordinals, rfl, hcopied⟩
        exact ⟨hrequested, hrecord, outputs, hdocument, hordinals, hcopied⟩
  | gst =>
      rw [parseReport, Gst.parseReport_ok]
      constructor
      · rintro ⟨hrequested, hrecord, outputs, frames, requests, hdocument, hframes, hrequests, hnodup,
          hnodup', ⟨hselection, hlength⟩, hcopied⟩
        exact ⟨hrequested, hrecord, outputs, frames, hdocument, hframes,
          ⟨hnodup, hselection, hlength, requests, hrequests, hnodup'⟩, hcopied⟩
      · rintro ⟨hrequested, hrecord, outputs, frames, hdocument, hframes,
          ⟨hnodup, hselection, hlength, requests, hrequests, hnodup'⟩, hcopied⟩
        exact ⟨hrequested, hrecord, outputs, frames, requests, hdocument, hframes, hrequests, hnodup,
          hnodup', ⟨hselection, hlength⟩, hcopied⟩

lemma schema_collector : (collector client).schema = schema client := by cases client <;> rfl

/-- **From the collector to the join**: both halves of the run have to be nonzero. -/
lemma join_of_collector (h : parseReport client data (some selectors) (some copy) = .ok report)
    (hdrained : EachOutput Drained report) :
    (∃ outputs, validateReport report client selectors copy = .ok outputs) ↔
      EachOutput BothHalves report := by
  obtain ⟨hrequested, -, outputs, observed, hdocument, hcoordinate, hselection, hcopied⟩ :=
    parseReport_ok.mp h
  constructor
  · rintro ⟨outputs, hvalid⟩ found hfound output houtput
    obtain ⟨observed, shared, hreport⟩ := validateReport_ok.mp hvalid
    cases hreport.array.symm.trans hfound
    obtain ⟨k, hk, rfl⟩ := List.getElem_of_mem houtput
    exact (hreport.outputs.get hk (hreport.outputs.length_eq ▸ hk)).bothHalves
  · intro hhalves
    obtain ⟨shared, hoks⟩ := hdocument.shared
    have hdrained' := hdrained outputs hdocument.array
    have hhalves' := hhalves outputs hdocument.array
    have hlength : observed.length = selectors.length := by
      cases client with
      | va => rw [show observed = selectors from hselection]
      | gst => exact hselection.2.2.1
    refine ⟨outputs, validateReport_ok.mpr ⟨observed, shared, hdocument.keys, ?_, hdocument.array,
      ⟨_, hdocument.count, decide_eq_true rfl⟩, hcoordinate.length_eq.trans hlength,
      ⟨hrequested.1, hrequested.2.1, hrequested.2.2.2⟩, ?_, ?_⟩⟩
    · rw [← schema_collector]
      exact hdocument.schema
    · refine List.forall₂_iff_get.mpr ⟨hcoordinate.length_eq, fun k hk hk' => ?_⟩
      have hmem := List.get_mem outputs ⟨k, hk⟩
      exact reportOutput_of_common ⟨hoks _ hmem, hcoordinate.get hk hk', hcopied _ hmem⟩
        (hdrained' _ hmem) (hhalves' _ hmem)
    · cases client with
      | va => exact hselection
      | gst => exact hselection.2.1

lemma exists_requests (h : ∀ output ∈ outputs, ∃ s, NonzeroHex output "request" s) :
    ∃ requests, List.Forall₂ (fun output s => output.get? "request" = some (.str s)) outputs requests := by
  induction outputs with
  | nil => exact ⟨[], .nil⟩
  | cons output outputs ih =>
      obtain ⟨⟨s, hs⟩, hrest⟩ := List.forall_mem_cons.mp h
      obtain ⟨requests, hrequests⟩ := ih hrest
      exact ⟨_, .cons hs.1 hrequests⟩

lemma nodup_requests {requests : List String}
    (h : List.Forall₂ (fun output s => output.get? "request" = some (.str s)) outputs requests)
    (hapart : outputs.Pairwise fun o o' => o.get? "request" ≠ o'.get? "request") : requests.Nodup := by
  rw [List.Nodup, List.pairwise_iff_getElem]
  intro i j hi hj hij heq
  have hlength := h.length_eq
  have hi' : i < outputs.length := hlength ▸ hi
  have hj' : j < outputs.length := hlength ▸ hj
  refine List.pairwise_iff_getElem.mp hapart i j hi' hj' hij ?_
  have hgeti : outputs[i].get? "request" = some (.str requests[i]) := h.get hi' hi
  have hgetj : outputs[j].get? "request" = some (.str requests[j]) := h.get hj' hj
  rw [hgeti, hgetj, heq]

/-- The coordinates of a valid report are the selectors, in some order. -/
lemma ValidReport.perm (h : ValidReport client selectors copy report outputs observed shared) :
    selectors.Perm observed := by
  cases client with
  | va => rw [show observed = selectors from h.selection]
  | gst =>
      refine (List.subperm_of_subset h.requested.2.2 h.selection.2).perm_of_length_le ?_
      rw [← h.outputs.length_eq, h.length]

/-- The selectors of a valid report are in range, but for the last frame. -/
lemma ValidReport.range (h : ValidReport client selectors copy report outputs observed shared)
    (hproper : FramesProper client selectors) : ∀ n ∈ selectors, 0 ≤ n ∧ n < selectorBound client := by
  intro n hn
  obtain ⟨k, hk, rfl⟩ := List.getElem_of_mem (h.perm.mem_iff.mp hn)
  obtain ⟨-, hlow, hhigh⟩ := (h.outputs.get (h.outputs.length_eq ▸ hk) hk).coordinate
  refine ⟨hlow, ?_⟩
  cases client with
  | va => exact hhigh
  | gst =>
      have hne : observed[k] ≠ 0xffffffff := fun heq => hproper rfl (heq ▸ hn)
      change observed[k] < 0x100000000 at hhigh
      change observed[k] < 0xffffffff
      omega

/-- **From the join to the collector**: the count has to be an integer, and every frame a proper one. -/
lemma collector_of_join (hrecord : record data = .ok report)
    (h : validateReport report client selectors copy = .ok outputs) (hapart : RequestsApart client outputs) :
    parseReport client data (some selectors) (some copy) = .ok report ↔
      CountIsInt report ∧ FramesProper client selectors := by
  obtain ⟨observed, shared, hvalid⟩ := validateReport_ok.mp h
  have hmem : ∀ output ∈ outputs, ∃ n, ReportOutput client copy output n shared := by
    intro output houtput
    obtain ⟨k, hk, rfl⟩ := List.getElem_of_mem houtput
    exact ⟨_, hvalid.outputs.get hk (hvalid.outputs.length_eq ▸ hk)⟩
  constructor
  · intro hparse
    obtain ⟨hrequested, -, found, -, hdocument, -⟩ := parseReport_ok.mp hparse
    refine ⟨⟨_, hdocument.count⟩, ?_⟩
    rintro rfl hlast
    exact absurd (hrequested.2.2.1 _ hlast).2 (by decide)
  · rintro ⟨⟨count, hcount⟩, hproper⟩
    have hlength : outputs.length = selectors.length := hvalid.length
    have hcount' : report.get? "count" = some (.int outputs.length) := by
      obtain ⟨_, hget, heq⟩ := hvalid.count
      cases hcount.symm.trans hget
      rw [hcount, of_decide_eq_true heq]
    refine parseReport_ok.mpr ⟨⟨hvalid.requested.1, hvalid.requested.2.1, hvalid.range hproper,
      hvalid.requested.2.2⟩, hrecord, outputs, observed, ⟨hvalid.keys, ?_, hvalid.array, hcount', ?_,
        shared, ?_⟩, ?_, ?_, ?_⟩
    · rw [schema_collector]
      exact hvalid.schema
    · rw [hlength]
      exact ⟨hvalid.requested.1, hvalid.requested.2.1⟩
    · intro output houtput
      obtain ⟨n, houtput⟩ := hmem output houtput
      exact houtput.common.ok
    · exact hvalid.outputs.imp fun output n houtput => houtput.coordinate.1
    · cases client with
      | va => exact hvalid.selection
      | gst =>
          have hown : ∀ output ∈ outputs, ∃ s, NonzeroHex output "request" s := fun output houtput =>
            (hmem output houtput).elim fun n houtput => houtput.own
          obtain ⟨requests, hrequests⟩ := exists_requests hown
          exact ⟨hvalid.perm.nodup_iff.mp hvalid.requested.2.2, hvalid.selection,
            hvalid.perm.length_eq.symm, requests, hrequests, nodup_requests hrequests (hapart rfl)⟩
    · intro output houtput
      obtain ⟨n, houtput⟩ := hmem output houtput
      exact houtput.copied

end Reports

/-- **The collectors and the join accept the same reports**, but for three differences.  For each
client, selection and mode: a drained report that the collector accepts is accepted by the join exactly
where no half of a run is zero; and what the join accepts with distinct requests is accepted by the
collector, as a record of that document, exactly where the count is an integer and, for Gst, the last
frame number is not requested. -/
theorem collector_join_agree (client : Client) (data : List UInt8) (report : Json) (selectors : List ℤ)
    (copy : Bool) :
    (parseReport client data (some selectors) (some copy) = .ok report → EachOutput Drained report →
      ((∃ outputs, validateReport report client selectors copy = .ok outputs) ↔
        EachOutput BothHalves report)) ∧
    ∀ outputs, record data = .ok report → validateReport report client selectors copy = .ok outputs →
      RequestsApart client outputs →
      (parseReport client data (some selectors) (some copy) = .ok report ↔
        CountIsInt report ∧ FramesProper client selectors) :=
  ⟨join_of_collector, fun _ => collector_of_join⟩

/-- The result of a first output, of this run. -/
def firstSlot (run0 run1 : UInt64) : Va.ResultSlot :=
  ⟨0, 7, run0, run1, 3, 1, 5, 1, 4, 4, 0, false, Vector.replicate 32 0⟩

/-- The report of a first output. -/
def firstReport (run0 run1 : UInt64) : List UInt8 :=
  utf8 (reportText Va.collector.schema ([firstSlot run0 run1].map Va.ResultSlot.entry))

/-- Its document. -/
def firstDocument (run0 run1 : UInt64) : Json :=
  reportDocument Va.collector.schema ([firstSlot run0 run1].map Va.ResultSlot.entry)

lemma firstReport_accepted {run0 run1 : UInt64} (h : run0 ≠ 0 ∨ run1 ≠ 0) :
    parseReport .va (firstReport run0 run1) (some [0]) (some false) = .ok (firstDocument run0 run1) := by
  have hne : [firstSlot run0 run1] ≠ [] := List.cons_ne_nil _ _
  have hlength : [firstSlot run0 run1].length ≤ 8 := Nat.succ_le_succ (Nat.zero_le 7)
  have hsound : ∀ slot ∈ [firstSlot run0 run1],
      slot.fields.Sound ∧ slot.fields.shared = (firstSlot run0 run1).fields.shared := by
    intro slot hslot
    obtain rfl := List.mem_singleton.mp hslot
    exact ⟨⟨h, (by decide : (3 : UInt64) ≠ 0), (by decide : (1 : UInt64) ≠ 0),
      (by decide : (5 : UInt64) ≠ 0), (by decide : (1 : UInt64) ≠ 0), (by decide : (4 : UInt64) ≠ 0),
      (by decide : (4 : UInt64) ≠ 0), UInt64.le_refl _⟩, rfl⟩
  refine Va.parseReport_ok.mpr ⟨⟨by decide, by decide, by decide, List.nodup_singleton _⟩,
    Va.record_report hne hlength, _, Va.documentOk_report hne hlength hsound, ?_, ?_⟩
  · exact .cons Va.ResultSlot.get_head.1 .nil
  · intro output houtput
    obtain rfl := List.mem_singleton.mp houtput
    rfl

lemma firstDocument_outputs {P : Json → Prop} {run0 run1 : UInt64} (h : P (firstSlot run0 run1).object) :
    EachOutput P (firstDocument run0 run1) := by
  intro outputs houtputs output houtput
  cases houtputs
  obtain rfl := List.mem_singleton.mp houtput
  exact h

/-- A report of a run without a zero half, which both accept. -/
theorem join_accepts_first_report :
    parseReport .va (firstReport 1 2) (some [0]) (some false) = .ok (firstDocument 1 2) ∧
      ∃ outputs, validateReport (firstDocument 1 2) .va [0] false = .ok outputs := by
  have hparse : parseReport .va (firstReport 1 2) (some [0]) (some false) = .ok (firstDocument 1 2) :=
    firstReport_accepted (.inl (by decide))
  refine ⟨hparse, ((collector_join_agree .va _ _ _ _).1 hparse (firstDocument_outputs rfl)).mpr ?_⟩
  refine firstDocument_outputs ?_
  rintro r₀ r₁ hrun
  cases hrun
  rw [String.toList_ofList, String.toList_ofList]
  exact ⟨hexValue_hex64_ne_zero (by decide), hexValue_hex64_ne_zero (by decide)⟩

/-- A report of a run with a zero half, which the collector accepts and the join refuses. -/
theorem join_refuses_zero_half :
    parseReport .va (firstReport 0 1) (some [0]) (some false) = .ok (firstDocument 0 1) ∧
      EachOutput Drained (firstDocument 0 1) ∧
      ∀ outputs, validateReport (firstDocument 0 1) .va [0] false ≠ .ok outputs := by
  refine ⟨firstReport_accepted (.inr (by decide)), firstDocument_outputs rfl, fun outputs hvalid => ?_⟩
  obtain ⟨observed, shared, hreport⟩ := validateReport_ok.mp hvalid
  cases hreport.array
  have hhalves := (hreport.outputs.get Nat.zero_lt_one
    (hreport.outputs.length_eq ▸ Nat.zero_lt_one)).bothHalves
  refine (hhalves _ _ rfl).1 ?_
  rw [String.toList_ofList]
  exact hexValue_hex64 0

end OmarchyM1Video.SameRun
