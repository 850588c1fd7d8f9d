import OmarchyM1Video.BootEvidence.Collect

/-!
A record without a gap.

* `IsEntry`: a line that is an object with a time stamp and a text;
* `Summarizes`: a category's summary of the events at given stamps; `Summarizes.add`, one event
  more, which needs that **the texts of the times are in the order of the stamps**;
* `record_cases`, `tally_whole`: a line either is an entry and is counted, or is a gap, and a gap
  stays; the loop without a gap has read every line;
* `WholeJournal`, `Summarized`: what a boot without a gap says, and the row that it is of;
* `readBoots_whole`, `mapM_package`: the loops of `collect`;
* `complete_hides_nothing`: **a record whose status is `complete` has no gap anywhere**.
-/

namespace OmarchyM1Video.BootEvidence

open OmarchyM1Video.Py

section Spec

variable (utc : ℕ → Option DateTime) (categories : String → Category → Bool)

/-- A later stamp is not of an earlier time. -/
def MonotoneTime : Prop :=
  ∀ (a b : ℕ) (d d' : DateTime), a ≤ b → utc a = some d → utc b = some d' →
    lexLt d'.fields d.fields = false

/-- The text of a stamp's time. -/
def textAt (s : ℕ) : Option (List Char) := (utc s).map DateTime.isoformat

/-- A line that is an object with a time stamp and a text. -/
structure IsEntry (line : List Char) (e : ℕ × String) : Prop where
  read : ∃ members, loads hooks line = .ok (.obj members) ∧
    stamp (Json.member? members "__REALTIME_TIMESTAMP") = some e.1 ∧
    Json.member? members "MESSAGE" = some (.str e.2)
  valid : ∃ d, utc e.1 = some d

/-- The summary of the events at the stamps. -/
structure Summarizes (stamps : List ℕ) (event : EventSummary) : Prop where
  count : event.count = stamps.length
  first : (stamps = [] ∧ event.firstAt = none) ∨
    ∃ s ∈ stamps, (∀ t ∈ stamps, s ≤ t) ∧ (utc s).isSome = true ∧ event.firstAt = textAt utc s
  last : (stamps = [] ∧ event.lastAt = none) ∨
    ∃ s ∈ stamps, (∀ t ∈ stamps, t ≤ s) ∧ (utc s).isSome = true ∧ event.lastAt = textAt utc s

/-- The stamps of the entries of a category. -/
def stampsOf (c : Category) (entries : List (ℕ × String)) : List ℕ :=
  (entries.filter fun e => categories e.2 c).map Prod.fst

/-- The lines that are not blank. -/
def fullLines (text : List Char) : List (List Char) :=
  (splitlines text).filter fun line => !blank line

/-- A command that ended well and wrote no error. -/
def Clean (result : CommandResult) : Prop :=
  result.status = "complete" ∧ result.stderrPresent = false

/-- A journal without a gap, and its summary. -/
structure WholeJournal (entryLimit : ℕ) (journal : CommandResult) (boot : Boot) : Prop where
  clean : Clean journal
  some_line : 0 < (fullLines journal.stdout).length
  below_limit : (fullLines journal.stdout).length < entryLimit
  events : ∃ entries, List.Forall₂ (IsEntry utc) (fullLines journal.stdout) entries ∧
    ∀ c, Summarizes utc (stampsOf categories c entries) (boot.events c)

/-- A row in order, with the call for its journal and what the record says about the boot. -/
structure Summarized (entryLimit : ℕ) (row : Json)
    (run : (Command × CommandResult) × Boot) : Prop where
  inOrder : ∃ bootId, rowOf row = some (run.2.slot, bootId) ∧ run.1.1 = .dmesg bootId entryLimit
  first : run.2.retainedFirstAt = timestamp utc (row.get? "first_entry") ∧
    run.2.retainedFirstAt ≠ none
  last : run.2.retainedLastAt = timestamp utc (row.get? "last_entry") ∧
    run.2.retainedLastAt ≠ none
  journal : WholeJournal utc categories entryLimit run.1.2 run.2

/-- Nothing is missing from what a record is of. -/
structure Whole (env : Env) (bootLimit entryLimit : ℕ) (log : List (Command × CommandResult))
    (record : Record) : Prop where
  clean : ∀ entry ∈ log, Clean entry.2
  boots : ∃ before listed rows runs,
    log = before ++ (.listBoots bootLimit, listed) :: runs.map Prod.fst ∧
    before.map Prod.fst = packageNames.map .package ++ [.modulePath] ∧
    loads hooks listed.stdout = .ok (.arr rows) ∧ rows ≠ [] ∧ rows.length < bootLimit ∧
    record.boots = runs.map Prod.snd ∧
    List.Forall₂ (Summarized utc categories entryLimit) rows runs ∧
    (record.boots.map Boot.slot).Nodup
  live : ∃ n, env.scanLive = .entries n ∧ n < 256
  archive : ∃ n, env.scanArchive = .entries n ∧ n < 256

end Spec

section Gaps

variable {gaps : List String} {result : CommandResult}

lemma sortedSet_eq_nil : sortedSet gaps = [] ↔ gaps = [] := by
  rw [sortedSet, ← List.length_eq_zero_iff, List.length_mergeSort, List.length_eq_zero_iff]
  cases gaps with
  | nil => exact iff_of_true rfl rfl
  | cons gap gaps => simp [List.eraseDups_cons]

lemma clean_iff : commandGaps result = [] ↔ Clean result := by
  rw [commandGaps, List.append_eq_nil_iff, Clean]
  refine and_congr ?_ ?_
  · split_ifs with h
    · exact iff_of_true rfl h
    · exact iff_of_false (by simp) h
  · cases result.stderrPresent <;> simp

lemma append_ite_eq_nil {p : Prop} [Decidable p] {gap : String} :
    gaps ++ (if p then [gap] else []) = [] ↔ gaps = [] ∧ ¬p := by
  by_cases h : p <;> simp [h]

end Gaps

section Journal

variable {utc : ℕ → Option DateTime} {categories : String → Category → Bool} {stamps : List ℕ}
  {event : EventSummary} {s a b : ℕ} {d d' : DateTime} {entryLimit : ℕ} {t : Tally}
  {line : List Char} {lines : List (List Char)}

lemma MonotoneTime.text (mono : MonotoneTime utc) (h : a ≤ b) (ha : utc a = some d)
    (hb : utc b = some d') : textLt d'.isoformat d.isoformat = false :=
  not_isoformat_lt (mono a b d d' h ha hb)

lemma MonotoneTime.text_eq (mono : MonotoneTime utc) (h : a ≤ b) (ha : utc a = some d)
    (hb : utc b = some d') (hle : textLt d.isoformat d'.isoformat = false) :
    d.isoformat = d'.isoformat :=
  eq_of_not_textLt hle (mono.text h ha hb)

lemma textAt_of (h : utc s = some d) : textAt utc s = some d.isoformat := by
  rw [textAt, h, Option.map_some]

lemma summarizes_nil : Summarizes utc [] ⟨0, none, none⟩ := ⟨rfl, .inl ⟨rfl, rfl⟩, .inl ⟨rfl, rfl⟩⟩

/-- One event more. -/
lemma Summarizes.add (mono : MonotoneTime utc) (h : Summarizes utc stamps event)
    (hs : utc s = some d) : Summarizes utc (stamps ++ [s]) (event.add d.isoformat) := by
  have hmem : s ∈ stamps ++ [s] := List.mem_append_right _ (List.mem_singleton_self s)
  have hvalid : (utc s).isSome = true := by rw [hs, Option.isSome_some]
  have hall : ∀ {p : ℕ → Prop}, (∀ t ∈ stamps, p t) → p s → ∀ t ∈ stamps ++ [s], p t := by
    intro p hp hps t ht
    obtain ht | ht := List.mem_append.mp ht
    · exact hp t ht
    · exact List.mem_singleton.mp ht ▸ hps
  refine ⟨?_, .inr ?_, .inr ?_⟩
  · rw [EventSummary.add, List.length_append, List.length_singleton, h.count]
  · obtain ⟨hnil, hfirst⟩ | ⟨a, ha, hmin, hsome, hfirst⟩ := h.first
    · rw [EventSummary.add, hfirst, hnil]
      exact ⟨s, by simp, by simp, hvalid, (textAt_of hs).symm⟩
    · obtain ⟨da, hda⟩ := Option.isSome_iff_exists.mp hsome
      rw [textAt_of hda] at hfirst
      rw [EventSummary.add, hfirst]
      dsimp only
      split_ifs with hlt
      · -- the text is smaller, so the stamp is
        have hle : s ≤ a := by
          by_contra hgt
          exact absurd (hlt.symm.trans (mono.text (by omega) hda hs)) (by decide)
        exact ⟨s, hmem, hall (fun t ht => Nat.le_trans hle (hmin t ht)) (Nat.le_refl s), hvalid,
          (textAt_of hs).symm⟩
      · obtain hle | hle := Nat.le_total a s
        · exact ⟨a, List.mem_append_left _ ha, hall hmin hle, hsome, (textAt_of hda).symm⟩
        · have htext := mono.text_eq hle hs hda (Bool.eq_false_iff.mpr hlt)
          exact ⟨s, hmem, hall (fun t ht => Nat.le_trans hle (hmin t ht)) (Nat.le_refl s), hvalid,
            by rw [textAt_of hs, htext]⟩
  · obtain ⟨hnil, hlast⟩ | ⟨a, ha, hmax, hsome, hlast⟩ := h.last
    · rw [EventSummary.add, hlast, hnil]
      exact ⟨s, by simp, by simp, hvalid, (textAt_of hs).symm⟩
    · obtain ⟨da, hda⟩ := Option.isSome_iff_exists.mp hsome
      rw [textAt_of hda] at hlast
      rw [EventSummary.add, hlast]
      dsimp only
      split_ifs with hlt
      · have hle : a ≤ s := by
          by_contra hgt
          exact absurd (hlt.symm.trans (mono.text (by omega) hs hda)) (by decide)
        exact ⟨s, hmem, hall (fun t ht => Nat.le_trans (hmax t ht) hle) (Nat.le_refl s), hvalid,
          (textAt_of hs).symm⟩
      · obtain hle | hle := Nat.le_total s a
        · exact ⟨a, List.mem_append_left _ ha, hall hmax hle, hsome, (textAt_of hda).symm⟩
        · have htext := mono.text_eq hle hda hs (Bool.eq_false_iff.mpr hlt)
          exact ⟨s, hmem, hall (fun t ht => Nat.le_trans (hmax t ht) hle) (Nat.le_refl s), hvalid,
            by rw [textAt_of hs, ← htext]⟩

lemma timestamp_eq_some {value : Option Json} {time : List Char}
    (h : timestamp utc value = some time) :
    ∃ s d, stamp value = some s ∧ utc s = some d ∧ time = d.isoformat := by
  rw [timestamp, Option.bind_eq_bind, Option.bind_eq_some_iff] at h
  obtain ⟨s, hs, h⟩ := h
  rw [Option.bind_eq_bind, Option.bind_eq_some_iff] at h
  obtain ⟨d, hd, h⟩ := h
  exact ⟨s, d, hs, hd, (Option.some.inj h).symm⟩

/-- A line is an entry, which its categories count, or it is a gap. -/
lemma record_cases (line : List Char) (t : Tally) :
    (∃ e d, IsEntry utc line e ∧ utc e.1 = some d ∧ record utc categories line t = { t with
      events := fun c => if categories e.2 c then (t.events c).add d.isoformat else t.events c }) ∨
    ∃ gap, record utc categories line t = { t with gaps := t.gaps ++ [gap] } := by
  rw [record]
  split
  · exact .inr ⟨_, rfl⟩
  · rename_i members hmembers
    split
    · rename_i time message htime hmessage
      obtain ⟨s, d, hs, hd, rfl⟩ := timestamp_eq_some htime
      exact .inl ⟨(s, message), d, ⟨⟨members, hmembers, hs, hmessage⟩, d, hd⟩, hd, rfl⟩
    · exact .inr ⟨_, rfl⟩
  · exact .inr ⟨_, rfl⟩

lemma stampsOf_cons (c : Category) (e : ℕ × String) (entries : List (ℕ × String)) :
    stampsOf categories c (e :: entries) =
      (if categories e.2 c then [e.1] else []) ++ stampsOf categories c entries := by
  rw [stampsOf, stampsOf, List.filter_cons]
  split_ifs <;> rfl

/-- The loop that ends without a gap, and not at the limit, has read every line. -/
lemma tally_whole (mono : MonotoneTime utc)
    (hgaps : (tally utc categories entryLimit lines t).gaps = [])
    (hcount : (tally utc categories entryLimit lines t).count < entryLimit) :
    t.gaps = [] ∧ (tally utc categories entryLimit lines t).count =
      t.count + (lines.filter fun line => !blank line).length ∧
    ∃ entries, List.Forall₂ (IsEntry utc) (lines.filter fun line => !blank line) entries ∧
      ∀ c stamps, Summarizes utc stamps (t.events c) →
        Summarizes utc (stamps ++ stampsOf categories c entries)
          ((tally utc categories entryLimit lines t).events c) := by
  induction lines generalizing t with
  | nil =>
      refine ⟨hgaps, rfl, [], .nil, fun c stamps h => ?_⟩
      rw [stampsOf, List.filter_nil, List.map_nil, List.append_nil]
      exact h
  | cons line lines ih =>
      rw [tally] at hgaps hcount ⊢
      by_cases hblank : blank line = true
      · rw [if_pos hblank] at hgaps hcount ⊢
        rw [List.filter_cons_of_neg (by simp [hblank])]
        exact ih hgaps hcount
      · rw [if_neg hblank] at hgaps hcount ⊢
        rw [List.filter_cons_of_pos (by simp [hblank])]
        by_cases hlimit : entryLimit < t.count + 1
        · rw [if_pos hlimit] at hcount
          exact absurd hcount (Nat.not_lt.mpr (Nat.le_of_lt hlimit))
        · rw [if_neg hlimit] at hgaps hcount ⊢
          obtain ⟨hnil, hlen, entries, hentries, hevents⟩ := ih hgaps hcount
          obtain ⟨e, d, he, hd, heq⟩ | ⟨gap, heq⟩ :=
            @record_cases utc categories line { t with count := t.count + 1 }
          · rw [heq] at hnil hlen hevents ⊢
            refine ⟨hnil, ?_, e :: entries, .cons he hentries, fun c stamps h => ?_⟩
            · rw [hlen, List.length_cons, Nat.add_assoc, Nat.add_comm 1]
            · rw [stampsOf_cons, ← List.append_assoc]
              refine hevents c _ ?_
              dsimp only
              split_ifs
              · exact h.add mono hd
              · rw [List.append_nil]
                exact h
          · rw [heq] at hnil
            exact absurd hnil (by simp)

/-- A boot without a gap has the whole journal. -/
lemma summarize_whole (mono : MonotoneTime utc) {journal : CommandResult} {slot : ℤ}
    {first last : Option (List Char)}
    (h : (summarize utc categories journal entryLimit slot first last).gaps = []) :
    WholeJournal utc categories entryLimit journal
      (summarize utc categories journal entryLimit slot first last) := by
  rw [summarize] at h ⊢
  rw [sortedSet_eq_nil, tallyOf, append_ite_eq_nil, append_ite_eq_nil] at h
  obtain ⟨⟨hgaps, hzero⟩, hlimit⟩ := h
  obtain ⟨hclean, hcount, entries, hentries, hevents⟩ := tally_whole mono hgaps (by omega)
  have hlen : (tally utc categories entryLimit (splitlines journal.stdout)
      (emptyTally (commandGaps journal))).count = (fullLines journal.stdout).length := by
    rw [hcount, emptyTally, fullLines, Nat.zero_add]
  refine ⟨clean_iff.mp hclean, by omega, by omega, entries, hentries, fun c => ?_⟩
  exact hevents c [] summarizes_nil

end Journal

section Collect

variable {utc : ℕ → Option DateTime} {categories : String → Category → Bool} {env : Env}
  {log log' : List (Command × CommandResult)} {command : Command} {result : CommandResult}
  {entryLimit : ℕ} {α : Type}

lemma call_bind_ok {f : CommandResult → Collect α} {a : α} :
    (call env command >>= f) log = .ok a log' ↔
      ∃ result, env.run log command = .ok result ∧
        f result (log ++ [(command, result)]) = .ok a log' := by
  rw [call, bind_assoc, get_bind, bind_assoc, lift_bind_ok]
  rfl

/-- The packages of which all have a version. -/
lemma mapM_package {names : List (List Char)} {ps : List (List Char × Option (List Char))}
    (h : names.mapM (package env) log = .ok ps log') (hps : ∀ p ∈ ps, p.2 ≠ none) :
    ∃ calls, log' = log ++ calls ∧ calls.map Prod.fst = names.map Command.package ∧
      ∀ entry ∈ calls, Clean entry.2 := by
  induction names generalizing log ps with
  | nil =>
      rw [List.mapM_nil, pure_run] at h
      cases h
      exact ⟨[], (List.append_nil _).symm, rfl, fun _ h => (List.not_mem_nil h).elim⟩
  | cons name names ih =>
      rw [List.mapM_cons, package, bind_assoc, call_bind_ok] at h
      obtain ⟨result, -, h⟩ := h
      rw [pure_bind, bind_ok] at h
      obtain ⟨qs, log₁, hrest, h⟩ := h
      cases h
      obtain ⟨calls, rfl, hfst, hclean⟩ := ih hrest fun p hp => hps p (List.mem_cons_of_mem _ hp)
      refine ⟨(.package name, result) :: calls, by rw [List.append_assoc]; rfl, ?_, ?_⟩
      · rw [List.map_cons, List.map_cons, hfst]
      · intro entry hentry
        obtain rfl | hentry := List.mem_cons.mp hentry
        · refine clean_iff.mp ?_
          by_contra hgap
          exact hps _ (List.mem_cons_self ..) (if_neg hgap)
        · exact hclean entry hentry

lemma rowOf_index {row : Json} {index : ℤ} {bootId : List Char}
    (h : rowOf row = some (index, bootId)) : row.get? "index" = some (.int index) := by
  rw [rowOf] at h
  split at h
  · rename_i i text hindex _
    split_ifs at h
    rw [hindex]
    cases h
    rfl
  · cases h

/-- The rows without a gap: each has its call and its boot, of its own index. -/
lemma readBoots_whole (mono : MonotoneTime utc) {rows : List Json} {seen : List ℤ}
    {gaps : List String} {boots : List Boot}
    (h : readBoots utc categories env entryLimit rows seen log = .ok (gaps, boots) log')
    (hgaps : gaps = []) (hboots : ∀ boot ∈ boots, boot.gaps = []) :
    ∃ runs, log' = log ++ runs.map Prod.fst ∧ boots = runs.map Prod.snd ∧
      List.Forall₂ (Summarized utc categories entryLimit) rows runs ∧
      (boots.map Boot.slot).Nodup ∧ ∀ boot ∈ boots, boot.slot ∉ seen := by
  induction rows generalizing log seen gaps boots with
  | nil =>
      rw [readBoots, pure_run] at h
      cases h
      exact ⟨[], (List.append_nil _).symm, rfl, .nil, List.nodup_nil,
        fun _ h => (List.not_mem_nil h).elim⟩
  | cons row rows ih =>
      rw [readBoots] at h
      cases hrow : rowOf row with
      | none =>
          rw [hrow] at h
          dsimp only at h
          rw [bind_ok] at h
          obtain ⟨⟨g, b⟩, log₁, -, h⟩ := h
          cases h
          exact absurd hgaps (List.cons_ne_nil _ _)
      | some p =>
          obtain ⟨index, bootId⟩ := p
          rw [hrow] at h
          dsimp only at h
          by_cases hseen : index ∈ seen
          · rw [if_pos hseen, bind_ok] at h
            obtain ⟨⟨g, b⟩, log₁, -, h⟩ := h
            cases h
            exact absurd hgaps (List.cons_ne_nil _ _)
          · rw [if_neg hseen, call_bind_ok] at h
            obtain ⟨journal, -, h⟩ := h
            rw [bind_ok] at h
            obtain ⟨⟨g, b⟩, log₁, hrest, h⟩ := h
            cases h
            obtain ⟨htimes, hg⟩ := List.append_eq_nil_iff.mp hgaps
            obtain ⟨runs, rfl, rfl, hruns, hnodup, hnot⟩ :=
              ih hrest hg fun boot hboot => hboots boot (List.mem_cons_of_mem _ hboot)
            have hjournal := summarize_whole mono (hboots _ (List.mem_cons_self ..))
            have htime : ¬(timestamp utc (row.get? "first_entry") = none ∨
                timestamp utc (row.get? "last_entry") = none) := by
              intro hnone
              rw [if_pos hnone] at htimes
              cases htimes
            rw [not_or] at htime
            refine ⟨((.dmesg bootId entryLimit, journal), _) :: runs,
              by rw [List.append_assoc]; rfl, rfl, .cons ?_ hruns, ?_, ?_⟩
            · exact ⟨⟨bootId, hrow, rfl⟩, ⟨rfl, htime.1⟩, ⟨rfl, htime.2⟩, hjournal⟩
            · rw [List.map_cons, List.nodup_cons]
              refine ⟨fun hmem => ?_, hnodup⟩
              obtain ⟨boot, hboot, heq⟩ := List.mem_map.mp hmem
              exact hnot boot hboot (heq ▸ List.mem_cons_self ..)
            · intro boot hboot
              obtain rfl | hboot := List.mem_cons.mp hboot
              · exact hseen
              · exact fun hmem => hnot boot hboot (List.mem_cons_of_mem _ hmem)

lemma pstoreState_read {scan : ScanResult} {state : String × Option ℤ}
    (h : pstoreState scan = .ok state) (hstate : state.1 = "empty" ∨ state.1 = "present") :
    ∃ n, scan = .entries n ∧ n < 256 := by
  cases scan with
  | entries n =>
      refine ⟨n, rfl, ?_⟩
      cases h
      by_contra hge
      rw [if_pos (by omega)] at hstate
      exact absurd hstate (by simp)
  | fileNotFound => cases h; exact absurd hstate (by decide)
  | permission => cases h; exact absurd hstate (by decide)
  | osError => cases h; exact absurd hstate (by decide)
  | raised text => cases h

lemma bootRows_read {listed : CommandResult} (h : (bootRows listed).2 = []) :
    loads hooks listed.stdout = .ok (.arr (bootRows listed).1) := by
  rw [bootRows] at h ⊢
  split at h
  · assumption
  · cases h

lemma clean_of_selectedHash {selected : CommandResult} (h : selectedHash env selected ≠ none) :
    Clean selected := by
  refine clean_iff.mp ?_
  by_contra hgap
  exact h (if_neg fun hp => hgap hp.1)

lemma ite_singleton_eq_nil {p : Prop} [Decidable p] {gap : String} :
    (if p then [gap] else []) = [] ↔ ¬p := by
  by_cases h : p <;> simp [h]

lemma ite_nil_eq_nil {p : Prop} [Decidable p] {gap : String} :
    (if p then [] else [gap]) = [] ↔ p := by
  by_cases h : p <;> simp [h]

lemma clean_of_runs {rows : List Json} {runs : List ((Command × CommandResult) × Boot)}
    {entry : Command × CommandResult}
    (h : List.Forall₂ (Summarized utc categories entryLimit) rows runs)
    (hentry : entry ∈ runs.map Prod.fst) : Clean entry.2 := by
  induction h with
  | nil => cases hentry
  | cons hrun _ ih =>
      obtain rfl | hentry := List.mem_cons.mp hentry
      · exact hrun.journal.clean
      · exact ih hentry

variable {deviceId : List Char} {bootLimit limit : ℤ} {final : Record}

/-- **A record that is complete has no gap anywhere.** -/
theorem complete_hides_nothing (mono : MonotoneTime utc)
    (h : collect utc categories env deviceId bootLimit limit [] = .ok final log)
    (hcomplete : final.status = "complete") :
    Whole utc categories env bootLimit.toNat limit.toNat log final := by
  rw [collect, raiseIf_bind_ok, raiseIf_bind_ok, bind_ok] at h
  obtain ⟨-, hlimits, packages, log₁, hpackages, h⟩ := h
  rw [call_bind_ok] at h
  obtain ⟨selected, -, h⟩ := h
  dsimp only at h
  rw [call_bind_ok] at h
  obtain ⟨listed, -, h⟩ := h
  rw [bind_ok] at h
  obtain ⟨⟨rowGaps, boots⟩, log₂, hboots, h⟩ := h
  rw [lift_bind_ok] at h
  obtain ⟨live, hlive, h⟩ := h
  rw [lift_bind_ok] at h
  obtain ⟨archive, harchive, h⟩ := h
  cases h
  have hgaps := of_not_not fun hgap => absurd (hcomplete.symm.trans (if_neg hgap)) (by decide)
  simp only [List.append_eq_nil_iff, ite_singleton_eq_nil, ite_nil_eq_nil, not_le,
    List.flatMap_eq_nil_iff,
    List.any_eq_true, not_exists, not_and] at hgaps
  obtain ⟨⟨⟨⟨⟨hversions, hhash⟩, -⟩, ⟨⟨⟨hlisted, hrows⟩, hsome⟩, hwindow⟩, hrowGaps⟩, hjournals⟩,
    hpstore⟩ := hgaps
  clear hcomplete
  obtain ⟨calls, rfl, hcalls, hpackagesClean⟩ := mapM_package hpackages hversions
  rw [Nat.sub_eq_zero_of_le (Nat.le_of_lt hwindow), List.drop_zero] at hboots
  obtain ⟨runs, rfl, rfl, hruns, hnodup, -⟩ := readBoots_whole mono hboots hrowGaps fun boot h => by
    simpa using hjournals boot h
  have hread : ∀ state ∈ [live, archive], state.1 = "empty" ∨ state.1 = "present" := by
    intro state hstate
    have hnot := hpstore state hstate
    rw [decide_eq_true_eq, not_and_or, not_not, not_not] at hnot
    exact hnot
  refine ⟨?_, ⟨log₁ ++ [(.modulePath, selected)], listed, (bootRows listed).1, runs, ?_, ?_,
    bootRows_read hrows, hsome, hwindow, rfl, hruns, hnodup⟩, ?_, ?_⟩
  · intro entry hentry
    simp only [List.append_assoc, List.mem_append, List.mem_singleton] at hentry
    obtain hentry | rfl | rfl | hentry := hentry
    · exact hpackagesClean entry hentry
    · exact clean_of_selectedHash hhash
    · exact clean_iff.mp hlisted
    · exact clean_of_runs hruns hentry
  · rw [List.append_assoc, List.append_assoc, List.append_assoc]
    rfl
  · rw [List.map_append, hcalls]
    rfl
  · exact pstoreState_read hlive (hread live (by simp))
  · exact pstoreState_read harchive (hread archive (by simp))

end Collect

section Example

/-- The times of the first minute. -/
def firstMinute (s : ℕ) : Option DateTime :=
  if h : s < 60000000 then
    some ⟨1970, 1, 1, 0, 0, s / 1000000, s % 1000000, by decide, by decide, by decide, by decide,
      by decide, by omega, by omega⟩
  else none

lemma monotone_firstMinute : MonotoneTime firstMinute := by
  intro a b d d' hle ha hb
  rw [firstMinute] at ha hb
  split_ifs at ha hb
  cases ha
  cases hb
  simp only [DateTime.fields, lexLt, Nat.lt_irrefl, if_false, if_true]
  split_ifs
  · omega
  · omega
  · rfl
  · rfl
  · rfl

/-- A system with one boot, and a journal of two lines: one with a fraction of a second, one without. -/
def oneBoot : Env where
  run _ command := .ok <| match command with
    | .package name => ⟨name ++ " 1".toList, "complete", false⟩
    | .modulePath => ⟨"/lib/modules/avd.ko".toList, "complete", false⟩
    | .listBoots _ => ⟨"[\x7b\"index\":0,\"boot_id\":\"".toList ++ List.replicate 32 'a' ++
        "\",\"first_entry\":0,\"last_entry\":2000000\x7d]".toList, "complete", false⟩
    | .dmesg _ _ => ⟨"\x7b\"__REALTIME_TIMESTAMP\":\"1500000\",\"MESSAGE\":\"avd\"\x7d\n".toList ++
        "\x7b\"__REALTIME_TIMESTAMP\":\"2000000\",\"MESSAGE\":\"avd\"\x7d\n".toList,
        "complete", false⟩
  scanLive := .entries 0
  scanArchive := .entries 3
  fileHash _ := some "00"
  moduleEntry := .directory
  release := "6"
  now := []

theorem complete_oneBoot : ∃ final log,
    collect firstMinute (fun message _ => message = "avd") oneBoot ['a'] 2 3 [] = .ok final log ∧
      Whole firstMinute (fun message _ => message = "avd") oneBoot 2 3 log final := by
  have hcomplete : (match collect firstMinute (fun message _ =>
      message = "avd") oneBoot ['a'] 2 3 []
      with
    | .ok final _ => final.status == "complete"
    | .error _ _ => false) = true := by decide +kernel
  split at hcomplete
  · rename_i final log h
    exact ⟨final, log, h, complete_hides_nothing monotone_firstMinute h (eq_of_beq hcomplete)⟩
  · cases hcomplete

end Example

end OmarchyM1Video.BootEvidence
