import OmarchyM1Video.Py.Lines
import OmarchyM1Video.SameRun.PictureOrder

/-!
The order of the lines of the queue log: what `join_gst` makes of a log with its lines in another
order and with other lines between them.

* `lineRows`, `collectQueue_iff`: the rows of a log, line by line;
* `Distinct`, `checkQueue_iff`: the checks of the rows, without their order;
* `bridgeQueue_iff`: the bridge under each frame;
* `parseGstQueue_perm`, `bridgeQueue_perm`: the two of a reordered log;
* `joinGst_order`: the same result.
-/

namespace OmarchyM1Video.SameRun

open OmarchyM1Video.Py

section LogOrder

variable {lines lines' : List (List Char)} {rows rows' queue queue' : List GstRow}
  {seen : QueueSeen} {e : KernelEvidence} {associations : List Association} {bridged bridged' : List Bridged}
  {byFrame byFrame' : Dict ℕ Bridged} {expected : ℕ}

/-! ### Rows -/

/-- What a line gives to the rows; `none` is a line that is refused. -/
def lineRows (line : List Char) : Option (List GstRow) :=
  if occurrences queueMarker line = [] then some []
  else
    match queueLine line with
    | .ok row => row.map fun r => [r]
    | .error _ => none

/-- The rows of a log that has no malformed line. -/
lemma collectQueue_iff : collectQueue lines = .ok (rows, 0) ↔
    (∀ line ∈ lines, (lineRows line).isSome = true) ∧
      rows = lines.flatMap fun line => (lineRows line).getD [] := by
  induction lines generalizing rows with
  | nil =>
      rw [collectQueue]
      simp only [Except.ok.injEq, Prod.mk.injEq, and_true, List.not_mem_nil, List.flatMap_nil]
      exact ⟨fun h => ⟨fun _ h => h.elim, h.symm⟩, fun h => h.2.symm⟩
  | cons line lines ih =>
      rw [collectQueue, List.forall_mem_cons, List.flatMap_cons]
      by_cases hline : occurrences queueMarker line = []
      · rw [if_pos hline, ih, lineRows, if_pos hline]
        simp
      · rw [if_neg hline, lineRows, if_neg hline]
        cases hrow : queueLine line with
        | error err => simp [Except.bind_ok]
        | ok row =>
            simp only [Except.bind_ok, Except.pure_ok, Except.ok.injEq, exists_eq_left',
              Prod.exists, Prod.mk.injEq]
            cases row with
            | none => simp
            | some row =>
                simp only [Option.isNone_some, Bool.false_eq_true, if_false, Nat.add_zero,
                  Option.map_some, Option.isSome_some, true_and, Option.getD_some]
                constructor
                · rintro ⟨rest, malformed, hrest, rfl, rfl⟩
                  obtain ⟨hall, rfl⟩ := ih.mp hrest
                  exact ⟨hall, rfl⟩
                · rintro ⟨hall, rfl⟩
                  exact ⟨_, 0, ih.mpr ⟨hall, rfl⟩, rfl, rfl⟩

/-- The rows of a log with its lines in another order. -/
lemma collectQueue_perm (h : collectQueue lines = .ok (rows, 0)) {noise : List (List Char)}
    (hnoise : ∀ line ∈ noise, occurrences queueMarker line = [])
    (hperm : lines'.Perm (lines ++ noise)) :
    ∃ rows', collectQueue lines' = .ok (rows', 0) ∧ rows'.Perm rows := by
  obtain ⟨hall, rfl⟩ := collectQueue_iff.mp h
  have hnone : ∀ line ∈ noise, lineRows line = some [] := fun line hline => by
    rw [lineRows, if_pos (hnoise line hline)]
  refine ⟨_, collectQueue_iff.mpr ⟨fun line hline => ?_, rfl⟩, ?_⟩
  · rcases List.mem_append.mp (hperm.subset hline) with hline | hline
    · exact hall line hline
    · rw [hnone line hline]
      rfl
  · have hempty : (noise.flatMap fun line => (lineRows line).getD []) = [] :=
      List.flatMap_eq_nil_iff.mpr fun line hline => by rw [hnone line hline]; rfl
    have hrows := hperm.flatMap_right fun line => (lineRows line).getD []
    rwa [List.flatMap_append, hempty, List.append_nil] at hrows

/-! ### Checks of the rows -/

/-- The run of a row is one. -/
def RunOk (row : GstRow) : Prop :=
  (∃ t, hex (.str (String.ofList row.run.1)) 16 "Gst queue run[0]" true = .ok t) ∧
    ∃ t, hex (.str (String.ofList row.run.2)) 16 "Gst queue run[1]" true = .ok t

/-- The rows are of one run and context, and no frame and no request is there twice. -/
structure Distinct (rows : List GstRow) : Prop where
  runs : ∀ row ∈ rows, RunOk row
  common : ∀ row ∈ rows, ∀ row' ∈ rows, (row.run, row.context) = (row'.run, row'.context)
  frames : (rows.map GstRow.frame).Nodup
  requests : (rows.map GstRow.request).Nodup

/-- The rows are distinct, also from those that have been seen. -/
structure Fresh (seen : QueueSeen) (rows : List GstRow) : Prop extends Distinct rows where
  seenCommon : ∀ c ∈ seen.common, ∀ row ∈ rows, (row.run, row.context) = c
  seenIdentities : ∀ row ∈ rows, row ∉ seen.identities
  seenFrames : ∀ row ∈ rows, row.frame ∉ seen.frames
  seenRequests : ∀ row ∈ rows, row.request ∉ seen.requests

lemma fresh_nil (seen : QueueSeen) : Fresh seen [] where
  runs := by simp
  common := by simp
  frames := List.nodup_nil
  requests := List.nodup_nil
  seenCommon := by simp
  seenIdentities := by simp
  seenFrames := by simp
  seenRequests := by simp

/-- What has been seen after a row. -/
def QueueSeen.next (seen : QueueSeen) (row : GstRow) : QueueSeen :=
  { common := some (seen.common.getD (row.run, row.context))
    identities := row :: seen.identities
    frames := row.frame :: seen.frames
    requests := row.request :: seen.requests }

lemma fresh_cons {row : GstRow} : Fresh seen (row :: rows) ↔
    RunOk row ∧ (row.run, row.context) = seen.common.getD (row.run, row.context) ∧
      row ∉ seen.identities ∧ row.frame ∉ seen.frames ∧ row.request ∉ seen.requests ∧
        Fresh (seen.next row) rows := by
  have hgetD : (∀ c ∈ seen.common, (row.run, row.context) = c) ↔
      (row.run, row.context) = seen.common.getD (row.run, row.context) := by
    cases seen.common <;> simp
  constructor
  · intro h
    have hruns := List.forall_mem_cons.mp h.runs
    have hcommon := hgetD.mp fun c hc => h.seenCommon c hc row List.mem_cons_self
    have hframes := List.nodup_cons.mp h.frames
    have hrequests := List.nodup_cons.mp h.requests
    have hidentities := List.forall_mem_cons.mp h.seenIdentities
    have hseenFrames := List.forall_mem_cons.mp h.seenFrames
    have hseenRequests := List.forall_mem_cons.mp h.seenRequests
    have hframe : ∀ r ∈ rows, r.frame ≠ row.frame := fun r hr heq =>
      hframes.1 (heq ▸ List.mem_map_of_mem hr)
    have hrequest : ∀ r ∈ rows, r.request ≠ row.request := fun r hr heq =>
      hrequests.1 (heq ▸ List.mem_map_of_mem hr)
    refine ⟨hruns.1, hcommon, hidentities.1, hseenFrames.1, hseenRequests.1,
      ⟨hruns.2, fun r hr r' hr' => h.common r (List.mem_cons_of_mem _ hr) r'
        (List.mem_cons_of_mem _ hr'), hframes.2, hrequests.2⟩, ?_, ?_, ?_, ?_⟩
    · intro c hc r hr
      obtain rfl := Option.some.inj hc
      rw [← hcommon]
      exact h.common r (List.mem_cons_of_mem _ hr) row List.mem_cons_self
    · exact fun r hr hmem => (List.mem_cons.mp hmem).elim (fun heq => hframe r hr (heq ▸ rfl))
        (hidentities.2 r hr)
    · exact fun r hr hmem => (List.mem_cons.mp hmem).elim (hframe r hr) (hseenFrames.2 r hr)
    · exact fun r hr hmem => (List.mem_cons.mp hmem).elim (hrequest r hr) (hseenRequests.2 r hr)
  · rintro ⟨hrun, hcommon, hidentity, hframe, hrequest, h⟩
    have hsame : ∀ r ∈ rows, (r.run, r.context) = (row.run, row.context) := fun r hr =>
      (h.seenCommon _ rfl r hr).trans hcommon.symm
    refine ⟨⟨List.forall_mem_cons.mpr ⟨hrun, h.runs⟩, ?_, List.nodup_cons.mpr ⟨?_, h.frames⟩,
      List.nodup_cons.mpr ⟨?_, h.requests⟩⟩, fun c hc => List.forall_mem_cons.mpr
        ⟨hgetD.mpr hcommon c hc, fun r hr => (hsame r hr).trans (hgetD.mpr hcommon c hc)⟩,
      List.forall_mem_cons.mpr ⟨hidentity, fun r hr => ?_⟩,
      List.forall_mem_cons.mpr ⟨hframe, fun r hr => ?_⟩,
      List.forall_mem_cons.mpr ⟨hrequest, fun r hr => ?_⟩⟩
    · have hall : ∀ r ∈ row :: rows, (r.run, r.context) = (row.run, row.context) :=
        List.forall_mem_cons.mpr ⟨rfl, hsame⟩
      exact fun r hr r' hr' => (hall r hr).trans (hall r' hr').symm
    · rw [List.mem_map]
      rintro ⟨r, hr, heq⟩
      exact h.seenFrames r hr (heq ▸ List.mem_cons_self)
    · rw [List.mem_map]
      rintro ⟨r, hr, heq⟩
      exact h.seenRequests r hr (heq ▸ List.mem_cons_self)
    · exact fun hmem => h.seenIdentities r hr (List.mem_cons_of_mem _ hmem)
    · exact fun hmem => h.seenFrames r hr (List.mem_cons_of_mem _ hmem)
    · exact fun hmem => h.seenRequests r hr (List.mem_cons_of_mem _ hmem)

/-- The loop over the rows accepts those that are distinct. -/
lemma checkQueue_iff : checkQueue seen rows = .ok () ↔ Fresh seen rows := by
  induction rows generalizing seen with
  | nil => exact iff_of_true rfl (fresh_nil seen)
  | cons row rows ih =>
      rw [fresh_cons, ← ih]
      simp only [checkQueue, Except.bind_ok, need_ok, exists_const, RunOk, exists_and_right]
      constructor
      · rintro ⟨h₀, h₁, hcommon, hidentity, hframe, hrequest, hrest⟩
        exact ⟨⟨h₀, h₁⟩, hcommon, hidentity, hframe, hrequest, hrest⟩
      · rintro ⟨⟨h₀, h₁⟩, hcommon, hidentity, hframe, hrequest, hrest⟩
        exact ⟨h₀, h₁, hcommon, hidentity, hframe, hrequest, hrest⟩

lemma Distinct.perm (h : Distinct rows) (hperm : rows'.Perm rows) : Distinct rows' where
  runs row hrow := h.runs row (hperm.subset hrow)
  common row hrow row' hrow' := h.common row (hperm.subset hrow) row' (hperm.subset hrow')
  frames := (hperm.map _).nodup_iff.mpr h.frames
  requests := (hperm.map _).nodup_iff.mpr h.requests

/-- The rows of a reordered log, with lines between them that do not have the marker. -/
theorem parseGstQueue_perm {pieces noise pieces' : List (List UInt8)} {last : List UInt8}
    (h : parseGstQueue (terminated 10 pieces ++ last) expected = .ok rows)
    (hpieces : ∀ piece ∈ pieces, 10 ∉ piece) (hlast : 10 ∉ last)
    (hnoise : ∀ piece ∈ noise, 10 ∉ piece ∧ 0 ∉ piece ∧ ¬utf8 queueMarker <:+: piece)
    (hperm : pieces'.Perm (pieces ++ noise))
    (hsize : (terminated 10 pieces' ++ last).length ≤ maxQueueBytes)
    (hutf8 : (decodeUtf8 (terminated 10 pieces' ++ last)).isSome = true) :
    ∃ rows', parseGstQueue (terminated 10 pieces' ++ last) expected = .ok rows' ∧
      rows'.Perm rows ∧ Distinct rows := by
  obtain ⟨text', htext'⟩ := Option.isSome_iff_exists.mp hutf8
  simp only [parseGstQueue, parseQueueText, Except.bind_ok, need_ok, found_ok, Except.pure_ok,
    Prod.exists] at h ⊢
  obtain ⟨_, ⟨⟨hpos, _⟩, hzero⟩, text, htext, collected, malformed, hcollect, _, rfl, _, hextent, _,
    hcheck, rfl⟩ := h
  obtain ⟨texts, others, texts', rest, rfl, rfl, rfl, htexts⟩ := perm_of_logs
    (decodeUtf8_eq_some.mp htext) (decodeUtf8_eq_some.mp htext') hpieces
    (fun piece hpiece => (hnoise piece hpiece).1) hlast hperm
  rw [splitlines_terminated] at hcollect
  have hquiet : ∀ line ∈ others.flatMap fun t => splitlines (t ++ ['\n']),
      occurrences queueMarker line = [] := by
    intro line hline
    obtain ⟨t, ht, hline⟩ := List.mem_flatMap.mp hline
    exact occurrences_line (by decide) (isLineBreak_of_all (by decide))
      (hnoise _ (List.mem_map_of_mem ht)).2.2 line hline
  have hlines : ((texts'.flatMap fun t => splitlines (t ++ ['\n'])) ++ splitlines rest).Perm
      ((texts.flatMap fun t => splitlines (t ++ ['\n'])) ++ splitlines rest ++
        others.flatMap fun t => splitlines (t ++ ['\n'])) := by
    have hsplit := (htexts.flatMap_right fun t => splitlines (t ++ ['\n'])).append_right
      (splitlines rest)
    rw [List.flatMap_append, List.append_assoc] at hsplit
    rw [List.append_assoc]
    exact hsplit.trans (List.perm_append_comm.append_left _)
  obtain ⟨rows', hcollect', hrows⟩ := collectQueue_perm hcollect hquiet hlines
  have hfresh := checkQueue_iff.mp hcheck
  have hdistinct := hfresh.toDistinct.perm hrows
  have hlength : (terminated 10 pieces).length ≤ (terminated 10 pieces').length := by
    rw [terminated, terminated, (hperm.flatMap_right _).length_eq, List.flatMap_append,
      List.length_append]
    exact Nat.le_add_right _ _
  refine ⟨rows', ⟨(), ⟨⟨?_, hsize⟩, ?_⟩, _, htext', rows', 0, ?_, (), rfl, (), ?_, (), ?_, rfl⟩,
    hrows, hfresh.toDistinct⟩
  · rw [List.length_append] at hpos ⊢
    omega
  · intro hmem
    rcases List.mem_append.mp hmem with hmem | hmem
    · obtain ⟨piece, hpiece, hmem⟩ := List.mem_flatMap.mp hmem
      rcases List.mem_append.mp (hperm.subset hpiece) with hold | hnew
      · exact hzero (List.mem_append_left _ (List.mem_flatMap.mpr ⟨piece, hold, hmem⟩))
      · rcases List.mem_append.mp hmem with hmem | hmem
        · exact (hnoise piece hnew).2.1 hmem
        · exact absurd hmem (by decide)
    · exact hzero (List.mem_append_right _ hmem)
  · rw [splitlines_terminated]
    exact hcollect'
  · rw [hrows.length_eq]
    exact hextent
  · exact checkQueue_iff.mpr ⟨hdistinct, by simp, by simp, by simp, by simp⟩

/-! ### The bridge -/

/-- The bridge under each frame, in the order of the rows. -/
lemma bridgeQueue_iff (hnodup : (queue.map GstRow.frame).Nodup)
    (hfresh : ∀ row ∈ queue, row.frame ∉ byFrame.keys) :
    bridgeQueue e associations queue byFrame = .ok byFrame' ↔
      ∃ bridged, List.Forall₂ (fun row b => bridgeOf e associations row = .ok b) queue bridged ∧
        byFrame'.entries = byFrame.entries ++ bridged.map fun b => (b.row.frame, b) := by
  induction queue generalizing byFrame with
  | nil =>
      rw [bridgeQueue]
      constructor
      · intro h
        obtain rfl := Except.ok.inj h
        exact ⟨[], .nil, (List.append_nil _).symm⟩
      · rintro ⟨bridged, h, hentries⟩
        cases h
        exact congrArg Except.ok (Dict.ext (hentries.trans (List.append_nil _)).symm)
  | cons row queue ih =>
      rw [List.map_cons, List.nodup_cons] at hnodup
      have hset : ∀ b : Bridged, (byFrame.set row.frame b).entries =
          byFrame.entries ++ [(row.frame, b)] :=
        fun b => Dict.entries_set_of_notMem (hfresh row List.mem_cons_self)
      have hlater : ∀ b, ∀ r ∈ queue, r.frame ∉ (byFrame.set row.frame b).keys := by
        intro b r hr
        rw [Dict.keys, hset b, List.map_append, List.mem_append]
        rintro (hmem | hmem)
        · exact hfresh r (List.mem_cons_of_mem _ hr) hmem
        · have hframe : r.frame = row.frame := List.mem_singleton.mp hmem
          exact hnodup.1 (hframe ▸ List.mem_map_of_mem hr)
      simp only [bridgeQueue, Except.bind_ok]
      constructor
      · rintro ⟨b, hb, hrest⟩
        obtain ⟨bridged, hall, hentries⟩ := (ih hnodup.2 (hlater b)).mp hrest
        refine ⟨b :: bridged, .cons hb hall, ?_⟩
        rw [hentries, hset b, List.append_assoc, List.map_cons, (bridgeOf_ok hb).1]
        rfl
      · rintro ⟨bridged, hall, hentries⟩
        cases hall with
        | cons hb hall =>
            refine ⟨_, hb, (ih hnodup.2 (hlater _)).mpr ⟨_, hall, ?_⟩⟩
            rw [hentries, hset, List.append_assoc, List.map_cons, (bridgeOf_ok hb).1]
            rfl

/-- Lookups do not depend on the order of the items. -/
lemma get?_perm (hperm : byFrame'.entries.Perm byFrame.entries) (frame : ℕ) :
    byFrame'.get? frame = byFrame.get? frame := by
  refine Option.ext fun b => ?_
  rw [← Dict.mem_entries_iff, ← Dict.mem_entries_iff]
  exact hperm.mem_iff

/-- The bridge of reordered rows. -/
lemma bridgeQueue_perm (hnodup : (queue.map GstRow.frame).Nodup) (hperm : queue'.Perm queue)
    (h : bridgeQueue e associations queue ∅ = .ok byFrame) :
    ∃ byFrame', bridgeQueue e associations queue' ∅ = .ok byFrame' ∧
      byFrame'.entries.Perm byFrame.entries := by
  have hempty : ∀ (queue : List GstRow), ∀ row ∈ queue, row.frame ∉ (∅ : Dict ℕ Bridged).keys :=
    fun _ _ _ => List.not_mem_nil
  obtain ⟨bridged, hall, hentries⟩ := (bridgeQueue_iff hnodup (hempty _)).mp h
  obtain ⟨bridged', hall', hbridged⟩ := List.perm_comp_forall₂ hperm hall
  have hitems : (bridged'.map fun b => (b.row.frame, b)).Perm byFrame.entries := by
    rw [hentries]
    exact hbridged.map _
  have hnodup' : (queue'.map GstRow.frame).Nodup := (hperm.map _).nodup_iff.mpr hnodup
  refine ⟨⟨_, (hitems.map _).nodup_iff.mpr byFrame.nodup⟩, ?_, hitems⟩
  exact (bridgeQueue_iff hnodup' (hempty _)).mpr ⟨bridged', hall', rfl⟩

/-- An entry depends on the lookups only. -/
lemma selectGst_congr (h : ∀ frame, byFrame'.get? frame = byFrame.get? frame) :
    selectGst e byFrame' = selectGst e byFrame := by
  funext output
  simp only [selectGst, h]

/-- **The join does not depend on the order of the log.**  A call that is accepted stays accepted,
with the same result, when the lines of the queue log are permuted and others are inserted that have
neither the marker nor a zero byte, as long as the log is UTF-8 and not too long. -/
theorem joinGst_order {report outputs : Json} {selectors : List ℤ} {copy : Bool}
    {queueSha256 : String} {result : JoinResult} {pieces noise pieces' : List (List UInt8)}
    {last : List UInt8}
    (h : joinGst e report (terminated 10 pieces ++ last) outputs selectors copy queueSha256 =
      .ok result)
    (hpieces : ∀ piece ∈ pieces, 10 ∉ piece) (hlast : 10 ∉ last)
    (hnoise : ∀ piece ∈ noise, 10 ∉ piece ∧ 0 ∉ piece ∧ ¬utf8 queueMarker <:+: piece)
    (hperm : pieces'.Perm (pieces ++ noise))
    (hsize : (terminated 10 pieces' ++ last).length ≤ maxQueueBytes)
    (hutf8 : (decodeUtf8 (terminated 10 pieces' ++ last)).isSome = true) :
    joinGst e report (terminated 10 pieces' ++ last) outputs selectors copy queueSha256 =
      .ok result := by
  simp only [joinGst, Except.bind_ok, need_ok] at h ⊢
  obtain ⟨u, hcheck, entries, hreport, queue, hqueue, rows, hrows, frames, hframes, byFrame,
    hbridge, _, hcomplete, selected, hselected, hresult⟩ := h
  obtain ⟨queue', hqueue', hqueues, hdistinct⟩ :=
    parseGstQueue_perm hqueue hpieces hlast hnoise hperm hsize hutf8
  obtain ⟨byFrame', hbridge', hitems⟩ := bridgeQueue_perm hdistinct.frames hqueues hbridge
  refine ⟨u, hcheck, entries, hreport, queue', hqueue', rows, hrows, frames, hframes, byFrame',
    hbridge', (), ?_, selected, ?_, hresult⟩
  · rw [Dict.keys, List.length_map, hitems.length_eq, ← List.length_map, ← Dict.keys]
    exact hcomplete
  · rw [selectGst_congr (get?_perm hitems)]
    exact hselected

end LogOrder

/-- The log of the two records in the other order, after a line that is none. -/
theorem joinGst_order_pair : ∃ result,
    joinGst pairEvidence pairReport
      (terminated 10 [utf8 "ready".toList, utf8 secondText.dropLast, utf8 (oneText []).dropLast] ++ [])
      (pairAssociation 5) [0, 1] false (String.ofList (List.replicate 64 '0')) = .ok result := by
  obtain ⟨result, hjoin⟩ := pairJoin_ok
  have hpair : utf8 pairText =
      terminated 10 [utf8 (oneText []).dropLast, utf8 secondText.dropLast] ++ [] := by
    decide +kernel
  rw [pairJoin, hpair] at hjoin
  have hnoise : ∀ piece ∈ [utf8 "ready".toList],
      10 ∉ piece ∧ 0 ∉ piece ∧ ¬utf8 queueMarker <:+: piece := by decide +kernel
  have htext : terminated 10 [utf8 "ready".toList, utf8 secondText.dropLast,
      utf8 (oneText []).dropLast] ++ [] = utf8 ("ready\n".toList ++ secondText ++ oneText []) := by
    decide +kernel
  refine ⟨result, joinGst_order hjoin ?_ ?_ hnoise ?_ ?_ (by rw [htext, decodeUtf8_utf8]; rfl)⟩
  all_goals decide +kernel

end OmarchyM1Video.SameRun
