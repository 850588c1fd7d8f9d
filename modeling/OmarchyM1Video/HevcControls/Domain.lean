import OmarchyM1Video.HevcControls.Resolution

/-!
The ranges of the records that `normalize` returns.

Every number of a record has been read with bounds, or is a count; the reference lists have the
lengths that the type of the slice asks for.

* `SliceInRange`, `readSlice_inRange`: the slice of a record;
* `completed_range`, `target_range`: a target is an index that an event carried;
* `InRange`, `normalize_inRange`: a record.
-/

namespace OmarchyM1Video.HevcControls

open OmarchyM1Video.Py

lemma ofBool_cases (b : Bool) : ofBool b = 0 ∨ ofBool b = 1 := by
  cases b <;> simp [ofBool]

/-! ### Slices -/

/-- The list of the collocated reference. -/
def SliceRecord.selected (st : SliceRecord) (colL0 : ℤ) : List ℤ :=
  if st.type = "P" ∨ colL0 = 1 then st.l0 else st.l1

/-- The ranges of a slice. -/
structure SliceInRange (st : SliceRecord) : Prop where
  i : st.i = 0
  tmvp : st.tmvp = 0 ∨ st.tmvp = 1
  short : st.l0.length ≤ 16 ∧ st.l1.length ≤ 16
  lists : (st.type = "I" ∧ st.l0 = [] ∧ st.l1 = []) ∨ (st.type = "P" ∧ st.l0 ≠ [] ∧ st.l1 = []) ∨
    (st.type = "B" ∧ st.l0 ≠ [] ∧ st.l1 ≠ [])
  col : st.tmvp ≠ 0 → ∃ colL0 col, st.col = some (colL0, col) ∧ (colL0 = 0 ∨ colL0 = 1) ∧ 0 ≤ col ∧
    col ≤ 255 ∧ (st.type ≠ "I" → col < (st.selected colL0).length)

lemma readIndices_length {n : ℤ} {vs : List Json} {is : List ℤ} (h : readIndices n vs = .ok is) :
    is.length = vs.length := by
  induction vs generalizing is with
  | nil =>
      simp only [readIndices, Except.ok.injEq] at h
      subst h
      rfl
  | cons v vs ih =>
      simp only [readIndices, Except.bind_ok, Except.pure_ok] at h
      obtain ⟨_, _, more, hmore, rfl⟩ := h
      simp [ih hmore]

/-- A reference list has the length that was asked for. -/
lemma readRefs_length {n count : ℤ} {array : Json} {is : List ℤ} (hcount : 0 ≤ count ∧ count ≤ 16)
    (h : readRefs n array count = .ok is) : (is.length : ℤ) = count := by
  simp only [readRefs, Except.bind_ok, need_ok] at h
  obtain ⟨xs, hxs, _, _, hread⟩ := h
  have hlen := (readArray_ok hxs).2
  rw [readIndices_length hread, List.length_take, hlen]
  omega

/-- The number of active references: none, or at least one. -/
lemma activeCount_ok {sl : Json} {key : String} {present : Bool} {count : ℤ}
    (h : activeCount sl key present = .ok count) :
    if present then 1 ≤ count ∧ count ≤ 16 else count = 0 := by
  cases present with
  | false => simpa [activeCount, eq_comm] using h
  | true =>
      simp only [activeCount, if_true, Except.bind_ok, integer_ok, Except.pure_ok] at h
      obtain ⟨_, _, n, ⟨_, hlow, hhigh⟩, rfl⟩ := h
      simp only [if_true]
      omega

lemma readCollocated_ok {sl : Json} {lf : List String} {typ : ℤ} {l0 l1 : List ℤ}
    {col : Option (ℤ × ℤ)} (h : readCollocated sl lf typ l0 l1 = .ok col)
    (hflag : "SLICE_TEMPORAL_MVP_ENABLED" ∈ lf) :
    ∃ colL0 index, col = some (colL0, index) ∧ (colL0 = 0 ∨ colL0 = 1) ∧ 0 ≤ index ∧ index ≤ 255 ∧
      (typ ≠ 2 → index < (if typ = 1 ∨ colL0 = 1 then l0 else l1).length) := by
  simp only [readCollocated, if_pos hflag, Except.bind_ok, integer_ok, need_ok,
    Except.pure_ok] at h
  obtain ⟨_, _, index, ⟨_, hlow, hhigh⟩, _, hselected, rfl⟩ := h
  exact ⟨_, index, rfl, ofBool_cases _, hlow, hhigh, fun htyp => hselected.resolve_left htyp⟩

/-- A list is there exactly if the type of the slice has it. -/
lemma active_list {n count : ℤ} {sl array : Json} {key : String} {present : Bool} {is : List ℤ}
    (hcount : activeCount sl key present = .ok count) (h : readRefs n array count = .ok is) :
    is.length ≤ 16 ∧ (is ≠ [] ↔ present = true) := by
  have hactive := activeCount_ok hcount
  cases present with
  | false =>
      have hzero : count = 0 := by simpa using hactive
      have hlen := readRefs_length (by omega) h
      have hnil : is = [] := List.length_eq_zero_iff.mp (by omega)
      simp [hnil]
  | true =>
      have hrange : 1 ≤ count ∧ count ≤ 16 := by simpa using hactive
      have hlen := readRefs_length (by omega) h
      refine ⟨by omega, fun _ => rfl, ?_⟩
      rintro - rfl
      rw [List.length_nil] at hlen
      omega

lemma readSlice_inRange {n : ℤ} {sl : Json} {lf : List String} {st : SliceRecord}
    (h : readSlice n sl lf = .ok st) : SliceInRange st := by
  simp only [readSlice, Except.bind_ok, integer_ok, Except.pure_ok] at h
  obtain ⟨_, _, typ, ⟨_, hlow, hhigh⟩, n0, hn0, n1, hn1, _, _, _, _, _, _, l0, hl0, _, _, l1, hl1,
    col, hcol, rfl⟩ := h
  obtain ⟨hshort0, hlist0⟩ := active_list hn0 hl0
  obtain ⟨hshort1, hlist1⟩ := active_list hn1 hl1
  rw [decide_eq_true_eq] at hlist0 hlist1
  refine ⟨rfl, ofBool_cases _, ⟨hshort0, hshort1⟩, ?_, fun htmvp => ?_⟩
  · rcases (show typ = 0 ∨ typ = 1 ∨ typ = 2 by omega) with rfl | rfl | rfl
    · exact Or.inr (Or.inr ⟨rfl, hlist0.mpr (by omega), hlist1.mpr rfl⟩)
    · exact Or.inr (Or.inl ⟨rfl, hlist0.mpr (by omega), by simpa using hlist1⟩)
    · exact Or.inl ⟨rfl, by simpa using hlist0, by simpa using hlist1⟩
  · have hflag : "SLICE_TEMPORAL_MVP_ENABLED" ∈ lf := by
      by_contra hnot
      simp [hnot, ofBool] at htmvp
    obtain ⟨colL0, index, rfl, hcolL0, hindex⟩ := readCollocated_ok hcol hflag
    refine ⟨colL0, index, rfl, hcolL0, hindex.1, hindex.2.1, fun htype => ?_⟩
    rcases (show typ = 0 ∨ typ = 1 ∨ typ = 2 by omega) with rfl | rfl | rfl
    · simpa [SliceRecord.selected] using hindex.2.2 (by omega)
    · simpa [SliceRecord.selected] using hindex.2.2 (by omega)
    · exact absurd rfl htype

/-! ### Targets -/

section Target

variable {s s' : Scan} {e : Event} {expected fd bi ts : ℤ} {start : ℕ}

/-- The index of a dequeued buffer has been read with bounds. -/
lemma dequeueBuffer_range (h : dequeueBuffer e s = .ok () s')
    (hact : dqbufAction e = some (.completeCapture bi ts)) : 0 ≤ bi ∧ bi ≤ u32Max := by
  simp only [dequeueBuffer, lift_bind_ok] at h
  obtain ⟨b, hb, _⟩ := h
  have hindex := (readBuffer_ok hb).2.1
  simp only [readBuffer, Except.bind_ok, integer_ok, Except.pure_ok] at hb
  obtain ⟨_, _, _, _, kind, _, _, _, index, ⟨_, hrange⟩, _, _, _, _, rfl⟩ := hb
  simp only [dqbufAction, Option.bind_eq_bind, Option.bind_eq_some_iff] at hact
  obtain ⟨kind', _, bi', hbi', ts', _, hkind⟩ := hact
  obtain rfl := Option.some.inj (hindex.symm.trans hbi')
  cases kind' with
  | out => simp at hkind
  | cap =>
      simp only [Option.pure_def, Option.some.injEq, Action.completeCapture.injEq] at hkind
      exact hkind.1 ▸ hrange

/-- The event of a completion is a DQBUF of the video descriptor after the open. -/
lemma completeCapture_event {p : Event × ℕ} (hact : actionAt fd start p = .completeCapture bi ts) :
    start < p.2 ∧ isRequestOp p.1 = false ∧ onFd fd p.1 = true ∧
      opIs p.1 "MEDIA_IOC_REQUEST_ALLOC" = false ∧ isEmptyDqbuf p.1 = false ∧
      opIs p.1 "VIDIOC_DQBUF" = true ∧ dqbufAction p.1 = some (.completeCapture bi ts) := by
  have hsome : action? fd start p = some (.completeCapture bi ts) := by
    cases hopt : action? fd start p with
    | none => simp [actionAt, hopt] at hact
    | some a => simpa [actionAt, hopt] using hact
  rw [action?] at hsome
  split_ifs at hsome with halloc hopen hreq hfd
  · simp at hsome
  · rw [requestAction, Option.map_eq_some_iff] at hsome
    obtain ⟨f, _, hf⟩ := hsome
    split_ifs at hf
  · rw [videoAction] at hsome
    split_ifs at hsome with hctrl hqbuf hempty hdq
    · simp only [controlsAction, Option.bind_eq_bind, Option.bind_eq_some_iff] at hsome
      obtain ⟨_, _, hsome⟩ := hsome
      split_ifs at hsome
      simp only [Option.bind_eq_some_iff] at hsome
      obtain ⟨_, _, hsome⟩ := hsome
      simp at hsome
    · simp only [qbufAction, Option.bind_eq_bind, Option.bind_eq_some_iff] at hsome
      obtain ⟨kind, _, _, _, hsome⟩ := hsome
      cases kind with
      | cap => simp at hsome
      | out =>
          simp only [Option.bind_eq_some_iff] at hsome
          obtain ⟨_, _, _, _, hsome⟩ := hsome
          simp at hsome
    · exact ⟨by omega, by simpa using hreq, hfd, by simpa using halloc, by simpa using hempty, hdq,
        hsome⟩

/-- A DQBUF that is not skipped is dequeued. -/
lemma videoOp_dequeues (hdq : opIs e "VIDIOC_DQBUF" = true) (hempty : isEmptyDqbuf e = false)
    (h : videoOp keepOutput expected e s = .ok () s') : dequeueBuffer e s = .ok () s' := by
  have hsel : selectedOps.any (opIs e) = true := by simp [selectedOps, hdq]
  simp only [videoOp, get_bind, raiseIf_bind_ok] at h
  obtain ⟨_, h⟩ := h
  rw [if_neg (by simp [hsel, hempty])] at h
  simp only [selectedOp, raiseIf_bind_ok, get_bind] at h
  simpa [isReconfiguration, opIs_of_opIs hdq] using h.2

lemma completed_range {p : Event × ℕ} (h : scanEvent keepOutput expected fd start p s = .ok () s')
    (hact : actionAt fd start p = .completeCapture bi ts) : 0 ≤ bi ∧ bi ≤ u32Max := by
  obtain ⟨hlt, hreq, hfd, halloc, hempty, hdq, hdqbuf⟩ := completeCapture_event hact
  simp only [scanEvent, bind_ok (x := onlyIf _ _), onlyIf_ok] at h
  obtain ⟨_, t, _, hafter⟩ := h
  rcases hafter with ⟨_, hafter⟩ | ⟨hle, _⟩
  · obtain ⟨t', _, hcase⟩ := afterOpen_ok hafter
    rcases hcase with ⟨hreq', _⟩ | ⟨_, hskip, _⟩ | ⟨_, _, hvideo⟩
    · simp [hreq] at hreq'
    · -- The descriptor is the video's, and the event has an operation.
      rcases hskip with hskip | hskip
      · simp [hfd] at hskip
      · have hnone := videoAction_of_not_hasOp hskip
        simp [videoAction, opIs_of_opIs hdq, hempty, hdqbuf] at hnone
    · exact dequeueBuffer_range (videoOp_dequeues hdq hempty hvideo) hdqbuf
  · exact absurd hlt hle

/-- **Every target is a buffer index**, after every run of the loop. -/
lemma target_range {ps : List (Event × ℕ)}
    (hrun : each (scanEvent keepOutput expected fd start) ps {} = .ok () s) {id : ℕ}
    (htarget : (s.objects id).target = some bi) : 0 ≤ bi ∧ bi ≤ u32Max := by
  have hall : ∀ id bi, (s.objects id).target = some bi → 0 ≤ bi ∧ bi ≤ u32Max := by
    refine each_invariant (I := fun s : Scan => ∀ id bi, (s.objects id).target = some bi →
      0 ≤ bi ∧ bi ≤ u32Max) (by simp) ?_ hrun
    intro p s s' hs hp id bi hbi
    rcases (step_of_scanEvent hp).target hbi with hold | ⟨ts, hact, _⟩
    · exact hs id bi hold
    · exact completed_range hp hact
  exact hall id bi htarget

end Target

/-! ### Records -/

/-- The ranges of a record of a run. -/
structure InRange (run : String) (r : Record) : Prop where
  schema : r.schema = "libva-v4l2request.hevc-refs/1"
  run : r.run = run
  ctx : r.ctx = 1
  single : r.first = 1 ∧ r.last = 1
  target : 0 ≤ r.target ∧ r.target ≤ u32Max
  poc : pocMin ≤ r.poc ∧ r.poc ≤ pocMax
  short : r.dpb.length ≤ 16
  entries : ∀ (j : ℕ) (d : DpbEntry), r.dpb[j]? = some d →
    d.i = j ∧ (d.lt = 0 ∨ d.lt = 1) ∧ pocMin ≤ d.poc ∧ d.poc ≤ pocMax
  slice : ∃ st, r.slices = [st] ∧ SliceInRange st

lemma readEntry_inRange {s : Ledger} {lastWriter : Dict ℤ ℕ} {req : Req} {slot : ℕ} {ent : Json}
    {d : DpbEntry} (h : readEntry s lastWriter req slot ent = .ok d) :
    d.i = slot ∧ (d.lt = 0 ∨ d.lt = 1) ∧ pocMin ≤ d.poc ∧ d.poc ≤ pocMax := by
  simp only [readEntry, Except.bind_ok, integer_ok, found_ok, need_ok, Except.pure_ok] at h
  obtain ⟨_, _, _, _, _, _, _, _, _, _, _, _, _, _, _, _, _, _, _, _, rpoc, ⟨_, hpoc⟩, _, _, _, _, _,
    _, _, _, _, _, _, _, _, _, rfl⟩ := h
  exact ⟨rfl, ofBool_cases _, hpoc⟩

lemma readPicture_inRange {s : Ledger} {run : String} {lastWriter : Dict ℤ ℕ} {req : Req}
    {out : Record × Association} (hrange : ∀ bi, req.target = some bi → 0 ≤ bi ∧ bi ≤ u32Max)
    (h : readPicture s run lastWriter req = .ok out) : InRange run out.1 := by
  simp only [readPicture, Except.bind_ok, integer_ok, found_ok, need_ok, Except.pure_ok] at h
  obtain ⟨dp, hdp, sl, hsl, sps, hsps, _, _, _, _, _, _, _, _, _, _, lf, _, pic, hpic, h⟩ := h
  obtain ⟨_, _, poc, ⟨_, hpoc⟩, h⟩ := h
  obtain ⟨_, _, entries, hentries, _, _, n, ⟨_, hn₀, hn₁⟩, dpb, hread, h⟩ := h
  obtain ⟨_, _, _, _, _, _, _, _, st, hst, target, htarget, _, _, rfl⟩ := h
  obtain ⟨hlen, hget⟩ := readDpb_ok hread
  refine ⟨rfl, rfl, rfl, ⟨rfl, rfl⟩, hrange target htarget, hpoc, ?_, fun j d hd => ?_, st, rfl,
    readSlice_inRange hst⟩
  · rw [hlen, List.length_take, (readArray_ok hentries).2]
    omega
  · obtain ⟨ent, _, hent⟩ := hget j d hd
    obtain ⟨hi, hrest⟩ := readEntry_inRange hent
    exact ⟨by rw [hi, Nat.zero_add], hrest⟩

/-- **Every record is in range**, and so is the expected count. -/
theorem normalize_inRange {events : List Event} {expected : ℤ} {run : String}
    {records : List Record} {associations : List Association}
    (h : normalize events expected run = .ok (records, associations)) :
    (1 ≤ expected ∧ expected ≤ 10000) ∧ ∀ r ∈ records, InRange run r := by
  obtain ⟨s, out, hscan, hloop, rfl, _⟩ := normalize_ok.mp h
  obtain ⟨fd, start, _, hscanned⟩ := scanned_of_scan hscan
  refine ⟨?_, fun r hr => ?_⟩
  · simp only [scan, Except.bind_ok, need_ok] at hscan
    exact hscan.choose_spec.1
  · obtain ⟨o, ho, rfl⟩ := List.mem_map.mp hr
    obtain ⟨p, hp⟩ := List.mem_iff_getElem?.mp ho
    obtain ⟨req, hreq, hread⟩ := (recordLoop_ok hloop).2 p o hp
    rw [List.getElem?_map, Option.map_eq_some_iff] at hreq
    obtain ⟨id, _, rfl⟩ := hreq
    exact readPicture_inRange (fun bi hbi => target_range hscanned.run hbi) hread

end OmarchyM1Video.HevcControls
