import OmarchyM1Video.HevcControls.Accounting

/-!
The references of the records that `normalize` returns.

A record is read with the writers of the records before it, so a reference that passes the check
against `lastWriter` is to a buffer that no record in between has written.

* `readEntry_ok`, `readDpb_ok`, `readPicture_ok`, `recordLoop_ok`: what was read for an entry, a DPB,
  a record and all of them;
* `writers`, `get?_writers`: the last writer of each buffer;
* `Resolves`, `normalize_resolves`: every entry of a DPB is the content of one earlier picture.
-/

namespace OmarchyM1Video.HevcControls

open OmarchyM1Video.Py

/-! ### What was read -/

section Picture

variable {s : Ledger} {lastWriter : Dict ℤ ℕ} {req : Req}

/-- What the checks of an entry have seen: it names the object `id`, of picture `m`, which has the
decode parameters `v`; its own picture is `k`. -/
structure EntryRead (s : Ledger) (lastWriter : Dict ℤ ℕ) (req : Req) (slot : ℕ) (ent : Json)
    (d : DpbEntry) (ts : ℤ) (id m k : ℕ) (v : Json) : Prop where
  slot : d.i = slot
  stamp : ent.get? "timestamp" = some (.int ts)
  byTs : s.byTimestamp.get? ts = some id
  refPic : (s.objects id).pic = some m
  pic : req.pic = some k
  earlier : m < k
  target : (s.objects id).target = some d.buf
  intact : lastWriter.get? d.buf = some m
  own : req.target ≠ some d.buf
  dp : (s.objects id).dp = some v
  poc : ∃ c, v.get? "pic_order_cnt_val" = some c ∧ c.eqInt d.poc = true

lemma readEntry_ok {slot : ℕ} {ent : Json} {d : DpbEntry}
    (h : readEntry s lastWriter req slot ent = .ok d) :
    ∃ ts id m k v, EntryRead s lastWriter req slot ent d ts id m k v := by
  simp only [readEntry, Except.bind_ok, Json.item_ok, integer_ok, found_ok, need_ok,
    Except.pure_ok] at h
  obtain ⟨_, hstamp, ts, ⟨rfl, _⟩, id, hid, m, hm, k, hk, _, hlt, target, htarget, own, hown, _,
    ⟨hlast, hne⟩, _, _, rpoc, _, v, hv, c, hc, _, hpoc, _, _, _, _, _, _, _, _, rfl⟩ := h
  refine ⟨ts, id, m, k, v, rfl, hstamp, hid, hm, hk, hlt, htarget, hlast, ?_, hv, c, hc, hpoc⟩
  rw [hown]
  exact fun heq => hne (Option.some.inj heq).symm

lemma readDpb_ok {slot : ℕ} {ents : List Json} {dpb : List DpbEntry}
    (h : readDpb s lastWriter req slot ents = .ok dpb) :
    dpb.length = ents.length ∧ ∀ j d, dpb[j]? = some d →
      ∃ ent, ents[j]? = some ent ∧ readEntry s lastWriter req (slot + j) ent = .ok d := by
  induction ents generalizing slot dpb with
  | nil =>
      simp only [readDpb, Except.ok.injEq] at h
      subst h
      simp
  | cons ent ents ih =>
      simp only [readDpb, Except.bind_ok, Except.pure_ok] at h
      obtain ⟨entry, hentry, more, hmore, rfl⟩ := h
      obtain ⟨hlen, hget⟩ := ih hmore
      refine ⟨by simp [hlen], fun j d hj => ?_⟩
      cases j with
      | zero =>
          obtain rfl : entry = d := by simpa using hj
          exact ⟨ent, rfl, hentry⟩
      | succ j =>
          obtain ⟨e, he, hread⟩ := hget j d (by simpa using hj)
          refine ⟨e, by simpa using he, ?_⟩
          rwa [show slot + (j + 1) = slot + 1 + j by omega]

end Picture

lemma readIndices_ok {n : ℤ} {vs : List Json} {is : List ℤ} (h : readIndices n vs = .ok is) :
    ∀ i ∈ is, 0 ≤ i ∧ i < n := by
  induction vs generalizing is with
  | nil =>
      simp only [readIndices, Except.ok.injEq] at h
      subst h
      simp
  | cons v vs ih =>
      simp only [readIndices, Except.bind_ok, Except.pure_ok, integer_ok] at h
      obtain ⟨i, ⟨_, h₀, hn⟩, more, hmore, rfl⟩ := h
      intro j hj
      rcases List.mem_cons.mp hj with rfl | hj
      · exact ⟨h₀, by omega⟩
      · exact ih hmore j hj

lemma readRefs_ok {n count : ℤ} {array : Json} {is : List ℤ}
    (h : readRefs n array count = .ok is) : ∀ i ∈ is, 0 ≤ i ∧ i < n := by
  simp only [readRefs, Except.bind_ok] at h
  obtain ⟨_, _, _, _, hread⟩ := h
  exact readIndices_ok hread

lemma readCurrent_ok {n : ℤ} {dp : Json} {suffix : String} {is : List ℤ}
    (h : readCurrent n dp suffix = .ok is) : ∀ i ∈ is, 0 ≤ i ∧ i < n := by
  simp only [readCurrent, Except.bind_ok] at h
  obtain ⟨_, _, _, _, _, _, hread⟩ := h
  exact readRefs_ok hread

lemma readSlice_ok {n : ℤ} {sl : Json} {lf : List String} {st : SliceRecord}
    (h : readSlice n sl lf = .ok st) : ∀ i ∈ st.l0 ++ st.l1, 0 ≤ i ∧ i < n := by
  simp only [readSlice, Except.bind_ok, Except.pure_ok] at h
  obtain ⟨_, _, _, _, _, _, _, _, _, _, _, _, _, _, l0, hl0, _, _, l1, hl1, _, _, rfl⟩ := h
  intro i hi
  rcases List.mem_append.mp hi with hi | hi
  · exact readRefs_ok hl0 i hi
  · exact readRefs_ok hl1 i hi

lemma readArray_ok {v : Json} {message : String} {xs : List Json}
    (h : readArray v message = .ok xs) : v = .arr xs ∧ xs.length = 16 := by
  cases v with
  | arr ys =>
      simp only [readArray, Except.bind_ok, need_ok, Except.pure_ok] at h
      obtain ⟨_, hlen, rfl⟩ := h
      exact ⟨rfl, hlen⟩
  | _ => simp [readArray] at h

/-- The indices into the DPB that a record holds. -/
def Record.indices (r : Record) : List ℤ :=
  r.stBefore ++ r.stAfter ++ r.ltCurr ++ r.slices.flatMap fun st => st.l0 ++ st.l1

/-- What the checks of a picture have seen: the decode parameters `v` with `n` active ones of the
entries of its DPB. -/
structure PictureRead (s : Ledger) (lastWriter : Dict ℤ ℕ) (req : Req) (r : Record) (v : Json)
    (entries : List Json) (n : ℕ) : Prop where
  pic : req.pic = some r.pic
  numbers : r.seq = r.pic ∧ r.req = r.pic
  target : req.target = some r.target
  dp : req.dp = some v
  poc : v.get? "pic_order_cnt_val" = some (.int r.poc)
  dpb : v.get? "dpb" = some (.arr entries)
  read : readDpb s lastWriter req 0 (entries.take n) = .ok r.dpb
  indices : ∀ i ∈ r.indices, 0 ≤ i ∧ i < r.dpb.length

lemma readPicture_ok {s : Ledger} {run : String} {lastWriter : Dict ℤ ℕ} {req : Req}
    {out : Record × Association} (h : readPicture s run lastWriter req = .ok out) :
    ∃ v entries n, PictureRead s lastWriter req out.1 v entries n := by
  simp only [readPicture, Except.bind_ok, Json.item_ok, integer_ok, found_ok, need_ok,
    Except.pure_ok] at h
  obtain ⟨dp, hdp, sl, hsl, sps, hsps, _, _, _, _, _, _, _, _, _, _, lf, _, pic, hpic, h⟩ := h
  obtain ⟨_, hpoc, poc, ⟨rfl, _⟩, h⟩ := h
  obtain ⟨_, hdpb, entries, hentries, _, hn, n, ⟨rfl, hn₀, hn₁⟩, dpb, hread, h⟩ := h
  obtain ⟨stBefore, hbefore, stAfter, hafter, ltCurr, hcurr, _, _, h⟩ := h
  obtain ⟨st, hst, target, htarget, ts, hts, h⟩ := h
  subst h
  obtain ⟨rfl, hlen⟩ := readArray_ok hentries
  have hdpbLen : (dpb.length : ℤ) = n := by
    rw [(readDpb_ok hread).1, List.length_take, hlen]
    omega
  refine ⟨dp, entries, n.toNat, hpic, ⟨rfl, rfl⟩, htarget, hdp, hpoc, hdpb, hread, ?_⟩
  intro i hi
  simp only [Record.indices, List.flatMap_singleton, List.mem_append] at hi
  rw [hdpbLen]
  rcases hi with ((hi | hi) | hi) | hi
  · exact readCurrent_ok hbefore i hi
  · exact readCurrent_ok hafter i hi
  · exact readCurrent_ok hcurr i hi
  · exact readSlice_ok hst i (List.mem_append.mpr hi)

/-! ### The last writer -/

/-- The number of the last record that has each buffer as its target. -/
def writers (lastWriter : Dict ℤ ℕ) (records : List Record) : Dict ℤ ℕ :=
  records.foldl (fun d r => d.set r.target r.pic) lastWriter

lemma recordLoop_ok {s : Ledger} {run : String} {lastWriter : Dict ℤ ℕ} {reqs : List Req}
    {out : List (Record × Association)} (h : recordLoop s run lastWriter reqs = .ok out) :
    out.length = reqs.length ∧ ∀ p o, out[p]? = some o → ∃ req, reqs[p]? = some req ∧
      readPicture s run (writers lastWriter ((out.map Prod.fst).take p)) req = .ok o := by
  induction reqs generalizing lastWriter out with
  | nil =>
      simp only [recordLoop, Except.ok.injEq] at h
      subst h
      simp
  | cons req reqs ih =>
      simp only [recordLoop, Except.bind_ok, Except.pure_ok] at h
      obtain ⟨o, ho, more, hmore, rfl⟩ := h
      obtain ⟨hlen, hget⟩ := ih hmore
      refine ⟨by simp [hlen], fun p o' hp => ?_⟩
      cases p with
      | zero =>
          obtain rfl : o = o' := by simpa using hp
          exact ⟨req, rfl, ho⟩
      | succ p =>
          obtain ⟨req', hreq, hread⟩ := hget p o' (by simpa using hp)
          exact ⟨req', by simpa using hreq, hread⟩

/-- The last writer of a buffer is a record with it as its target, and no later record has it. -/
lemma get?_writers {records : List Record} {b : ℤ} {m : ℕ}
    (h : (writers ∅ records).get? b = some m) :
    ∃ (i : ℕ) (r : Record), records[i]? = some r ∧ r.target = b ∧ r.pic = m ∧
      ∀ (j : ℕ) (r' : Record), i < j → records[j]? = some r' → r'.target ≠ b := by
  induction records using List.reverseRecOn with
  | nil => simp [writers] at h
  | append_singleton rs r ih =>
      rw [writers, List.foldl_append, List.foldl_cons, List.foldl_nil, Dict.get?_set] at h
      split_ifs at h with hb
      · refine ⟨rs.length, r, by simp, hb.symm, Option.some.inj h, fun j r' hj hget => ?_⟩
        have hbound := (List.getElem?_eq_some_iff.mp hget).1
        simp only [List.length_append, List.length_singleton] at hbound
        omega
      · obtain ⟨i, r₀, hi, htarget, hpic, hlater⟩ := ih h
        have hlt : i < rs.length := (List.getElem?_eq_some_iff.mp hi).1
        refine ⟨i, r₀, by rw [List.getElem?_append_left hlt, hi], htarget, hpic, ?_⟩
        intro j r' hj hget
        rcases lt_or_ge j rs.length with hjlt | hjge
        · exact hlater j r' hj (by rwa [List.getElem?_append_left hjlt] at hget)
        · rw [List.getElem?_append_right hjge, List.getElem?_singleton] at hget
          split_ifs at hget
          obtain rfl := Option.some.inj hget
          exact fun heq => hb heq.symm

/-! ### Resolved references -/

/-- The timestamp of an entry of the DPB, in the decode parameters of a picture. -/
def EntryStamp (s : Ledger) (p j : ℕ) (ts : ℤ) : Prop :=
  ∃ id dp entries ent, s.pictures[p]? = some id ∧ (s.objects id).dp = some dp ∧
    dp.get? "dpb" = some (.arr entries) ∧ entries[j]? = some ent ∧
    ent.get? "timestamp" = some (.int ts)

/-- An entry of the DPB of record `p` with the timestamp `ts` is the content of record `q`. -/
structure Resolves (log : List Action) (records : List Record) (p q : ℕ) (ts : ℤ) (d : DpbEntry) :
    Prop where
  earlier : q < p
  /-- The timestamp belongs to picture `q` and to no other one. -/
  picture : PictureAt log q ts
  unique : ∀ k, PictureAt log k ts → k = q
  /-- The buffer is the one that was completed with the timestamp. -/
  completed : .completeCapture d.buf ts ∈ log
  content : ∃ r, records[q]? = some r ∧ r.target = d.buf ∧ r.poc = d.poc
  intact : ∀ (k : ℕ) (r : Record), q < k → k < p → records[k]? = some r → r.target ≠ d.buf
  own : ∀ r : Record, records[p]? = some r → r.target ≠ d.buf

section Records

variable {events : List Event} {expected fd : ℤ} {start : ℕ} {s : Scan} {run : String}
  {out : List (Record × Association)}

/-- A record is the reading of the picture with its number. -/
lemma record_read (hscanned : Scanned events expected fd start s)
    (hloop : recordLoop s.toLedger run ∅ (s.pictures.map s.objects) = .ok out) {p : ℕ} {r : Record}
    (hr : (out.map Prod.fst)[p]? = some r) :
    ∃ id v entries n, s.pictures[p]? = some id ∧ r.pic = p + 1 ∧
      PictureRead s.toLedger (writers ∅ ((out.map Prod.fst).take p)) (s.objects id) r v entries
        n := by
  rw [List.getElem?_map, Option.map_eq_some_iff] at hr
  obtain ⟨o, ho, rfl⟩ := hr
  obtain ⟨req, hreq, hread⟩ := (recordLoop_ok hloop).2 p o ho
  rw [List.getElem?_map, Option.map_eq_some_iff] at hreq
  obtain ⟨id, hid, rfl⟩ := hreq
  obtain ⟨v, entries, n, hpicture⟩ := readPicture_ok hread
  have hnum := hpicture.pic.symm.trans ((inv_of_run hscanned.run).numbered p id hid)
  exact ⟨id, v, entries, n, hid, Option.some.inj hnum, hpicture⟩

lemma entry_resolves (hscanned : Scanned events expected fd start s)
    (hloop : recordLoop s.toLedger run ∅ (s.pictures.map s.objects) = .ok out) {p j : ℕ} {r : Record}
    {d : DpbEntry} (hr : (out.map Prod.fst)[p]? = some r) (hd : r.dpb[j]? = some d) :
    ∃ q ts, EntryStamp s.toLedger p j ts ∧
      Resolves (logOf fd start events) (out.map Prod.fst) p q ts d := by
  have hinv := inv_of_run hscanned.run
  have htracks := tracks_of_run hscanned.run
  obtain ⟨id, v, entries, n, hid, hpic, hpicture⟩ := record_read hscanned hloop hr
  obtain ⟨ent, hent, hread⟩ := (readDpb_ok hpicture.read).2 j d hd
  obtain ⟨ts, ref, m, k, w, hentry⟩ := readEntry_ok hread
  obtain ⟨hrefMem, hrefTs⟩ := (hinv.byTs ts ref).mp hentry.byTs
  obtain ⟨q, hq⟩ := List.mem_iff_getElem?.mp hrefMem
  obtain rfl : m = q + 1 := Option.some.inj (hentry.refPic.symm.trans (hinv.numbered q ref hq))
  obtain rfl : r.pic = k := Option.some.inj (hpicture.pic.symm.trans hentry.pic)
  have hqp : q < p := by
    have := hentry.earlier
    omega
  have hpictureAt : PictureAt (logOf fd start events) q ts :=
    htracks.pictureAt_iff.mpr ⟨ref, hq, hrefTs⟩
  -- The last writer of the buffer is the record of the picture that the entry names.
  obtain ⟨i, r₀, hi, htarget, hnum, hlater⟩ := get?_writers hentry.intact
  rw [List.getElem?_take, Option.ite_none_right_eq_some] at hi hent
  obtain ⟨hip, hi⟩ := hi
  obtain ⟨ref', v₀, _, _, href, hnum₀, hpicture₀⟩ := record_read hscanned hloop hi
  obtain rfl : i = q := by omega
  obtain rfl : ref = ref' := Option.some.inj (hq.symm.trans href)
  refine ⟨i, ts, ⟨id, v, entries, ent, hid, hpicture.dp, hpicture.dpb, ?_, hentry.stamp⟩, hqp,
    hpictureAt, fun k hk => htracks.pictureAt_inj hinv hk hpictureAt, ?_, ⟨r₀, hi, htarget, ?_⟩, ?_,
    ?_⟩
  · exact hent.2
  · obtain ⟨ts', hts', hmem⟩ := htracks.target ref d.buf hentry.target
    obtain rfl := Option.some.inj (hrefTs.symm.trans hts')
    exact hmem
  · obtain rfl : v₀ = w := Option.some.inj (hpicture₀.dp.symm.trans hentry.dp)
    obtain ⟨c, hc, hpoc⟩ := hentry.poc
    obtain rfl := Option.some.inj (hpicture₀.poc.symm.trans hc)
    simpa [Json.eqInt] using hpoc
  · intro k r' hik hkp hk
    exact hlater k r' hik (by rw [List.getElem?_take_of_lt hkp, hk])
  · intro r' hr' heq
    obtain rfl := Option.some.inj (hr.symm.trans hr')
    exact hentry.own (by rw [hpicture.target, heq])

end Records

/-- **References resolve to the true content**: the records are numbered from one to the expected
count; every entry of a DPB is the content of exactly one earlier picture, in a buffer that nothing
has written since; every index of a record is one of its DPB. -/
theorem normalize_resolves {events : List Event} {expected : ℤ} {run : String}
    {records : List Record} {associations : List Association}
    (h : normalize events expected run = .ok (records, associations)) :
    ∃ fd start s, select events = .ok (fd, start) ∧
      scan keepOutput events expected run = .ok s ∧ (records.length : ℤ) = expected ∧
      ∀ (p : ℕ) (r : Record), records[p]? = some r →
        (r.pic = p + 1 ∧ r.seq = p + 1 ∧ r.req = p + 1) ∧
        (∀ (j : ℕ) (d : DpbEntry), r.dpb[j]? = some d → ∃ q ts, EntryStamp s.toLedger p j ts ∧
          Resolves (logOf fd start events) records p q ts d) ∧
        ∀ i ∈ r.indices, 0 ≤ i ∧ i < r.dpb.length := by
  obtain ⟨s, out, hscan, hloop, rfl, _⟩ := normalize_ok.mp h
  obtain ⟨fd, start, hselect, hscanned⟩ := scanned_of_scan hscan
  refine ⟨fd, start, s, hselect, hscan, ?_, fun p r hr => ?_⟩
  · rw [List.length_map, (recordLoop_ok hloop).1, List.length_map, hscanned.length]
  · obtain ⟨_, _, _, _, _, hpic, hpicture⟩ := record_read hscanned hloop hr
    refine ⟨⟨hpic, ?_, ?_⟩, fun j d hd => entry_resolves hscanned hloop hr hd, hpicture.indices⟩
    · rw [hpicture.numbers.1, hpic]
    · rw [hpicture.numbers.2, hpic]

/-- The second picture of the fixture refers to the first. -/
theorem fixture_resolves : ∃ records associations,
    normalize fixture 2 "1234567890abcdef" = .ok (records, associations) ∧
      ∃ r d, records[1]? = some r ∧ r.dpb[0]? = some d ∧ (d.buf, d.poc) = (4, 0) ∧
        ∃ log q ts, Resolves log records 1 q ts d := by
  obtain ⟨records, associations, h, htargets⟩ := ok_of_targets targets_fixture
  obtain ⟨_, _, hcons, _, hrest⟩ := List.map_eq_cons_iff.mp htargets
  obtain ⟨r, hr, hsecond⟩ := List.map_eq_singleton_iff.mp hrest
  have hget : records[1]? = some r := by rw [hcons, hr, List.getElem?_cons_succ]; rfl
  obtain ⟨d, hd, hbuf⟩ := List.map_eq_singleton_iff.mp (Prod.mk.inj hsecond).2
  have hdget : r.dpb[0]? = some d := by rw [hd]; rfl
  obtain ⟨fd, start, s, _, _, _, hrecords⟩ := normalize_resolves h
  obtain ⟨q, ts, _, hresolves⟩ := (hrecords 1 r hget).2.1 0 d hdget
  exact ⟨records, associations, h, r, d, hget, hdget, hbuf, _, q, ts, hresolves⟩

end OmarchyM1Video.HevcControls
