import OmarchyM1Video.SameRun.Join

/-!
The picture order count of a joined entry.

The VA join takes it from the output association, after comparing it with the queue row, which is the
request.  The Gst join takes it from the raw association and compares it with nothing.

* `PocAgrees`: an entry's picture order count is that of the request and of the output association;
* `selectVa_agrees`, `selectGst_agrees_iff`: an entry of the one client agrees, an entry of the other
  just when the raw association of its frame does (`RawAgrees`);
* `joined_poc_agrees_iff`: the joins.
-/

namespace OmarchyM1Video.SameRun

open OmarchyM1Video.Py
open OmarchyM1Video.ReferenceContent (Client Shared)

/-- The picture order count of a request. -/
def HasPoc (request : Json) (poc : ℤ) : Prop := (request.get? "poc").any (Json.eqInt poc) = true

/-- An entry's picture order count is that of the request and of the output association of its
picture. -/
def PocAgrees (e : KernelEvidence) (rows : List Association) (s : Selected) : Prop :=
  (∃ request, requestOf e s.picture = some request ∧ HasPoc request s.poc) ∧
    ∃ row ∈ rows, row.pic = s.picture ∧ row.poc = s.poc

/-- The raw association of a frame has the picture order count of the request and of the output
association of its picture. -/
def RawAgrees (e : KernelEvidence) (rows : List Association) (frame : ℤ) : Prop :=
  ∀ raw picture poc, rawOf e frame = some raw → raw.get? "pic" = some picture →
    raw.get? "poc" = some poc →
      (∀ request, requestOf e picture = some request → HasPoc request poc) ∧
        ∀ row ∈ rows, row.pic = picture → row.poc = poc

section Documents

variable {e : KernelEvidence} {document request row : Json} {rows : List Association}
  {expected index i : ℕ} {association : Association} {n m : ℤ} {x : Json}

lemma eqInt_unique (h : x.eqInt n = true) (h' : x.eqInt m = true) : n = m := by
  rw [Json.eqInt_iff] at h h'
  exact_mod_cast Option.some.inj (h.symm.trans h')

/-- The request of a picture is the row of its number. -/
lemma requestOf_eq (h : numbered e.requests = true) (hi : e.requests[i]? = some request) :
    requestOf e ((i : ℤ) + 1) = some request := by
  have hnumber : ∀ (j : ℕ) (r : Json), e.requests[j]? = some r →
      (r.get? "pic").any (Json.eqInt ((j : ℤ) + 1)) = true := by
    intro j r hj
    have hmem : (r, 1 + j) ∈ e.requests.zipIdx 1 := by
      rw [List.mem_iff_getElem?]
      exact ⟨j, by rw [List.getElem?_zipIdx, hj]; rfl⟩
    have hpic := List.all_eq_true.mp h _ hmem
    rwa [show ((j : ℤ) + 1) = ((1 + j : ℕ) : ℤ) by omega]
  obtain ⟨hlt, hget⟩ := List.getElem?_eq_some_iff.mp hi
  have hsplit : e.requests = e.requests.take i ++ request :: e.requests.drop (i + 1) := by
    rw [← hget, List.getElem_cons_drop, List.take_append_drop]
  rw [requestOf, hsplit, List.reverse_append, List.reverse_cons, List.append_assoc,
    List.find?_eq_some_iff_append]
  refine ⟨by simpa using hnumber i request hi, _, _, rfl, fun r hr => ?_⟩
  rw [List.mem_reverse] at hr
  obtain ⟨k, hk⟩ := List.getElem?_of_mem hr
  rw [List.getElem?_drop] at hk
  have hother := hnumber _ r hk
  cases hpic : r.get? "pic" with
  | none => rfl
  | some v =>
      rw [hpic] at hother
      simp only [Option.any_some, Bool.not_eq_true'] at hother ⊢
      rw [Bool.eq_false_iff]
      intro hsame
      have heq := eqInt_unique hsame hother
      omega

lemma associationOf_ok (h : associationOf expected index row = .ok association) :
    0 < association.pic := by
  simp only [associationOf, Except.bind_ok, need_ok, Except.pure_ok] at h
  obtain ⟨_, _, _, _, _, _, picJson, _, pic, hpic, _, _, _, _, _, _, rfl⟩ := h
  unfold uint at hpic
  split at hpic
  · split_ifs at hpic with hrange
    simp only [Except.bind_ok, need_ok, Except.pure_ok] at hpic
    obtain ⟨_, hne, rfl⟩ := hpic
    have hnonzero := hne.resolve_left (by simp)
    simp only
    omega
  · exact absurd hpic (by simp)

/-- The rows of an output association are of different pictures, each counted from one. -/
lemma parseAssociations_ok (h : parseAssociations document expected = .ok rows) :
    (rows.map Association.pic).Nodup ∧ ∀ row ∈ rows, 0 < row.pic := by
  unfold parseAssociations at h
  split at h
  · simp only [Except.bind_ok, need_ok, Except.pure_ok] at h
    obtain ⟨_, _, rows', hrows, _, hnodup, rfl⟩ := h
    refine ⟨hnodup, fun row hrow => ?_⟩
    obtain ⟨j, hj⟩ := List.getElem?_of_mem hrow
    obtain ⟨hlength, hget⟩ := mapM_ok hrows
    have hlt : j < rows'.length := (List.getElem?_eq_some_iff.mp hj).1
    rw [hlength] at hlt
    exact associationOf_ok (hget j _ row (List.getElem?_eq_getElem hlt) hj)
  · exact absurd h (by simp)

end Documents

/-! ### The VA client -/

section Va

variable {e : KernelEvidence} {queue : List (Json × VaIdentity)} {requests : List Json}
  {rows : List Association} {output row expected : Json} {identity : VaIdentity} {s : Selected}
  {number i : ℕ} {name : String} {raw : List UInt8}

lemma get?_vaProjection (h : name ∉ ["schema", "run", "ctx", "va_context", "observer"]) :
    (vaProjection row).get? name = row.get? name := by
  cases row with
  | obj members =>
      rw [vaProjection, Json.get?, Json.get?, Json.member?, Json.member?, List.find?_filter]
      refine congrArg (Option.map Prod.snd) (congrArg (List.find? · members) (funext fun m => ?_))
      by_cases hm : m.1 = name
      · subst hm
        simp [h]
      · simp [hm]
  | _ => rfl

/-- A row of the queue has the fields of the request. -/
lemma checkProjection_ok {u : Unit} (h : checkProjection number queue requests = .ok u)
    (hrow : queue[i]? = some (row, identity)) (hrequest : requests[i]? = some expected) :
    (vaProjection row).same (vaProjection expected) = true := by
  induction queue generalizing number requests i with
  | nil => exact absurd hrow (by simp)
  | cons first queue ih =>
      cases requests with
      | nil => exact absurd hrequest (by simp)
      | cons request requests =>
          simp only [checkProjection, Except.bind_ok, need_ok] at h
          obtain ⟨_, hfirst, hrest⟩ := h
          cases i with
          | zero =>
              obtain rfl : first = (row, identity) := by simpa using hrow
              obtain rfl : request = expected := by simpa using hrequest
              exact hfirst
          | succ i => exact ih hrest (by simpa using hrow) (by simpa using hrequest)

lemma parseVaQueue_length (h : parseVaQueue raw number = .ok queue) : queue.length ≤ number := by
  simp only [parseVaQueue, Except.bind_ok, need_ok, Except.pure_ok] at h
  obtain ⟨rows, _, _, hlength, identities, _, rfl⟩ := h
  rw [List.length_zip, hlength]
  exact Nat.min_le_left _ _

/-- **An entry of the VA client agrees.** -/
theorem selectVa_agrees {u : Unit} (h : selectVa e queue rows output = .ok s)
    (hnumbered : numbered e.requests = true) (hqueue : queue.length ≤ e.requests.length)
    (hproject : checkProjection 1 queue e.requests = .ok u) (hrows : ∀ row ∈ rows, 0 < row.pic) :
    PocAgrees e rows s := by
  simp only [selectVa, Except.bind_ok, found_ok, need_ok, Prod.exists, Except.pure_ok] at h
  obtain ⟨ordinal, _, association, hassociation, row, identity, hrow, _, _, _, _, _, _, _, _, _, _, _, _,
    _, _, _, _, _, capture, _, target, _, _, _, poc, hpoc, _, hsame, start, done, _, public_, _, allocation, _,
    rfl⟩ := h
  have hmem := List.mem_of_find?_eq_some hassociation
  have hpic := hrows association hmem
  refine ⟨?_, association, hmem, rfl, rfl⟩
  have hlt : (association.pic - 1).toNat < e.requests.length :=
    Nat.lt_of_lt_of_le (List.getElem?_eq_some_iff.mp hrow).1 hqueue
  obtain ⟨request, hrequest⟩ : ∃ request, e.requests[(association.pic - 1).toNat]? = some request :=
    ⟨_, List.getElem?_eq_getElem hlt⟩
  refine ⟨request, ?_, ?_⟩
  · have heq := requestOf_eq hnumbered hrequest
    rwa [show (((association.pic - 1).toNat : ℕ) : ℤ) + 1 = association.pic by omega] at heq
  · -- The queue row has the association's count, and the request that of the queue row.
    have hprojection := checkProjection_ok hproject hrow hrequest
    rw [Json.item_ok] at hpoc
    rw [← get?_vaProjection (by decide)] at hpoc
    obtain ⟨w, hw, hvalue⟩ := Json.same_get? hprojection hpoc
    rw [get?_vaProjection (by decide)] at hw
    rw [HasPoc, hw, Option.any_some, ← Json.same_eqInt hvalue]
    exact hsame

end Va

/-! ### The Gst client -/

section Gst

variable {e : KernelEvidence} {rows : List Association} {queue : List GstRow} {row : GstRow}
  {byFrame byFrame' : Dict ℕ Bridged} {bridged : Bridged} {output : Json} {outputs : List Json}
  {s : Selected} {selected : List Selected} {observed : List ℤ} {shared : Shared} {copy : Bool} {n : ℤ}

/-- What the bridge of a row is made of. -/
lemma bridgeOf_ok (h : bridgeOf e rows row = .ok bridged) :
    bridged.row = row ∧ ∃ raw request, rawOf e row.frame = some raw ∧
      raw.get? "pic" = some bridged.picture ∧ raw.get? "poc" = some bridged.poc ∧
        requestOf e bridged.picture = some request ∧
          ∃ association ∈ rows, association.pic = bridged.picture := by
  simp only [bridgeOf, Except.bind_ok, found_ok, need_ok, Except.pure_ok, List.any_eq_true,
    decide_eq_true_eq] at h
  obtain ⟨raw, hraw, picture, hpicture, request, hrequest, _, _, _, _, _, hassociation, poc, hpoc, rfl⟩ := h
  exact ⟨rfl, raw, request, hraw, hpicture, hpoc, hrequest, hassociation⟩

/-- Under a frame is the bridge of a row of that frame. -/
lemma bridgeQueue_ok (h : bridgeQueue e rows queue byFrame = .ok byFrame')
    (hbefore : ∀ frame b, byFrame.get? frame = some b → b.row.frame = frame ∧
      bridgeOf e rows b.row = .ok b) :
    ∀ frame b, byFrame'.get? frame = some b → b.row.frame = frame ∧
      bridgeOf e rows b.row = .ok b := by
  induction queue generalizing byFrame with
  | nil =>
      obtain rfl := Except.ok.inj h
      exact hbefore
  | cons row queue ih =>
      simp only [bridgeQueue, Except.bind_ok] at h
      obtain ⟨bridged, hbridged, hrest⟩ := h
      refine ih hrest fun frame b hb => ?_
      rw [Dict.get?_set] at hb
      split_ifs at hb with hframe
      · obtain rfl := Option.some.inj hb
        obtain rfl := (bridgeOf_ok hbridged).1
        exact ⟨hframe.symm, hbridged⟩
      · exact hbefore frame b hb

/-- **An entry of the Gst client agrees** just when the raw association of its frame does. -/
theorem selectGst_agrees_iff (h : selectGst e byFrame output = .ok s)
    (hbridge : ∀ frame b, byFrame.get? frame = some b → b.row.frame = frame ∧
      bridgeOf e rows b.row = .ok b)
    (hnodup : (rows.map Association.pic).Nodup) (houtput : ReportOutput .gst copy output n shared) :
    PocAgrees e rows s ↔ RawAgrees e rows n := by
  simp only [selectGst, intItem, Except.bind_ok, found_ok, need_ok, Except.pure_ok, Prod.exists] at h
  obtain ⟨frame, ⟨value, hvalue, hframe⟩, bridged, hbridged, _, _, _, _, _, _, _, _, _, _, _, _, _, _,
    hidentity, start, done, _, client, _, allocation, _, rfl⟩ := h
  have hcoordinate : output.get? "system_frame_number" = some (.int n) := houtput.coordinate.1
  rw [Json.item_ok, hcoordinate] at hvalue
  obtain rfl := Option.some.inj hvalue
  obtain rfl : n = frame := by simpa using hframe
  obtain ⟨hrowFrame, hok⟩ := hbridge _ bridged hbridged
  obtain ⟨_, raw, request, hraw, hpicture, hpoc, hrequest, association, hassociation, hpic⟩ :=
    bridgeOf_ok hok
  have hframes : (bridged.row.frame : ℤ) = n := hidentity.2.2.2.2.2.1
  rw [hframes] at hraw
  constructor
  · rintro ⟨⟨request', hrequest', hcount⟩, association', hassociation', hpic', hcount'⟩ raw' picture poc
      hraw' hpicture' hpoc'
    obtain rfl := Option.some.inj (hraw.symm.trans hraw')
    obtain rfl := Option.some.inj (hpicture.symm.trans hpicture')
    obtain rfl := Option.some.inj (hpoc.symm.trans hpoc')
    refine ⟨fun r hr => ?_, fun row hrow hsame => ?_⟩
    · obtain rfl := Option.some.inj (hrequest'.symm.trans hr)
      exact hcount
    · obtain rfl := List.inj_on_of_nodup_map hnodup hrow hassociation' (hsame.trans hpic'.symm)
      exact hcount'
  · intro hraws
    obtain ⟨hrequests, hassociations⟩ := hraws raw _ _ hraw hpicture hpoc
    exact ⟨⟨request, hrequest, hrequests request hrequest⟩, association, hassociation, hpic,
      hassociations association hassociation hpic⟩

/-- A property of the entries is one of the frames of the outputs that they are of. -/
lemma forall_selected_iff {P : Selected → Prop} {C : ℤ → Prop} {select : Json → Join Selected}
    (hselected : outputs.mapM select = .ok selected)
    (hobserved : List.Forall₂ (fun output n => ReportOutput .gst copy output n shared) outputs observed)
    (h : ∀ output s n, select output = .ok s → ReportOutput .gst copy output n shared → (P s ↔ C n)) :
    (∀ s ∈ selected, P s) ↔ ∀ n ∈ observed, C n := by
  induction hobserved generalizing selected with
  | nil =>
      obtain rfl : [] = selected := by simpa using hselected
      simp
  | cons hfirst _ ih =>
      simp only [List.mapM_cons, Except.bind_ok, Except.pure_ok] at hselected
      obtain ⟨s, hs, rest, hrest, rfl⟩ := hselected
      rw [List.forall_mem_cons, List.forall_mem_cons, h _ s _ hs hfirst, ih hrest]

end Gst

/-! ### The joins -/

section Join

variable {client : Client} {e : KernelEvidence} {report associations : Json} {queueRaw : List UInt8}
  {selectors : List ℤ} {copy : Bool} {queueSha256 : String} {result : JoinResult}

lemma check_numbered {u : Unit} (h : e.check = .ok u) : numbered e.requests = true := by
  simp only [KernelEvidence.check, Except.bind_ok, need_ok] at h
  obtain ⟨_, _, _, _, _, _, _, _, _, hnumbered, _⟩ := h
  exact hnumbered

lemma resultOf_selected {selected : List Selected}
    (h : resultOf e client copy selected queueSha256 = .ok result) : result.selected = selected := by
  simp only [resultOf, Except.bind_ok, need_ok, Except.pure_ok] at h
  obtain ⟨_, _, _, _, _, _, rfl⟩ := h
  rfl

/-- **The picture order count of a joined entry** is that of the kernel request and of the output
association of its picture: always for the VA client, and for the Gst client if and only if the raw
association of every selected frame has that count, which the join does not check. -/
theorem joined_poc_agrees_iff
    (h : join client e report queueRaw associations selectors copy queueSha256 = .ok result) :
    ∃ rows, parseAssociations associations e.requests.length = .ok rows ∧
      ((∀ s ∈ result.selected, PocAgrees e rows s) ↔
        (client = .gst → ∀ frame ∈ selectors, RawAgrees e rows frame)) := by
  cases client with
  | va =>
      change joinVa _ _ _ _ _ _ _ = _ at h
      simp only [joinVa, Except.bind_ok] at h
      obtain ⟨_, hcheck, outputs, _, queue, hqueue, rows, hrows, _, hproject, selected, hselected,
        hresult⟩ := h
      refine ⟨rows, hrows, iff_of_true (fun s hs => ?_) (by simp)⟩
      rw [resultOf_selected hresult] at hs
      obtain ⟨j, hj⟩ := List.getElem?_of_mem hs
      obtain ⟨hlength, hget⟩ := mapM_ok hselected
      have hlt : j < selected.length := (List.getElem?_eq_some_iff.mp hj).1
      rw [hlength] at hlt
      exact selectVa_agrees (hget j _ s (List.getElem?_eq_getElem hlt) hj) (check_numbered hcheck)
        (parseVaQueue_length hqueue) hproject (parseAssociations_ok hrows).2
  | gst =>
      change joinGst _ _ _ _ _ _ _ = _ at h
      simp only [joinGst, Except.bind_ok, need_ok] at h
      obtain ⟨_, _, outputs, hreport, queue, _, rows, hrows, _, _, byFrame, hbridge, _, _, selected,
        hselected, hresult⟩ := h
      obtain ⟨observed, shared, hvalid⟩ := validateReport_ok.mp hreport
      obtain ⟨hsub, hall⟩ : (∀ n ∈ observed, n ∈ selectors) ∧ ∀ n ∈ selectors, n ∈ observed :=
        hvalid.selection
      have hframes := bridgeQueue_ok hbridge fun frame b hb => absurd hb (by simp)
      refine ⟨rows, hrows, ?_⟩
      rw [resultOf_selected hresult, forall_selected_iff hselected hvalid.outputs
        fun output s n hs ho => selectGst_agrees_iff hs hframes (parseAssociations_ok hrows).1 ho]
      exact ⟨fun hn _ frame hframe => hn frame (hall frame hframe),
        fun hs n hn => hs rfl n (hsub n hn)⟩

end Join

/-! ### The size of a document -/

mutual

/-- A bound for the length of the text of a value, a character being one of twelve at most. -/
def dumpBound : Json → ℕ
  | .null => 4
  | .bool _ => 5
  | .int n => (intText n).utf8ByteSize
  | .float _ => 0
  | .str s => 12 * s.utf8ByteSize + 2
  | .arr xs => elementsBound xs + 2
  | .obj members => membersBound members + 2

def elementsBound : List Json → ℕ
  | [] => 0
  | x :: xs => dumpBound x + 1 + elementsBound xs

def membersBound : List (String × Json) → ℕ
  | [] => 0
  | (name, x) :: rest => 12 * name.utf8ByteSize + 4 + dumpBound x + membersBound rest

end

lemma length_toList_le (s : String) : s.toList.length ≤ s.utf8ByteSize := by
  obtain ⟨cs, rfl⟩ : ∃ cs, s = String.ofList cs := ⟨s.toList, (String.ofList_toList).symm⟩
  rw [String.toList_ofList]
  have hsize : (String.ofList cs).utf8ByteSize = (cs.flatMap String.utf8EncodeChar).length := by
    rw [String.utf8ByteSize, String.toByteArray_ofList, List.utf8Encode, List.size_toByteArray]
  rw [hsize]
  clear hsize
  induction cs with
  | nil => exact Nat.le_refl 0
  | cons c cs ih =>
      rw [List.flatMap_cons, List.length_append, List.length_cons, String.length_utf8EncodeChar]
      have := Char.utf8Size_pos c
      omega

lemma length_ite_le {c : Prop} [Decidable c] {s t : List Char} {n : ℕ} (hs : s.length ≤ n)
    (ht : t.length ≤ n) : (if c then s else t).length ≤ n := by
  by_cases h : c
  · rwa [if_pos h]
  · rwa [if_neg h]

lemma length_dumpChar (c : Char) : (dumpChar c).length ≤ 12 := by
  have hunit : ∀ n, (escapedUnit n).length = 6 := by
    intro n
    rw [escapedUnit, List.length_append, length_hexDigits]
    rfl
  have hletter : ∀ n, (escapedUnit n).length ≤ 12 := fun n => by
    rw [hunit]
    omega
  refine length_ite_le (by decide +kernel) (length_ite_le (by decide +kernel) ?_)
  refine length_ite_le (by decide +kernel) (length_ite_le (by decide +kernel) ?_)
  refine length_ite_le (by decide +kernel) (length_ite_le (by decide +kernel) ?_)
  refine length_ite_le (by decide +kernel) (length_ite_le (Nat.le_add_left 1 11) ?_)
  refine length_ite_le (hletter _) ?_
  rw [List.length_append, hunit, hunit]

lemma length_dumpText (s : String) : (dumpText s).length ≤ 12 * s.utf8ByteSize + 2 := by
  have hchars : ∀ cs : List Char, (cs.flatMap dumpChar).length ≤ 12 * cs.length := by
    intro cs
    induction cs with
    | nil => exact Nat.le_refl 0
    | cons c cs ih =>
        rw [List.flatMap_cons, List.length_append, List.length_cons]
        have := length_dumpChar c
        omega
  have htext := hchars s.toList
  have hsize := length_toList_le s
  rw [dumpText, List.length_cons, List.length_append, List.length_singleton]
  omega

/-- A text and its separator. -/
def withSeparator (ts : List (List Char)) : ℕ := (ts.map fun t => t.length + 1).sum

lemma length_joined_le (ts : List (List Char)) : (joined ts).length ≤ withSeparator ts := by
  induction ts with
  | nil => exact Nat.le_refl 0
  | cons t ts ih =>
      rw [withSeparator, List.map_cons, List.sum_cons]
      cases ts with
      | nil =>
        rw [joined]
        omega
      | cons u ts =>
          rw [joined, List.length_append, List.length_cons]
          rw [withSeparator] at ih
          omega

/-- The length of the members before they are joined. -/
def memberLengths (ms : List (String × List Char)) : ℕ :=
  withSeparator (ms.map fun p => dumpText p.1 ++ ':' :: p.2)

lemma memberLengths_insert (p : String × List Char) (ms : List (String × List Char)) :
    memberLengths (insertMember p ms) = memberLengths (p :: ms) := by
  induction ms with
  | nil => rfl
  | cons q rest ih =>
      rw [insertMember]
      split_ifs
      · rfl
      · simp only [memberLengths, withSeparator, List.map_cons, List.sum_cons] at ih ⊢
        omega

mutual

lemma length_dumps_le : ∀ x : Json, (dumps x).length ≤ dumpBound x
  | .null => Nat.le_refl 4
  | .bool b => by cases b <;> decide
  | .int n => length_toList_le _
  | .float _ => Nat.le_refl 0
  | .str s => length_dumpText s
  | .arr xs => by
      have h := elements_le xs
      have hjoined := length_joined_le (dumpElements xs)
      rw [dumps, dumpBound, List.length_cons, List.length_append, List.length_singleton]
      omega
  | .obj members => by
      have h := members_le members
      have hjoined := length_joined_le ((dumpMembers members).map fun p => dumpText p.1 ++ ':' :: p.2)
      rw [memberLengths] at h
      rw [dumps, dumpBound, List.length_cons, List.length_append, List.length_singleton]
      omega

lemma elements_le : ∀ xs : List Json, withSeparator (dumpElements xs) ≤ elementsBound xs
  | [] => Nat.le_refl 0
  | x :: xs => by
      have h := length_dumps_le x
      have hrest := elements_le xs
      rw [withSeparator] at hrest
      rw [dumpElements, elementsBound, withSeparator, List.map_cons, List.sum_cons]
      omega

lemma members_le : ∀ members : List (String × Json),
    memberLengths (dumpMembers members) ≤ membersBound members
  | [] => Nat.le_refl 0
  | (name, x) :: rest => by
      have h := length_dumps_le x
      have hrest := members_le rest
      have hname := length_dumpText name
      rw [memberLengths, withSeparator] at hrest
      rw [dumpMembers, membersBound, memberLengths_insert, memberLengths, withSeparator, List.map_cons,
        List.map_cons, List.sum_cons, List.length_append, List.length_cons]
      dsimp only
      omega

end

/-- `resultOf`, with the bound in the place of the length. -/
def boundedResult (e : KernelEvidence) (client : Client) (copy : Bool) (selected : List Selected)
    (queueSha256 : String) : Join JoinResult := do
  let digest ← hex (.str queueSha256) 64 "queue trace hash" false
  let hashes := (e.hashes.entries.foldr insertName []).filter fun p => p.1 ≠ "client_queue"
  let result : JoinResult := { client, copy, run := e.run, context := e.context, selected,
                               inputs := hashes ++ [("client_queue", String.ofList digest)] }
  need (dumpBound result.document + 1 ≤ maxOutputBytes)
    (refusal "normalized join result exceeds its bound")
  need (¬(keysOf result.document).any (fun key =>
      ["timestamp", "fd", "dma", "pointer", "lease", "bytes"].any (within · key)) = true)
    (refusal "normalized join result contains a forbidden raw field")
  return result

lemma resultOf_of_bounded {e : KernelEvidence} {client : Client} {copy : Bool}
    {selected : List Selected} {queueSha256 : String} {result : JoinResult}
    (h : boundedResult e client copy selected queueSha256 = .ok result) :
    resultOf e client copy selected queueSha256 = .ok result := by
  simp only [boundedResult, resultOf, Except.bind_ok, need_ok, Except.pure_ok] at h ⊢
  obtain ⟨digest, hdigest, u, hbound, v, hkeys, hresult⟩ := h
  exact ⟨digest, hdigest, u, Nat.le_trans (Nat.succ_le_succ (length_dumps_le _)) hbound, v, hkeys, hresult⟩

/-! ### Two pictures -/

/-- The evidence of one picture, of count 5. -/
def oneEvidence : KernelEvidence :=
  let digest := String.ofList (List.replicate 64 '0')
  { run := 1
    context := 1
    childPid := 1
    requests := [.obj [("pic", .int 1), ("target", .int 6), ("poc", .int 5)]]
    associations := [(∅ : Dict String ℤ).update [("pic", 1), ("poc", 5), ("system_frame_number", 0)]]
    referenceRecords :=
      [(∅ : Dict String ℤ).update [("picture", 1), ("kind", 1), ("buffer", 6), ("writer", 1),
        ("completed", 0), ("allocation", 9)],
       (∅ : Dict String ℤ).update [("picture", 1), ("kind", 2), ("buffer", 6), ("writer", 1),
        ("completed", 1), ("result", 5), ("allocation", 9)]]
    hashes := (∅ : Dict String String).update [("execution", digest), ("v4l2_trace", digest),
      ("command_snapshot", digest), ("reference_snapshot", digest)] }

/-- The evidence of two pictures, the second of which is the first to be shown. -/
def pairEvidence : KernelEvidence :=
  { oneEvidence with
    requests := [.obj [("pic", .int 1), ("target", .int 6), ("poc", .int 5)],
      .obj [("pic", .int 2), ("target", .int 7), ("poc", .int 2)]]
    associations := [(∅ : Dict String ℤ).update [("pic", 1), ("poc", 5), ("system_frame_number", 0)],
      (∅ : Dict String ℤ).update [("pic", 2), ("poc", 2), ("system_frame_number", 1)]]
    referenceRecords := oneEvidence.referenceRecords ++
      [(∅ : Dict String ℤ).update [("picture", 2), ("kind", 1), ("buffer", 7), ("writer", 2),
        ("completed", 0), ("allocation", 10)],
       (∅ : Dict String ℤ).update [("picture", 2), ("kind", 2), ("buffer", 7), ("writer", 2),
        ("completed", 1), ("result", 5), ("allocation", 10)]] }

/-- An output of the report. -/
def pairOutput (allocation writer request : String) (capture frame : ℤ) : Json :=
  .obj [("run", .arr [.str "0000000000000001", .str "0000000000000002"]),
    ("context_generation", .str "0000000000000001"), ("session", .str "0000000000000001"),
    ("allocation_generation", .str allocation), ("writer", .str writer),
    ("submitted", .str "0000000000000001"), ("completed", .str "0000000000000001"),
    ("capture_index", .int capture), ("copied", .bool false), ("sha256", .null),
    ("system_frame_number", .int frame), ("request", .str request)]

/-- The report of the two pictures, in the order in which they are shown. -/
def pairReport : Json :=
  .obj [("schema", .str "omarchy.hevc.gst-observer-result/v1"), ("count", .int 2),
    ("outputs", .arr
      [pairOutput "0000000000000004" "0000000000000007" "0000000000000005" 7 1,
       pairOutput "0000000000000003" "0000000000000005" "0000000000000004" 6 0])]

/-- An output association of the two pictures, with this count of the first. -/
def pairAssociation (poc : ℤ) : Json :=
  .arr [.obj [("output_index", .int 0), ("pic", .int 2), ("poc", .int 2)],
    .obj [("output_index", .int 1), ("pic", .int 1), ("poc", .int poc)]]

/-- The join of the two pictures. -/
def pairJoin (poc : ℤ) : Join JoinResult :=
  joinGst pairEvidence pairReport (utf8 pairText) (pairAssociation poc) [0, 1] false
    (String.ofList (List.replicate 64 '0'))

/-- The outputs of a report. -/
def reportedOutputs (report : Json) : List Json :=
  match report.get? "outputs" with
  | some (.arr outputs) => outputs
  | _ => []

lemma validate_pairReport :
    validateReport pairReport .gst [0, 1] false = .ok (reportedOutputs pairReport) := by
  have haccepted : ((validateReport pairReport .gst [0, 1] false).toOption.any fun _ => true) = true := by
    decide +kernel
  obtain ⟨outputs, hreport, -⟩ := ok_of_any haccepted
  obtain ⟨_, _, hvalid⟩ := validateReport_ok.mp hreport
  rw [hreport, reportedOutputs, hvalid.array]

/-- The bridge of the rows: the counts of the requests. -/
def pairBridged : Dict ℕ Bridged :=
  ((∅ : Dict ℕ Bridged).set 0 ⟨oneRow, 1, 5⟩).set 1 ⟨secondRow, 2, 2⟩

lemma bridgeOf_row {rows : List Association} {row : GstRow} {picture count : ℤ}
    (h : ((bridgeOf pairEvidence rows row).toOption.any fun b =>
      b.row = row ∧ b.picture = picture ∧ b.poc = count) = true) :
    bridgeOf pairEvidence rows row = .ok ⟨row, picture, count⟩ := by
  obtain ⟨⟨row', picture', count'⟩, hok, htest⟩ := ok_of_any h
  obtain ⟨rfl, rfl, rfl⟩ := of_decide_eq_true htest
  exact hok

lemma pairSelected : ∃ result, (do
      let selected ← (reportedOutputs pairReport).mapM (selectGst pairEvidence pairBridged)
      boundedResult pairEvidence .gst false selected (String.ofList (List.replicate 64 '0')) :
        Join JoinResult) = .ok result ∧
          decide (result.selected.map (fun s => (s.picture, s.poc)) = [(2, 2), (1, 5)]) = true :=
  ok_of_any (by decide +kernel)

lemma pairJoin_selected {poc : ℤ} (hrows : parseAssociations (pairAssociation poc) 2 =
      .ok [⟨0, 2, 2⟩, ⟨1, 1, poc⟩])
    (hfirst : ((bridgeOf pairEvidence [⟨0, 2, 2⟩, ⟨1, 1, poc⟩] oneRow).toOption.any fun b =>
      b.row = oneRow ∧ b.picture = 1 ∧ b.poc = 5) = true)
    (hsecond : ((bridgeOf pairEvidence [⟨0, 2, 2⟩, ⟨1, 1, poc⟩] secondRow).toOption.any fun b =>
      b.row = secondRow ∧ b.picture = 2 ∧ b.poc = 2) = true) :
    ∃ result, pairJoin poc = .ok result ∧
      result.selected.map (fun s => (s.picture, s.poc)) = [(2, 2), (1, 5)] := by
  obtain ⟨result, hok, htest⟩ := pairSelected
  have hcheck : (pairEvidence.check.toOption.any fun _ => true) = true := by decide +kernel
  obtain ⟨u, hcheck, -⟩ := ok_of_any hcheck
  have hframes : (pairEvidence.associations.mapM (·.get? "system_frame_number")) = some [0, 1] := by
    decide +kernel
  have hbridge : bridgeQueue pairEvidence [⟨0, 2, 2⟩, ⟨1, 1, poc⟩] pairRows ∅ = .ok pairBridged := by
    simp only [pairRows, bridgeQueue, Except.bind_ok]
    exact ⟨_, bridgeOf_row hfirst, _, bridgeOf_row hsecond, rfl⟩
  refine ⟨result, ?_, of_decide_eq_true htest⟩
  have hlength : pairEvidence.requests.length = 2 := rfl
  rw [pairJoin, joinGst, hlength]
  simp only [Except.bind_ok, found_ok, need_ok] at hok ⊢
  obtain ⟨selected, hselected, hresult⟩ := hok
  exact ⟨u, hcheck, _, validate_pairReport, _, parse_pairRows, _, hrows, [0, 1], hframes, _, hbridge,
    (), rfl, selected, hselected, resultOf_of_bounded hresult⟩

lemma pairJoin_ok : ∃ result, pairJoin 5 = .ok result := by
  obtain ⟨result, hjoin, -⟩ :=
    @pairJoin_selected 5 (by decide +kernel) (by decide +kernel) (by decide +kernel)
  exact ⟨result, hjoin⟩

/-- The entries agree where the output associations have the counts of the requests. -/
theorem pairJoin_agrees : ∃ result, pairJoin 5 = .ok result ∧
    ∃ rows, parseAssociations (pairAssociation 5) pairEvidence.requests.length = .ok rows ∧
      ((∀ s ∈ result.selected, PocAgrees pairEvidence rows s) ↔
        (Client.gst = .gst → ∀ frame ∈ [0, 1], RawAgrees pairEvidence rows frame)) := by
  obtain ⟨result, hjoin⟩ := pairJoin_ok
  exact ⟨result, hjoin, joined_poc_agrees_iff (show join .gst _ _ _ _ _ _ _ = _ from hjoin)⟩

/-- The Gst join accepts an output association that has another count. -/
theorem other_poc_accepted : ¬∀ (client : Client) (e : KernelEvidence) (report associations : Json)
    (queueRaw : List UInt8) (selectors : List ℤ) (copy : Bool) (queueSha256 : String)
    (result : JoinResult) (rows : List Association),
      join client e report queueRaw associations selectors copy queueSha256 = .ok result →
        parseAssociations associations e.requests.length = .ok rows →
          ∀ s ∈ result.selected, PocAgrees e rows s := by
  intro hall
  have hrows : parseAssociations (pairAssociation 7) 2 = .ok [⟨0, 2, 2⟩, ⟨1, 1, 7⟩] := by
    decide +kernel
  obtain ⟨result, hjoin, hselected⟩ :=
    pairJoin_selected hrows (by decide +kernel) (by decide +kernel)
  obtain ⟨s, hs, heq⟩ : ∃ s ∈ result.selected, (s.picture, s.poc) = (1, 5) :=
    List.mem_map.mp (hselected ▸ List.mem_cons_of_mem _ (List.mem_singleton_self _))
  obtain ⟨hpicture, hpoc⟩ := Prod.mk.inj heq
  obtain ⟨_, row, hrow, hpic, hsame⟩ := hall .gst _ _ _ _ _ _ _ result _ hjoin hrows s hs
  rw [hpicture] at hpic
  rw [hpoc] at hsame
  rcases List.mem_pair.mp hrow with rfl | rfl
  · exact absurd hpic (by decide)
  · exact absurd hsame (by decide)

end OmarchyM1Video.SameRun
