import Mathlib.Data.List.Forall2
import OmarchyM1Video.SameRun.LogOrder

/-!
The identity of a joined entry: its row of the queue log, its picture and its kernel records.

A row is told by what the report and the log name it by (`QueueKey`).  For the VA client that is
not enough: two rows that differ in their surface generation only are two identities to
`parse_va_queue`, and the report has no surface generation.  The entry has the one of its row.

* `QueueKey`, `queueKeys`: the rows of either log, by what they are named by;
* `Reports`: an output names a row; `Bridge`: a selector names a picture;
* `Lifetime`: the kernel records of a picture;
* `JoinedEntry`, `join_sound`: what a joined entry is;
* `two_rows_reported`: two rows of a VA log that one output names.
-/

namespace OmarchyM1Video.SameRun

open OmarchyM1Video.Py
open OmarchyM1Video.ReferenceContent (Client Shared IsHex hasKeys)

/-! ### Rows of a queue -/

/-- What a row of a queue log is named by. -/
structure QueueKey where
  run : List Char
  context : ℤ
  allocation : ℤ
  writer : ℤ
  capture : ℤ
  /-- The request generation and the frame, of a Gst row. -/
  own : Option (ℤ × ℤ)
  /-- The surface generation, of a VA row. -/
  surface : Option String
  deriving DecidableEq

/-- A row of the VA queue. -/
def VaIdentity.key (row : VaIdentity) : QueueKey where
  run := row.run
  context := row.context
  allocation := row.allocation
  writer := row.writer
  capture := row.target
  own := none
  surface := some (intText row.surface)

/-- A row of the Gst queue. -/
def GstRow.key (row : GstRow) : QueueKey where
  run := row.run.1 ++ row.run.2
  context := row.context
  allocation := row.allocation
  writer := row.writer
  capture := row.capture
  own := some (row.request, row.frame)
  surface := none

/-- The rows of the queue log of a client. -/
def queueKeys (client : Client) (raw : List UInt8) (expected : ℕ) : Join (List QueueKey) :=
  match client with
  | .va => do
      let queue ← parseVaQueue raw expected
      return queue.map fun p => p.2.key
  | .gst => do
      let queue ← parseGstQueue raw expected
      return queue.map GstRow.key

/-! ### Entries -/

/-- An output of a report names a row. -/
structure Reports (output : Json) (key : QueueKey) : Prop where
  run : ∃ r₀ r₁, output.get? "run" = some (.arr [.str (String.ofList r₀),
      .str (String.ofList r₁)]) ∧
    key.run = r₀ ++ r₁
  context : ∃ s, NonzeroHex output "context_generation" s ∧ key.context = hexValue s
  allocation : ∃ s, NonzeroHex output "allocation_generation" s ∧ key.allocation = hexValue s
  writer : ∃ s, NonzeroHex output "writer" s ∧ key.writer = hexValue s
  capture : output.get? "capture_index" = some (.int key.capture)
  own : ∀ request frame, key.own = some (request, frame) →
    (∃ s, NonzeroHex output "request" s ∧ request = hexValue s) ∧
      output.get? "system_frame_number" = some (.int frame)

/-- A frame of the raw trace is of this picture. -/
def RawBridge (e : KernelEvidence) (frame picture : ℤ) : Prop :=
  ∃ raw ∈ e.associations, raw.get? "system_frame_number" = some frame ∧
      raw.get? "pic" = some picture

/-- A selector is bridged to a picture. -/
def Bridge (e : KernelEvidence) (rows : List Association) (selector picture : ℤ) : Client → Prop
  | .va => ∃ row ∈ rows, (row.outputIndex : ℤ) = selector ∧ row.pic = picture
  | .gst => RawBridge e selector picture

/-- The row of this index is of this picture. -/
def RowPicture (e : KernelEvidence) (index : ℕ) (key : QueueKey) (picture : ℤ) : Client → Prop
  | .va => picture = index + 1
  | .gst => ∃ request frame, key.own = some (request, frame) ∧ RawBridge e frame picture

/-- The records of a picture of one kind. -/
def kindRows (e : KernelEvidence) (picture kind : ℤ) : List (Dict String ℤ) :=
  e.referenceRecords.filter fun row => row.get? "picture" = some picture ∧
      row.get? "kind" = some kind

/-- A picture has one START and one DONE, on this buffer and with this allocation, which it has
written and which has been completed. -/
structure Lifetime (e : KernelEvidence) (picture capture allocation : ℤ)
    (start done : Dict String ℤ) : Prop where
  starts : kindRows e picture 1 = [start]
  dones : kindRows e picture 2 = [done]
  buffer : start.get? "buffer" = some capture ∧ done.get? "buffer" = some capture
  allocation : start.get? "allocation" = some allocation ∧ done.get? "allocation" = some allocation
  writer : start.get? "writer" = some picture ∧ done.get? "writer" = some picture
  completed : start.get? "completed" = some 0 ∧ done.get? "completed" = some 1 ∧
    done.get? "result" = some 5

/-- An entry of an output, its row, its picture and its kernel records. -/
structure JoinedEntry (client : Client) (e : KernelEvidence) (keys : List QueueKey)
    (rows : List Association) (output : Json) (s : Selected) : Prop where
  selector : output.get? (coordinate client).1 = some (.int s.value)
  row : ∃! index : ℕ, ∃ key, keys[index]? = some key ∧ Reports output key ∧
    key.surface = s.surfaceGeneration
  picture : ∀ (index : ℕ) key, keys[index]? = some key → Reports output key →
    key.surface = s.surfaceGeneration → RowPicture e index key s.picture client
  bridge : Bridge e rows s.value s.picture client
  kernel : ∃ capture request target allocation start done,
    output.get? "capture_index" = some (.int capture) ∧ requestOf e s.picture = some request ∧
      request.get? "target" = some target ∧ target.eqInt capture = true ∧
        Lifetime e s.picture capture allocation start done ∧ s.kernelAllocation = intText allocation

section Entries

variable {client : Client} {e : KernelEvidence} {output : Json} {copy : Bool} {n : ℤ}
    {shared : Shared}
  {s : Selected} {rows : List Association} {picture capture : ℤ} {start done : Dict String ℤ}

/-! ### Fields of an output -/

lemma intItem_ok {name : String} : intItem output name = .ok n ↔
    output.get? name = some (.int n) := by
  simp only [intItem, Except.bind_ok, Json.item_ok]
  constructor
  · rintro ⟨v, hv, h⟩
    cases v with
    | int m => rwa [Except.pure_ok.mp h] at hv
    | _ => exact absurd h (by simp)
  · intro h
    exact ⟨_, h, rfl⟩

lemma hexItem_of {name : String} {m : ℕ} (h : hexItem output name = .ok m) {t : List Char}
    (ht : NonzeroHex output name t) : m = hexValue t := by
  simp only [hexItem, textItem, Except.bind_ok, Json.item_ok, Except.pure_ok] at h
  obtain ⟨text, ⟨v, hv, htext⟩, rfl⟩ := h
  obtain rfl := Option.some.inj (ht.1.symm.trans hv)
  rw [← Except.pure_ok.mp htext, String.toList_ofList]

lemma runItem_of {r : List Char × List Char} (h : runItem output = .ok r) {r₀ r₁ : List Char}
    (hr : output.get? "run" = some (.arr [.str (String.ofList r₀), .str (String.ofList r₁)])) :
    r = (r₀, r₁) := by
  simp only [runItem, Except.bind_ok, Json.item_ok] at h
  obtain ⟨v, hv, htext⟩ := h
  obtain rfl := Option.some.inj (hr.symm.trans hv)
  rw [← Except.pure_ok.mp htext, String.toList_ofList, String.toList_ofList]

/-! ### Kernel records -/

lemma kindRows_eq (kind : ℤ) (hkind : kind = 1 ∨ kind = 2) :
    kindRows e picture kind =
      (lifetimeRows e picture).filter fun row => row.get? "kind" = some kind := by
  rw [kindRows, lifetimeRows, List.filter_filter]
  refine List.filter_congr fun row _ => ?_
  rcases hkind with rfl | rfl
  · by_cases h : row.get? "kind" = some 1 <;> simp [h]
  · by_cases h : row.get? "kind" = some 2 <;> simp [h]

lemma getInt_same {row : Dict String ℤ} {key : String} (h : (getInt row key).same (.int n) = true) :
    row.get? key = some n := by
  have heq := Json.same_eqInt h n
  rw [getInt] at heq
  cases hget : row.get? key with
  | none =>
      rw [hget] at heq
      simp [Json.eqInt] at heq
  | some m =>
      rw [hget] at heq
      simpa [Json.eqInt] using heq

lemma referencePair_ok (h : referencePair e picture (.int capture) = .ok (start, done)) :
    ∃ allocation, start.get? "allocation" = some allocation ∧
      Lifetime e picture capture allocation start done := by
  unfold referencePair at h
  split at h
  · next start' done' hrows =>
      simp only [Except.bind_ok, need_ok] at h
      obtain ⟨-, hkinds, -, hbuffer, -, hstart, -, hdone, h⟩ := h
      split at h
      · exact absurd h (by simp)
      · next hchanged =>
          simp only [Except.bind_ok, Except.pure_ok, Prod.mk.injEq] at h
          obtain ⟨a, ha, rfl, rfl⟩ := h
          have halloc : start'.get? "allocation" = some a := by
            rw [getInt] at ha
            cases hget : start'.get? "allocation" with
            | none =>
                rw [hget] at ha
                exact absurd ha (by simp [uint])
            | some m =>
                rw [hget, Option.map_some, Option.getD_some, uint] at ha
                split_ifs at ha
                simp only [Except.bind_ok, need_ok, Except.pure_ok] at ha
                obtain ⟨-, -, rfl⟩ := ha
                rfl
          have hsame : start'.get? "allocation" = done'.get? "allocation" := by
            have hnone := List.find?_eq_none.mp hchanged "allocation" (by simp)
            simpa using hnone
          have hcapture := getInt_same hbuffer.2
          refine ⟨a, halloc, ?_, ?_, ⟨hbuffer.1.trans hcapture, hcapture⟩,
            ⟨halloc, hsame ▸ halloc⟩, ⟨hstart.1, hdone.1⟩, hstart.2, hdone.2.1, hdone.2.2⟩
          · rw [kindRows_eq 1 (.inl rfl), hrows]
            simp [hkinds.1, hkinds.2]
          · rw [kindRows_eq 2 (.inr rfl), hrows]
            simp [hkinds.1, hkinds.2]
  · exact absurd h (by simp)

/-! ### The VA client -/

lemma uint_int {value : Json} {bits : ℕ} {name : String} {nonzero : Bool}
    (h : uint value bits name nonzero = .ok n) : value = .int n ∧ 0 ≤ n := by
  unfold uint at h
  split at h
  · split_ifs at h with hrange
    simp only [Except.bind_ok, need_ok, Except.pure_ok] at h
    obtain ⟨-, -, rfl⟩ := h
    exact ⟨rfl, hrange.1⟩
  · exact absurd h (by simp)

/-- The row of an identity has its target, and its surface generation is not negative. -/
lemma vaIdentity_ok {index : ℕ} {row : Json} {identity : VaIdentity}
    (h : vaIdentity index row = .ok identity) :
    row.get? "target" = some (.int identity.target) ∧ 0 ≤ identity.surface := by
  simp only [vaIdentity, Except.bind_ok, need_ok, Json.item_ok, Except.pure_ok] at h
  obtain ⟨-, -, _, -, -, -, _, -, _, -, -, -, -, -, target, htarget, t, ht, _, -, -, -,
    _, -, _, -, _, -,
    _, -, _, -, _, -, _, -, surface, hsurface, _, -, _, -, rfl⟩ := h
  obtain ⟨rfl, -⟩ := uint_int ht
  exact ⟨htarget, (uint_int hsurface).2⟩

/-- The rows and their identities, no two of which are the same. -/
lemma checkVaQueue_ok {index : ℕ} {seen identities : List VaIdentity} {lines : List Json}
    (h : checkVaQueue index seen lines = .ok identities) :
    List.Forall₂ (fun row identity => row.get? "target" = some (.int identity.target) ∧
      0 ≤ identity.surface) lines identities ∧
      identities.Nodup ∧ ∀ identity ∈ identities, identity ∉ seen := by
  induction lines generalizing index seen identities with
  | nil =>
      obtain rfl := Except.ok.inj h
      exact ⟨.nil, List.nodup_nil, by simp⟩
  | cons row lines ih =>
      simp only [checkVaQueue, Except.bind_ok, need_ok, Except.pure_ok] at h
      obtain ⟨identity, hidentity, -, -, -, hnew, rest, hrest, rfl⟩ := h
      obtain ⟨hall, hnodup, hseen⟩ := ih hrest
      refine ⟨.cons (vaIdentity_ok hidentity) hall,
        List.nodup_cons.mpr ⟨fun hmem => ?_, hnodup⟩, ?_⟩
      · exact hseen identity hmem List.mem_cons_self
      · rw [List.forall_mem_cons]
        exact ⟨hnew, fun other hmem hold => hseen other hmem (List.mem_cons_of_mem _ hold)⟩

/-- A queue of the VA client that is accepted. -/
structure VaQueue (queue : List (Json × VaIdentity)) : Prop where
  nodup : (queue.map Prod.snd).Nodup
  target : ∀ p ∈ queue, p.1.get? "target" = some (.int p.2.target)
  surface : ∀ p ∈ queue, 0 ≤ p.2.surface

lemma parseVaQueue_ok {raw : List UInt8} {expected : ℕ} {queue : List (Json × VaIdentity)}
    (h : parseVaQueue raw expected = .ok queue) : VaQueue queue := by
  simp only [parseVaQueue, Except.bind_ok, need_ok, Except.pure_ok] at h
  obtain ⟨lines, -, -, -, identities, hidentities, rfl⟩ := h
  obtain ⟨hall, hnodup, -⟩ := checkVaQueue_ok hidentities
  have hzip := List.forall₂_iff_zip.mp hall
  refine ⟨?_, fun p hp => (hzip.2 hp).1, fun p hp => (hzip.2 hp).2⟩
  rwa [List.map_snd_zip (Nat.le_of_eq hzip.1.symm)]

/-- A surface generation is told by its text. -/
lemma intText_inj {m : ℤ} (hn : 0 ≤ n) (hm : 0 ≤ m) (h : intText n = intText m) : n = m := by
  obtain ⟨n, rfl⟩ := Int.eq_ofNat_of_zero_le hn
  obtain ⟨m, rfl⟩ := Int.eq_ofNat_of_zero_le hm
  have htext : decimal n = decimal m := String.ofList_injective h
  rw [← intOf_decimal n, htext, intOf_decimal]

/-- Two rows of a VA queue that are named the same are one. -/
lemma VaIdentity.key_inj {a b : VaIdentity} (ha : 0 ≤ a.surface) (hb : 0 ≤ b.surface)
    (h : a.key = b.key) : a = b := by
  simp only [VaIdentity.key, QueueKey.mk.injEq, Option.some.injEq] at h
  obtain ⟨hrun, hcontext, hallocation, hwriter, htarget, -, hsurface⟩ := h
  have hgeneration := intText_inj ha hb hsurface
  cases a
  cases b
  simp_all

/-- What an output names a row by, it names no other row by. -/
lemma Reports.key_eq {a b : QueueKey} (ha : Reports output a) (hb : Reports output b)
    (hown : a.own = b.own) (hsurface : a.surface = b.surface) : a = b := by
  obtain ⟨r₀, r₁, hr, hrun⟩ := ha.run
  obtain ⟨t₀, t₁, ht, hrun'⟩ := hb.run
  obtain ⟨s₁, hs₁, hcontext⟩ := ha.context
  obtain ⟨s₂, hs₂, hcontext'⟩ := hb.context
  obtain ⟨s₃, hs₃, hallocation⟩ := ha.allocation
  obtain ⟨s₄, hs₄, hallocation'⟩ := hb.allocation
  obtain ⟨s₅, hs₅, hwriter⟩ := ha.writer
  obtain ⟨s₆, hs₆, hwriter'⟩ := hb.writer
  have hexEq : ∀ {name : String} {s t : List Char}, NonzeroHex output name s →
      NonzeroHex output name t → s = t := by
    intro name s t hs ht
    have heq := hs.1.symm.trans ht.1
    simpa [String.ofList_inj] using heq
  have hruns := hr.symm.trans ht
  simp only [Option.some.injEq, Json.arr.injEq, List.cons.injEq, Json.str.injEq, String.ofList_inj,
    and_true] at hruns
  have hcapture := ha.capture.symm.trans hb.capture
  simp only [Option.some.injEq, Json.int.injEq] at hcapture
  cases a
  cases b
  simp_all [hexEq hs₁ hs₂, hexEq hs₃ hs₄, hexEq hs₅ hs₆]

/-- The row that an entry of the VA client is of. -/
lemma selectVa_row {queue : List (Json × VaIdentity)} (h : selectVa e queue rows output = .ok s)
    (hqueue : VaQueue queue) (houtput : ReportOutput .va copy output n shared)
    (hrows : ∀ row ∈ rows, 0 < row.pic) :
    s.value = n ∧ (∃ row ∈ rows, (row.outputIndex : ℤ) = n ∧ row.pic = s.picture) ∧
      ∃ (index : ℕ) (row : Json) (identity : VaIdentity) (start done : Dict String ℤ)
          (allocation : ℤ),
        queue[index]? = some (row, identity) ∧ s.picture = index + 1 ∧
          Reports output identity.key ∧ s.surfaceGeneration = some (intText identity.surface) ∧
          row.get? "target" = some (.int identity.target) ∧
          Lifetime e s.picture identity.target allocation start done ∧
          s.kernelAllocation = intText allocation := by
  simp only [selectVa, Except.bind_ok, found_ok, need_ok, Prod.exists, Except.pure_ok, intItem_ok,
    Json.item_ok] at h
  obtain ⟨ordinal, hordinal, association, hassociation, row, identity, hrow, run₀, run₁, hrun, -,
    hruns, context, hcontext, -, hcontexts, allocation, hallocation, -, hallocations,
        writer, hwriter,
    -, hwriters, capture, hcapture, target, htarget, -, hcaptures, _, -, -, -, start, done, hpair,
    client, -, kernel, hkernel, rfl⟩ := h
  obtain rfl : n = ordinal := by
    have heq := houtput.coordinate.1.symm.trans hordinal
    simpa using heq
  obtain ⟨m, hm, -⟩ := houtput.capture
  obtain rfl : capture = .int m := Option.some.inj (hcapture.symm.trans hm)
  have hmem : (row, identity) ∈ queue := List.mem_of_getElem? hrow
  have htargets := hqueue.target _ hmem
  obtain rfl : target = .int identity.target := Option.some.inj (htarget.symm.trans htargets)
  obtain rfl : identity.target = m := by
    have heq := Json.same_eqInt hcaptures m
    simpa [Json.eqInt] using heq
  have hmemRow := List.mem_of_find?_eq_some hassociation
  have hordinals : (association.outputIndex : ℤ) = n := by
    simpa using List.find?_some hassociation
  have hpic := hrows association hmemRow
  obtain ⟨kernelAllocation, hget, hlifetime⟩ := referencePair_ok hpair
  obtain rfl := Option.some.inj (hget.symm.trans hkernel)
  obtain ⟨s₁, hs₁⟩ := houtput.allocation
  obtain ⟨s₂, hs₂⟩ := houtput.writer
  refine ⟨rfl, ⟨association, hmemRow, hordinals, rfl⟩, _, row, identity, start, done,
    kernelAllocation,
    hrow, ?_, ?_, rfl, htargets, hlifetime, rfl⟩
  · dsimp only
    omega
  · have hpairs := runItem_of hrun houtput.run
    obtain ⟨rfl, rfl⟩ := Prod.mk.inj hpairs
    exact {
      run := ⟨_, _, houtput.run, hruns⟩
      context :=
        ⟨_, houtput.context, hcontexts.trans (congrArg _ (hexItem_of hcontext houtput.context))⟩
      allocation := ⟨_, hs₁, hallocations.trans (congrArg _ (hexItem_of hallocation hs₁))⟩
      writer := ⟨_, hs₂, hwriters.trans (congrArg _ (hexItem_of hwriter hs₂))⟩
      capture := hm
      own := by simp [VaIdentity.key] }

/-- The key of a row of the VA queue. -/
lemma getElem?_vaKeys {queue : List (Json × VaIdentity)} {index : ℕ} {key : QueueKey} :
    (queue.map fun p => p.2.key)[index]? = some key ↔
      ∃ row identity, queue[index]? = some (row, identity) ∧ identity.key = key := by
  rw [List.getElem?_map, Option.map_eq_some_iff]
  simp only [Prod.exists]

/-- Rows of a VA queue with the same identity are one row. -/
lemma VaQueue.index_eq {queue : List (Json × VaIdentity)} (h : VaQueue queue) {i j : ℕ}
    {row row' : Json} {a b : VaIdentity} (hi : queue[i]? = some (row, a))
    (hj : queue[j]? = some (row', b)) (hkey : a.key = b.key) : i = j := by
  have hab := VaIdentity.key_inj (h.surface _ (List.mem_of_getElem? hi))
    (h.surface _ (List.mem_of_getElem? hj)) hkey
  have hlt : i < (queue.map Prod.snd).length := by
    rw [List.length_map]
    exact (List.getElem?_eq_some_iff.mp hi).1
  refine (List.getElem?_inj hlt h.nodup).mp ?_
  rw [List.getElem?_map, List.getElem?_map, hi, hj, Option.map_some, Option.map_some, hab]

/-- **An entry of the VA client.** -/
theorem selectVa_entry {queue : List (Json × VaIdentity)} {u : Unit}
    (h : selectVa e queue rows output = .ok s) (hqueue : VaQueue queue)
    (houtput : ReportOutput .va copy output n shared) (hrows : ∀ row ∈ rows, 0 < row.pic)
    (hnumbered : numbered e.requests = true) (hlength : queue.length ≤ e.requests.length)
    (hproject : checkProjection 1 queue e.requests = .ok u) :
    s.value = n ∧ JoinedEntry .va e (queue.map fun p => p.2.key) rows output s := by
  obtain ⟨hvalue, hbridge, index, row, identity, start, done, allocation, hrow, hpicture, hreports,
    hsurface, htarget, hlifetime, hallocation⟩ := selectVa_row h hqueue houtput hrows
  have hunique : ∀ (j : ℕ) key, (queue.map fun p => p.2.key)[j]? = some key → Reports output key →
      key.surface = s.surfaceGeneration → j = index := by
    intro j key hkey hreports' hsurface'
    obtain ⟨row', identity', hrow', rfl⟩ := getElem?_vaKeys.mp hkey
    exact hqueue.index_eq hrow' hrow
      (hreports'.key_eq hreports rfl (hsurface'.trans hsurface))
  have hlt : index < e.requests.length :=
    Nat.lt_of_lt_of_le (List.getElem?_eq_some_iff.mp hrow).1 hlength
  obtain ⟨request, hrequest⟩ : ∃ request, e.requests[index]? = some request :=
    ⟨_, List.getElem?_eq_getElem hlt⟩
  -- The request has the target of its row.
  obtain ⟨target, htargets, hsame⟩ :
      ∃ target, request.get? "target" = some target ∧ target.eqInt identity.target = true := by
    have hprojection := checkProjection_ok hproject hrow hrequest
    have hget := htarget
    rw [← get?_vaProjection (by decide)] at hget
    obtain ⟨w, hw, hvalues⟩ := Json.same_get? hprojection hget
    rw [get?_vaProjection (by decide)] at hw
    refine ⟨w, hw, ?_⟩
    rw [← Json.same_eqInt hvalues]
    exact decide_eq_true rfl
  refine ⟨hvalue, ?_, ⟨index, ⟨_, getElem?_vaKeys.mpr ⟨_, _, hrow, rfl⟩, hreports,
    hsurface.symm⟩, ?_⟩,
    ?_, ?_, identity.target, request, target, allocation, start, done,
        hreports.capture, ?_, htargets,
    hsame, hlifetime, hallocation⟩
  · rw [hvalue]
    exact houtput.coordinate.1
  · rintro j ⟨key, hkey, hreports', hsurface'⟩
    exact hunique j key hkey hreports' hsurface'
  · intro j key hkey hreports' hsurface'
    rw [hunique j key hkey hreports' hsurface']
    exact hpicture
  · rw [hvalue]
    exact hbridge
  · rw [hpicture]
    exact requestOf_eq hnumbered hrequest

/-! ### The Gst client -/

/-- The raw association of a frame. -/
lemma rawOf_bridge {frame : ℤ} {raw : Dict String ℤ} (hraw : rawOf e frame = some raw)
    (hpicture : raw.get? "pic" = some picture) : RawBridge e frame picture := by
  have hmem := List.mem_of_find?_eq_some hraw
  have hframe := List.find?_some hraw
  exact ⟨raw, List.mem_reverse.mp hmem, of_decide_eq_true hframe, hpicture⟩

lemma parseGstQueue_distinct {raw : List UInt8} {expected : ℕ} {queue : List GstRow}
    (h : parseGstQueue raw expected = .ok queue) : Distinct queue := by
  simp only [parseGstQueue, parseQueueText, Except.bind_ok, need_ok, found_ok, Except.pure_ok,
    Prod.exists] at h
  obtain ⟨_, _, text, _, collected, malformed, _, _, _, _, _, _, hcheck, rfl⟩ := h
  exact (checkQueue_iff.mp hcheck).toDistinct

/-- What is under a frame of the bridge is of a row of the queue. -/
lemma bridgeQueue_mem {queue : List GstRow} {byFrame : Dict ℕ Bridged} {frame : ℕ}
    {bridged : Bridged}
    (h : bridgeQueue e rows queue ∅ = .ok byFrame) (hqueue : Distinct queue)
    (hget : byFrame.get? frame = some bridged) :
    bridged.row ∈ queue ∧ bridgeOf e rows bridged.row = .ok bridged := by
  obtain ⟨all, hall, hentries⟩ :=
    (bridgeQueue_iff hqueue.frames fun _ _ => List.not_mem_nil).mp h
  rw [← Dict.mem_entries_iff, hentries] at hget
  obtain ⟨b, hb, heq⟩ := List.mem_map.mp hget
  obtain ⟨-, rfl⟩ := Prod.mk.inj heq
  obtain ⟨i, hi⟩ := List.getElem?_of_mem hb
  obtain ⟨row, hrow, hok⟩ : ∃ row ∈ queue, bridgeOf e rows row = .ok b := by
    have hlt : i < queue.length := by
      rw [hall.length_eq]
      exact (List.getElem?_eq_some_iff.mp hi).1
    have hrel := (List.forall₂_iff_get.mp hall).2 i hlt (List.getElem?_eq_some_iff.mp hi).1
    refine ⟨queue[i], List.getElem_mem hlt, ?_⟩
    rw [← (List.getElem?_eq_some_iff.mp hi).2]
    exact hrel
  obtain rfl := (bridgeOf_ok hok).1
  exact ⟨hrow, hok⟩

lemma bridgeOf_request {row : GstRow} {bridged : Bridged}
    (h : bridgeOf e rows row = .ok bridged) : RawBridge e row.frame bridged.picture ∧
      ∃ request target, requestOf e bridged.picture = some request ∧
        request.get? "target" = some target ∧ target.eqInt row.capture = true := by
  simp only [bridgeOf, Except.bind_ok, found_ok, need_ok, Except.pure_ok, Json.item_ok] at h
  obtain ⟨raw, hraw, picture, hpicture, request, hrequest, target, htarget, _, hcapture, _, _, _, _,
    rfl⟩ := h
  exact ⟨rawOf_bridge hraw hpicture, request, target, hrequest, htarget, hcapture⟩

/-- The row that an entry of the Gst client is of. -/
lemma selectGst_row {queue : List GstRow} {byFrame : Dict ℕ Bridged}
    (h : selectGst e byFrame output = .ok s) (hbridge : bridgeQueue e rows queue ∅ = .ok byFrame)
    (hqueue : Distinct queue) (houtput : ReportOutput .gst copy output n shared) :
    s.value = n ∧ s.surfaceGeneration = none ∧ ∃ row ∈ queue, (row.frame : ℤ) = n ∧
      Reports output row.key ∧ RawBridge e n s.picture ∧
      ∃ request target allocation start done, requestOf e s.picture = some request ∧
        request.get? "target" = some target ∧ target.eqInt row.capture = true ∧
          Lifetime e s.picture row.capture allocation start done ∧
            s.kernelAllocation = intText allocation := by
  simp only [selectGst, Except.bind_ok, found_ok, need_ok, Prod.exists, Except.pure_ok, intItem_ok,
    Json.item_ok] at h
  obtain ⟨frame, hframe, bridged, hbridged, run₀, run₁, hrun, context, hcontext, allocation,
    hallocation, request, hrequest, writer, hwriter, capture, hcapture, -,
    ⟨hruns, hcontexts, hallocations, hrequests, hwriters, hframes, hcaptures⟩, start, done, hpair,
    client, -, kernel, hkernel, rfl⟩ := h
  obtain rfl : n = frame := by
    have heq := houtput.coordinate.1.symm.trans hframe
    simpa using heq
  obtain ⟨m, hm, -⟩ := houtput.capture
  obtain rfl : capture = .int m := Option.some.inj (hcapture.symm.trans hm)
  obtain rfl : m = bridged.row.capture := of_decide_eq_true hcaptures
  obtain ⟨hmem, hok⟩ := bridgeQueue_mem hbridge hqueue hbridged
  obtain ⟨hraw, kernelRequest, target, hkernelRequest, htarget, hsame⟩ := bridgeOf_request hok
  obtain ⟨kernelAllocation, hget, hlifetime⟩ := referencePair_ok hpair
  obtain rfl := Option.some.inj (hget.symm.trans hkernel)
  obtain ⟨s₁, hs₁⟩ := houtput.allocation
  obtain ⟨s₂, hs₂⟩ := houtput.writer
  obtain ⟨s₃, hs₃⟩ := houtput.own
  refine ⟨rfl, rfl, bridged.row, hmem, hframes, ?_, hframes ▸ hraw, kernelRequest, target,
    kernelAllocation, start, done, hkernelRequest, htarget, hsame, hlifetime, rfl⟩
  have hpairs := runItem_of hrun houtput.run
  obtain ⟨rfl, rfl⟩ := Prod.mk.inj hpairs
  refine {
    run := ⟨_, _, houtput.run, congrArg (fun p => p.1 ++ p.2) hruns⟩
    context := ⟨_, houtput.context,
      congrArg Nat.cast (hcontexts.trans (hexItem_of hcontext houtput.context))⟩
    allocation := ⟨_, hs₁, congrArg Nat.cast (hallocations.trans (hexItem_of hallocation hs₁))⟩
    writer := ⟨_, hs₂, congrArg Nat.cast (hwriters.trans (hexItem_of hwriter hs₂))⟩
    capture := hm
    own := ?_ }
  rintro r f hown
  obtain ⟨rfl, rfl⟩ := Prod.mk.inj (Option.some.inj hown)
  refine ⟨⟨_, hs₃, congrArg Nat.cast (hrequests.trans (hexItem_of hrequest hs₃))⟩, ?_⟩
  rw [hframes]
  exact hframe

/-- **An entry of the Gst client.** -/
theorem selectGst_entry {queue : List GstRow} {byFrame : Dict ℕ Bridged}
    (h : selectGst e byFrame output = .ok s) (hbridge : bridgeQueue e rows queue ∅ = .ok byFrame)
    (hqueue : Distinct queue) (houtput : ReportOutput .gst copy output n shared) :
    s.value = n ∧ JoinedEntry .gst e (queue.map GstRow.key) rows output s := by
  obtain ⟨hvalue, hsurface, row, hmem, hframe, hreports, hraw, request, target, allocation, start,
    done, hrequest, htarget, hsame, hlifetime, hallocation⟩ :=
        selectGst_row h hbridge hqueue houtput
  obtain ⟨index, hindex⟩ := List.getElem?_of_mem hmem
  have hkeys : ∀ (j : ℕ) key, (queue.map GstRow.key)[j]? = some key → Reports output key →
      ∃ row', queue[j]? = some row' ∧ key = row'.key ∧ (row'.frame : ℤ) = n := by
    intro j key hkey hreports'
    rw [List.getElem?_map, Option.map_eq_some_iff] at hkey
    obtain ⟨row', hrow', rfl⟩ := hkey
    have hcoordinate := (hreports'.own _ _ rfl).2.symm.trans houtput.coordinate.1
    exact ⟨row', hrow', rfl, by simpa using hcoordinate⟩
  refine ⟨hvalue, ?_, ⟨index, ⟨row.key, ?_, hreports, hsurface.symm⟩, ?_⟩, ?_, ?_,
    row.capture, request,
    target, allocation, start, done, hreports.capture, hrequest, htarget, hsame, hlifetime,
    hallocation⟩
  · rw [hvalue]
    exact houtput.coordinate.1
  · rw [List.getElem?_map, hindex, Option.map_some]
  · rintro j ⟨key, hkey, hreports', -⟩
    obtain ⟨row', hrow', -, hframe'⟩ := hkeys j key hkey hreports'
    have hlt : j < (queue.map GstRow.frame).length := by
      rw [List.length_map]
      exact (List.getElem?_eq_some_iff.mp hrow').1
    have hframes : row'.frame = row.frame := by omega
    refine (List.getElem?_inj hlt hqueue.frames).mp ?_
    rw [List.getElem?_map, List.getElem?_map, hrow', hindex, Option.map_some,
      Option.map_some, hframes]
  · intro j key hkey hreports' _
    obtain ⟨row', -, rfl, hframe'⟩ := hkeys j key hkey hreports'
    exact ⟨row'.request, row'.frame, rfl, hframe' ▸ hraw⟩
  · rw [hvalue]
    exact hraw

/-! ### The joins -/

/-- The entries of the outputs, each of the coordinate of its output. -/
lemma entries_of_outputs {select : Json → Join Selected} {outputs : List Json}
    {selected : List Selected} {observed : List ℤ} {P : Json → Selected → Prop}
    (h : outputs.mapM select = .ok selected)
    (hobserved :
      List.Forall₂ (fun output n => ReportOutput client copy output n shared) outputs observed)
    (hentry : ∀ output n s, select output = .ok s → ReportOutput client copy output n shared →
      s.value = n ∧ P output s) :
    selected.map Selected.value = observed ∧ List.Forall₂ P outputs selected := by
  induction hobserved generalizing selected with
  | nil =>
      obtain rfl : [] = selected := by simpa using h
      exact ⟨rfl, .nil⟩
  | cons houtput _ ih =>
      simp only [List.mapM_cons, Except.bind_ok, Except.pure_ok] at h
      obtain ⟨s, hs, rest, hrest, rfl⟩ := h
      obtain ⟨hvalue, hP⟩ := hentry _ _ s hs houtput
      obtain ⟨hvalues, hall⟩ := ih hrest
      refine ⟨?_, .cons hP hall⟩
      rw [List.map_cons, hvalue, hvalues]

/-- Selectors of one picture are one. -/
lemma bridge_inj {m : ℤ} (hrows : (rows.map Association.pic).Nodup)
    (hpictures : (e.associations.map (·.get? "pic")).Nodup)
    (hn : Bridge e rows n picture client) (hm : Bridge e rows m picture client) : n = m := by
  cases client with
  | va =>
      obtain ⟨row, hrow, rfl, hpic⟩ := hn
      obtain ⟨row', hrow', rfl, hpic'⟩ := hm
      rw [List.inj_on_of_nodup_map hrows hrow hrow' (hpic.trans hpic'.symm)]
  | gst =>
      obtain ⟨raw, hraw, hframe, hpic⟩ := hn
      obtain ⟨raw', hraw', hframe', hpic'⟩ := hm
      obtain rfl := List.inj_on_of_nodup_map hpictures hraw hraw' (hpic.trans hpic'.symm)
      exact Option.some.inj (hframe.symm.trans hframe')

lemma check_pictures {u : Unit} (h : e.check = .ok u) :
    (e.associations.map (·.get? "pic")).Nodup := by
  simp only [KernelEvidence.check, Except.bind_ok, need_ok] at h
  obtain ⟨_, _, _, _, _, _, _, _, _, _, _, hpictures, _⟩ := h
  rw [hpictures]
  refine List.Nodup.map (fun a b hab => ?_) List.nodup_range'
  exact_mod_cast Option.some.inj hab

/-- The coordinates of the outputs are the selectors. -/
lemma selection_perm {selectors observed : List ℤ} (h : SelectionOk selectors observed client)
    (hnodup : selectors.Nodup) (hlength : observed.length = selectors.length) :
    observed.Perm selectors := by
  cases client with
  | va =>
      rw [show observed = selectors from h]
  | gst =>
      have hsubset : selectors ⊆ observed := h.2
      exact ((List.subperm_of_subset hnodup hsubset).perm_of_length_le (Nat.le_of_eq hlength)).symm

end Entries

section Join

variable {client : Client} {e : KernelEvidence} {report associations : Json} {queueRaw : List UInt8}
  {selectors : List ℤ} {copy : Bool} {queueSha256 : String} {result : JoinResult}

/-- **What a join is.**  There is one entry a selector, each of another picture, and each is of one
row of the queue log, of the picture that its selector and the row are of, and of one lifetime of
the kernel records. -/
theorem join_sound
    (h : join client e report queueRaw associations selectors copy queueSha256 = .ok result) :
    ∃ outputs keys rows, report.get? "outputs" = some (.arr outputs) ∧
      queueKeys client queueRaw e.requests.length = .ok keys ∧
      parseAssociations associations e.requests.length = .ok rows ∧ selectors.Nodup ∧
      (result.selected.map Selected.value).Perm selectors ∧
      (result.selected.map Selected.picture).Nodup ∧
      List.Forall₂ (JoinedEntry client e keys rows) outputs result.selected := by
  obtain ⟨hcheck, outputs, hreport, keys, hkeys, rows, hrows, hentries⟩ :
      e.check = .ok () ∧ ∃ outputs, validateReport report client selectors copy = .ok outputs ∧
        ∃ keys, queueKeys client queueRaw e.requests.length = .ok keys ∧
        ∃ rows, parseAssociations associations e.requests.length = .ok rows ∧
        ∀ observed shared, List.Forall₂
          (fun output n => ReportOutput client copy output n shared) outputs observed →
            result.selected.map Selected.value = observed ∧
              List.Forall₂ (JoinedEntry client e keys rows) outputs result.selected := by
    cases client with
    | va =>
        change joinVa _ _ _ _ _ _ _ = _ at h
        simp only [joinVa, Except.bind_ok] at h
        obtain ⟨_, hcheck, outputs, hreport, queue, hqueue, rows, hrows, _, hproject, selected,
          hselected, hresult⟩ := h
        refine ⟨hcheck, outputs, hreport, queue.map fun p => p.2.key, ?_, rows, hrows, ?_⟩
        · rw [queueKeys, hqueue]
          rfl
        · intro observed shared hobserved
          rw [resultOf_selected hresult]
          exact entries_of_outputs hselected hobserved fun output n s hs houtput =>
            selectVa_entry hs (parseVaQueue_ok hqueue) houtput (parseAssociations_ok hrows).2
              (check_numbered hcheck) (parseVaQueue_length hqueue) hproject
    | gst =>
        change joinGst _ _ _ _ _ _ _ = _ at h
        simp only [joinGst, Except.bind_ok, need_ok] at h
        obtain ⟨_, hcheck, outputs, hreport, queue, hqueue, rows, hrows, _, _,
          byFrame, hbridge, _, _,
          selected, hselected, hresult⟩ := h
        refine ⟨hcheck, outputs, hreport, queue.map GstRow.key, ?_, rows, hrows, ?_⟩
        · rw [queueKeys, hqueue]
          rfl
        · intro observed shared hobserved
          rw [resultOf_selected hresult]
          exact entries_of_outputs hselected hobserved fun output n s hs houtput =>
            selectGst_entry hs hbridge (parseGstQueue_distinct hqueue) houtput
  obtain ⟨observed, shared, hvalid⟩ := validateReport_ok.mp hreport
  obtain ⟨hvalues, hall⟩ := hentries observed shared hvalid.outputs
  have hlength : observed.length = selectors.length := by
    rw [← hvalid.outputs.length_eq, hvalid.length]
  have hperm := selection_perm hvalid.selection hvalid.requested.2.2 hlength
  rw [← hvalues] at hperm
  refine ⟨outputs, keys, rows, hvalid.array, hkeys, hrows, hvalid.requested.2.2, hperm, ?_, hall⟩
  -- Entries of one picture are of one selector.
  have hnodup := hperm.nodup_iff.mpr hvalid.requested.2.2
  rw [List.Nodup, List.pairwise_map] at hnodup ⊢
  refine hnodup.imp_of_mem fun {s t} hs ht hne heq => hne ?_
  have hbridge : ∀ s ∈ result.selected, Bridge e rows s.value s.picture client := by
    intro s hs
    obtain ⟨i, hi⟩ := List.getElem?_of_mem hs
    obtain ⟨hlt, rfl⟩ := List.getElem?_eq_some_iff.mp hi
    have houtputs : i < outputs.length := by rwa [hall.length_eq]
    exact ((List.forall₂_iff_get.mp hall).2 i houtputs hlt).bridge
  exact bridge_inj (parseAssociations_ok hrows).1 (check_pictures hcheck) (hbridge s hs)
    (heq ▸ hbridge t ht)

end Join

/-- The join of two pictures. -/
theorem join_sound_pair : ∃ result, pairJoin 5 = .ok result ∧
    ∃ outputs keys rows, pairReport.get? "outputs" = some (.arr outputs) ∧
      queueKeys .gst (utf8 pairText) pairEvidence.requests.length = .ok keys ∧
      parseAssociations (pairAssociation 5) pairEvidence.requests.length = .ok rows ∧
          [(0 : ℤ), 1].Nodup ∧
      (result.selected.map Selected.value).Perm [0, 1] ∧
      (result.selected.map Selected.picture).Nodup ∧
      List.Forall₂ (JoinedEntry .gst pairEvidence keys rows) outputs result.selected := by
  obtain ⟨result, hjoin⟩ := pairJoin_ok
  exact ⟨result, hjoin, join_sound (show join .gst _ _ _ _ _ _ _ = _ from hjoin)⟩

/-! ### Two rows of one output -/

section TwoRows

/-- A number of one digit in sixteen. -/
def sixteen (digit : Char) : List Char := List.replicate 15 '0' ++ [digit]

/-- The members of a row of the VA queue that are those of the request. -/
def twoMembers (picture : ℤ) : List (String × Json) :=
  [("seq", .int picture), ("pic", .int picture), ("req", .int picture), ("first", .int 1),
    ("last", .int 1), ("target", .int 6), ("poc", .int 5), ("irap", .null), ("idr", .null),
    ("ltr_sps", .null), ("reorder", .null), ("total_curr", .null), ("dpb", .null),
        ("slices", .null),
    ("st_before", .null), ("st_after", .null), ("lt_curr", .null)]

/-- A row of the VA queue of this surface generation. -/
def twoRow (picture surface : ℤ) : Json :=
  .obj (twoMembers picture ++
    [("schema", .str "libva-v4l2request.hevc-refs/1"), ("run", .str (String.ofList (sixteen '1'))),
      ("ctx", .null), ("va_context", .null),
      ("observer", .obj [("run", (.str (String.ofList (sixteen '1' ++ sixteen '2')))),
          ("context", .int 1),
        ("allocation", .int 3), ("surface", .int surface), ("writer", .int 5)])])

/-- The evidence of two pictures in one buffer. -/
def twoEvidence : KernelEvidence :=
  { oneEvidence with
    requests := [.obj (twoMembers 1), .obj (twoMembers 2)]
    associations := [(∅ : Dict String ℤ).update [("pic", 1), ("system_frame_number", 0)],
      (∅ : Dict String ℤ).update [("pic", 2), ("system_frame_number", 1)]] }

/-- The output of the first picture. -/
def twoOutput : Json :=
  .obj [("run", .arr [.str (String.ofList (sixteen '1')), .str (String.ofList (sixteen '2'))]),
    ("context_generation", .str (String.ofList (sixteen '1'))),
    ("session", .str (String.ofList (sixteen '1'))),
    ("allocation_generation", .str (String.ofList (sixteen '3'))),
    ("writer", .str (String.ofList (sixteen '5'))),
    ("submitted", .str (String.ofList (sixteen '1'))),
    ("completed", .str (String.ofList (sixteen '1'))),
    ("capture_index", .int 6), ("copied", .bool false), ("sha256", .null),
        ("output_ordinal", .int 0),
    ("surface", .int 1)]

def twoReport : Json :=
  .obj [("schema", .str "omarchy.hevc.va-observer-result/v1"), ("count", .int 1),
    ("outputs", .arr [twoOutput])]

def twoAssociation : Json :=
  .arr [.obj [("output_index", .int 0), ("pic", .int 1), ("poc", .int 5)],
    .obj [("output_index", .int 1), ("pic", .int 2), ("poc", .int 5)]]

/-- The queue log of the two rows. -/
def twoQueue : List UInt8 :=
  terminated 10 [utf8 (dumps (twoRow 1 7)), utf8 (dumps (twoRow 2 8))]

/-- The lines of the log. -/
def twoTexts : List (List Char) := [dumps (twoRow 1 7), dumps (twoRow 2 8)]

/-- A line of the log, from its text. -/
def textLine (number : ℕ) (text : List Char) : Join Json := do
  let row ← match loads (documentHooks "VA queue trace") text with
    | .ok row => .ok row
    | .error (.raised e) => .error e
    | .error _ => .error (refusal ("invalid VA queue trace line " ++ toString number))
  need (row.isObj = true)
    (refusal ("VA queue trace line " ++ toString number ++ " is not an object"))
  return row

lemma jsonLine_utf8 (number : ℕ) (text : List Char) :
    jsonLine "VA queue trace" number (utf8 text) = textLine number text := by
  rw [jsonLine, decodeUtf8_utf8]
  rfl

/-- The name of a row of this surface generation. -/
def twoKey (surface : String) : QueueKey :=
  { run := sixteen '1' ++ sixteen '2'
    context := 1
    allocation := 3
    writer := 5
    capture := 6
    own := none
    surface := some surface }

lemma parse_twoQueue {lines : List Json} {identities : List VaIdentity}
    (hlines : (twoTexts.zipIdx 1).mapM (fun p => textLine p.2 p.1) = .ok lines)
    (hidentities : checkVaQueue 1 [] lines = .ok identities) :
    parseVaQueue twoQueue 2 = .ok (lines.zip identities) := by
  obtain ⟨hsplit, hsize, hend⟩ : twoQueue.dropLast.splitOnP (· = 10) = twoTexts.map utf8 ∧
      (0 < twoQueue.length ∧ twoQueue.length ≤ maxQueueBytes) ∧
        twoQueue.getLast? = some 10 ∧ 13 ∉ twoQueue ∧ 0 ∉ twoQueue := by
    decide +kernel
  have hjson : jsonLines twoQueue maxQueueBytes "VA queue trace" = .ok lines := by
    simp only [jsonLines, Except.bind_ok, need_ok, hsplit]
    refine ⟨(), hsize, (), hend, ?_⟩
    rw [← hlines, twoTexts]
    simp only [List.map_cons, List.map_nil, List.zipIdx_cons, List.zipIdx_nil, List.mapM_cons,
      List.mapM_nil, jsonLine_utf8]
  have hlength : lines.length = 2 := (mapM_ok hlines).1
  simp only [parseVaQueue, Except.bind_ok, need_ok, Except.pure_ok]
  exact ⟨lines, hjson, (), hlength, identities, hidentities, rfl⟩

/-- The join of the first picture. -/
def twoJoin : Join JoinResult :=
  joinVa twoEvidence twoReport twoQueue twoAssociation [0] false
    (String.ofList (List.replicate 64 '0'))

/-- The row as it is read back from the log: its members in the order of their names. -/
def twoLine (picture surface : ℤ) : Json :=
  .obj [("ctx", .null), ("dpb", .null), ("first", .int 1), ("idr", .null), ("irap", .null),
    ("last", .int 1), ("lt_curr", .null), ("ltr_sps", .null),
    ("observer", .obj [("allocation", .int 3), ("context", .int 1),
      ("run", .str (String.ofList (sixteen '1' ++ sixteen '2'))), ("surface", .int surface),
      ("writer", .int 5)]),
    ("pic", .int picture), ("poc", .int 5), ("reorder", .null), ("req", .int picture),
    ("run", .str (String.ofList (sixteen '1'))), ("schema", .str "libva-v4l2request.hevc-refs/1"),
    ("seq", .int picture), ("slices", .null), ("st_after", .null), ("st_before", .null),
    ("target", .int 6), ("total_curr", .null), ("va_context", .null)]

/-- The identity of the row. -/
def twoIdentity (surface : ℤ) : VaIdentity where
  run := sixteen '1' ++ sixteen '2'
  context := 1
  allocation := 3
  surface := surface
  writer := 5
  target := 6

def twoLines : List Json := [twoLine 1 7, twoLine 2 8]

def twoIdentities : List VaIdentity := [twoIdentity 7, twoIdentity 8]

def twoAssociations : List Association := [⟨0, 1, 5⟩, ⟨1, 2, 5⟩]

/-- The entry of the output. -/
def twoSelected : Selected where
  domain := "output_ordinal"
  value := 0
  client := [("run", .arr [.str (String.ofList (sixteen '1')), .str (String.ofList (sixteen '2'))]),
    ("context_generation", .str (String.ofList (sixteen '1'))),
    ("session", .str (String.ofList (sixteen '1'))),
    ("allocation_generation", .str (String.ofList (sixteen '3'))),
    ("writer", .str (String.ofList (sixteen '5'))),
    ("submitted", .str (String.ofList (sixteen '1'))),
    ("completed", .str (String.ofList (sixteen '1'))),
    ("capture_index", .int 6), ("copied", .bool false), ("sha256", .null), ("surface", .int 1)]
  picture := 1
  poc := 5
  captureIndex := .int 6
  surfaceGeneration := some "7"
  kernelAllocation := "9"

lemma ok_of_identical {x : Join Json} {y : Json} (h : x.toOption.any (Json.identical y) = true) :
    x = .ok y := by
  obtain ⟨v, hv, htest⟩ := ok_of_any h
  rw [hv, Json.eq_of_identical htest]

/-- The entry is that of the output. -/
def isTwoSelected (s : Selected) : Bool :=
  s.domain = twoSelected.domain && s.value = twoSelected.value &&
    Json.identicalMembers s.client twoSelected.client && s.picture = twoSelected.picture &&
    s.poc = twoSelected.poc && Json.identical s.captureIndex twoSelected.captureIndex &&
    s.surfaceGeneration = twoSelected.surfaceGeneration &&
    s.kernelAllocation = twoSelected.kernelAllocation

lemma eq_of_isTwoSelected {s : Selected} (h : isTwoSelected s = true) : s = twoSelected := by
  simp only [isTwoSelected, Bool.and_eq_true, decide_eq_true_eq] at h
  obtain ⟨⟨⟨⟨⟨⟨⟨hdomain, hvalue⟩, hclient⟩, hpicture⟩, hpoc⟩, hcapture⟩, hsurface⟩, hallocation⟩ := h
  cases s
  cases hdomain
  cases hvalue
  cases hpicture
  cases hpoc
  cases hsurface
  cases hallocation
  cases Json.members_eq_of_identical hclient
  cases Json.eq_of_identical hcapture
  rfl

/-- The steps of the join, each from what the one before it returns. -/
lemma twoJoin_steps :
    (textLine 1 (dumps (twoRow 1 7))).toOption.any (Json.identical (twoLine 1 7)) = true ∧
    (textLine 2 (dumps (twoRow 2 8))).toOption.any (Json.identical (twoLine 2 8)) = true ∧
    checkVaQueue 1 [] twoLines = .ok twoIdentities ∧
    (twoEvidence.check.toOption.any fun _ => true) = true ∧
    ((validateReport twoReport .va [0] false).toOption.any fun _ => true) = true ∧
    parseAssociations twoAssociation 2 = .ok twoAssociations ∧
    ((checkProjection 1 (twoLines.zip twoIdentities) twoEvidence.requests).toOption.any
      fun _ => true) = true ∧
    (selectVa twoEvidence (twoLines.zip twoIdentities) twoAssociations twoOutput).toOption.any
      isTwoSelected = true ∧
    ((boundedResult twoEvidence .va false [twoSelected]
      (String.ofList (List.replicate 64 '0'))).toOption.any fun _ => true) = true ∧
    (twoLines.zip twoIdentities).map (fun p => p.2.key) = [twoKey "7", twoKey "8"] := by
  refine ⟨?_, ?_, ?_, ?_, ?_, ?_, ?_, ?_, ?_, ?_⟩
  all_goals decide +kernel

lemma twoJoin_ok : ∃ result, twoJoin = .ok result ∧
    queueKeys .va twoQueue twoEvidence.requests.length = .ok [twoKey "7", twoKey "8"] := by
  obtain ⟨hfirst, hsecond, hidentities, hcheck, hreport, hrows, hproject, hselected, hresult, hkeys⟩ :=
    twoJoin_steps
  have hlines : (twoTexts.zipIdx 1).mapM (fun p => textLine p.2 p.1) = .ok twoLines := by
    simp only [twoTexts, List.zipIdx_cons, List.zipIdx_nil, List.mapM_cons, List.mapM_nil,
      ok_of_identical hfirst, ok_of_identical hsecond]
    rfl
  have hqueue := parse_twoQueue hlines hidentities
  obtain ⟨u, hcheck, -⟩ := ok_of_any hcheck
  obtain ⟨v, hproject, -⟩ := ok_of_any hproject
  obtain ⟨result, hresult, -⟩ := ok_of_any hresult
  have houtputs : validateReport twoReport .va [0] false = .ok [twoOutput] := by
    obtain ⟨outputs, houtputs, -⟩ := ok_of_any hreport
    obtain ⟨_, _, hvalid⟩ := validateReport_ok.mp houtputs
    have harray : (Json.arr [twoOutput]) = .arr outputs := Option.some.inj hvalid.array
    rw [houtputs, Json.arr.inj harray]
  have hmapped : [twoOutput].mapM (selectVa twoEvidence (twoLines.zip twoIdentities) twoAssociations) =
      .ok [twoSelected] := by
    obtain ⟨s, hs, htest⟩ := ok_of_any hselected
    rw [List.mapM_cons, List.mapM_nil, hs, eq_of_isTwoSelected htest]
    rfl
  have hlength : twoEvidence.requests.length = 2 := rfl
  refine ⟨result, ?_, ?_⟩
  · rw [twoJoin, joinVa, hlength]
    simp only [Except.bind_ok]
    exact ⟨u, hcheck, _, houtputs, _, hqueue, _, hrows, v, hproject, _, hmapped,
      resultOf_of_bounded hresult⟩
  · rw [queueKeys, hlength, hqueue, ← hkeys]
    rfl

lemma nonzeroHex_sixteen {output : Json} {name : String} {digit : Char}
    (hget : output.get? name = some (.str (String.ofList (sixteen digit))))
    (h : digit ∈ ['1', '3', '5']) : NonzeroHex output name (sixteen digit) := by
  have hone : IsHex 16 (sixteen '1') ∧ hexValue (sixteen '1') ≠ 0 := by decide
  have hthree : IsHex 16 (sixteen '3') ∧ hexValue (sixteen '3') ≠ 0 := by decide
  have hfive : IsHex 16 (sixteen '5') ∧ hexValue (sixteen '5') ≠ 0 := by decide
  rw [List.mem_cons, List.mem_cons, List.mem_singleton] at h
  obtain rfl | rfl | rfl := h
  · exact ⟨hget, hone⟩
  · exact ⟨hget, hthree⟩
  · exact ⟨hget, hfive⟩

lemma twoOutput_reports (surface : String) : Reports twoOutput (twoKey surface) where
  run := ⟨sixteen '1', sixteen '2', by simp [twoOutput, Json.get?, Json.member?], rfl⟩
  context := by
    refine ⟨sixteen '1', nonzeroHex_sixteen ?_ (by simp), ?_⟩
    · simp [twoOutput, Json.get?, Json.member?]
    · have hvalue : hexValue (sixteen '1') = 1 := by decide
      rw [hvalue, twoKey]
      rfl
  allocation := by
    refine ⟨sixteen '3', nonzeroHex_sixteen ?_ (by simp), ?_⟩
    · simp [twoOutput, Json.get?, Json.member?]
    · have hvalue : hexValue (sixteen '3') = 3 := by decide
      rw [hvalue, twoKey]
      rfl
  writer := by
    refine ⟨sixteen '5', nonzeroHex_sixteen ?_ (by simp), ?_⟩
    · simp [twoOutput, Json.get?, Json.member?]
    · have hvalue : hexValue (sixteen '5') = 5 := by decide
      rw [hvalue, twoKey]
      rfl
  capture := by simp [twoOutput, twoKey, Json.get?, Json.member?]
  own := by simp [twoKey]

end TwoRows

/-- One output of a VA report names two rows of the log. -/
theorem two_rows_reported : ¬∀ (client : Client) (e : KernelEvidence) (report associations : Json)
    (queueRaw : List UInt8) (selectors : List ℤ) (copy : Bool) (queueSha256 : String)
    (result : JoinResult) (outputs : List Json) (keys : List QueueKey),
      join client e report queueRaw associations selectors copy queueSha256 = .ok result →
        report.get? "outputs" = some (.arr outputs) →
          queueKeys client queueRaw e.requests.length = .ok keys →
            ∀ output ∈ outputs, ∃! index : ℕ, ∃ key, keys[index]? = some key ∧
                Reports output key := by
  intro hall
  obtain ⟨result, hjoin, hkeys⟩ := twoJoin_ok
  obtain ⟨index, -, hunique⟩ := hall .va twoEvidence twoReport twoAssociation twoQueue [0] false _
    result
    [twoOutput] _ hjoin rfl hkeys twoOutput (List.mem_singleton_self _)
  have hfirst := hunique 0 ⟨twoKey "7", rfl, twoOutput_reports "7"⟩
  have hsecond := hunique 1 ⟨twoKey "8", rfl, twoOutput_reports "8"⟩
  omega

end OmarchyM1Video.SameRun
