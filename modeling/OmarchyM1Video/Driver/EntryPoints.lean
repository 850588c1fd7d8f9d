import Mathlib.Data.List.Basic
import Mathlib.Data.Int.Notation

/-!
The entry points of the slices of an HEVC picture: `stream_slices` under `patches/0011`.

The hunk shows the check, not the declaration of the loop limit, so its type is a parameter.

* `pass`, `streamSlices`: the loops, with what they read and push;
* `jobSegments`, `InRange`: offsets and segments stay within what `avd_hevc_run` has made room for;
* `NoWrap`: the sum of the check does not wrap for a slice whose loop runs;
* `SizeFits`: the size of the table has not wrapped, or what is left of it is enough;
* `inRange_iff_noWrap`: everything stays in range exactly if both hold.
-/

namespace OmarchyM1Video.Driver.EntryPoints

/-! ### The loop -/

/-- The type of the loop limit `to`. -/
inductive LimitType where
  | u32 | int
  deriving DecidableEq, Repr

/-- The passes of `for (i = 0; i < to; i++)` with `to = num_entry_point_offsets + 1`. -/
def passes (limit : LimitType) (n : UInt32) : ℕ :=
  match limit with
  | .u32 => (n + 1).toNat
  | .int => if (n + 1).toNat < 0x80000000 then (n + 1).toNat else 0

/-- The index of the next entry point, the segments pushed after the header, and the indices of the
offsets that were read. -/
structure Stream where
  entryPointIdx : UInt32 := 0
  segments : ℕ := 0
  offsets : List UInt32 := []
  deriving DecidableEq, Repr

/-- A pass of the inner loop: one segment, and one offset except for the first segment. -/
def pass (s : Stream) (i : ℕ) : Stream :=
  if i = 0 then { s with segments := s.segments + 1 }
  else {
    entryPointIdx := s.entryPointIdx + 1
    segments := s.segments + 1
    offsets := s.offsets ++ [s.entryPointIdx] }

/-- `-EINVAL`. -/
def einval : ℤ := -22

/-- The loop over the slices, each given by its `num_entry_point_offsets`, and its result. -/
def streamSlices (limit : LimitType) (tilesEnabled : Bool) (total : UInt32) :
    List UInt32 → Stream → ℤ × Stream
  | [], s => (0, s)
  | n :: ns, s =>
      if tilesEnabled ∧ total < n + s.entryPointIdx then (einval, s)
      else
        let count := if tilesEnabled then passes limit n else 1
        streamSlices limit tilesEnabled total ns ((List.range count).foldl pass s)

/-- What has been read and pushed when `stream_slices` returns, with an error or without. -/
def streamed (limit : LimitType) (total : UInt32) (ns : List UInt32) : Stream :=
  (streamSlices limit true total ns {}).2

/-- The size that `avd_hevc_run` gives `avd_init_job`, `num_slices + num_entry_point_offsets + 1` with
the header segment, in the 32 bits of its sum. -/
def jobSegments (slices : ℕ) (total : UInt32) : UInt32 := UInt32.ofNat slices + total + 1

/-- Every offset that is read is one of the `total`, and the header and the segments after it are no
more than the job was made for.  Both only grow, so what holds at the return held all the time. -/
def InRange (limit : LimitType) (total : UInt32) (ns : List UInt32) : Prop :=
  (∀ i ∈ (streamed limit total ns).offsets, i < total) ∧
    (streamed limit total ns).segments < (jobSegments ns.length total).toNat

/-- No slice is let through by a wrap: the slices before it have `before` entry points, and a slice
that passes the check and whose loop runs keeps the sum below `2 ^ 32`. -/
def NoWrap (limit : LimitType) (total : UInt32) : ℕ → List UInt32 → Prop
  | _, [] => True
  | before, n :: ns =>
      (n.toNat + before) % 0x100000000 ≤ total.toNat →
        (passes limit n ≠ 0 → n.toNat + before < 0x100000000) ∧
          NoWrap limit total (before + (passes limit n - 1)) ns

instance decidableNoWrap (limit : LimitType) (total : UInt32) :
    ∀ (before : ℕ) (ns : List UInt32), Decidable (NoWrap limit total before ns)
  | _, [] => inferInstanceAs (Decidable True)
  | before, n :: ns =>
      have := decidableNoWrap limit total (before + (passes limit n - 1)) ns
      inferInstanceAs (Decidable (_ → _ ∧ _))

/-- The counts of the slices that pass the check on exact sums and whose loop runs, after slices with
`before` entry points, up to the first slice that is refused. -/
def running (limit : LimitType) (total : UInt32) : ℕ → List UInt32 → List UInt32
  | _, [] => []
  | before, n :: ns =>
      if (n.toNat + before) % 0x100000000 ≤ total.toNat then
        if passes limit n = 0 then running limit total before ns
        else n :: running limit total (before + n.toNat) ns
      else []

/-- The segments of these slices. -/
def needed (ns : List UInt32) : ℕ := ns.foldr (fun n rest => n.toNat + 1 + rest) 0

/-- The size of the job does not reach `2 ^ 32`; or what the sum of 32 bits leaves of it still holds the
header and the segments of the slices whose loop runs. -/
def SizeFits (limit : LimitType) (total : UInt32) (ns : List UInt32) : Prop :=
  0x100000000 ≤ ns.length + total.toNat + 1 →
    needed (running limit total 0 ns) < (ns.length + total.toNat + 1) % 0x100000000

instance decidableSizeFits (limit : LimitType) (total : UInt32) (ns : List UInt32) :
    Decidable (SizeFits limit total ns) :=
  inferInstanceAs (Decidable (_ → _))

/-! ### The inner loop -/

section Loop

variable {limit : LimitType} {total n : UInt32} {s : Stream}

lemma passes_cases (limit : LimitType) (n : UInt32) :
    passes limit n = 0 ∨ passes limit n = n.toNat + 1 := by
  have hn := n.toNat_lt
  have hsucc : (n + 1).toNat = (n.toNat + 1) % 0x100000000 := UInt32.toNat_add n 1
  by_cases hmax : n.toNat + 1 < 0x100000000
  · rw [Nat.mod_eq_of_lt hmax] at hsucc
    cases limit with
    | u32 => exact Or.inr hsucc
    | int =>
        rw [passes, hsucc]
        split_ifs
        · exact Or.inr rfl
        · exact Or.inl rfl
  · have hzero : (n + 1).toNat = 0 := by
      rw [hsucc, show n.toNat + 1 = 0x100000000 by omega]
    cases limit with
    | u32 => exact Or.inl hzero
    | int => exact Or.inl (by rw [passes, hzero]; rfl)

/-- The state after the passes of one slice. -/
lemma foldl_pass (s : Stream) (m : ℕ) : (List.range (m + 1)).foldl pass s = {
    entryPointIdx := s.entryPointIdx + UInt32.ofNat m
    segments := s.segments + (m + 1)
    offsets := s.offsets ++ (List.range m).map fun j => s.entryPointIdx + UInt32.ofNat j } := by
  induction m with
  | zero => simp [pass]
  | succ m ih =>
      rw [List.range_succ, List.foldl_append, ih, List.foldl_cons, List.foldl_nil, pass,
        if_neg (Nat.succ_ne_zero m), List.range_succ, List.map_append, List.append_assoc]
      have hnext : UInt32.ofNat (m + 1) = UInt32.ofNat m + 1 := UInt32.ofNat_add m 1
      simp [hnext, UInt32.add_assoc, Nat.add_assoc]

/-- The check on exact sums: the state has counted `before` entry points without a wrap. -/
lemma check_iff {before : ℕ} (hidx : s.entryPointIdx.toNat = before) :
    total < n + s.entryPointIdx ↔ ¬(n.toNat + before) % 0x100000000 ≤ total.toNat := by
  rw [UInt32.lt_iff_toNat_lt, UInt32.toNat_add, hidx, Nat.not_le]

end Loop

/-! ### The slices -/

/-- The state after slices with `before` entry points in all, of which nothing has wrapped. -/
structure Counted (total : UInt32) (slices before : ℕ) (s : Stream) : Prop where
  index : s.entryPointIdx.toNat = before
  within : before ≤ total.toNat
  offsets : ∀ i ∈ s.offsets, i < total
  segments : s.segments ≤ slices + before

section Slices

variable {limit : LimitType} {total : UInt32} {slices before : ℕ} {n : UInt32} {s : Stream}

lemma streamSlices_cons {ns : List UInt32} (h : s.entryPointIdx.toNat = before) :
    streamSlices limit true total (n :: ns) s =
      if (n.toNat + before) % 0x100000000 ≤ total.toNat then
        streamSlices limit true total ns ((List.range (passes limit n)).foldl pass s)
      else (einval, s) := by
  simp only [streamSlices, true_and, if_true, check_iff h, ite_not]

/-- Without a wrap a slice that passes the check keeps the count. -/
lemma counted_slice (h : Counted total slices before s)
    (hcheck : (n.toNat + before) % 0x100000000 ≤ total.toNat)
    (hwrap : passes limit n ≠ 0 → n.toNat + before < 0x100000000) :
    Counted total (slices + 1) (before + (passes limit n - 1))
      ((List.range (passes limit n)).foldl pass s) := by
  rcases passes_cases limit n with hnone | hall
  · rw [hnone]
    exact ⟨h.index, h.within, h.offsets, by have := h.segments; simp; omega⟩
  · have hsum := hwrap (by omega)
    rw [Nat.mod_eq_of_lt hsum] at hcheck
    have hindex : ∀ j ≤ n.toNat, (s.entryPointIdx + UInt32.ofNat j).toNat = before + j := by
      intro j hj
      rw [UInt32.toNat_add, UInt32.toNat_ofNat', h.index, Nat.mod_eq_of_lt (by omega),
        Nat.mod_eq_of_lt (by omega)]
    rw [hall, foldl_pass]
    refine ⟨?_, by omega, ?_, ?_⟩
    · exact hindex n.toNat Nat.le.refl
    · intro i hi
      rcases List.mem_append.mp hi with hi | hi
      · exact h.offsets i hi
      · obtain ⟨j, hj, rfl⟩ := List.mem_map.mp hi
        rw [List.mem_range] at hj
        rw [UInt32.lt_iff_toNat_lt, hindex j (by omega)]
        omega
    · have := h.segments
      change s.segments + (n.toNat + 1) ≤ slices + 1 + (before + (n.toNat + 1 - 1))
      omega

/-- A slice that a wrap lets through reads the offset with the last index there can be. -/
lemma max_mem_offsets (h : Counted total slices before s) (hruns : passes limit n ≠ 0)
    (hwrap : 0x100000000 ≤ n.toNat + before) :
    (0xffffffff : UInt32) ∈ ((List.range (passes limit n)).foldl pass s).offsets := by
  have hall := (passes_cases limit n).resolve_left hruns
  have hbefore : before < 0x100000000 := h.index ▸ s.entryPointIdx.toNat_lt
  rw [hall, foldl_pass]
  refine List.mem_append_right _ (List.mem_map.mpr ⟨0xffffffff - before, ?_, ?_⟩)
  · rw [List.mem_range]
    omega
  · rw [← UInt32.toNat_inj, UInt32.toNat_add, UInt32.toNat_ofNat', h.index]
    rw [Nat.mod_eq_of_lt (a := 0xffffffff - before) (by omega),
      show before + (0xffffffff - before) = 0xffffffff by omega]
    rfl

lemma offsets_subset_pass (s : Stream) (i : ℕ) : s.offsets ⊆ (pass s i).offsets := by
  rw [pass]
  split_ifs
  · exact List.Subset.refl _
  · exact List.subset_append_left _ _

lemma offsets_subset_foldl (is : List ℕ) (s : Stream) :
    s.offsets ⊆ (is.foldl pass s).offsets := by
  induction is generalizing s with
  | nil => exact List.Subset.refl _
  | cons i is ih => exact List.Subset.trans (offsets_subset_pass s i) (ih (pass s i))

/-- The offsets that have been read stay read. -/
lemma offsets_subset_streamSlices (limit : LimitType) (total : UInt32) (ns : List UInt32)
    (s : Stream) :
    s.offsets ⊆ (streamSlices limit true total ns s).2.offsets := by
  induction ns generalizing s with
  | nil => exact List.Subset.refl _
  | cons n ns ih =>
      rw [streamSlices_cons rfl]
      split_ifs
      · exact List.Subset.trans (offsets_subset_foldl _ s) (ih _)
      · exact List.Subset.refl _

/-- From a state that has counted without a wrap, everything stays in range if and only if no slice
is let through by one. -/
lemma counted_iff_noWrap {ns : List UInt32} (h : Counted total slices before s) :
    ((∀ i ∈ (streamSlices limit true total ns s).2.offsets, i < total) ∧
      (streamSlices limit true total ns s).2.segments ≤ slices + ns.length + total.toNat) ↔
      NoWrap limit total before ns := by
  induction ns generalizing slices before s with
  | nil =>
      have hsegments := h.segments
      have hwithin := h.within
      simp only [NoWrap, iff_true]
      refine ⟨h.offsets, ?_⟩
      change s.segments ≤ slices + 0 + total.toNat
      omega
  | cons n ns ih =>
      rw [streamSlices_cons h.index, NoWrap]
      by_cases hcheck : (n.toNat + before) % 0x100000000 ≤ total.toNat
      · have hslices : slices + (ns.length + 1) = slices + 1 + ns.length := by omega
        rw [if_pos hcheck, List.length_cons, hslices]
        by_cases hwrap : passes limit n ≠ 0 → n.toNat + before < 0x100000000
        · rw [ih (counted_slice h hcheck hwrap)]
          exact ⟨fun hrest _ => ⟨hwrap, hrest⟩, fun hall => (hall hcheck).2⟩
        · refine ⟨fun hrange => ?_, fun hall => absurd (hall hcheck).1 hwrap⟩
          rw [Classical.not_imp, Nat.not_lt] at hwrap
          have hmax := offsets_subset_streamSlices limit total ns _
            (max_mem_offsets h hwrap.1 hwrap.2)
          have hlt := UInt32.lt_iff_toNat_lt.mp (hrange.1 _ hmax)
          have htotal := total.toNat_lt
          change 0xffffffff < total.toNat at hlt
          omega
      · -- The slice is refused, and the state is the one that is in range.
        have hsegments := h.segments
        have hwithin := h.within
        rw [if_neg hcheck]
        refine ⟨fun _ hpass => absurd hpass hcheck, fun _ => ⟨h.offsets, ?_⟩⟩
        rw [List.length_cons]
        change s.segments ≤ _
        omega

/-- Without a wrap the segments are those of the slices whose loop runs. -/
lemma segments_eq_needed {ns : List UInt32} (h : Counted total slices before s)
    (hwrap : NoWrap limit total before ns) :
    (streamSlices limit true total ns s).2.segments =
      s.segments + needed (running limit total before ns) := by
  induction ns generalizing slices before s with
  | nil => rfl
  | cons n ns ih =>
      rw [streamSlices_cons h.index, running]
      by_cases hcheck : (n.toNat + before) % 0x100000000 ≤ total.toNat
      · obtain ⟨hslice, hrest⟩ := hwrap hcheck
        rw [if_pos hcheck, if_pos hcheck, ih (counted_slice h hcheck hslice) hrest]
        rcases passes_cases limit n with hnone | hall
        · rw [hnone, if_pos rfl]
          rfl
        · rw [hall, foldl_pass, if_neg (Nat.succ_ne_zero _), Nat.add_sub_cancel]
          simp only [needed, List.foldr_cons]
          omega
      · rw [if_neg hcheck, if_neg hcheck]
        rfl

lemma counted_start : Counted total 0 0 {} where
  index := rfl
  within := Nat.zero_le _
  offsets := by simp
  segments := Nat.le.refl

end Slices

lemma jobSegments_toNat (slices : ℕ) (total : UInt32) :
    (jobSegments slices total).toNat = (slices + total.toNat + 1) % 0x100000000 := by
  rw [jobSegments, UInt32.toNat_add, UInt32.toNat_add, UInt32.toNat_ofNat']
  change ((slices % 2 ^ 32 + total.toNat) % 2 ^ 32 + 1) % 2 ^ 32 = _
  omega

/-- What stays in range from the start has not wrapped. -/
lemma noWrap_of_inRange {limit : LimitType} {total : UInt32} {ns : List UInt32}
    (h : InRange limit total ns) : NoWrap limit total 0 ns := by
  refine (counted_iff_noWrap counted_start).mp ⟨h.1, ?_⟩
  have hsegments := h.2
  have hmod := Nat.mod_le (ns.length + total.toNat + 1) 0x100000000
  rw [jobSegments_toNat] at hsegments
  rw [Nat.zero_add]
  change (streamed limit total ns).segments ≤ _
  omega

/-- **The bound of the entry points**: with tiles, offsets and segments stay in range if and only if
no slice whose loop runs is let through because the sum of the check wraps, and the size of the job has
not wrapped below what the slices need. -/
theorem inRange_iff_noWrap (limit : LimitType) (total : UInt32) (ns : List UInt32) :
    InRange limit total ns ↔ NoWrap limit total 0 ns ∧ SizeFits limit total ns := by
  constructor
  · intro h
    have hwrap := noWrap_of_inRange h
    refine ⟨hwrap, fun _ => ?_⟩
    have hsegments := h.2
    rw [jobSegments_toNat, streamed, segments_eq_needed counted_start hwrap, Nat.zero_add]
      at hsegments
    exact hsegments
  · rintro ⟨hwrap, hsize⟩
    obtain ⟨hoffsets, hbound⟩ := (counted_iff_noWrap counted_start).mpr hwrap
    refine ⟨hoffsets, ?_⟩
    rw [jobSegments_toNat]
    by_cases hfits : 0x100000000 ≤ ns.length + total.toNat + 1
    · rw [streamed, segments_eq_needed counted_start hwrap, Nat.zero_add]
      exact hsize hfits
    · rw [Nat.mod_eq_of_lt (Nat.not_le.mp hfits)]
      change (streamSlices limit true total ns {}).2.segments < _
      omega

/-- Two offsets for two slices, of which the second claims `2 ^ 32 - 2`: the sum wraps to zero. With
a signed limit its loop does not run, and it takes three slices of `2 ^ 31 - 3` to wrap. -/
theorem wrap_not_inRange : ¬InRange .u32 2 [2, 0xfffffffe] ∧
    ∀ limit, ¬InRange limit 0xfffffffe [0x7ffffffd, 0x7ffffffd, 0x7ffffffd] := by
  refine ⟨fun h => ?_, fun limit h => ?_⟩
  · exact absurd (noWrap_of_inRange h) (by decide)
  · refine absurd (noWrap_of_inRange h) ?_
    cases limit
    · decide
    · decide

/-- The size of the job wraps to one for a single slice with five of `2 ^ 32 - 1` offsets, for which the
check has nothing to object. -/
example (limit : LimitType) : NoWrap limit 0xffffffff 0 [5] ∧ jobSegments 1 0xffffffff = 1 ∧
    ¬SizeFits limit 0xffffffff [5] := by
  cases limit <;> decide

end OmarchyM1Video.Driver.EntryPoints
