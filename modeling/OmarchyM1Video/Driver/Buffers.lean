import Mathlib.Data.Int.Notation
import Mathlib.Data.List.Induction
import Mathlib.Data.List.Nodup

/-!
`avd_buf_alloc`: the driver's function and its two replacements, over histories of calls in which any
allocation may fail.

A buffer is a descriptor in memory.  An allocation is named by its number, and the device keeps what
each was allocated with and the arguments of each release.  `avd_buf_free` releases the storage of a
buffer that has some, and zeroes the descriptor.

* `Pinned.avdBufAlloc`, `Candidate.avdBufAlloc`, `Reuse.avdBufAlloc`: the three functions;
* `run`: a history of calls on zeroed descriptors, with what each call returned;
* `Balanced`: what is allocated and not released is what the descriptors record;
* `run_balanced`: so it is after every history, with either replacement;
* `allocation_laws`: what the replacements promise a caller.
-/

namespace OmarchyM1Video.Driver.Buffers

/-! ### The functions -/

/-- `struct avd_buf`. -/
structure Buf where
  /-- The number of the allocation that `cpu` points to. -/
  cpu : Option ℕ := none
  addr : ℕ := 0
  size : ℕ := 0
  deriving DecidableEq

/-- What storage is allocated with, and released with. -/
structure Extent where
  size : ℕ
  addr : ℕ
  deriving DecidableEq

/-- How a call of `dma_alloc_coherent` ends, and the address it writes. -/
structure Dma where
  ok : Bool := true
  addr : ℕ := 0

/-- The descriptors, and the device. -/
structure State (B : Type) where
  bufs : B → Buf := fun _ => {}
  /-- Every allocation, in order. -/
  allocs : List Extent := []
  /-- The calls of `dma_free_coherent`. -/
  released : List (ℕ × Extent) := []

/-- `-ENOMEM`. -/
def enomem : ℤ := -12

variable {B : Type} [DecidableEq B]

/-- An assignment through the pointer to a descriptor. -/
def State.set (s : State B) (b : B) (buf : Buf) : State B :=
  { s with bufs := Function.update s.bufs b buf }

/-- `avd_buf_free`. -/
def avdBufFree (s : State B) (b : B) : State B :=
  match (s.bufs b).cpu with
  | none => s
  | some id =>
      { s.set b {} with released := s.released ++ [(id, ⟨(s.bufs b).size, (s.bufs b).addr⟩)] }

/-- `dma_alloc_coherent(avd->dev, size, &buf->addr, GFP_KERNEL)`. -/
def dmaAllocCoherent (s : State B) (b : B) (size : ℕ) (dma : Dma) : Option ℕ × State B :=
  let s' := s.set b { s.bufs b with addr := dma.addr }
  if dma.ok then (some s.allocs.length, { s' with allocs := s.allocs ++ [⟨size, dma.addr⟩] })
  else (none, s')

/-- The type of `avd_buf_alloc`. -/
abbrev AvdBufAlloc (B : Type) : Type := State B → B → ℕ → Dma → ℤ × State B

/-- `avd_buf_alloc` of the driver. -/
def Pinned.avdBufAlloc : AvdBufAlloc B := fun s b size dma =>
  if (s.bufs b).cpu.isNone ∧ size < (s.bufs b).size then (0, s)
  else
    let s₁ := if (s.bufs b).cpu.isSome then avdBufFree s b else s
    if size = 0 then (enomem, s₁)
    else
      let s₂ := s₁.set b { s₁.bufs b with size := size }
      let (cpu, s₃) := dmaAllocCoherent s₂ b size dma
      (if cpu.isSome then 0 else enomem, s₃.set b { s₃.bufs b with cpu := cpu })

/-- The end of both replacements. -/
def allocate (s : State B) (b : B) (size : ℕ) (dma : Dma) : ℤ × State B :=
  if size = 0 then (enomem, s)
  else
    match dmaAllocCoherent s b size dma with
    | (none, s₁) => (enomem, s₁.set b {})
    | (some id, s₁) => (0, s₁.set b { s₁.bufs b with cpu := some id, size := size })

/-- `avd_buf_alloc` of `candidate.patch`. -/
def Candidate.avdBufAlloc : AvdBufAlloc B := fun s b size dma =>
  allocate (if (s.bufs b).cpu.isSome then avdBufFree s b else s) b size dma

/-- `avd_buf_alloc` of `alternative-reuse.patch`. -/
def Reuse.avdBufAlloc : AvdBufAlloc B := fun s b size dma =>
  if (s.bufs b).cpu.isSome ∧ size ≤ (s.bufs b).size then (0, s)
  else allocate (if (s.bufs b).cpu.isSome then avdBufFree s b else s) b size dma

/-! ### Histories -/

/-- A call, with the ending of the allocation that it may make. -/
inductive Call (B : Type) where
  | alloc (b : B) (size : ℕ) (dma : Dma)
  | free (b : B)

/-- One call, and what it returns. -/
def call (f : AvdBufAlloc B) (s : State B) : Call B → Option ℤ × State B
  | .alloc b size dma => ((f s b size dma).1, (f s b size dma).2)
  | .free b => (none, avdBufFree s b)

/-- A history of calls on zeroed descriptors, with what each call returned. -/
def run (f : AvdBufAlloc B) (calls : List (Call B)) : List (Option ℤ) × State B :=
  calls.foldl (fun p c => (p.1 ++ [(call f p.2 c).1], (call f p.2 c).2)) ([], {})

/-- No allocation of the call fails. -/
def Call.Succeeds : Call B → Prop
  | .alloc _ size dma => size = 0 ∨ dma.ok = true
  | .free _ => True

/-- The allocation has been made with these arguments, and not released. -/
def State.Live (s : State B) (id : ℕ) (e : Extent) : Prop :=
  s.allocs[id]? = some e ∧ id ∉ s.released.map Prod.fst

/-- The buffer has storage of this size, and says so. -/
def State.Holds (s : State B) (b : B) (size : ℕ) : Prop :=
  (s.bufs b).size = size ∧ ∃ id, (s.bufs b).cpu = some id ∧ s.Live id ⟨size, (s.bufs b).addr⟩

/-- **The books are balanced**: what is allocated and not released is what the descriptors record,
each in one place, and no allocation was released twice or with other arguments. -/
structure Balanced (s : State B) : Prop where
  /-- A descriptor without storage is zero. -/
  zero : ∀ b, (s.bufs b).cpu = none → s.bufs b = {}
  recorded : ∀ b id, (s.bufs b).cpu = some id → s.Live id ⟨(s.bufs b).size, (s.bufs b).addr⟩
  unshared : ∀ b b' id, (s.bufs b).cpu = some id → (s.bufs b').cpu = some id → b = b'
  held : ∀ id e, s.Live id e → ∃ b, (s.bufs b).cpu = some id
  once : (s.released.map Prod.fst).Nodup
  asAllocated : ∀ id e, (id, e) ∈ s.released → s.allocs[id]? = some e

variable {s : State B} {b b' : B} {size : ℕ} {dma : Dma}

/-! ### What each function does to the books -/

@[simp] lemma set_bufs_self (buf : Buf) : (s.set b buf).bufs b = buf := Function.update_self ..

lemma set_bufs_of_ne (buf : Buf) (h : b' ≠ b) : (s.set b buf).bufs b' = s.bufs b' :=
  Function.update_of_ne h ..

/-- Assigning a descriptor its own value changes nothing. -/
lemma set_self (h : s.bufs b = buf) : s.set b buf = s := by
  subst h
  simp [State.set]

/-- **A release keeps the books balanced**, and leaves the descriptor zero. -/
lemma Balanced.free (h : Balanced s) (b : B) :
    Balanced (avdBufFree s b) ∧ (avdBufFree s b).bufs b = {} := by
  rw [avdBufFree]
  rcases hcpu : (s.bufs b).cpu with _ | id
  · exact ⟨h, h.zero b hcpu⟩
  obtain ⟨halloc, hlive⟩ := h.recorded b id hcpu
  simp only
  have hself : ∀ b' id', (Function.update s.bufs b {} b').cpu = some id' →
      b' ≠ b ∧ (s.bufs b').cpu = some id' := by
    intro b' id' hb'
    by_cases hne : b' = b
    · subst hne
      simp at hb'
    · rw [Function.update_of_ne hne] at hb'
      exact ⟨hne, hb'⟩
  refine ⟨⟨?_, ?_, ?_, ?_, ?_, ?_⟩, set_bufs_self _⟩
  · intro b' hb'
    by_cases hne : b' = b
    · subst hne
      exact set_bufs_self _
    · simp only [State.set, Function.update_of_ne hne] at hb' ⊢
      exact h.zero b' hb'
  · intro b' id' hb'
    obtain ⟨hne, hother⟩ := hself b' id' hb'
    obtain ⟨halloc', hlive'⟩ := h.recorded b' id' hother
    have hid : id' ≠ id := fun heq => hne (h.unshared b' b id (heq ▸ hother) hcpu)
    simp only [State.set, Function.update_of_ne hne]
    exact ⟨halloc', by simp [hlive', hid]⟩
  · intro b₁ b₂ id' h₁ h₂
    exact h.unshared b₁ b₂ id' (hself b₁ id' h₁).2 (hself b₂ id' h₂).2
  · rintro id' e ⟨halloc', hlive'⟩
    simp only [List.map_append, List.mem_append, not_or] at hlive'
    obtain ⟨b', hb'⟩ := h.held id' e ⟨halloc', hlive'.1⟩
    have hne : b' ≠ b := by
      rintro rfl
      obtain rfl : id = id' := Option.some.inj (hcpu.symm.trans hb')
      simp at hlive'
    exact ⟨b', by simpa [State.set, Function.update_of_ne hne] using hb'⟩
  · rw [List.map_append, List.map_singleton, List.nodup_append]
    refine ⟨h.once, List.nodup_singleton _, fun a ha a' ha' => ?_⟩
    rw [List.mem_singleton.mp ha']
    rintro rfl
    exact hlive ha
  · intro id' e hmem
    rcases List.mem_append.mp hmem with hmem | hmem
    · exact h.asAllocated id' e hmem
    · obtain ⟨rfl, rfl⟩ := Prod.mk.inj (List.mem_singleton.mp hmem)
      exact halloc

/-- The state after an allocation that succeeds. -/
def State.grant (s : State B) (b : B) (size addr : ℕ) : State B :=
  { s.set b ⟨some s.allocs.length, addr, size⟩ with allocs := s.allocs ++ [⟨size, addr⟩] }

/-- On a zero descriptor the end of both replacements makes an allocation, or changes nothing. -/
lemma allocate_eq (hb : s.bufs b = {}) :
    allocate s b size dma =
      if size ≠ 0 ∧ dma.ok = true then (0, s.grant b size dma.addr) else (enomem, s) := by
  rw [allocate]
  by_cases hsize : size = 0
  · rw [if_pos hsize, if_neg (by simp [hsize])]
  · rw [if_neg hsize, dmaAllocCoherent]
    rcases hok : dma.ok with _ | _
    · simp [State.set, ← hb]
    · simp [State.set, State.grant, hb, hsize]

omit [DecidableEq B] in
/-- The number of the next allocation has not been released. -/
lemma Balanced.length_notMem (h : Balanced s) : s.allocs.length ∉ s.released.map Prod.fst := by
  intro hmem
  obtain ⟨⟨id, e⟩, hmem, hid⟩ := List.mem_map.mp hmem
  have halloc := h.asAllocated id e hmem
  rw [show id = s.allocs.length from hid] at halloc
  simp at halloc

/-- The next allocation is live, and the others are as before. -/
lemma live_grant_iff (h : Balanced s) {size addr id : ℕ} {e : Extent} :
    (s.grant b size addr).Live id e ↔ s.Live id e ∨ id = s.allocs.length ∧ e = ⟨size, addr⟩ := by
  have hreleased := h.length_notMem
  rcases Nat.lt_trichotomy id s.allocs.length with hlt | rfl | hgt
  · have hne : id ≠ s.allocs.length := Nat.ne_of_lt hlt
    simp [State.Live, State.grant, State.set, List.getElem?_append_left hlt, hne]
  · simp [State.Live, State.grant, State.set, hreleased, eq_comm]
  · have hne : id ≠ s.allocs.length := Nat.ne_of_gt hgt
    have hnone : s.allocs[id]? = none := List.getElem?_eq_none (Nat.le_of_lt hgt)
    have hnone' : (s.allocs ++ [(⟨size, addr⟩ : Extent)])[id]? = none :=
      List.getElem?_eq_none (by simpa using Nat.succ_le_of_lt hgt)
    simp [State.Live, State.grant, State.set, hne, hnone, hnone']

/-- **An allocation for a zero descriptor keeps the books balanced.** -/
lemma Balanced.grant (h : Balanced s) (hb : s.bufs b = {}) (size addr : ℕ) :
    Balanced (s.grant b size addr) ∧ (s.grant b size addr).Holds b size := by
  have hself : (s.grant b size addr).bufs b = ⟨some s.allocs.length, addr, size⟩ :=
    Function.update_self ..
  have hne : ∀ {b'}, b' ≠ b → (s.grant b size addr).bufs b' = s.bufs b' :=
    fun hb' => Function.update_of_ne hb' ..
  -- No other descriptor has the number of the next allocation.
  have hfresh : ∀ b', (s.bufs b').cpu ≠ some s.allocs.length := by
    intro b' hb'
    have hlive := (h.recorded b' _ hb').1
    simp at hlive
  have hlive : (s.grant b size addr).Live s.allocs.length ⟨size, addr⟩ :=
    (live_grant_iff h).mpr (Or.inr ⟨rfl, rfl⟩)
  refine ⟨⟨?_, ?_, ?_, ?_, h.once, ?_⟩, ?_⟩
  · intro b' hb'
    by_cases heq : b' = b
    · subst heq
      simp [hself] at hb'
    · rw [hne heq] at hb' ⊢
      exact h.zero b' hb'
  · intro b' id hb'
    by_cases heq : b' = b
    · subst heq
      rw [hself] at hb' ⊢
      obtain rfl := Option.some.inj hb'
      exact hlive
    · rw [hne heq] at hb' ⊢
      exact (live_grant_iff h).mpr (Or.inl (h.recorded b' id hb'))
  · intro b₁ b₂ id h₁ h₂
    by_cases heq₁ : b₁ = b <;> by_cases heq₂ : b₂ = b
    · rw [heq₁, heq₂]
    · rw [heq₁, hself] at h₁
      rw [hne heq₂, ← h₁] at h₂
      exact absurd h₂ (hfresh b₂)
    · rw [heq₂, hself] at h₂
      rw [hne heq₁, ← h₂] at h₁
      exact absurd h₁ (hfresh b₁)
    · rw [hne heq₁] at h₁
      rw [hne heq₂] at h₂
      exact h.unshared b₁ b₂ id h₁ h₂
  · intro id e hide
    rcases (live_grant_iff h).mp hide with hold | ⟨rfl, -⟩
    · obtain ⟨b', hb'⟩ := h.held id e hold
      have heq : b' ≠ b := by
        rintro rfl
        simp [hb] at hb'
      exact ⟨b', by rwa [hne heq]⟩
    · exact ⟨b, by rw [hself]⟩
  · intro id e hmem
    have halloc := h.asAllocated id e hmem
    exact List.getElem?_append_left (List.getElem?_eq_some_iff.mp halloc).1 ▸ halloc
  · rw [State.Holds, hself]
    exact ⟨rfl, s.allocs.length, rfl, hlive⟩

/-! ### What a call returns -/

/-- What a call of a replacement leads to: success with a descriptor in `Good`, or failure and a zero
descriptor, and balanced books. -/
structure Outcome (Good : State B → Prop) (b : B) (p : ℤ × State B) : Prop where
  balanced : Balanced p.2
  result : p.1 = 0 ∧ Good p.2 ∨ p.1 = enomem ∧ p.2.bufs b = {}

lemma allocate_outcome (h : Balanced s) (hb : s.bufs b = {}) (size : ℕ) (dma : Dma) :
    Outcome (fun s' => size ≠ 0 ∧ s'.Holds b size) b (allocate s b size dma) := by
  rw [allocate_eq hb]
  split_ifs with hok
  · obtain ⟨hbalanced, hholds⟩ := h.grant hb size dma.addr
    exact ⟨hbalanced, Or.inl ⟨rfl, hok.1, hholds⟩⟩
  · exact ⟨h, Or.inr ⟨rfl, hb⟩⟩

/-- `if (buf->cpu) avd_buf_free(avd, buf)`. -/
lemma freeIfHeld_eq (s : State B) (b : B) :
    (if (s.bufs b).cpu.isSome then avdBufFree s b else s) = avdBufFree s b := by
  split_ifs with hcpu
  · rfl
  · rw [avdBufFree, Option.not_isSome_iff_eq_none.mp hcpu]

lemma candidate_outcome (h : Balanced s) (b : B) (size : ℕ) (dma : Dma) :
    Outcome (fun s' => size ≠ 0 ∧ s'.Holds b size) b (Candidate.avdBufAlloc s b size dma) := by
  rw [Candidate.avdBufAlloc, freeIfHeld_eq]
  exact allocate_outcome (h.free b).1 (h.free b).2 size dma

lemma reuse_outcome (h : Balanced s) (b : B) (size : ℕ) (dma : Dma) :
    Outcome (fun s' => ∃ n, size ≤ n ∧ s'.Holds b n) b (Reuse.avdBufAlloc s b size dma) := by
  rw [Reuse.avdBufAlloc, freeIfHeld_eq]
  split_ifs with hkeep
  · obtain ⟨id, hid⟩ := Option.isSome_iff_exists.mp hkeep.1
    exact ⟨h, Or.inl ⟨rfl, (s.bufs b).size, hkeep.2, rfl, id, hid, h.recorded b id hid⟩⟩
  · obtain ⟨hbalanced, hresult⟩ := allocate_outcome (h.free b).1 (h.free b).2 size dma
    refine ⟨hbalanced, ?_⟩
    rcases hresult with ⟨hzero, -, hholds⟩ | hfailed
    · exact Or.inl ⟨hzero, size, Nat.le_refl size, hholds⟩
    · exact Or.inr hfailed

omit [DecidableEq B] in
/-- Success is told from the descriptor. -/
lemma Outcome.zero_iff {Good : State B → Prop} {p : ℤ × State B} (h : Outcome Good b p)
    (hgood : ∀ s', Good s' → ∃ n, s'.Holds b n) : p.1 = 0 ↔ Good p.2 := by
  rcases h.result with ⟨hzero, hp⟩ | ⟨hfailed, hb⟩
  · exact ⟨fun _ => hp, fun _ => hzero⟩
  · constructor
    · intro hzero
      rw [hfailed] at hzero
      exact absurd hzero (by decide)
    · intro hp
      obtain ⟨n, -, id, hid, -⟩ := hgood _ hp
      simp [hb] at hid

/-! ### Histories -/

lemma run_concat (f : AvdBufAlloc B) (calls : List (Call B)) (c : Call B) :
    run f (calls ++ [c]) =
      ((run f calls).1 ++ [(call f (run f calls).2 c).1], (call f (run f calls).2 c).2) := by
  rw [run, List.foldl_concat]
  rfl

omit [DecidableEq B] in
/-- Before the first call nothing is allocated. -/
lemma balanced_init : Balanced ({} : State B) := by
  refine ⟨fun _ _ => rfl, nofun, nofun, ?_, List.nodup_nil, nofun⟩
  rintro id e ⟨halloc, -⟩
  simp at halloc

/-- **The books are balanced after every history**, if every allocation keeps them so. -/
theorem run_balanced {f : AvdBufAlloc B}
    (hf : ∀ s b size dma, Balanced s → Balanced (f s b size dma).2) (calls : List (Call B)) :
    Balanced (run f calls).2 := by
  induction calls using List.reverseRecOn with
  | nil => exact balanced_init
  | append_singleton calls c ih =>
      rw [run_concat]
      cases c with
      | alloc b size dma => exact hf _ b size dma ih
      | free b => exact (ih.free b).1

/-- Without a failure the driver's function does what the candidate does. -/
lemma pinned_eq_candidate (h : Balanced s) (hok : size = 0 ∨ dma.ok = true) :
    Pinned.avdBufAlloc s b size dma = Candidate.avdBufAlloc s b size dma := by
  have hb := (h.free b).2
  have hstale : ¬ ((s.bufs b).cpu.isNone ∧ size < (s.bufs b).size) := by
    rintro ⟨hcpu, hlt⟩
    simp [h.zero b (Option.isNone_iff_eq_none.mp hcpu)] at hlt
  rw [Pinned.avdBufAlloc, if_neg hstale, Candidate.avdBufAlloc, freeIfHeld_eq, allocate_eq hb]
  by_cases hsize : size = 0
  · simp [hsize]
  · have hdma := hok.resolve_left hsize
    simp [hsize, hdma, dmaAllocCoherent, State.set, State.grant]

/-- After a failure they differ: the driver's function takes a smaller request for granted. -/
example : let s := (run (B := Unit) Pinned.avdBufAlloc [.alloc () 4096 { ok := false }]).2
    (Pinned.avdBufAlloc s () 2048 {}).1 = 0 ∧ (s.bufs ()).cpu = none := by
  decide

lemma run_pinned_eq {calls : List (Call B)} (hok : ∀ c ∈ calls, c.Succeeds) :
    run Pinned.avdBufAlloc calls = run Candidate.avdBufAlloc calls := by
  induction calls using List.reverseRecOn with
  | nil => rfl
  | append_singleton calls c ih =>
      rw [List.forall_mem_append, List.forall_mem_singleton] at hok
      rw [run_concat, run_concat, ih hok.1]
      cases c with
      | alloc b size dma =>
          have hbalanced := run_balanced (f := Candidate.avdBufAlloc)
            (fun s b size dma h => (candidate_outcome h b size dma).balanced) calls
          rw [call, call, pinned_eq_candidate hbalanced hok.2]
      | free b => rfl

/-- **What the replacements promise**, after every history of calls: the candidate succeeds exactly if
the buffer then has storage of the requested size, and leaves a zero descriptor otherwise; the
alternative succeeds exactly if the buffer has storage that is large enough; with both the books are
balanced; and without a failure the candidate and the driver's function agree. -/
theorem allocation_laws (calls : List (Call B)) :
    (∀ b size dma,
      let s := (run Candidate.avdBufAlloc calls).2
      let p := Candidate.avdBufAlloc s b size dma
      (p.1 = 0 ↔ size ≠ 0 ∧ p.2.Holds b size) ∧ (p.1 ≠ 0 → p.2.bufs b = {})) ∧
    (∀ b size dma,
      let s := (run Reuse.avdBufAlloc calls).2
      let p := Reuse.avdBufAlloc s b size dma
      p.1 = 0 ↔ ∃ n, size ≤ n ∧ p.2.Holds b n) ∧
    (∀ f ∈ [Candidate.avdBufAlloc, Reuse.avdBufAlloc],
      let s := (run f calls).2
      (s.released.map Prod.fst).Nodup ∧ (∀ id e, (id, e) ∈ s.released → s.allocs[id]? = some e) ∧
        ∀ id e, s.Live id e ↔
          ∃! b, (s.bufs b).cpu = some id ∧ (s.bufs b).size = e.size ∧ (s.bufs b).addr = e.addr) ∧
    ((∀ c ∈ calls, c.Succeeds) →
      (run Candidate.avdBufAlloc calls).1 = (run Pinned.avdBufAlloc calls).1 ∧
        ∀ b, ((run Candidate.avdBufAlloc calls).2.bufs b).size =
          ((run Pinned.avdBufAlloc calls).2.bufs b).size) := by
  have hcandidate := run_balanced (f := Candidate.avdBufAlloc)
    (fun s b size dma h => (candidate_outcome h b size dma).balanced) calls
  have hreuse := run_balanced (f := Reuse.avdBufAlloc)
    (fun s b size dma h => (reuse_outcome h b size dma).balanced) calls
  refine ⟨fun b size dma => ?_, fun b size dma => ?_, fun f hf => ?_, fun hok => ?_⟩
  · have houtcome := candidate_outcome hcandidate b size dma
    refine ⟨houtcome.zero_iff fun s' hs' => ⟨size, hs'.2⟩, fun hne => ?_⟩
    exact (houtcome.result.resolve_left fun hzero => hne hzero.1).2
  · have houtcome := reuse_outcome hreuse b size dma
    exact houtcome.zero_iff fun s' ⟨n, hn⟩ => ⟨n, hn.2⟩
  · have hbalanced : Balanced (run f calls).2 := by
      rcases List.mem_pair.mp hf with rfl | rfl
      · exact hcandidate
      · exact hreuse
    refine ⟨hbalanced.once, hbalanced.asAllocated, fun id e => ⟨fun hlive => ?_, ?_⟩⟩
    · obtain ⟨b, hb⟩ := hbalanced.held id e hlive
      have he := Option.some.inj (hlive.1.symm.trans (hbalanced.recorded b id hb).1)
      exact ⟨b, ⟨hb, by rw [he], by rw [he]⟩, fun b' hb' => hbalanced.unshared b' b id hb'.1 hb⟩
    · rintro ⟨b, ⟨hb, hsize, haddr⟩, -⟩
      have hlive := hbalanced.recorded b id hb
      rwa [hsize, haddr] at hlive
  · rw [run_pinned_eq hok]
    exact ⟨rfl, fun _ => rfl⟩

end OmarchyM1Video.Driver.Buffers
