import OmarchyM1Video.C.Memory

/-!
The state that the two kernel recorders share, `struct atr_capture` of
`experiments/hevc-avd-trace/kernel/avd-trace-core.h` and `struct cmd_capture` of
`experiments/hevc-avd-command-trace/kernel/cmd-core.h`: which context is recorded, how far it is,
and the sticky error bits.

The functions of the two headers that work on it are the same but for their names, so they are
stated once.

* `Phase`, `Core`: the state;
* `Core.opened`, `Core.bind`, `Core.start`, `Core.done`, `Core.close`, `Core.sealUp`: the functions;
* `Op`, `Core.next`: an operation with its arguments, and what it does;
* `Core.next_clean`: what an operation can do that leaves no error bit.
-/

namespace OmarchyM1Video.Recorder

open OmarchyM1Video.C

/-- `enum atr_phase`, `enum cmd_phase`. -/
inductive Phase where
  | off | armed | active | drained | sealed
  deriving DecidableEq, Repr

/-- The number of the phase in a snapshot. -/
def Phase.code : Phase → ℕ
  | off => 0
  | armed => 1
  | active => 2
  | drained => 3
  | sealed => 4

/-- `enum atr_error`, `enum cmd_error`. -/
inductive Fault where
  | foreign | overflow | extent | order | failed | shape | wordsFull
  deriving DecidableEq, Repr

/-- The bit of an error. -/
def Fault.bit : Fault → ℕ
  | foreign => 1
  | overflow => 2
  | extent => 4
  | order => 8
  | failed => 16
  | shape => 32
  | wordsFull => 64

/-- `ATR_PICTURES`, `CMD_PICTURES`. -/
def pictureCount : ℕ := 300

/-- `ATR_FIRST`, `CMD_FIRST`. -/
def firstDetail : ℕ := 24

/-- `ATR_LAST`, `CMD_LAST`. -/
def lastDetail : ℕ := 34

/-- The fields that both captures have. -/
structure Core where
  run : ℕ := 0
  context : ℕ := 0
  pid : ℕ := 0
  phase : Phase := .off
  errors : ℕ := 0
  pictures : ℕ := 0
  completions : ℕ := 0
  pending : ℕ := 0
  deriving DecidableEq, Repr

namespace Core

/-- `c->errors |= e`. -/
def raise (c : Core) (e : Fault) : Core := { c with errors := c.errors ||| e.bit }

/-- `if (p) c->errors |= e`. -/
def raiseIf (c : Core) (p : Prop) [Decidable p] (e : Fault) : Core := if p then c.raise e else c

/-- The capture is armed and not yet sealed. -/
def live (c : Core) : Bool := c.phase = .armed || c.phase = .active || c.phase = .drained

/-- `atr_open`, `cmd_open`. -/
def opened (c : Core) (pid : ℕ) : Core := c.raiseIf (c.live ∧ pid ≠ c.pid) .foreign

/-- `atr_bind`, `cmd_bind`. -/
def bind (c : Core) (pid context : ℕ) (hevc : Bool) : Core :=
  if c.phase = .armed ∧ pid = c.pid ∧ hevc then { c with context, phase := .active }
  else c.raiseIf (c.live ∧ (context ≠ c.context ∨ ¬hevc ∨ c.phase = .drained)) .foreign

/-- `atr_selected`, `cmd_selected`. -/
def selected (c : Core) (context : ℕ) : Bool := c.phase = .active && context = c.context

/-- `atr_start`, `cmd_start`, up to the shape of the picture. -/
def start (c : Core) (context : ℕ) (malformed : Bool) : Core :=
  if c.selected context then
    let c₁ := c.raiseIf (c.pending ≠ 0) .order
    let c₂ := { c₁ with pictures := wrap64 (c.pictures + 1), pending := wrap64 (c.pictures + 1) }
    let c₃ := c₂.raiseIf (pictureCount < wrap64 (c.pictures + 1)) .extent
    c₃.raiseIf malformed .shape
  else c

/-- `atr_done`, `cmd_done`. -/
def done (c : Core) (context : ℕ) (success : Bool) : Core :=
  if c.selected context then
    let c₁ := c.raiseIf (c.pending = 0) .order
    let c₂ := { c₁ with pending := 0, completions := wrap64 (c.completions + 1) }
    c₂.raiseIf (¬success) .failed
  else c

/-- `atr_close`, `cmd_close`. -/
def close (c : Core) (context : ℕ) : Core :=
  if c.selected context then
    { c.raiseIf (c.pictures ≠ pictureCount ∨ c.completions ≠ pictureCount ∨ c.pending ≠ 0)
        .extent with
      phase := .drained }
  else c

/-- Whether `atr_seal`, `cmd_seal` returns one. -/
def sealable (c : Core) : Bool := c.phase = .drained || c.phase = .armed

/-- `atr_seal`, `cmd_seal`. -/
def sealUp (c : Core) : Core :=
  if c.sealable then { c.raiseIf (c.phase = .armed) .extent with phase := .sealed } else c

/-- The capture that `arm` makes: zeroed, with its run, its process and its phase. -/
def armed (run pid : ℕ) : Core := { run, pid, phase := .armed }

end Core

/-! ### Operations -/

/-- An operation on a capture, with what it is called with; `extra` is whatever else the recorder
has. -/
inductive Op (σ δ ξ : Type) where
  | opened (pid : ℕ)
  | bind (pid context : ℕ) (hevc : Bool)
  | start (context : ℕ) (shape : σ)
  | done (context : ℕ) (result : δ)
  | close (context : ℕ)
  | sealUp
  | extra (x : ξ)

section Next

variable {σ δ ξ : Type} (malformed : σ → Bool) (succeeded : δ → Bool)

/-- What an operation does to the shared state. -/
def Core.next (c : Core) : Op σ δ ξ → Core
  | .opened pid => c.opened pid
  | .bind pid context hevc => c.bind pid context hevc
  | .start context shape => c.start context (malformed shape)
  | .done context result => c.done context (succeeded result)
  | .close context => c.close context
  | .sealUp => c.sealUp
  | .extra _ => c

/-- An operation that leaves no error bit, as the shared state sees it. -/
inductive Clean (c : Core) : Op σ δ ξ → Core → Prop where
  | opened {pid} (h : c.live = true → pid = c.pid) : Clean c (.opened pid) c
  | bind {context} (hphase : c.phase = .armed) :
      Clean c (.bind c.pid context true) { c with context, phase := .active }
  | rebind {pid context hevc} (h : c.live = true → context = c.context ∧ hevc = true ∧
      (c.phase = .armed ∧ pid ≠ c.pid ∨ c.phase = .active)) : Clean c (.bind pid context hevc) c
  | start {context shape} (hsel : c.selected context = true) (hpending : c.pending = 0)
      (hcount : wrap64 (c.pictures + 1) ≤ pictureCount) (hshape : malformed shape = false) :
      Clean c (.start context shape)
        { c with pictures := wrap64 (c.pictures + 1), pending := wrap64 (c.pictures + 1) }
  | done {context result} (hsel : c.selected context = true) (hpending : c.pending ≠ 0)
      (hresult : succeeded result = true) :
      Clean c (.done context result) { c with pending := 0, completions := wrap64 (c.completions + 1) }
  | close {context} (hsel : c.selected context = true) (hpictures : c.pictures = pictureCount)
      (hcompletions : c.completions = pictureCount) (hpending : c.pending = 0) :
      Clean c (.close context) { c with phase := .drained }
  | strayStart {context shape} (hsel : c.selected context = false) : Clean c (.start context shape) c
  | strayDone {context result} (hsel : c.selected context = false) : Clean c (.done context result) c
  | strayClose {context} (hsel : c.selected context = false) : Clean c (.close context) c
  | sealUp (hphase : c.phase = .drained) : Clean c .sealUp { c with phase := .sealed }
  | refused (hphase : c.sealable = false) : Clean c .sealUp c
  | extra {x} : Clean c (.extra x) c

end Next

namespace Core

variable {c : Core} {e : Fault}

lemma raise_errors_ne : (c.raise e).errors ≠ 0 := by
  rw [raise, ne_eq, Nat.or_eq_zero_iff]
  rintro ⟨_, h⟩
  cases e <;> exact absurd h (by decide)

/-- A check that leaves no error bit has found nothing. -/
lemma raiseIf_clean {p : Prop} [Decidable p] (h : (c.raiseIf p e).errors = 0) :
    ¬p ∧ c.raiseIf p e = c := by
  by_cases hp : p
  · rw [raiseIf, if_pos hp] at h
    exact absurd h raise_errors_ne
  · exact ⟨hp, if_neg hp⟩

lemma raiseIf_errors (p : Prop) [Decidable p] : BitsKept c.errors (c.raiseIf p e).errors := by
  rw [raiseIf]
  split_ifs
  · exact BitsKept.or_left _ _
  · rfl

lemma selected_iff {context : ℕ} :
    c.selected context = true ↔ c.phase = .active ∧ context = c.context := by
  simp [selected]

@[simp] lemma raiseIf_run (p : Prop) [Decidable p] : (c.raiseIf p e).run = c.run := by
  rw [raiseIf]
  split_ifs <;> rfl

@[simp] lemma raiseIf_pictures (p : Prop) [Decidable p] :
    (c.raiseIf p e).pictures = c.pictures := by
  rw [raiseIf]
  split_ifs <;> rfl

@[simp] lemma raiseIf_pending (p : Prop) [Decidable p] : (c.raiseIf p e).pending = c.pending := by
  rw [raiseIf]
  split_ifs <;> rfl

@[simp] lemma raiseIf_selected (p : Prop) [Decidable p] (context : ℕ) :
    (c.raiseIf p e).selected context = c.selected context := by
  rw [raiseIf]
  split_ifs <;> rfl

lemma start_run (context : ℕ) (malformed : Bool) : (c.start context malformed).run = c.run := by
  rw [start]
  split_ifs <;> simp

/-- A start leaves the context selected. -/
lemma start_selected (context : ℕ) (malformed : Bool) :
    (c.start context malformed).selected context = c.selected context := by
  rw [start]
  split_ifs with hsel
  · simp only [raiseIf_selected]
    exact raiseIf_selected _ context
  · rfl

lemma done_run (context : ℕ) (success : Bool) : (c.done context success).run = c.run := by
  rw [done]
  split_ifs <;> simp

lemma done_errors (context : ℕ) (success : Bool) :
    BitsKept c.errors (c.done context success).errors := by
  rw [done]
  split_ifs
  · refine BitsKept.trans ?_ (raiseIf_errors _)
    exact raiseIf_errors _
  · rfl

/-- A check finds the same whatever error bits are set. -/
lemma raiseIf_or (p : Prop) [Decidable p] (b : ℕ) :
    ({ c with errors := c.errors ||| b } : Core).raiseIf p e =
      { c.raiseIf p e with errors := (c.raiseIf p e).errors ||| b } := by
  rw [raiseIf, raiseIf]
  split_ifs
  · simp only [raise, Nat.or_assoc, Nat.or_comm b]
  · rfl

/-- A completion counts the same whatever error bits are set. -/
lemma done_or (context : ℕ) (success : Bool) (b : ℕ) :
    ({ c with errors := c.errors ||| b } : Core).done context success =
      { c.done context success with errors := (c.done context success).errors ||| b } := by
  rw [done, done, selected, selected]
  split_ifs
  · simp only [raiseIf, raise]
    split_ifs <;> simp only [Nat.or_assoc, Nat.or_comm b]
  · rfl

lemma sealUp_errors : BitsKept c.errors c.sealUp.errors := by
  rw [sealUp]
  split_ifs
  · exact raiseIf_errors _
  · rfl

section Next

variable {σ δ ξ : Type} {malformed : σ → Bool} {succeeded : δ → Bool} {op : Op σ δ ξ}

/-- The run of a capture is fixed. -/
lemma next_run (op : Op σ δ ξ) : (c.next malformed succeeded op).run = c.run := by
  cases op with
  | opened pid => simp [next, opened]
  | bind pid context hevc =>
      rw [next, bind]
      split_ifs <;> simp
  | start context shape => exact start_run context _
  | done context result => exact done_run context _
  | close context =>
      rw [next, close]
      split_ifs <;> simp
  | sealUp =>
      rw [next, sealUp]
      split_ifs <;> simp
  | extra x => rfl

/-- A picture is counted only by a start, and only while a context is recorded. -/
lemma next_pictures (h : c.phase = .active → ∀ context shape, op ≠ .start context shape) :
    (c.next malformed succeeded op).pictures = c.pictures := by
  cases op with
  | opened pid => simp [next, opened]
  | bind pid context hevc =>
      rw [next, bind]
      split_ifs <;> simp
  | start context shape =>
      rw [next, start, if_neg]
      exact fun hsel => h (selected_iff.mp hsel).1 context shape rfl
  | done context result =>
      rw [next, done]
      split_ifs <;> simp
  | close context =>
      rw [next, close]
      split_ifs <;> simp
  | sealUp =>
      rw [next, sealUp]
      split_ifs <;> simp
  | extra x => rfl

/-- What is pending changes only by a start or a completion, and only while a context is recorded. -/
lemma next_pending (hstart : c.phase = .active → ∀ context shape, op ≠ .start context shape)
    (hdone : c.phase = .active → ∀ context result, op ≠ .done context result) :
    (c.next malformed succeeded op).pending = c.pending := by
  cases op with
  | opened pid => simp [next, opened]
  | bind pid context hevc =>
      rw [next, bind]
      split_ifs <;> simp
  | start context shape =>
      rw [next, start, if_neg]
      exact fun hsel => hstart (selected_iff.mp hsel).1 context shape rfl
  | done context result =>
      rw [next, done, if_neg]
      exact fun hsel => hdone (selected_iff.mp hsel).1 context result rfl
  | close context =>
      rw [next, close]
      split_ifs <;> simp
  | sealUp =>
      rw [next, sealUp]
      split_ifs <;> simp
  | extra x => rfl

/-- A sealed capture stays as it is. -/
lemma next_sealed (h : c.phase = .sealed) (op : Op σ δ ξ) : c.next malformed succeeded op = c := by
  have hlive : c.live = false := by simp [live, h]
  have hsel : ∀ context, c.selected context = false := by simp [selected, h]
  cases op with
  | opened pid => simp [next, opened, raiseIf, hlive]
  | bind pid context hevc => simp [next, bind, raiseIf, hlive, h]
  | start context shape => simp [next, start, hsel]
  | done context result => simp [next, done, hsel]
  | close context => simp [next, close, hsel]
  | sealUp => simp [next, sealUp, sealable, h]
  | extra x => rfl

/-- No operation clears an error bit. -/
theorem next_errors (op : Op σ δ ξ) : BitsKept c.errors (c.next malformed succeeded op).errors := by
  cases op with
  | opened pid => exact raiseIf_errors _
  | bind pid context hevc =>
      rw [next, bind]
      split_ifs
      · rfl
      · exact raiseIf_errors _
  | start context shape =>
      rw [next, start]
      split_ifs
      · refine BitsKept.trans ?_ (raiseIf_errors _)
        refine BitsKept.trans ?_ (raiseIf_errors _)
        exact raiseIf_errors _
      · rfl
  | done context result => exact done_errors context _
  | close context =>
      rw [next, close]
      split_ifs
      · exact raiseIf_errors _
      · rfl
  | sealUp => exact sealUp_errors
  | extra x => rfl

/-- **What an operation can do that leaves no error bit.** -/
theorem next_clean (h : (c.next malformed succeeded op).errors = 0) :
    c.errors = 0 ∧ Clean malformed succeeded c op (c.next malformed succeeded op) := by
  refine ⟨(next_errors op).eq_zero h, ?_⟩
  cases op with
  | opened pid =>
      obtain ⟨hnot, heq⟩ := raiseIf_clean h
      rw [next, opened, heq]
      exact .opened fun hlive => not_not.mp fun hne => hnot ⟨hlive, hne⟩
  | bind pid context hevc =>
      rw [next, bind] at h ⊢
      split_ifs at h ⊢ with hbind
      · obtain ⟨hphase, rfl, rfl⟩ := hbind
        exact .bind hphase
      · obtain ⟨hnot, heq⟩ := raiseIf_clean h
        rw [heq]
        refine .rebind fun hlive => ?_
        simp only [hlive, true_and, not_or, not_not, Bool.not_eq_true, ne_eq] at hnot
        obtain ⟨hcontext, hhevc, hdrained⟩ := hnot
        refine ⟨hcontext, by simpa using hhevc, ?_⟩
        simp only [live, Bool.or_eq_true, decide_eq_true_eq] at hlive
        rcases hlive with (harmed | hactive) | hd
        · refine Or.inl ⟨harmed, fun hpid => hbind ⟨harmed, hpid, by simpa using hhevc⟩⟩
        · exact Or.inr hactive
        · exact absurd hd hdrained
  | start context shape =>
      rw [next, start] at h ⊢
      split_ifs at h ⊢ with hsel
      · obtain ⟨hshape, heq₃⟩ := raiseIf_clean h
        rw [heq₃] at h ⊢
        obtain ⟨hcount, heq₂⟩ := raiseIf_clean h
        rw [heq₂] at h ⊢
        obtain ⟨hpending, heq₁⟩ := raiseIf_clean (c := c) h
        rw [heq₁]
        exact .start hsel (not_not.mp hpending) (Nat.not_lt.mp hcount) (by simpa using hshape)
      · exact .strayStart (by simpa using hsel)
  | done context result =>
      rw [next, done] at h ⊢
      split_ifs at h ⊢ with hsel
      · obtain ⟨hresult, heq₂⟩ := raiseIf_clean h
        rw [heq₂] at h ⊢
        obtain ⟨hpending, heq₁⟩ := raiseIf_clean (c := c) h
        rw [heq₁]
        exact .done hsel hpending (by simpa using hresult)
      · exact .strayDone (by simpa using hsel)
  | close context =>
      rw [next, close] at h ⊢
      split_ifs at h ⊢ with hsel
      · obtain ⟨hend, heq⟩ := raiseIf_clean (c := c) h
        rw [heq]
        simp only [not_or, not_not, ne_eq] at hend
        exact .close hsel hend.1 hend.2.1 hend.2.2
      · exact .strayClose (by simpa using hsel)
  | sealUp =>
      rw [next, sealUp] at h ⊢
      split_ifs at h ⊢ with hseal
      · obtain ⟨harmed, heq⟩ := raiseIf_clean (c := c) h
        rw [heq]
        refine .sealUp ?_
        simpa [sealable, harmed] using hseal
      · exact .refused (by simpa using hseal)
  | extra x => exact .extra

end Next

end Core

end OmarchyM1Video.Recorder
