import Mathlib.Data.List.Induction
import OmarchyM1Video.Recorder.Core

/-!
What a sealed capture without an error bit says about the operations that led to it.

A recorder is a machine whose operations do to the shared state what `Core.next` says, and perhaps
set further error bits (`Machine`).  Its run from the arming on goes through four stages
(`Machine.Stage`), and each stage is known from the operations alone as long as no error bit is set.

* `Machine`, `Machine.run`: a recorder and its runs;
* `BeforeBind`, `DuringRecording`, `AfterClose`: the operations each stage admits;
* `Recorded`: the operations of a whole recording;
* `Machine.sealed_clean`: a run that ends sealed and without an error bit is a recording.
-/

namespace OmarchyM1Video.Recorder

open OmarchyM1Video.C

variable {σ δ ξ S : Type}

/-- A recorder: its states with the shared part, its operations, and when a picture is malformed or
has succeeded. -/
structure Machine (σ δ ξ S : Type) where
  core : S → Core
  /-- An operation; none, if it accesses an array out of range. -/
  step : Op σ δ ξ → S → Option S
  malformed : σ → Bool
  succeeded : δ → Bool
  /-- The operation does to the shared state what `Core.next` says, up to further error bits. -/
  lawful : ∀ {op s s'}, step op s = some s' → ∃ e,
    core s' = { (core s).next malformed succeeded op with
      errors := ((core s).next malformed succeeded op).errors ||| e }

namespace Machine

variable (M : Machine σ δ ξ S)

/-- The operations one after the other. -/
def run (ops : List (Op σ δ ξ)) (s : S) : Option S := ops.foldlM (fun s op => M.step op s) s

variable {M} {ops : List (Op σ δ ξ)} {op : Op σ δ ξ} {s s' t : S}

@[simp] lemma run_nil : M.run [] s = some t ↔ s = t := by
  simp [run]

lemma run_cons (h : M.step op s = some s') : M.run (op :: ops) s = M.run ops s' := by
  rw [run, List.foldlM_cons, h]
  rfl

lemma run_append {ops' : List (Op σ δ ξ)} (h : M.run ops s = some s') :
    M.run (ops ++ ops') s = M.run ops' s' := by
  rw [run, List.foldlM_append, show ops.foldlM _ s = some s' from h]
  rfl

lemma run_concat : M.run (ops ++ [op]) s = some t ↔ ∃ s', M.run ops s = some s' ∧
    M.step op s' = some t := by
  simp [run, List.foldlM_append, Option.bind_eq_some_iff]

/-- A property that lets every operation through, and that every operation keeps, lets every run
through. -/
lemma run_total {I : S → Prop} (hstep : ∀ {s}, I s → ∀ op, ∃ s', M.step op s = some s' ∧ I s')
    (hs : I s) (ops : List (Op σ δ ξ)) : ∃ s', M.run ops s = some s' ∧ I s' := by
  induction ops using List.reverseRecOn with
  | nil => exact ⟨s, run_nil.mpr rfl, hs⟩
  | append_singleton ops op ih =>
      obtain ⟨t, ht, hI⟩ := ih
      obtain ⟨s', hs', hI'⟩ := hstep hI op
      exact ⟨s', run_concat.mpr ⟨t, ht, hs'⟩, hI'⟩

/-- The shared state after a run of operations that each do just what `Core.next` says. -/
lemma run_core {I : S → Prop} {P : Op σ δ ξ → Prop}
    (hstep : ∀ {op}, P op → ∀ {s}, I s → ∃ s', M.step op s = some s' ∧ I s' ∧
      M.core s' = (M.core s).next M.malformed M.succeeded op)
    (hops : ∀ op ∈ ops, P op) (hs : I s) : ∃ s', M.run ops s = some s' ∧ I s' ∧
      M.core s' = ops.foldl (Core.next M.malformed M.succeeded) (M.core s) := by
  induction ops using List.reverseRecOn with
  | nil => exact ⟨s, run_nil.mpr rfl, hs, rfl⟩
  | append_singleton ops op ih =>
      obtain ⟨t, ht, hI, hcore⟩ := ih fun o ho => hops o (List.mem_append_left _ ho)
      obtain ⟨s', hs', hI', hcore'⟩ := hstep (hops op (by simp)) hI
      refine ⟨s', run_concat.mpr ⟨t, ht, hs'⟩, hI', ?_⟩
      rw [hcore', hcore, List.foldl_append, List.foldl_cons, List.foldl_nil]

/-- No operation clears an error bit. -/
lemma step_errors (h : M.step op s = some s') : BitsKept (M.core s).errors (M.core s').errors := by
  obtain ⟨e, he⟩ := M.lawful h
  rw [he]
  exact (Core.next_errors op).trans (BitsKept.or_left _ _)

lemma step_run (h : M.step op s = some s') : (M.core s').run = (M.core s).run := by
  obtain ⟨e, he⟩ := M.lawful h
  rw [he]
  exact Core.next_run op

lemma step_pictures (h : M.step op s = some s')
    (hop : (M.core s).phase = .active → ∀ context shape, op ≠ .start context shape) :
    (M.core s').pictures = (M.core s).pictures := by
  obtain ⟨e, he⟩ := M.lawful h
  rw [he]
  exact Core.next_pictures hop

lemma step_pending (h : M.step op s = some s')
    (hstart : (M.core s).phase = .active → ∀ context shape, op ≠ .start context shape)
    (hdone : (M.core s).phase = .active → ∀ context result, op ≠ .done context result) :
    (M.core s').pending = (M.core s).pending := by
  obtain ⟨e, he⟩ := M.lawful h
  rw [he]
  exact Core.next_pending hstart hdone

/-- An operation that leaves no error bit found none, and does what a clean operation can do. -/
lemma step_clean (h : M.step op s = some s') (hclean : (M.core s').errors = 0) :
    (M.core s).errors = 0 ∧ Clean M.malformed M.succeeded (M.core s) op (M.core s') := by
  obtain ⟨e, he⟩ := M.lawful h
  rw [he] at hclean
  obtain ⟨hnext, rfl⟩ := Nat.or_eq_zero_iff.mp hclean
  rw [he, Nat.or_zero]
  exact Core.next_clean hnext

/-- The operation, if there is one. -/
def apply (M : Machine σ δ ξ S) (op : Option (Op σ δ ξ)) (s : S) : Option S :=
  match op with
  | some op => M.step op s
  | none => some s

lemma apply_total {I : S → Prop} (hstep : ∀ op, ∃ s', M.step op s = some s' ∧ I s') (hs : I s)
    (op : Option (Op σ δ ξ)) : ∃ s', M.apply op s = some s' ∧ I s' := by
  cases op with
  | none => exact ⟨s, rfl, hs⟩
  | some op => exact hstep op

lemma apply_errors {op : Option (Op σ δ ξ)} (h : M.apply op s = some s') :
    BitsKept (M.core s).errors (M.core s').errors := by
  cases op with
  | none => rw [Option.some.inj h]
  | some op => exact step_errors h

lemma apply_eq (hstep : ∀ op s', M.step op s = some s' → s' = s) {op : Option (Op σ δ ξ)}
    (h : M.apply op s = some s') : s' = s := by
  cases op with
  | none => exact (Option.some.inj h).symm
  | some op => exact hstep op s' h

end Machine

/-! ### The operations of a recording -/

/-- An operation between the arming and the binding: no other process opens a context, and what is
bound by another process is the context that is not set yet. -/
def BeforeBind (pid : ℕ) : Op σ δ ξ → Prop
  | .opened p => p = pid
  | .bind p context hevc => hevc = true ∧ context = 0 ∧ p ≠ pid
  | .sealUp => False
  | _ => True

/-- An operation between the binding of a context and its close. -/
def DuringRecording (pid ctx : ℕ) : Op σ δ ξ → Prop
  | .opened p => p = pid
  | .bind _ context hevc => hevc = true ∧ context = ctx
  | .close context => context ≠ ctx
  | _ => True

/-- An operation between the close of the recorded context and the seal. -/
def AfterClose (pid : ℕ) : Op σ δ ξ → Prop
  | .opened p => p = pid
  | .bind _ _ _ => False
  | .sealUp => False
  | _ => True

/-- A start or a completion. -/
inductive Job (σ δ : Type) where
  | start (shape : σ)
  | done (result : δ)

/-- The operation as a start or a completion of the context. -/
def job? (ctx : ℕ) : Op σ δ ξ → Option (Job σ δ)
  | .start context shape => if context = ctx then some (.start shape) else none
  | .done context result => if context = ctx then some (.done result) else none
  | _ => none

/-- The starts and the completions of the context. -/
def jobs (ctx : ℕ) (ops : List (Op σ δ ξ)) : List (Job σ δ) := ops.filterMap (job? ctx)

/-- The pictures, each with its start and its completion. -/
def paired (pairs : List (σ × δ)) : List (Job σ δ) := pairs.flatMap fun p => [.start p.1, .done p.2]

/-- The operations of a whole recording. -/
structure Recorded (malformed : σ → Bool) (succeeded : δ → Bool) (pid ctx : ℕ)
    (ops before during after rest : List (Op σ δ ξ)) : Prop where
  split : ops = before ++ .bind pid ctx true :: (during ++ .close ctx :: (after ++ .sealUp :: rest))
  quietBefore : ∀ op ∈ before, BeforeBind pid op
  quietDuring : ∀ op ∈ during, DuringRecording pid ctx op
  quietAfter : ∀ op ∈ after, AfterClose pid op
  /-- Starts and completions alternate, and there are as many as expected. -/
  pictures : ∃ pairs, pairs.length = pictureCount ∧ jobs ctx during = paired pairs ∧
    ∀ p ∈ pairs, malformed p.1 = false ∧ succeeded p.2 = true

lemma jobs_concat {ctx : ℕ} {ops : List (Op σ δ ξ)} {op : Op σ δ ξ} :
    jobs ctx (ops ++ [op]) = jobs ctx ops ++ (job? ctx op).toList := by
  rw [jobs, List.filterMap_append]
  cases h : job? ctx op <;> simp [jobs, h]

/-- Whether the operation starts a picture of the context. -/
def isStart (ctx : ℕ) : Op σ δ ξ → Bool
  | .start context _ => context = ctx
  | _ => false

/-- The pictures of the context that have been started. -/
def starts (ctx : ℕ) (ops : List (Op σ δ ξ)) : ℕ := ops.countP (isStart ctx)

lemma starts_concat {ctx : ℕ} {ops : List (Op σ δ ξ)} {op : Op σ δ ξ} :
    starts ctx (ops ++ [op]) = starts ctx ops + if isStart ctx op then 1 else 0 := by
  rw [starts, List.countP_append, List.countP_singleton, starts]

/-- A clean operation counts the pictures that are started. -/
lemma Clean.pictures {malformed : σ → Bool} {succeeded : δ → Bool} {c c' : Core} {op : Op σ δ ξ}
    (h : Clean malformed succeeded c op c') (hactive : c.phase = .active)
    (hbound : c.pictures ≤ pictureCount) :
    c'.pictures = c.pictures + (if isStart c.context op then 1 else 0) ∧
      c'.pictures ≤ pictureCount := by
  cases h with
  | @start context shape hsel hpending hcount hshape =>
      have hwrap : wrap64 (c.pictures + 1) = c.pictures + 1 :=
        wrap64_of_lt (by simp only [pictureCount] at hbound; omega)
      simp only [isStart, (Core.selected_iff.mp hsel).2, decide_true, if_true]
      exact ⟨hwrap, hcount⟩
  | strayStart hsel =>
      simp only [Core.selected, hactive, decide_true, Bool.true_and] at hsel
      simpa [isStart, hsel] using hbound
  | _ => exact ⟨rfl, hbound⟩

/-- What is pending is a picture that has been started. -/
lemma Clean.pending_le {malformed : σ → Bool} {succeeded : δ → Bool} {c c' : Core} {op : Op σ δ ξ}
    (h : Clean malformed succeeded c op c') (hpending : c.pending ≤ c.pictures) :
    c'.pending ≤ c'.pictures := by
  cases h with
  | start => exact Nat.le_refl _
  | done => exact Nat.zero_le _
  | _ => exact hpending

/-! ### The stages of a run -/

/-- The shared state while a context is recorded, with a number of completed pictures and perhaps one
that has been started. -/
def recording (run pid ctx n : ℕ) (started : Bool) : Core :=
  { run, pid, context := ctx, phase := .active
    pictures := if started then n + 1 else n
    completions := n
    pending := if started then n + 1 else 0 }

/-- The shared state after the recorded context has been closed. -/
def recorded (run pid ctx : ℕ) (phase : Phase) : Core :=
  { run, pid, context := ctx, phase, pictures := pictureCount, completions := pictureCount }

/-- The jobs so far: pictures that are complete, and perhaps one that has been started. -/
structure Progress (malformed : σ → Bool) (succeeded : δ → Bool) (js : List (Job σ δ))
    (pairs : List (σ × δ)) (last : Option σ) : Prop where
  alternate : js = paired pairs ++ (last.map Job.start).toList
  sound : ∀ p ∈ pairs, malformed p.1 = false ∧ succeeded p.2 = true
  wellFormed : ∀ s ∈ last, malformed s = false
  bound : (if last.isSome then pairs.length + 1 else pairs.length) ≤ pictureCount

namespace Progress

variable {malformed : σ → Bool} {succeeded : δ → Bool} {js : List (Job σ δ)} {pairs : List (σ × δ)}
  {shape : σ} {result : δ}

lemma nil : Progress malformed succeeded [] [] none := ⟨rfl, by simp, by simp, by simp⟩

lemma start (h : Progress malformed succeeded js pairs none) (hshape : malformed shape = false)
    (hlength : pairs.length + 1 ≤ pictureCount) :
    Progress malformed succeeded (js ++ [.start shape]) pairs (some shape) := by
  refine ⟨?_, h.sound, by simpa using hshape, by simpa using hlength⟩
  rw [h.alternate]
  simp

lemma done (h : Progress malformed succeeded js pairs (some shape))
    (hresult : succeeded result = true) :
    Progress malformed succeeded (js ++ [.done result]) (pairs ++ [(shape, result)]) none := by
  refine ⟨?_, ?_, by simp, by simpa using h.bound⟩
  · rw [h.alternate]
    simp [paired]
  · intro p hp
    rcases List.mem_append.mp hp with hp | hp
    · exact h.sound p hp
    · rw [List.mem_singleton.mp hp]
      exact ⟨h.wellFormed shape rfl, hresult⟩

end Progress

/-- What a recorder keeps of its own: `F` before the binding, and `K` of the operations of the
recorded context since. -/
structure Machine.Keeps (M : Machine σ δ ξ S) (F : S → Prop)
    (K : ℕ → List (Op σ δ ξ) → S → Prop) : Prop where
  fresh : ∀ {op s s'}, F s → (M.core s).phase = .armed → M.step op s = some s' →
    (M.core s').phase = .armed → F s'
  bind : ∀ {pid ctx s s'}, F s → (M.core s).phase = .armed →
    M.step (.bind pid ctx true) s = some s' → (M.core s').phase = .active → K ctx [] s'
  active : ∀ {ctx during op s s'}, K ctx during s → (M.core s).phase = .active →
    (M.core s).context = ctx → M.step op s = some s' → (M.core s').errors = 0 →
    (M.core s').phase = .active → K ctx (during ++ [op]) s'
  close : ∀ {ctx during s s'}, K ctx during s → (M.core s).phase = .active →
    M.step (.close ctx) s = some s' → K ctx during s'
  idle : ∀ {ctx during op s s'}, K ctx during s →
    ((M.core s).phase = .drained ∨ (M.core s).phase = .sealed) → M.step op s = some s' →
    K ctx during s'

/-- The stage of a run without an error bit. -/
inductive Machine.Stage (M : Machine σ δ ξ S) (F : S → Prop)
    (K : ℕ → List (Op σ δ ξ) → S → Prop) (run pid : ℕ) : List (Op σ δ ξ) → S → Prop where
  | armed {ops s} (hcore : M.core s = Core.armed run pid) (hbefore : ∀ op ∈ ops, BeforeBind pid op)
      (hF : F s) : Stage M F K run pid ops s
  | active {before during ctx pairs last s}
      (hcore : M.core s = recording run pid ctx pairs.length last.isSome)
      (hbefore : ∀ op ∈ before, BeforeBind pid op)
      (hduring : ∀ op ∈ during, DuringRecording pid ctx op)
      (hprogress : Progress M.malformed M.succeeded (jobs ctx during) pairs last)
      (hK : K ctx during s) :
      Stage M F K run pid (before ++ .bind pid ctx true :: during) s
  | drained {before during after ctx pairs s} (hcore : M.core s = recorded run pid ctx .drained)
      (hbefore : ∀ op ∈ before, BeforeBind pid op)
      (hduring : ∀ op ∈ during, DuringRecording pid ctx op)
      (hprogress : Progress M.malformed M.succeeded (jobs ctx during) pairs none)
      (hlength : pairs.length = pictureCount) (hK : K ctx during s)
      (hafter : ∀ op ∈ after, AfterClose pid op) :
      Stage M F K run pid (before ++ .bind pid ctx true :: (during ++ .close ctx :: after)) s
  | sealed {before during after rest ctx ops s} (hcore : M.core s = recorded run pid ctx .sealed)
      (hrecorded : Recorded M.malformed M.succeeded pid ctx ops before during after rest)
      (hK : K ctx during s) : Stage M F K run pid ops s

namespace Machine.Stage

variable {M : Machine σ δ ξ S} {F : S → Prop} {K : ℕ → List (Op σ δ ξ) → S → Prop} {run pid : ℕ}
  {ops : List (Op σ δ ξ)} {op : Op σ δ ξ} {s s' : S}

lemma forall_concat {α : Type} {P : α → Prop} {l : List α} {a : α} (hl : ∀ x ∈ l, P x) (ha : P a) :
    ∀ x ∈ l ++ [a], P x := by
  intro x hx
  rcases List.mem_append.mp hx with hx | hx
  · exact hl x hx
  · rwa [List.mem_singleton.mp hx]

/-- A clean operation on an armed capture. -/
lemma step_armed (hkeep : M.Keeps F K) (hcore : M.core s = Core.armed run pid)
    (hbefore : ∀ op ∈ ops, BeforeBind pid op) (hF : F s) (hstep : M.step op s = some s')
    (hclean : (M.core s').errors = 0) : Stage M F K run pid (ops ++ [op]) s' := by
  have harmed : (M.core s).phase = .armed := by rw [hcore]; rfl
  -- The capture stays armed, or the operation is the binding.
  have hstay : M.core s' = M.core s → BeforeBind pid op → Stage M F K run pid (ops ++ [op]) s' := by
    intro heq hquiet
    exact .armed (heq.trans hcore) (forall_concat hbefore hquiet)
      (hkeep.fresh hF harmed hstep (heq ▸ harmed))
  obtain ⟨_, hop⟩ := step_clean hstep hclean
  generalize hs' : M.core s' = c' at hop
  rw [hcore] at hop
  cases hop with
  | opened h => exact hstay (hs'.trans hcore.symm) (h rfl)
  | @bind context _ =>
      have hactive : (M.core s').phase = .active := by rw [hs']
      have hcore' : M.core s' = recording run pid context ([] : List (σ × δ)).length
          (none : Option σ).isSome := hs'
      refine .active hcore' hbefore (by simp) .nil ?_
      exact hkeep.bind hF harmed hstep hactive
  | rebind h =>
      obtain ⟨hcontext, hhevc, hpid | hactive⟩ := h rfl
      · exact hstay (hs'.trans hcore.symm) ⟨hhevc, hcontext, hpid.2⟩
      · exact absurd hactive (by simp [Core.armed])
  | start hsel => simp [Core.selected, Core.armed] at hsel
  | done hsel => simp [Core.selected, Core.armed] at hsel
  | close hsel => simp [Core.selected, Core.armed] at hsel
  | strayStart _ => exact hstay (hs'.trans hcore.symm) trivial
  | strayDone _ => exact hstay (hs'.trans hcore.symm) trivial
  | strayClose _ => exact hstay (hs'.trans hcore.symm) trivial
  | sealUp hphase => simp [Core.armed] at hphase
  | refused hphase => simp [Core.sealable, Core.armed] at hphase
  | extra => exact hstay (hs'.trans hcore.symm) trivial

/-- A clean operation while a context is recorded. -/
lemma step_active (hkeep : M.Keeps F K) {before during : List (Op σ δ ξ)} {ctx : ℕ}
    {pairs : List (σ × δ)} {last : Option σ}
    (hcore : M.core s = recording run pid ctx pairs.length last.isSome)
    (hbefore : ∀ op ∈ before, BeforeBind pid op)
    (hduring : ∀ op ∈ during, DuringRecording pid ctx op)
    (hprogress : Progress M.malformed M.succeeded (jobs ctx during) pairs last)
    (hK : K ctx during s) (hstep : M.step op s = some s') (hclean : (M.core s').errors = 0) :
    Stage M F K run pid (before ++ .bind pid ctx true :: during ++ [op]) s' := by
  have hactive : (M.core s').phase = .active → K ctx (during ++ [op]) s' := by
    refine hkeep.active hK ?_ ?_ hstep hclean
    · rw [hcore]; rfl
    · rw [hcore]; rfl
  have hnext : ∀ {pairs last}, M.core s' = recording run pid ctx pairs.length last.isSome →
      DuringRecording pid ctx op →
      Progress M.malformed M.succeeded (jobs ctx (during ++ [op])) pairs last →
      Stage M F K run pid (before ++ .bind pid ctx true :: during ++ [op]) s' := by
    intro pairs last heq hquiet hprogress'
    rw [List.append_assoc, List.cons_append]
    refine .active heq hbefore (forall_concat hduring hquiet) hprogress' (hactive ?_)
    rw [heq]
    rfl
  -- Most operations are none of the context, and leave everything as it is.
  have hstay : M.core s' = M.core s → DuringRecording pid ctx op → job? ctx op = none →
      Stage M F K run pid (before ++ .bind pid ctx true :: during ++ [op]) s' := by
    intro heq hquiet hjob
    refine hnext (heq.trans hcore) hquiet ?_
    rwa [jobs_concat, hjob, Option.toList_none, List.append_nil]
  have hstray : ∀ {context}, (recording run pid ctx pairs.length last.isSome).selected context =
      false → context ≠ ctx := by
    rintro _ hsel rfl
    simp [Core.selected, recording] at hsel
  obtain ⟨_, hop⟩ := step_clean hstep hclean
  generalize hs' : M.core s' = c' at hop
  rw [hcore] at hop
  cases hop with
  | opened h => exact hstay (hs'.trans hcore.symm) (h rfl) rfl
  | bind hphase => simp [recording] at hphase
  | rebind h =>
      obtain ⟨hcontext, hhevc, _⟩ := h rfl
      exact hstay (hs'.trans hcore.symm) ⟨hhevc, hcontext⟩ rfl
  | @start context shape hsel hpending hcount hshape =>
      obtain rfl : context = ctx := (Core.selected_iff.mp hsel).2
      cases last with
      | some shape' => simp [recording] at hpending
      | none =>
          have hbound := hprogress.bound
          simp only [recording, Option.isSome_none, Bool.false_eq_true, if_false] at hs' hcount hbound
          have hwrap : wrap64 (pairs.length + 1) = pairs.length + 1 :=
            wrap64_of_lt (by simp only [pictureCount] at hbound; omega)
          rw [hwrap] at hs' hcount
          have hcore' : M.core s' = recording run pid context pairs.length (some shape).isSome := hs'
          refine hnext hcore' trivial ?_
          rw [jobs_concat, job?, if_pos rfl]
          exact hprogress.start hshape hcount
  | @done context result hsel hpending hresult =>
      obtain rfl : context = ctx := (Core.selected_iff.mp hsel).2
      cases last with
      | none => simp [recording] at hpending
      | some shape =>
          have hbound := hprogress.bound
          simp only [recording, Option.isSome_some, if_true] at hs' hbound
          have hwrap : wrap64 (pairs.length + 1) = pairs.length + 1 :=
            wrap64_of_lt (by simp only [pictureCount] at hbound; omega)
          rw [hwrap] at hs'
          have hcore' : M.core s' = recording run pid context (pairs ++ [(shape, result)]).length
              (none : Option σ).isSome := by
            rw [hs', List.length_append, List.length_singleton]
            rfl
          refine hnext hcore' trivial ?_
          rw [jobs_concat, job?, if_pos rfl]
          exact hprogress.done hresult
  | @close context hsel hpictures hcompletions hpending =>
      obtain rfl : context = ctx := (Core.selected_iff.mp hsel).2
      cases last with
      | some shape => simp [recording] at hpending
      | none =>
          rw [List.append_assoc, List.cons_append]
          have hlength : pairs.length = pictureCount := hcompletions
          refine .drained ?_ hbefore hduring hprogress hlength ?_ (by simp)
          · rw [hs', recorded, ← hlength]
            rfl
          · exact hkeep.close hK (by rw [hcore]; rfl) hstep
  | strayStart hsel =>
      exact hstay (hs'.trans hcore.symm) trivial (if_neg (hstray hsel))
  | strayDone hsel =>
      exact hstay (hs'.trans hcore.symm) trivial (if_neg (hstray hsel))
  | strayClose hsel =>
      exact hstay (hs'.trans hcore.symm) (hstray hsel) rfl
  | sealUp hdrained => simp [recording] at hdrained
  | refused _ => exact hstay (hs'.trans hcore.symm) trivial rfl
  | extra => exact hstay (hs'.trans hcore.symm) trivial rfl

/-- A clean operation on a closed capture leaves it as it is. -/
lemma clean_recorded {ctx : ℕ} {phase : Phase} {c : Core}
    (hop : Clean M.malformed M.succeeded (recorded run pid ctx phase) op c)
    (hphase : phase = .drained ∨ phase = .sealed) :
    (c = recorded run pid ctx phase ∧ (phase = .drained → AfterClose pid op)) ∨
      (phase = .drained ∧ op = .sealUp ∧ c = recorded run pid ctx .sealed) := by
  rcases hphase with rfl | rfl
  · cases hop with
    | opened h => exact Or.inl ⟨rfl, fun _ => h rfl⟩
    | bind h => simp [recorded] at h
    | rebind h =>
        obtain ⟨_, _, ⟨h, _⟩ | h⟩ := h rfl
        · simp [recorded] at h
        · simp [recorded] at h
    | start hsel => simp [Core.selected, recorded] at hsel
    | done hsel => simp [Core.selected, recorded] at hsel
    | close hsel => simp [Core.selected, recorded] at hsel
    | sealUp _ => exact Or.inr ⟨rfl, rfl, rfl⟩
    | refused h => simp [Core.sealable, recorded] at h
    | _ => exact Or.inl ⟨rfl, fun _ => trivial⟩
  · cases hop with
    | bind h => simp [recorded] at h
    | start hsel => simp [Core.selected, recorded] at hsel
    | done hsel => simp [Core.selected, recorded] at hsel
    | close hsel => simp [Core.selected, recorded] at hsel
    | sealUp h => simp [recorded] at h
    | _ => exact Or.inl ⟨rfl, fun h => absurd h (by decide)⟩

/-- **A clean operation moves the run from stage to stage.** -/
theorem step (hkeep : M.Keeps F K) (h : Stage M F K run pid ops s) (hstep : M.step op s = some s')
    (hclean : (M.core s').errors = 0) : Stage M F K run pid (ops ++ [op]) s' := by
  obtain ⟨_, hop⟩ := step_clean hstep hclean
  cases h with
  | armed hcore hbefore hF => exact step_armed hkeep hcore hbefore hF hstep hclean
  | active hcore hbefore hduring hprogress hK =>
      exact step_active hkeep hcore hbefore hduring hprogress hK hstep hclean
  | @drained before during after ctx pairs _ hcore hbefore hduring hprogress hlength hK hafter =>
      have hK' := hkeep.idle hK (Or.inl (by rw [hcore]; rfl)) hstep
      rw [hcore] at hop
      have happend : before ++ .bind pid ctx true :: (during ++ .close ctx :: after) ++ [op] =
          before ++ .bind pid ctx true :: (during ++ .close ctx :: (after ++ [op])) := by simp
      rcases clean_recorded hop (Or.inl rfl) with ⟨heq, hquiet⟩ | ⟨_, rfl, heq⟩
      · rw [happend]
        exact .drained heq hbefore hduring hprogress hlength hK' (forall_concat hafter (hquiet rfl))
      · refine .sealed heq ⟨happend, hbefore, hduring, hafter, ?_⟩ hK'
        refine ⟨pairs, hlength, ?_, hprogress.sound⟩
        rw [hprogress.alternate, Option.map_none, Option.toList_none, List.append_nil]
  | @sealed before during after rest ctx _ _ hcore hrecorded hK =>
      have hK' := hkeep.idle hK (Or.inr (by rw [hcore]; rfl)) hstep
      rw [hcore] at hop
      rcases clean_recorded hop (Or.inr rfl) with ⟨heq, _⟩ | ⟨h, _⟩
      · have hsplit : ops ++ [op] = before ++ .bind pid ctx true ::
            (during ++ .close ctx :: (after ++ .sealUp :: (rest ++ [op]))) := by
          rw [hrecorded.split]
          simp
        exact .sealed heq ⟨hsplit, hrecorded.quietBefore, hrecorded.quietDuring,
          hrecorded.quietAfter, hrecorded.pictures⟩ hK'
      · exact absurd h (by decide)

end Machine.Stage

namespace Machine

variable {M : Machine σ δ ξ S} {F : S → Prop} {K : ℕ → List (Op σ δ ξ) → S → Prop} {run pid : ℕ}
  {ops : List (Op σ δ ξ)} {s₀ s : S}

/-- Every run from the arming on that leaves no error bit is in one of the stages. -/
theorem stage_of_run (hkeep : M.Keeps F K) (hcore : M.core s₀ = Core.armed run pid) (hF : F s₀)
    (hrun : M.run ops s₀ = some s) (hclean : (M.core s).errors = 0) : Stage M F K run pid ops s := by
  induction ops using List.reverseRecOn generalizing s with
  | nil =>
      obtain rfl := run_nil.mp hrun
      exact .armed hcore (by simp) hF
  | append_singleton ops op ih =>
      obtain ⟨t, ht, hstep⟩ := run_concat.mp hrun
      exact (ih ht (step_clean hstep hclean).1).step hkeep hstep hclean

/-- **A run that ends sealed without an error bit is a recording.** -/
theorem sealed_clean (hkeep : M.Keeps F K) (hcore : M.core s₀ = Core.armed run pid) (hF : F s₀)
    (hrun : M.run ops s₀ = some s) (hsealed : (M.core s).phase = .sealed)
    (hclean : (M.core s).errors = 0) :
    ∃ ctx before during after rest, M.core s = recorded run pid ctx .sealed ∧
      Recorded M.malformed M.succeeded pid ctx ops before during after rest ∧ K ctx during s := by
  cases stage_of_run hkeep hcore hF hrun hclean with
  | armed hcore => simp [hcore, Core.armed] at hsealed
  | active hcore => simp [hcore, recording] at hsealed
  | drained hcore => simp [hcore, recorded] at hsealed
  | sealed hcore hrecorded hK => exact ⟨_, _, _, _, _, hcore, hrecorded, hK⟩

end Machine

end OmarchyM1Video.Recorder
