import OmarchyM1Video.Recorder.AvdCmdtrace
import OmarchyM1Video.Recorder.AvdTrace

/-!
What a sealed capture without an error bit says about the operations that led to it, for the two
recorders.

* `sealed_captures_sound`: such a capture comes from a whole recording of one context;
* `wholeRecording_sound`: there is one;
* `unset_context_unnoticed`: what another process binds before the binding is not always noticed.
-/

namespace OmarchyM1Video.Recorder

open OmarchyM1Video.C

variable {σ δ ξ : Type} {malformed : σ → Bool} {succeeded : δ → Bool} {pid ctx : ℕ}
  {ops before during after rest : List (Op σ δ ξ)}

lemma mem_paired_start {pairs : List (σ × δ)} {shape : σ}
    (h : Job.start shape ∈ paired pairs) : ∃ p ∈ pairs, p.1 = shape := by
  simp only [paired, List.mem_flatMap, List.mem_cons, Job.start.injEq, reduceCtorEq,
    List.not_mem_nil, or_false] at h
  obtain ⟨p, hp, rfl⟩ := h
  exact ⟨p, hp, rfl⟩

lemma mem_paired_done {pairs : List (σ × δ)} {result : δ}
    (h : Job.done result ∈ paired pairs) : ∃ p ∈ pairs, p.2 = result := by
  simp only [paired, List.mem_flatMap, List.mem_cons, Job.done.injEq, reduceCtorEq,
    List.not_mem_nil, or_false, false_or] at h
  obtain ⟨p, hp, rfl⟩ := h
  exact ⟨p, hp, rfl⟩

/-- No picture that was recorded is malformed. -/
lemma Recorded.start_wellFormed (h : Recorded malformed succeeded pid ctx ops before during after rest)
    {shape : σ} (hop : .start ctx shape ∈ during) : malformed shape = false := by
  obtain ⟨pairs, _, hjobs, hsound⟩ := h.pictures
  have hmem : Job.start shape ∈ jobs ctx during := by
    refine List.mem_filterMap.mpr ⟨_, hop, ?_⟩
    simp [job?]
  obtain ⟨p, hp, rfl⟩ := mem_paired_start (hjobs ▸ hmem)
  exact (hsound p hp).1

/-- Every picture that was recorded has succeeded. -/
lemma Recorded.done_succeeded (h : Recorded malformed succeeded pid ctx ops before during after rest)
    {result : δ} (hop : .done ctx result ∈ during) : succeeded result = true := by
  obtain ⟨pairs, _, hjobs, hsound⟩ := h.pictures
  have hmem : Job.done result ∈ jobs ctx during := by
    refine List.mem_filterMap.mpr ⟨_, hop, ?_⟩
    simp [job?]
  obtain ⟨p, hp, rfl⟩ := mem_paired_done (hjobs ▸ hmem)
  exact (hsound p hp).2

/-- The parts that are recorded of a picture are one slice, no entry points, and a control array
of one to 256 entries. -/
lemma AtrShape.of_wellFormed {shape : AtrShape} (h : shape.malformed = false) :
    shape.slices = 1 ∧ 1 ≤ shape.entryCapacity ∧ shape.entryCapacity ≤ 256 ∧
      shape.entryPoints = 0 := by
  simp only [AtrShape.malformed, Bool.or_eq_false_iff, decide_eq_false_iff_not, ne_eq,
    not_not] at h
  omega

lemma CmdShape.of_wellFormed {shape : CmdShape} (h : shape.malformed = false) :
    shape.slices = 1 ∧ 1 ≤ shape.entryCapacity ∧ shape.entryCapacity ≤ 256 ∧
      shape.entryPoints = 0 ∧ shape.tiles = 0 := by
  simp only [CmdShape.malformed, Bool.or_eq_false_iff, decide_eq_false_iff_not, ne_eq,
    not_not] at h
  omega

/-- The command recorder keeps nothing that the operations of a recording need. -/
lemma cmd_keeps : cmdMachine.Keeps (fun _ => True) (fun _ _ _ => True) :=
  ⟨fun _ _ _ _ => trivial, fun _ _ _ _ => trivial, fun _ _ _ _ _ _ => trivial,
    fun _ _ _ => trivial, fun _ _ _ => trivial⟩

/-- **A sealed capture without an error bit comes from a whole recording.**  Whatever the operations
since the arming, the recorder stays in range, and if it ends sealed without an error bit then the
operations split at the binding, the close and the seal; between the binding and the close the
starts and the completions of the bound context alternate, as many as expected, each as it should
be; no other process opened a context, and what was bound is the context itself, or, before the
binding and by another process, the one that is not set. -/
theorem sealed_captures_sound :
    (∀ run pid (ops : List AtrOp), ∃ c, atrMachine.run ops (atrArmed run pid) = some c ∧
      (c.phase = .sealed → c.errors = 0 → ∃ ctx before during after rest,
        c.toCore = recorded run pid ctx .sealed ∧
        Recorded AtrShape.malformed id pid ctx ops before during after rest ∧
        (∀ shape, .start ctx shape ∈ during → shape.slices = 1 ∧ 1 ≤ shape.entryCapacity ∧
          shape.entryCapacity ≤ 256 ∧ shape.entryPoints = 0) ∧
        (∀ success, .done ctx success ∈ during → success = true) ∧
        c.count = appends ctx during ∧ c.attempted = c.count ∧ c.count ≤ 2048 ∧
        ∀ k : Fin 2048, k < c.count → RecordOf run ctx during k (c.records k))) ∧
    (∀ run pid (ops : List CmdOp), ∃ c, cmdMachine.run ops (cmdArmed run pid) = some c ∧
      (c.phase = .sealed → c.errors = 0 → ∃ ctx before during after rest,
        c.toCore = recorded run pid ctx .sealed ∧
        Recorded CmdShape.malformed id pid ctx ops before during after rest ∧
        (∀ shape, .start ctx shape ∈ during → shape.slices = 1 ∧ 1 ≤ shape.entryCapacity ∧
          shape.entryCapacity ≤ 256 ∧ shape.entryPoints = 0 ∧ shape.tiles = 0) ∧
        ∀ success, .done ctx success ∈ during → success = true)) := by
  refine ⟨fun run pid ops => ?_, fun run pid ops => ?_⟩
  · obtain ⟨c, hrun, _⟩ := Machine.run_total atrStep_total (s := atrArmed run pid) (Nat.zero_le _) ops
    refine ⟨c, hrun, fun hsealed hclean => ?_⟩
    obtain ⟨ctx, before, during, after, rest, hcore, hrecorded, hkept⟩ :=
      Machine.sealed_clean atr_keeps rfl ⟨rfl, rfl, rfl⟩ hrun hsealed hclean
    have hcrun : c.run = run := congrArg Core.run hcore
    refine ⟨ctx, before, during, after, rest, hcore, hrecorded, ?_, ?_, hkept.count, ?_, hkept.room, ?_⟩
    · exact fun shape hop => AtrShape.of_wellFormed (hrecorded.start_wellFormed hop)
    · exact fun success hop => hrecorded.done_succeeded hop
    · rw [hkept.attempted, hkept.count]
    · exact hcrun ▸ hkept.records
  · obtain ⟨c, hrun, _⟩ := Machine.run_total cmdStep_total (s := cmdArmed run pid)
      (fun _ => Nat.zero_le _) ops
    refine ⟨c, hrun, fun hsealed hclean => ?_⟩
    obtain ⟨ctx, before, during, after, rest, hcore, hrecorded, _⟩ :=
      Machine.sealed_clean cmd_keeps rfl trivial hrun hsealed hclean
    refine ⟨ctx, before, during, after, rest, hcore, hrecorded, ?_, ?_⟩
    · exact fun shape hop => CmdShape.of_wellFormed (hrecorded.start_wellFormed hop)
    · exact fun success hop => hrecorded.done_succeeded hop

/-! ### A whole recording -/

/-- Pictures of a context, one after the other. -/
def pictures (ctx : ℕ) (shape : σ) (result : δ) (n : ℕ) : List (Op σ δ ξ) :=
  (List.replicate n [.start ctx shape, .done ctx result]).flatten

/-- A context is bound, its pictures are decoded, it is closed, and the capture is sealed. -/
def wholeRecording (pid ctx : ℕ) (shape : σ) (result : δ) : List (Op σ δ ξ) :=
  .bind pid ctx true :: (pictures ctx shape result pictureCount ++ [.close ctx, .sealUp])

/-- A picture that is as it should be is counted, and nothing else happens. -/
lemma next_picture {run n : ℕ} {shape : σ} {result : δ} (hshape : malformed shape = false)
    (hresult : succeeded result = true) (hn : n < pictureCount) :
    ((recording run pid ctx n false).next malformed succeeded
      (.start ctx shape : Op σ δ ξ)).next malformed succeeded (.done ctx result : Op σ δ ξ) =
      recording run pid ctx (n + 1) false := by
  have hwrap : wrap64 (n + 1) = n + 1 := wrap64_of_lt (by simp only [pictureCount] at hn; omega)
  have hcount : ¬pictureCount < n + 1 := by omega
  simp [Core.next, Core.start, Core.done, Core.selected, recording, Core.raiseIf, hwrap, hcount,
    hshape, hresult]

lemma foldl_pictures {run n k : ℕ} {shape : σ} {result : δ} (hshape : malformed shape = false)
    (hresult : succeeded result = true) (hn : k + n ≤ pictureCount) :
    (pictures ctx shape result n : List (Op σ δ ξ)).foldl (Core.next malformed succeeded)
      (recording run pid ctx k false) = recording run pid ctx (k + n) false := by
  induction n generalizing k with
  | zero => rfl
  | succ n ih =>
      rw [pictures, List.replicate_succ, List.flatten_cons, List.cons_append, List.cons_append,
        List.nil_append, List.foldl_cons, List.foldl_cons, next_picture hshape hresult (by omega)]
      rw [show k + (n + 1) = k + 1 + n by omega]
      exact ih (by omega)

/-- The shared state after a whole recording. -/
lemma foldl_wholeRecording {run : ℕ} {shape : σ} {result : δ} (hshape : malformed shape = false)
    (hresult : succeeded result = true) :
    (wholeRecording pid ctx shape result : List (Op σ δ ξ)).foldl (Core.next malformed succeeded)
      (Core.armed run pid) = recorded run pid ctx .sealed := by
  have hbind : (Core.armed run pid).next malformed succeeded (.bind pid ctx true : Op σ δ ξ) =
      recording run pid ctx 0 false := by
    simp [Core.next, Core.bind, Core.armed, recording]
  rw [wholeRecording, List.foldl_cons, hbind, List.foldl_append,
    foldl_pictures hshape hresult (Nat.le_of_eq (Nat.zero_add _)), Nat.zero_add]
  simp [Core.next, Core.close, Core.sealUp, Core.sealable, Core.selected, recording, recorded,
    Core.raiseIf]

lemma mem_wholeRecording {shape : σ} {result : δ} {op : Op σ δ ξ}
    (h : op ∈ wholeRecording pid ctx shape result) : ∀ x, op ≠ .extra x := by
  rintro x rfl
  simp [wholeRecording, pictures] at h

/-- Where nothing is appended, the reference recorder does just what `Core.next` says. -/
lemma atrStep_plain {op : AtrOp} (hop : ∀ a, op ≠ .extra a) {c : AtrCapture} :
    ∃ c', atrMachine.step op c = some c' ∧ True ∧
      atrMachine.core c' = (atrMachine.core c).next atrMachine.malformed atrMachine.succeeded op := by
  cases op with
  | extra a => exact absurd rfl (hop a)
  | _ => exact ⟨_, rfl, trivial, rfl⟩

lemma cmdStep_plain {op : CmdOp} (hop : ∀ x, op ≠ .extra x) {c : CmdCapture} :
    ∃ c', cmdMachine.step op c = some c' ∧ True ∧
      cmdMachine.core c' = (cmdMachine.core c).next cmdMachine.malformed cmdMachine.succeeded op := by
  cases op with
  | extra x => exact absurd rfl (hop x)
  | start context shape =>
      obtain ⟨c', hstart, hcore, _⟩ := cmdStart_total (c := c) context shape
      exact ⟨c', hstart, trivial, hcore⟩
  | _ => exact ⟨_, rfl, trivial, rfl⟩

/-- One slice, as it should be. -/
def oneSlice : AtrShape := { slices := 1, entryCapacity := 1, entryPoints := 0 }

/-- One slice without tiles, as it should be. -/
def oneSliceNoTiles : CmdShape := { slices := 1, entryCapacity := 1, entryPoints := 0, tiles := 0 }

lemma run_wholeRecording (run pid ctx : ℕ) :
    ∃ c, atrMachine.run (wholeRecording pid ctx oneSlice true) (atrArmed run pid) = some c ∧
      c.toCore = recorded run pid ctx .sealed := by
  obtain ⟨c, hrun, _, hcore⟩ := Machine.run_core (M := atrMachine) (s := atrArmed run pid)
    (fun hop _ _ => atrStep_plain hop) (fun _ => mem_wholeRecording) trivial
  exact ⟨c, hrun, hcore.trans (foldl_wholeRecording rfl rfl)⟩

lemma run_wholeRecording_cmd (run pid ctx : ℕ) :
    ∃ c, cmdMachine.run (wholeRecording pid ctx oneSliceNoTiles true) (cmdArmed run pid) = some c ∧
      c.toCore = recorded run pid ctx .sealed := by
  obtain ⟨c, hrun, _, hcore⟩ := Machine.run_core (M := cmdMachine) (s := cmdArmed run pid)
    (fun hop _ _ => cmdStep_plain hop) (fun _ => mem_wholeRecording) trivial
  exact ⟨c, hrun, hcore.trans (foldl_wholeRecording rfl rfl)⟩

/-- A recording of context 5 by process 7 ends sealed and without an error bit, in both
recorders. -/
theorem wholeRecording_sound :
    (∃ c, atrMachine.run (wholeRecording 7 5 oneSlice true) (atrArmed 1 7) = some c ∧
      c.phase = .sealed ∧ c.errors = 0 ∧ ∃ ctx, c.toCore = recorded 1 7 ctx .sealed ∧
      c.count ≤ 2048) ∧
    ∃ c, cmdMachine.run (wholeRecording 7 5 oneSliceNoTiles true) (cmdArmed 1 7) = some c ∧
      c.phase = .sealed ∧ c.errors = 0 ∧ ∃ ctx, c.toCore = recorded 1 7 ctx .sealed := by
  constructor
  · obtain ⟨c, hrun, hcore⟩ := run_wholeRecording 1 7 5
    have hphase : c.phase = .sealed := congrArg Core.phase hcore
    have herrors : c.errors = 0 := congrArg Core.errors hcore
    obtain ⟨c', hrun', hsound⟩ := sealed_captures_sound.1 1 7 (wholeRecording 7 5 oneSlice true)
    obtain rfl := Option.some.inj (hrun.symm.trans hrun')
    obtain ⟨ctx, _, _, _, _, hrecorded, _, _, _, _, _, hroom, _⟩ := hsound hphase herrors
    exact ⟨c, hrun, hphase, herrors, ctx, hrecorded, hroom⟩
  · obtain ⟨c, hrun, hcore⟩ := run_wholeRecording_cmd 1 7 5
    have hphase : c.phase = .sealed := congrArg Core.phase hcore
    have herrors : c.errors = 0 := congrArg Core.errors hcore
    obtain ⟨c', hrun', hsound⟩ :=
      sealed_captures_sound.2 1 7 (wholeRecording 7 5 oneSliceNoTiles true)
    obtain rfl := Option.some.inj (hrun.symm.trans hrun')
    obtain ⟨ctx, _, _, _, _, hrecorded, _⟩ := hsound hphase herrors
    exact ⟨c, hrun, hphase, herrors, ctx, hrecorded⟩

/-- What another process binds before the binding goes unnoticed if it is the context that is not
set: process 8 binds context 0, and the capture of process 7 still ends sealed and without an error
bit. -/
theorem unset_context_unnoticed :
    ∃ c, atrMachine.run (.bind 8 0 true :: wholeRecording 7 5 oneSlice true) (atrArmed 1 7) = some c ∧
      c.phase = .sealed ∧ c.errors = 0 ∧ c.pid = 7 := by
  obtain ⟨c, hrun, hcore⟩ := run_wholeRecording 1 7 5
  have hfirst : atrMachine.step (.bind 8 0 true) (atrArmed 1 7) = some (atrArmed 1 7) := rfl
  exact ⟨c, (Machine.run_cons hfirst).trans hrun, congrArg Core.phase hcore,
    congrArg Core.errors hcore, congrArg Core.pid hcore⟩

end OmarchyM1Video.Recorder
