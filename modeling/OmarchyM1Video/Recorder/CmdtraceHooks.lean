import OmarchyM1Video.Recorder.TraceHooks

/-!
The hooks of the command recorder: `experiments/hevc-avd-command-trace/kernel/avd-cmdtrace.c`.

As for the reference recorder, a hook gets the values of the driver's structures; the recorder has
no numbers of its own, and reads those of the reference recorder.

* `avdCmdtraceStart`, `avdCmdtraceWord`, `avdCmdtraceInactive`, `avdCmdtraceSliceMeta`: the hooks
  that do more than call one function of `cmd-core.h`;
* `cmdtraceMachine`: the recorder whose operations the hooks are;
* `cmdtraceHooks`, `cmdtraceHooks_lawful`: they stay in range, clear no error bit, and leave a sealed
  capture as it is.
-/

namespace OmarchyM1Video.Recorder

open OmarchyM1Video.C

/-! ### The hooks -/

/-- The arguments of `avd_cmdtrace_start`; `target` is the index of the destination. -/
structure CmdStartCall where
  ctx : AvdCtx := {}
  sps : HevcSps := {}
  pps : HevcPps := {}
  sc : HevcScalingMatrix := {}
  decode : HevcDecodeParams := {}
  sl : HevcSliceParams := {}
  slices : UInt32 := 0
  entryCapacity : UInt32 := 0
  target : UInt32 := 0

/-- `V4L2_HEVC_PPS_FLAG_TILES_ENABLED`. -/
def tilesEnabled : UInt64 := 0x800

/-- `V4L2_HEVC_SLICE_TYPE_I`. -/
def sliceTypeI : UInt8 := 2

/-- What `cmd_start` is called with. -/
def CmdStartCall.shape (a : CmdStartCall) : CmdShape :=
  { slices := a.slices.toNat
    entryCapacity := a.entryCapacity.toNat
    entryPoints := a.sl.numEntryPointOffsets.toNat
    tiles := if a.pps.flags &&& tilesEnabled = 0 then 0 else 1 }

/-- What `pack_controls` is called with. -/
def CmdStartCall.controls (a : CmdStartCall) : Controls :=
  { sps := a.sps, pps := a.pps, sc := a.sc, sl := a.sl, flags := a.decode.flags }

/-- The part of `avd_cmdtrace_start` that records the inputs of a picture in detail. -/
def cmdInputs (c : CmdCapture) (a : CmdStartCall) : Option CmdCapture :=
  match cmdSlot c with
  | none => some c
  | some slot => do
      let c₁ ← cmdUpdate c slot fun w => { w with
        decomp := a.ctx.decomp
        revision := a.ctx.revision
        quirks := a.ctx.quirks
        bytesperline := a.ctx.bytesperline }
      let packed := packControls a.controls
      if packed.length ≠ cmdPacked then return { c₁ with toCore := c₁.toCore.raise .overflow }
      cmdControls c₁ packed

/-- `avd_cmdtrace_start`. -/
def avdCmdtraceStart (c : CmdCapture) (context : ℕ) (a : CmdStartCall) : Option CmdCapture :=
  if cmdSelected c context then do
    let c₁ ← cmdStart c context a.shape
    let c₂ ← cmdHistSet c₁ a.decode.picOrderCntVal.toUInt32 a.sl.sliceType.toUInt32 a.target
      a.decode.flags.toUInt32 (if a.sl.sliceType = sliceTypeI then 1 else 0)
    cmdInputs c₂ a
  else some c

/-- `avd_cmdtrace_last_word`. -/
def lastWord (ctx : AvdCtx) : UInt32 := ctx.segment.instructions (ctx.segment.num - 1)

/-- `avd_cmdtrace_word`. -/
def avdCmdtraceWord (c : CmdCapture) (context : ℕ) (ctx : AvdCtx) (site : UInt32) :
    Option CmdCapture :=
  if cmdSelected c context && cmdDetail c && ctx.segment.num ≠ 0 then
    cmdWord c site.toNat (lastWord ctx)
  else some c

/-- `avd_cmdtrace_inactive`. -/
def avdCmdtraceInactive (c : CmdCapture) (context : ℕ) (site : UInt32) : Option CmdCapture :=
  if cmdSelected c context then cmdInactive c site.toNat else some c

/-- `avd_cmdtrace_slice_meta`. -/
def avdCmdtraceSliceMeta (c : CmdCapture) (context : ℕ) (size rel flags dataByteOffset : UInt32) :
    Option CmdCapture :=
  if cmdSelected c context && cmdDetail c then cmdSliceMeta c size rel flags dataByteOffset
  else some c

/-! ### The recorder -/

/-- The arguments of the hooks that record a picture in detail. -/
inductive CmdCall where
  | word (ctx : AvdCtx) (site : UInt32)
  | inactive (site : UInt32)
  | sliceMeta (size rel flags dataByteOffset : UInt32)

/-- A hook that records a picture in detail, with its context. -/
structure CmdDetail where
  context : ℕ
  call : CmdCall

abbrev CmdtraceOp := Op CmdStartCall Bool CmdDetail

def avdCmdtraceDetail (c : CmdCapture) (d : CmdDetail) : Option CmdCapture :=
  match d.call with
  | .word ctx site => avdCmdtraceWord c d.context ctx site
  | .inactive site => avdCmdtraceInactive c d.context site
  | .sliceMeta size rel flags dataByteOffset =>
      avdCmdtraceSliceMeta c d.context size rel flags dataByteOffset

/-- What the hooks, and the seal of the control file, do to a capture. -/
def cmdtraceStep (op : CmdtraceOp) (c : CmdCapture) : Option CmdCapture :=
  match op with
  | .opened pid => some (cmdOpen c pid)
  | .bind pid context hevc => some (cmdBind c pid context hevc)
  | .start context a => avdCmdtraceStart c context a
  | .done context success => some (cmdDone c context success)
  | .close context => some (cmdClose c context)
  | .sealUp => some (cmdSeal c)
  | .extra d => avdCmdtraceDetail c d

section Specs

variable {c c' : CmdCapture} {context : ℕ}

lemma cmdInputs_sound (a : CmdStartCall) : Sound c (cmdInputs c a) := by
  rw [cmdInputs]
  split
  · exact .pure rfl id
  · rename_i slot hslot
    simp only [Option.bind_eq_bind, length_packControls, ne_eq, not_true_eq_false, if_false]
    refine Sound.bind (Sound.update (cmdSlot_lt hslot) ?_) fun c₁ _ => cmdControls_sound _
    exact fun w hw => hw

/-- `avd_cmdtrace_start` on a context that is recorded does to the shared state what `cmd_start`
does. -/
lemma avdCmdtraceStart_sound (h : c.selected context = true) (a : CmdStartCall) :
    ∃ c₁, cmdStart c context a.shape = some c₁ ∧ Sound c₁ (avdCmdtraceStart c context a) ∧
      c₁.toCore = c.toCore.start context a.shape.malformed ∧ (CmdBounded c → CmdBounded c₁) := by
  obtain ⟨c₁, hstart, hcore, hbounded⟩ := cmdStart_total (c := c) context a.shape
  refine ⟨c₁, hstart, ?_, hcore, hbounded⟩
  rw [avdCmdtraceStart, if_pos (show cmdSelected c context = true from h), hstart]
  exact (cmdHistSet_sound _ _ _ _ _).bind fun c₂ _ => cmdInputs_sound a

lemma avdCmdtraceDetail_sound (d : CmdDetail) : Sound c (avdCmdtraceDetail c d) := by
  rw [avdCmdtraceDetail]
  cases d.call with
  | word ctx site =>
      simp only [avdCmdtraceWord]
      split_ifs
      · exact cmdWord_sound _ _
      · exact .pure rfl id
  | inactive site =>
      simp only [avdCmdtraceInactive]
      split_ifs
      · exact cmdInactive_sound _
      · exact .pure rfl id
  | sliceMeta size rel flags dataByteOffset =>
      simp only [avdCmdtraceSliceMeta]
      split_ifs
      · exact cmdSliceMeta_sound _ _ _ _
      · exact .pure rfl id

lemma avdCmdtraceStart_of_not_selected (h : c.selected context = false) (a : CmdStartCall) :
    avdCmdtraceStart c context a = some c := if_neg (by simp [cmdSelected, h])

lemma avdCmdtraceDetail_of_not_selected {d : CmdDetail} (h : c.selected d.context = false) :
    avdCmdtraceDetail c d = some c := by
  rw [avdCmdtraceDetail]
  cases d.call <;> simp [avdCmdtraceWord, avdCmdtraceInactive, avdCmdtraceSliceMeta, cmdSelected, h]

end Specs

/-- The command recorder, with its hooks. -/
def cmdtraceMachine : Machine CmdStartCall Bool CmdDetail CmdCapture where
  core := CmdCapture.toCore
  step := cmdtraceStep
  malformed a := a.shape.malformed
  succeeded := id
  lawful := by
    intro op c c' h
    cases op with
    | start context a =>
        rw [cmdtraceStep] at h
        cases hsel : c.selected context with
        | false =>
            rw [avdCmdtraceStart_of_not_selected hsel] at h
            obtain rfl := Option.some.inj h
            exact ⟨0, by simp [Core.next, Core.start, hsel]⟩
        | true =>
            obtain ⟨c₁, _, hsound, hcore, _⟩ := avdCmdtraceStart_sound hsel a
            obtain ⟨e, he⟩ := hsound.core h
            exact ⟨e, by rw [he, hcore]; rfl⟩
    | extra d => exact (avdCmdtraceDetail_sound d).core h
    | _ =>
        obtain rfl := Option.some.inj h
        exact ⟨0, by rw [Nat.or_zero]; rfl⟩

/-- Every hook stays in range. -/
lemma cmdtraceStep_total {c : CmdCapture} (h : CmdBounded c) (op : CmdtraceOp) :
    ∃ c', cmdtraceMachine.step op c = some c' ∧ CmdBounded c' := by
  cases op with
  | start context a =>
      change ∃ c', avdCmdtraceStart c context a = some c' ∧ _
      cases hsel : c.selected context with
      | false => exact ⟨c, avdCmdtraceStart_of_not_selected hsel a, h⟩
      | true =>
          obtain ⟨c₁, _, hsound, _, hbounded⟩ := avdCmdtraceStart_sound hsel a
          exact hsound.total (hbounded h)
  | extra d => exact (avdCmdtraceDetail_sound d).total h
  | _ => exact ⟨_, rfl, h⟩

/-- No hook changes a sealed capture. -/
lemma cmdtraceStep_sealed {c c' : CmdCapture} {op : CmdtraceOp}
    (h : cmdtraceMachine.step op c = some c') (hsealed : c.phase = .sealed) : c' = c := by
  have hsel : ∀ context, c.selected context = false := by simp [Core.selected, hsealed]
  have hnext : c.toCore.next cmdtraceMachine.malformed cmdtraceMachine.succeeded op = c.toCore :=
    Core.next_sealed hsealed op
  cases op with
  | start context a =>
      exact (Option.some.inj ((avdCmdtraceStart_of_not_selected (hsel context) a).symm.trans h)).symm
  | extra d =>
      exact (Option.some.inj ((avdCmdtraceDetail_of_not_selected (hsel d.context)).symm.trans h)).symm
  | _ =>
      obtain rfl := Option.some.inj h
      exact CmdCapture.ext (congrArg Core.run hnext) (congrArg Core.context hnext)
        (congrArg Core.pid hnext) (congrArg Core.phase hnext) (congrArg Core.errors hnext)
        (congrArg Core.pictures hnext) (congrArg Core.completions hnext)
        (congrArg Core.pending hnext) rfl rfl

/-! ### The hooks and the control file -/

/-- A hook with what it is called with. -/
inductive CmdtraceHook where
  | opened (pid : ℕ)
  | job (pid context : ℕ) (hevc : Bool)
  | close (context : ℕ)
  | start (context : ℕ) (a : CmdStartCall)
  | done (context : ℕ) (success : Bool)
  | detail (d : CmdDetail)

def CmdtraceHook.op : CmdtraceHook → Option CmdtraceOp
  | opened pid => some (.opened pid)
  | job pid context hevc => some (.bind pid context hevc)
  | close context => some (.close context)
  | start context a => some (.start context a)
  | done context success => some (.done context success)
  | detail d => some (.extra d)

/-- The command recorder. -/
def cmdtraceHooks : Hooks CmdCapture Unit CmdtraceHook where
  core := CmdCapture.toCore
  armed := cmdArmed
  sealUp := cmdSeal
  apply h c := cmdtraceMachine.apply h.op c
  contexts h n := match h with
    | .opened _ => wrap64 (n + 1)
    | .close _ => if n = 0 then 0 else n - 1
    | _ => n
  statics _ _ := id

/-- **The hooks of the command recorder** stay in range, clear no error bit, and leave a sealed
capture as it is. -/
theorem cmdtraceHooks_lawful : cmdtraceHooks.Lawful CmdBounded where
  armed_inv _ _ _ := Nat.zero_le _
  armed_core _ _ := rfl
  seal_inv h := h
  seal_core _ := rfl
  total hc h := Machine.apply_total (cmdtraceStep_total hc) hc h.op
  errors hstep := Machine.apply_errors hstep
  sealed hstep hsealed := Machine.apply_eq (fun _ _ h => cmdtraceStep_sealed h hsealed) hstep

/-! ### Both recorders -/

/-- **Bounds and immutability under every hook order.**  From no capture on, every run of control
writes and hooks of either recorder stays in range; and over any part of it no error bit of a
capture is cleared, and a sealed one does not change, until a control write replaces or drops
it. -/
theorem recorders_bounded_and_immutable :
    (∀ events events' : List (Event TraceHook), ∃ s s', traceHooks.run false events
        { env := {} } = some s ∧ traceHooks.run false events' s = some s' ∧
      Lasts traceHooks false events' s s') ∧
    ∀ events events' : List (Event CmdtraceHook), ∃ s s', cmdtraceHooks.run false events
        { env := () } = some s ∧ cmdtraceHooks.run false events' s = some s' ∧
      Lasts cmdtraceHooks false events' s s' := by
  exact ⟨Hooks.run_lasts traceHooks_lawful false {}, Hooks.run_lasts cmdtraceHooks_lawful false ()⟩

end OmarchyM1Video.Recorder
