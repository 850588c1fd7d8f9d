import Mathlib
import OmarchyM1Video.ReferenceContent.GstCallsite
import OmarchyM1Video.ReferenceContent.GstReport

/-!
The Gst runner over its call site: `gst-runner/gst-runner.inc`.

Every function of the runner holds the stream lock, so that each is one step; the steps of the call
site itself, and changes of `streaming`, may come between any two of them.  A flow return is its
number.  What `gst_hevc_runner_publish` returns is an argument of the step.

* `Decoder`: the element with its runner, and a log of what was released, published and posted;
* `setProperty`, `arm`, `afterOutput`, `afterDrain`, `handleFrame`: the steps of the runner;
* `Effect`: what a step can do to the log, to `terminal` and to the status;
* `Harmless`: a property that is set after the terminal message without a change of the status;
* `runner_status_final_iff`: the terminal status is final exactly in the runs with no other.
-/

namespace OmarchyM1Video.ReferenceContent.GstRunner

open OmarchyM1Video.ReferenceContent.Gst (Element Runner Status)

/-! ### State -/

/-- What happened to the observation of an element. -/
inductive Note where
  /-- `gst_hevc_callsite_finish` has released the call site. -/
  | released
  /-- `gst_hevc_runner_publish` has published the report. -/
  | published
  /-- A terminal status was posted on the bus. -/
  | posted (status : Status)
  deriving DecidableEq

/-- `GstV4l2CodecH265Dec`, as far as the runner goes. -/
structure Decoder where
  element : Element
  runner : Option Runner
  streaming : Bool
  log : List Note

/-- `g_new0 (GstHevcRunner, 1)`, disabled. -/
def runnerNew : Runner where
  framesText := none
  reportPath := none
  frames := []
  setMask := 0
  copy := false
  invalid := false
  locked := false
  armed := false
  terminal := false
  status := .disabled

/-- What `gst_hevc_runner_get_property` reads as the status. -/
def status (s : Decoder) : Status := s.runner.elim .disabled Runner.status

/-- The terminal statuses that were posted. -/
def posts (s : Decoder) : List Status :=
  s.log.filterMap fun
    | .posted status => some status
    | _ => none

/-! ### Configuration -/

/-- The properties that can be written, with the value. -/
inductive Property where
  | frames (text : Option (List Char))
  | copy (value : Bool)
  | report (path : Option (List Char))

/-- `GST_HEVC_RUNNER_SET_FRAMES`, `GST_HEVC_RUNNER_SET_COPY`, `GST_HEVC_RUNNER_SET_REPORT`. -/
def Property.bit : Property → UInt32
  | .frames _ => 1
  | .copy _ => 2
  | .report _ => 4

/-- `GST_HEVC_RUNNER_SET_ALL`. -/
def setAll : UInt32 := 7

/-- The property cannot be set (any more). -/
def refuses (s : Decoder) (runner : Runner) (p : Property) : Bool :=
  runner.setMask &&& p.bit ≠ 0 || runner.locked || s.streaming || s.element.callsite.isSome

/-- The value is stored. -/
def store (runner : Runner) : Property → Runner
  | .frames text => { runner with framesText := text }
  | .copy value => { runner with copy := value }
  | .report path => { runner with reportPath := path }

/-- `gst_hevc_runner_update_configured`. -/
def updateConfigured (runner : Runner) : Runner :=
  if runner.invalid = false ∧ runner.setMask = setAll then { runner with status := .configured }
  else runner

/-- `gst_hevc_runner_set_property`. -/
def setProperty (p : Property) (s : Decoder) : Decoder :=
  let runner := s.runner.getD runnerNew
  if refuses s runner p then
    { s with runner := some { runner with invalid := true, status := .configRefused } }
  else
    { s with
      runner := some (updateConfigured (store { runner with setMask := runner.setMask ||| p.bit } p)) }

/-- `g_strsplit (text, ",", -1)`. -/
def strsplit : List Char → List (List Char)
  | [] => [[]]
  | c :: cs =>
      if c = ',' then [] :: strsplit cs
      else
        match strsplit cs with
        | [] => [[c]]
        | word :: words => (c :: word) :: words

/-- `g_ascii_strtoull (value, &end, 10)` of digits, without its bound: larger numbers are refused. -/
def strtoull (value : List Char) : ℕ := value.foldl (fun n c => n * 10 + (c.toNat - '0'.toNat)) 0

/-- The loop of `gst_hevc_runner_parse_frames`: whether it succeeds, and the frames it stores. -/
def parseValues : List UInt32 → List (List Char) → Bool × List UInt32
  | frames, [] => (true, frames)
  | frames, value :: values =>
      if value.all Char.isDigit = false ∨ value = [] then (false, frames)
      else
        let number := strtoull value
        if 0xffffffff ≤ number ∨ contentSlots ≤ frames.length then (false, frames)
        else if UInt32.ofNat number ∈ frames then (false, frames)
        else parseValues (frames ++ [UInt32.ofNat number]) values

/-- `gst_hevc_runner_parse_frames`. -/
def parseFrames (runner : Runner) : Bool × Runner :=
  match runner.framesText with
  | none => (false, runner)
  | some [] => (false, runner)
  | some text =>
      let (ok, frames) := parseValues [] (strsplit text)
      (ok && !frames.isEmpty, { runner with frames := frames })

/-! ### Steps of the runner -/

/-- `GST_FLOW_OK`. -/
def flowOk : ℤ := 0
/-- `GST_FLOW_ERROR`. -/
def flowError : ℤ := -5

/-- What a step finds: its thread, what the native operations of the call site return, and whether
the report is published. -/
structure RunnerEnv where
  thread : ℕ
  opens : Bool
  ends : Bool
  closes : Bool
  publishes : Bool

/-- The runner is written. -/
@[simps] def Decoder.withRunner (s : Decoder) (runner : Runner) : Decoder :=
  { s with runner := some runner }

/-- Something happened. -/
@[simps] def Decoder.note (s : Decoder) (n : Note) : Decoder := { s with log := s.log ++ [n] }

/-- `gst_hevc_runner_message`. -/
def message (status : Status) (terminal : Bool) (s : Decoder) : Decoder :=
  match s.runner with
  | none => s
  | some runner =>
      let runner := { runner with status := status }
      if terminal = false ∨ runner.terminal = true then s.withRunner runner
      else (s.withRunner { runner with terminal := true }).note (.posted status)

/-- `gst_hevc_callsite_finish`, called by the runner: it fails inside of another finish. -/
def callsiteFinish (env : RunnerEnv) (s : Decoder) : Bool × Decoder :=
  if s.element.finishing then (false, s)
  else
    let element := Gst.finishRest env.closes (Gst.finish env.thread env.ends s.element)
    if s.element.callsite.isSome ∧ element.callsite.isNone then
      (true, { s with element := element }.note .released)
    else (false, { s with element := element })

/-- `runner->armed = FALSE`. -/
def disarm (s : Decoder) : Decoder :=
  { s with runner := s.runner.map fun runner => { runner with armed := false } }

/-- `gst_hevc_runner_abort`. -/
def abort (env : RunnerEnv) (status : Status) (s : Decoder) : Decoder × ℤ :=
  if s.runner.isNone then (s, flowError)
  else if s.element.callsite.isSome then
    match callsiteFinish env s with
    | (false, s) => (message .cleanupQuarantine true s, flowError)
    | (true, s) => (message status true (disarm s), flowError)
  else (message status true (disarm s), flowError)

section Complete

variable (sha256 : List UInt8 → Vector UInt8 32)

/-- `gst_hevc_runner_complete`. -/
def complete (env : RunnerEnv) (runner : Runner) (s : Decoder) : Decoder × ℤ :=
  let json := (Gst.result env.thread s.element).bind (Gst.gstHevcRunnerJson sha256 runner)
  match callsiteFinish env s with
  | (false, s) => (message .cleanupQuarantine true s, flowError)
  | (true, s) =>
      if json.isNone ∨ env.publishes = false then
        (message .reportFailure true (disarm s), flowError)
      else (message .success true ((disarm s).note .published), flowOk)

/-- What `gst_hevc_runner_after_output` and `gst_hevc_runner_after_drain` have in common; `idle` is
what they do with a good flow and no result. -/
def after (env : RunnerEnv) (flow : ℤ) (idle : Runner → Decoder → Decoder × ℤ) (s : Decoder) :
    Decoder × ℤ :=
  match s.runner with
  | none => (s, flow)
  | some runner =>
      if runner.terminal then (s, if runner.status = .success then flow else flowError)
      else if runner.invalid then
        if runner.armed then abort env .configRefused s else (s, flowError)
      else if flow ≠ flowOk then
        if runner.armed then abort env .streamFailure s else (s, flow)
      else if runner.armed ∧ (Gst.result env.thread s.element).isSome then
        complete sha256 env runner s
      else idle runner s

/-- `gst_hevc_runner_after_output`. -/
def afterOutput (env : RunnerEnv) (flow : ℤ) (s : Decoder) : Decoder × ℤ :=
  after sha256 env flow (fun _ s => (s, flow)) s

/-- `gst_hevc_runner_after_drain`. -/
def afterDrain (env : RunnerEnv) (flow : ℤ) (s : Decoder) : Decoder × ℤ :=
  after sha256 env flow
    (fun runner s =>
      if runner.armed then abort env .incomplete s
      else if runner.setMask ≠ 0 ∨ runner.invalid = true then
        abort env (if runner.invalid = true ∨ runner.setMask ≠ setAll then .configRefused
          else .incomplete) s
      else (s, flow)) s

end Complete

/-- `gst_hevc_runner_arm`, in `start_picture`: the picture fails if it cannot be armed. -/
def arm (env : RunnerEnv) (flow : ℤ) (s : Decoder) : Decoder × ℤ :=
  match s.runner with
  | none => (s, flow)
  | some runner =>
      if runner.terminal then (s, if runner.status = .success then flow else flowError)
      else if runner.armed then (s, flow)
      else
        let runner := { runner with locked := true }
        if runner.invalid = true ∨ runner.setMask ≠ setAll then
          (message .configRefused true (s.withRunner runner), flowError)
        else
          let (ok, runner) := parseFrames runner
          if ok = false ∨ runner.reportPath = none ∨ runner.reportPath = some [] then
            (message .configRefused true (s.withRunner runner), flowError)
          else
            let element := Gst.armFrames runner.copy runner.frames env.thread env.opens s.element
            if s.element.callsite.isNone ∧ element.callsite.isSome then
              ({ s with element := element }.withRunner { runner with armed := true, status := .armed },
                flow)
            else (message .armRefused true (s.withRunner runner), flowError)

/-- `gst_v4l2_codec_h265_dec_runner_handle_frame`, with what the parent class returned. -/
def handleFrame (env : RunnerEnv) (flow : ℤ) (s : Decoder) : Decoder × ℤ :=
  match s.runner with
  | none => (s, flow)
  | some runner =>
      if flow ≠ flowOk ∧ runner.armed = true ∧ runner.terminal = false then
        abort env .streamFailure s
      else (s, flow)

/-! ### Runs -/

/-- What happens to the element. -/
inductive Event where
  | setProperty (p : Property)
  /-- The decoder starts or stops streaming. -/
  | setStreaming (streaming : Bool)
  /-- A step of the call site. -/
  | callsite (call : Gst.Call)
  | startPicture (env : RunnerEnv) (flow : ℤ)
  | output (env : RunnerEnv) (flow : ℤ)
  /-- `finish` or `drain`. -/
  | drain (env : RunnerEnv) (flow : ℤ)
  | frame (env : RunnerEnv) (flow : ℤ)

/-- The flow return without the runner. -/
def Event.flow : Event → ℤ
  | .setProperty _ | .setStreaming _ | .callsite _ => flowOk
  | .startPicture _ flow | .output _ flow | .drain _ flow | .frame _ flow => flow

section Runs

variable (sha256 : List UInt8 → Vector UInt8 32)

/-- One step, with its flow return. -/
def step (s : Decoder) : Event → Decoder × ℤ
  | .setProperty p => (setProperty p s, flowOk)
  | .setStreaming streaming => ({ s with streaming := streaming }, flowOk)
  | .callsite call => ({ s with element := Gst.step s.element call }, flowOk)
  | .startPicture env flow => arm env flow s
  | .output env flow => afterOutput sha256 env flow s
  | .drain env flow => afterDrain sha256 env flow s
  | .frame env flow => handleFrame env flow s

/-- A run. -/
def run (s : Decoder) (events : List Event) : Decoder :=
  events.foldl (fun s e => (step sha256 s e).1) s

end Runs

/-- An element without a runner. -/
def start (element : Element) (streaming : Bool) : Decoder := ⟨element, none, streaming, []⟩

/-! ### What a step can do -/

/-- `runner->terminal`. -/
def terminal (s : Decoder) : Bool := s.runner.elim false Runner.terminal

/-- Nothing is posted; these notes are made. -/
structure Quiet (s s' : Decoder) (notes : List Note) : Prop where
  log : s'.log = s.log ++ notes
  plain : ∀ n ∈ notes, ∀ p, n ≠ .posted p
  runner : s.runner.isSome = true → s'.runner.isSome = true
  terminal : terminal s' = terminal s
  status : GstRunner.terminal s = true → status s' = status s

/-- A terminal status is posted, after these notes. -/
structure Announces (s s' : Decoder) (notes : List Note) (p : Status) : Prop where
  before : terminal s = false
  log : s'.log = s.log ++ (notes ++ [Note.posted p])
  plain : ∀ n ∈ notes, ∀ p, n ≠ .posted p
  terminal : terminal s' = true
  status : status s' = p
  ne : p ≠ .configured
  success : p = .success → notes = [.released, .published]

/-- What a step can do. -/
def Effect (s s' : Decoder) : Prop :=
  (∃ notes, Quiet s s' notes) ∨ ∃ notes p, Announces s s' notes p

section Steps

variable {s s' s'' : Decoder} {notes notes' : List Note} {p : Status} {env : RunnerEnv} {runner : Runner}
  {flow : ℤ}

lemma Quiet.refl (s : Decoder) : Quiet s s [] :=
  ⟨(List.append_nil _).symm, fun _ hn => absurd hn List.not_mem_nil, id, rfl, fun _ => rfl⟩

lemma Quiet.trans (h : Quiet s s' notes) (h' : Quiet s' s'' notes') : Quiet s s'' (notes ++ notes') where
  log := by rw [h'.log, h.log, List.append_assoc]
  plain n hn := (List.mem_append.mp hn).elim (h.plain n) (h'.plain n)
  runner hs := h'.runner (h.runner hs)
  terminal := h'.terminal.trans h.terminal
  status hs := (h'.status (h.terminal.trans hs)).trans (h.status hs)

lemma effect_refl (s : Decoder) : Effect s s := .inl ⟨[], Quiet.refl s⟩

/-- A change of the element alone. -/
lemma quiet_element (element : Element) : Quiet s { s with element := element } [] :=
  ⟨(List.append_nil _).symm, fun _ hn => absurd hn List.not_mem_nil, id, rfl, fun _ => rfl⟩

lemma quiet_disarm : Quiet s (disarm s) [] := by
  refine ⟨(List.append_nil _).symm, fun n hn => absurd hn List.not_mem_nil, ?_, ?_, fun _ => ?_⟩
  · intro hs
    rw [disarm, Option.isSome_map]
    exact hs
  · rw [terminal, terminal, disarm]
    cases s.runner <;> rfl
  · rw [status, status, disarm]
    cases s.runner <;> rfl

lemma quiet_note {n : Note} (hn : ∀ p, n ≠ .posted p) : Quiet s (s.note n) [n] :=
  ⟨rfl, fun _ hm => (List.mem_singleton.mp hm) ▸ hn, id, rfl, fun _ => rfl⟩

/-- A write to a runner that is not terminal. -/
lemma quiet_withRunner (hs : terminal s = false) (hrunner : runner.terminal = false) :
    Quiet s (s.withRunner runner) [] :=
  ⟨(List.append_nil _).symm, fun n hn => absurd hn List.not_mem_nil, fun _ => rfl, hrunner.trans hs.symm,
    fun h => absurd (h.symm.trans hs) (by decide)⟩

/-- What is noted of a finish. -/
def finishNotes (ok : Bool) : List Note := if ok then [.released] else []

/-- The release of the call site by the runner. -/
lemma quiet_callsiteFinish : Quiet s (callsiteFinish env s).2 (finishNotes (callsiteFinish env s).1) := by
  rw [callsiteFinish]
  by_cases hfinishing : s.element.finishing = true
  · rw [if_pos hfinishing]
    exact Quiet.refl s
  · rw [if_neg hfinishing]
    dsimp only
    by_cases hreleased : s.element.callsite.isSome = true ∧
        (Gst.finishRest env.closes (Gst.finish env.thread env.ends s.element)).callsite.isNone = true
    · rw [if_pos hreleased]
      have hnote : ∀ p, Note.released ≠ .posted p := fun p h => (nomatch h)
      exact (quiet_element _).trans (quiet_note hnote)
    · rw [if_neg hreleased]
      exact quiet_element _

/-- A terminal message of a runner that has posted none. -/
lemma announces_message (h : Quiet s s' notes) (hs : terminal s = false) (hrunner : s.runner.isSome = true)
    (hne : p ≠ .configured) (hsuccess : p = .success → notes = [.released, .published]) :
    Announces s (message p true s') notes p := by
  obtain ⟨runner, hsome⟩ := Option.isSome_iff_exists.mp (h.runner hrunner)
  have hterminal : runner.terminal = false := by
    have := h.terminal.trans hs
    rwa [terminal, hsome] at this
  have hmessage : message p true s' =
      (s'.withRunner { runner with status := p, terminal := true }).note (.posted p) := by
    delta message
    rw [hsome]
    dsimp only
    rw [if_neg]
    rintro (h | h)
    · exact absurd h (by decide)
    · exact absurd (h.symm.trans hterminal) (by decide)
  rw [hmessage]
  refine ⟨hs, ?_, h.plain, rfl, rfl, hne, hsuccess⟩
  rw [Decoder.note_log, Decoder.withRunner_log, h.log, List.append_assoc]

/-- A runner that gives up posts its reason, or that the call site could not be released. -/
lemma abort_effect (hs : terminal s = false) (hne : p ≠ .configured) (hsuccess : p ≠ .success) :
    Effect s (abort env p s).1 := by
  have hquiet : Quiet s (callsiteFinish env s).2 _ := quiet_callsiteFinish
  rw [abort]
  by_cases hrunner : s.runner.isNone = true
  · rw [if_pos hrunner]
    exact effect_refl s
  · have hsome : s.runner.isSome = true := by
      rwa [Bool.not_eq_true, Option.isNone_eq_false_iff] at hrunner
    rw [if_neg hrunner]
    by_cases hcallsite : s.element.callsite.isSome = true
    · rw [if_pos hcallsite]
      rcases hfinish : callsiteFinish env s with ⟨ok, s'⟩
      rw [hfinish] at hquiet
      cases ok with
      | false =>
          exact .inr ⟨_, _, announces_message hquiet hs hsome (by decide) fun h => (nomatch h)⟩
      | true =>
          exact .inr ⟨_, _, announces_message (hquiet.trans quiet_disarm) hs hsome hne
            fun h => absurd h hsuccess⟩
    · rw [if_neg hcallsite]
      exact .inr ⟨_, _, announces_message quiet_disarm hs hsome hne fun h => absurd h hsuccess⟩

/-- A runner that completes posts success after the release and the report. -/
lemma complete_effect {sha256 : List UInt8 → Vector UInt8 32} (hs : terminal s = false)
    (hrunner : s.runner.isSome = true) : Effect s (complete sha256 env runner s).1 := by
  have hquiet : Quiet s (callsiteFinish env s).2 _ := quiet_callsiteFinish
  rw [complete]
  rcases hfinish : callsiteFinish env s with ⟨ok, s'⟩
  rw [hfinish] at hquiet
  cases ok with
  | false => exact .inr ⟨_, _, announces_message hquiet hs hrunner (by decide) fun h => (nomatch h)⟩
  | true =>
      have hdisarm : Quiet s (disarm s') [.released] := hquiet.trans quiet_disarm
      have hnote : ∀ p, Note.published ≠ .posted p := fun p h => (nomatch h)
      dsimp only
      split_ifs
      · exact .inr ⟨_, _, announces_message hdisarm hs hrunner (by decide) fun h => (nomatch h)⟩
      · exact .inr ⟨_, _, announces_message (hdisarm.trans (quiet_note hnote)) hs hrunner (by decide)
          fun _ => rfl⟩

lemma terminal_of_runner (h : s.runner = some runner) : terminal s = runner.terminal := by
  rw [terminal, h]
  rfl

lemma status_of_runner (h : s.runner = some runner) : status s = runner.status := by
  rw [status, h]
  rfl

/-- After an output or a drain, whatever is done without a result. -/
lemma after_effect {sha256 : List UInt8 → Vector UInt8 32} {idle : Runner → Decoder → Decoder × ℤ}
    (hidle : ∀ runner, terminal s = false → Effect s (idle runner s).1) :
    Effect s (after sha256 env flow idle s).1 := by
  rw [after]
  rcases hrunner : s.runner with _ | runner
  · exact effect_refl s
  · have hsome : s.runner.isSome = true := by rw [hrunner]; rfl
    dsimp only
    by_cases hdone : runner.terminal = true
    · rw [if_pos hdone]
      exact effect_refl s
    · have hs : terminal s = false := (terminal_of_runner hrunner).trans (Bool.eq_false_iff.mpr hdone)
      rw [if_neg hdone]
      split_ifs
      · exact abort_effect hs (by decide) (by decide)
      · exact effect_refl s
      · exact abort_effect hs (by decide) (by decide)
      · exact effect_refl s
      · exact complete_effect hs hsome
      · exact hidle runner hs

lemma afterDrain_effect {sha256 : List UInt8 → Vector UInt8 32} :
    Effect s (afterDrain sha256 env flow s).1 := by
  refine after_effect fun runner hs => ?_
  split_ifs
  · exact abort_effect hs (by decide) (by decide)
  · exact abort_effect hs (by decide) (by decide)
  · exact abort_effect hs (by decide) (by decide)
  · exact effect_refl s

lemma handleFrame_effect : Effect s (handleFrame env flow s).1 := by
  rw [handleFrame]
  rcases hrunner : s.runner with _ | runner
  · exact effect_refl s
  · dsimp only
    split_ifs with habort
    · exact abort_effect ((terminal_of_runner hrunner).trans habort.2.2) (by decide) (by decide)
    · exact effect_refl s

lemma parseFrames_terminal : (parseFrames runner).2.terminal = runner.terminal := by
  rw [parseFrames]
  rcases runner.framesText with _ | _ | ⟨c, text⟩ <;> rfl

/-- A refusal to arm. -/
lemma effect_refused (hs : terminal s = false) (hrunner : runner.terminal = false)
    (hsome : s.runner.isSome = true) (hne : p ≠ .configured) (hsuccess : p ≠ .success) :
    Effect s (message p true (s.withRunner runner)) :=
  .inr ⟨_, _, announces_message (quiet_withRunner hs hrunner) hs hsome hne fun h => absurd h hsuccess⟩

lemma arm_effect : Effect s (arm env flow s).1 := by
  rw [arm]
  rcases hrunner : s.runner with _ | runner
  · exact effect_refl s
  · have hsome : s.runner.isSome = true := by rw [hrunner]; rfl
    dsimp only
    by_cases hdone : runner.terminal = true
    · rw [if_pos hdone]
      exact effect_refl s
    · have hterminal : runner.terminal = false := Bool.eq_false_iff.mpr hdone
      have hs : terminal s = false := (terminal_of_runner hrunner).trans hterminal
      have hparse : (parseFrames { runner with locked := true }).2.terminal = false :=
        parseFrames_terminal.trans hterminal
      rw [if_neg hdone]
      generalize parseFrames { runner with locked := true } = parsed at hparse ⊢
      obtain ⟨ok, parsed⟩ := parsed
      dsimp only at hparse ⊢
      split_ifs
      · exact effect_refl s
      · exact effect_refused hs hterminal hsome (by decide) (by decide)
      · exact effect_refused hs hparse hsome (by decide) (by decide)
      · exact .inl ⟨_, (quiet_element _).trans (quiet_withRunner hs hparse)⟩
      · exact effect_refused hs hparse hsome (by decide) (by decide)

end Steps

/-! ### Properties after the terminal message -/

/-- The configuration would be complete with the property. -/
def completes (runner : Runner) (p : Property) : Prop :=
  runner.invalid = false ∧ runner.setMask ||| p.bit = setAll

instance (runner : Runner) (p : Property) : Decidable (completes runner p) :=
  inferInstanceAs (Decidable (_ ∧ _))

/-- The step is no property that is set after the terminal message and changes the status: it is
refused while the configuration is refused already, or it is taken without completing it. -/
def Harmless (s : Decoder) : Event → Prop
  | .setProperty p => ∀ runner, s.runner = some runner → runner.terminal = true →
      (refuses s runner p = true → runner.status = .configRefused) ∧
        (refuses s runner p = false → ¬ completes runner p)
  | _ => True

section Properties

variable {s : Decoder} {p : Property} {runner : Runner}

lemma setProperty_log : (setProperty p s).log = s.log := by
  rw [setProperty]
  split_ifs <;> rfl

lemma updateConfigured_terminal : (updateConfigured runner).terminal = runner.terminal := by
  rw [updateConfigured]
  split_ifs <;> rfl

lemma updateConfigured_status : (updateConfigured runner).status =
    if runner.invalid = false ∧ runner.setMask = setAll then .configured else runner.status := by
  rw [updateConfigured]
  split_ifs <;> rfl

lemma store_eq : (store runner p).terminal = runner.terminal ∧ (store runner p).invalid = runner.invalid ∧
    (store runner p).setMask = runner.setMask ∧ (store runner p).status = runner.status := by
  cases p <;> exact ⟨rfl, rfl, rfl, rfl⟩

lemma setProperty_terminal : terminal (setProperty p s) = terminal s := by
  have hdefault : (s.runner.getD runnerNew).terminal = terminal s := by
    rw [terminal]
    cases s.runner <;> rfl
  rw [setProperty]
  split_ifs
  · exact hdefault
  · change (updateConfigured _).terminal = _
    rw [updateConfigured_terminal, store_eq.1]
    exact hdefault

/-- The status after a property is set. -/
lemma setProperty_status (h : s.runner = some runner) : status (setProperty p s) =
    if refuses s runner p then .configRefused
    else if completes runner p then .configured else runner.status := by
  rw [setProperty, h, Option.getD_some]
  split_ifs with hrefuses hcompletes
  · rfl
  · change (updateConfigured _).status = _
    rw [updateConfigured_status, store_eq.2.1, store_eq.2.2.1]
    exact if_pos hcompletes
  · change (updateConfigured _).status = _
    rw [updateConfigured_status, store_eq.2.1, store_eq.2.2.1, store_eq.2.2.2]
    exact if_neg hcompletes

end Properties


/-! ### Invariants -/

/-- In the log, success is posted right after the release of the call site and the report. -/
def SuccessLast (log : List Note) : Prop :=
  ∀ k, log[k]? = some (Note.posted .success) →
    ∃ j, k = j + 2 ∧ log[j]? = some Note.released ∧ log[j + 1]? = some Note.published

/-- What holds in every state that is reached. -/
structure Inv (s : Decoder) : Prop where
  none_posted : terminal s = false → posts s = []
  posted : terminal s = true → ∃ p, posts s = [p] ∧ p ≠ .configured
  success : SuccessLast s.log

section Invariants

variable {s s' : Decoder} {notes : List Note} {p : Status} {e : Event}
  {sha256 : List UInt8 → Vector UInt8 32} {element : Element} {streaming : Bool} {events : List Event}

lemma posts_plain (h : ∀ n ∈ notes, ∀ p, n ≠ .posted p) :
    (notes.filterMap fun n => match n with | .posted status => some status | _ => none) = [] := by
  rw [List.filterMap_eq_nil_iff]
  intro n hn
  cases n with
  | posted q => exact absurd rfl (h _ hn q)
  | released => rfl
  | published => rfl

lemma Quiet.posts (h : Quiet s s' notes) : posts s' = posts s := by
  rw [GstRunner.posts, h.log, List.filterMap_append, posts_plain h.plain, List.append_nil]
  rfl

lemma Announces.posts (h : Announces s s' notes p) : posts s' = GstRunner.posts s ++ [p] := by
  rw [GstRunner.posts, h.log, List.filterMap_append, List.filterMap_append, posts_plain h.plain]
  rfl

lemma SuccessLast.plain {log : List Note} (h : SuccessLast log)
    (hnotes : ∀ n ∈ notes, ∀ p, n ≠ .posted p) : SuccessLast (log ++ notes) := by
  intro k hk
  rcases Nat.lt_or_ge k log.length with hlt | hge
  · rw [List.getElem?_append_left hlt] at hk
    obtain ⟨j, rfl, hj, hj'⟩ := h k hk
    refine ⟨j, rfl, ?_, ?_⟩
    · rwa [List.getElem?_append_left (by omega)]
    · rwa [List.getElem?_append_left (by omega)]
  · rw [List.getElem?_append_right hge] at hk
    exact absurd rfl (hnotes _ (List.mem_of_getElem? hk) .success)

lemma SuccessLast.concat {log : List Note} (h : SuccessLast log)
    (hlast : p = .success → ∃ log', log = log' ++ [Note.released, .published]) :
    SuccessLast (log ++ [Note.posted p]) := by
  intro k hk
  rcases Nat.lt_or_ge k log.length with hlt | hge
  · rw [List.getElem?_append_left hlt] at hk
    obtain ⟨j, rfl, hj, hj'⟩ := h k hk
    refine ⟨j, rfl, ?_, ?_⟩
    · rwa [List.getElem?_append_left (by omega)]
    · rwa [List.getElem?_append_left (by omega)]
  · rw [List.getElem?_append_right hge, List.getElem?_singleton] at hk
    split_ifs at hk with hzero
    obtain rfl : p = .success := Note.posted.inj (Option.some.inj hk)
    obtain ⟨log', rfl⟩ := hlast rfl
    have hlength : (log' ++ [Note.released, .published]).length = log'.length + 2 := by
      rw [List.length_append]
      rfl
    refine ⟨log'.length, by omega, ?_, ?_⟩
    · rw [List.append_assoc, List.getElem?_append_right (Nat.le_refl _), Nat.sub_self]
      rfl
    · rw [List.append_assoc, List.getElem?_append_right (Nat.le_add_right _ 1),
        Nat.add_sub_cancel_left]
      rfl

/-- A step with such an effect keeps the invariant. -/
lemma Inv.effect (h : Inv s) (heffect : Effect s s') : Inv s' := by
  rcases heffect with ⟨notes, hquiet⟩ | ⟨notes, p, hannounces⟩
  · refine ⟨fun hs => ?_, fun hs => ?_, ?_⟩
    · rw [hquiet.posts]
      exact h.none_posted (hquiet.terminal.symm.trans hs)
    · rw [hquiet.posts]
      exact h.posted (hquiet.terminal.symm.trans hs)
    · rw [hquiet.log]
      exact h.success.plain hquiet.plain
  · refine ⟨fun hs => absurd (hannounces.terminal.symm.trans hs) (by decide), fun _ => ⟨p, ?_, hannounces.ne⟩,
      ?_⟩
    · rw [hannounces.posts, h.none_posted hannounces.before]
      rfl
    · rw [hannounces.log, ← List.append_assoc]
      refine (h.success.plain hannounces.plain).concat fun hp => ⟨s.log, ?_⟩
      rw [hannounces.success hp]

/-- A step is a property that is set, or has such an effect. -/
lemma step_effect : (∃ p, e = .setProperty p) ∨ Effect s (step sha256 s e).1 := by
  cases e with
  | setProperty p => exact .inl ⟨p, rfl⟩
  | setStreaming streaming =>
      exact .inr (.inl ⟨[], ⟨(List.append_nil _).symm, fun _ hn => absurd hn List.not_mem_nil, id, rfl,
        fun _ => rfl⟩⟩)
  | callsite call => exact .inr (.inl ⟨[], quiet_element _⟩)
  | startPicture env flow => exact .inr arm_effect
  | output env flow => exact .inr (after_effect fun _ _ => effect_refl s)
  | drain env flow => exact .inr afterDrain_effect
  | frame env flow => exact .inr handleFrame_effect

lemma setProperty_posts {q : Property} : posts (setProperty q s) = posts s := by
  rw [posts, setProperty_log]
  rfl

lemma Inv.step (h : Inv s) : Inv (step sha256 s e).1 := by
  rcases (step_effect : _ ∨ Effect s (GstRunner.step sha256 s e).1) with ⟨p, rfl⟩ | heffect
  · have hposts : posts (setProperty p s) = posts s := setProperty_posts
    have hterminal : terminal (setProperty p s) = terminal s := setProperty_terminal
    refine ⟨fun hs => hposts.trans (h.none_posted (hterminal.symm.trans hs)), fun hs => ?_, ?_⟩
    · obtain ⟨q, hq, hne⟩ := h.posted (hterminal.symm.trans hs)
      exact ⟨q, hposts.trans hq, hne⟩
    · change SuccessLast (setProperty p s).log
      rw [setProperty_log]
      exact h.success
  · exact h.effect heffect

lemma run_concat : run sha256 s (events ++ [e]) = (step sha256 (run sha256 s events) e).1 := by
  rw [run, List.foldl_append]
  rfl

lemma inv_start : Inv (start element streaming) :=
  ⟨fun _ => rfl, fun h => (nomatch h), fun k hk => by simp [start] at hk⟩

lemma Inv.run (h : Inv s) : Inv (run sha256 s events) := by
  induction events using List.reverseRecOn with
  | nil => exact h
  | append_singleton events e ih =>
      rw [run_concat]
      exact ih.step

end Invariants

/-! ### Finality -/

section Finality

variable (sha256 : List UInt8 → Vector UInt8 32)

/-- **The terminal status of a run is final.** -/
structure Final (s : Decoder) (events : List Event) : Prop where
  /-- At most one terminal status is posted. -/
  once : (posts (run sha256 s events)).length ≤ 1
  /-- From then on it is the one that is read. -/
  stays : ∀ past, past <+: events → ∀ p ∈ posts (run sha256 s past), status (run sha256 s past) = p
  /-- Success is posted after the call site was released and the report was published. -/
  success : SuccessLast (run sha256 s events).log
  /-- After success a good flow return stays good. -/
  flow : ∀ past e, past ++ [e] <+: events → .success ∈ posts (run sha256 s past) →
    e.flow = flowOk → (step sha256 (run sha256 s past) e).2 = flowOk

variable {sha256} {s : Decoder} {e : Event} {events : List Event}

/-- The status that is read is the posted one. -/
def Settled (s : Decoder) : Prop := ∀ p ∈ posts s, status s = p

lemma Settled.step (h : Settled s) (hinv : Inv s) (hharmless : Harmless s e) :
    Settled (GstRunner.step sha256 s e).1 := by
  intro p hp
  rcases (step_effect : _ ∨ Effect s (GstRunner.step sha256 s e).1) with ⟨q, rfl⟩ | heffect
  · change p ∈ posts (setProperty q s) at hp
    rw [setProperty_posts] at hp
    have hstatus := h p hp
    -- something was posted, so there is a runner and it is terminal
    have hterminal : terminal s = true := by
      by_contra hnot
      rw [hinv.none_posted (Bool.eq_false_iff.mpr hnot)] at hp
      exact absurd hp List.not_mem_nil
    rcases hrunner : s.runner with _ | runner
    · rw [terminal, hrunner] at hterminal
      exact absurd hterminal Bool.false_ne_true
    · rw [terminal_of_runner hrunner] at hterminal
      rw [status_of_runner hrunner] at hstatus
      obtain ⟨hrefused, htaken⟩ := hharmless runner hrunner hterminal
      change status (setProperty q s) = p
      rw [setProperty_status hrunner]
      by_cases hrefuses : refuses s runner q = true
      · rw [if_pos hrefuses, ← hrefused hrefuses]
        exact hstatus
      · rw [if_neg hrefuses, if_neg (htaken (Bool.eq_false_iff.mpr hrefuses))]
        exact hstatus
  · rcases heffect with ⟨notes, hquiet⟩ | ⟨notes, q, hannounces⟩
    · rw [hquiet.posts] at hp
      by_cases hterminal : terminal s = true
      · exact (hquiet.status hterminal).trans (h p hp)
      · rw [hinv.none_posted (Bool.eq_false_iff.mpr hterminal)] at hp
        exact absurd hp List.not_mem_nil
    · rw [hannounces.posts, hinv.none_posted hannounces.before] at hp
      rw [List.mem_singleton.mp hp]
      exact hannounces.status

/-- A property that changes the status after the terminal message unsettles it. -/
lemma harmless_of_settled (hinv : Inv s) (h : Settled s) (h' : Settled (step sha256 s e).1) :
    Harmless s e := by
  cases e with
  | setProperty p =>
      intro runner hrunner hterminal
      obtain ⟨q, hq, hne⟩ := hinv.posted ((terminal_of_runner hrunner).trans hterminal)
      have hmem : q ∈ posts s := hq ▸ List.mem_singleton_self q
      have hbefore : runner.status = q := (status_of_runner hrunner).symm.trans (h q hmem)
      have hafter : status (setProperty p s) = q := by
        refine h' q ?_
        change q ∈ posts (setProperty p s)
        rw [setProperty_posts]
        exact hmem
      rw [setProperty_status hrunner] at hafter
      constructor
      · intro hrefuses
        rw [if_pos hrefuses] at hafter
        exact hbefore.trans hafter.symm
      · intro hrefuses hcompletes
        rw [if_neg (Bool.eq_false_iff.mp hrefuses), if_pos hcompletes] at hafter
        exact hne hafter.symm
  | _ => exact trivial

/-- A runner that has succeeded leaves the flow return alone. -/
lemma step_flow (hinv : Inv s) (h : Settled s) (hsuccess : .success ∈ posts s) (hflow : e.flow = flowOk) :
    (step sha256 s e).2 = flowOk := by
  have hstatus := h _ hsuccess
  have hterminal : terminal s = true := by
    by_contra hnot
    rw [hinv.none_posted (Bool.eq_false_iff.mpr hnot)] at hsuccess
    exact absurd hsuccess List.not_mem_nil
  rcases hrunner : s.runner with _ | runner
  · rw [terminal, hrunner] at hterminal
    exact absurd hterminal Bool.false_ne_true
  · rw [terminal_of_runner hrunner] at hterminal
    rw [status_of_runner hrunner] at hstatus
    cases e with
    | setProperty p => rfl
    | setStreaming streaming => rfl
    | callsite call => rfl
    | startPicture env flow =>
        rw [step, arm, hrunner]
        dsimp only
        rw [if_pos hterminal, if_pos hstatus]
        exact hflow
    | output env flow =>
        rw [step, afterOutput, after, hrunner]
        dsimp only
        rw [if_pos hterminal, if_pos hstatus]
        exact hflow
    | drain env flow =>
        rw [step, afterDrain, after, hrunner]
        dsimp only
        rw [if_pos hterminal, if_pos hstatus]
        exact hflow
    | frame env flow =>
        rw [step, handleFrame, hrunner]
        dsimp only
        rw [if_neg fun habort => habort.1 hflow]
        exact hflow

end Finality

/-- **The terminal status is final exactly where no property changes it.**  For every sequence of
properties, arms, outputs, drains, frames and steps of the call site, with every operation of the call
site and of the report allowed to fail: at most one terminal status is posted, the status that is read
stays the posted one, success is posted after release and publication, and a good flow return stays good
after it, if and only if every property that is set after the terminal message leaves the status. -/
theorem runner_status_final_iff (sha256 : List UInt8 → Vector UInt8 32) (element : Element)
    (streaming : Bool) (events : List Event) :
    Final sha256 (start element streaming) events ↔
      ∀ past e, past ++ [e] <+: events → Harmless (run sha256 (start element streaming) past) e := by
  have hinv : ∀ past, Inv (run sha256 (start element streaming) past) := fun past => inv_start.run
  constructor
  · intro h past e hpast
    have hafter : Settled (step sha256 (run sha256 (start element streaming) past) e).1 := by
      rw [← run_concat]
      exact h.stays _ hpast
    exact harmless_of_settled (hinv past) (h.stays past ((List.prefix_append past [e]).trans hpast)) hafter
  · intro hharmless
    have hsettled : ∀ past, past <+: events → Settled (run sha256 (start element streaming) past) := by
      intro past hpast
      induction past using List.reverseRecOn with
      | nil => exact fun p hp => absurd hp List.not_mem_nil
      | append_singleton past e ih =>
          rw [run_concat]
          exact (ih ((List.prefix_append past [e]).trans hpast)).step (hinv past) (hharmless past e hpast)
    refine ⟨?_, fun past hpast => hsettled past hpast, (hinv events).success, fun past e hpast => ?_⟩
    · rcases hterminal : terminal (run sha256 (start element streaming) events) with _ | _
      · rw [(hinv events).none_posted hterminal]
        exact Nat.zero_le 1
      · obtain ⟨p, hp, -⟩ := (hinv events).posted hterminal
        rw [hp]
        exact Nat.le_refl 1
    · exact step_flow (hinv past) (hsettled past ((List.prefix_append past [e]).trans hpast))

/-- A step of the first thread, with every operation successful. -/
def goodEnv : RunnerEnv := ⟨0, true, true, true, true⟩

/-- The identity of frame 5. -/
def fifthIdentity : Identity := ⟨1, 0, 2, 3, 1, 4, 5, 6, 6, 0, 1, 1, 0, 9, [345600], .gst 7 5⟩

/-- A snapshot that finds it. -/
def fifthEnv : Env where
  thread := 0
  ready := true
  locked := true
  session := true
  now := 1
  deadline := 100
  contextLocked := true
  identity := some fifthIdentity
  proof := some Slot.zero.provenance
  retained := true
  width := 448
  height := 240
  stride := 448
  offset := 0
  length := 345600
  transfer := ⟨1, true, 2, fun _ => 0, 3, true⟩
  identityAfter := some fifthIdentity
  proofAfter := some Slot.zero.provenance
  finalNow := 4

/-- The output of frame 5. -/
def fifthOutput : Gst.OutputEnv where
  thread := 0
  frame := 5
  picture := 5
  frameMatches := true
  outputMatches := true
  outputMatchesAgain := true
  selects := true
  begins := some ⟨1, Nat.one_ne_zero, 5⟩
  snapshot := fifthEnv
  ends := true

/-- Frame 5 is configured, armed, observed and reported. -/
def successfulRun : List Event :=
  [.setProperty (.frames (some ['5'])), .setProperty (.copy false), .setProperty (.report (some ['r'])),
    .startPicture goodEnv flowOk, .callsite (.enter fifthOutput), .callsite (.leave true),
    .output goodEnv flowOk]

/-- A property that is set after success changes the status, and the next output fails. -/
theorem property_after_success :
    let sha256 : List UInt8 → Vector UInt8 32 := fun _ => Vector.replicate 32 0
    let s := run sha256 (start (Gst.start fun _ => true) false) successfulRun
    let s' := run sha256 s [.setProperty (.copy true)]
    posts s = [.success] ∧ status s = .success ∧ posts s' = [.success] ∧ status s' = .configRefused ∧
      (step sha256 s (.output goodEnv flowOk)).2 = flowOk ∧
      (step sha256 s' (.output goodEnv flowOk)).2 = flowError := by
  decide +kernel

end OmarchyM1Video.ReferenceContent.GstRunner
