import OmarchyM1Video.CommandCapture.Report

/-!
When a campaign of command captures completes.

* `Healthy`, `Identity`, `Transition`, `Recorder`, `Workload`: the checks that have to pass at a place;
* `healthy_ok`, `identity_ok`, `command_ok`, …: what a method that ends has checked and recorded;
* `Passes`: every check of a run;
* `recorded_ok`: a run that records its end has passed them, and what it has recorded;
* `run_ok`, `run_error`: how a run ends after that record and before it.
-/

namespace OmarchyM1Video.CommandCapture

open OmarchyM1Video.Py

variable {env : Env} {w w' : World} {site : Site}

/-- The world after these events. -/
def World.log (w : World) (env : Env) (es : List Event) : World :=
  { w with events := w.events ++ es.map fun e => ⟨env.lease, e⟩ }

@[simp] lemma World.log_changed (es : List Event) : (w.log env es).changed = w.changed := rfl

@[simp] lemma World.log_restored (es : List Event) : (w.log env es).restored = w.restored := rfl

@[simp] lemma World.log_number (es : List Event) : (w.log env es).number = w.number := rfl

lemma World.log_log (es es' : List Event) :
    (w.log env es).log env es' = w.log env (es ++ es') := by
  simp [World.log]

@[simp] lemma record_run (event : Event) : record env event w = .ok ⟨⟩ (w.log env [event]) := rfl

@[simp] lemma record_bind {β : Type} (event : Event) (f : Unit → Run β) :
    (record env event >>= f) w = f () (w.log env [event]) := rfl

/-- A step that completes, before others that do. -/
lemma completes {α β : Type} {x : Run α} {f : α → Run β} {a : α} {v : World} (hx : x w = .ok a v)
    (hf : ∃ b w', f a v = .ok b w') : ∃ b w', (x >>= f) w = .ok b w' := by
  obtain ⟨b, w', hf⟩ := hf
  exact ⟨b, w', bind_ok.mpr ⟨a, v, hx, hf⟩⟩

/-! ### The checks of a method -/

/-- A sample that passes. -/
structure Healthy (env : Env) (site : Site) (requirePresent : Bool) (s : GuardState) : Prop where
  sample : env.state site = .ok s
  idle : s.busy = false
  awake : s.wedged = false
  faultless : s.faults = []
  live : s.moduleLoaded = true → env.initstate site = .ok "live"
  present : requirePresent = true → s.moduleLoaded = true ∧ s.videoNode = true

/-- The identity of the loaded module, while the original is installed. -/
structure Identity (env : Env) (site : Site) (which : Which) : Prop where
  installed : env.digest site = .ok env.config.originalSha
  loaded : ∃ note, env.note site = .ok note ∧ env.saved which = .ok note

/-- A transition that succeeds. -/
def Transition (env : Env) (site : Site) (r : Completed) : Prop :=
  env.command site = .ok r ∧ r.returncode = 0

lemma healthy_ok {requirePresent : Bool} {s : GuardState} :
    healthy env site requirePresent w = .ok s w' ↔
      Healthy env site requirePresent s ∧ w' = w.log env [.state s] := by
  have hlive : ∀ (s : GuardState) (v v' : World), (onlyIf (s.moduleLoaded = true) (do
      let initstate ← lift (env.initstate site)
      raiseIf (initstate ≠ "live") "STOP: module is not live; no recovery")) v = .ok () v' ↔
        (s.moduleLoaded = true → env.initstate site = .ok "live") ∧ v = v' := by
    intro s v v'
    rw [onlyIf_ok, lift_bind_ok]
    by_cases hloaded : s.moduleLoaded = true <;> simp [hloaded]
  simp only [healthy, bind_ok, lift_ok, record_run, raiseIf_ok, hlive, pure_run]
  constructor
  · rintro ⟨s, _, ⟨hs, rfl⟩, _, _, h, _, _, ⟨hguard, rfl⟩, _, _, ⟨hinit, rfl⟩, _, _, ⟨hpresent, rfl⟩,
      h'⟩
    obtain ⟨-, rfl⟩ := EStateM.Result.ok.inj h
    obtain ⟨rfl, rfl⟩ := EStateM.Result.ok.inj h'
    simp only [not_or, Bool.not_eq_true, not_not] at hguard
    refine ⟨⟨hs, hguard.1, hguard.2.1, hguard.2.2, hinit, fun hp => ?_⟩, rfl⟩
    by_contra hnone
    exact hpresent ⟨hp, hnone⟩
  · rintro ⟨h, rfl⟩
    refine ⟨s, _, ⟨h.sample, rfl⟩, (), _, rfl, (), _, ⟨?_, rfl⟩, (), _, ⟨h.live, rfl⟩, (), _,
      ⟨fun hp => hp.2 (h.present hp.1), rfl⟩, rfl⟩
    simp [h.idle, h.awake, h.faultless]

lemma identity_ok {which : Which} {u : Unit} :
    identity env site which w = .ok u w' ↔ Identity env site which ∧ w = w' := by
  simp only [identity, lift_bind_ok, raiseIf_bind_ok, raiseIf_ok, ne_eq, not_not]
  constructor
  · rintro ⟨_, hsha, rfl, note, hnote, saved, hsaved, rfl, rfl⟩
    exact ⟨⟨hsha, note, hnote, hsaved⟩, rfl⟩
  · rintro ⟨⟨hsha, note, hnote, hsaved⟩, rfl⟩
    exact ⟨_, hsha, rfl, note, hnote, note, hsaved, rfl, rfl⟩

lemma command_ok {tool : String} {args : List String} {u : Unit} :
    command env site tool args w = .ok u w' ↔ ∃ r, Transition env site r ∧
      w' = w.log env [.transitionAttempt (tool :: args), .transitionResult (tool :: args) r] := by
  simp only [command, lift_bind_ok, record_bind, raiseIf_ok, ne_eq, not_not, World.log_log]
  constructor
  · rintro ⟨r, hr, hreturn, rfl⟩
    exact ⟨r, ⟨hr, hreturn⟩, rfl⟩
  · rintro ⟨r, ⟨hr, hreturn⟩, rfl⟩
    exact ⟨r, hr, hreturn, rfl⟩

/-- A recorder that is off before the runs. -/
structure RecorderOff (env : Env) (name : String) (st : Status) : Prop where
  status : env.status name = .ok st
  off : checkState st 1 false false = .ok ()
  closed : st.opens = 0

lemma preflightRecorder_ok {name : String} {u : Unit} :
    preflightRecorder env name w = .ok u w' ↔
      ∃ st, RecorderOff env name st ∧ w' = w.log env [.recorderPreflight name st] := by
  simp only [preflightRecorder, lift_bind_ok, raiseIf_bind_ok, record_run, ne_eq, not_not]
  constructor
  · rintro ⟨st, hst, _, hoff, hopens, h⟩
    exact ⟨st, ⟨hst, hoff, hopens⟩, (EStateM.Result.ok.inj h).2.symm⟩
  · rintro ⟨st, h, rfl⟩
    exact ⟨st, h.status, (), h.off, h.closed, rfl⟩

lemma recorderPreflight_ok {u : Unit} :
    recorderPreflight env w = .ok u w' ↔ ∃ reference command, RecorderOff env "reference" reference ∧
      RecorderOff env "command" command ∧ w' = w.log env
        [.recorderPreflight "reference" reference, .recorderPreflight "command" command] := by
  simp only [recorderPreflight, paths, each_cons_ok, each_nil_ok, preflightRecorder_ok]
  constructor
  · rintro ⟨_, ⟨reference, hreference, rfl⟩, _, ⟨command, hcommand, rfl⟩, rfl⟩
    exact ⟨reference, command, hreference, hcommand, by rw [World.log_log]; rfl⟩
  · rintro ⟨reference, command, hreference, hcommand, rfl⟩
    exact ⟨_, ⟨reference, hreference, rfl⟩, _, ⟨command, hcommand, rfl⟩, by rw [World.log_log]; rfl⟩

/-! ### The workloads -/

/-- The workload of this number passes. -/
structure WorkloadPasses (env : Env) (number : ℕ) (before after : GuardState) : Prop where
  candidate : Identity env (.before number) .candidate
  before : Healthy env (.before number) true before
  exit : env.workload number = .ok 0
  after : Healthy env (.after number) true after

/-- The world with this number. -/
def World.numbered (w : World) (number : ℕ) : World := { w with number }

/-- What a workload that passes records. -/
def workloadLog (name : String) (number : ℕ) (before after : GuardState) : List Event :=
  [.state before, .runStart name number, .runResult name number 0, .state after]

lemma workload_ok {name : String} {u : Unit} :
    workload env name w = .ok u w' ↔ ∃ before after, WorkloadPasses env (w.number + 1) before after ∧
      w' = (w.numbered (w.number + 1)).log env (workloadLog name (w.number + 1) before after) := by
  simp only [workload, modify_bind, get_bind, bind_ok, identity_ok, healthy_ok, record_run,
    lift_ok, raiseIf_ok, pure_run, ne_eq, not_not]
  constructor
  · rintro ⟨_, _, ⟨hcandidate, rfl⟩, before, _, ⟨hbefore, rfl⟩, _, _, h, _, _, ⟨hexit, rfl⟩, _, _, h',
      _, _, ⟨rfl, rfl⟩, after, _, ⟨hafter, rfl⟩, h''⟩
    obtain ⟨-, rfl⟩ := EStateM.Result.ok.inj h
    obtain ⟨-, rfl⟩ := EStateM.Result.ok.inj h'
    obtain ⟨-, rfl⟩ := EStateM.Result.ok.inj h''
    refine ⟨before, after, ⟨hcandidate, hbefore, hexit, hafter⟩, ?_⟩
    simp only [World.log_log]
    rfl
  · rintro ⟨before, after, h, rfl⟩
    refine ⟨(), _, ⟨h.candidate, rfl⟩, before, _, ⟨h.before, rfl⟩, (), _, rfl, 0, _, ⟨h.exit, rfl⟩,
      (), _, rfl, (), _, ⟨rfl, rfl⟩, after, _, ⟨h.after, rfl⟩, ?_⟩
    simp only [World.log_log]
    rfl

/-- The events of workloads that pass, from this number on. -/
structure RunLog (env : Env) (es : List Event) (number : ℕ) (names : List String) : Prop where
  results : es.filterMap Event.result? = []
  attempts : es.filterMap Event.attempt? = []
  samples : ∀ s ∈ es.filterMap Event.sample?, ∃ site, Healthy env site true s
  recorders : es.filterMap Event.preflight? = []
  starts : es.filterMap Event.start? = names.zipIdx number
  ends : es.filterMap Event.end? = (names.zipIdx number).map fun p => (p.1, p.2, 0)
  restored : es.filterMap Event.restored? = []
  terminal : es.filterMap Event.terminal? = []
  failures : es.filterMap Event.failure? = []

lemma RunLog.nil (number : ℕ) : RunLog env [] number [] :=
  ⟨rfl, rfl, by simp, rfl, rfl, rfl, rfl, rfl, rfl⟩

/-- A workload that passes before others that do. -/
lemma RunLog.cons {es : List Event} {number : ℕ} {name : String} {names : List String}
    {before after : GuardState} (hpass : WorkloadPasses env number before after)
    (h : RunLog env es (number + 1) names) :
    RunLog env (workloadLog name number before after ++ es) number (name :: names) := by
  refine ⟨?_, ?_, ?_, ?_, ?_, ?_, ?_, ?_, ?_⟩ <;>
    simp only [List.filterMap_append, h.results, h.attempts, h.recorders, h.starts, h.ends,
      h.restored, h.terminal, h.failures, List.zipIdx_cons]
  case refine_3 =>
    rw [List.forall_mem_append]
    refine ⟨?_, h.samples⟩
    change ∀ s ∈ [before, after], _
    rw [List.forall_mem_cons, List.forall_mem_singleton]
    exact ⟨⟨_, hpass.before⟩, ⟨_, hpass.after⟩⟩
  all_goals rfl

/-- A loop over workloads that completes has passed each of them. -/
lemma workloads_ok {names : List String} {u : Unit}
    (h : each (workload env) names w = .ok u w') :
    (∀ n ∈ List.range' (w.number + 1) names.length,
      ∃ before after, WorkloadPasses env n before after) ∧
      ∃ es, RunLog env es (w.number + 1) names ∧
        w' = (w.numbered (w.number + names.length)).log env es := by
  induction names generalizing w with
  | nil =>
      rw [each_nil_ok] at h
      subst h
      exact ⟨by simp, [], .nil _, by simp [World.log, World.numbered]⟩
  | cons name names ih =>
      rw [each_cons_ok] at h
      obtain ⟨_, hfirst, hrest⟩ := h
      obtain ⟨before, after, hpass, rfl⟩ := workload_ok.mp hfirst
      obtain ⟨hall, es, hlog, rfl⟩ := ih hrest
      refine ⟨?_, _, .cons hpass hlog, ?_⟩
      · rw [List.length_cons, List.range'_succ, List.forall_mem_cons]
        exact ⟨⟨before, after, hpass⟩, hall⟩
      · rw [← World.log_log]
        simp only [World.log, World.numbered, List.length_cons]
        congr 1
        omega

/-- A loop over workloads that pass completes. -/
lemma workloads_complete {names : List String}
    (h : ∀ n ∈ List.range' (w.number + 1) names.length,
      ∃ before after, WorkloadPasses env n before after) :
    ∃ u w', each (workload env) names w = .ok u w' := by
  induction names generalizing w with
  | nil => exact ⟨(), w, by simp⟩
  | cons name names ih =>
      rw [List.length_cons, List.range'_succ, List.forall_mem_cons] at h
      obtain ⟨⟨before, after, hpass⟩, hrest⟩ := h
      exact completes (a := ()) (workload_ok.mpr ⟨before, after, hpass, rfl⟩) (ih hrest)

/-! ### A run that completes -/

/-- What a transition that ended has recorded. -/
def transitionLog (argv : List String) (r : Completed) : List Event :=
  [.transitionAttempt argv, .transitionResult argv r]

/-- What the body of a run that completes has seen. -/
structure BodyTrace where
  remove : Completed
  removed : GuardState
  insert : Completed
  inserted : GuardState
  reference : Status
  command : Status
  runs : List Event

/-- What it records. -/
def BodyTrace.log (t : BodyTrace) (candidate : String) : List Event :=
  transitionLog ["rmmod", "apple_avd"] t.remove ++ [Event.state t.removed] ++
    transitionLog ["insmod", candidate] t.insert ++ [Event.state t.inserted] ++
    [Event.recorderPreflight "reference" t.reference,
      Event.recorderPreflight "command" t.command] ++ t.runs

/-- What the restoration of a run that completes has seen. -/
structure RestoreTrace where
  first : GuardState
  unload : Completed
  cleared : GuardState
  modprobe : Completed
  restored : GuardState
  sha : String

/-- What it records. -/
def RestoreTrace.log (t : RestoreTrace) : List Event :=
  [Event.state t.first] ++
    (if t.first.moduleLoaded = true then transitionLog ["rmmod", "apple_avd"] t.unload else []) ++
    [Event.state t.cleared] ++ transitionLog ["modprobe", "apple_avd"] t.modprobe ++
    [Event.state t.restored, Event.originalRestored t.sha]

/-- What a run that completes has seen. -/
structure Trace where
  start : GuardState
  body : BodyTrace
  restoration : RestoreTrace
  terminal : GuardState
  initstate : Option String

/-- What a run that completes records. -/
def Trace.log (t : Trace) (candidate : String) (smokeOnly : Bool) : List Event :=
  [Event.state t.start] ++ t.body.log candidate ++ t.restoration.log ++
    [Event.terminalState t.terminal t.initstate true,
      Event.complete (workloads smokeOnly).length true smokeOnly]

/-- The checks before the `try` statement. -/
structure Prepared (env : Env) (start : GuardState) : Prop where
  user : env.euid ≠ 0
  lease : env.lease.getD "" ≠ ""
  fresh : env.attempted = false
  machine : env.machine = .ok "aarch64"
  apple : env.apple = .ok true
  packages : env.packages = .ok ()
  tools : ∀ p ∈ env.config.toolSha, env.tool p.1 = .ok p.2
  candidate : env.candidate = .ok env.config.candidateSha
  original : Identity env .start .original
  healthy : Healthy env .start true start

/-- The checks of the body. -/
structure BodyPasses (env : Env) (smokeOnly : Bool) (t : BodyTrace) : Prop where
  remove : Transition env .removed t.remove
  removed : Healthy env .removed false t.removed
  insert : Transition env .inserted t.insert
  candidate : Identity env .inserted .candidate
  inserted : Healthy env .inserted true t.inserted
  reference : RecorderOff env "reference" t.reference
  command : RecorderOff env "command" t.command
  runs : ∀ n ∈ List.range' 1 (workloads smokeOnly).length,
    ∃ before after, WorkloadPasses env n before after

/-- The checks of the restoration. -/
structure RestorePasses (env : Env) (t : RestoreTrace) : Prop where
  first : Healthy env .restore false t.first
  unload : t.first.moduleLoaded = true →
    Identity env .restore .candidate ∧ Transition env .restore t.unload
  cleared : Healthy env .cleared false t.cleared
  modprobe : Transition env .restored t.modprobe
  original : Identity env .restored .original
  restored : Healthy env .restored true t.restored
  recorded : env.digest .recorded = .ok t.sha

/-- Every check of a run. -/
structure Passes (env : Env) (smokeOnly : Bool) (t : Trace) : Prop where
  prepared : Prepared env t.start
  body : BodyPasses env smokeOnly t.body
  restoration : RestorePasses env t.restoration
  terminal : env.state .terminal = .ok t.terminal
  initstate : env.finalInitstate = .ok t.initstate

lemma tools_ok {ps : List (String × String)} {u : Unit} :
    each (fun p : String × String => (do
      let sha ← lift (env.tool p.1)
      raiseIf (sha ≠ p.2) ("tool identity changed: " ++ p.1) : Run Unit)) ps w = .ok u w' ↔
      (∀ p ∈ ps, env.tool p.1 = .ok p.2) ∧ w = w' := by
  induction ps generalizing w with
  | nil => simp
  | cons p ps ih =>
      simp only [each_cons_ok, lift_bind_ok, raiseIf_ok, ne_eq, not_not, ih, List.forall_mem_cons]
      constructor
      · rintro ⟨_, ⟨_, hp, rfl, rfl⟩, hps, rfl⟩
        exact ⟨⟨hp, hps⟩, rfl⟩
      · rintro ⟨⟨hp, hps⟩, rfl⟩
        exact ⟨w, ⟨_, hp, rfl, rfl⟩, hps, rfl⟩

lemma prepare_ok {u : Unit} :
    prepare env w = .ok u w' ↔ ∃ start, Prepared env start ∧ w' = w.log env [.state start] := by
  simp only [prepare, bind_ok, raiseIf_ok, lift_ok, tools_ok, identity_ok, healthy_ok, pure_run,
    ne_eq, not_not]
  constructor
  · rintro ⟨_, _, ⟨huser, rfl⟩, _, _, ⟨hfresh, rfl⟩, machine, _, ⟨hmachine, rfl⟩, _, _, ⟨rfl, rfl⟩,
      apple, _, ⟨happle, rfl⟩, _, _, ⟨hhost, rfl⟩, _, _, ⟨hpackages, rfl⟩, _, _, ⟨htools, rfl⟩, sha, _,
      ⟨hsha, rfl⟩, _, _, ⟨rfl, rfl⟩, _, _, ⟨horiginal, rfl⟩, start, _, ⟨hhealthy, rfl⟩, h⟩
    obtain ⟨-, rfl⟩ := EStateM.Result.ok.inj h
    rw [not_or] at huser
    refine ⟨start, ⟨huser.1, huser.2, by simpa using hfresh, hmachine, ?_, hpackages, htools, hsha,
      horiginal, hhealthy⟩, rfl⟩
    rw [happle, Except.ok.injEq]
    simpa using hhost
  · rintro ⟨start, h, rfl⟩
    exact ⟨(), _, ⟨not_or.mpr ⟨h.user, h.lease⟩, rfl⟩, (), _, ⟨by simp [h.fresh], rfl⟩, _, _,
      ⟨h.machine, rfl⟩, (), _, ⟨rfl, rfl⟩, _, _, ⟨h.apple, rfl⟩, (), _, ⟨by simp, rfl⟩, (), _,
      ⟨h.packages, rfl⟩, (), _, ⟨h.tools, rfl⟩, _, _, ⟨h.candidate, rfl⟩, (), _, ⟨rfl, rfl⟩, (), _,
      ⟨h.original, rfl⟩, _, _, ⟨h.healthy, rfl⟩, rfl⟩

/-- A body that completes has passed its checks. -/
lemma body_ok {smokeOnly : Bool} {u : Unit} (hnumber : w.number = 0)
    (h : body env smokeOnly w = .ok u w') : ∃ t, BodyPasses env smokeOnly t ∧
      RunLog env t.runs 1 (workloads smokeOnly) ∧
      w' = { w with changed := true, number := (workloads smokeOnly).length }.log env
        (t.log env.config.candidate) := by
  simp only [body, bind_ok, command_ok, modify_run, healthy_ok, identity_ok, recorderPreflight_ok]
    at h
  obtain ⟨_, _, ⟨remove, hremove, rfl⟩, _, _, h, removed, _, ⟨hremoved, rfl⟩, _, _,
    ⟨insert, hinsert, rfl⟩, _, _, ⟨hcandidate, rfl⟩, inserted, _, ⟨hinserted, rfl⟩, _, _,
    ⟨reference, command, hreference, hcommand, rfl⟩, hruns⟩ := h
  obtain ⟨-, rfl⟩ := EStateM.Result.ok.inj h
  obtain ⟨hpass, es, hlog, rfl⟩ := workloads_ok hruns
  simp only [World.log_number, hnumber, Nat.zero_add] at hpass hlog ⊢
  refine ⟨⟨remove, removed, insert, inserted, reference, command, es⟩,
    ⟨hremove, hremoved, hinsert, hcandidate, hinserted, hreference, hcommand, hpass⟩, hlog, ?_⟩
  simp [World.log, World.numbered, BodyTrace.log, transitionLog]

/-- A body whose checks pass completes. -/
lemma body_complete {smokeOnly : Bool} (hnumber : w.number = 0) {t : BodyTrace}
    (h : BodyPasses env smokeOnly t) : ∃ u w', body env smokeOnly w = .ok u w' := by
  refine completes (a := ()) (command_ok.mpr ⟨_, h.remove, rfl⟩) <| completes modify_run <|
    completes (healthy_ok.mpr ⟨h.removed, rfl⟩) <|
    completes (a := ()) (command_ok.mpr ⟨_, h.insert, rfl⟩) <|
    completes (a := ()) (identity_ok.mpr ⟨h.candidate, rfl⟩) <|
    completes (healthy_ok.mpr ⟨h.inserted, rfl⟩) <|
    completes (a := ()) (recorderPreflight_ok.mpr ⟨_, _, h.reference, h.command, rfl⟩) ?_
  exact workloads_complete (by simpa [hnumber] using h.runs)

/-- A restoration that completes has passed its checks. -/
lemma restore_ok {u : Unit} (h : restore env w = .ok u w') : ∃ t, RestorePasses env t ∧
    w' = { w with restored := true }.log env t.log := by
  simp only [restore, bind_ok, healthy_ok, onlyIf_ok, command_ok, identity_ok, modify_run, lift_ok,
    record_run] at h
  obtain ⟨first, _, ⟨hfirst, rfl⟩, _, _, hunload, cleared, _, ⟨hcleared, rfl⟩, _, _,
    ⟨modprobe, hmodprobe, rfl⟩, _, _, ⟨horiginal, rfl⟩, restored, _, ⟨hrestored, rfl⟩, _, _, h, sha, _,
    ⟨hsha, rfl⟩, h'⟩ := h
  obtain ⟨-, rfl⟩ := EStateM.Result.ok.inj h
  obtain ⟨-, rfl⟩ := EStateM.Result.ok.inj h'
  rcases hunload with ⟨hloaded, _, _, ⟨hcandidate, rfl⟩, unload, hunload, rfl⟩ | ⟨hgone, rfl⟩
  · refine ⟨⟨first, unload, cleared, modprobe, restored, sha⟩,
      ⟨hfirst, fun _ => ⟨hcandidate, hunload⟩, hcleared, hmodprobe, horiginal, hrestored, hsha⟩, ?_⟩
    simp [World.log, RestoreTrace.log, transitionLog, hloaded]
  · refine ⟨⟨first, modprobe, cleared, modprobe, restored, sha⟩,
      ⟨hfirst, fun hloaded => absurd hloaded hgone, hcleared, hmodprobe, horiginal, hrestored, hsha⟩,
      ?_⟩
    simp [World.log, RestoreTrace.log, transitionLog, hgone]

/-- A restoration whose checks pass completes. -/
lemma restore_complete {t : RestoreTrace} (h : RestorePasses env t) :
    ∃ u w', restore env w = .ok u w' := by
  have hunload : ∀ v : World, ∃ v', onlyIf (t.first.moduleLoaded = true) (do
      identity env .restore .candidate
      command env .restore "rmmod" ["apple_avd"]) v = .ok () v' := by
    intro v
    by_cases hloaded : t.first.moduleLoaded = true
    · obtain ⟨hcandidate, hunload⟩ := h.unload hloaded
      obtain ⟨u, v', hv'⟩ := completes (a := ()) (w := v)
        (f := fun _ => command env .restore "rmmod" ["apple_avd"])
        (identity_ok.mpr ⟨hcandidate, rfl⟩) ⟨(), _, command_ok.mpr ⟨_, hunload, rfl⟩⟩
      exact ⟨v', onlyIf_ok.mpr (.inl ⟨hloaded, hv'⟩)⟩
    · exact ⟨v, onlyIf_ok.mpr (.inr ⟨hloaded, rfl⟩)⟩
  obtain ⟨v', hv'⟩ := hunload (w.log env [.state t.first])
  exact completes (healthy_ok.mpr ⟨h.first, rfl⟩) <| completes hv' <|
    completes (healthy_ok.mpr ⟨h.cleared, rfl⟩) <|
    completes (a := ()) (command_ok.mpr ⟨_, h.modprobe, rfl⟩) <|
    completes (a := ()) (identity_ok.mpr ⟨h.original, rfl⟩) <|
    completes (healthy_ok.mpr ⟨h.restored, rfl⟩) <| completes modify_run <|
    completes (lift_ok.mpr ⟨h.recorded, rfl⟩) ⟨(), _, rfl⟩

/-! ### The run -/

lemma kept_none {x : Run Unit} {event : String → Event} :
    kept env x event w = .ok none w' ↔ x w = .ok () w' := by
  rw [kept, tryExcept]
  cases hx : x w with
  | ok u v => simp [bind, EStateM.bind, hx, pure, EStateM.pure]
  | error e v => simp [bind, EStateM.bind, hx, pure, EStateM.pure]

lemma recordFinalState_ok {u : Unit} :
    recordFinalState env w = .ok u w' ↔ ∃ terminal initstate, env.state .terminal = .ok terminal ∧
      env.finalInitstate = .ok initstate ∧
        w' = w.log env [.terminalState terminal initstate w.restored] := by
  simp only [recordFinalState, lift_bind_ok, get_bind, record_run]
  constructor
  · rintro ⟨terminal, hterminal, initstate, hinitstate, h⟩
    exact ⟨terminal, initstate, hterminal, hinitstate, (EStateM.Result.ok.inj h).2.symm⟩
  · rintro ⟨terminal, initstate, hterminal, hinitstate, rfl⟩
    exact ⟨terminal, hterminal, initstate, hinitstate, rfl⟩

lemma restoration_none :
    restoration env w = .ok none w' ↔
      if w.changed = true then restore env w = .ok () w' else w = w' := by
  simp only [restoration, get_bind]
  split
  · exact kept_none
  · simp

/-- The end of a run in which nothing has failed. -/
lemma closing_none {failure : Option String} :
    closing env failure w = .ok none w' ↔ failure = none ∧
      ∃ v, restoration env w = .ok none v ∧ recordFinalState env v = .ok () w' := by
  simp only [closing, bind_ok, pure_run]
  constructor
  · rintro ⟨later, v, hv, _, v', hv', h⟩
    obtain ⟨hnone, rfl⟩ := EStateM.Result.ok.inj h
    obtain ⟨rfl, rfl⟩ := Option.or_eq_none_iff.mp hnone
    exact ⟨rfl, v, hv, hv'⟩
  · rintro ⟨rfl, v, hv, hv'⟩
    exact ⟨none, v, hv, (), w', hv', rfl⟩

/-- **A run that records its end.**  It has passed every check, and its log is that of what it has
seen. -/
theorem recorded_ok {smokeOnly : Bool} {u : Unit} (h : recorded env smokeOnly {} = .ok u w) :
    ∃ t, Passes env smokeOnly t ∧ RunLog env t.body.runs 1 (workloads smokeOnly) ∧
      w.events = (t.log env.config.candidate smokeOnly).map fun e => ⟨env.lease, e⟩ := by
  simp only [recorded, bind_ok, prepare_ok] at h
  obtain ⟨_, _, ⟨start, hprepared, rfl⟩, failure, v, hkept, failure', v', hclosing, h⟩ := h
  cases failure' with
  | some e => exact absurd h (by simp)
  | none =>
      obtain ⟨rfl, v₁, hrestore, hfinal⟩ := closing_none.mp hclosing
      obtain ⟨tb, hbody, hlog, rfl⟩ := body_ok (by rfl) (kept_none.mp hkept)
      rw [restoration_none, if_pos (by rfl)] at hrestore
      obtain ⟨tr, hpass, rfl⟩ := restore_ok hrestore
      obtain ⟨terminal, initstate, hterminal, hinitstate, rfl⟩ := recordFinalState_ok.mp hfinal
      simp only [get_bind, raiseIf_bind_ok, record_run] at h
      obtain ⟨-, h⟩ := h
      obtain ⟨-, rfl⟩ := EStateM.Result.ok.inj h
      refine ⟨⟨start, tb, tr, terminal, initstate⟩,
        ⟨hprepared, hbody, hpass, hterminal, hinitstate⟩, hlog, ?_⟩
      simp [World.log, Trace.log]

/-- A run whose checks pass records its end. -/
theorem recorded_complete {smokeOnly : Bool} {t : Trace} (h : Passes env smokeOnly t) :
    ∃ u w, recorded env smokeOnly {} = .ok u w := by
  obtain ⟨⟨⟩, v, hbody⟩ := body_complete (w := World.log {} env [.state t.start]) rfl h.body
  obtain ⟨tb, -, -, hv⟩ := body_ok (by rfl) hbody
  obtain ⟨⟨⟩, v', hrestore⟩ := restore_complete (w := v) h.restoration
  obtain ⟨tr, -, hv'⟩ := restore_ok hrestore
  have hfinal := recordFinalState_ok (w := v') (u := ()).mpr ⟨_, _, h.terminal, h.initstate, rfl⟩
  have hclosing : closing env none v = .ok none _ := closing_none.mpr
    ⟨rfl, v', by rw [restoration_none, if_pos (by rw [hv]; rfl)]; exact hrestore, hfinal⟩
  refine completes (a := ()) (prepare_ok.mpr ⟨_, h.prepared, rfl⟩) <|
    completes (kept_none.mpr hbody) <| completes hclosing ?_
  simp only [get_bind]
  refine completes (a := ()) (raiseIf_ok.mpr ⟨by simp [hv'], rfl⟩) ⟨(), _, rfl⟩

/-- A run returns if its end is recorded and `campaign-complete` is written. -/
lemma run_ok {smokeOnly : Bool} {u : Unit} :
    run env smokeOnly {} = .ok u w ↔ ∃ v, recorded env smokeOnly {} = .ok () v ∧
      env.completion = .ok () ∧ w = { v with complete := true } := by
  simp only [run, bind_ok, lift_ok, modify_run]
  constructor
  · rintro ⟨_, v, hv, _, _, ⟨hcompletion, rfl⟩, h⟩
    exact ⟨v, hv, hcompletion, (EStateM.Result.ok.inj h).2.symm⟩
  · rintro ⟨v, hv, hcompletion, rfl⟩
    exact ⟨(), v, hv, (), v, ⟨hcompletion, rfl⟩, rfl⟩

/-- A run raises before its end is recorded, or when `campaign-complete` is to be written. -/
lemma run_error {smokeOnly : Bool} {e : String} :
    run env smokeOnly {} = .error e w ↔ recorded env smokeOnly {} = .error e w ∨
      recorded env smokeOnly {} = .ok () w ∧ env.completion = .error e := by
  simp only [run, bind_error]
  cases env.completion with
  | ok u => simp [lift]
  | error e' =>
      simp only [lift, throw_run, EStateM.Result.error.injEq, Except.error.injEq]
      constructor
      · rintro (h | ⟨_, v, hv, ⟨rfl, rfl⟩ | ⟨_, _, h, -⟩⟩)
        · exact .inl h
        · exact .inr ⟨hv, rfl⟩
        · exact absurd h (by simp)
      · rintro (h | ⟨hv, rfl⟩)
        · exact .inl h
        · exact .inr ⟨(), w, hv, .inl ⟨rfl, rfl⟩⟩

end OmarchyM1Video.CommandCapture
