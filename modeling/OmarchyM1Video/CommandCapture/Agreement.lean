import OmarchyM1Video.CommandCapture.Endings

/-!
What the report says of a campaign.

The report judges the whole log again.  Of a run whose checks pass it sees more than the run has tested:
the state at the end is only recorded, the transitions show whether the candidate was still loaded when it
was to be unloaded, and the digest of the original is read once more.

* `GuardSound`, `Quiet`: what is assumed of the guard and of the recorders;
* `Ending`: what the report needs beyond the checks of the run;
* `accepted_iff`: the log of a run whose checks pass;
* `not_accepted`: a log without an end;
* `completed_accepted_iff`: the report of a campaign.
-/

namespace OmarchyM1Video.CommandCapture

open OmarchyM1Video.Py

variable {env : Env} {smokeOnly : Bool}

/-- A state is busy exactly when it lists holders, and wedged exactly when it lists stuck tasks. -/
def GuardSound (env : Env) : Prop :=
  ∀ site s, env.state site = .ok s →
    (s.busy = true ↔ s.holders ≠ []) ∧ (s.wedged = true ↔ s.stuckTasks ≠ [])

/-- A recorder without a capture has counted nothing. -/
def Quiet (env : Env) : Prop :=
  ∀ name st, env.status name = .ok st → st.run = 0 → st.phase = 0 → ∀ n ∈ st.counts, n = 0

/-- What the report needs beyond the checks of a run: the candidate is still loaded at the first sample
of the restoration, the digest that is recorded is that of the original, and the state at the end is
healthy. -/
structure Ending (env : Env) : Prop where
  loaded : ∃ s, env.state .restore = .ok s ∧ s.moduleLoaded = true
  digest : env.digest .recorded = .ok env.config.originalSha
  terminal : ∃ s initstate, env.state .terminal = .ok s ∧ env.finalInitstate = .ok initstate ∧
    terminalOk (s, initstate, true) = true

/-! ### The log of a run that completes -/

lemma RecorderOff.zero {name : String} {st : Status} (h : RecorderOff env name st)
    (hquiet : Quiet env) : ∀ n ∈ st.values, n = 0 := by
  have hoff := h.off
  simp only [checkState, Bool.false_eq_true, if_false, Except.bind_ok, need_ok] at hoff
  obtain ⟨-, herrors, -, -, hzero⟩ := hoff
  simp only [List.forall_mem_cons] at hzero
  obtain ⟨hrun, hcontext, hphase, -, hpictures, hcompletions, -⟩ := hzero
  have hcounts := hquiet name st h.status hrun hphase
  simp only [Status.values, List.forall_mem_append, List.forall_mem_cons]
  exact ⟨⟨⟨hrun, hcontext, hphase, herrors, by simp⟩, hcounts⟩, hpictures, hcompletions, h.closed,
    by simp⟩

/-- A sample that passes lists nothing. -/
lemma Healthy.lists {site : Site} {present : Bool} {s : GuardState}
    (h : Healthy env site present s) (hguard : GuardSound env) :
    s.faults = [] ∧ s.stuckTasks = [] ∧ s.holders = [] := by
  obtain ⟨hbusy, hwedged⟩ := hguard site s h.sample
  have hidle := h.idle
  have hawake := h.awake
  refine ⟨h.faultless, ?_, ?_⟩
  · by_contra hne
    rw [hwedged.mpr hne] at hawake
    exact absurd hawake (by simp)
  · by_contra hne
    rw [hbusy.mpr hne] at hidle
    exact absurd hidle (by simp)

variable {t : Trace}

/-- The transitions of a run that completes: the candidate is unloaded only if it is still there. -/
lemma log_results (hruns : RunLog env t.body.runs 1 (workloads smokeOnly)) (candidate : String) :
    (t.log candidate smokeOnly).filterMap Event.result? =
      [(["rmmod", "apple_avd"], t.body.remove.returncode),
        (["insmod", candidate], t.body.insert.returncode)] ++
      (if t.restoration.first.moduleLoaded = true then
        [(["rmmod", "apple_avd"], t.restoration.unload.returncode)] else []) ++
      [(["modprobe", "apple_avd"], t.restoration.modprobe.returncode)] := by
  cases hloaded : t.restoration.first.moduleLoaded <;>
    simp [Trace.log, BodyTrace.log, RestoreTrace.log, transitionLog, List.filterMap_cons, Event.result?,
      hruns.results, hloaded]

lemma log_attempts (hruns : RunLog env t.body.runs 1 (workloads smokeOnly)) (candidate : String) :
    (t.log candidate smokeOnly).filterMap Event.attempt? =
      ((t.log candidate smokeOnly).filterMap Event.result?).map (·.1) := by
  rw [log_results hruns]
  cases hloaded : t.restoration.first.moduleLoaded <;>
    simp [Trace.log, BodyTrace.log, RestoreTrace.log, transitionLog, List.filterMap_cons, Event.attempt?,
      hruns.attempts, hloaded]

/-- The samples of a run that completes. -/
lemma log_samples (candidate : String) :
    (t.log candidate smokeOnly).filterMap Event.sample? =
      [t.start, t.body.removed, t.body.inserted] ++ t.body.runs.filterMap Event.sample? ++
        [t.restoration.first, t.restoration.cleared, t.restoration.restored] := by
  cases hloaded : t.restoration.first.moduleLoaded <;>
    simp [Trace.log, BodyTrace.log, RestoreTrace.log, transitionLog, List.filterMap_cons,
      Event.sample?, hloaded]

/-- The other events of a run that completes, but for its runs. -/
lemma log_filterMap {α : Type} {f : Event → Option α} {r : List α}
    (hruns : t.body.runs.filterMap f = r) (hstate : ∀ s, f (.state s) = none)
    (hattempt : ∀ argv, f (.transitionAttempt argv) = none)
    (hresult : ∀ argv r, f (.transitionResult argv r) = none) (candidate : String)
    (smokeOnly : Bool) :
    (t.log candidate smokeOnly).filterMap f =
      [Event.recorderPreflight "reference" t.body.reference,
        .recorderPreflight "command" t.body.command].filterMap f ++ r ++
      [Event.originalRestored t.restoration.sha].filterMap f ++
      [Event.terminalState t.terminal t.initstate true,
        .complete (workloads smokeOnly).length true smokeOnly].filterMap f := by
  cases hloaded : t.restoration.first.moduleLoaded <;>
    simp only [Trace.log, BodyTrace.log, RestoreTrace.log, transitionLog, hloaded, if_true, if_false,
      Bool.false_eq_true, List.filterMap_append, List.filterMap_cons_none (hstate _),
      List.filterMap_cons_none (hattempt _), List.filterMap_cons_none (hresult _ _),
      List.filterMap_nil, List.nil_append, List.append_nil, List.append_assoc, hruns]

/-- **The log of a run that completes.** -/
theorem accepted_iff (hguard : GuardSound env) (hquiet : Quiet env) (hpass : Passes env smokeOnly t)
    (hruns : RunLog env t.body.runs 1 (workloads smokeOnly)) (candidate : String) :
    Accepted (t.log candidate smokeOnly) (workloads smokeOnly) env.config.originalSha ↔
      t.restoration.first.moduleLoaded = true ∧ t.restoration.sha = env.config.originalSha ∧
        terminalOk (t.terminal, t.initstate, true) = true := by
  have hrestored := log_filterMap hruns.restored (fun _ => rfl) (fun _ => rfl) (fun _ _ => rfl)
    candidate smokeOnly
  have hterminal := log_filterMap hruns.terminal (fun _ => rfl) (fun _ => rfl) (fun _ _ => rfl)
    candidate smokeOnly
  constructor
  · intro h
    refine ⟨?_, ?_, ?_⟩
    · by_contra hgone
      have htools := h.tools
      rw [log_results hruns, if_neg hgone] at htools
      exact absurd htools (by simp)
    · have hsha := h.restored
      rw [hrestored] at hsha
      exact (List.cons.inj hsha).1
    · refine h.healthy _ ?_
      rw [hterminal]
      exact List.mem_singleton_self _
  · rintro ⟨hloaded, hsha, hlast⟩
    have hresults := log_results hruns candidate
    rw [if_pos hloaded] at hresults
    have hpre := log_filterMap hruns.recorders (fun _ => rfl) (fun _ => rfl) (fun _ _ => rfl)
      candidate smokeOnly
    have hstarts : (t.log candidate smokeOnly).filterMap Event.start? =
        (workloads smokeOnly).zipIdx 1 := by
      rw [log_filterMap hruns.starts (fun _ => rfl) (fun _ => rfl) (fun _ _ => rfl)]
      simp [List.filterMap_cons, Event.start?]
    have hends : (t.log candidate smokeOnly).filterMap Event.end? =
        ((workloads smokeOnly).zipIdx 1).map fun p => (p.1, p.2, 0) := by
      rw [log_filterMap hruns.ends (fun _ => rfl) (fun _ => rfl) (fun _ _ => rfl)]
      simp [List.filterMap_cons, Event.end?]
    have hfailures := log_filterMap hruns.failures (fun _ => rfl) (fun _ => rfl) (fun _ _ => rfl)
      candidate smokeOnly
    refine ⟨?_, ?_, log_attempts hruns candidate, ?_, ?_, ?_, ?_, ?_, ?_, ?_, ?_, ?_, ?_, ?_, ?_, ?_⟩
    · rw [hresults]
      rfl
    · rw [hresults]
      simp [hpass.body.remove.2, hpass.body.insert.2, (hpass.restoration.unload hloaded).2.2,
        hpass.restoration.modprobe.2]
    · have hbody := hpass.body
      have hrestoration := hpass.restoration
      rw [log_samples, List.forall_mem_append, List.forall_mem_append]
      simp only [List.forall_mem_cons, List.not_mem_nil, false_implies, implies_true, and_true]
      refine ⟨⟨⟨hpass.prepared.healthy.lists hguard, hbody.removed.lists hguard,
        hbody.inserted.lists hguard⟩, fun s hs => ?_⟩, hrestoration.first.lists hguard,
        hrestoration.cleared.lists hguard, hrestoration.restored.lists hguard⟩
      obtain ⟨site, hhealthy⟩ := hruns.samples s hs
      exact hhealthy.lists hguard
    · rw [hpre]
      rfl
    · rw [hpre]
      change ∀ r ∈ [("reference", t.body.reference), ("command", t.body.command)], _
      rw [List.forall_mem_cons, List.forall_mem_singleton]
      exact ⟨hpass.body.reference.zero hquiet, hpass.body.command.zero hquiet⟩
    · rw [hstarts, List.zipIdx_map_fst]
    · rw [hends, List.map_map]
      exact List.zipIdx_map_fst ..
    · rw [hstarts, hends, List.map_map]
      rfl
    · rw [hends, List.map_map]
      exact List.zipIdx_map_snd ..
    · rw [hends]
      intro r hr
      obtain ⟨p, -, rfl⟩ := List.mem_map.mp hr
      rfl
    · rw [hrestored, ← hsha]
      rfl
    · rw [hterminal]
      rfl
    · rw [hterminal]
      exact List.forall_mem_singleton.mpr hlast
    · rw [Trace.log, List.getLast?_append]
      rfl
    · rw [hfailures]
      rfl

/-- A log without an end is refused. -/
lemma not_accepted {log : List Event} (h : ∀ e ∈ log, e.complete? = none) (expectedRuns : List String)
    (original : String) : ¬Accepted log expectedRuns original := by
  intro hlog
  have hcomplete := hlog.complete
  cases hlast : log.getLast? with
  | none => rw [hlast] at hcomplete; exact absurd hcomplete (by simp)
  | some e =>
      rw [hlast, Option.bind_some, h e (List.mem_of_getLast? hlast)] at hcomplete
      exact absurd hcomplete (by simp)

/-! ### The report of a campaign -/

/-- The log of a run whose checks pass is accepted if and only if it ends as the report needs it. -/
lemma passed_accepted_iff (hguard : GuardSound env) (hquiet : Quiet env)
    (h : ∃ t, Passes env smokeOnly t) :
    verifyTransitions (left env smokeOnly).events env.lease (workloads smokeOnly)
      env.config.originalSha = .ok () ↔ Ending env := by
  obtain ⟨t, hpass, hruns, hevents⟩ := left_recorded env smokeOnly h
  have hlog : (left env smokeOnly).events.map (·.event) = t.log env.config.candidate smokeOnly := by
    rw [hevents, List.map_map]
    exact List.map_id _
  have hlease : ∀ r ∈ (left env smokeOnly).events, r.lease = env.lease := by
    rw [hevents]
    intro r hr
    obtain ⟨e, -, rfl⟩ := List.mem_map.mp hr
    rfl
  rw [verifyTransitions_ok, hlog, and_iff_right hlease, accepted_iff hguard hquiet hpass hruns]
  have hfirst := hpass.restoration.first.sample
  constructor
  · rintro ⟨hloaded, hsha, hterminal⟩
    exact ⟨⟨_, hfirst, hloaded⟩, hsha ▸ hpass.restoration.recorded,
      ⟨_, _, hpass.terminal, hpass.initstate, hterminal⟩⟩
  · rintro ⟨⟨s, hs, hloaded⟩, hdigest, s', i, hs', hi, hterminal⟩
    obtain rfl := Except.ok.inj (hs.symm.trans hfirst)
    obtain rfl := Except.ok.inj (hs'.symm.trans hpass.terminal)
    obtain rfl := Except.ok.inj (hi.symm.trans hpass.initstate)
    exact ⟨hloaded, Except.ok.inj (hpass.restoration.recorded.symm.trans hdigest), hterminal⟩

/-- **The report of a campaign.**  If `campaign-complete` is written, the log is accepted if and only if
the candidate was still loaded when it was to be unloaded, the digest of the original was read again as it
is configured, and the state at the end is healthy; and if a check of the run fails (a transition, an
identity, a sample, a recorder, a workload, or one of the restoration), it is refused for every lease,
expected list and digest. -/
theorem completed_accepted_iff (hguard : GuardSound env) (hquiet : Quiet env) (smokeOnly : Bool) :
    ((left env smokeOnly).complete = true →
      (verifyTransitions (left env smokeOnly).events env.lease (workloads smokeOnly)
        env.config.originalSha = .ok () ↔ Ending env)) ∧
    ((¬∃ t, Passes env smokeOnly t) → ∀ lease expectedRuns original,
      verifyTransitions (left env smokeOnly).events lease expectedRuns original ≠ .ok ()) := by
  constructor
  · intro hcomplete
    have hreturns := (returns_iff env smokeOnly).mp ((left_complete env smokeOnly).mp hcomplete)
    exact passed_accepted_iff hguard hquiet hreturns.1
  · intro hfails lease expectedRuns original haccept
    exact not_accepted (left_open env smokeOnly hfails).trace expectedRuns original
      (verifyTransitions_ok.mp haccept).2

/-- A state of the guard in which nothing is listed. -/
def idleState (faults : List String) (moduleLoaded : Bool) : GuardState :=
  { holders := [], stuckTasks := [], faults, busy := false, wedged := false, moduleLoaded,
    videoNode := true }

/-- An environment in which every command succeeds; its samples differ at the end of the run. -/
def calmEnv (loaded : Bool) (digest : String) (faults : List String) : Env :=
  { config := ⟨"original", "candidate.ko", "candidate", []⟩
    euid := 1000
    lease := some "lease"
    attempted := false
    machine := .ok "aarch64"
    apple := .ok true
    packages := .ok ()
    tool := fun _ => .ok "tool"
    candidate := .ok "candidate"
    state := fun site => .ok <|
      match site with
      | .restore => idleState [] loaded
      | .terminal => idleState faults true
      | _ => idleState [] true
    initstate := fun _ => .ok "live"
    finalInitstate := .ok (some "live")
    digest := fun site => .ok (if site = .recorded then digest else "original")
    note := fun _ => .ok [1]
    saved := fun _ => .ok [1]
    command := fun _ => .ok ⟨0, "", ""⟩
    status := fun _ => .ok ⟨0, 0, 0, 0, [], 0, 0, 0⟩
    workload := fun _ => .ok 0
    completion := .ok () }

lemma calmEnv_sound (loaded : Bool) (digest : String) (faults : List String) :
    GuardSound (calmEnv loaded digest faults) ∧ Quiet (calmEnv loaded digest faults) := by
  refine ⟨fun site s hs => ?_, fun name st hst _ _ => ?_⟩
  · have hidle : ∃ faults loaded, s = idleState faults loaded := by
      cases site <;> exact ⟨_, _, (Except.ok.inj hs).symm⟩
    obtain ⟨faults, loaded, rfl⟩ := hidle
    simp [idleState]
  · obtain rfl := Except.ok.inj hst
    simp

section Calm

variable {digest : String} {site : Site}

lemma calm_healthy (present : Bool)
    (h : (calmEnv true digest []).state site = .ok (idleState [] true)) :
    Healthy (calmEnv true digest []) site present (idleState [] true) :=
  ⟨h, rfl, rfl, rfl, fun _ => rfl, fun _ => ⟨rfl, rfl⟩⟩

lemma calm_identity (which : Which) (h : site ≠ .recorded) :
    Identity (calmEnv true digest []) site which :=
  ⟨congrArg Except.ok (if_neg h), _, rfl, rfl⟩

/-- What a calm run sees. -/
def calmTrace (digest : String) : Trace :=
  let idle := idleState [] true
  let done : Completed := ⟨0, "", ""⟩
  let off : Status := ⟨0, 0, 0, 0, [], 0, 0, 0⟩
  { start := idle
    body := ⟨done, idle, done, idle, off, off, []⟩
    restoration := ⟨idle, done, idle, done, idle, digest⟩
    terminal := idle
    initstate := some "live" }

lemma calm_passes (digest : String) (smokeOnly : Bool) :
    Passes (calmEnv true digest []) smokeOnly (calmTrace digest) where
  prepared := ⟨by simp [calmEnv], by simp [calmEnv], rfl, rfl, rfl, rfl, by simp [calmEnv], rfl,
    calm_identity _ (by decide), calm_healthy _ rfl⟩
  body := ⟨⟨rfl, rfl⟩, calm_healthy _ rfl, ⟨rfl, rfl⟩, calm_identity _ (by decide),
    calm_healthy _ rfl, ⟨rfl, rfl, rfl⟩, ⟨rfl, rfl, rfl⟩, fun n _ => ⟨idleState [] true,
      idleState [] true, calm_identity _ (by simp), calm_healthy _ rfl, rfl, calm_healthy _ rfl⟩⟩
  restoration := ⟨calm_healthy _ rfl, fun _ => ⟨calm_identity _ (by decide), rfl, rfl⟩,
    calm_healthy _ rfl, ⟨rfl, rfl⟩, calm_identity _ (by decide), calm_healthy _ rfl, by
      simp [calmEnv, calmTrace]⟩
  terminal := rfl
  initstate := rfl

end Calm

/-- The environment of a calm run, but for its third workload. -/
def failingEnv : Env :=
  { calmEnv true "original" [] with workload := fun number => .ok (if number = 3 then 1 else 0) }

/-- A calm run of all the workloads is accepted; if the third of them fails, no report is. -/
theorem calm_accepted :
    ((left (calmEnv true "original" []) false).complete = true ∧
      verifyTransitions (left (calmEnv true "original" []) false).events (some "lease") names
        "original" = .ok ()) ∧
    ∀ lease expectedRuns original,
      verifyTransitions (left failingEnv false).events lease expectedRuns original ≠ .ok () := by
  obtain ⟨hguard, hquiet⟩ := calmEnv_sound true "original" []
  have hending : Ending (calmEnv true "original" []) :=
    ⟨⟨_, rfl, rfl⟩, rfl, ⟨_, _, rfl, rfl, rfl⟩⟩
  have hcomplete : (left (calmEnv true "original" []) false).complete = true := by
    rw [left_complete, returns_iff]
    exact ⟨⟨_, calm_passes "original" false⟩, rfl⟩
  refine ⟨⟨hcomplete, ?_⟩, ?_⟩
  · exact ((completed_accepted_iff hguard hquiet false).1 hcomplete).mpr hending
  · have hsound : GuardSound failingEnv ∧ Quiet failingEnv := ⟨hguard, hquiet⟩
    refine (completed_accepted_iff hsound.1 hsound.2 false).2 ?_
    rintro ⟨t, ht⟩
    obtain ⟨_, _, hpass⟩ := ht.body.runs 3 (by decide)
    exact absurd hpass.exit (by simp [failingEnv])

/-- Three probes that complete are refused: the candidate is gone when it is to be unloaded, the original
is another one when it is read once more, and there is a fault at the end. -/
theorem completed_refused :
    (GuardSound (calmEnv false "original" []) ∧ Quiet (calmEnv false "original" []) ∧
      (left (calmEnv false "original" []) true).complete = true ∧
        verifyTransitions (left (calmEnv false "original" []) true).events (some "lease") []
          "original" = .error "module transition failure") ∧
    (GuardSound (calmEnv true "other" []) ∧ Quiet (calmEnv true "other" []) ∧
      (left (calmEnv true "other" []) true).complete = true ∧
        verifyTransitions (left (calmEnv true "other" []) true).events (some "lease") [] "original" =
          .error "missing original restoration") ∧
    (GuardSound (calmEnv true "original" ["fault"]) ∧ Quiet (calmEnv true "original" ["fault"]) ∧
      (left (calmEnv true "original" ["fault"]) true).complete = true ∧
        verifyTransitions (left (calmEnv true "original" ["fault"]) true).events (some "lease") []
          "original" = .error "unhealthy terminal state") :=
  ⟨⟨(calmEnv_sound ..).1, (calmEnv_sound ..).2, rfl, rfl⟩,
    ⟨(calmEnv_sound ..).1, (calmEnv_sound ..).2, rfl, rfl⟩,
    ⟨(calmEnv_sound ..).1, (calmEnv_sound ..).2, rfl, rfl⟩⟩

end OmarchyM1Video.CommandCapture
