import OmarchyM1Video.CommandCapture.Campaign

/-!
The report of a campaign of command captures: `verify_transitions` of
`experiments/hevc-avd-command-capture/campaign-report.py`.

* `results`, `attempts`, `samples`, …: the events of a kind;
* `verifyTransitions`: the checks of the report;
* `Accepted`, `verifyTransitions_ok`: what an accepted log is.
-/

namespace OmarchyM1Video.CommandCapture

open OmarchyM1Video.Py

/-! ### The events of a kind -/

/-- A transition that ended: its command and its exit status. -/
def Event.result? : Event → Option (List String × ℤ)
  | transitionResult argv r => some (argv, r.returncode)
  | _ => none

/-- A transition that was attempted. -/
def Event.attempt? : Event → Option (List String)
  | transitionAttempt argv => some argv
  | _ => none

/-- A sample of the guard. -/
def Event.sample? : Event → Option GuardState
  | state s => some s
  | _ => none

/-- A recorder and its status before the runs. -/
def Event.preflight? : Event → Option (String × Status)
  | recorderPreflight recorder status => some (recorder, status)
  | _ => none

/-- The start of a run. -/
def Event.start? : Event → Option (String × ℕ)
  | runStart name runId => some (name, runId)
  | _ => none

/-- The end of a run. -/
def Event.end? : Event → Option (String × ℕ × ℤ)
  | runResult name runId returncode => some (name, runId, returncode)
  | _ => none

/-- The digest of the original that is back. -/
def Event.restored? : Event → Option String
  | originalRestored sha => some sha
  | _ => none

/-- The state at the end. -/
def Event.terminal? : Event → Option (GuardState × Option String × Bool)
  | terminalState s initstate restored => some (s, initstate, restored)
  | _ => none

/-- The end of a campaign. -/
def Event.complete? : Event → Option (ℕ × Bool)
  | complete runs restored _ => some (runs, restored)
  | _ => none

/-- A failure. -/
def Event.failure? : Event → Option String
  | campaignFailed e => some e
  | restorationNotCompleted e => some e
  | _ => none

/-! ### The checks -/

/-- The state at the end, as it has to be. -/
def terminalOk (t : GuardState × Option String × Bool) : Bool :=
  t.2.2 && t.2.1 = some "live" && t.1.moduleLoaded && t.1.videoNode && t.1.holders.isEmpty &&
    t.1.stuckTasks.isEmpty && t.1.faults.isEmpty

/-- `verify_transitions(events, lease, expected_runs, original)`. -/
def verifyTransitions (events : List Entry) (lease : Option String) (expectedRuns : List String)
    (original : String) : Except String Unit := do
  need (∀ r ∈ events, r.lease = lease) "transition lease mismatch"
  let log := events.map (·.event)
  let pairs := log.filterMap Event.result?
  need (pairs.map (·.1.head?) = ["rmmod", "insmod", "rmmod", "modprobe"].map some ∧
      ∀ r ∈ pairs, r.2 = 0) "module transition failure"
  need (log.filterMap Event.attempt? = pairs.map (·.1)) "unpaired module transition"
  need (∀ s ∈ log.filterMap Event.sample?, s.faults = [] ∧ s.stuckTasks = [] ∧ s.holders = [])
    "unhealthy intermediate state"
  let pre := log.filterMap Event.preflight?
  need (pre.map (·.1) = ["reference", "command"]) "missing paired endpoints"
  need (∀ r ∈ pre, ∀ n ∈ r.2.values, n = 0) "recorders not initially off/idle"
  let starts := log.filterMap Event.start?
  let ends := log.filterMap Event.end?
  need (starts.map (·.1) = expectedRuns ∧ ends.map (·.1) = expectedRuns) "missing run transition"
  need (starts.map (·.2) = ends.map (·.2.1) ∧
      ends.map (·.2.1) = List.range' 1 expectedRuns.length ∧ ∀ r ∈ ends, r.2.2 = 0)
    "failed/mixed run result"
  need (log.filterMap Event.restored? = [original]) "missing original restoration"
  let terminal := log.filterMap Event.terminal?
  need (terminal.length = 1) "missing terminal state"
  need (∀ t ∈ terminal, terminalOk t = true) "unhealthy terminal state"
  need ((log.getLast?.bind Event.complete?) = some (expectedRuns.length, true)) "incomplete campaign"
  need (log.filterMap Event.failure? = []) "hidden failure"

/-- A log that is accepted, by its events. -/
structure Accepted (log : List Event) (expectedRuns : List String) (original : String) : Prop where
  tools : (log.filterMap Event.result?).map (·.1.head?) =
    ["rmmod", "insmod", "rmmod", "modprobe"].map some
  results : ∀ r ∈ log.filterMap Event.result?, r.2 = 0
  attempts : log.filterMap Event.attempt? = (log.filterMap Event.result?).map (·.1)
  samples : ∀ s ∈ log.filterMap Event.sample?, s.faults = [] ∧ s.stuckTasks = [] ∧ s.holders = []
  recorders : (log.filterMap Event.preflight?).map (·.1) = ["reference", "command"]
  off : ∀ r ∈ log.filterMap Event.preflight?, ∀ n ∈ r.2.values, n = 0
  starts : (log.filterMap Event.start?).map (·.1) = expectedRuns
  ends : (log.filterMap Event.end?).map (·.1) = expectedRuns
  paired : (log.filterMap Event.start?).map (·.2) = (log.filterMap Event.end?).map (·.2.1)
  numbers : (log.filterMap Event.end?).map (·.2.1) = List.range' 1 expectedRuns.length
  exits : ∀ r ∈ log.filterMap Event.end?, r.2.2 = 0
  restored : log.filterMap Event.restored? = [original]
  terminal : (log.filterMap Event.terminal?).length = 1
  healthy : ∀ t ∈ log.filterMap Event.terminal?, terminalOk t = true
  complete : (log.getLast?.bind Event.complete?) = some (expectedRuns.length, true)
  failures : log.filterMap Event.failure? = []

theorem verifyTransitions_ok {events : List Entry} {lease : Option String}
    {expectedRuns : List String} {original : String} :
    verifyTransitions events lease expectedRuns original = .ok () ↔
      (∀ r ∈ events, r.lease = lease) ∧
        Accepted (events.map (·.event)) expectedRuns original := by
  simp only [verifyTransitions, Except.bind_ok, need_ok]
  constructor
  · rintro ⟨_, hlease, _, ⟨htools, hresults⟩, _, hattempts, _, hsamples, _, hrecorders, _, hoff, _,
      ⟨hstarts, hends⟩, _, ⟨hpaired, hnumbers, hexits⟩, _, hrestored, _, hterminal, _, hhealthy, _,
      hcomplete, hfailures⟩
    exact ⟨hlease, ⟨htools, hresults, hattempts, hsamples, hrecorders, hoff, hstarts, hends, hpaired,
      hnumbers, hexits, hrestored, hterminal, hhealthy, hcomplete, hfailures⟩⟩
  · rintro ⟨hlease, h⟩
    exact ⟨(), hlease, (), ⟨h.tools, h.results⟩, (), h.attempts, (), h.samples, (), h.recorders, (),
      h.off, (), ⟨h.starts, h.ends⟩, (), ⟨h.paired, h.numbers, h.exits⟩, (), h.restored, (),
      h.terminal, (), h.healthy, (), h.complete, h.failures⟩

end OmarchyM1Video.CommandCapture
