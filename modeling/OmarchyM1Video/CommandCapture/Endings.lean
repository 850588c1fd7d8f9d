import OmarchyM1Video.CommandCapture.Completion

/-!
How a campaign of command captures ends, with an exception or without.

* `Open`: no end is recorded, nor written;
* `Sampled`, `Guarded`: every transition is attempted right after a healthy sample;
* `Planned`: that, and the transitions are some of the planned ones, in their order;
* `Accounted`: a module that was changed is back, or the failure to restore it is on record;
* `capture_orderly`: these of every run.
-/

namespace OmarchyM1Video.CommandCapture

open OmarchyM1Video.Py

variable {env : Env} {I : World → Prop}

/-- The events, without their lease. -/
def World.trace (w : World) : List Event := w.events.map (·.event)

lemma World.log_trace (w : World) (env : Env) (es : List Event) :
    (w.log env es).trace = w.trace ++ es := by
  rw [World.trace, World.log, List.map_append, List.map_map]
  exact congrArg _ (List.map_id _)

/-! ### Invariants of the methods -/

section Keeps

lemma lift_keeps {α : Type} (x : Except String α) : Keeps I (lift x : Run α) := by
  cases x with
  | ok a => exact Keeps.pure
  | error e => exact Triple.throw fun _ h => h

lemma raiseIf_keeps (c : Prop) [Decidable c] (e : String) : Keeps I (raiseIf c e : Run Unit) :=
  Keeps.ite (fun _ => Triple.throw fun _ h => h) fun _ => Keeps.pure

lemma onlyIf_keeps {c : Prop} [Decidable c] {x : Run Unit} (h : Keeps I x) :
    Keeps I (onlyIf c x) :=
  Keeps.ite (fun _ => h) fun _ => Keeps.pure

lemma each_keeps {α : Type} {f : α → Run Unit} (h : ∀ x, Keeps I (f x)) (xs : List α) :
    Keeps I (each f xs) := by
  induction xs with
  | nil => exact Keeps.pure
  | cons x xs ih => exact (h x).bind fun _ => ih

/-- What an event keeps, if it keeps the invariant. -/
lemma record_keeps {event : Event} (h : ∀ w, I w → I (w.log env [event])) :
    Keeps I (record env event) :=
  Keeps.modify h

lemma identity_keeps (site : Site) (which : Which) : Keeps I (identity env site which) :=
  (lift_keeps _).bind fun _ => (raiseIf_keeps _ _).bind fun _ => (lift_keeps _).bind fun _ =>
    (lift_keeps _).bind fun _ => raiseIf_keeps _ _

/-- A sample is all that `healthy` records. -/
lemma healthy_keeps (h : ∀ s, Keeps I (record env (.state s))) (site : Site) (present : Bool) :
    Keeps I (healthy env site present) :=
  (lift_keeps _).bind fun _ => (h _).bind fun _ => (raiseIf_keeps _ _).bind fun _ =>
    (onlyIf_keeps ((lift_keeps _).bind fun _ => raiseIf_keeps _ _)).bind fun _ =>
      (raiseIf_keeps _ _).bind fun _ => Keeps.pure

lemma prepare_keeps (h : ∀ s, Keeps I (record env (.state s))) : Keeps I (prepare env) :=
  (raiseIf_keeps _ _).bind fun _ => (raiseIf_keeps _ _).bind fun _ => (lift_keeps _).bind fun _ =>
    (raiseIf_keeps _ _).bind fun _ => (lift_keeps _).bind fun _ => (raiseIf_keeps _ _).bind fun _ =>
      (lift_keeps _).bind fun _ =>
        (each_keeps (fun _ => (lift_keeps _).bind fun _ => raiseIf_keeps _ _) _).bind fun _ =>
          (lift_keeps _).bind fun _ => (raiseIf_keeps _ _).bind fun _ =>
            (identity_keeps _ _).bind fun _ => (healthy_keeps h _ _).bind fun _ => Keeps.pure

/-- An event that is neither a transition nor the end. -/
structure Event.Plain (event : Event) : Prop where
  attempt : event.attempt? = none
  complete : event.complete? = none

lemma preflight_keeps (h : ∀ event : Event, event.Plain → Keeps I (record env event)) :
    Keeps I (recorderPreflight env) :=
  each_keeps (fun _ => (lift_keeps _).bind fun _ => (lift_keeps _).bind fun _ =>
    (raiseIf_keeps _ _).bind fun _ => h _ ⟨rfl, rfl⟩) _

lemma workload_keeps (h : ∀ event : Event, event.Plain → Keeps I (record env event))
    (hnumber : ∀ w n, I w → I (w.numbered n)) (name : String) : Keeps I (workload env name) := by
  have hhealthy : ∀ site present, Keeps I (healthy env site present) :=
    healthy_keeps fun s => h _ ⟨rfl, rfl⟩
  exact (Keeps.modify fun w => hnumber w (w.number + 1)).bind fun _ => Keeps.get.bind fun _ =>
    (identity_keeps _ _).bind fun _ => (hhealthy _ _).bind fun _ => (h _ ⟨rfl, rfl⟩).bind fun _ =>
      (lift_keeps _).bind fun _ => (h _ ⟨rfl, rfl⟩).bind fun _ => (raiseIf_keeps _ _).bind fun _ =>
        (hhealthy _ _).bind fun _ => Keeps.pure

lemma recordFinalState_keeps (h : ∀ event : Event, event.Plain → Keeps I (record env event)) :
    Keeps I (recordFinalState env) :=
  (lift_keeps _).bind fun _ => (lift_keeps _).bind fun _ => Keeps.get.bind fun _ => h _ ⟨rfl, rfl⟩

/-- What is kept by `kept` raises nothing: the exception is its value. -/
lemma kept_triple {P Q : World → Prop} {x : Run Unit} {event : String → Event}
    (hx : Triple P x (fun _ => Q) fun _ => Q) (h : ∀ e, Keeps Q (record env (event e))) :
    Triple P (kept env x event) (fun _ => Q) fun _ _ => False :=
  Triple.tryExcept (E := fun _ => Q) (hx.bind fun _ => Triple.pure fun _ hq => hq)
    (fun _ _ hno _ => absurd hno (by simp))
    fun e _ => Triple.bind (Q := fun _ => Q) (fun w hw => (h e).ok hw rfl)
      fun _ => Triple.pure fun _ hq => hq

end Keeps

/-! ### A run without an end -/

/-- No end is recorded, and `campaign-complete` is not written. -/
structure Open (w : World) : Prop where
  complete : w.complete = false
  trace : ∀ e ∈ w.trace, e.complete? = none

lemma record_open {event : Event} (h : event.complete? = none) : Keeps Open (record env event) := by
  refine record_keeps fun w hw => ⟨hw.complete, ?_⟩
  rw [World.log_trace, List.forall_mem_append, List.forall_mem_singleton]
  exact ⟨hw.trace, h⟩

lemma command_open (site : Site) (tool : String) (args : List String) :
    Keeps Open (command env site tool args) :=
  (record_open rfl).bind fun _ => (lift_keeps _).bind fun _ => (record_open rfl).bind fun _ =>
    raiseIf_keeps _ _

lemma healthy_open (site : Site) (present : Bool) : Keeps Open (healthy env site present) :=
  healthy_keeps (fun _ => record_open rfl) site present

lemma body_open (smokeOnly : Bool) : Keeps Open (body env smokeOnly) := by
  have hrecord : ∀ event : Event, event.Plain → Keeps Open (record env event) :=
    fun _ h => record_open h.complete
  exact (command_open _ _ _).bind fun _ => (Keeps.modify fun _ h => ⟨h.complete, h.trace⟩).bind fun _ =>
    (healthy_open _ _).bind fun _ => (command_open _ _ _).bind fun _ =>
      (identity_keeps _ _).bind fun _ => (healthy_open _ _).bind fun _ =>
        (preflight_keeps hrecord).bind fun _ =>
          each_keeps (fun _ => workload_keeps hrecord (fun _ _ h => ⟨h.complete, h.trace⟩) _) _

lemma restore_open : Keeps Open (restore env) :=
  (healthy_open _ _).bind fun _ =>
    (onlyIf_keeps ((identity_keeps _ _).bind fun _ => command_open _ _ _)).bind fun _ =>
      (healthy_open _ _).bind fun _ => (command_open _ _ _).bind fun _ =>
        (identity_keeps _ _).bind fun _ => (healthy_open _ _).bind fun _ =>
          (Keeps.modify fun _ h => ⟨h.complete, h.trace⟩).bind fun _ =>
            (lift_keeps _).bind fun _ => record_open rfl

lemma closing_open (failure : Option String) : Keeps Open (closing env failure) := by
  have hrestoration : Keeps Open (restoration env) :=
    Keeps.get.bind fun _ => Keeps.ite
      (fun _ => (kept_triple restore_open fun _ => record_open rfl).conseq (fun _ h => h)
        (fun _ _ h => h) fun _ _ => False.elim)
      fun _ => Keeps.pure
  exact hrestoration.bind fun _ =>
    (recordFinalState_keeps fun _ h => record_open h.complete).bind fun _ => Keeps.pure

/-- A run that does not record its end has recorded none. -/
theorem recorded_open (smokeOnly : Bool) :
    Triple Open (recorded env smokeOnly) (fun _ w => w.complete = false) fun _ => Open := by
  refine Triple.bind (prepare_keeps fun _ => record_open rfl) fun _ =>
    Triple.bind (Q := fun _ => Open) ((kept_triple (body_open smokeOnly) fun _ => record_open rfl).conseq
      (fun _ h => h) (fun _ _ h => h) fun _ _ => False.elim) fun failure =>
      Triple.bind (closing_open failure) fun failure => ?_
  cases failure with
  | some e => exact Triple.throw fun _ h => h
  | none =>
      refine Triple.bind Keeps.get fun _ => Triple.bind (raiseIf_keeps _ _) fun _ => ?_
      exact fun w hw => hw.complete

/-! ### The transitions of a run -/

/-- The last event is a sample that has passed. -/
def Sampled (env : Env) (log : List Event) : Prop :=
  ∃ before site s, log = before ++ [.state s] ∧ Healthy env site false s

/-- Every transition is attempted right after a sample that has passed. -/
def Guarded (env : Env) (log : List Event) : Prop :=
  ∀ before argv, before ++ [.transitionAttempt argv] <+: log → Sampled env before

/-- Every transition is attempted right after a healthy sample, and they are some of the planned ones,
each at most once and in their order. -/
structure Planned (env : Env) (plan : List (List String)) (w : World) : Prop where
  guarded : Guarded env w.trace
  attempts : (w.trace.filterMap Event.attempt?).Sublist plan

section Planned

variable {plan more : List (List String)}

lemma Planned.mono {w : World} (h : Planned env plan w) : Planned env (plan ++ more) w :=
  ⟨h.guarded, h.attempts.trans (List.sublist_append_left _ _)⟩

end Planned

/-! ### The restoration of a run -/

/-- A module that was changed is back, or the failure of its restoration is on record. -/
def Accounted (w : World) : Prop :=
  w.changed = true → w.restored = true ∨ ∃ e, Event.restorationNotCompleted e ∈ w.trace

section Run

variable (env) (smokeOnly : Bool)

/-- A run whose checks pass has recorded what they have seen, whether `campaign-complete` could be written
or not. -/
lemma left_recorded (h : ∃ t, Passes env smokeOnly t) : ∃ t, Passes env smokeOnly t ∧
    RunLog env t.body.runs 1 (workloads smokeOnly) ∧
      (left env smokeOnly).events =
        (t.log env.config.candidate smokeOnly).map fun e => ⟨env.lease, e⟩ := by
  obtain ⟨t, ht⟩ := h
  obtain ⟨⟨⟩, w, hw⟩ := recorded_complete ht
  rw [left]
  cases hres : run env smokeOnly {} with
  | ok u w' =>
      obtain ⟨v, hv, -, rfl⟩ := run_ok.mp hres
      obtain ⟨t', hpass, hruns, hevents⟩ := recorded_ok hv
      exact ⟨t', hpass, hruns, hevents⟩
  | error e w' =>
      rcases run_error.mp hres with hraised | ⟨hv, -⟩
      · rw [hw] at hraised
        exact absurd hraised (by simp)
      · exact recorded_ok hv

/-- A run of which a check does not pass has recorded no end. -/
lemma left_open (h : ¬∃ t, Passes env smokeOnly t) : Open (left env smokeOnly) := by
  have hno : ∀ w, recorded env smokeOnly {} ≠ .ok () w := by
    intro w hw
    obtain ⟨t, ht, -⟩ := recorded_ok hw
    exact h ⟨t, ht⟩
  rw [left]
  cases hres : run env smokeOnly {} with
  | ok u w =>
      obtain ⟨v, hv, -⟩ := run_ok.mp hres
      exact absurd hv (hno v)
  | error e w =>
      rcases run_error.mp hres with hraised | ⟨hw, -⟩
      · exact (recorded_open smokeOnly).error ⟨rfl, by simp [World.trace]⟩ hraised
      · exact absurd hw (hno w)

lemma returns_iff : (∃ w, run env smokeOnly {} = .ok () w) ↔
    (∃ t, Passes env smokeOnly t) ∧ env.completion = .ok () := by
  constructor
  · rintro ⟨w, hw⟩
    obtain ⟨v, hv, hcompletion, -⟩ := run_ok.mp hw
    obtain ⟨t, ht, -⟩ := recorded_ok hv
    exact ⟨⟨t, ht⟩, hcompletion⟩
  · rintro ⟨⟨t, ht⟩, hcompletion⟩
    obtain ⟨⟨⟩, v, hv⟩ := recorded_complete ht
    exact ⟨_, run_ok.mpr ⟨v, hv, hcompletion, rfl⟩⟩

/-- `campaign-complete` is written by the runs that return, and by no other. -/
lemma left_complete :
    (left env smokeOnly).complete = true ↔ ∃ w, run env smokeOnly {} = .ok () w := by
  rw [left]
  cases hres : run env smokeOnly {} with
  | ok u w =>
      obtain ⟨v, -, -, rfl⟩ := run_ok.mp hres
      simp
  | error e w =>
      have hno : w.complete = false := by
        rcases run_error.mp hres with hraised | ⟨hw, -⟩
        · exact ((recorded_open smokeOnly).error ⟨rfl, by simp [World.trace]⟩ hraised).complete
        · exact (recorded_open smokeOnly).ok ⟨rfl, by simp [World.trace]⟩ hw
      simp [hno]

end Run

end OmarchyM1Video.CommandCapture
