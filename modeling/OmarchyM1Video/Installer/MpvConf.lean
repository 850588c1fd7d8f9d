import Mathlib.Data.List.TakeDrop
import Mathlib.Data.Nat.Notation
import Mathlib.Tactic.SplitIfs

/-!
The mpv configuration step of `install.sh`, over runs of the installer that may be stopped anywhere.

* `setsOutput`: what `grep` looks for in `mpv.conf`;
* `State`, `Event`, `step`: the two files, how far the run is, and what it does next; a stopped
  write leaves the beginning of what it writes;
* `Recoverable`: the ways in which the original is still there;
* `Meets`: no run copies over the backup what a stopped run has left of `mpv.conf`;
* `recoverable_of_meets`: **under this condition the original is there in every state of every
  run**, and a completed step is not repeated. `original_lost` is a run without it.
-/

namespace OmarchyM1Video.Installer

/-- The bytes of an ASCII text. -/
def ascii (text : String) : List UInt8 := text.toList.map fun c => UInt8.ofNat c.toNat

/-- The first line that is added. -/
def comment : List UInt8 :=
  ascii "# omarchy-m1-video: hardware decoding; OpenGL output (Vulkan shows a green/pink ghost)"

/-- The lines behind it, after their first three bytes `vo=`. -/
def settings : List UInt8 := ascii "gpu-next\ngpu-api=opengl\nhwdec=vaapi\n\n"

/-- What the two `printf` write. -/
def added : List UInt8 := comment ++ ([10, 118, 111, 61] ++ settings)

/-- `[[:space:]]`, within a line. -/
def isSpace (b : UInt8) : Bool := b == 32 || (9 ≤ b && b ≤ 13 && b != 10)

/-- `hwdec|vo|gpu-api`. -/
def names : List (List UInt8) := [ascii "hwdec", ascii "vo", ascii "gpu-api"]

/-- `^[[:space:]]*(hwdec|vo|gpu-api)[[:space:]]*=`, at the beginning of a line. -/
def setsLine (line : List UInt8) : Bool :=
  let rest := line.dropWhile isSpace
  names.any fun name =>
    name.isPrefixOf rest && ((rest.drop name.length).dropWhile isSpace).head? == some 61

/-- Whether a line matches, of what is at the beginning of a line or not. -/
def setsFrom : Bool → List UInt8 → Bool
  | _, [] => false
  | atStart, b :: rest => (atStart && setsLine (b :: rest)) || setsFrom (b == 10) rest

/-- `grep -qE` finds a line of the file. -/
def setsOutput (content : List UInt8) : Bool := setsFrom true content

/-- How far a run is: before the test of `mpv.conf`, behind it, in the copy, behind the copy, in the
writing of `mpv.conf`, or behind the step. -/
inductive Progress where
  | start | tested | copying | copied | writing | finished
  deriving DecidableEq, Repr

/-- `mpv.conf` and its backup, how far the run is, and whether a run has completed the step. -/
structure State where
  conf : List UInt8
  backup : Option (List UInt8)
  progress : Progress
  completed : Bool
  deriving DecidableEq, Repr

/-- The file as the user wrote it, and no backup. -/
def fresh (original : List UInt8) : State := ⟨original, none, .start, false⟩

/-- What can happen next. A run that is stopped, that fails or that is at its end is followed by
another one. -/
inductive Event where
  | stop
  | test (fails : Bool)
  | openCopy
  | copy (n : ℕ)
  | copied
  | openConf
  | write (n : ℕ)
  | written
  deriving DecidableEq, Repr

/-- The next state, if the event can happen. -/
def step (s : State) : Event → Option State
  | .stop => some { s with progress := .start }
  | .test fails =>
      if s.progress ≠ .start then none
      -- `if` takes a `grep` that fails for one that finds nothing
      else if setsOutput s.conf = true ∧ fails = false then
        some { s with progress := .finished, completed := true }
      else some { s with progress := .tested }
  | .openCopy =>
      if s.progress ≠ .tested then none
      else some { s with backup := some [], progress := .copying }
  | .copy n =>
      if s.progress ≠ .copying then none
      else some { s with backup := s.backup.map fun b => s.conf.take (b.length + n) }
  | .copied =>
      if s.progress ≠ .copying ∨ s.backup ≠ some s.conf then none
      else some { s with progress := .copied }
  | .openConf =>
      if s.progress ≠ .copied then none
      else some { s with conf := [], progress := .writing }
  | .write n =>
      if s.progress ≠ .writing then none
      else some { s with conf := (added ++ s.backup.getD []).take (s.conf.length + n) }
  | .written =>
      if s.progress ≠ .writing ∨ s.conf ≠ added ++ s.backup.getD [] then none
      else some { s with progress := .finished, completed := true }

/-- The state after some events. -/
def run : State → List Event → Option State
  | s, [] => some s
  | s, e :: events => (step s e).bind fun s' => run s' events

/-- The original is the whole of `mpv.conf`, or the backup, or what is behind the added lines. -/
def Recoverable (original : List UInt8) (s : State) : Prop :=
  s.conf = original ∨ s.backup = some original ∨ s.conf = added ++ original

/-- The condition on an event. `grep` does not fail where there is a setting to be found, but on the
original before any run has completed the step; and no run copies a file that a stopped run has left
without any setting in it. -/
def Meets (original : List UInt8) (s : State) : Event → Prop
  | .test fails => fails = true → setsOutput s.conf = true →
      s.conf = original ∧ s.completed = false
  | .openCopy => s.conf = original ∨ setsOutput s.conf = true
  | _ => True

/-- The condition on each of some events. -/
def MeetsAll (original : List UInt8) : State → List Event → Prop
  | _, [] => True
  | s, e :: events => Meets original s e ∧
      match step s e with
      | some s' => MeetsAll original s' events
      | none => True

instance (original : List UInt8) (s : State) : DecidablePred (Meets original s)
  | .test fails => inferInstanceAs (Decidable (fails = true → setsOutput s.conf = true →
      s.conf = original ∧ s.completed = false))
  | .openCopy => inferInstanceAs (Decidable (s.conf = original ∨ setsOutput s.conf = true))
  | .stop | .copy _ | .copied | .openConf | .write _ | .written => isTrue trivial

instance decidableMeetsAll (original : List UInt8) :
    ∀ (s : State) (events : List Event), Decidable (MeetsAll original s events)
  | _, [] => isTrue trivial
  | s, e :: events =>
      match h : step s e with
      | some s' =>
          have := decidableMeetsAll original s' events
          decidable_of_iff (Meets original s e ∧ MeetsAll original s' events) (by rw [MeetsAll, h])
      | none => decidable_of_iff (Meets original s e ∧ True) (by rw [MeetsAll, h])

instance (original : List UInt8) (s : State) : Decidable (Recoverable original s) :=
  inferInstanceAs (Decidable (_ ∨ _))

/-! ### What `grep` finds -/

lemma setsFrom_line (atStart : Bool) (before : List UInt8) {line : List UInt8}
    (hline : setsLine line = true) (hne : line ≠ []) :
    setsFrom atStart (before ++ 10 :: line) = true := by
  induction before generalizing atStart with
  | nil =>
      cases line with
      | nil => exact absurd rfl hne
      | cons b rest =>
          rw [List.nil_append, setsFrom, setsFrom, hline]
          exact Bool.or_true _
  | cons b before ih =>
      rw [List.cons_append, setsFrom, ih]
      exact Bool.or_true _

lemma setsLine_vo (rest : List UInt8) : setsLine (118 :: 111 :: 61 :: rest) = true := rfl

/-- The new content has a setting, whatever the original is. -/
lemma setsOutput_added (original : List UInt8) : setsOutput (added ++ original) = true := by
  rw [added, List.append_assoc, setsOutput]
  exact setsFrom_line true comment (setsLine_vo (settings ++ original)) (by rintro ⟨⟩)

/-- So has a beginning of it that goes on to `vo=`. -/
lemma setsOutput_take (original : List UInt8) {n : ℕ} (h : comment.length + 4 ≤ n) :
    setsOutput ((added ++ original).take n) = true := by
  obtain ⟨k, rfl⟩ := Nat.exists_eq_add_of_le h
  have htake : (added ++ original).take (comment.length + 4 + k) =
      comment ++ 10 :: 118 :: 111 :: 61 :: (settings ++ original).take k := by
    rw [added, List.append_assoc, List.append_assoc, Nat.add_assoc, List.take_length_add_append,
      Nat.add_comm 4 k]
    rfl
  rw [htake, setsOutput]
  exact setsFrom_line true comment (setsLine_vo _) (by rintro ⟨⟩)

/-! ### Runs -/

section Runs

variable {original : List UInt8} {s s' : State} {e : Event} {events : List Event}

/-- Between the runs, and before and behind the writing of a run. -/
def Between (original : List UInt8) (s : State) : Prop :=
  (s.conf = original ∨ s.backup = some original ∧ ∃ n, s.conf = (added ++ original).take n) ∧
    (s.completed = true → setsOutput s.conf = true)

/-- What holds at each stage of a run. -/
def Inv (original : List UInt8) (s : State) : Prop :=
  match s.progress with
  | .start | .finished => Between original s
  | .tested => Between original s ∧
      (setsOutput s.conf = true → s.conf = original ∧ s.completed = false)
  | .copying => s.conf = original ∧ s.completed = false ∧ ∃ n, s.backup = some (original.take n)
  | .copied => s.conf = original ∧ s.completed = false ∧ s.backup = some original
  | .writing => s.completed = false ∧ s.backup = some original ∧
      ∃ n, s.conf = (added ++ original).take n

lemma inv_fresh (original : List UInt8) : Inv original (fresh original) :=
  ⟨.inl rfl, fun h => absurd h Bool.false_ne_true⟩

/-- At every stage, a run can be stopped. -/
lemma between_of_inv (h : Inv original s) : Between original s := by
  rw [Inv] at h
  cases hprogress : s.progress <;> rw [hprogress] at h
  case start => exact h
  case finished => exact h
  case tested => exact h.1
  case copying => exact ⟨.inl h.1, fun hc => absurd (h.2.1.symm.trans hc) (by decide)⟩
  case copied => exact ⟨.inl h.1, fun hc => absurd (h.2.1.symm.trans hc) (by decide)⟩
  case writing => exact ⟨.inr h.2, fun hc => absurd (h.1.symm.trans hc) (by decide)⟩

lemma inv_step (h : Inv original s) (hm : Meets original s e) (hstep : step s e = some s') :
    Inv original s' := by
  have hbetween := between_of_inv h
  rw [Inv] at h
  cases e with
  | stop =>
      cases hstep
      exact hbetween
  | test fails =>
      rw [step] at hstep
      split_ifs at hstep with hstart hfound
      · cases hstep
        exact ⟨hbetween.1, fun _ => hfound.1⟩
      · cases hstep
        refine ⟨hbetween, fun hsets => hm ?_ hsets⟩
        cases fails
        · exact absurd ⟨hsets, rfl⟩ hfound
        · rfl
  | openCopy =>
      rw [step] at hstep
      split_ifs at hstep with hprogress
      rw [not_not.mp hprogress] at h
      obtain rfl := Option.some.inj hstep
      have hconf : s.conf = original := hm.elim id fun hsets => (h.2 hsets).1
      have hcompleted : s.completed = false := by
        by_contra hc
        exact hc (h.2 (hbetween.2 (Bool.not_eq_false _ ▸ hc))).2
      exact ⟨hconf, hcompleted, 0, rfl⟩
  | copy n =>
      rw [step] at hstep
      split_ifs at hstep with hprogress
      have hcopying := not_not.mp hprogress
      rw [hcopying] at h
      obtain ⟨hconf, hcompleted, k, hbackup⟩ := h
      obtain rfl := Option.some.inj hstep
      rw [Inv]
      dsimp only
      rw [hcopying, hbackup, hconf]
      exact ⟨rfl, hcompleted, _, rfl⟩
  | copied =>
      rw [step] at hstep
      split_ifs at hstep with hprogress
      rw [not_or, not_not, not_not] at hprogress
      rw [hprogress.1] at h
      obtain rfl := Option.some.inj hstep
      exact ⟨h.1, h.2.1, hprogress.2.trans (congrArg some h.1)⟩
  | openConf =>
      rw [step] at hstep
      split_ifs at hstep with hprogress
      rw [not_not.mp hprogress] at h
      obtain rfl := Option.some.inj hstep
      exact ⟨h.2.1, h.2.2, 0, rfl⟩
  | write n =>
      rw [step] at hstep
      split_ifs at hstep with hprogress
      have hwriting := not_not.mp hprogress
      rw [hwriting] at h
      obtain ⟨hcompleted, hbackup, k, hconf⟩ := h
      obtain rfl := Option.some.inj hstep
      rw [Inv]
      dsimp only
      rw [hwriting, hbackup]
      exact ⟨hcompleted, rfl, _, rfl⟩
  | written =>
      rw [step] at hstep
      split_ifs at hstep with hprogress
      rw [not_or, not_not, not_not] at hprogress
      rw [hprogress.1] at h
      obtain ⟨_, hbackup, _, _⟩ := h
      obtain rfl := Option.some.inj hstep
      have hconf : s.conf = added ++ original := by rw [hprogress.2, hbackup]; rfl
      refine ⟨.inr ⟨hbackup, (added ++ original).length, ?_⟩, fun _ => ?_⟩
      · rw [List.take_length]
        exact hconf
      · exact hconf ▸ setsOutput_added original

lemma inv_run (h : Inv original s) (hm : MeetsAll original s events)
    (hrun : run s events = some s') : Inv original s' := by
  induction events generalizing s with
  | nil => exact Option.some.inj hrun ▸ h
  | cons e events ih =>
      obtain ⟨s₁, hstep, hrest⟩ := Option.bind_eq_some_iff.mp hrun
      rw [MeetsAll, hstep] at hm
      exact ih (inv_step h hm.1 hstep) hm.2 hrest

lemma recoverable_of_inv (h : Inv original s) : Recoverable original s := by
  obtain ⟨hconf | ⟨hbackup, _⟩, _⟩ := between_of_inv h
  · exact .inl hconf
  · exact .inr (.inl hbackup)

/-- When a run has completed the step, no run is past its test. -/
lemma progress_of_completed (h : Inv original s) (hc : s.completed = true) :
    s.progress = .start ∨ s.progress = .finished := by
  have hbetween := between_of_inv h
  have hnot : s.completed ≠ false := by rw [hc]; decide
  rw [Inv] at h
  cases hprogress : s.progress <;> rw [hprogress] at h
  case start => exact .inl rfl
  case finished => exact .inr rfl
  case tested => exact absurd (h.2 (hbetween.2 hc)).2 hnot
  case copying => exact absurd h.2.1 hnot
  case copied => exact absurd h.2.1 hnot
  case writing => exact absurd h.1 hnot

/-- No event changes the files when a run has completed the step. -/
lemma step_completed (h : Inv original s) (hc : s.completed = true)
    (hstep : step s e = some s') :
    s'.completed = true ∧ s'.conf = s.conf ∧ s'.backup = s.backup := by
  have hother : s.progress ≠ .tested ∧ s.progress ≠ .copying ∧ s.progress ≠ .copied ∧
      s.progress ≠ .writing := by
    obtain hprogress | hprogress := progress_of_completed h hc <;> rw [hprogress] <;> decide
  obtain ⟨htested, hcopying, hcopied, hwriting⟩ := hother
  cases e with
  | stop =>
      cases hstep
      exact ⟨hc, rfl, rfl⟩
  | test fails =>
      rw [step] at hstep
      split_ifs at hstep with hstart hfound
      · cases hstep
        exact ⟨rfl, rfl, rfl⟩
      · cases hstep
        exact ⟨hc, rfl, rfl⟩
  | openCopy =>
      rw [step, if_pos htested] at hstep
      cases hstep
  | copy n =>
      rw [step, if_pos hcopying] at hstep
      cases hstep
  | copied =>
      rw [step, if_pos (.inl hcopying)] at hstep
      cases hstep
  | openConf =>
      rw [step, if_pos hcopied] at hstep
      cases hstep
  | write n =>
      rw [step, if_pos hwriting] at hstep
      cases hstep
  | written =>
      rw [step, if_pos (.inl hwriting)] at hstep
      cases hstep

lemma run_completed (h : Inv original s) (hc : s.completed = true)
    (hm : MeetsAll original s events) (hrun : run s events = some s') :
    s'.conf = s.conf ∧ s'.backup = s.backup := by
  induction events generalizing s with
  | nil => exact Option.some.inj hrun ▸ ⟨rfl, rfl⟩
  | cons e events ih =>
      obtain ⟨s₁, hstep, hrest⟩ := Option.bind_eq_some_iff.mp hrun
      obtain ⟨hc₁, hconf, hbackup⟩ := step_completed h hc hstep
      rw [MeetsAll, hstep] at hm
      have hrestFiles := ih (inv_step h hm.1 hstep) hc₁ hm.2 hrest
      exact ⟨hrestFiles.1.trans hconf, hrestFiles.2.trans hbackup⟩

/-- A copy that does not meet the condition is of less than the added lines up to `vo=`. -/
lemma conf_of_not_meets (h : Inv original s) (hm : ¬Meets original s .openCopy) :
    s.backup = some original ∧ ∃ n < comment.length + 4, s.conf = (added ++ original).take n := by
  obtain ⟨hconf | ⟨hbackup, n, hconf⟩, _⟩ := between_of_inv h
  · exact absurd (.inl hconf) hm
  · refine ⟨hbackup, n, Nat.not_le.mp fun hn => hm (.inr ?_), hconf⟩
    rw [hconf]
    exact setsOutput_take original hn

/-- Such a copy loses the original. -/
lemma lost_of_not_meets (htested : s.progress = .tested) (hm : ¬Meets original s .openCopy) :
    ∃ s', run s [.openCopy, .copy s.conf.length] = some s' ∧ ¬Recoverable original s' := by
  obtain ⟨hconf, hsets⟩ := not_or.mp hm
  refine ⟨{ s with backup := some s.conf, progress := .copying }, ?_, ?_⟩
  · rw [run, step, if_neg (not_not.mpr htested), Option.bind_some, run, step,
      if_neg (not_not.mpr rfl), Option.bind_some, run, Option.map_some, List.length_nil,
      Nat.zero_add, List.take_length]
  · rintro (h | h | h)
    · exact hconf h
    · exact hconf (Option.some.inj h)
    · have hadded : s.conf = added ++ original := h
      exact hsets (hadded ▸ setsOutput_added original)

/-- **The original is there in every state of every run**, and once a run has completed the step no
later one changes a file, if no `grep` fails on what an earlier run has written, and no run copies
what a stopped run has left of `mpv.conf` without a setting. A run that goes on to such a copy, of
less than the added lines up to `vo=`, loses the original. -/
theorem recoverable_of_meets (original : List UInt8) (events : List Event) (s : State)
    (hrun : run (fresh original) events = some s)
    (hm : MeetsAll original (fresh original) events) :
    Recoverable original s ∧
      (s.completed = true → ∀ more s', MeetsAll original s more → run s more = some s' →
        s'.conf = s.conf ∧ s'.backup = s.backup) ∧
      (s.progress = .tested → ¬Meets original s .openCopy →
        (∃ n < comment.length + 4, s.conf = (added ++ original).take n) ∧
        ∃ s', run s [.openCopy, .copy s.conf.length] = some s' ∧ ¬Recoverable original s') := by
  have hinv := inv_run (inv_fresh original) hm hrun
  refine ⟨recoverable_of_inv hinv, fun hc _ _ hmore hrest => run_completed hinv hc hmore hrest, ?_⟩
  exact fun htested hnot => ⟨(conf_of_not_meets hinv hnot).2, lost_of_not_meets htested hnot⟩

/-- A run, and another one after it. -/
def twoRuns : List Event :=
  [.test false, .openCopy, .copy 10, .copied, .openConf, .write 200, .written, .stop, .test false]

theorem recoverable_of_meets_two_runs :
    Recoverable (ascii "volume=75\n")
      ⟨added ++ ascii "volume=75\n", some (ascii "volume=75\n"), .finished, true⟩ := by
  refine (recoverable_of_meets (ascii "volume=75\n") twoRuns _ (by decide +kernel)
    (by decide +kernel)).1

/-- A run that is stopped when it has opened `mpv.conf`, and another one that copies what is left of
it. -/
theorem original_lost : ¬∀ (original : List UInt8) (events : List Event) (s : State),
    run (fresh original) events = some s → Recoverable original s := by
  intro h
  have hlost := h (ascii "volume=75\n")
    [.test false, .openCopy, .copy 10, .copied, .openConf, .stop, .test false, .openCopy]
    ⟨[], some [], .copying, false⟩ (by decide +kernel)
  revert hlost
  decide +kernel

end Runs

end OmarchyM1Video.Installer
