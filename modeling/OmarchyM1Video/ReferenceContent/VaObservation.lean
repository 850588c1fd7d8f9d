import Mathlib.Data.List.Nodup
import Mathlib.Data.List.Perm.Subperm
import OmarchyM1Video.ReferenceContent.AppendOnly
import OmarchyM1Video.ReferenceContent.VaCallsite

/-!
The VA call site observes all of its outputs or none.

* `Clean`: until the first failure every observation succeeded and has its result slot;
* `Ok`: the invariant of an observer, with the lease that the driver holds;
* `Complete`: what a result stands for;
* `vaapi_observation_all_or_nothing`: the statement about every run.
-/

namespace OmarchyM1Video.ReferenceContent.Va

/-! ### Selectors -/

lemma parseOutputs_nodup : ∀ {free : ℕ} {outputs : List UInt64} {p : List Char}
    {found : List UInt64}, outputs.Nodup → parseOutputs free outputs p = some found →
    found.Nodup ∧ found ≠ [] ∧ found.length ≤ outputs.length + free
  | 0, _, _, _, _, h => absurd h.symm (Option.some_ne_none _)
  | free + 1, outputs, p, found, hnodup, h => by
      rw [parseOutputs] at h
      split_ifs at h
      rcases hnumber : strtoull p with _ | ⟨output, rest⟩ <;> rw [hnumber] at h
      · exact absurd h.symm (Option.some_ne_none _)
      · dsimp only at h
        split_ifs at h with hmem
        have hnodup' : (outputs ++ [output]).Nodup := by
          rw [List.nodup_append]
          refine ⟨hnodup, List.nodup_singleton output, fun a ha b hb => ?_⟩
          rw [List.mem_singleton.mp hb]
          exact fun heq => hmem (heq ▸ ha)
        rcases rest with _ | ⟨c, p'⟩
        · obtain rfl : outputs ++ [output] = found := Option.some.inj h
          refine ⟨hnodup', List.append_ne_nil_of_right_ne_nil _ (List.cons_ne_nil _ _), ?_⟩
          rw [List.length_append, List.length_singleton]
          omega
        · dsimp only at h
          split_ifs at h
          obtain ⟨hfound, hne, hlength⟩ := parseOutputs_nodup hnodup' h
          refine ⟨hfound, hne, ?_⟩
          rw [List.length_append, List.length_singleton] at hlength
          omega

/-- The selectors are distinct, and there are one to eight of them. -/
lemma vaapiObserverParseOutputs_nodup {value : List Char} {outputs : List UInt64}
    (h : vaapiObserverParseOutputs value = some outputs) :
    outputs.Nodup ∧ outputs ≠ [] ∧ outputs.length ≤ contentSlots := by
  rw [vaapiObserverParseOutputs] at h
  split_ifs at h
  obtain ⟨hnodup, hne, hlength⟩ := parseOutputs_nodup List.nodup_nil h
  exact ⟨hnodup, hne, Nat.zero_add contentSlots ▸ hlength⟩

/-! ### The order of the outputs -/

/-- The selected ordinals below the next one were observed; or, once the counter has wrapped, all. -/
def Passed (outputs done : List UInt64) (next : UInt64) : Prop :=
  ((∀ n ∈ done, n < next) ∧ ∀ n ∈ outputs, n < next → n ∈ done) ∨ ∀ n ∈ outputs, n ∈ done

section Passed

variable {outputs done : List UInt64} {next : UInt64}

lemma lt_succ_or_wraps (next : UInt64) :
    (∀ n, n < next + 1 ↔ n < next ∨ n = next) ∨ ∀ n, n < next ∨ n = next := by
  simp only [UInt64.lt_iff_toNat_lt, UInt64.toNat_add, ← UInt64.toNat_inj]
  have hnext := next.toNat_lt
  by_cases hwrap : next.toNat + 1 < 2 ^ 64
  · refine .inl fun n => ?_
    rw [show (1 : UInt64).toNat = 1 from rfl, Nat.mod_eq_of_lt hwrap]
    omega
  · refine .inr fun n => ?_
    have hn := n.toNat_lt
    omega

lemma Passed.skip (h : Passed outputs done next) (hnext : next ∉ outputs) :
    Passed outputs done (next + 1) := by
  have hne : ∀ n ∈ outputs, n ≠ next := fun n hn heq => hnext (heq ▸ hn)
  rcases h with ⟨hdone, hall⟩ | hall
  · rcases lt_succ_or_wraps next with hlt | hwraps
    · refine .inl ⟨fun n hn => (hlt n).mpr (.inl (hdone n hn)), fun n hn hn' => ?_⟩
      exact hall n hn (((hlt n).mp hn').resolve_right (hne n hn))
    · exact .inr fun n hn => hall n hn ((hwraps n).resolve_right (hne n hn))
  · exact .inr hall

/-- An ordinal that is due is above those that were observed. -/
lemma Passed.lt (h : Passed outputs done next) (hnext : next ∈ outputs) (hdue : next ∉ done) :
    ∀ n ∈ done, n < next := by
  rcases h with ⟨hdone, -⟩ | hall
  · exact hdone
  · exact absurd (hall next hnext) hdue

lemma Passed.observe (h : Passed outputs done next) (hnext : next ∈ outputs) (hdue : next ∉ done) :
    Passed outputs (done ++ [next]) (next + 1) := by
  have hdone := h.lt hnext hdue
  have hall : ∀ n ∈ outputs, n < next ∨ n = next → n ∈ done ++ [next] := by
    rintro n hn (hlt | rfl)
    · rcases h with ⟨-, hall⟩ | hall
      · exact List.mem_append_left _ (hall n hn hlt)
      · exact List.mem_append_left _ (hall n hn)
    · exact List.mem_append_right _ (List.mem_singleton_self n)
  rcases lt_succ_or_wraps next with hlt | hwraps
  · refine .inl ⟨fun n hn => (hlt n).mpr ?_, fun n hn hn' => hall n hn ((hlt n).mp hn')⟩
    rcases List.mem_append.mp hn with hn | hn
    · exact .inl (hdone n hn)
    · exact .inr (List.mem_singleton.mp hn)
  · exact .inr fun n hn => hall n hn (hwraps n)

end Passed

/-! ### The invariant -/

/-- What is fixed over a run: the digest, the request, and what is known of each certified slot. -/
structure Setup where
  sha256 : List UInt8 → Vector UInt8 32
  outputs : List UInt64
  copy : Bool
  sound : Slot → Prop

section Invariant

variable (u : Setup)

/-- What an observer that has not failed has collected. -/
structure Clean (o : Observer) : Prop where
  failures : ∀ f ∈ o.failures, f = .close ∨ f = .incomplete
  attempts : ∀ a ∈ o.attempts, a.Succeeded
  used : o.pool.used = o.attempts.length
  count : o.result.length = o.attempts.length
  slots : ∀ k a, o.attempts[k]? = some a →
    o.result[k]? = some (ResultSlot.of u.sha256 a.ordinal a.surface (o.pool.slot k)) ∧
      (o.pool.slot k).valid = true ∧ vaSurface (o.pool.slot k).identity = some a.surface ∧
      u.sound (o.pool.slot k)
  seen : ∀ i ordinal, u.outputs[i]? = some ordinal →
    (o.seen.testBit i = true ↔ ordinal ∈ o.attempts.map Attempt.ordinal)
  sorted : (o.attempts.map Attempt.ordinal).Pairwise (· < ·)

/-- An observer between two calls, and the lease that the driver holds. -/
structure Ok (lease : Option ℕ) (o : Observer) : Prop where
  request : o.outputs = u.outputs ∧ o.copy = u.copy
  lease_eq : lease = if o.active then some o.lease else none
  held : o.heldFrame.isSome = o.active
  calls : ∀ c ∈ o.calls, c.2 = decide (c.1 ≠ .close)
  active : o.active = true → o.failed = true
  finished : o.finished = true → o.closed = true ∧ o.Full
  incomplete : .incomplete ∈ o.failures →
    o.closed = true ∧ o.finished = false ∧ (o.failed = true ∨ ¬ o.Full)
  clean : o.failed = false → Clean u o
  passed : o.failed = false → Passed u.outputs (o.attempts.map Attempt.ordinal) o.outputIndex

/-- A decoder between two calls. -/
structure Inv (d : Decoder) : Prop where
  ok : ∀ o, d.observer = some o → Ok u d.lease o
  gone : d.observer = none → d.lease = none

/-- What an output certifies is sound. -/
def Call.Sound : Call → Prop
  | .output e => ∀ slot, Certified u.copy e.snapshot slot → u.sound slot
  | _ => True

end Invariant

section Steps

variable {u : Setup} {d : Decoder} {o o' : Observer} {lease : Option ℕ} {e : OutputEnv}
  {selected : ℕ} {ordinal : UInt64} {a : Attempt}

/-- An observer that has failed has nothing to account for. -/
lemma ok_of_failed (hrequest : o.outputs = u.outputs ∧ o.copy = u.copy)
    (hlease : lease = if o.active then some o.lease else none)
    (hheld : o.heldFrame.isSome = o.active) (hcalls : ∀ c ∈ o.calls, c.2 = decide (c.1 ≠ .close))
    (hfinished : o.finished = false) (hfailures : .incomplete ∉ o.failures)
    (hfailed : o.failed = true) : Ok u lease o where
  request := hrequest
  lease_eq := hlease
  held := hheld
  calls := hcalls
  active _ := hfailed
  finished h := absurd (h.symm.trans hfinished) (by decide)
  incomplete h := absurd h hfailures
  clean h := absurd (h.symm.trans hfailed) (by decide)
  passed h := absurd (h.symm.trans hfailed) (by decide)

lemma Ok.fail (h : Ok u lease o) {f : Failure} (hf : f ≠ .incomplete) : Ok u lease (o.fail f) where
  request := h.request
  lease_eq := h.lease_eq
  held := h.held
  calls := h.calls
  active _ := rfl
  finished := h.finished
  incomplete hmem := by
    rcases List.mem_append.mp hmem with hmem | hmem
    · obtain ⟨hclosed, hfinished, -⟩ := h.incomplete hmem
      exact ⟨hclosed, hfinished, .inl rfl⟩
    · exact absurd (List.mem_singleton.mp hmem).symm hf
  clean h := absurd h.symm Bool.false_ne_true
  passed h := absurd h.symm Bool.false_ne_true

/-- An observer that may observe an output: it is open, has no lease, has not failed, and the output
is due. -/
structure Ready (u : Setup) (ordinal : UInt64) (o : Observer) : Prop where
  request : o.outputs = u.outputs ∧ o.copy = u.copy
  active : o.active = false
  calls : ∀ c ∈ o.calls, c.2 = decide (c.1 ≠ .close)
  finished : o.finished = false
  failures : .incomplete ∉ o.failures
  clean : Clean u o
  next : o.outputIndex = ordinal + 1
  passed : Passed u.outputs (o.attempts.map Attempt.ordinal) ordinal
  due : ordinal ∉ o.attempts.map Attempt.ordinal

lemma Ready.failures_append (h : Ready u ordinal o) {f : Failure} (hf : f ≠ .incomplete) :
    .incomplete ∉ o.failures ++ [f] := by
  rw [List.mem_append, List.mem_singleton, not_or]
  exact ⟨h.failures, hf.symm⟩

lemma inv_some (ho : d.observer = some o) (h : Ok u d.lease o) : Inv u d where
  ok _ ho' := Option.some.inj (ho.symm.trans ho') ▸ h
  gone hnone := absurd (ho.symm.trans hnone) (Option.some_ne_none o)

lemma calls_call (hcalls : ∀ c ∈ o.calls, c.2 = decide (c.1 ≠ .close))
    (hheld : o.heldFrame.isSome = true) {op : Op} (hop : op ≠ .close) :
    ∀ c ∈ (o.call op).calls, c.2 = decide (c.1 ≠ .close) := by
  intro c hc
  rcases List.mem_append.mp hc with hc | hc
  · exact hcalls c hc
  · rw [List.mem_singleton.mp hc, hheld]
    exact (decide_eq_true hop).symm

/-- The bit of an output is set together with its observation. -/
lemma seen_publish {outputs done : List UInt64} {seen : ℕ} (hnodup : outputs.Nodup)
    (hseen : ∀ i ordinal, outputs[i]? = some ordinal → (seen.testBit i = true ↔ ordinal ∈ done))
    (hselected : outputs[selected]? = some ordinal) {i : ℕ} {n : UInt64}
    (hi : outputs[i]? = some n) :
    (seen ||| 1 <<< selected).testBit i = true ↔ n ∈ done ++ [ordinal] := by
  have hbit : (1 <<< selected).testBit i = true ↔ selected = i := by
    rw [Nat.one_shiftLeft, Nat.testBit_two_pow, decide_eq_true_eq]
  have hsame : selected = i ↔ n = ordinal := by
    constructor
    · rintro rfl
      exact Option.some.inj (hi.symm.trans hselected)
    · rintro rfl
      obtain ⟨hlt, hget⟩ := List.getElem?_eq_some_iff.mp hselected
      obtain ⟨hlt', hget'⟩ := List.getElem?_eq_some_iff.mp hi
      exact (hnodup.getElem_inj_iff).mp (hget.trans hget'.symm)
  rw [Nat.testBit_or, Bool.or_eq_true, hseen i n hi, hbit, hsame, List.mem_append, List.mem_singleton]

lemma Clean.publish (h : Clean u o) (hnodup : u.outputs.Nodup) {pool : Pool}
    (hused : pool.used = o.pool.used + 1) (hslot : ∀ k < o.pool.used, pool.slot k = o.pool.slot k)
    (hvalid : (pool.slot o.pool.used).valid = true)
    (hsurface : vaSurface (pool.slot o.pool.used).identity = some a.surface)
    (hsound : u.sound (pool.slot o.pool.used))
    (hselected : u.outputs[selected]? = some a.ordinal) (ha : a.Succeeded)
    (hlt : ∀ n ∈ o.attempts.map Attempt.ordinal, n < a.ordinal)
    (hpool : o'.pool = pool) (hfailures : o'.failures = o.failures)
    (hattempts : o'.attempts = o.attempts ++ [a])
    (hresult : o'.result =
      o.result ++ [ResultSlot.of u.sha256 a.ordinal a.surface (pool.slot o.pool.used)])
    (hseen : o'.seen = o.seen ||| 1 <<< selected) : Clean u o' where
  failures := by
    rw [hfailures]
    exact h.failures
  attempts := by
    rw [hattempts]
    intro b hb
    rcases List.mem_append.mp hb with hb | hb
    · exact h.attempts b hb
    · rwa [List.mem_singleton.mp hb]
  used := by
    rw [hpool, hattempts, hused, h.used, List.length_append, List.length_singleton]
  count := by
    rw [hresult, hattempts, List.length_append, List.length_append, h.count,
      List.length_singleton, List.length_singleton]
  slots := by
    intro k b hb
    rw [hattempts] at hb
    rw [hresult, hpool]
    rcases Nat.lt_or_ge k o.attempts.length with hk | hk
    · rw [List.getElem?_append_left hk] at hb
      obtain ⟨hslots, hold⟩ := h.slots k b hb
      rw [List.getElem?_append_left (h.count.symm ▸ hk), hslot k (h.used.symm ▸ hk)]
      exact ⟨hslots, hold⟩
    · rw [List.getElem?_append_right hk, List.getElem?_singleton] at hb
      split_ifs at hb with hzero
      obtain rfl : a = b := Option.some.inj hb
      obtain rfl : k = o.attempts.length := Nat.le_antisymm (Nat.sub_eq_zero_iff_le.mp hzero) hk
      rw [h.used] at hvalid hsurface hsound
      refine ⟨?_, hvalid, hsurface, hsound⟩
      rw [List.getElem?_append_right (Nat.le_of_eq h.count), h.count, Nat.sub_self, h.used]
      rfl
  seen := by
    intro i n hi
    rw [hattempts, hseen, List.map_append]
    exact seen_publish hnodup h.seen hselected hi
  sorted := by
    rw [hattempts, List.map_append, List.pairwise_append]
    refine ⟨h.sorted, List.pairwise_singleton _ _, fun n hn m hm => ?_⟩
    rw [List.mem_singleton.mp hm]
    exact hlt n hn

/-- The outcome of an observation whose lease was ended. -/
lemma publish_ok {d : Decoder} (h : Ready u ordinal o) (hnodup : u.outputs.Nodup) {o₁ : Observer}
    (hselected : u.outputs[selected]? = some ordinal) (hends : e.ends = true)
    (hsound : Call.Sound u (.output e)) (hactive : o₁.active = false) (hheld : o₁.heldFrame = none)
    (hcalls : ∀ c ∈ o₁.calls, c.2 = decide (c.1 ≠ .close)) (hfinished : o₁.finished = false)
    (hrequest : o₁.outputs = u.outputs ∧ o₁.copy = u.copy) (hfailures : o₁.failures = o.failures)
    (hresult : o₁.result = o.result) (hseen : o₁.seen = o.seen)
    (hnext : o₁.outputIndex = o.outputIndex)
    (hpool : o₁.pool = (v4l2rContentSnapshot o.copy e.snapshot o.pool d.content).pool)
    (hattempts : o₁.attempts = o.attempts ++ [⟨ordinal, e.surface, some e.surface, some e.surface,
      (v4l2rContentSnapshot o.copy e.snapshot o.pool d.content).ok, e.ends⟩]) :
    Ok u none (o₁.publish u.sha256 selected ordinal e
      (v4l2rContentSnapshot o.copy e.snapshot o.pool d.content).ok) := by
  have hunheld : o₁.heldFrame.isSome = o₁.active := by
    rw [hheld, hactive]
    rfl
  have hfail : ∀ f, f ≠ .incomplete → Ok u none (o₁.fail f) := by
    intro f hf
    refine ok_of_failed hrequest (if_neg (hactive ▸ Bool.false_ne_true)).symm hunheld hcalls hfinished
      ?_ rfl
    change _ ∉ o₁.failures ++ [f]
    rw [hfailures]
    exact h.failures_append hf
  have hmem : ordinal ∈ u.outputs := List.mem_of_getElem? hselected
  have hpassed : Passed u.outputs (o₁.attempts.map Attempt.ordinal) o₁.outputIndex := by
    rw [hattempts, List.map_append, hnext, h.next]
    exact h.passed.observe hmem h.due
  rw [Observer.publish]
  split_ifs with hbad hfull hsurface hdigest
  · exact hfail _ (by decide)
  · exact hfail _ (by decide)
  · exact hfail _ (by decide)
  · exact hfail _ (by decide)
  · rw [not_or, Bool.not_eq_false] at hbad
    obtain ⟨hused, hvalid, hcertified⟩ := v4l2rContentSnapshot_ok hbad.1
    have hlast : o₁.pool.used - 1 = o.pool.used := by
      rw [hpool, hused, Nat.add_sub_cancel]
    rw [hlast, ne_eq, Decidable.not_not, hpool] at hsurface
    refine ⟨hrequest, (if_neg (hactive ▸ Bool.false_ne_true)).symm, hunheld, hcalls,
      fun hon => absurd (hon.symm.trans hactive) (by decide),
      fun hon => absurd (hon.symm.trans hfinished) (by decide),
      fun hmem => absurd (hfailures ▸ hmem) h.failures, fun _ => ?_, fun _ => hpassed⟩
    refine h.clean.publish hnodup hused (fun k hk => v4l2rContentSnapshot_outcome.slot_eq hk) hvalid
      hsurface (hsound _ (h.request.2 ▸ hcertified)) hselected ⟨rfl, rfl, hbad.1, hends⟩
      (h.passed.lt hmem h.due) hpool hfailures hattempts ?_ ?_
    · change o₁.result ++ [ResultSlot.of u.sha256 ordinal e.surface (o₁.pool.slot _)] = _
      rw [hresult, hlast, hpool]
    · change o₁.seen ||| 1 <<< selected = _
      rw [hseen]

lemma observe_inv (h : Ready u ordinal o) (hnodup : u.outputs.Nodup)
    (hselected : u.outputs[selected]? = some ordinal) (hsound : Call.Sound u (.output e))
    (hheld : o.heldFrame.isSome = true) {r : Receipt} :
    Inv u (d.observe u.sha256 o selected ordinal e e.surface r) := by
  have hending : ∀ c ∈ (o.call .ending).calls, c.2 = decide (c.1 ≠ .close) :=
    calls_call h.calls hheld (by decide)
  have hsnapshot : ∀ c ∈ ((o.call .snapshot).call .ending).calls, c.2 = decide (c.1 ≠ .close) :=
    calls_call (calls_call h.calls hheld (by decide)) hheld (by decide)
  rw [Decoder.observe]
  dsimp only
  split_ifs with hreceipt hends hends
  · refine inv_some rfl (ok_of_failed h.request rfl hheld hending h.finished (fun hmem => ?_) rfl)
    rcases List.mem_append.mp hmem with hmem | hmem
    · exact h.failures_append (by decide) hmem
    · exact absurd (List.mem_singleton.mp hmem) (by decide)
  · exact inv_some rfl (ok_of_failed h.request rfl rfl hending h.finished
      (h.failures_append (by decide)) rfl)
  · exact inv_some rfl (ok_of_failed h.request rfl hheld hsnapshot h.finished
      (h.failures_append (by decide)) rfl)
  · rw [ne_eq, Decidable.not_not] at hreceipt
    rw [Bool.not_eq_false] at hends
    refine inv_some rfl (publish_ok (d := d) h hnodup hselected hends hsound rfl rfl hsnapshot
      h.finished h.request rfl rfl rfl rfl rfl ?_)
    rw [hreceipt]
    rfl

lemma select_inv (h : Ready u ordinal o) (hnodup : u.outputs.Nodup)
    (hselected : u.outputs[selected]? = some ordinal) (hsound : Call.Sound u (.output e))
    (hheld : o.heldFrame = none) (hlease : d.lease = none) :
    Inv u (d.select u.sha256 o selected ordinal e) := by
  have hcalls : ∀ c ∈ o.calls ++ [(Op.select, true)], c.2 = decide (c.1 ≠ .close) :=
    calls_call (o := { o with heldFrame := some ordinal }) h.calls rfl (by decide)
  have hbegin : ∀ c ∈ o.calls ++ [(Op.select, true)] ++ [(Op.begin, true)],
      c.2 = decide (c.1 ≠ .close) :=
    calls_call (o := { o with
      heldFrame := some ordinal
      calls := o.calls ++ [(Op.select, true)] }) hcalls rfl (by decide)
  rw [Decoder.select]
  split_ifs with hreference htarget
  · refine inv_some rfl (ok_of_failed h.request ?_ ?_ h.calls h.finished
      (h.failures_append (by decide)) rfl)
    · exact hlease.trans (if_neg (h.active ▸ Bool.false_ne_true)).symm
    · change o.heldFrame.isSome = o.active
      rw [hheld, h.active]
      rfl
  · exact inv_some rfl (ok_of_failed h.request hlease rfl hcalls h.finished
      (h.failures_append (by decide)) rfl)
  · dsimp only
    rcases e.begins with _ | r
    · exact inv_some rfl (ok_of_failed h.request hlease rfl hbegin h.finished
        (h.failures_append (by decide)) rfl)
    · have hready : Ready u ordinal
          (Observer.call (Observer.call { o with heldFrame := some ordinal } .select) .begin) :=
        ⟨h.request, h.active, hbegin, h.finished, h.failures, ⟨h.clean.failures, h.clean.attempts,
          h.clean.used, h.clean.count, h.clean.slots, h.clean.seen, h.clean.sorted⟩, h.next,
          h.passed, h.due⟩
      exact observe_inv hready hnodup hselected hsound rfl

lemma output_inv (h : Inv u d) (hnodup : u.outputs.Nodup) (hsound : Call.Sound u (.output e)) :
    Inv u (output u.sha256 e d) := by
  rw [output]
  rcases ho : d.observer with _ | o
  · exact h
  · have hok := h.ok o ho
    dsimp only
    split_ifs with hrefused
    · exact inv_some rfl (hok.fail (by decide))
    · simp only [not_or, Bool.not_eq_true, Bool.not_eq_false] at hrefused
      obtain ⟨-, hclosed, hfailed, hactive, -⟩ := hrefused
      have hlease : d.lease = none :=
        hok.lease_eq.trans (if_neg (hactive ▸ Bool.false_ne_true))
      have hheld : o.heldFrame = none := by
        rw [← Option.not_isSome_iff_eq_none, hok.held, hactive]
        exact Bool.false_ne_true
      have hclean := hok.clean hfailed
      have hpassed := hok.passed hfailed
      have hclean' : Clean u { o with outputIndex := o.outputIndex + 1 } :=
        ⟨hclean.failures, hclean.attempts, hclean.used, hclean.count, hclean.slots, hclean.seen,
          hclean.sorted⟩
      rcases hfind : o.outputs.findIdx? (· = o.outputIndex) with _ | selected
      · refine inv_some rfl ⟨hok.request, hok.lease_eq, hok.held, hok.calls, hok.active, hok.finished,
          hok.incomplete, fun _ => hclean', fun _ => hpassed.skip fun hmem => ?_⟩
        rw [hok.request.1] at hfind
        exact absurd (List.findIdx?_eq_none_iff.mp hfind _ hmem) (by simp)
      · dsimp only
        have hfind' := hfind
        rw [hok.request.1] at hfind'
        obtain ⟨hlt, heq, -⟩ := List.findIdx?_eq_some_iff_getElem.mp hfind'
        have hselected : u.outputs[selected]? = some o.outputIndex := by
          rw [List.getElem?_eq_getElem hlt]
          exact congrArg some (of_decide_eq_true heq)
        split_ifs with hseen
        · refine inv_some rfl (ok_of_failed hok.request hok.lease_eq hok.held hok.calls ?_ ?_ rfl)
          · by_contra hfinished
            rw [Bool.not_eq_false] at hfinished
            exact absurd ((hok.finished hfinished).1.symm.trans hclosed) (by decide)
          · intro hmem
            rcases List.mem_append.mp hmem with hmem | hmem
            · exact absurd ((hok.incomplete hmem).1.symm.trans hclosed) (by decide)
            · exact absurd (List.mem_singleton.mp hmem) (by decide)
        · refine select_inv ⟨hok.request, hactive, hok.calls, ?_, ?_, hclean', rfl, hpassed, ?_⟩ hnodup
            hselected hsound hheld hlease
          · by_contra hfinished
            rw [Bool.not_eq_false] at hfinished
            exact absurd ((hok.finished hfinished).1.symm.trans hclosed) (by decide)
          · exact fun hmem => absurd ((hok.incomplete hmem).1.symm.trans hclosed) (by decide)
          · exact fun hmem => hseen ((hclean.seen selected _ hselected).mpr hmem)

lemma Ok.close_calls (h : Ok u lease o) (hactive : o.active = false) :
    ∀ c ∈ o.calls ++ [(Op.close, o.heldFrame.isSome)], c.2 = decide (c.1 ≠ .close) := by
  intro c hc
  rcases List.mem_append.mp hc with hc | hc
  · exact h.calls c hc
  · rw [List.mem_singleton.mp hc, h.held, hactive]
    rfl

/-- Further failures of a finish leave what was collected. -/
lemma Clean.finish (h : Clean u o) {f : Failure} (hf : f = .close ∨ f = .incomplete)
    (hfailures : o'.failures = o.failures ++ [f]) (hattempts : o'.attempts = o.attempts)
    (hpool : o'.pool = o.pool) (hresult : o'.result = o.result) (hseen : o'.seen = o.seen) :
    Clean u o' where
  failures := by
    rw [hfailures]
    intro g hg
    rcases List.mem_append.mp hg with hg | hg
    · exact h.failures g hg
    · rwa [List.mem_singleton.mp hg]
  attempts := hattempts ▸ h.attempts
  used := by rw [hpool, hattempts, h.used]
  count := by rw [hresult, hattempts, h.count]
  slots := by
    rw [hattempts, hresult, hpool]
    exact h.slots
  seen := by
    rw [hseen, hattempts]
    exact h.seen
  sorted := hattempts ▸ h.sorted

/-- The end of a finish, on an observer that has no lease. -/
lemma conclude_ok (h : Ok u lease o) (hactive : o.active = false)
    (hunfinished : o.finished = false) {closes : Bool} :
    Ok u lease (o.conclude closes).2 := by
  have hcalls : ∀ c ∈ o.close.calls, c.2 = decide (c.1 ≠ .close) := by
    change ∀ c ∈ if o.closed = true then _ else _, _
    split_ifs
    · exact h.calls
    · exact h.close_calls hactive
  rw [Observer.conclude]
  split_ifs with hclose hbad
  · refine ⟨h.request, h.lease_eq, h.held, h.close_calls hactive, h.active, h.finished, ?_,
      fun hfailed => (h.clean hfailed).finish (.inl rfl) rfl rfl rfl rfl rfl, h.passed⟩
    intro hmem
    rcases List.mem_append.mp hmem with hmem | hmem
    · exact h.incomplete hmem
    · exact absurd (List.mem_singleton.mp hmem) (by decide)
  · exact ⟨h.request, h.lease_eq, h.held, hcalls, h.active,
      fun hfinished => ⟨rfl, (h.finished hfinished).2⟩, fun _ => ⟨rfl, hunfinished, hbad⟩,
      fun hfailed => (h.clean hfailed).finish (.inr rfl) rfl rfl rfl rfl rfl, h.passed⟩
  · rw [not_or, Decidable.not_not, Bool.not_eq_true] at hbad
    refine ⟨h.request, h.lease_eq, h.held, hcalls, h.active, fun _ => ⟨rfl, hbad.2⟩, fun hmem => ?_,
      fun hfailed => ?_, h.passed⟩
    · rcases (h.incomplete hmem).2.2 with hfailed | hfull
      · exact absurd (hfailed.symm.trans hbad.1) (by decide)
      · exact absurd hbad.2 hfull
    · have hclean := h.clean hfailed
      exact ⟨hclean.failures, hclean.attempts, hclean.used, hclean.count, hclean.slots, hclean.seen,
        hclean.sorted⟩

lemma finish_inv (h : Inv u d) {thread : ℕ} {ends closes : Bool} :
    Inv u (finish thread ends closes d).2 := by
  rw [finish]
  rcases ho : d.observer with _ | o
  · exact h
  · have hok := h.ok o ho
    have hending : o.active = true → ∀ c ∈ (o.call .ending).calls, c.2 = decide (c.1 ≠ .close) :=
      fun hactive => calls_call hok.calls (hok.held.trans hactive) (by decide)
    dsimp only
    split_ifs with howner hfinished hfailed hends hactive
    · exact h
    · exact h
    · exact h
    · have hfailed := hok.active hends.1
      refine inv_some rfl ⟨hok.request, hok.lease_eq, hok.held, hending hends.1, hok.active,
        hok.finished, fun hmem => ?_, fun hon => absurd (hon.symm.trans hfailed) (by decide),
        fun hon => absurd (hon.symm.trans hfailed) (by decide)⟩
      rcases List.mem_append.mp hmem with hmem | hmem
      · exact hok.incomplete hmem
      · exact absurd (List.mem_singleton.mp hmem) (by decide)
    · rw [Bool.not_eq_true] at hfinished
      have hfailed := hok.active hactive
      have hended : Ok u none (o.call .ending).unref :=
        ⟨hok.request, rfl, rfl, hending hactive, fun hon => absurd hon Bool.false_ne_true,
          hok.finished, hok.incomplete, fun hon => absurd (hon.symm.trans hfailed) (by decide),
          fun hon => absurd (hon.symm.trans hfailed) (by decide)⟩
      exact inv_some rfl (conclude_ok hended rfl hfinished)
    · rw [Bool.not_eq_true] at hfinished hactive
      exact inv_some rfl (conclude_ok hok hactive hfinished)

lemma uninit_inv (h : Inv u d) {thread : ℕ} {ends closes : Bool} :
    Inv u (uninit thread ends closes d) := by
  have hfinish : Inv u (finish thread ends closes d).2 := finish_inv h
  rw [uninit]
  rcases ho : (finish thread ends closes d).2.observer with _ | o
  · exact hfinish
  · dsimp only
    split_ifs with hactive
    · exact hfinish
    · refine ⟨fun o' ho' => absurd ho'.symm (Option.some_ne_none o'), fun _ => ?_⟩
      exact (hfinish.ok o ho).lease_eq.trans (if_neg hactive)

lemma Inv.step (h : Inv u d) (hnodup : u.outputs.Nodup) {c : Call} (hc : c.Sound u) :
    Inv u (step u.sha256 d c) := by
  cases c with
  | output e => exact output_inv h hnodup hc
  | finish thread ends closes => exact finish_inv h
  | flush thread ends closes => exact finish_inv h
  | uninit thread ends closes => exact uninit_inv h

lemma Inv.run (h : Inv u d) (hnodup : u.outputs.Nodup) {calls : List Call}
    (hcalls : ∀ c ∈ calls, c.Sound u) : Inv u (run u.sha256 d calls) := by
  induction calls generalizing d with
  | nil => exact h
  | cons c calls ih =>
      obtain ⟨hc, hrest⟩ := List.forall_mem_cons.mp hcalls
      exact ih (h.step hnodup hc) hrest

/-- The decoder that an arming leaves. -/
lemma inv_arm {value : List Char} {binds : Bool} {thread : ℕ} {content : Content}
    (hparse : vaapiObserverParseOutputs value = some u.outputs)
    (h : arm value u.copy thread binds content = some d) : Inv u d := by
  rw [arm, hparse] at h
  dsimp only at h
  split_ifs at h
  obtain rfl := Option.some.inj h
  refine inv_some rfl ⟨⟨rfl, rfl⟩, rfl, rfl, fun c hc => absurd hc List.not_mem_nil,
    fun hon => absurd hon Bool.false_ne_true, fun hon => absurd hon Bool.false_ne_true,
    fun hmem => absurd hmem List.not_mem_nil, fun _ => ?_, fun _ => .inl ⟨?_, ?_⟩⟩
  · refine ⟨fun f hf => absurd hf List.not_mem_nil, fun a ha => absurd ha List.not_mem_nil, rfl, rfl,
      fun k a ha => absurd ha.symm (Option.some_ne_none a), fun i ordinal _ => ?_, .nil⟩
    rw [Observer.armed, Nat.zero_testBit]
    exact ⟨fun hbit => absurd hbit Bool.false_ne_true, fun hmem => absurd hmem List.not_mem_nil⟩
  · exact fun n hn => absurd hn List.not_mem_nil
  · exact fun n _ hn => absurd hn (Nat.not_lt_zero _)

lemma parse_of_arm {value : List Char} {copy binds : Bool} {thread : ℕ} {content : Content}
    (h : arm value copy thread binds content = some d) :
    ∃ outputs, vaapiObserverParseOutputs value = some outputs := by
  rw [arm] at h
  rcases hparse : vaapiObserverParseOutputs value with _ | outputs <;> rw [hparse] at h
  · exact absurd h.symm (Option.some_ne_none d)
  · exact ⟨outputs, rfl⟩

end Steps

/-! ### Failures stay -/

section Failures

variable {sha256 : List UInt8 → Vector UInt8 32} {d : Decoder} {o : Observer} {e : OutputEnv}
  {selected : ℕ} {ordinal : UInt64} {fs : List Failure}

/-- The observer, if there is one, has failed at these. -/
def Recorded (fs : List Failure) (d : Decoder) : Prop := ∀ o, d.observer = some o → fs ⊆ o.failures

lemma recorded_some (ho : d.observer = some o) (h : fs ⊆ o.failures) : Recorded fs d :=
  fun _ ho' => Option.some.inj (ho.symm.trans ho') ▸ h

lemma subset_fail (h : fs ⊆ o.failures) {f : Failure} : fs ⊆ o.failures ++ [f] :=
  List.subset_append_of_subset_left _ h

lemma publish_failures {o : Observer} (h : fs ⊆ o.failures) {copied : Bool} :
    fs ⊆ (o.publish sha256 selected ordinal e copied).failures := by
  rw [Observer.publish]
  split_ifs
  · exact subset_fail h
  · exact subset_fail h
  · exact subset_fail h
  · exact subset_fail h
  · exact h

lemma select_recorded (h : fs ⊆ o.failures) :
    Recorded fs (d.select sha256 o selected ordinal e) := by
  rw [Decoder.select]
  split_ifs
  · exact recorded_some rfl (subset_fail h)
  · exact recorded_some rfl (subset_fail h)
  · dsimp only
    rcases e.begins with _ | r
    · exact recorded_some rfl (subset_fail h)
    · dsimp only [Decoder.observe]
      split_ifs
      · exact recorded_some rfl (List.subset_append_of_subset_left _ (subset_fail h))
      · exact recorded_some rfl (subset_fail h)
      · exact recorded_some rfl (subset_fail h)
      · refine recorded_some rfl (publish_failures ?_)
        exact h

lemma output_recorded (h : Recorded fs d) : Recorded fs (output sha256 e d) := by
  rw [output]
  rcases ho : d.observer with _ | o
  · exact h
  · have hfs := h o ho
    dsimp only
    split_ifs
    · exact recorded_some rfl (subset_fail hfs)
    · rcases o.outputs.findIdx? (· = o.outputIndex) with _ | selected
      · exact recorded_some rfl hfs
      · dsimp only
        split_ifs
        · exact recorded_some rfl (subset_fail hfs)
        · exact select_recorded hfs

lemma conclude_failures (h : fs ⊆ o.failures) {closes : Bool} :
    fs ⊆ (o.conclude closes).2.failures := by
  rw [Observer.conclude]
  split_ifs
  · exact subset_fail h
  · exact subset_fail h
  · exact h

lemma finish_recorded (h : Recorded fs d) {thread : ℕ} {ends closes : Bool} :
    Recorded fs (finish thread ends closes d).2 := by
  rw [finish]
  rcases ho : d.observer with _ | o
  · exact h
  · have hfs := h o ho
    dsimp only
    split_ifs
    · exact h
    · exact h
    · exact h
    · exact recorded_some rfl (subset_fail hfs)
    · refine recorded_some rfl (conclude_failures ?_)
      exact hfs
    · exact recorded_some rfl (conclude_failures hfs)

lemma uninit_recorded (h : Recorded fs d) {thread : ℕ} {ends closes : Bool} :
    Recorded fs (uninit thread ends closes d) := by
  have hfinish : Recorded fs (finish thread ends closes d).2 := finish_recorded h
  rw [uninit]
  rcases (finish thread ends closes d).2.observer with _ | o
  · exact hfinish
  · dsimp only
    split_ifs
    · exact hfinish
    · exact fun o' ho' => absurd ho'.symm (Option.some_ne_none o')

lemma Recorded.step (h : Recorded fs d) {c : Call} : Recorded fs (step sha256 d c) := by
  cases c with
  | output e => exact output_recorded h
  | finish thread ends closes => exact finish_recorded h
  | flush thread ends closes => exact finish_recorded h
  | uninit thread ends closes => exact uninit_recorded h

lemma Recorded.run (h : Recorded fs d) {calls : List Call} : Recorded fs (run sha256 d calls) := by
  induction calls generalizing d with
  | nil => exact h
  | cons c calls ih => exact ih h.step

end Failures

/-! ### Whole runs -/

section Runs

variable {u : Setup} {d : Decoder} {thread : ℕ} {slots : List ResultSlot}

/-- An observer that has its result. -/
structure Collected (u : Setup) (o : Observer) (slots : List ResultSlot) : Prop where
  request : o.outputs = u.outputs ∧ o.copy = u.copy
  clean : Clean u o
  full : o.Full
  closed : o.closed = true
  slots_eq : o.result = slots
  failures : ∀ f ∈ o.failures, f = .close

lemma result_some (hr : result thread d = some slots) :
    ∃ o, d.observer = some o ∧ o.result = slots ∧ o.failed = false ∧ o.finished = true ∧
      o.closed = true ∧ o.active = false ∧ o.owner = thread := by
  rw [result] at hr
  rcases ho : d.observer with _ | o <;> rw [ho] at hr
  · exact absurd hr.symm (Option.some_ne_none slots)
  · dsimp only at hr
    split_ifs at hr with hbad
    simp only [not_or, Bool.not_eq_true, Bool.not_eq_false, ne_eq, Decidable.not_not] at hbad
    exact ⟨o, rfl, Option.some.inj hr, hbad⟩

lemma collected_of_result (h : Inv u d) (hr : result thread d = some slots) :
    ∃ o, d.observer = some o ∧ Collected u o slots := by
  obtain ⟨o, ho, hslots, hfailed, hfinished, hclosed, -, -⟩ := result_some hr
  have hok := h.ok o ho
  refine ⟨o, ho, hok.request, hok.clean hfailed, (hok.finished hfinished).2, hclosed, hslots,
    fun f hf => ?_⟩
  rcases (hok.clean hfailed).failures f hf with rfl | rfl
  · rfl
  · exact absurd ((hok.incomplete hf).2.1.symm.trans hfinished) (by decide)

namespace Collected

variable {o : Observer}

lemma length (h : Collected u o slots) : o.attempts.length = u.outputs.length := by
  rw [← h.request.1, ← h.clean.used]
  exact h.full.2

/-- Each output was observed: there are no more observations than outputs. -/
lemma perm (h : Collected u o slots) (hnodup : u.outputs.Nodup) :
    u.outputs.Perm (o.attempts.map Attempt.ordinal) := by
  have hsubset : u.outputs ⊆ o.attempts.map Attempt.ordinal := by
    intro g hg
    obtain ⟨i, hi⟩ := List.getElem?_of_mem hg
    obtain ⟨hlt, -⟩ := List.getElem?_eq_some_iff.mp hi
    refine (h.clean.seen i g hi).mp ?_
    rw [h.full.1, h.request.1, Nat.one_shiftLeft, Nat.testBit_two_pow_sub_one]
    exact decide_eq_true hlt
  refine (List.subperm_of_subset hnodup hsubset).perm_of_length_le (Nat.le_of_eq ?_)
  rw [List.length_map, h.length]

end Collected

/-- What a result stands for. -/
structure Complete (sha256 : List UInt8 → Vector UInt8 32) (o : Observer) (slots : List ResultSlot) :
    Prop where
  attempts : ∀ a ∈ o.attempts, a.Succeeded
  once : ∀ ordinal ∈ o.outputs, (o.attempts.map Attempt.ordinal).count ordinal = 1
  length : slots.length = o.outputs.length ∧ o.attempts.length = o.outputs.length
  used : o.pool.used = o.outputs.length
  slots : ∀ k a, o.attempts[k]? = some a →
    slots[k]? = some (ResultSlot.of sha256 a.ordinal a.surface (o.pool.slot k)) ∧
      (o.pool.slot k).valid = true ∧ vaSurface (o.pool.slot k).identity = some a.surface
  closed : o.closed = true
  failures : ∀ f ∈ o.failures, f = .close

lemma Collected.complete {o : Observer} (h : Collected u o slots) (hnodup : u.outputs.Nodup) :
    Complete u.sha256 o slots := by
  obtain rfl := h.slots_eq
  refine ⟨h.clean.attempts, fun ordinal hmem => ?_, ?_, h.full.2, fun k a ha => ?_, h.closed,
    h.failures⟩
  · rw [h.request.1] at hmem
    rw [← (h.perm hnodup).count_eq]
    exact List.count_eq_one_of_mem hnodup hmem
  · rw [h.request.1]
    exact ⟨h.clean.count.trans h.length, h.length⟩
  · obtain ⟨hslot, hvalid, hsurface, -⟩ := h.clean.slots k a ha
    exact ⟨hslot, hvalid, hsurface⟩

end Runs

/-- **The outputs are observed as a whole or not at all**, in every run of outputs, finishes, flushes
and uninits of an armed decoder.  A result stands for one successful observation of each selected
output, in the order in which these came, for a closed session, and for no failure but that of
closing it; after any other failure there is no result; and a frame is referenced exactly while a
lease is held, and at every call of the driver that acquires, uses or ends one. -/
theorem vaapi_observation_all_or_nothing (sha256 : List UInt8 → Vector UInt8 32) (value : List Char)
    (copy binds : Bool) (thread : ℕ) (content : Content) (d : Decoder)
    (harm : arm value copy thread binds content = some d) (calls : List Call) :
    let s := run sha256 d calls
    (∀ t slots, result t s = some slots → ∃ o, s.observer = some o ∧ Complete sha256 o slots) ∧
    (∀ o, s.observer = some o → (∃ f ∈ o.failures, f ≠ .close) → ∀ more t,
      result t (run sha256 s more) = none) ∧
    (∀ o, s.observer = some o → o.heldFrame.isSome = o.active ∧
      s.lease = (if o.active then some o.lease else none) ∧
      ∀ c ∈ o.calls, c.2 = decide (c.1 ≠ .close)) ∧
    (s.observer = none → s.lease = none) := by
  intro s
  obtain ⟨outputs, hparse⟩ := parse_of_arm harm
  have hnodup := (vaapiObserverParseOutputs_nodup hparse).1
  let u : Setup := ⟨sha256, outputs, copy, fun _ => True⟩
  have hsound : ∀ calls : List Call, ∀ c ∈ calls, c.Sound u := by
    intro calls c _
    cases c with
    | output e => exact fun _ _ => trivial
    | finish => exact trivial
    | flush => exact trivial
    | uninit => exact trivial
  have h : Inv u s := (inv_arm (u := u) hparse harm).run hnodup (hsound calls)
  refine ⟨fun t slots hr => ?_, ?_, fun o ho => ?_, h.gone⟩
  · obtain ⟨o, ho, hcollected⟩ := collected_of_result h hr
    exact ⟨o, ho, hcollected.complete hnodup⟩
  · rintro o ho ⟨f, hf, hclose⟩ more t
    rcases hr : result t (run sha256 s more) with _ | slots
    · rfl
    · obtain ⟨o', ho', hcollected⟩ := collected_of_result (h.run hnodup (hsound more)) hr
      have hrecorded : Recorded o.failures (run sha256 s more) :=
        (recorded_some ho (List.Subset.refl _)).run
      exact absurd (hcollected.failures f (hrecorded o' ho' hf)) hclose
  · exact ⟨(h.ok o ho).held, (h.ok o ho).lease_eq, (h.ok o ho).calls⟩

/-- The identity of a surface. -/
def plainIdentity (surface : UInt32) : Identity where
  run0 := 1
  run1 := 2
  contextGeneration := 3
  session := 1
  lease := 1
  allocationGeneration := 5
  writer := 1
  submitted := 4
  completed := 4
  captureIndex := 0
  planes := 1
  allocationMemory := 1
  allocationFlags := 0
  allocationType := 9
  planeSize := [345600]
  detail := .va 0 surface 1 4

/-- A snapshot of the surface that finds everything in order. -/
def plainEnv (surface : UInt32) : Env where
  thread := 0
  ready := true
  locked := true
  session := true
  now := 1
  deadline := 100
  contextLocked := true
  identity := some (plainIdentity surface)
  proof := some Slot.zero.provenance
  retained := true
  width := 448
  height := 240
  stride := 448
  offset := 0
  length := 345600
  transfer := ⟨1, true, 2, fun _ => 0, 3, true⟩
  identityAfter := some (plainIdentity surface)
  proofAfter := some Slot.zero.provenance
  finalNow := 4

/-- The output of the surface, with every call of the driver successful. -/
def plainOutput (surface : UInt32) : OutputEnv where
  thread := 0
  framed := true
  surface := surface
  references := true
  selects := some surface
  begins := some ⟨1, surface⟩
  snapshot := plainEnv surface
  ends := true
  hashes := true

/-- A digest that nothing asks for, where no output is copied. -/
def noDigest (_ : List UInt8) : Vector UInt8 32 := Vector.replicate 32 0

/-- A decoder armed for its first output. -/
def armedFirst : Decoder := ⟨some (Observer.armed [0] false 0), ⟨0, none⟩, none⟩

/-- A decoder armed for its first two outputs. -/
def armedTwo : Decoder := ⟨some (Observer.armed [0, 1] false 0), ⟨0, none⟩, none⟩

/-- A decoder armed for its first two outputs has a result after both, and it stands for them; after one of
them it has none. -/
theorem vaapi_observation_two :
    let s := run noDigest armedTwo
      [.output (plainOutput 7), .output (plainOutput 8), .finish 0 true true]
    arm ['0', ',', '1'] false 0 true ⟨0, none⟩ = some armedTwo ∧
      (result 0 s).map List.length = some 2 ∧
      (result 0 (run noDigest armedTwo [.output (plainOutput 7), .finish 0 true true])).isSome = false ∧
      ∀ t slots, result t s = some slots → ∃ o, s.observer = some o ∧ Complete noDigest o slots := by
  have harm : arm ['0', ',', '1'] false 0 true ⟨0, none⟩ = some armedTwo := rfl
  exact ⟨harm, by decide +kernel, by decide +kernel, (vaapi_observation_all_or_nothing noDigest
    ['0', ',', '1'] false true 0 ⟨0, none⟩ armedTwo harm
    [.output (plainOutput 7), .output (plainOutput 8), .finish 0 true true]).1⟩

/-- A session whose close fails once has its result once it is closed. -/
theorem vaapi_result_after_failed_close :
    let s := run noDigest armedFirst
      [.output (plainOutput 7), .finish 0 true false, .finish 0 true true]
    arm ['0'] false 0 true ⟨0, none⟩ = some armedFirst ∧ (result 0 s).isSome = true ∧
      s.observer.map Observer.failures = some [.close] :=
  ⟨rfl, by decide +kernel⟩

end OmarchyM1Video.ReferenceContent.Va
