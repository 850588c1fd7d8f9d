import Mathlib.Data.List.Perm.Subperm
import OmarchyM1Video.ReferenceContent.GstMoves

/-!
A schedule of the Gst call site is observed as a whole or not at all.

* `Cancel`: the owner cannot be cancelled exactly while its state is saved;
* `Drops`: a frame that was held is held still, or was dropped once;
* `scheduled_observation_all_or_nothing`: what holds in every run.
-/

namespace OmarchyM1Video.ReferenceContent.Gst

/-! ### Cancellation -/

/-- The owner cannot be cancelled exactly while its state is saved, which is only inside a callback
or a finish, or while a lease is held. -/
structure Saved (init : ℕ → Bool) (c : Callsite) (cancellable : ℕ → Bool) : Prop where
  cancellable_eq : cancellable =
    if c.cancelHeld then Function.update init c.owner false else init
  saved : c.cancelHeld = true → c.cancelState = init c.owner
  due : c.cancelHeld = true → c.inCallback = true ∨ c.lease ≠ 0

/-- Every disabling of cancellation has been undone once, the last one apart while it is due. -/
structure Cancel (init : ℕ → Bool) (s : Element) : Prop where
  balanced : s.disabled = s.restored + (s.callsite.elim 0 fun c => c.cancelHeld.toNat)
  off : s.callsite = none → s.cancellable = init
  site : ∀ c, s.callsite = some c → Saved init c s.cancellable

section Cancellation

variable {init : ℕ → Bool} {s s' : Element} {c c' : Callsite} {cancellable : ℕ → Bool}

lemma Saved.congr (h : Saved init c cancellable) (howner : c'.owner = c.owner)
    (hheld : c'.cancelHeld = c.cancelHeld) (hstate : c'.cancelState = c.cancelState)
    (hdue : c.inCallback = true ∨ c.lease ≠ 0 → c'.inCallback = true ∨ c'.lease ≠ 0) :
    Saved init c' cancellable := by
  refine ⟨?_, ?_, fun h' => hdue (h.due (hheld ▸ h'))⟩
  · rw [hheld, howner]
    exact h.cancellable_eq
  · rw [hheld, hstate, howner]
    exact h.saved

lemma Saved.eq_init (h : Saved init c cancellable) (hidle : c.inCallback = false)
    (hlease : c.lease = 0) : c.cancelHeld = false ∧ cancellable = init := by
  have hheld : c.cancelHeld = false := by
    refine Bool.eq_false_iff.mpr fun hheld => ?_
    rcases h.due hheld with hin | hne
    · exact absurd (hin.symm.trans hidle) (by decide)
    · exact hne hlease
  refine ⟨hheld, ?_⟩
  rw [h.cancellable_eq, hheld, if_neg Bool.false_ne_true]

/-- What is due is restored. -/
lemma Saved.restore (h : Saved init c s.cancellable) :
    (s.restore c c.cancelHeld).cancellable = init := by
  change (if c.cancelHeld = true then Function.update s.cancellable c.owner c.cancelState
    else s.cancellable) = init
  rw [h.cancellable_eq]
  split_ifs with hheld
  · rw [Function.update_idem, h.saved hheld, Function.update_eq_self]
  · rfl

lemma Cancel.of_some (hc : s.callsite = some c) (hbalanced : s.disabled = s.restored + c.cancelHeld.toNat)
    (h : Saved init c s.cancellable) : Cancel init s := by
  refine ⟨by rw [hc]; exact hbalanced, fun hnone => ?_, fun c' hc' => ?_⟩
  · exact absurd (hc.symm.trans hnone) (Option.some_ne_none c)
  · rw [Option.some.inj (hc'.symm.trans hc)]
    exact h

lemma Cancel.balanced_some (h : Cancel init s) (hc : s.callsite = some c) :
    s.disabled = s.restored + c.cancelHeld.toNat := by
  have hbalanced := h.balanced
  rw [hc] at hbalanced
  exact hbalanced

lemma Cancel.left (h : Cancel init s) (hc : s.callsite = some c) :
    Cancel init (contentCallbackLeave c s) := by
  have hsaved := h.site c hc
  have hbalanced := h.balanced_some hc
  by_cases hlease : c.lease = 0
  · have hdue : (decide (c.lease = 0) && c.cancelHeld) = c.cancelHeld := by simp [hlease]
    have hleft : c.left.cancelHeld = false := by simp [Callsite.left, hlease]
    refine .of_some rfl ?_ ⟨?_, ?_, ?_⟩
    · rw [contentCallbackLeave_disabled, contentCallbackLeave_restored, hdue, hleft]
      exact hbalanced
    · rw [hleft, if_neg Bool.false_ne_true, ← hsaved.restore, contentCallbackLeave, hdue]
    · exact fun hheld => absurd (hheld.symm.trans hleft) (by decide)
    · exact fun hheld => absurd (hheld.symm.trans hleft) (by decide)
  · have hdue : (decide (c.lease = 0) && c.cancelHeld) = false := by simp [hlease]
    have hleft : c.left.cancelHeld = c.cancelHeld := by simp [Callsite.left, hlease]
    refine .of_some rfl ?_ ?_
    · rw [contentCallbackLeave_disabled, contentCallbackLeave_restored, hdue, hleft]
      exact hbalanced
    · have hsame : (contentCallbackLeave c s).cancellable = s.cancellable := by
        rw [contentCallbackLeave, hdue]
        rfl
      rw [hsame]
      exact hsaved.congr rfl hleft rfl fun _ => .inr hlease

lemma Cancel.step (h : Cancel init s) (hmove : Move s s') : Cancel init s' := by
  cases hmove with
  | stay => exact h
  | armed copy frames thread hnone hframes =>
      have hbalanced := h.balanced
      rw [hnone] at hbalanced
      exact .of_some rfl hbalanced ⟨h.off hnone, fun hheld => absurd hheld Bool.false_ne_true,
        fun hheld => absurd hheld Bool.false_ne_true⟩
  | passed hnone => exact ⟨h.balanced, h.off, h.site⟩
  | refused => exact ⟨h.balanced, h.off, h.site⟩
  | entered c hc hidle hlease ok =>
      have hbalanced := h.balanced_some hc
      exact .of_some rfl hbalanced ((h.site c hc).congr rfl rfl rfl fun _ => .inl rfl)
  | rejected c hc hidle hlease f hf =>
      have hbalanced := h.balanced_some hc
      exact .of_some rfl hbalanced ((h.site c hc).congr rfl rfl rfl fun _ => .inl rfl)
  | observed c hc hidle hlease hfailed e howner selected hplan o ho =>
      obtain ⟨hheld, hinit⟩ := (h.site c hc).eq_init hidle hlease
      have hbalanced := h.balanced_some hc
      rw [hheld] at hbalanced
      have ho' : o.callsite.cancelHeld = true ∧ o.callsite.owner = e.thread ∧
          o.callsite.cancelState = s.cancellable e.thread ∧ o.callsite.inCallback = true := by
        cases ho with
        | failed => exact ⟨rfl, howner, rfl, rfl⟩
        | held => exact ⟨rfl, howner, rfl, rfl⟩
        | collected => exact ⟨rfl, howner, rfl, rfl⟩
      refine .of_some rfl ?_ ⟨?_, fun _ => ?_, fun _ => .inl ho'.2.2.2⟩
      · rw [ho'.1]
        exact congrArg (· + 1) hbalanced
      · rw [ho'.1, ho'.2.1, if_pos rfl, ← hinit]
        rfl
      · rw [ho'.2.2.1, ho'.2.1, hinit]
  | left k ok c hactive hc hkept => exact h.left hc
  | leftDropped k ok c hactive hc hdropped =>
      exact Cancel.left (s := s.drop k) ⟨h.balanced, h.off, h.site⟩ hc
  | stuck c hc hlease =>
      have hbalanced := h.balanced_some hc
      exact .of_some rfl hbalanced ((h.site c hc).congr rfl rfl rfl id)
  | finishing c hc hidle content =>
      have hbalanced := h.balanced_some hc
      exact .of_some rfl hbalanced ((h.site c hc).congr rfl rfl rfl fun _ => .inl rfl)
  | released c hc hfinishing =>
      exact ⟨h.balanced_some hc, fun _ => (h.site c hc).restore,
        fun c' hc' => absurd hc'.symm (Option.some_ne_none c')⟩
  | retried c hc hfinishing =>
      have hbalanced := h.balanced_some hc
      exact .of_some rfl hbalanced ⟨(h.site c hc).restore,
        fun hheld => absurd hheld Bool.false_ne_true, fun hheld => absurd hheld Bool.false_ne_true⟩

end Cancellation

/-! ### Frames that were held -/

/-- A frame that was held and dropped by a finish that had ended its lease, and by nothing else. -/
def Dropped (drops : List (ℕ × Option ℕ)) (k lease : ℕ) : Prop :=
  drops.filter (fun d => d.1 = k) = [(k, some lease)]

/-- Nothing has dropped the frame. -/
def NotDropped (drops : List (ℕ × Option ℕ)) (k : ℕ) : Prop := ∀ d ∈ drops, d.1 ≠ k

/-- A frame that was held is held still, or was dropped once. -/
structure Drops (s : Element) : Prop where
  drops_lt : ∀ d ∈ s.drops, d.1 < s.callbacks
  helds_lt : ∀ k l, (k, l) ∈ s.helds → k < s.callbacks
  active : ∀ k ok, s.active = some (k, ok) → k < s.callbacks ∧ NotDropped s.drops k ∧
    ∀ l, (k, l) ∈ s.helds → ∃ c, s.callsite = some c ∧ c.heldFrame = some k
  current : ∀ c k, s.callsite = some c → c.heldFrame = some k →
    (k, c.lease) ∈ s.helds ∧ NotDropped s.drops k
  helds : ∀ k l, (k, l) ∈ s.helds →
    (∃ c, s.callsite = some c ∧ c.heldFrame = some k ∧ c.lease = l ∧ NotDropped s.drops k) ∨
      Dropped s.drops k l

section Held

variable {s s' : Element} {c : Callsite} {drops more : List (ℕ × Option ℕ)} {k l : ℕ}

lemma NotDropped.append (h : NotDropped drops k) (hmore : NotDropped more k) :
    NotDropped (drops ++ more) k := by
  intro d hd
  rcases List.mem_append.mp hd with hd | hd
  · exact h d hd
  · exact hmore d hd

lemma NotDropped.filter_eq_nil (h : NotDropped drops k) : drops.filter (fun d => d.1 = k) = [] := by
  rw [List.filter_eq_nil_iff]
  exact fun d hd => by simpa using h d hd

lemma Dropped.append (h : Dropped drops k l) (hmore : NotDropped more k) :
    Dropped (drops ++ more) k l := by
  rw [Dropped, List.filter_append, hmore.filter_eq_nil, List.append_nil]
  exact h

lemma NotDropped.dropped (h : NotDropped drops k) : Dropped (drops ++ [(k, some l)]) k l := by
  rw [Dropped, List.filter_append, h.filter_eq_nil, List.filter_singleton, decide_eq_true rfl]
  rfl

lemma Dropped.not_notDropped (h : Dropped drops k l) : ¬ NotDropped drops k := by
  intro hnot
  have hmem : (k, some l) ∈ drops.filter (fun d => d.1 = k) := by
    rw [h]
    exact List.mem_singleton_self _
  exact hnot _ (List.mem_of_mem_filter hmem) rfl

/-- While nothing is held, every frame that was held has been dropped. -/
lemma Drops.dropped (h : Drops s) (hmem : (k, l) ∈ s.helds)
    (hnone : ∀ c, s.callsite = some c → c.heldFrame = none) : Dropped s.drops k l := by
  rcases h.helds k l hmem with ⟨c, hc, hheld, -⟩ | hdropped
  · exact absurd (hheld.symm.trans (hnone c hc)) (Option.some_ne_none k)
  · exact hdropped

lemma Control.heldFrame_none (h : Control s) (hc : s.callsite = some c) (hlease : c.lease = 0) :
    ∀ c, s.callsite = some c → c.heldFrame = none := by
  intro c' hc'
  rw [Option.some.inj (hc'.symm.trans hc)]
  exact (h.site c hc).held.mp hlease

/-- A callback enters while nothing is held. -/
lemma Drops.entered (h : Drops s) (hs' : s'.drops = s.drops ∧ s'.helds = s.helds ∧
      s'.callbacks = s.callbacks + 1 ∧ ∃ ok, s'.active = some (s.callbacks, ok))
    (hnone : ∀ c, s.callsite = some c → c.heldFrame = none)
    (hnone' : ∀ c, s'.callsite = some c → c.heldFrame = none) : Drops s' := by
  obtain ⟨hdrops, hhelds, hcallbacks, ok', hactive⟩ := hs'
  refine ⟨?_, ?_, ?_, fun c k hc hk => ?_, ?_⟩
  · rw [hdrops, hcallbacks]
    exact fun d hd => Nat.lt_succ_of_lt (h.drops_lt d hd)
  · rw [hhelds, hcallbacks]
    exact fun k l hmem => Nat.lt_succ_of_lt (h.helds_lt k l hmem)
  · intro k ok hk
    rw [hactive] at hk
    cases hk
    rw [hdrops, hhelds, hcallbacks]
    refine ⟨Nat.lt_succ_self _, fun d hd => Nat.ne_of_lt (h.drops_lt d hd), fun l hmem => ?_⟩
    exact absurd (h.helds_lt _ l hmem) (Nat.lt_irrefl _)
  · exact absurd (hk.symm.trans (hnone' c hc)) (Option.some_ne_none k)
  · rw [hdrops, hhelds]
    exact fun k l hmem => .inr (h.dropped hmem hnone)

/-- A step that drops frames which were never held, and puts no callback on the stack. -/
lemma Drops.congr {m : List ℕ} (h : Drops s)
    (hdrops : s'.drops = s.drops ++ m.map fun k => (k, none)) (hhelds : s'.helds = s.helds)
    (hcallbacks : s.callbacks ≤ s'.callbacks) (hactive : s'.active = none ∨ s'.active = s.active)
    (hm : ∀ k ∈ m, k < s'.callbacks ∧ (∀ l, (k, l) ∉ s.helds) ∧
      ∀ ok, s'.active ≠ some (k, ok))
    (hsite : (∀ c, s.callsite = some c → ∃ c', s'.callsite = some c' ∧ c'.heldFrame = c.heldFrame ∧
        c'.lease = c.lease) ∧
      ∀ c', s'.callsite = some c' → c'.heldFrame = none ∨ ∃ c, s.callsite = some c ∧
        c'.heldFrame = c.heldFrame ∧ c'.lease = c.lease) : Drops s' := by
  have hmore : ∀ k l, (k, l) ∈ s.helds → NotDropped (m.map fun k => (k, none)) k := by
    rintro k l hmem d hd rfl
    obtain ⟨k', hk', rfl⟩ := List.mem_map.mp hd
    exact (hm k' hk').2.1 l hmem
  refine ⟨?_, ?_, ?_, fun c' k hc' hk => ?_, ?_⟩
  · rw [hdrops]
    intro d hd
    rcases List.mem_append.mp hd with hd | hd
    · exact Nat.lt_of_lt_of_le (h.drops_lt d hd) hcallbacks
    · obtain ⟨k, hk, rfl⟩ := List.mem_map.mp hd
      exact (hm k hk).1
  · rw [hhelds]
    exact fun k l hmem => Nat.lt_of_lt_of_le (h.helds_lt k l hmem) hcallbacks
  · intro k ok hk
    rcases hactive with hnone | hsame
    · exact absurd (hk.symm.trans hnone) (Option.some_ne_none _)
    · obtain ⟨hlt, hnot, hheld⟩ := h.active k ok (hsame ▸ hk)
      rw [hdrops, hhelds]
      refine ⟨Nat.lt_of_lt_of_le hlt hcallbacks, hnot.append ?_, fun l hmem => ?_⟩
      · rintro d hd rfl
        obtain ⟨k', hk', rfl⟩ := List.mem_map.mp hd
        exact (hm k' hk').2.2 ok hk
      · obtain ⟨c, hc, hck⟩ := hheld l hmem
        obtain ⟨c', hc', hck', -⟩ := hsite.1 c hc
        exact ⟨c', hc', hck'.trans hck⟩
  · rcases hsite.2 c' hc' with hnone | ⟨c, hc, hheld, hlease⟩
    · exact absurd (hk.symm.trans hnone) (Option.some_ne_none k)
    · obtain ⟨hmem, hnot⟩ := h.current c k hc (hheld.symm.trans hk)
      rw [hdrops, hhelds, hlease]
      exact ⟨hmem, hnot.append (hmore k _ hmem)⟩
  · rw [hdrops, hhelds]
    intro k l hmem
    rcases h.helds k l hmem with ⟨c, hc, hck, hcl, hnot⟩ | hdropped
    · obtain ⟨c', hc', hck', hcl'⟩ := hsite.1 c hc
      exact .inl ⟨c', hc', hck'.trans hck, hcl'.trans hcl, hnot.append (hmore k l hmem)⟩
    · exact .inr (hdropped.append (hmore k l hmem))

/-- The call site keeps what it holds. -/
lemma site_of_some {c' : Callsite} (hc : s.callsite = some c) (hc' : s'.callsite = some c')
    (hheld : c'.heldFrame = c.heldFrame) (hlease : c'.lease = c.lease) :
    (∀ c, s.callsite = some c → ∃ c', s'.callsite = some c' ∧ c'.heldFrame = c.heldFrame ∧
        c'.lease = c.lease) ∧
      ∀ c', s'.callsite = some c' → c'.heldFrame = none ∨ ∃ c, s.callsite = some c ∧
        c'.heldFrame = c.heldFrame ∧ c'.lease = c.lease := by
  refine ⟨fun d hd => ⟨c', hc', ?_⟩, fun d hd => .inr ⟨c, hc, ?_⟩⟩
  · rw [Option.some.inj (hd.symm.trans hc)]
    exact ⟨hheld, hlease⟩
  · rw [Option.some.inj (hd.symm.trans hc')]
    exact ⟨hheld, hlease⟩

/-- A finish that has ended the lease drops the frame that was held. -/
lemma Drops.finishing {content : Content} (h : Drops s) (hctrl : Control s)
    (hc : s.callsite = some c) (hidle : c.inCallback = false) :
    Drops { s.dropHeld c with
      callsite := some { c with
        lease := 0, heldFrame := none, heldPicture := none, inCallback := true }
      content := content, lease := none, finishing := true } := by
  have hactive := ((hctrl.site c hc).not_finishing hidle).1
  have hother : ∀ c', s.callsite = some c' → c' = c := fun c' hc' =>
    Option.some.inj (hc'.symm.trans hc)
  rcases hheld : c.heldFrame with _ | k
  · have hdrops : (s.dropHeld c).drops = s.drops := by simp [hheld]
    refine ⟨?_, h.helds_lt, ?_, ?_, ?_⟩
    · rw [hdrops]
      exact h.drops_lt
    · exact fun k ok hk => absurd (hk.symm.trans hactive) (Option.some_ne_none _)
    · rintro c' k ⟨⟩ hk
      exact absurd hk.symm (Option.some_ne_none k)
    · intro k l hmem
      rw [hdrops]
      refine .inr (h.dropped hmem fun c' hc' => ?_)
      rw [hother c' hc']
      exact hheld
  · have hdrops : (s.dropHeld c).drops = s.drops ++ [(k, some c.lease)] := by simp [hheld]
    obtain ⟨hmem, hnot⟩ := h.current c k hc hheld
    refine ⟨?_, h.helds_lt, ?_, ?_, ?_⟩
    · rw [hdrops]
      intro d hd
      rcases List.mem_append.mp hd with hd | hd
      · exact h.drops_lt d hd
      · rw [List.mem_singleton.mp hd]
        exact h.helds_lt k _ hmem
    · exact fun k ok hk => absurd (hk.symm.trans hactive) (Option.some_ne_none _)
    · rintro c' k ⟨⟩ hk
      exact absurd hk.symm (Option.some_ne_none k)
    · intro k' l hmem'
      rw [hdrops]
      rcases h.helds k' l hmem' with ⟨c', hc', hck, hcl, hnot'⟩ | hdropped
      · rw [hother c' hc'] at hck hcl
        obtain rfl : k = k' := Option.some.inj (hheld.symm.trans hck)
        rw [hcl]
        exact .inr hnot'.dropped
      · refine .inr (hdropped.append fun d hd => ?_)
        rw [List.mem_singleton.mp hd]
        rintro rfl
        exact hdropped.not_notDropped hnot

lemma record_helds_of_lease {e : OutputEnv} {o : Observation} (h : o.callsite.lease = 0) :
    (s.record e o).helds = s.helds := by
  rw [Element.record_helds, if_pos h, List.append_nil]

/-- An observation whose lease could not be ended holds its frame. -/
lemma Drops.held {e : OutputEnv} {o : Observation} (h : Drops s)
    (hnone : ∀ c, s.callsite = some c → c.heldFrame = none) (hlease : o.callsite.lease ≠ 0)
    (hheld : o.callsite.heldFrame = some s.callbacks) : Drops (s.record e o) := by
  have hhelds : (s.record e o).helds = s.helds ++ [(s.callbacks, o.callsite.lease)] := by
    rw [Element.record_helds, if_neg hlease]
  have hfresh : NotDropped s.drops s.callbacks := fun d hd => Nat.ne_of_lt (h.drops_lt d hd)
  have hmem : ∀ k l, (k, l) ∈ (s.record e o).helds ↔
      (k, l) ∈ s.helds ∨ (k = s.callbacks ∧ l = o.callsite.lease) := by
    intro k l
    rw [hhelds, List.mem_append, List.mem_singleton, Prod.mk.injEq]
  refine ⟨fun d hd => Nat.lt_succ_of_lt (h.drops_lt d hd), fun k l hkl => ?_, ?_, ?_,
    fun k l hkl => ?_⟩
  · rcases (hmem k l).mp hkl with hkl | ⟨rfl, -⟩
    · exact Nat.lt_succ_of_lt (h.helds_lt k l hkl)
    · exact Nat.lt_succ_self _
  · rintro k ok ⟨⟩
    exact ⟨Nat.lt_succ_self _, hfresh, fun l _ => ⟨o.callsite, rfl, hheld⟩⟩
  · rintro c k ⟨⟩ hk
    obtain rfl : s.callbacks = k := Option.some.inj (hheld.symm.trans hk)
    exact ⟨(hmem _ _).mpr (.inr ⟨rfl, rfl⟩), hfresh⟩
  · rcases (hmem k l).mp hkl with hkl | ⟨rfl, rfl⟩
    · exact .inr (h.dropped hkl hnone)
    · exact .inl ⟨o.callsite, rfl, hheld, rfl, hfresh⟩

lemma Drops.step (h : Drops s) (hctrl : Control s) (hmove : Move s s') : Drops s' := by
  cases hmove with
  | stay => exact h
  | armed copy frames thread hnone hframes =>
      refine h.congr (m := []) (List.append_nil _).symm rfl (Nat.le_refl _) (.inr rfl) (by simp)
        ⟨fun c hc => ?_, ?_⟩
      · exact absurd (hc.symm.trans hnone) (Option.some_ne_none c)
      · rintro c' ⟨⟩
        exact .inl rfl
  | passed hnone =>
      exact h.congr (m := []) (List.append_nil _).symm rfl (Nat.le_succ _) (.inr rfl) (by simp)
        ⟨fun c hc => ⟨c, hc, rfl, rfl⟩, fun c hc => .inr ⟨c, hc, rfl, rfl⟩⟩
  | refused =>
      refine h.congr (m := [s.callbacks]) rfl rfl (Nat.le_succ _) (.inr rfl) ?_
        ⟨fun c hc => ⟨c, hc, rfl, rfl⟩, fun c hc => .inr ⟨c, hc, rfl, rfl⟩⟩
      intro k hk
      rw [List.mem_singleton.mp hk]
      refine ⟨Nat.lt_succ_self _, fun l hmem => ?_, fun ok hactive => ?_⟩
      · exact absurd (h.helds_lt _ l hmem) (Nat.lt_irrefl _)
      · exact absurd (h.active _ ok hactive).1 (Nat.lt_irrefl _)
  | entered c hc hidle hlease ok =>
      have hnone := hctrl.heldFrame_none hc hlease
      refine h.entered ⟨rfl, rfl, rfl, ok, rfl⟩ hnone ?_
      rintro c' ⟨⟩
      exact hnone c hc
  | rejected c hc hidle hlease f hf =>
      have hnone := hctrl.heldFrame_none hc hlease
      refine h.entered ⟨rfl, rfl, rfl, false, rfl⟩ hnone ?_
      rintro c' ⟨⟩
      exact hnone c hc
  | observed c hc hidle hlease hfailed e howner selected hplan o ho =>
      have hnone := hctrl.heldFrame_none hc hlease
      cases ho with
      | failed pool a fs content hfs =>
          refine h.entered ⟨rfl, ?_, rfl, false, rfl⟩ hnone ?_
          · exact record_helds_of_lease hlease
          · rintro c' ⟨⟩
            exact hnone c hc
      | held pool a fs content r hfs => exact h.held hnone r.lease_ne rfl
      | collected pool content =>
          refine h.entered ⟨rfl, ?_, rfl, true, rfl⟩ hnone ?_
          · exact record_helds_of_lease hlease
          · rintro c' ⟨⟩
            exact hnone c hc
  | left k ok c hactive hc hkept =>
      exact h.congr (m := []) (List.append_nil _).symm rfl (Nat.le_refl _) (.inl rfl) (by simp)
        (site_of_some hc rfl rfl rfl)
  | leftDropped k ok c hactive hc hdropped =>
      refine h.congr (m := [k]) rfl rfl (Nat.le_refl _) (.inl rfl) ?_
        (site_of_some hc rfl rfl rfl)
      intro j hj
      rw [List.mem_singleton.mp hj]
      obtain ⟨hlt, -, hheld⟩ := h.active k ok hactive
      refine ⟨hlt, fun l hmem => ?_, fun ok hk => absurd hk.symm (Option.some_ne_none _)⟩
      obtain ⟨c', hc', hck⟩ := hheld l hmem
      rw [Option.some.inj (hc'.symm.trans hc)] at hck
      exact hdropped ((hctrl.site c hc).own k ok k hactive hck).2 hck
  | stuck c hc hlease =>
      exact h.congr (m := []) (List.append_nil _).symm rfl (Nat.le_refl _) (.inr rfl) (by simp)
        (site_of_some hc rfl rfl rfl)
  | finishing c hc hidle content => exact h.finishing hctrl hc hidle
  | released c hc hfinishing =>
      have hnone := hctrl.heldFrame_none hc ((hctrl.site c hc).finishing hfinishing).2
      refine ⟨h.drops_lt, h.helds_lt, ?_, ?_, fun k l hmem => .inr (h.dropped hmem hnone)⟩
      · intro k ok hk
        exact absurd (hk.symm.trans ((hctrl.site c hc).finishing hfinishing).1) (Option.some_ne_none _)
      · exact fun c' k hc' => absurd hc'.symm (Option.some_ne_none c')
  | retried c hc hfinishing =>
      exact h.congr (m := []) (List.append_nil _).symm rfl (Nat.le_refl _) (.inr rfl) (by simp)
        (site_of_some hc rfl rfl rfl)

end Held

/-! ### Runs -/

/-- The invariant of the element. -/
structure Inv (init : ℕ → Bool) (s : Element) : Prop where
  control : Control s
  collects : Collects s
  cancel : Cancel init s
  drops : Drops s

section Runs

variable {init : ℕ → Bool} {s : Element} {c : Callsite} {calls : List Call} {call : Call}

lemma inv_start : Inv init (start init) := by
  refine ⟨⟨fun _ => ⟨rfl, rfl, rfl⟩, ?_⟩, ?_, ⟨rfl, fun _ => rfl, ?_⟩, ⟨?_, ?_, ?_, ?_, ?_⟩⟩
  all_goals simp [start, Collects]

lemma Inv.step (h : Inv init s) : Inv init (step s call) :=
  ⟨h.control.step step_move, h.collects.step h.control step_move, h.cancel.step step_move,
    h.drops.step h.control step_move⟩

lemma Inv.run (h : Inv init s) : Inv init (run s calls) := by
  induction calls generalizing s with
  | nil => exact h
  | cons call calls ih => exact ih h.step

/-- A call site after a step was just armed, or was there before with no more failures. -/
lemma Move.callsite {s s' : Element} (h : Move s s') : s.arms ≤ s'.arms ∧
    ∀ c', s'.callsite = some c' → (c'.serial = s.arms ∧ s'.arms = s.arms + 1) ∨
      ∃ c, s.callsite = some c ∧ c'.serial = c.serial ∧ c.failures ⊆ c'.failures := by
  have hsub : ∀ (c : Callsite) (fs : List Failure), c.failures ⊆ c.failures ++ fs := fun c fs _ hf =>
    List.mem_append_left fs hf
  cases h with
  | stay => exact ⟨Nat.le_refl _, fun c hc => .inr ⟨c, hc, rfl, fun _ hf => hf⟩⟩
  | armed copy frames thread hnone hframes =>
      refine ⟨Nat.le_succ _, ?_⟩
      rintro c' ⟨⟩
      exact .inl ⟨rfl, rfl⟩
  | passed => exact ⟨Nat.le_refl _, fun c hc => .inr ⟨c, hc, rfl, fun _ hf => hf⟩⟩
  | refused => exact ⟨Nat.le_refl _, fun c hc => .inr ⟨c, hc, rfl, fun _ hf => hf⟩⟩
  | entered d hd =>
      refine ⟨Nat.le_refl _, ?_⟩
      rintro c' ⟨⟩
      exact .inr ⟨d, hd, rfl, fun _ hf => hf⟩
  | rejected d hd =>
      refine ⟨Nat.le_refl _, ?_⟩
      rintro c' ⟨⟩
      exact .inr ⟨d, hd, rfl, hsub d _⟩
  | observed d hd hidle hlease hfailed e howner selected hplan o ho =>
      refine ⟨Nat.le_refl _, ?_⟩
      rintro c' ⟨⟩
      cases ho with
      | failed => exact .inr ⟨d, hd, rfl, hsub d _⟩
      | held => exact .inr ⟨d, hd, rfl, hsub d _⟩
      | collected => exact .inr ⟨d, hd, rfl, fun _ hf => hf⟩
  | left k ok d hactive hd =>
      refine ⟨Nat.le_refl _, ?_⟩
      rintro c' ⟨⟩
      exact .inr ⟨d, hd, rfl, fun _ hf => hf⟩
  | leftDropped k ok d hactive hd =>
      refine ⟨Nat.le_refl _, ?_⟩
      rintro c' ⟨⟩
      exact .inr ⟨d, hd, rfl, fun _ hf => hf⟩
  | stuck d hd =>
      refine ⟨Nat.le_refl _, ?_⟩
      rintro c' ⟨⟩
      exact .inr ⟨d, hd, rfl, hsub d _⟩
  | finishing d hd =>
      refine ⟨Nat.le_refl _, ?_⟩
      rintro c' ⟨⟩
      exact .inr ⟨d, hd, rfl, fun _ hf => hf⟩
  | released d hd => exact ⟨Nat.le_refl _, fun c hc => absurd hc.symm (Option.some_ne_none c)⟩
  | retried d hd =>
      refine ⟨Nat.le_refl _, ?_⟩
      rintro c' ⟨⟩
      exact .inr ⟨d, hd, rfl, hsub d _⟩

/-- What has become of a call site: it was armed before, and its failures stay. -/
structure Later (c : Callsite) (s : Element) : Prop where
  serial_lt : c.serial < s.arms
  failures : ∀ c', s.callsite = some c' → c'.serial = c.serial → c.failures ⊆ c'.failures

lemma Later.run (h : Later c s) : Later c (run s calls) := by
  induction calls generalizing s with
  | nil => exact h
  | cons call calls ih =>
      obtain ⟨harms, hsite⟩ := (step_move (s := s) (c := call)).callsite
      refine ih ⟨Nat.lt_of_lt_of_le h.serial_lt harms, fun c' hc' heq => ?_⟩
      rcases hsite c' hc' with ⟨hnew, -⟩ | ⟨d, hd, hserial, hfailures⟩
      · exact absurd (heq.symm.trans hnew) (Nat.ne_of_lt h.serial_lt)
      · exact fun f hf => hfailures (h.failures d hd (hserial.symm.trans heq) hf)

lemma serial_lt_run (hs : ∀ c, s.callsite = some c → c.serial < s.arms) :
    ∀ c, (run s calls).callsite = some c → c.serial < (run s calls).arms := by
  induction calls generalizing s with
  | nil => exact hs
  | cons call calls ih =>
      obtain ⟨harms, hsite⟩ := (step_move (s := s) (c := call)).callsite
      refine ih fun c' hc' => ?_
      rcases hsite c' hc' with ⟨hnew, hsucc⟩ | ⟨d, hd, hserial, -⟩
      · rw [hnew, hsucc]
        exact Nat.lt_succ_self _
      · rw [hserial]
        exact Nat.lt_of_lt_of_le (hs d hd) harms

/-- Cancellation is restored only while no lease is held. -/
lemma Move.restored {s s' : Element} (h : Move s s') (hctrl : Control s) :
    s'.restored = s.restored ∨
      (s'.restored = s.restored + 1 ∧ s.lease = none ∧ s'.lease = none) := by
  have hleft : ∀ {c : Callsite} {s : Element}, Control s → s.callsite = some c →
      (contentCallbackLeave c s).restored = s.restored ∨
        ((contentCallbackLeave c s).restored = s.restored + 1 ∧ s.lease = none) := by
    intro c s hctrl hc
    by_cases hlease : c.lease = 0
    · rcases hheld : c.cancelHeld with _ | _
      · exact .inl (by simp [hheld])
      · exact .inr ⟨by simp [hlease, hheld], (hctrl.site c hc).lease_eq.trans (if_pos hlease)⟩
    · exact .inl (by simp [hlease])
  have hrest : ∀ {c : Callsite}, s.callsite = some c → s.finishing = true →
      (s.restore c c.cancelHeld).restored = s.restored ∨
        ((s.restore c c.cancelHeld).restored = s.restored + 1 ∧ s.lease = none) := by
    intro c hc hfinishing
    rcases hheld : c.cancelHeld with _ | _
    · exact .inl rfl
    · have hsite := hctrl.site c hc
      exact .inr ⟨rfl, hsite.lease_eq.trans (if_pos (hsite.finishing hfinishing).2)⟩
  cases h with
  | stay => exact .inl rfl
  | armed => exact .inl rfl
  | passed => exact .inl rfl
  | refused => exact .inl rfl
  | entered => exact .inl rfl
  | rejected => exact .inl rfl
  | observed => exact .inl rfl
  | left k ok c hactive hc =>
      exact (hleft hctrl hc).imp id fun h => ⟨h.1, h.2, h.2⟩
  | leftDropped k ok c hactive hc =>
      exact (hleft (s := s.drop k) ⟨hctrl.off, hctrl.site⟩ hc).imp id fun h => ⟨h.1, h.2, h.2⟩
  | stuck => exact .inl rfl
  | finishing => exact .inl rfl
  | released c hc hfinishing => exact (hrest hc hfinishing).imp id fun h => ⟨h.1, h.2, h.2⟩
  | retried c hc hfinishing => exact (hrest hc hfinishing).imp id fun h => ⟨h.1, h.2, h.2⟩

/-- The call site is released only while no lease is held. -/
lemma Move.released_lease {s s' : Element} (h : Move s s') (hctrl : Control s)
    (hs : s.callsite ≠ none) (hs' : s'.callsite = none) : s.lease = none := by
  cases h with
  | stay => exact absurd hs' hs
  | armed => exact absurd hs' (Option.some_ne_none _)
  | passed => exact absurd hs' hs
  | refused => exact absurd hs' hs
  | entered => exact absurd hs' (Option.some_ne_none _)
  | rejected => exact absurd hs' (Option.some_ne_none _)
  | observed => exact absurd hs' (Option.some_ne_none _)
  | left => exact absurd hs' (Option.some_ne_none _)
  | leftDropped => exact absurd hs' (Option.some_ne_none _)
  | stuck => exact absurd hs' (Option.some_ne_none _)
  | finishing => exact absurd hs' (Option.some_ne_none _)
  | released c hc hfinishing =>
      have hsite := hctrl.site c hc
      exact hsite.lease_eq.trans (if_pos (hsite.finishing hfinishing).2)
  | retried => exact absurd hs' (Option.some_ne_none _)

/-- What a result stands for. -/
structure Complete (c : Callsite) (pool : Pool) : Prop where
  pool_eq : pool = c.pool
  attempts : c.attempts.length = c.count ∧ ∀ a ∈ c.attempts, a.Succeeded
  once : c.scheduled = true → ∀ f ∈ c.frames, (c.attempts.map Attempt.frame).count f = 1
  used : pool.used = c.count
  valid : ∀ k < pool.used, (pool.slot k).valid = true
  failures : ∀ f ∈ c.failures, f = .close

lemma complete_of_result {thread : ℕ} {pool : Pool} (h : Inv init s) (hr : result thread s = some pool) :
    ∃ c, s.callsite = some c ∧ Complete c pool := by
  rw [result] at hr
  rcases hc : s.callsite with _ | c <;> rw [hc] at hr
  · exact absurd hr.symm (Option.some_ne_none pool)
  · dsimp only at hr
    split_ifs at hr with hall
    cases hr
    obtain ⟨-, -, hsuccess, hfailed, -, hused, hvalid⟩ := hall
    have hok := h.collects c hc
    have hclean := hok.clean hfailed
    have hlength : c.attempts.length = c.count := hclean.collected.symm.trans (hclean.success.mp hsuccess)
    refine ⟨c, rfl, rfl, ⟨hlength, hclean.attempts⟩, fun hscheduled f hf => ?_, hused, ?_,
      hclean.failures⟩
    · obtain ⟨hnodup, hcount⟩ := hok.frames hscheduled
      have hsubset : c.attempts.map Attempt.frame ⊆ c.frames := by
        intro g hg
        obtain ⟨a, ha, rfl⟩ := List.mem_map.mp hg
        exact hclean.subset hscheduled a ha
      -- as many distinct frames as there are selected ones: every one of these is among them
      have hperm : (c.attempts.map Attempt.frame).Perm c.frames := by
        refine (List.subperm_of_subset (hclean.nodup hscheduled) hsubset).perm_of_length_le
          (Nat.le_of_eq ?_)
        rw [List.length_map, hlength, hcount]
      rw [hperm.count_eq]
      exact List.count_eq_one_of_mem hnodup hf
    · intro k hk
      exact List.all_eq_true.mp hvalid k (List.mem_range.mpr hk)

end Runs

/-- **A schedule is observed as a whole or not at all**, in every run of callbacks, finishes and
re-armings.  A result stands for one successful observation of each selected frame and for no failure
but that of closing the session; a frame whose lease could not be ended is held until a finish that
ends it drops it; and a call site is released, and the cancellation of its owner restored, while no
lease is held. -/
theorem scheduled_observation_all_or_nothing (init : ℕ → Bool) (calls : List Call) :
    let s := run (start init) calls
    (∀ thread pool, result thread s = some pool → ∃ c, s.callsite = some c ∧ Complete c pool) ∧
    (∀ c, s.callsite = some c → (∃ f ∈ c.failures, f ≠ .close) → ∀ more c' thread,
      (run s more).callsite = some c' → c'.serial = c.serial → result thread (run s more) = none) ∧
    (∀ k l, (k, l) ∈ s.helds →
      (∃ c, s.callsite = some c ∧ c.heldFrame = some k ∧ c.lease = l ∧ s.lease = some l ∧
        NotDropped s.drops k) ∨ Dropped s.drops k l) ∧
    (∀ call, s.callsite ≠ none → (step s call).callsite = none → s.lease = none) ∧
    s.disabled = s.restored + (s.callsite.elim 0 fun c => c.cancelHeld.toNat) ∧
    (s.lease = none → (∀ c, s.callsite = some c → c.inCallback = false) →
      s.disabled = s.restored ∧ s.cancellable = init) ∧
    ∀ call, (step s call).restored = s.restored ∨
      ((step s call).restored = s.restored + 1 ∧ s.lease = none ∧ (step s call).lease = none) := by
  intro s
  have h : Inv init s := inv_start.run
  have hserial : ∀ c, s.callsite = some c → c.serial < s.arms :=
    serial_lt_run fun c hc => absurd hc.symm (Option.some_ne_none c)
  refine ⟨fun thread pool hr => complete_of_result h hr, ?_, fun k l hmem => ?_, ?_, h.cancel.balanced,
    fun hlease hidle => ?_, fun call => step_move.restored h.control⟩
  · rintro c hc ⟨f, hf, hclose⟩ more c' thread hc' heq
    have hlater : Later c (run s more) :=
      Later.run ⟨hserial c hc, fun d hd _ => Option.some.inj (hc.symm.trans hd) ▸ List.Subset.refl _⟩
    rcases hr : result thread (run s more) with _ | pool
    · rfl
    · obtain ⟨d, hd, hcomplete⟩ := complete_of_result h.run hr
      obtain rfl : c' = d := Option.some.inj (hc'.symm.trans hd)
      exact absurd (hcomplete.failures f (hlater.failures c' hc' heq hf)) hclose
  · rcases h.drops.helds k l hmem with ⟨c, hc, hheld, hcl, hnot⟩ | hdropped
    · have hsite := h.control.site c hc
      have hne : c.lease ≠ 0 := fun h0 =>
        absurd (hheld.symm.trans (hsite.held.mp h0)) (Option.some_ne_none k)
      exact .inl ⟨c, hc, hheld, hcl, hcl ▸ hsite.lease_eq.trans (if_neg hne), hnot⟩
    · exact .inr hdropped
  · exact fun call hs hs' => step_move.released_lease h.control hs hs'
  · rcases hc : s.callsite with _ | c
    · have hbalanced := h.cancel.balanced
      rw [hc] at hbalanced
      exact ⟨hbalanced, h.cancel.off hc⟩
    · have hzero : c.lease = 0 := by
        by_contra hne
        have hsome := (h.control.site c hc).lease_eq.trans (if_neg hne)
        exact absurd (hsome.symm.trans hlease) (Option.some_ne_none _)
      obtain ⟨hheld, hinit⟩ := (h.cancel.site c hc).eq_init (hidle c hc) hzero
      have hbalanced := h.cancel.balanced_some hc
      rw [hheld] at hbalanced
      exact ⟨hbalanced, hinit⟩

/-- A snapshot that finds everything in order. -/
def quietEnv : Env where
  thread := 0
  ready := true
  locked := true
  session := true
  now := 1
  deadline := 100
  contextLocked := true
  identity := some Slot.zero.identity
  proof := some Slot.zero.provenance
  retained := true
  width := 448
  height := 240
  stride := 448
  offset := 0
  length := 345600
  transfer := ⟨1, true, 2, fun _ => 0, 3, true⟩
  identityAfter := some Slot.zero.identity
  proofAfter := some Slot.zero.provenance
  finalNow := 4

/-- The output of frame 5, with every native operation successful. -/
def quietOutput : OutputEnv where
  thread := 0
  frame := 5
  picture := 5
  frameMatches := true
  outputMatches := true
  outputMatchesAgain := true
  selects := true
  begins := some ⟨1, Nat.one_ne_zero, 5⟩
  snapshot := quietEnv
  ends := true

/-- A session that cannot be closed leaves the result of its call site standing. -/
theorem result_after_failed_close :
    let s := run (start fun _ => true) [.armFrames false [5] 0 true, .enter quietOutput, .leave true,
      .finish 0 true, .finishRest false]
    (result 0 s).isSome = true ∧ (s.callsite.map Callsite.failures) = some [.close] := by
  decide +kernel

end OmarchyM1Video.ReferenceContent.Gst
