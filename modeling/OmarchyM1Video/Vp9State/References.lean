import OmarchyM1Video.Vp9State.Invariant

/-!
How references are looked up in a session that satisfies the invariant.

* `Inv.live_indexed`: a queued or registered buffer is found under its own timestamp;
* `Inv.resolveProposed_error`: what the lookup of the proposed path can raise;
* `registration_discipline`: what holds of every registration after every run, and that two
  branches of `_resolve_proposed` are never taken;
* `stock_userspace_refines_kernel`: a reference that the userspace check admits is found by the
  kernel's timestamp lookup under its own name.
-/

namespace OmarchyM1Video.Vp9State

open OmarchyM1Video.Py

namespace Session

variable {s s₀ : Session} {evs : List Event} {e : Exc Raised}

/-! ### Timestamps of live buffers -/

lemma Inv.live_indexed (h : s.Inv) {name : String} {buf : Buffer} (hlive : s.Live name buf) :
    ∃ ts, buf.timestamp = some ts ∧ s.tsIndex.get? (s.captureGeneration, ts) = some name := by
  obtain ⟨hbuf, hq | hreg⟩ := hlive
  · obtain ⟨i, hts, _, hidx⟩ := (h.buf name buf hbuf).slot hq
    exact ⟨_, hts, hidx⟩
  · obtain ⟨reg, hget⟩ := Dict.contains_iff.mp hreg
    obtain ⟨b, hr⟩ := h.reg name reg hget
    obtain rfl : buf = b := Option.some.inj (hbuf.symm.trans hr.hbuf)
    exact ⟨_, hr.timestamp, hr.indexed⟩

/-- Two live buffers with one timestamp are one buffer. -/
lemma Inv.live_timestamp_inj (h : s.Inv) {name₁ name₂ : String} {buf₁ buf₂ : Buffer}
    (h₁ : s.Live name₁ buf₁) (h₂ : s.Live name₂ buf₂) (hts : buf₁.timestamp = buf₂.timestamp) :
    name₁ = name₂ := by
  obtain ⟨ts₁, hts₁, hidx₁⟩ := h.live_indexed h₁
  obtain ⟨ts₂, hts₂, hidx₂⟩ := h.live_indexed h₂
  obtain rfl : ts₁ = ts₂ := Option.some.inj (hts₁.symm.trans (hts.trans hts₂))
  exact Option.some.inj (hidx₁.symm.trans hidx₂)

/-! ### The lookup of the proposed path -/

/-- **What the lookup of a registered reference can raise**: neither a missing era nor a foreign
depth, and none of the two rejections of a registration. -/
lemma Inv.resolveProposed_error (h : s.Inv) {refName : String}
    (herr : s.resolveProposed refName = .error e) :
    ∃ code message invariant, e = reject code message invariant ∧
      code ∈ [RejectCode.orphanedRetainedBuffer, .shortBacking, .unavailableReference] := by
  rw [resolveProposed, Except.bind_error] at herr
  rcases herr with herr | ⟨buf, hbuf, herr⟩
  · exact ⟨_, _, _, (found_error.mp herr).2.symm, by decide⟩
  rw [found_ok] at hbuf
  obtain ⟨⟨era, hera⟩, hdepth, -⟩ := h.buf refName buf hbuf
  simp only [hera, hdepth, Except.bind_error, need_error, need_ok, found_error, found_ok,
    not_true_eq_false, false_and, false_or, reduceCtorEq, true_and, Option.some.injEq,
    exists_eq_left', exists_const] at herr
  rcases herr with ⟨_, rfl⟩ | ⟨_, herr⟩
  · exact ⟨_, _, _, rfl, by decide⟩
  cases hreg : s.registrations.get? refName with
  | some reg =>
      obtain ⟨b, hr⟩ := h.reg refName reg hreg
      obtain rfl : buf = b := Option.some.inj (hbuf.symm.trans hr.hbuf)
      simp [hreg, hr.unqueued, hr.generation] at herr
  | none =>
      rw [hreg] at herr
      simp only at herr
      split at herr
      · simp at herr
      · simp only [Except.bind_error, need_error, Except.throw_error] at herr
        rcases herr with ⟨_, rfl⟩ | ⟨_, _, rfl⟩
        · exact ⟨_, _, _, rfl, by decide⟩
        · exact ⟨_, _, _, rfl, by decide⟩

/-! ### What every run guarantees -/

/-- **The registrations of a session after every run**: a registered buffer is exported, decoded
and off the destination queue, its registration is of this generation and of its own era; a live
buffer is found under its own timestamp, which no other live buffer has; so the lookup never finds
a stale registration, nor a registered buffer on the destination queue. -/
theorem registration_discipline (h₀ : s₀.IsNew) (hrun : each apply evs s₀ = .ok () s) :
    (∀ name reg, s.registrations.get? name = some reg → ∃ buf, s.buffers.get? name = some buf ∧
      buf.queuedAsDst = false ∧ reg.generation = s.captureGeneration ∧ buf.exported = true ∧
      buf.decodedOk = true ∧ reg.eraId = buf.eraId) ∧
    (∀ name buf, s.Live name buf → ∃ ts, buf.timestamp = some ts ∧
      s.tsIndex.get? (s.captureGeneration, ts) = some name) ∧
    (∀ name₁ name₂ buf₁ buf₂, s.Live name₁ buf₁ → s.Live name₂ buf₂ → name₁ ≠ name₂ →
      buf₁.timestamp ≠ buf₂.timestamp) ∧
    ∀ refName, s.resolveProposed refName ≠ .error staleRegistration ∧
      s.resolveProposed refName ≠ .error registeredQueued := by
  have h := inv_of_run h₀ hrun
  refine ⟨?_, fun name buf => h.live_indexed,
    fun _ _ _ _ h₁ h₂ hne hts => hne (h.live_timestamp_inj h₁ h₂ hts), ?_⟩
  · intro name reg hreg
    obtain ⟨buf, hr⟩ := h.reg name reg hreg
    exact ⟨buf, hr.hbuf, hr.unqueued, hr.generation, hr.exported, hr.decoded, hr.era⟩
  · intro refName
    constructor <;> intro herr <;>
      obtain ⟨code, message, invariant, heq, hcode⟩ := h.resolveProposed_error herr <;>
      obtain ⟨rfl, -, -⟩ : _ ∧ _ ∧ _ := by
        simpa [staleRegistration, registeredQueued, reject] using heq
    · simp at hcode
    · simp at hcode

/-- A new 8-bit session of a path. -/
def ofPath (path : Path) : Session := { path, sessionId := "s", profile := 0, bitDepth := 8 }

lemma isNew_ofPath (path : Path) : (ofPath path).IsNew := by
  cases path with
  | stock => exact ⟨"stock", "s", 0, 8, rfl⟩
  | proposed => exact ⟨"proposed", "s", 0, 8, rfl⟩

/-- Both queues streaming at `64x64`, with the given number of CAPTURE slots. -/
def opening (count : ℕ) : List Event :=
  [.outputSFmt 64 64, .captureSFmt 64 64 none, .captureReqbufs count, .outputStreamon,
    .captureStreamon]

/-- A `64x64` key frame into a buffer. -/
def keyFrame (dst : String) : Event :=
  .decode { dst, width := 64, height := 64, key := some true }

/-- A `64x64` frame into a buffer that refers to another. -/
def interFrame (dst refName : String) : Event :=
  .decode { dst, width := 64, height := 64, refs := some [refName] }

/-- The CAPTURE queue is replaced while OUTPUT keeps streaming. -/
def replaceQueue (count : ℕ) : List Event :=
  [.captureStreamoff, .captureReqbufs 0, .captureReqbufs count]

/-- A buffer is decoded and exported, and registered in the next generation. -/
def registerRun : List Event :=
  opening 2 ++ [keyFrame "A", .export "A" none] ++ replaceQueue 2 ++
    [.register "A" none (some 1), .captureStreamon, interFrame "B" "A"]

lemma registerRun_ok :
    each apply registerRun (ofPath .proposed) = .ok () (endState registerRun (ofPath .proposed)) :=
  run_of_accepts (by decide +kernel)

/-- The registered buffer of a concrete run. -/
theorem registerRun_registered :
    ∃ buf, (endState registerRun (ofPath .proposed)).buffers.get? "A" = some buf ∧
      buf.queuedAsDst = false ∧ buf.decodedOk = true := by
  obtain ⟨hreg, -⟩ := registration_discipline (isNew_ofPath .proposed) registerRun_ok
  obtain ⟨buf, hbuf, hunq, -, -, hdec, -⟩ := hreg "A" ⟨1, regTsBase, 0, some 1⟩ (by decide +kernel)
  exact ⟨buf, hbuf, hunq, hdec⟩

/-- **The userspace check refines the kernel's lookup**: a reference it admits is found by the
kernel in the current generation under its own timestamp and its own name, so neither the
destination fallback nor an alias is hit. -/
theorem stock_userspace_refines_kernel (h₀ : s₀.IsNew) (hrun : each apply evs s₀ = .ok () s)
    {refName : String} (hres : s.resolveStockUserspace refName = .ok ()) :
    (∃ buf ts, s.buffers.get? refName = some buf ∧ buf.timestamp = some ts ∧
      s.tsIndex.get? (s.captureGeneration, ts) = some refName) ∧
    s.kernelLookup refName = some refName ∧ s.resolveStockKernel refName = .ok () := by
  have h := inv_of_run h₀ hrun
  rw [resolveStockUserspace, need_ok] at hres
  cases hbuf : s.buffers.get? refName with
  | none => simp [hbuf] at hres
  | some buf =>
      simp only [hbuf, Bool.and_eq_true] at hres
      have hqueued : buf.queuedAsDst = true := (h.buf refName buf hbuf).wrapper ▸ hres.1.1
      obtain ⟨ts, hts, hidx⟩ := h.live_indexed ⟨hbuf, Or.inl hqueued⟩
      have hlookup : s.kernelLookup refName = some refName := by
        simp [kernelLookup, hbuf, hts, hidx]
      exact ⟨⟨buf, ts, rfl, hts, hidx⟩, hlookup, by simp [resolveStockKernel, hlookup]⟩

/-- One key frame. -/
def keyRun : List Event := opening 1 ++ [keyFrame "A"]

lemma keyRun_ok (path : Path) :
    each apply keyRun (ofPath path) = .ok () (endState keyRun (ofPath path)) :=
  run_of_accepts (by cases path <;> decide +kernel)

/-- The key frame of a stock run is a reference that the kernel finds. -/
theorem keyRun_found : (endState keyRun (ofPath .stock)).resolveStockKernel "A" = .ok () :=
  (stock_userspace_refines_kernel (isNew_ofPath .stock) (keyRun_ok .stock)
    (by decide +kernel)).2.2

end Session

end OmarchyM1Video.Vp9State
