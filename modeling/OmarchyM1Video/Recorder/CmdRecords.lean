import Mathlib.Data.List.GetD
import OmarchyM1Video.Recorder.CmdtraceHooks

/-!
What the hooks of the command recorder leave in a capture.

The start of a picture fills its history row and, in the window, its inputs; the hooks after it add
words and marks to the window of the current picture.

* `CmdStartCall.hist`, `CmdStartCall.window`: what the start of a picture leaves;
* `avdCmdtraceStart_eq`: the start of a picture does just this;
* `WindowKept`, `CmdKept`: rows and windows are numbered and belong together;
* `cmd_hooks_keep`: they do so in every clean recording.
-/

namespace OmarchyM1Video.Recorder

open OmarchyM1Video.C

/-! ### The start of a picture -/

/-- The history row of a picture. -/
def CmdStartCall.hist (a : CmdStartCall) (picture : ℕ) : CmdHist :=
  { picture
    poc := a.decode.picOrderCntVal.toUInt32
    type := a.sl.sliceType.toUInt32
    target := a.target
    flags := a.decode.flags.toUInt32
    intra := if a.sl.sliceType = sliceTypeI then 1 else 0 }

/-- The control bytes of a picture, with the padding. -/
def CmdStartCall.controlBytes (a : CmdStartCall) (j : Fin 1392) : UInt8 :=
  (packControls a.controls).getD j 0

/-- The window of a picture that has been started; what was there is kept of its words and of the
mark of the slice. -/
def CmdStartCall.window (a : CmdStartCall) (picture : ℕ) (w : CmdWindow) : CmdWindow :=
  { w with
    picture
    poc := a.decode.picOrderCntVal.toUInt32
    type := a.sl.sliceType.toUInt32
    nwords := 0
    nbytes := cmdControl
    inactive := 0
    sliceSize := 0
    sliceRel := 0
    sliceFlags := 0
    sliceCoded := 0
    decomp := a.ctx.decomp
    revision := a.ctx.revision
    quirks := a.ctx.quirks
    bytesperline := a.ctx.bytesperline
    controls := a.controlBytes }

section Start

variable {c c' : CmdCapture} {context n slot : ℕ}

lemma cmdSlot_of_detail (h : firstDetail ≤ c.pictures ∧ c.pictures ≤ lastDetail) :
    cmdSlot c = some (c.pictures - firstDetail) := cmdSlot_eq_some.mpr ⟨h.1, h.2, rfl⟩

lemma cmdSlot_of_not_detail (h : ¬(firstDetail ≤ c.pictures ∧ c.pictures ≤ lastDetail)) :
    cmdSlot c = none := by
  cases hslot : cmdSlot c with
  | none => rfl
  | some slot =>
      obtain ⟨hfirst, hlast, _⟩ := cmdSlot_eq_some.mp hslot
      exact absurd ⟨hfirst, hlast⟩ h

lemma cmdDetail_iff : cmdDetail c = true ↔ firstDetail ≤ c.pictures ∧ c.pictures ≤ lastDetail := by
  simp [cmdDetail]

/-- Packed bytes and the padding behind them. -/
lemma storeAll_packed (controls : Fin 1392 → UInt8) {packed : List UInt8}
    (h : packed.length = cmdPacked) :
    ((storeAll controls 0 packed).bind fun b =>
      storeAll b packed.length (List.replicate (cmdControl - packed.length) 0)) =
      some fun j : Fin 1392 => packed.getD j 0 := by
  have hlength : packed.length = 1380 := h
  have hfits : 0 + (packed ++ List.replicate (cmdControl - packed.length) (0 : UInt8)).length ≤ 1392 := by
    rw [List.length_append, List.length_replicate, hlength]
    decide
  have happend := storeAll_append controls 0 packed (List.replicate (cmdControl - packed.length) 0)
  obtain ⟨b, hb, hget⟩ := storeAll_of_le (a := controls) hfits
  rw [Nat.zero_add] at happend
  rw [← happend, hb]
  refine congrArg some (funext fun j => ?_)
  have hj : (j : ℕ) < (packed ++ List.replicate (cmdControl - packed.length) (0 : UInt8)).length := by
    rw [List.length_append, List.length_replicate, hlength]
    exact j.isLt
  rw [hget j, if_pos (Nat.zero_le _), Nat.sub_zero, List.getD_eq_getElem _ _ hj]
  by_cases hlt : (j : ℕ) < packed.length
  · rw [List.getElem_append_left hlt, List.getD_eq_getElem _ _ hlt]
  · rw [List.getElem_append_right (Nat.not_lt.mp hlt), List.getElem_replicate,
      List.getD_eq_default _ _ (Nat.not_lt.mp hlt)]

lemma cmdControls_eq (hslot : cmdSlot c = some slot) (hlt : slot < 11) {packed : List UInt8}
    (h : packed.length = cmdPacked) : cmdControls c packed = some { c with
      window := Function.update c.window ⟨slot, hlt⟩ { c.window ⟨slot, hlt⟩ with
        controls := fun j => packed.getD j 0
        nbytes := cmdControl } } := by
  have hpacked := storeAll_packed (c.window ⟨slot, hlt⟩).controls h
  obtain ⟨b, hb, hrest⟩ := Option.bind_eq_some_iff.mp hpacked
  rw [cmdControls, hslot]
  dsimp only
  rw [if_neg (not_not.mpr h)]
  simp only [load_of_lt hlt, Option.bind_eq_bind, Option.bind_some, hb, hrest, store_of_lt hlt]
  rfl

/-- The window of a picture that starts. -/
def freshWindow (picture : ℕ) (w : CmdWindow) : CmdWindow :=
  { w with
    picture
    nbytes := 0
    nwords := 0
    inactive := 0
    sliceSize := 0
    sliceRel := 0
    sliceFlags := 0
    sliceCoded := 0 }

lemma cmdStart_detail {shape : CmdShape} (hsel : c.selected context = true)
    (hn : (c.toCore.start context shape.malformed).pictures = n) (hbound : n ≤ 300)
    (hdetail : firstDetail ≤ n ∧ n ≤ lastDetail) (hlt : n - firstDetail < 11) :
    cmdStart c context shape = some { c with
      toCore := c.toCore.start context shape.malformed
      window := Function.update c.window ⟨n - firstDetail, hlt⟩
        (freshWindow n (c.window ⟨n - firstDetail, hlt⟩)) } := by
  have hslot : cmdSlot { c with toCore := c.toCore.start context shape.malformed } =
      some (n - firstDetail) := by
    rw [← hn] at hdetail ⊢
    exact cmdSlot_of_detail hdetail
  rw [cmdStart, if_pos (show cmdSelected c context = true from hsel)]
  dsimp only
  rw [hslot]
  dsimp only
  rw [cmdUpdate_of_lt hlt, hn, wrap32_of_lt (by omega)]
  rfl

lemma cmdStart_plain {shape : CmdShape} (hsel : c.selected context = true)
    (hn : (c.toCore.start context shape.malformed).pictures = n)
    (hdetail : ¬(firstDetail ≤ n ∧ n ≤ lastDetail)) :
    cmdStart c context shape = some { c with toCore := c.toCore.start context shape.malformed } := by
  have hslot : cmdSlot { c with toCore := c.toCore.start context shape.malformed } = none := by
    rw [← hn] at hdetail
    exact cmdSlot_of_not_detail hdetail
  rw [cmdStart, if_pos (show cmdSelected c context = true from hsel)]
  dsimp only
  rw [hslot]

lemma cmdHistSet_detail (hn : c.pictures = n + 1) (hlt : n < 300) (poc type target flags intra : UInt32)
    (hdetail : firstDetail ≤ n + 1 ∧ n + 1 ≤ lastDetail) (hslot : n + 1 - firstDetail < 11) :
    cmdHistSet c poc type target flags intra = some { c with
      hist := Function.update c.hist ⟨n, hlt⟩ { picture := n + 1, poc, type, target, flags, intra }
      window := Function.update c.window ⟨n + 1 - firstDetail, hslot⟩
        { c.window ⟨n + 1 - firstDetail, hslot⟩ with poc, type } } := by
  have hrange : ¬(c.pictures = 0 ∨ pictureCount < c.pictures) := by
    simp only [hn, pictureCount]
    omega
  have hwrap : wrap32 (n + 1) = n + 1 := wrap32_of_lt (by omega)
  rw [cmdHistSet, if_neg hrange]
  simp only [hn, Nat.add_sub_cancel, store_of_lt hlt, Option.bind_eq_bind, Option.bind_some, hwrap]
  rw [if_pos (cmdDetail_iff.mpr (by rw [hn]; exact hdetail)), cmdUpdate_of_lt hslot]

lemma cmdHistSet_plain (hn : c.pictures = n + 1) (hlt : n < 300) (poc type target flags intra : UInt32)
    (hdetail : ¬(firstDetail ≤ n + 1 ∧ n + 1 ≤ lastDetail)) :
    cmdHistSet c poc type target flags intra = some { c with
      hist := Function.update c.hist ⟨n, hlt⟩
        { picture := n + 1, poc, type, target, flags, intra } } := by
  have hrange : ¬(c.pictures = 0 ∨ pictureCount < c.pictures) := by
    simp only [hn, pictureCount]
    omega
  have hwrap : wrap32 (n + 1) = n + 1 := wrap32_of_lt (by omega)
  rw [cmdHistSet, if_neg hrange]
  simp only [hn, Nat.add_sub_cancel, store_of_lt hlt, Option.bind_eq_bind, Option.bind_some, hwrap]
  rw [if_neg fun h => hdetail (by rw [cmdDetail_iff] at h; rwa [hn] at h)]
  rfl

lemma cmdInputs_detail (hslot : cmdSlot c = some slot) (hlt : slot < 11) (a : CmdStartCall) :
    cmdInputs c a = some { c with
      window := Function.update c.window ⟨slot, hlt⟩ { c.window ⟨slot, hlt⟩ with
        decomp := a.ctx.decomp
        revision := a.ctx.revision
        quirks := a.ctx.quirks
        bytesperline := a.ctx.bytesperline
        controls := a.controlBytes
        nbytes := cmdControl } } := by
  have hlength := length_packControls a.controls
  rw [cmdInputs, hslot]
  simp only [cmdUpdate_of_lt hlt, Option.bind_eq_bind, Option.bind_some, hlength, ne_eq,
    not_true_eq_false, if_false]
  rw [cmdControls_eq ?_ hlt hlength]
  · simp only [Function.update_self, Function.update_idem]
    rfl
  · exact hslot

/-- **What the start of a picture does**: its history row, and the inputs in its window. -/
theorem avdCmdtraceStart_eq (hsel : c.selected context = true) (a : CmdStartCall)
    (hpictures : (c.toCore.start context a.shape.malformed).pictures = n + 1) (hn : n < 300) :
    ∃ c', avdCmdtraceStart c context a = some c' ∧
      c'.toCore = c.toCore.start context a.shape.malformed ∧
      c'.hist = Function.update c.hist ⟨n, hn⟩ (a.hist (n + 1)) ∧
      ((¬(firstDetail ≤ n + 1 ∧ n + 1 ≤ lastDetail) ∧ c'.window = c.window) ∨
        ∃ hlt : n + 1 - firstDetail < 11, (firstDetail ≤ n + 1 ∧ n + 1 ≤ lastDetail) ∧
          c'.window = Function.update c.window ⟨n + 1 - firstDetail, hlt⟩
            (a.window (n + 1) (c.window ⟨n + 1 - firstDetail, hlt⟩))) := by
  rw [avdCmdtraceStart, if_pos (show cmdSelected c context = true from hsel)]
  by_cases hdetail : firstDetail ≤ n + 1 ∧ n + 1 ≤ lastDetail
  · have hlt : n + 1 - firstDetail < 11 := by
      simp only [firstDetail, lastDetail] at hdetail ⊢
      omega
    rw [cmdStart_detail hsel hpictures hn hdetail hlt, Option.bind_eq_bind, Option.bind_some,
      cmdHistSet_detail hpictures hn _ _ _ _ _ hdetail hlt, Option.bind_some,
      cmdInputs_detail (cmdSlot_eq_some.mpr ?_) hlt]
    · refine ⟨_, rfl, rfl, rfl, Or.inr ⟨hlt, hdetail, ?_⟩⟩
      simp only [Function.update_self, Function.update_idem]
      rfl
    · rw [hpictures]
      exact ⟨hdetail.1, hdetail.2, rfl⟩
  · have hslot : ∀ {c₁ : CmdCapture}, c₁.toCore = c.toCore.start context a.shape.malformed →
        cmdInputs c₁ a = some c₁ := by
      intro c₁ hcore
      rw [cmdInputs, cmdSlot_of_not_detail (by rw [hcore, hpictures]; exact hdetail)]
    rw [cmdStart_plain hsel hpictures hdetail, Option.bind_eq_bind, Option.bind_some,
      cmdHistSet_plain hpictures hn _ _ _ _ _ hdetail, Option.bind_some]
    exact ⟨_, hslot rfl, rfl, rfl, Or.inl ⟨hdetail, rfl⟩⟩

end Start

/-! ### Rows and windows -/

/-- A window belongs to the history row of its picture, and its words and its padding are as they
should be. -/
structure WindowKept (h : CmdHist) (slot : ℕ) (w : CmdWindow) : Prop where
  picture : w.picture = firstDetail + slot
  poc : w.poc = h.poc
  type : w.type = h.type
  nbytes : w.nbytes = cmdControl
  nwords : w.nwords ≤ cmdWords
  sites : ∀ j : Fin 1024, j < w.nwords → 1 ≤ (w.sites j).toNat ∧ (w.sites j).toNat ≤ siteHdrStride
  inactive : w.inactive < 0x100000000
  padding : ∀ j : Fin 1392, cmdPacked ≤ j → w.controls j = 0

/-- A history row is numbered, and says whether its picture is an I slice. -/
def HistKept (i : ℕ) (h : CmdHist) : Prop :=
  h.picture = i + 1 ∧ h.intra = if h.type = 2 then 1 else 0

lemma histIndex_lt (s : Fin 11) : firstDetail - 1 + s < 300 := by
  simp only [firstDetail]
  omega

/-- The index of the history row of a window. -/
def histIndex (s : Fin 11) : Fin 300 := ⟨firstDetail - 1 + s, histIndex_lt s⟩

/-- The rows and the windows of the pictures that have been started. -/
structure CmdKept (c : CmdCapture) : Prop where
  bound : c.pictures ≤ pictureCount
  hist : ∀ i : Fin 300, i < c.pictures → HistKept i (c.hist i)
  window : ∀ s : Fin 11, firstDetail + s ≤ c.pictures →
    WindowKept (c.hist (histIndex s)) s (c.window s)

/-- What a function keeps that starts no picture. -/
def Carries (c : CmdCapture) (r : Option CmdCapture) : Prop :=
  ∀ c', r = some c' → c'.hist = c.hist ∧ c'.pictures = c.pictures ∧ (CmdKept c → CmdKept c')

section Carries

variable {c c' : CmdCapture} {r : Option CmdCapture} {slot : ℕ}

lemma CmdKept.of_eq (h : CmdKept c) (hpictures : c'.pictures = c.pictures) (hhist : c'.hist = c.hist)
    (hwindow : c'.window = c.window) : CmdKept c' := by
  refine ⟨hpictures ▸ h.bound, ?_, ?_⟩
  · rw [hhist, hpictures]
    exact h.hist
  · rw [hhist, hwindow, hpictures]
    exact h.window

namespace Carries

lemma pure (hpictures : c'.pictures = c.pictures) (hhist : c'.hist = c.hist)
    (hwindow : c'.window = c.window) : Carries c (some c') := by
  intro d hd
  obtain rfl := Option.some.inj hd
  exact ⟨hhist, hpictures, fun h => h.of_eq hpictures hhist hwindow⟩

lemma bind {g : CmdCapture → Option CmdCapture} (h : Carries c r)
    (hg : ∀ c', c'.pictures = c.pictures → Carries c' (g c')) : Carries c (r.bind g) := by
  intro d hd
  obtain ⟨c', hr, hd⟩ := Option.bind_eq_some_iff.mp hd
  obtain ⟨hhist, hpictures, hkept⟩ := h c' hr
  obtain ⟨hhist', hpictures', hkept'⟩ := hg c' hpictures d hd
  exact ⟨hhist'.trans hhist, hpictures'.trans hpictures, fun h => hkept' (hkept h)⟩

/-- The window of the current picture is changed. -/
lemma window {hlt : slot < 11} {w : CmdWindow} (hcore : c'.pictures = c.pictures)
    (hhist : c'.hist = c.hist) (hwindow : c'.window = Function.update c.window ⟨slot, hlt⟩ w)
    (hw : ∀ h, WindowKept h slot (c.window ⟨slot, hlt⟩) → WindowKept h slot w) :
    Carries c (some c') := by
  intro d hd
  obtain rfl := Option.some.inj hd
  refine ⟨hhist, hcore, fun h => ⟨hcore ▸ h.bound, ?_, fun s hs => ?_⟩⟩
  · rw [hhist, hcore]
    exact h.hist
  · rw [hcore] at hs
    rw [hhist, hwindow]
    by_cases hslot : s = ⟨slot, hlt⟩
    · subst hslot
      rw [Function.update_self]
      exact hw _ (h.window _ hs)
    · rw [Function.update_of_ne hslot]
      exact h.window s hs

lemma update {f : CmdWindow → CmdWindow} (hlt : slot < 11)
    (hf : ∀ h w, WindowKept h slot w → WindowKept h slot (f w)) :
    Carries c (cmdUpdate c slot f) := by
  rw [cmdUpdate_of_lt hlt]
  exact window rfl rfl rfl fun h hw => hf h _ hw

end Carries

/-- A word is stored with its site, which is in range. -/
lemma cmdWord_carries (site : ℕ) (word : UInt32) : Carries c (cmdWord c site word) := by
  rw [cmdWord]
  split
  · exact .pure rfl rfl rfl
  · rename_i slot hslot
    have hlt := cmdSlot_lt hslot
    split_ifs with hsite
    · exact .pure rfl rfl rfl
    · simp only [load_of_lt hlt, Option.bind_eq_bind, Option.bind_some]
      split_ifs with hfull
      · exact .pure rfl rfl rfl
      · have hroom : (c.window ⟨slot, hlt⟩).nwords < 1024 := Nat.not_le.mp hfull
        simp only [store_of_lt hroom, store_of_lt hlt, Option.bind_some]
        refine .window rfl rfl rfl fun h hw => ?_
        refine ⟨hw.picture, hw.poc, hw.type, hw.nbytes, hroom, fun j hj => ?_, hw.inactive, hw.padding⟩
        by_cases hlast : j = ⟨(c.window ⟨slot, hlt⟩).nwords, hroom⟩
        · subst hlast
          have hsite' : 1 ≤ site ∧ site ≤ siteHdrStride := by omega
          have hsmall : site < 65536 := Nat.lt_of_le_of_lt hsite'.2 (by decide)
          simp only [Function.update_self, UInt16.toNat_ofNat', Nat.mod_eq_of_lt hsmall]
          exact hsite'
        · have hne : (j : ℕ) ≠ (c.window ⟨slot, hlt⟩).nwords := fun heq => hlast (Fin.ext heq)
          have hj' : (j : ℕ) < (c.window ⟨slot, hlt⟩).nwords + 1 := hj
          simp only [Function.update_of_ne hlast]
          exact hw.sites j (by omega)

lemma cmdInactive_carries (site : ℕ) : Carries c (cmdInactive c site) := by
  rw [cmdInactive]
  split
  · exact .pure rfl rfl rfl
  · rename_i slot hslot
    have hlt := cmdSlot_lt hslot
    simp only [load_of_lt hlt, Option.bind_eq_bind, Option.bind_some]
    split_ifs with hsite
    · exact .pure rfl rfl rfl
    · refine .update hlt fun h w hw => ⟨hw.picture, hw.poc, hw.type, hw.nbytes, hw.nwords, hw.sites,
        ?_, hw.padding⟩
      have hbit : 1 <<< site < 0x100000000 := by
        simp only [not_or, not_and, not_not] at hsite
        by_cases hoff : site = siteSclOff
        · rw [hoff]
          decide
        · rw [hsite.1 hoff]
          decide
      exact Nat.or_lt_two_pow (n := 32) hw.inactive hbit

lemma cmdSliceMeta_carries (size rel flags dataByteOffset : UInt32) :
    Carries c (cmdSliceMeta c size rel flags dataByteOffset) := by
  rw [cmdSliceMeta]
  split
  · exact .pure rfl rfl rfl
  · rename_i slot hslot
    have hlt := cmdSlot_lt hslot
    simp only [load_of_lt hlt, Option.bind_eq_bind, Option.bind_some]
    refine Carries.bind (.update hlt fun h w hw => ?_) fun c₁ _ => ?_
    · exact ⟨hw.picture, hw.poc, hw.type, hw.nbytes, hw.nwords, hw.sites, hw.inactive, hw.padding⟩
    split_ifs with hseen
    · exact .pure rfl rfl rfl
    · refine Carries.bind (.update hlt fun h w hw => ?_) fun c₂ _ => ?_
      · exact ⟨hw.picture, hw.poc, hw.type, hw.nbytes, hw.nwords, hw.sites, hw.inactive, hw.padding⟩
      refine (cmdWord_carries _ _).bind fun c₃ _ => ?_
      refine (cmdWord_carries _ _).bind fun c₄ _ => ?_
      exact (cmdWord_carries _ _).bind fun c₅ _ => cmdWord_carries _ _

lemma avdCmdtraceDetail_carries (d : CmdDetail) : Carries c (avdCmdtraceDetail c d) := by
  rw [avdCmdtraceDetail]
  cases d.call with
  | word ctx site =>
      simp only [avdCmdtraceWord]
      split_ifs
      · exact cmdWord_carries _ _
      · exact .pure rfl rfl rfl
  | inactive site =>
      simp only [avdCmdtraceInactive]
      split_ifs
      · exact cmdInactive_carries _
      · exact .pure rfl rfl rfl
  | sliceMeta size rel flags dataByteOffset =>
      simp only [avdCmdtraceSliceMeta]
      split_ifs
      · exact cmdSliceMeta_carries _ _ _ _
      · exact .pure rfl rfl rfl

end Carries

/-! ### Every clean recording keeps them -/

section Keeps

variable {c c' : CmdCapture} {ctx : ℕ} {op : CmdtraceOp}

/-- The row of a picture that has been started. -/
lemma CmdStartCall.hist_kept (a : CmdStartCall) (n : ℕ) : HistKept n (a.hist (n + 1)) := by
  refine ⟨rfl, ?_⟩
  have htype : a.sl.sliceType = sliceTypeI ↔ a.sl.sliceType.toUInt32 = 2 := by
    rw [← UInt8.toNat_inj, ← UInt32.toNat_inj, UInt8.toNat_toUInt32]
    rfl
  simp only [CmdStartCall.hist, htype]

lemma CmdStartCall.padding (a : CmdStartCall) {j : Fin 1392} (h : cmdPacked ≤ j) :
    a.controlBytes j = 0 := by
  rw [CmdStartCall.controlBytes, List.getD_eq_default]
  rw [length_packControls]
  exact h

/-- The window of a picture that has been started. -/
lemma CmdStartCall.window_kept (a : CmdStartCall) {n : ℕ} (hfirst : firstDetail ≤ n)
    (w : CmdWindow) : WindowKept (a.hist n) (n - firstDetail) (a.window n w) := by
  refine ⟨(Nat.add_sub_cancel' hfirst).symm, rfl, rfl, rfl, Nat.zero_le _,
    fun j hj => absurd hj (Nat.not_lt_zero _), Nat.zero_lt_succ _, fun j hj => ?_⟩
  simpa only [CmdStartCall.window] using a.padding hj

/-- The start of a picture keeps rows and windows together. -/
lemma CmdKept.start {a : CmdStartCall} (h : CmdKept c) (hsel : c.selected ctx = true)
    (hstep : avdCmdtraceStart c ctx a = some c') (hpictures : c'.pictures = c.pictures + 1)
    (hbound : c'.pictures ≤ pictureCount) : CmdKept c' := by
  have hlt : c.pictures < 300 := by
    simp only [pictureCount] at hbound
    omega
  have hcount : (c.toCore.start ctx a.shape.malformed).pictures = c.pictures + 1 := by
    obtain ⟨c₁, _, hsound, hcore, _⟩ := avdCmdtraceStart_sound hsel a
    obtain ⟨e, he⟩ := hsound.core hstep
    rw [← hcore, ← hpictures, he]
  obtain ⟨d, hd, hcore, hhist, hwindow⟩ := avdCmdtraceStart_eq hsel a hcount hlt
  obtain rfl := Option.some.inj (hstep.symm.trans hd)
  have hother : ∀ i : Fin 300, (i : ℕ) ≠ c.pictures → c'.hist i = c.hist i := by
    intro i hi
    rw [hhist, Function.update_of_ne fun heq => hi (congrArg Fin.val heq)]
  refine ⟨hbound, fun i hi => ?_, fun s hs => ?_⟩
  · rw [hpictures] at hi
    by_cases hlast : (i : ℕ) = c.pictures
    · obtain rfl : i = ⟨c.pictures, hlt⟩ := Fin.ext hlast
      rw [hhist, Function.update_self]
      exact a.hist_kept c.pictures
    · rw [hother i hlast]
      exact h.hist i (by omega)
  · rw [hpictures] at hs
    have hold : firstDetail + (s : ℕ) ≤ c.pictures → c'.window s = c.window s →
        WindowKept (c'.hist (histIndex s)) s (c'.window s) := by
      intro hle hsame
      have hne : ((histIndex s : Fin 300) : ℕ) ≠ c.pictures := by
        simp only [histIndex, firstDetail] at hle ⊢
        omega
      rw [hother _ hne, hsame]
      exact h.window s hle
    rcases hwindow with ⟨hplain, hsame⟩ | ⟨hslot, hdetail, hnew⟩
    · refine hold ?_ (by rw [hsame])
      simp only [firstDetail, lastDetail] at hplain hs ⊢
      omega
    · by_cases hcurrent : s = ⟨c.pictures + 1 - firstDetail, hslot⟩
      · have hindex : histIndex s = ⟨c.pictures, hlt⟩ := by
          refine Fin.ext ?_
          simp only [histIndex, hcurrent, firstDetail] at hdetail ⊢
          omega
        rw [hindex, hhist, Function.update_self, hnew, hcurrent, Function.update_self]
        exact a.window_kept hdetail.1 _
      · have hne : (s : ℕ) ≠ c.pictures + 1 - firstDetail := fun heq => hcurrent (Fin.ext heq)
        refine hold ?_ (by rw [hnew, Function.update_of_ne hcurrent])
        simp only [firstDetail] at hs hne ⊢
        omega

/-- An operation that is not the start of a picture of the recorded context. -/
lemma CmdKept.other (h : CmdKept c) (hstep : cmdtraceMachine.step op c = some c')
    (hop : ∀ context a, op = .start context a → c.selected context = false) : CmdKept c' := by
  cases op with
  | start context a =>
      have hsame := avdCmdtraceStart_of_not_selected (hop context a rfl) a
      obtain rfl := Option.some.inj (hsame.symm.trans hstep)
      exact h
  | extra d => exact (avdCmdtraceDetail_carries d c' hstep).2.2 h
  | _ =>
      have hpictures : c'.pictures = c.pictures := Machine.step_pictures hstep (by simp)
      obtain rfl := Option.some.inj hstep
      exact h.of_eq hpictures rfl rfl

/-- **Rows and windows are numbered and belong together** in every clean recording. -/
theorem cmd_hooks_keep : cmdtraceMachine.Keeps (fun c => CmdKept c) (fun _ _ c => CmdKept c) where
  fresh := by
    intro op c c' h hphase hstep _
    refine h.other hstep fun context _ _ => ?_
    change c.phase = .armed at hphase
    simp [Core.selected, hphase]
  bind h _ hstep _ := h.other hstep (by simp)
  active := by
    intro ctx during op c c' h hactive hctx hstep hclean _
    obtain ⟨_, hop⟩ := Machine.step_clean hstep hclean
    obtain ⟨hpictures, hbound⟩ := hop.pictures hactive h.bound
    by_cases hstart : isStart ctx op = true
    · cases op with
      | start context a =>
          obtain rfl : context = ctx := by simpa [isStart] using hstart
          have hsel : c.selected context = true := Core.selected_iff.mpr ⟨hactive, hctx.symm⟩
          have hnext : c'.pictures = c.pictures + 1 := by
            change c'.pictures = c.pictures + if isStart c.context _ = true then 1 else 0 at hpictures
            rwa [show c.context = context from hctx, if_pos hstart] at hpictures
          exact h.start hsel hstep hnext hbound
      | _ => exact absurd hstart (by simp [isStart])
    · refine h.other hstep ?_
      rintro context a rfl
      have hne : context ≠ ctx := by simpa [isStart] using hstart
      change c.phase = .active at hactive
      change c.context = ctx at hctx
      simpa [Core.selected, hactive, hctx] using hne
  close h _ hstep := h.other hstep (by simp)
  idle := by
    intro ctx during op c c' h hphase hstep
    refine h.other hstep fun context _ _ => ?_
    change c.phase = .drained ∨ c.phase = .sealed at hphase
    rcases hphase with hphase | hphase
    · simp [Core.selected, hphase]
    · simp [Core.selected, hphase]

lemma cmdKept_armed (run pid : ℕ) : CmdKept (cmdArmed run pid) :=
  ⟨Nat.zero_le _, fun i hi => absurd hi (Nat.not_lt_zero _), fun s hs => absurd hs (by
    simp only [cmdArmed, Core.armed, firstDetail]
    omega)⟩

end Keeps

end OmarchyM1Video.Recorder
