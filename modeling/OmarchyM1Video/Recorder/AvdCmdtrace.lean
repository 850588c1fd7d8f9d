import OmarchyM1Video.Recorder.Session

/-!
The command recorder: `experiments/hevc-avd-command-trace/kernel/cmd-core.h`.

A capture holds the shared state, one row for each picture, and a window for each picture whose
commands are recorded.

* `CmdHist`, `CmdWindow`, `CmdCapture`: the structures;
* `cmdOpen`, `cmdBind`, `cmdStart`, `cmdHistSet`, `cmdControls`, `cmdWord`, `cmdSliceMeta`,
  `cmdInactive`, `cmdDone`, `cmdClose`, `cmdSeal`: the functions;
* `cmdMachine`: the recorder whose operations they are.
-/

namespace OmarchyM1Video.Recorder

open OmarchyM1Video.C

/-- `struct cmd_hist`. -/
@[ext]
structure CmdHist where
  picture : ℕ := 0
  poc : UInt32 := 0
  type : UInt32 := 0
  target : UInt32 := 0
  flags : UInt32 := 0
  intra : UInt32 := 0
  deriving DecidableEq

/-- `struct cmd_window`. -/
@[ext]
structure CmdWindow where
  picture : ℕ := 0
  poc : UInt32 := 0
  type : UInt32 := 0
  nwords : ℕ := 0
  nbytes : ℕ := 0
  inactive : ℕ := 0
  sliceSize : UInt32 := 0
  sliceRel : UInt32 := 0
  sliceFlags : UInt32 := 0
  sliceCoded : UInt32 := 0
  decomp : UInt32 := 0
  revision : UInt32 := 0
  quirks : UInt32 := 0
  bytesperline : UInt32 := 0
  metaSeen : ℕ := 0
  controls : Fin 1392 → UInt8 := fun _ => 0
  words : Fin 1024 → UInt32 := fun _ => 0
  sites : Fin 1024 → UInt16 := fun _ => 0

/-- `CMD_WORDS`. -/
def cmdWords : ℕ := 1024

/-- `CMD_CONTROL`. -/
def cmdControl : ℕ := 1392

/-- `CMD_PACKED`. -/
def cmdPacked : ℕ := 1380

/-- `CMD_SITE_SCL_OFF`. -/
def siteSclOff : ℕ := 19

/-- `CMD_SITE_WT_SKIP`. -/
def siteWtSkip : ℕ := 27

/-- `CMD_SITE_SLICE_META`. -/
def siteSliceMeta : ℕ := 31

/-- `CMD_SITE_HDR_STRIDE`, the last site. -/
def siteHdrStride : ℕ := 32

/-- `struct cmd_capture`. -/
@[ext]
structure CmdCapture extends Core where
  hist : Fin 300 → CmdHist := fun _ => {}
  window : Fin 11 → CmdWindow := fun _ => {}

/-- A zeroed capture with its run, its process and its phase. -/
def cmdArmed (run pid : ℕ) : CmdCapture := { toCore := Core.armed run pid }

/-! ### The functions -/

def cmdSelected (c : CmdCapture) (context : ℕ) : Bool := c.toCore.selected context

/-- `cmd_detail`. -/
def cmdDetail (c : CmdCapture) : Bool := firstDetail ≤ c.pictures && c.pictures ≤ lastDetail

/-- `cmd_slot`: the index of the window of the current picture. -/
def cmdSlot (c : CmdCapture) : Option ℕ :=
  if cmdDetail c then some (c.pictures - firstDetail) else none

def cmdOpen (c : CmdCapture) (pid : ℕ) : CmdCapture := { c with toCore := c.toCore.opened pid }

def cmdBind (c : CmdCapture) (pid context : ℕ) (hevc : Bool) : CmdCapture :=
  { c with toCore := c.toCore.bind pid context hevc }

/-- An assignment to fields of a window. -/
def cmdUpdate (c : CmdCapture) (slot : ℕ) (f : CmdWindow → CmdWindow) : Option CmdCapture := do
  let w ← load c.window slot
  let window ← store c.window slot (f w)
  return { c with window }

/-- The arguments of `cmd_start` that are checked. -/
structure CmdShape where
  slices : ℕ
  entryCapacity : ℕ
  entryPoints : ℕ
  tiles : ℕ
  deriving DecidableEq, Repr

/-- `slices != 1 || tiles || entry_points || !entry_capacity || entry_capacity > 256`. -/
def CmdShape.malformed (s : CmdShape) : Bool :=
  s.slices ≠ 1 || s.tiles ≠ 0 || s.entryPoints ≠ 0 || s.entryCapacity = 0 || 256 < s.entryCapacity

def cmdStart (c : CmdCapture) (context : ℕ) (shape : CmdShape) : Option CmdCapture :=
  if cmdSelected c context then
    let c₁ := { c with toCore := c.toCore.start context shape.malformed }
    match cmdSlot c₁ with
    | none => some c₁
    | some slot => cmdUpdate c₁ slot fun w => { w with
        picture := wrap32 c₁.pictures
        nbytes := 0
        nwords := 0
        inactive := 0
        sliceSize := 0
        sliceRel := 0
        sliceFlags := 0
        sliceCoded := 0 }
  else some c

def cmdHistSet (c : CmdCapture) (poc type target flags intra : UInt32) : Option CmdCapture :=
  if c.pictures = 0 ∨ pictureCount < c.pictures then some c
  else do
    let hist ← store c.hist (c.pictures - 1)
      { picture := wrap32 c.pictures, poc, type, target, flags, intra }
    let c₁ := { c with hist }
    if cmdDetail c₁ then cmdUpdate c₁ (c₁.pictures - firstDetail) fun w => { w with poc, type }
    else return c₁

def cmdControls (c : CmdCapture) (packed : List UInt8) : Option CmdCapture :=
  match cmdSlot c with
  | none => some c
  | some slot =>
      if packed.length ≠ cmdPacked then some { c with toCore := c.toCore.raise .overflow }
      else do
        let w ← load c.window slot
        let controls ← storeAll w.controls 0 packed
        let controls ← storeAll controls packed.length
          (List.replicate (cmdControl - packed.length) 0)
        let window ← store c.window slot { w with controls, nbytes := cmdControl }
        return { c with window }

def cmdWord (c : CmdCapture) (site : ℕ) (word : UInt32) : Option CmdCapture :=
  match cmdSlot c with
  | none => some c
  | some slot =>
      if site = 0 ∨ siteHdrStride < site then some { c with toCore := c.toCore.raise .shape }
      else do
        let w ← load c.window slot
        if cmdWords ≤ w.nwords then
          return { c with toCore := (c.toCore.raise .wordsFull).raise .overflow }
        let sites ← store w.sites w.nwords (UInt16.ofNat site)
        let words ← store w.words w.nwords word
        let window ← store c.window slot { w with sites, words, nwords := w.nwords + 1 }
        return { c with window }

def cmdSliceMeta (c : CmdCapture) (size rel flags dataByteOffset : UInt32) : Option CmdCapture :=
  match cmdSlot c with
  | none => some c
  | some slot => do
      let w ← load c.window slot
      let c₁ ← cmdUpdate c slot fun w => { w with metaSeen := wrap32 (w.metaSeen + 1) }
      if w.metaSeen ≠ 0 ∨ size = 0 ∨ 0xFFFFFFFF - dataByteOffset < rel then
        return { c₁ with toCore := c₁.toCore.raise .shape }
      let c₂ ← cmdUpdate c₁ slot fun w => { w with
        sliceSize := size
        sliceRel := rel
        sliceFlags := flags
        sliceCoded := rel + dataByteOffset }
      let c₃ ← cmdWord c₂ siteSliceMeta size
      let c₄ ← cmdWord c₃ siteSliceMeta rel
      let c₅ ← cmdWord c₄ siteSliceMeta flags
      cmdWord c₅ siteSliceMeta (rel + dataByteOffset)

def cmdInactive (c : CmdCapture) (site : ℕ) : Option CmdCapture :=
  match cmdSlot c with
  | none => some c
  | some slot => do
      let w ← load c.window slot
      if (site ≠ siteSclOff ∧ site ≠ siteWtSkip) ∨ w.inactive &&& 1 <<< site ≠ 0 then
        return { c with toCore := c.toCore.raise .shape }
      cmdUpdate c slot fun w => { w with inactive := w.inactive ||| 1 <<< site }

def cmdDone (c : CmdCapture) (context : ℕ) (success : Bool) : CmdCapture :=
  { c with toCore := c.toCore.done context success }

def cmdClose (c : CmdCapture) (context : ℕ) : CmdCapture :=
  { c with toCore := c.toCore.close context }

/-- `cmd_seal`, which returns one where `Core.sealable` holds. -/
def cmdSeal (c : CmdCapture) : CmdCapture := { c with toCore := c.toCore.sealUp }

/-- The shared state is the same, up to further error bits. -/
def SameCore (c c' : CmdCapture) : Prop :=
  ∃ e, c'.toCore = { c.toCore with errors := c.errors ||| e }

namespace SameCore

variable {c c' c'' : CmdCapture}

lemma of_eq (h : c'.toCore = c.toCore) : SameCore c c' := ⟨0, by rw [h, Nat.or_zero]⟩

lemma of_raise {e : Fault} (h : c'.toCore = c.toCore.raise e) : SameCore c c' := ⟨e.bit, h⟩

lemma trans (h : SameCore c c') (h' : SameCore c' c'') : SameCore c c'' := by
  obtain ⟨e, h⟩ := h
  obtain ⟨e', h'⟩ := h'
  exact ⟨e ||| e', by rw [h', h, Nat.or_assoc]⟩

end SameCore

/-! ### What the functions do -/

section Specs

variable {c c' : CmdCapture} {slot : ℕ}

lemma cmdSlot_eq_some : cmdSlot c = some slot ↔ firstDetail ≤ c.pictures ∧
    c.pictures ≤ lastDetail ∧ slot = c.pictures - firstDetail := by
  by_cases h : cmdDetail c = true
  · rw [cmdSlot, if_pos h]
    simp only [cmdDetail, Bool.and_eq_true, decide_eq_true_eq] at h
    simp [h.1, h.2, eq_comm]
  · rw [cmdSlot, if_neg h]
    simp only [cmdDetail, Bool.and_eq_true, decide_eq_true_eq] at h
    simp only [reduceCtorEq, false_iff]
    exact fun ⟨h₁, h₂, _⟩ => h ⟨h₁, h₂⟩

/-- The window of a picture that is recorded in detail is in range. -/
lemma cmdSlot_lt (h : cmdSlot c = some slot) : slot < 11 := by
  obtain ⟨_, hlast, rfl⟩ := cmdSlot_eq_some.mp h
  simp only [lastDetail] at hlast
  simp only [firstDetail]
  omega

lemma cmdUpdate_of_lt (h : slot < 11) (f : CmdWindow → CmdWindow) : cmdUpdate c slot f = some
    { c with window := Function.update c.window ⟨slot, h⟩ (f (c.window ⟨slot, h⟩)) } := by
  simp [cmdUpdate, load_of_lt h, store_of_lt h]

/-- Every window holds as many words as it has room for. -/
def CmdBounded (c : CmdCapture) : Prop := ∀ i, (c.window i).nwords ≤ cmdWords

lemma CmdBounded.of_window (h : CmdBounded c) (heq : c'.window = c.window) : CmdBounded c' := by
  intro i
  rw [heq]
  exact h i

lemma CmdBounded.update (h : CmdBounded c) {hslot : slot < 11} {w : CmdWindow}
    (heq : c'.window = Function.update c.window ⟨slot, hslot⟩ w) (hw : w.nwords ≤ cmdWords) :
    CmdBounded c' := by
  intro i
  rw [heq]
  by_cases hi : i = ⟨slot, hslot⟩
  · subst hi
    rwa [Function.update_self]
  · rw [Function.update_of_ne hi]
    exact h i

/-- What a function does to a capture: it stays in range, keeps the bound, and leaves the shared
state as it is up to further error bits. -/
structure Sound (c : CmdCapture) (r : Option CmdCapture) : Prop where
  total : CmdBounded c → ∃ c', r = some c' ∧ CmdBounded c'
  core : ∀ {c'}, r = some c' → SameCore c c'

namespace Sound

variable {r : Option CmdCapture}

lemma pure (hcore : c'.toCore = c.toCore) (hwindow : CmdBounded c → CmdBounded c') :
    Sound c (some c') := by
  refine ⟨fun h => ⟨c', rfl, hwindow h⟩, fun h => ?_⟩
  obtain rfl := Option.some.inj h
  exact .of_eq hcore

lemma raise (e : Fault) : Sound c (some { c with toCore := c.toCore.raise e }) := by
  refine ⟨fun h => ⟨_, rfl, h⟩, fun h => ?_⟩
  obtain rfl := Option.some.inj h
  exact .of_raise rfl

/-- An assignment before the rest. -/
lemma after (c₁ : CmdCapture) (hcore : SameCore c c₁) (hwindow : c₁.window = c.window)
    (h : Sound c₁ r) : Sound c r :=
  ⟨fun hc => h.total (hc.of_window hwindow), fun hr => hcore.trans (h.core hr)⟩

lemma bind {g : CmdCapture → Option CmdCapture} (h : Sound c r)
    (hg : ∀ c', r = some c' → Sound c' (g c')) : Sound c (r.bind g) := by
  refine ⟨fun hc => ?_, fun hr => ?_⟩
  · obtain ⟨c', hr, hc'⟩ := h.total hc
    rw [hr, Option.bind_some]
    exact (hg c' hr).total hc'
  · obtain ⟨c', hr, hc'⟩ := Option.bind_eq_some_iff.mp hr
    exact (h.core hr).trans ((hg c' hr).core hc')

lemma update {f : CmdWindow → CmdWindow} (hslot : slot < 11)
    (hf : ∀ w, w.nwords ≤ cmdWords → (f w).nwords ≤ cmdWords) : Sound c (cmdUpdate c slot f) := by
  rw [cmdUpdate_of_lt hslot]
  exact pure rfl fun h => h.update rfl (hf _ (h _))

end Sound

lemma cmdHistSet_sound (poc type target flags intra : UInt32) :
    Sound c (cmdHistSet c poc type target flags intra) := by
  rw [cmdHistSet]
  split_ifs with hrange
  · exact .pure rfl id
  · have hlt : c.pictures - 1 < 300 := by
      simp only [pictureCount] at hrange
      omega
    simp only [store_of_lt hlt, Option.bind_eq_bind, Option.bind_some]
    split_ifs with hdetail
    · have hslot : cmdSlot c = some (c.pictures - firstDetail) := if_pos hdetail
      refine Sound.after _ (.of_eq ?_) ?_ (Sound.update (cmdSlot_lt hslot) ?_)
      · rfl
      · rfl
      · exact fun w hw => hw
    · exact .pure rfl fun h => h.of_window rfl

lemma cmdControls_sound (packed : List UInt8) : Sound c (cmdControls c packed) := by
  rw [cmdControls]
  split
  · exact .pure rfl id
  · rename_i slot hslot
    have hlt := cmdSlot_lt hslot
    split_ifs with hlength
    · exact .raise _
    · have hpacked : packed.length = 1380 := not_not.mp hlength
      have hfits : 0 + packed.length ≤ 1392 := by omega
      have hpad : packed.length + (List.replicate (cmdControl - packed.length) (0 : UInt8)).length ≤
          1392 := by
        rw [List.length_replicate, hpacked]
        decide
      obtain ⟨b, hb, _⟩ := storeAll_of_le (a := (c.window ⟨slot, hlt⟩).controls) hfits
      obtain ⟨d, hd, _⟩ := storeAll_of_le (a := b) hpad
      simp only [load_of_lt hlt, Option.bind_eq_bind, Option.bind_some, hb, hd, store_of_lt hlt]
      exact .pure rfl fun h => h.update rfl (h ⟨slot, hlt⟩)

lemma cmdWord_sound (site : ℕ) (word : UInt32) : Sound c (cmdWord c site word) := by
  rw [cmdWord]
  split
  · exact .pure rfl id
  · rename_i slot hslot
    have hlt := cmdSlot_lt hslot
    split_ifs with hsite
    · exact .raise _
    · simp only [load_of_lt hlt, Option.bind_eq_bind, Option.bind_some]
      split_ifs with hfull
      · exact Sound.after { c with toCore := c.toCore.raise .wordsFull } (.of_raise rfl) rfl (.raise _)
      · have hroom : (c.window ⟨slot, hlt⟩).nwords < 1024 := Nat.not_le.mp hfull
        simp only [store_of_lt hroom, store_of_lt hlt, Option.bind_some]
        exact .pure rfl fun h => h.update rfl hroom

lemma cmdInactive_sound (site : ℕ) : Sound c (cmdInactive c site) := by
  rw [cmdInactive]
  split
  · exact .pure rfl id
  · rename_i slot hslot
    have hlt := cmdSlot_lt hslot
    simp only [load_of_lt hlt, Option.bind_eq_bind, Option.bind_some]
    split_ifs with hsite
    · exact .raise _
    · exact .update hlt fun w hw => hw

lemma cmdSliceMeta_sound (size rel flags dataByteOffset : UInt32) :
    Sound c (cmdSliceMeta c size rel flags dataByteOffset) := by
  rw [cmdSliceMeta]
  split
  · exact .pure rfl id
  · rename_i slot hslot
    have hlt := cmdSlot_lt hslot
    simp only [load_of_lt hlt, Option.bind_eq_bind, Option.bind_some]
    refine Sound.bind (Sound.update hlt ?_) fun c₁ _ => ?_
    · exact fun w hw => hw
    split_ifs with hseen
    · exact .raise _
    · refine Sound.bind (Sound.update hlt ?_) fun c₂ _ => ?_
      · exact fun w hw => hw
      refine (cmdWord_sound _ _).bind fun c₃ _ => ?_
      refine (cmdWord_sound _ _).bind fun c₄ _ => ?_
      exact (cmdWord_sound _ _).bind fun c₅ _ => cmdWord_sound _ _

/-- `cmd_start` stays in range, and does to the shared state what `Core.start` does. -/
lemma cmdStart_total (context : ℕ) (shape : CmdShape) : ∃ c', cmdStart c context shape = some c' ∧
    c'.toCore = c.toCore.start context shape.malformed ∧ (CmdBounded c → CmdBounded c') := by
  rw [cmdStart]
  split_ifs with hsel
  · dsimp only
    split
    · exact ⟨_, rfl, rfl, id⟩
    · rename_i slot hslot
      rw [cmdUpdate_of_lt (cmdSlot_lt hslot)]
      exact ⟨_, rfl, rfl, fun h => CmdBounded.update h rfl (Nat.zero_le _)⟩
  · exact ⟨c, rfl, (if_neg hsel).symm, id⟩

end Specs

/-! ### The recorder -/

/-- The functions that the other recorder does not have. -/
inductive CmdExtra where
  | histSet (poc type target flags intra : UInt32)
  | controls (packed : List UInt8)
  | word (site : ℕ) (word : UInt32)
  | sliceMeta (size rel flags dataByteOffset : UInt32)
  | inactive (site : ℕ)

abbrev CmdOp := Op CmdShape Bool CmdExtra

def cmdExtra (c : CmdCapture) : CmdExtra → Option CmdCapture
  | .histSet poc type target flags intra => cmdHistSet c poc type target flags intra
  | .controls packed => cmdControls c packed
  | .word site word => cmdWord c site word
  | .sliceMeta size rel flags dataByteOffset => cmdSliceMeta c size rel flags dataByteOffset
  | .inactive site => cmdInactive c site

/-- One operation of the recorder. -/
def cmdStep (op : CmdOp) (c : CmdCapture) : Option CmdCapture :=
  match op with
  | .opened pid => some (cmdOpen c pid)
  | .bind pid context hevc => some (cmdBind c pid context hevc)
  | .start context shape => cmdStart c context shape
  | .done context success => some (cmdDone c context success)
  | .close context => some (cmdClose c context)
  | .sealUp => some (cmdSeal c)
  | .extra x => cmdExtra c x

lemma cmdExtra_sound (c : CmdCapture) (x : CmdExtra) : Sound c (cmdExtra c x) := by
  cases x with
  | histSet poc type target flags intra => exact cmdHistSet_sound poc type target flags intra
  | controls packed => exact cmdControls_sound packed
  | word site word => exact cmdWord_sound site word
  | sliceMeta size rel flags dataByteOffset => exact cmdSliceMeta_sound size rel flags dataByteOffset
  | inactive site => exact cmdInactive_sound site

/-- The command recorder. -/
def cmdMachine : Machine CmdShape Bool CmdExtra CmdCapture where
  core := CmdCapture.toCore
  step := cmdStep
  malformed := CmdShape.malformed
  succeeded := id
  lawful := by
    intro op c c' h
    cases op with
    | start context shape =>
        obtain ⟨c₁, hstart, hcore, _⟩ := cmdStart_total (c := c) context shape
        obtain rfl := Option.some.inj (hstart.symm.trans h)
        exact ⟨0, by rw [Nat.or_zero]; exact hcore⟩
    | extra x => exact (cmdExtra_sound c x).core h
    | _ =>
        obtain rfl := Option.some.inj h
        exact ⟨0, by rw [Nat.or_zero]; rfl⟩

/-- Every operation stays in range. -/
lemma cmdStep_total {c : CmdCapture} (h : CmdBounded c) (op : CmdOp) :
    ∃ c', cmdMachine.step op c = some c' ∧ CmdBounded c' := by
  cases op with
  | start context shape =>
      obtain ⟨c', hstart, _, hbounded⟩ := cmdStart_total (c := c) context shape
      exact ⟨c', hstart, hbounded h⟩
  | extra x => exact (cmdExtra_sound c x).total h
  | _ => exact ⟨_, rfl, h⟩

end OmarchyM1Video.Recorder
