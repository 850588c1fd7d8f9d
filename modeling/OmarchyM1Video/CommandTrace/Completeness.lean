import OmarchyM1Video.CommandTrace.Copied
import OmarchyM1Video.CommandTrace.RoundTrip

/-!
What the comparison of the copied control bytes reports.

* `compareWindow_ok`: of one window;
* `compare_inter`: nothing, of a recording whose rows are the controls of its pictures;
* `compare_complete`: of a capture, what differs and nothing else.
-/

namespace OmarchyM1Video.CommandTrace

open OmarchyM1Video.Py OmarchyM1Video.Recorder

/-! ### The windows of a capture -/

/-- What is reported of a difference. -/
def Difference.key (d : Difference) : ℕ × String := (d.picture, d.field)

section Windows

variable {text : List Char} {run : ℤ} {capture : Snapshot} {rows rows₀ : List Row}
  {flags : Dict String ℕ} {w : Window} {ws : List Window} {ds : List Difference}
  {dss : List (List Difference)} {actual : Dict String Json} {items : List (String × Json)}
  {row row₀ : Row} {v v₀ : Json} {p : Field × Base}

/-- What the loop over the fields reports: the names whose values differ, in the order of the
fields. -/
lemma fieldDifferences_ok (h : fieldDifferences w actual items = .ok ds) :
    (ds.map Difference.field).Sublist (items.map Prod.fst) ∧ (∀ d ∈ ds, d.picture = w.picture) ∧
      ∀ name, name ∈ ds.map Difference.field ↔ ∃ value kernel, (name, value) ∈ items ∧
        actual.get? name = some kernel ∧ wireValue kernel ≠ wireValue value := by
  induction items generalizing ds with
  | nil =>
      obtain rfl : [] = ds := Except.ok.inj h
      simp
  | cons item items ih =>
      obtain ⟨name, value⟩ := item
      simp only [fieldDifferences, Except.bind_ok, found_ok] at h
      obtain ⟨kernel, hkernel, more, hmore, h⟩ := h
      obtain ⟨hsub, hpictures, hmem⟩ := ih hmore
      by_cases hsame : wireValue kernel = wireValue value
      · rw [if_pos hsame, Except.pure_ok] at h
        subst h
        refine ⟨hsub.cons _, hpictures, fun name' => ?_⟩
        rw [hmem]
        constructor
        · rintro ⟨value', kernel', hitem, hrest⟩
          exact ⟨value', kernel', List.mem_cons_of_mem _ hitem, hrest⟩
        · rintro ⟨value', kernel', hitem, hget, hne⟩
          refine ⟨value', kernel', (List.mem_cons.mp hitem).resolve_left fun heq => ?_, hget, hne⟩
          obtain ⟨rfl, rfl⟩ := Prod.mk.inj heq
          obtain rfl := Option.some.inj (hkernel.symm.trans hget)
          exact hne hsame
      · rw [if_neg hsame, Except.pure_ok] at h
        subst h
        refine ⟨hsub.cons_cons _, ?_, fun name' => ?_⟩
        · intro d hd
          rcases List.mem_cons.mp hd with rfl | hd
          · rfl
          · exact hpictures d hd
        · rw [List.map_cons, List.mem_cons, hmem]
          constructor
          · rintro (rfl | ⟨value', kernel', hitem, hrest⟩)
            · exact ⟨value, kernel, List.mem_cons_self, hkernel, hsame⟩
            · exact ⟨value', kernel', List.mem_cons_of_mem _ hitem, hrest⟩
          · rintro ⟨value', kernel', hitem, hrest⟩
            rcases List.mem_cons.mp hitem with heq | hitem
            · exact .inl (Prod.mk.inj heq).1
            · exact .inr ⟨value', kernel', hitem, hrest⟩

/-- **What a window reports**: the names whose decoded values differ, each once. -/
theorem compareWindow_ok (h : compareWindow rows flags w = .ok ds) :
    ∃ row fields actual, rows[w.picture - 1]? = some row ∧
      copiedFields row.controls flags = .ok fields ∧ unpackControls w.controls = .ok actual ∧
      (∀ d ∈ ds, d.picture = w.picture) ∧ (ds.map Difference.field).Nodup ∧
      ∀ name, name ∈ ds.map Difference.field ↔ fields.get? name ≠ actual.get? name := by
  simp only [compareWindow, Except.bind_ok, found_ok] at h
  obtain ⟨row, hrow, fields, hfields, actual, hactual, h⟩ := h
  obtain ⟨hsub, hpictures, hmem⟩ := fieldDifferences_ok h
  have hfits := (copiedFields_fits hfields).1
  obtain ⟨_, _, hfits'⟩ := unpackControls_eq hactual
  refine ⟨row, fields, actual, hrow, hfields, hactual, hpictures, hsub.nodup fields.nodup,
    fun name => ?_⟩
  rw [hmem]
  constructor
  · rintro ⟨value, kernel, hitem, hkernel, hne⟩ hsame
    rw [Dict.mem_entries_iff.mp hitem, hkernel] at hsame
    exact hne (by rw [Option.some.inj hsame])
  · intro hne
    have hname : name ∈ layoutNames := by
      by_contra hnot
      have hnone : ∀ {c : Dict String Json}, Fits c → c.get? name = none := fun hc =>
        Option.eq_none_iff_forall_ne_some.mpr fun v hv => hnot ((hc.names name).mp ⟨v, hv⟩)
      exact hne ((hnone hfits).trans (hnone hfits').symm)
    obtain ⟨value, hvalue⟩ := (hfits.names name).mpr hname
    obtain ⟨kernel, hkernel⟩ := (hfits'.names name).mpr hname
    refine ⟨value, kernel, Dict.mem_entries_iff.mpr hvalue, hkernel, fun hwire => hne ?_⟩
    obtain ⟨f, hf, rfl⟩ := List.mem_map.mp hname
    rw [hvalue, hkernel, wireValue_injective (hfits'.range f hf _ hkernel)
      (hfits.range f hf _ hvalue) hwire]

/-- What the windows report together. -/
lemma compareWindows_ok (h : ws.mapM (compareWindow rows flags) = .ok dss)
    (hnodup : (ws.map Window.picture).Nodup) : (dss.flatten.map Difference.key).Nodup ∧
      (∀ w ∈ ws, ∃ ds, compareWindow rows flags w = .ok ds) ∧
      ∀ picture name, (picture, name) ∈ dss.flatten.map Difference.key ↔ ∃ w ∈ ws,
        w.picture = picture ∧ ∃ ds, compareWindow rows flags w = .ok ds ∧
          name ∈ ds.map Difference.field := by
  induction ws generalizing dss with
  | nil =>
      obtain rfl : [] = dss := by simpa using h
      simp
  | cons w ws ih =>
      rw [List.map_cons, List.nodup_cons] at hnodup
      simp only [List.mapM_cons, Except.bind_ok, Except.pure_ok] at h
      obtain ⟨ds, hds, dss, hdss, rfl⟩ := h
      obtain ⟨hrest, hall, hmem⟩ := ih hdss hnodup.2
      obtain ⟨_, _, _, _, _, _, hpictures, hfields, _⟩ := compareWindow_ok hds
      have hkeys : ds.map Difference.key = (ds.map Difference.field).map fun f => (w.picture, f) := by
        rw [List.map_map]
        exact List.map_congr_left fun d hd => congrArg (·, d.field) (hpictures d hd)
      have hinj : Function.Injective fun f : String => (w.picture, f) :=
        fun a b heq => (Prod.mk.inj heq).2
      rw [List.flatten_cons, List.map_append]
      refine ⟨?_, ?_, fun picture name => ?_⟩
      · rw [List.nodup_append', hkeys]
        refine ⟨hfields.map hinj, hrest, fun key hkey hkey' => ?_⟩
        obtain ⟨f, _, rfl⟩ := List.mem_map.mp hkey
        obtain ⟨w', hw', hpicture, _⟩ := (hmem _ _).mp hkey'
        exact hnodup.1 (List.mem_map.mpr ⟨w', hw', hpicture⟩)
      · intro w' hw'
        rcases List.mem_cons.mp hw' with rfl | hw'
        · exact ⟨ds, hds⟩
        · exact hall w' hw'
      · rw [List.mem_append, hmem, hkeys]
        constructor
        · rintro (hkey | ⟨w', hw', hrest⟩)
          · obtain ⟨f, hf, heq⟩ := List.mem_map.mp hkey
            obtain ⟨hpicture, rfl⟩ := Prod.mk.inj heq
            exact ⟨w, List.mem_cons_self, hpicture, ds, hds, hf⟩
          · exact ⟨w', List.mem_cons_of_mem _ hw', hrest⟩
        · rintro ⟨w', hw', hpicture, ds', hds', hname⟩
          rcases List.mem_cons.mp hw' with rfl | hw'
          · obtain rfl := Except.ok.inj (hds.symm.trans hds')
            exact .inl (List.mem_map.mpr ⟨name, hname, by rw [hpicture]⟩)
          · exact .inr ⟨w', hw', hpicture, ds', hds', hname⟩

/-- A window has the picture that it is read for. -/
lemma readWindow_picture {histories : List History} {pic : ℕ} {line controls : List Char}
    (h : readWindow histories pic line controls = .ok w) : w.picture = pic := by
  simp only [readWindow, Except.bind_ok, Except.pure_ok] at h
  obtain ⟨_, _, numbers, _, hist, _, w', hw', _, _, _, _, _, _, _, _, rfl⟩ := h
  unfold windowOf at hw'
  split at hw'
  · simp only [Except.bind_ok, Except.pure_ok] at hw'
    obtain ⟨_, _, _, _, _, _, _, _, rfl⟩ := hw'
    rfl
  · exact absurd hw' (by simp)

/-- The windows of a capture are of pictures 24 to 34. -/
lemma parseSnapshot_pictures (h : parseSnapshot text run = .ok capture) :
    capture.windows.map Window.picture = (List.range 11).map (24 + ·) := by
  simp only [parseSnapshot, Except.bind_ok, Except.pure_ok] at h
  obtain ⟨_, _, _, _, _, _, _, _, _, _, _, _, pictures, _, windows, hwindows, rfl⟩ := h
  obtain ⟨hlength, hget⟩ := mapM_ok hwindows
  refine List.ext_getElem? fun n => ?_
  rw [List.getElem?_map, List.getElem?_map]
  cases hw : windows[n]? with
  | none =>
      rw [List.getElem?_eq_none_iff, hlength] at hw
      rw [List.getElem?_eq_none_iff.mpr hw]
      rfl
  | some w =>
      have hn : n < (List.range 11).length := by
        rw [← hlength]
        exact (List.getElem?_eq_some_iff.mp hw).1
      have hslot := List.getElem?_eq_getElem hn
      rw [hslot, Option.map_some, Option.map_some, readWindow_picture (hget n _ w hslot hw)]

/-- The rows are numbered from one. -/
lemma rows_at (h : rows.map Row.picture = (List.range 300).map fun n : ℕ => (n : ℤ) + 1) {n : ℕ}
    (hn : 0 < n) : rows[n - 1]? = some row ↔ row ∈ rows ∧ row.picture = n := by
  have hpicture : ∀ {i : ℕ} {r : Row}, rows[i]? = some r → r.picture = (i : ℤ) + 1 := by
    intro i r hr
    have hmap := congrArg (·[i]?) h
    simp only [List.getElem?_map, hr, Option.map_some] at hmap
    cases hrange : (List.range 300)[i]? with
    | none => rw [hrange] at hmap; exact absurd hmap (by simp)
    | some k =>
        obtain ⟨hlt, rfl⟩ := List.getElem?_eq_some_iff.mp hrange
        rw [hrange, List.getElem_range] at hmap
        exact Option.some.inj hmap
  constructor
  · intro hrow
    refine ⟨List.mem_of_getElem? hrow, ?_⟩
    rw [hpicture hrow]
    omega
  · rintro ⟨hmem, hnumber⟩
    obtain ⟨i, hi⟩ := List.getElem?_of_mem hmem
    have hi' := hpicture hi
    obtain rfl : i = n - 1 := by omega
    exact hi

end Windows

/-! ### One capture -/

/-- One flag of the sequence. -/
def oneFlag (name : String) (base : Base) : List String := if base = .sps then [name] else []

/-- The rows of the pictures of `interSlice`; the one flag of its sequence is under a name for each
picture. -/
def interRow (name : ℕ → String) (n : ℕ) : Row :=
  { picture := n + 1
    run := "1"
    poc := 0
    target := 0
    controls := ioctlControls interSlice.controls (oneFlag (name n)) }

def interRows (name : ℕ → String) : List Row := (List.range 300).map (interRow name)

section Inter

variable {name : ℕ → String} {n : ℕ} {w : CmdWindow}

lemma inter_mask (hname : uapiFlags.get? (name n) = some 2) (p : Field × Base) (hp : p ∈ copiedLayout)
    (hflags : isFlags p.1.name = true) :
    flagsValue uapiFlags (.arr ((oneFlag (name n) p.2).map .str)) =
      .ok (memberValue interSlice.controls p.1.member) := by
  have hfields : ∀ p ∈ copiedLayout, isFlags p.1.name = true →
      intOf (memberValue interSlice.controls p.1.member) = some (if p.2 = .sps then 2 else 0) := by
    decide +kernel
  have hvalue := hfields p hp hflags
  have hmember : memberValue interSlice.controls p.1.member = .int (if p.2 = .sps then 2 else 0) := by
    cases hm : memberValue interSlice.controls p.1.member with
    | int m => rw [hm] at hvalue; exact congrArg Json.int (Option.some.inj hvalue)
    | _ => rw [hm] at hvalue; exact absurd hvalue (by simp [intOf])
  rw [hmember]
  by_cases hsps : p.2 = .sps <;>
    simp [hsps, oneFlag, flagsValue, flagOf, hname, found, need, hashable, bind, Except.bind, pure, Except.pure]

/-- Values that are equal are not reported. -/
lemma fieldDifferences_same {w : Window} {actual : Dict String Json} {items : List (String × Json)}
    (h : ∀ item ∈ items, actual.get? item.1 = some item.2) :
    fieldDifferences w actual items = .ok [] := by
  induction items with
  | nil => rfl
  | cons item items ih =>
      simp only [fieldDifferences, Except.bind_ok, found_ok]
      refine ⟨_, h item List.mem_cons_self, [], ih fun i hi => h i (List.mem_cons_of_mem _ hi), ?_⟩
      rw [if_pos rfl]
      rfl

lemma interRows_get? (hn : n < 300) : (interRows name)[n]? = some (interRow name n) := by
  rw [interRows, List.getElem?_map, List.getElem?_range hn]
  rfl

/-- The window of such a picture reports nothing. -/
lemma compareWindow_inter (hw : w.controls = interSlice.controlBytes) (hpicture : w.picture = n + 1)
    (hn : n < 300) (hname : uapiFlags.get? (name n) = some 2) :
    compareWindow (interRows name) uapiFlags (Window.ofWindow w) = .ok [] := by
  obtain ⟨c, hc, hmember, _⟩ := unpack_chunks fun f _ => f.member.length_chunk interSlice.controls
  have hbytes := ofFn_controlBytes interSlice
  rw [packControls_eq] at hbytes
  rw [← hbytes, ← hw] at hc
  have hwindow : (Window.ofWindow w).controls = List.ofFn w.controls := by rw [Window.ofWindow]
  have hdomain : validateControls c = .ok () := by
    rw [(unpackControls_eq hc).1]
    exact interSlice_domain hw
  obtain ⟨fields, hfields, hsame⟩ := copiedFields_ioctl (inter_mask hname) hc
    (fun f hf => by rw [hmember f hf, readField_chunk]) hdomain
  have hcontrols : (interRow name n).controls =
      ioctlControls interSlice.controls (oneFlag (name n)) := by rw [interRow]
  rw [← hcontrols] at hfields
  rw [← hwindow] at hc
  simp only [compareWindow, Except.bind_ok, found_ok]
  refine ⟨interRow name n, ?_, fields, hfields, c, hc, fieldDifferences_same fun item hitem => ?_⟩
  · rw [Window.ofWindow, hpicture, Nat.add_sub_cancel]
    exact interRows_get? hn
  · rw [← hsame]
    exact Dict.mem_entries_iff.mp hitem

/-- Its history row is that of its controls. -/
lemma checkHistory_inter :
    checkHistory (History.ofHist (interSlice.hist (n + 1)), interRow name n) = .ok () := by
  have hfield : (⟨"slice_type", .u8 (·.sl.sliceType)⟩, .sl) ∈ copiedLayout := by
    simp [copiedLayout, controlLayout, bases]
  have hmember := member?_inputMembers interSlice.controls (oneFlag (name n)) hfield
  have hkind : subscript (.obj (("v4l2_hevc_pred_weight_table",
      .obj (inputMembers interSlice.controls (oneFlag (name n)) .w)) ::
        inputMembers interSlice.controls (oneFlag (name n)) .sl)) "slice_type" = .ok (.int 1) := by
    rw [subscript_ok, Json.member?, List.find?_cons_of_neg (by simp)]
    exact hmember
  simp only [checkHistory, Except.bind_ok, need_ok]
  exact ⟨_, rfl, _, hkind, ⟨by rw [interRow]; rfl, rfl, rfl, rfl⟩⟩

lemma forM_of_forall {α : Type} {f : α → Except String Unit} {l : List α}
    (h : ∀ a ∈ l, f a = .ok ()) : l.forM f = .ok () := by
  induction l with
  | nil => rfl
  | cons a l ih =>
      refine Except.bind_ok.mpr ⟨(), h a List.mem_cons_self, ?_⟩
      exact ih fun b hb => h b (List.mem_cons_of_mem a hb)

/-- The comparison of a recording of such pictures reports nothing, whatever the names are that the
flag is under, as long as they are of its bit. -/
lemma compare_inter {capture : Snapshot} (hpictures : capture.pictures =
      List.ofFn fun i : Fin 300 => History.ofHist (interSlice.hist (i + 1)))
    (hwindows : ∀ w ∈ capture.windows, ∃ (n : ℕ) (cw : CmdWindow), n < 300 ∧
      cw.controls = interSlice.controlBytes ∧ cw.picture = n + 1 ∧ w = Window.ofWindow cw)
    (hname : ∀ n, uapiFlags.get? (name n) = some 2) :
    compare capture (interRows name) uapiFlags = .ok [] := by
  have hrows : ∀ p ∈ capture.pictures.zip (interRows name), checkHistory p = .ok () := by
    intro p hp
    obtain ⟨n, hn, rfl⟩ := List.mem_iff_getElem.mp hp
    rw [List.getElem_zip]
    have hrow : (interRows name)[n]? = some (interRow name n) := interRows_get? (by
      rw [List.length_zip, hpictures, List.length_ofFn] at hn
      omega)
    rw [(List.getElem?_eq_some_iff.mp hrow).2]
    simp only [hpictures, List.getElem_ofFn]
    exact checkHistory_inter
  have hall : ∀ ws : List Window, (∀ w ∈ ws, compareWindow (interRows name) uapiFlags w = .ok []) →
      ∃ dss, ws.mapM (compareWindow (interRows name) uapiFlags) = .ok dss ∧ dss.flatten = [] := by
    intro ws hws
    induction ws with
    | nil => exact ⟨[], rfl, rfl⟩
    | cons w ws ih =>
        obtain ⟨dss, hdss, hflat⟩ := ih fun w hw => hws w (List.mem_cons_of_mem _ hw)
        refine ⟨[] :: dss, ?_, hflat⟩
        simp only [List.mapM_cons, Except.bind_ok, Except.pure_ok]
        exact ⟨[], hws w List.mem_cons_self, dss, hdss, rfl⟩
  simp only [compare, Except.bind_ok, need_ok, Except.pure_ok]
  refine ⟨(), ⟨?_, ?_⟩, (), ?_, (), forM_of_forall hrows, hall _ ?_⟩
  · rw [interRows, List.length_map, List.length_range]
  · rw [interRows, List.map_map]
    rfl
  · intro row hrow
    obtain ⟨n, _, rfl⟩ := List.mem_map.mp hrow
    rfl
  · intro w hw
    obtain ⟨n, cw, hn, hcontrols, hpicture, rfl⟩ := hwindows w hw
    exact compareWindow_inter hcontrols hpicture hn (hname n)

/-- A recording of such pictures. -/
lemma inter_parsed : ∃ text capture, parseSnapshot text 1 = .ok capture ∧
    ∀ name : ℕ → String, (∀ n, uapiFlags.get? (name n) = some 2) →
      compare capture (interRows name) uapiFlags = .ok [] := by
  obtain ⟨ops, c, hcaptured, hreadable, hhist, hcontrols⟩ := oneWord_captured
  obtain ⟨_, _, hparse⟩ := parse_lines hcaptured hreadable
  refine ⟨_, _, hparse, fun name hname => compare_inter ?_ ?_ hname⟩
  · simp only [hhist]
  · intro w hw
    obtain ⟨s, rfl⟩ := List.mem_ofFn.mp hw
    have hkept := hcaptured.whole.2.2.window s (by
      have hpictures : c.pictures = 300 := congrArg Core.pictures hcaptured.whole.1
      rw [hpictures, firstDetail]
      omega)
    refine ⟨23 + s, c.window s, by omega, hcontrols s, ?_, rfl⟩
    rw [hkept.picture, firstDetail]
    omega

end Inter

/-! ### The comparison -/

section Compare

variable {text : List Char} {run : ℤ} {capture : Snapshot} {rows rows₀ : List Row}
  {flags : Dict String ℕ} {w : Window} {ds : List Difference}

/-- What a comparison that raises nothing reports. -/
lemma compare_ok (h : compare capture rows flags = .ok ds) :
    (rows.map Row.picture = (List.range 300).map fun n : ℕ => (n : ℤ) + 1) ∧
      ∃ dss, capture.windows.mapM (compareWindow rows flags) = .ok dss ∧ dss.flatten = ds := by
  simp only [compare, Except.bind_ok, need_ok, Except.pure_ok] at h
  obtain ⟨_, hextent, _, _, _, _, dss, hdss, rfl⟩ := h
  exact ⟨hextent.2, dss, hdss, rfl⟩

/-- The windows of a capture are of different pictures. -/
lemma windows_nodup (hparse : parseSnapshot text run = .ok capture) :
    (capture.windows.map Window.picture).Nodup := by
  rw [parseSnapshot_pictures hparse]
  exact List.nodup_range.map fun a b hab => Nat.add_left_cancel hab

lemma windows_pos (hparse : parseSnapshot text run = .ok capture) (hw : w ∈ capture.windows) :
    0 < w.picture := by
  have hmem : w.picture ∈ capture.windows.map Window.picture := List.mem_map_of_mem hw
  rw [parseSnapshot_pictures hparse] at hmem
  obtain ⟨n, _, hn⟩ := List.mem_map.mp hmem
  omega

/-- What is reported of a window: the names whose decoded values differ from those copied of the one
row of its picture. -/
lemma compare_window (hparse : parseSnapshot text run = .ok capture)
    (h : compare capture rows flags = .ok ds) (hw : w ∈ capture.windows) :
    ∃ row ∈ rows, row.picture = w.picture ∧
      (∀ row' ∈ rows, row'.picture = w.picture → row' = row) ∧ ∃ fields actual,
        copiedFields row.controls flags = .ok fields ∧ unpackControls w.controls = .ok actual ∧
          ∀ name, (w.picture, name) ∈ ds.map Difference.key ↔
            fields.get? name ≠ actual.get? name := by
  have hpos := windows_pos hparse hw
  have hnodup := windows_nodup hparse
  obtain ⟨hextent, dss, hdss, rfl⟩ := compare_ok h
  obtain ⟨_, hall, hmem⟩ := compareWindows_ok hdss hnodup
  obtain ⟨dsw, hdsw⟩ := hall w hw
  obtain ⟨row, fields, actual, hrow, hfields, hactual, _, _, hnames⟩ := compareWindow_ok hdsw
  obtain ⟨hin, hpicture⟩ := (rows_at hextent hpos).mp hrow
  refine ⟨row, hin, hpicture, fun row' hin' hpicture' => ?_, fields, actual, hfields, hactual,
    fun name => ?_⟩
  · have hrow' := (rows_at hextent hpos).mpr ⟨hin', hpicture'⟩
    exact Option.some.inj (hrow'.symm.trans hrow)
  · rw [hmem, ← hnames]
    constructor
    · rintro ⟨w', hw', hsame, dsw', hdsw', hname⟩
      obtain rfl := List.inj_on_of_nodup_map hnodup hw' hw hsame
      obtain rfl := Except.ok.inj (hdsw.symm.trans hdsw')
      exact hname
    · exact fun hname => ⟨w, hw, rfl, dsw, hdsw, hname⟩

/-- What is reported is of a window, and reported once. -/
lemma compare_keys (hparse : parseSnapshot text run = .ok capture)
    (h : compare capture rows flags = .ok ds) : (ds.map Difference.key).Nodup ∧
      ∀ key ∈ ds.map Difference.key, ∃ w ∈ capture.windows, w.picture = key.1 := by
  obtain ⟨_, dss, hdss, rfl⟩ := compare_ok h
  obtain ⟨hnodup, _, hmem⟩ := compareWindows_ok hdss (windows_nodup hparse)
  refine ⟨hnodup, ?_⟩
  rintro ⟨picture, name⟩ hkey
  obtain ⟨w, hw, hpicture, _⟩ := (hmem picture name).mp hkey
  exact ⟨w, hw, hpicture⟩

/-- **The comparison is complete.**  Of a parsed capture and controls on which it raises nothing:
nothing is reported just when the control bytes of each window are those packed of the controls of its
picture; each pair of a picture and a field is reported at most once, and just when its decoded value
differs from the copied one; and where one list of controls reports nothing, another reports each field
of a window whose input differs, for flags as another set of the control's own. -/
theorem compare_complete (hparse : parseSnapshot text run = .ok capture)
    (h : compare capture rows flags = .ok ds) :
    (ds = [] ↔ ∀ w ∈ capture.windows, ∃ row ∈ rows, row.picture = w.picture ∧
      ∃ fields, copiedFields row.controls flags = .ok fields ∧
        packControls fields = .ok w.controls) ∧
    (ds.map Difference.key).Nodup ∧
    (∀ picture name, (picture, name) ∈ ds.map Difference.key ↔ ∃ w ∈ capture.windows,
      w.picture = picture ∧ ∃ row ∈ rows, row.picture = w.picture ∧ ∃ fields actual,
        copiedFields row.controls flags = .ok fields ∧ unpackControls w.controls = .ok actual ∧
          fields.get? name ≠ actual.get? name) ∧
    (Separates flags → ∀ rows₀, compare capture rows₀ flags = .ok [] → ∀ w ∈ capture.windows,
      ∀ row₀ ∈ rows₀, row₀.picture = w.picture → ∀ row ∈ rows, row.picture = w.picture →
        ∀ p ∈ copiedLayout, ∀ v₀ v, fieldInput row₀.controls p = .ok v₀ →
          fieldInput row.controls p = .ok v → Changed p v₀ v →
            (w.picture, p.1.name) ∈ ds.map Difference.key) := by
  have hone := fun {w} (hw : w ∈ capture.windows) => compare_window hparse h hw
  obtain ⟨hnodup, hwindow⟩ := compare_keys hparse h
  refine ⟨⟨?_, ?_⟩, ?_, fun picture name => ⟨?_, ?_⟩, ?_⟩
  · rintro rfl w hw
    obtain ⟨row, hin, hpicture, _, fields, actual, hfields, hactual, hnames⟩ := hone hw
    refine ⟨row, hin, hpicture, fields, hfields, ?_⟩
    refine (pack_eq_iff (copiedFields_fits hfields).1 hactual).mpr fun name => ?_
    by_contra hne
    exact absurd ((hnames name).mpr hne) List.not_mem_nil
  · intro hall
    refine List.map_eq_nil_iff.mp (List.eq_nil_iff_forall_not_mem.mpr ?_ :
      ds.map Difference.key = [])
    rintro ⟨picture, name⟩ hkey
    obtain ⟨w, hw, rfl⟩ := hwindow _ hkey
    obtain ⟨row, _, _, huniq, fields, actual, hfields, hactual, hnames⟩ := hone hw
    obtain ⟨row', hin', hpicture', fields', hfields', hpack⟩ := hall w hw
    obtain rfl := huniq row' hin' hpicture'
    obtain rfl := Except.ok.inj (hfields.symm.trans hfields')
    exact (hnames name).mp hkey
      ((pack_eq_iff (copiedFields_fits hfields).1 hactual).mp hpack name)
  · exact hnodup
  · intro hkey
    obtain ⟨w, hw, hpicture⟩ := hwindow _ hkey
    subst hpicture
    obtain ⟨row, hin, hpicture, _, fields, actual, hfields, hactual, hnames⟩ := hone hw
    exact ⟨w, hw, rfl, row, hin, hpicture, fields, actual, hfields, hactual,
      (hnames name).mp hkey⟩
  · rintro ⟨w, hw, rfl, row', hin', hpicture', fields', actual', hfields', hactual', hne⟩
    obtain ⟨row, _, _, huniq, fields, actual, hfields, hactual, hnames⟩ := hone hw
    obtain rfl := huniq row' hin' hpicture'
    obtain rfl := Except.ok.inj (hfields.symm.trans hfields')
    obtain rfl := Except.ok.inj (hactual.symm.trans hactual')
    exact (hnames name).mpr hne
  · intro hflags rows₀ h₀ w hw row₀' hin₀ hpicture₀ row' hin hpicture p hp v₀ v hv₀ hv hchanged
    obtain ⟨row₀, _, _, huniq₀, fields₀, actual, hfields₀, hactual, hnames₀⟩ := compare_window hparse h₀ hw
    obtain ⟨row, _, _, huniq, fields, actual', hfields, hactual', hnames⟩ := hone hw
    obtain rfl := huniq₀ row₀' hin₀ hpicture₀
    obtain rfl := huniq row' hin hpicture
    obtain rfl := Except.ok.inj (hactual.symm.trans hactual')
    obtain ⟨u₀, x₀, hu₀, hx₀, hget₀⟩ := (copiedFields_fits hfields₀).2 p hp
    obtain ⟨u, x, hu, hx, hget⟩ := (copiedFields_fits hfields).2 p hp
    obtain rfl := Except.ok.inj (hu₀.symm.trans hv₀)
    obtain rfl := Except.ok.inj (hu.symm.trans hv)
    have hsame : fields₀.get? p.1.name = actual.get? p.1.name := by
      by_contra hne
      exact absurd ((hnames₀ p.1.name).mpr hne) List.not_mem_nil
    refine (hnames p.1.name).mpr fun heq => ?_
    rw [← hsame, hget₀, hget] at heq
    exact copiedValue_injective hflags hx₀ hx hchanged (Option.some.inj heq).symm

lemma uapiFlags_scalingList : uapiFlags.get? "V4L2_HEVC_SPS_FLAG_SCALING_LIST_ENABLED" = some 2 := by
  rw [@uapiFlags_own .sps _ (by simp [ownFlags])]
  simp [ownFlags]

lemma uapiFlags_outputFlag : uapiFlags.get? "V4L2_HEVC_PPS_FLAG_OUTPUT_FLAG_PRESENT" = some 2 := by
  rw [@uapiFlags_own .pps _ (by simp [ownFlags])]
  simp [ownFlags]

/-- A recording of one flag under its own name. -/
theorem interRows_compared : ∃ text capture rows, parseSnapshot text 1 = .ok capture ∧
    compare capture rows uapiFlags = .ok [] ∧ ∀ w ∈ capture.windows, ∃ row ∈ rows,
      row.picture = w.picture ∧ ∃ fields, copiedFields row.controls uapiFlags = .ok fields ∧
        packControls fields = .ok w.controls := by
  obtain ⟨text, capture, hparse, hcompare⟩ := inter_parsed
  have hrows := hcompare (fun _ => "V4L2_HEVC_SPS_FLAG_SCALING_LIST_ENABLED") fun _ =>
    uapiFlags_scalingList
  exact ⟨text, capture, _, hparse, hrows, (compare_complete hparse hrows).1.mp rfl⟩

/-- A change of the flags of a sequence is not reported where the other name is a flag of the picture
parameters, of the same bit. -/
theorem other_flag_unreported : ¬∀ (text : List Char) (capture : Snapshot) (rows₀ rows : List Row)
    (ds : List Difference), parseSnapshot text 1 = .ok capture →
      compare capture rows₀ uapiFlags = .ok [] → compare capture rows uapiFlags = .ok ds →
      ∀ w ∈ capture.windows, ∀ row₀ ∈ rows₀, row₀.picture = w.picture → ∀ row ∈ rows,
        row.picture = w.picture → ∀ p ∈ copiedLayout, ∀ v₀ v, fieldInput row₀.controls p = .ok v₀ →
          fieldInput row.controls p = .ok v → v₀ ≠ v →
            (w.picture, p.1.name) ∈ ds.map Difference.key := by
  intro hall
  obtain ⟨text, capture, hparse, hcompare⟩ := inter_parsed
  let own : ℕ → String := fun _ => "V4L2_HEVC_SPS_FLAG_SCALING_LIST_ENABLED"
  let other : ℕ → String := fun n =>
    if n = 23 then "V4L2_HEVC_PPS_FLAG_OUTPUT_FLAG_PRESENT" else own n
  have hown := hcompare own fun _ => uapiFlags_scalingList
  have hother := hcompare other fun n => by
    by_cases hn : n = 23
    · simp only [other, if_pos hn]
      exact uapiFlags_outputFlag
    · simp only [other, if_neg hn]
      exact uapiFlags_scalingList
  have hpicture : 24 ∈ capture.windows.map Window.picture := by
    rw [parseSnapshot_pictures hparse]
    decide
  obtain ⟨w, hw, hw24⟩ := List.mem_map.mp hpicture
  have hrow : ∀ name, ∃ row ∈ interRows name, row.picture = w.picture ∧
      row.controls = ioctlControls interSlice.controls (oneFlag (name 23)) := by
    intro name
    refine ⟨interRow name 23, List.mem_of_getElem? (interRows_get? (by decide)), ?_, by rw [interRow]⟩
    rw [hw24, interRow]
    rfl
  obtain ⟨row₀, hrow₀, hpicture₀, hcontrols₀⟩ := hrow own
  obtain ⟨row, hrow, hpicture, hcontrols⟩ := hrow other
  have hfield : (⟨"sps_flags", .u64 (·.sps.flags)⟩, .sps) ∈ copiedLayout := by
    simp [copiedLayout, controlLayout, bases]
  refine absurd (hall text capture _ _ [] hparse hown hother w hw row₀ hrow₀ hpicture₀ row hrow hpicture
    _ hfield _ _ (hcontrols₀ ▸ fieldInput_ioctl _ _ hfield) (hcontrols ▸ fieldInput_ioctl _ _ hfield) ?_)
    List.not_mem_nil
  have hflags : isFlags "sps_flags" = true := by decide
  rw [inputValue, inputValue, if_pos hflags, if_pos hflags]
  simp [oneFlag, own, other]

end Compare

end OmarchyM1Video.CommandTrace
