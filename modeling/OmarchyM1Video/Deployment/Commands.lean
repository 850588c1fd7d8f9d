import OmarchyM1Video.Deployment.Validity

/-!
The eight commands of a campaign: `command_matrix` of `deployment/build.py`, and the section of the
commands in `deployment/manifest.py`.

* `Path`: a path of `pathlib`;
* `clientArgv`, `environmentOf`, `commandOf`, `commandMatrix`: the commands that are built;
* `checkCommand`, `checkCommands`: the section of the commands in `validate`;
* `Clear`: paths that are no placeholders of a run, nor is the directory of the oracle;
* `checkCommands_commandMatrix`: the commands that are built of such paths pass.
-/

namespace OmarchyM1Video.Deployment

open OmarchyM1Video.Py
open OmarchyM1Video.ReferenceContent (hasKeys)

/-! ### Paths -/

/-- A `PurePosixPath`: its root and its parts. -/
structure Path where
  root : String
  parts : List String
  deriving DecidableEq

/-- The root of a path that is written so. -/
def rootOf : List Char → String
  | '/' :: '/' :: '/' :: _ => "/"
  | '/' :: '/' :: _ => "//"
  | '/' :: _ => "/"
  | _ => ""

/-- `Path(text)`. -/
def Path.parse (text : String) : Path :=
  { root := rootOf text.toList
    parts := ((text.toList.splitOnP (· = '/')).filter fun part => part ≠ [] ∧ part ≠ ['.']).map
      String.ofList }

/-- `str(path)`. -/
def Path.str (path : Path) : String :=
  let text := path.root ++ "/".intercalate path.parts
  if text = "" then "." else text

/-- `path.parent`. -/
def Path.parent (path : Path) : Path := { path with parts := path.parts.dropLast }

lemma Path.str_ne (path : Path) : path.str ≠ "" := by
  simp only [Path.str]
  split
  · decide
  · assumption

/-! ### The commands that are built -/

/-- `@OMARCHY_RUN_ROOT@`. -/
def runRoot : String := "@OMARCHY_RUN_ROOT@"

/-- `@OMARCHY_KERNEL_RUN@`. -/
def kernelRun : String := "@OMARCHY_KERNEL_RUN@"

/-- The placeholders of a run. -/
def placeholders : List String := [runRoot, kernelRun]

/-- A command. -/
structure Command where
  name : String
  client : String
  vector : String
  copy : Bool
  environment : List (String × String)
  argv : List String

/-- `client_argv`. -/
def clientArgv (artifacts : String → Path) (source selected client : String) (copied : Bool) :
    List String :=
  if client = "va" then
    [(artifacts "ffmpeg").str, "-nostdin", "-xerror", "-loglevel", "debug", "-init_hw_device",
      "vaapi=observer:,connection_type=drm,observer_copy_readback=1", "-threads:v:0", "1",
      "-hwaccel", "vaapi", "-hwaccel_device", "observer", "-hwaccel_output_format", "vaapi",
      "-va_observer_outputs:v:0", selected, "-va_observer_copy:v:0", if copied then "1" else "0",
      "-va_observer_report:v:0", "@OMARCHY_OBSERVER_REPORT@", "-i", source, "-map", "0:v:0",
      "-fps_mode", "passthrough", "-vf", "hwdownload,format=nv12,format=yuv420p", "-f", "framemd5",
      "@OMARCHY_RUN_ROOT@/frames.md5"]
  else
    [(artifacts "gst_launch").str, "-e", "filesrc", "location=" ++ source, "!", "h265parse", "!",
      "v4l2slh265dec", "hevc-observer-frames=" ++ selected,
      "hevc-observer-copy=" ++ if copied then "true" else "false",
      "hevc-observer-report=@OMARCHY_OBSERVER_REPORT@", "!", "videoconvert", "!",
      "video/x-raw,format=I420", "!", "filesink", "location=@OMARCHY_RUN_ROOT@/output.yuv"]

/-- `environment`. -/
def environmentOf (artifacts : String → Path) (client : String) : List (String × String) :=
  [("LC_ALL", "C"), ("PATH", "/usr/bin"), ("PYTHONNOUSERSITE", "1"),
    ("PYTHONDONTWRITEBYTECODE", "1")] ++
  if client = "va" then
    [("LIBVA_DRIVER_NAME", "v4l2_request"),
      ("LIBVA_DRIVERS_PATH", (artifacts "va_driver").parent.str), ("AV_LOG_FORCE_NOCOLOR", "1")]
  else
    [("GST_PLUGIN_PATH_1_0", (artifacts "gst_plugin").parent.str),
      ("GST_PLUGIN_SYSTEM_PATH_1_0", (artifacts "gst_plugin").parent.str),
      ("GST_REGISTRY_FORK", "no"), ("GST_REGISTRY", "@OMARCHY_RUN_ROOT@/gst-registry.bin")]

/-- `",".join(map(str, selectors))`. -/
def selectedText (selectors : List ℤ) : String := ",".intercalate (selectors.map toString)

/-- A command of the matrix. -/
def commandOf (artifacts : String → Path) (source selected vector client : String) (copied : Bool) :
    Command :=
  { name := nameOf vector client copied
    client
    vector
    copy := copied
    environment := environmentOf artifacts client
    argv := [(artifacts "python").str, "-s", (artifacts "same_run_supervisor").str, "--root",
        "@OMARCHY_RUN_ROOT@", "--client", client, "--selectors", selected, "--copy",
        if copied then "on" else "off", "--kernel-run", "@OMARCHY_KERNEL_RUN@", "--deadline", "90",
        "--uapi", (artifacts "uapi").str, "--oracle", (artifacts "oracle_identity").parent.str,
        "--"] ++ clientArgv artifacts source selected client copied }

/-- `by_key[(client, vector)]["selectors"]`. -/
def selectorsAt (targets : List Json) (client vector : String) : List ℤ :=
  ((pick targets client vector).map (·.selectors)).getD []

/-- `command_matrix(artifacts, corpus, targets)`, of the paths in `corpus`. -/
def commandMatrix (artifacts : String → Path) (corpus : String → String) (targets : List Json) :
    Check (List Command) := do
  need (∀ key ∈ groupKeys, (pick targets key.1 key.2).isSome) (.builtin .keyError)
  return matrix.map fun p => commandOf artifacts (corpus p.1)
    (selectedText (selectorsAt targets p.2.1 p.1)) p.1 p.2.1 p.2.2

/-- A command as it is in the manifest. -/
def Command.json (c : Command) : Json :=
  .obj [("name", .str c.name), ("client", .str c.client), ("vector", .str c.vector),
    ("copy", .bool c.copy), ("environment", .obj (c.environment.map fun m => (m.1, .str m.2))),
    ("argv", .arr (c.argv.map .str))]

/-- The members of a command in the manifest. -/
lemma Command.json_get? (c : Command) : c.json.get? "name" = some (.str c.name) ∧
    c.json.get? "client" = some (.str c.client) ∧ c.json.get? "vector" = some (.str c.vector) ∧
    c.json.get? "copy" = some (.bool c.copy) ∧
    c.json.get? "environment" = some (.obj (c.environment.map fun m => (m.1, .str m.2))) ∧
    c.json.get? "argv" = some (.arr (c.argv.map .str)) := by
  simp [Command.json, Json.get?, Json.member?]

/-! ### The section of the commands -/

/-- `type(value) is bool`. -/
def boolOf : Json → Option Bool
  | .bool b => some b
  | _ => none

/-- A list of texts. -/
def textsOf (value : Json) : Option (List String) := (listOf value).bind (·.mapM textOf)

/-- A dictionary of texts. -/
def dictOf : Json → Option (List (String × String))
  | .obj members => members.mapM fun m => (textOf m.2).map (m.1, ·)
  | _ => none

/-- The fields of a command. -/
def commandKeys : List String := ["name", "client", "vector", "copy", "environment", "argv"]

/-- A command of the list; the value is its vector, its client and its mode. -/
def checkCommand (index : ℕ) (row : Json) : Check (String × String × Bool) := do
  let at_ := "commands[" ++ toString index ++ "]"
  need (hasKeys commandKeys row = true) (.raise (at_ ++ " has unexpected fields"))
  let argv ← found ((row.get? "argv").bind textsOf) (.raise (at_ ++ ".argv is invalid"))
  need (argv ≠ [] ∧ ∀ item ∈ argv, item ≠ "") (.raise (at_ ++ ".argv is invalid"))
  let environment ← found ((row.get? "environment").bind dictOf)
    (.raise (at_ ++ ".environment is invalid"))
  need (environment ≠ [] ∧ ∀ m ∈ environment, m.1 ≠ "" ∧ m.2 ≠ "")
    (.raise (at_ ++ ".environment is invalid"))
  need (argv.count runRoot = 1 ∧ argv.count kernelRun = 1)
    (.raise (at_ ++ " lacks fresh run placeholders"))
  let client ← found ((row.get? "client").bind textOf) (.raise (at_ ++ " identity is invalid"))
  let vector ← found ((row.get? "vector").bind textOf) (.raise (at_ ++ " identity is invalid"))
  let copy ← found ((row.get? "copy").bind boolOf) (.raise (at_ ++ " identity is invalid"))
  need (client ∈ clients ∧ vector ∈ vectors ∧
      (row.get? "name").bind textOf = some (nameOf vector client copy))
    (.raise (at_ ++ " identity is invalid"))
  return (vector, client, copy)

/-- The commands in `validate(document)`. -/
def checkCommands (commands : Json) : Check Unit := do
  let rows ← found (listOf commands) (.raise "eight admitted workload commands required")
  need (rows.length = 8) (.raise "eight admitted workload commands required")
  let keys ← rows.zipIdx.mapM fun p => checkCommand p.2 p.1
  need ((keys.map fun p => nameOf p.1 p.2.1 p.2.2).eraseDups.length = 8)
    (.raise "workload command names are not unique")
  need ((∀ key ∈ keys, key ∈ matrix) ∧ ∀ key ∈ matrix, key ∈ keys)
    (.raise "workload command matrix is incomplete")

/-! ### The commands that are built pass -/

/-- A text that is an argument, but no placeholder. -/
def Plain (s : String) : Prop := s ≠ "" ∧ s ∉ placeholders

instance (s : String) : Decidable (Plain s) := inferInstanceAs (Decidable (_ ∧ _))

/-- Paths that are no placeholders; nor is the directory of the oracle, which is an argument of its
own. -/
structure Clear (artifacts : String → Path) (corpus : String → String) : Prop where
  artifact : ∀ name, (artifacts name).str ∉ placeholders
  oracle : (artifacts "oracle_identity").parent.str ∉ placeholders
  corpus : ∀ vector ∈ vectors, Plain (corpus vector)

/-- A placeholder starts with its sign. -/
lemma plain_of_head {s : String} {c : Char} (hs : s.toList.head? = some c) (hc : c ≠ '@') :
    Plain s := by
  have hsign : ∀ t ∈ placeholders, t.toList.head? = some '@' := by decide
  refine ⟨?_, fun hmem => hc (Option.some.inj (hs.symm.trans (hsign s hmem)))⟩
  rintro rfl
  rw [String.toList_empty] at hs
  exact absurd hs (by simp)

/-- An integer is printed by at least one character, which is no sign of a placeholder. -/
lemma toString_head (n : ℤ) : ∃ c, (toString n).toList.head? = some c ∧ c ≠ '@' := by
  rw [Int.toString_eq_repr, Int.repr_eq_if]
  split
  · rw [Nat.toList_repr]
    cases hdigits : Nat.toDigits 10 n.toNat with
    | nil => exact absurd hdigits Nat.toDigits_ne_nil
    | cons c cs =>
        refine ⟨c, rfl, ?_⟩
        rintro rfl
        have hdigit : ('@').isDigit = true :=
          Nat.isDigit_of_mem_toDigits (by decide) (by decide) (hdigits ▸ List.mem_cons_self)
        exact absurd hdigit (by decide)
  · exact ⟨'-', by rw [String.toList_append]; rfl, by decide⟩

lemma plain_selectedText {selectors : List ℤ} (h : selectors ≠ []) :
    Plain (selectedText selectors) := by
  cases selectors with
  | nil => exact absurd rfl h
  | cons n ns =>
      obtain ⟨c, hn, hc⟩ := toString_head n
      refine plain_of_head (c := c) ?_ hc
      rw [selectedText, List.map_cons]
      cases ns.map toString with
      | nil => rw [String.intercalate_singleton, hn]
      | cons t ts =>
          rw [String.intercalate_cons_cons, String.toList_append, String.toList_append,
            List.append_assoc, List.head?_append, hn, Option.some_or]

/-- A text after an option of its own. -/
lemma plain_append {c : Char} {option text : String} (hoption : option.toList.head? = some c)
    (hc : c ≠ '@') : Plain (option ++ text) :=
  plain_of_head (by rw [String.toList_append, List.head?_append, hoption, Option.some_or]) hc

variable {artifacts : String → Path} {corpus : String → String} {selected vector client : String}

lemma Clear.plain (h : Clear artifacts corpus) (name : String) : Plain (artifacts name).str :=
  ⟨(artifacts name).str_ne, h.artifact name⟩

/-- The arguments of the client hold no placeholder and no empty text. -/
lemma plain_clientArgv (h : Clear artifacts corpus) (hvector : vector ∈ vectors)
    (hselected : Plain selected) (client : String) (copied : Bool) :
    ∀ item ∈ clientArgv artifacts (corpus vector) selected client copied, Plain item := by
  have hlocation : Plain ("location=" ++ corpus vector) :=
    plain_append (c := 'l') (by decide) (by decide)
  have hframes : Plain ("hevc-observer-frames=" ++ selected) :=
    plain_append (c := 'h') (by decide) (by decide)
  unfold clientArgv
  split
  · simp only [List.forall_mem_cons, h.plain, hselected, h.corpus vector hvector, true_and]
    cases copied <;> decide
  · simp only [List.forall_mem_cons, h.plain, hlocation, hframes, true_and]
    cases copied <;> decide

/-- The arguments before those of the client. -/
lemma plain_supervisor (h : Clear artifacts corpus) (hclient : client ∈ clients)
    (hselected : Plain selected) (copied : Bool) :
    ∀ item ∈ [(artifacts "python").str, "-s", (artifacts "same_run_supervisor").str, "--root",
      "--client", client, "--selectors", selected, "--copy", if copied then "on" else "off",
      "--kernel-run", "--deadline", "90", "--uapi", (artifacts "uapi").str, "--oracle",
      (artifacts "oracle_identity").parent.str, "--"], Plain item := by
  have horacle : Plain (artifacts "oracle_identity").parent.str := ⟨Path.str_ne _, h.oracle⟩
  have hname : Plain client := by
    have hall : ∀ name ∈ clients, Plain name := by decide
    exact hall client hclient
  simp only [List.forall_mem_cons, h.plain, hselected, horacle, hname, true_and]
  cases copied <;> decide

/-- The arguments of a command, but for the placeholders. -/
lemma argv_perm (artifacts : String → Path) (source selected vector client : String)
    (copied : Bool) :
    (commandOf artifacts source selected vector client copied).argv.Perm
      (placeholders ++ ([(artifacts "python").str, "-s", (artifacts "same_run_supervisor").str,
        "--root", "--client", client, "--selectors", selected, "--copy",
        if copied then "on" else "off", "--kernel-run", "--deadline", "90", "--uapi",
        (artifacts "uapi").str, "--oracle", (artifacts "oracle_identity").parent.str, "--"] ++
        clientArgv artifacts source selected client copied)) := by
  have hmiddle : ∀ before between after : List String,
      (before ++ runRoot :: (between ++ kernelRun :: after)).Perm
        (runRoot :: kernelRun :: (before ++ (between ++ after))) := fun before _ _ =>
    List.perm_middle.trans (.cons _ ((List.perm_middle.append_left before).trans List.perm_middle))
  exact hmiddle
    [(artifacts "python").str, "-s", (artifacts "same_run_supervisor").str, "--root"]
    ["--client", client, "--selectors", selected, "--copy", if copied then "on" else "off",
      "--kernel-run"]
    (["--deadline", "90", "--uapi", (artifacts "uapi").str, "--oracle",
      (artifacts "oracle_identity").parent.str, "--"] ++
      clientArgv artifacts source selected client copied)

/-- A command has each placeholder once, and no empty argument. -/
lemma argv_ok (h : Clear artifacts corpus) (hvector : vector ∈ vectors) (hclient : client ∈ clients)
    (hselected : Plain selected) (copied : Bool) {argv : List String}
    (hargv : argv = (commandOf artifacts (corpus vector) selected vector client copied).argv) :
    (argv ≠ [] ∧ ∀ item ∈ argv, item ≠ "") ∧ argv.count runRoot = 1 ∧ argv.count kernelRun = 1 := by
  subst hargv
  have hperm := argv_perm artifacts (corpus vector) selected vector client copied
  have hplain := List.forall_mem_append.mpr ⟨plain_supervisor h hclient hselected copied,
    plain_clientArgv h hvector hselected client copied⟩
  have hcount : ∀ t ∈ placeholders, (commandOf artifacts (corpus vector) selected vector client
      copied).argv.count t = placeholders.count t := by
    intro t ht
    rw [hperm.count_eq, List.count_append,
      List.count_eq_zero.mpr fun hmem => (hplain t hmem).2 ht, Nat.add_zero]
  refine ⟨⟨List.cons_ne_nil _ _, fun item hitem => ?_⟩, hcount runRoot (by decide),
    hcount kernelRun (by decide)⟩
  rcases List.mem_append.mp (hperm.mem_iff.mp hitem) with hplaceholder | hother
  · have hne : ∀ t ∈ placeholders, t ≠ "" := by decide
    exact hne item hplaceholder
  · exact (hplain item hother).1

lemma environment_ok (client : String) :
    environmentOf artifacts client ≠ [] ∧
      ∀ m ∈ environmentOf artifacts client, m.1 ≠ "" ∧ m.2 ≠ "" := by
  unfold environmentOf
  refine ⟨List.append_ne_nil_of_left_ne_nil (List.cons_ne_nil _ _) _,
    List.forall_mem_append.mpr ⟨by decide, ?_⟩⟩
  split
  · simp [Path.str_ne]
  · simp [Path.str_ne]

/-- A command as it is in the manifest is read as it was. -/
lemma textsOf_json (xs : List String) : textsOf (.arr (xs.map .str)) = some xs := by
  rw [textsOf, listOf, Option.bind_some]
  induction xs with
  | nil => rfl
  | cons x xs ih => simp [textOf, ih]

lemma dictOf_json (ms : List (String × String)) :
    dictOf (.obj (ms.map fun m => (m.1, .str m.2))) = some ms := by
  rw [dictOf]
  induction ms with
  | nil => rfl
  | cons m ms ih => rw [List.map_cons, List.mapM_cons, ih]; rfl

/-- A command that is built passes. -/
theorem checkCommand_commandOf (h : Clear artifacts corpus) (hvector : vector ∈ vectors)
    (hclient : client ∈ clients) (hselected : Plain selected) (copied : Bool) (index : ℕ) :
    checkCommand index (commandOf artifacts (corpus vector) selected vector client copied).json =
      .ok (vector, client, copied) := by
  obtain ⟨hargv, hcount⟩ := argv_ok h hvector hclient hselected copied rfl
  generalize hcommand : commandOf artifacts (corpus vector) selected vector client copied = c
    at hargv hcount ⊢
  have hkeys : (c.vector, c.client, c.copy) = (vector, client, copied) := by rw [← hcommand]; rfl
  have hname : c.name = nameOf vector client copied := by rw [← hcommand]; rfl
  have henvironment : c.environment = environmentOf artifacts client := by rw [← hcommand]; rfl
  simp only [Prod.mk.injEq] at hkeys
  obtain ⟨rfl, rfl, rfl⟩ := hkeys
  obtain ⟨hget, hgetClient, hgetVector, hgetCopy, hgetEnvironment, hgetArgv⟩ := c.json_get?
  have hkeys : hasKeys commandKeys c.json = true := by simp [hasKeys, commandKeys, Command.json]
  have hargvText : (c.json.get? "argv").bind textsOf = some c.argv := by
    rw [hgetArgv, Option.bind_some, textsOf_json]
  have henvironmentText : (c.json.get? "environment").bind dictOf = some c.environment := by
    rw [hgetEnvironment, Option.bind_some, dictOf_json]
  have hclientText : (c.json.get? "client").bind textOf = some c.client := by rw [hgetClient]; rfl
  have hvectorText : (c.json.get? "vector").bind textOf = some c.vector := by rw [hgetVector]; rfl
  have hcopyText : (c.json.get? "copy").bind boolOf = some c.copy := by rw [hgetCopy]; rfl
  have hnameText : (c.json.get? "name").bind textOf = some (nameOf c.vector c.client c.copy) := by
    rw [hget, ← hname]; rfl
  rw [checkCommand]
  refine Except.bind_ok.mpr ⟨(), need_ok.mpr hkeys, ?_⟩
  refine Except.bind_ok.mpr ⟨_, found_ok.mpr hargvText, ?_⟩
  refine Except.bind_ok.mpr ⟨(), need_ok.mpr hargv, ?_⟩
  refine Except.bind_ok.mpr ⟨_, found_ok.mpr henvironmentText, ?_⟩
  refine Except.bind_ok.mpr ⟨(), need_ok.mpr (henvironment ▸ environment_ok c.client), ?_⟩
  refine Except.bind_ok.mpr ⟨(), need_ok.mpr hcount, ?_⟩
  refine Except.bind_ok.mpr ⟨_, found_ok.mpr hclientText, ?_⟩
  refine Except.bind_ok.mpr ⟨_, found_ok.mpr hvectorText, ?_⟩
  refine Except.bind_ok.mpr ⟨_, found_ok.mpr hcopyText, ?_⟩
  exact Except.bind_ok.mpr ⟨(), need_ok.mpr ⟨hclient, hvector, hnameText⟩, rfl⟩

/-- A comprehension over numbered rows, where no row depends on its number. -/
lemma mapM_zipIdx_ok {α β γ ε : Type} {f : β × ℕ → Except ε γ} {row : α → β} {g : α → γ}
    {xs : List α} (h : ∀ x ∈ xs, ∀ n, f (row x, n) = .ok (g x)) (n : ℕ) :
    ((xs.map row).zipIdx n).mapM f = .ok (xs.map g) := by
  induction xs generalizing n with
  | nil => rfl
  | cons x xs ih =>
      rw [List.map_cons, List.zipIdx_cons, List.mapM_cons, h x List.mem_cons_self,
        ih fun y hy => h y (List.mem_cons_of_mem x hy)]
      rfl

/-- The commands of the matrix, in its order. -/
def commandsOf (artifacts : String → Path) (corpus : String → String) (targets : List Json) :
    List Command :=
  matrix.map fun p => commandOf artifacts (corpus p.1) (selectedText (selectorsAt targets p.2.1 p.1))
    p.1 p.2.1 p.2.2

variable {targets : List Json}

/-- Four groups are enough for the commands. -/
lemma Groups.commandMatrix (h : Groups targets) :
    commandMatrix artifacts corpus targets = .ok (commandsOf artifacts corpus targets) := by
  rw [Deployment.commandMatrix, Except.bind_ok]
  exact ⟨(), need_ok.mpr h.picked, rfl⟩

lemma commandsOf_keys :
    (commandsOf artifacts corpus targets).map (fun c => (c.vector, c.client, c.copy)) = matrix := by
  rw [commandsOf, List.map_map]
  exact List.map_id matrix

lemma commandsOf_names : (commandsOf artifacts corpus targets).map Command.name = expectedNames := by
  rw [commandsOf, List.map_map]
  rfl

/-- The commands that are built of sound groups pass. -/
theorem checkCommands_commandsOf (h : Clear artifacts corpus) (htargets : Groups targets) :
    checkCommands (.arr ((commandsOf artifacts corpus targets).map Command.json)) = .ok () := by
  have hplain : ∀ p ∈ matrix, Plain (selectedText (selectorsAt targets p.2.1 p.1)) := by
    intro p hp
    obtain ⟨hvector, hclient⟩ := mem_matrix.mp hp
    obtain ⟨t, ht, hsound, -, htvector⟩ := htargets.sound p.2.1 hclient p.1 hvector
    rw [selectorsAt, ht, Option.map_some, Option.getD_some]
    exact plain_selectedText (ne_nil_of_length hsound.length)
  have hkeys : (((commandsOf artifacts corpus targets).map Command.json).zipIdx).mapM
      (fun p => checkCommand p.2 p.1) = .ok matrix := by
    rw [commandsOf, List.map_map, mapM_zipIdx_ok (g := id), List.map_id]
    intro p hp n
    obtain ⟨hvector, hclient⟩ := mem_matrix.mp hp
    exact checkCommand_commandOf h hvector hclient (hplain p hp) p.2.2 n
  simp only [checkCommands, Except.bind_ok, need_ok, found_ok]
  refine ⟨_, rfl, (), by rw [List.length_map, commandsOf, List.length_map]; rfl, matrix, hkeys,
    (), by decide, fun key hkey => hkey, fun key hkey => hkey⟩

/-- An order in which the copy-on row of a vector and a client follows its copy-off row, and the Gst
row of a vector and a mode follows its VA row. -/
def Ordered (keys : List (String × String × Bool)) : Prop :=
  ∀ (i : ℕ) (vector client : String) (copy : Bool), keys[i]? = some (vector, client, copy) →
    (copy = true → ∃ j < i, keys[j]? = some (vector, client, false)) ∧
    (client = "gst" → ∃ j < i, keys[j]? = some (vector, "va", copy))

lemma ordered_matrix : Ordered matrix := by
  -- the copy-off row is the one before, the VA row the one before that
  have hall : ∀ i ∈ List.range 8, ∀ p ∈ matrix, matrix[i]? = some p →
      (p.2.2 = true → i - 1 < i ∧ matrix[i - 1]? = some (p.1, p.2.1, false)) ∧
      (p.2.1 = "gst" → i - 2 < i ∧ matrix[i - 2]? = some (p.1, "va", p.2.2)) := by decide
  intro i vector client copy hi
  have hlt : i < 8 := (List.getElem?_eq_some_iff.mp hi).1
  obtain ⟨hon, hgst⟩ := hall i (List.mem_range.mpr hlt) _ (List.mem_of_getElem? hi) hi
  exact ⟨fun h => ⟨i - 1, hon h⟩, fun h => ⟨i - 2, hgst h⟩⟩

end OmarchyM1Video.Deployment
