import Mathlib.Data.List.Basic
import OmarchyM1Video.Py.Triple

/-!
`bin/apple-avd-rebuild`, for one kernel.

A run is given what it finds (the package version, the installed patches, whether the source can be
patched) and how each of its commands ends.  A run that is killed stops before a command and leaves
everything as it is.  The files of a kernel are its module, the stamp that names what the module was
built from, and the index that `depmod` makes.  A text is the list of its characters.

* `tagForPkgver`, `want`: the tag of a package version, and what a stamp says;
* `Disk`, `Env`, `invoke`, `chain`: files, one command, commands joined by `&&`;
* `rebuild`: the run, with the files at each report of a module that is up to date;
* `after`: the files after a sequence of runs.
-/

namespace OmarchyM1Video.Rebuild

open OmarchyM1Video.Py

/-! ### Tags and stamps -/

/-- `${v#*c}`. -/
def afterFirst (c : Char) (v : List Char) : List Char :=
  match v.dropWhile (· ≠ c) with
  | [] => v
  | _ :: rest => rest

/-- `${v%c*}`. -/
def beforeLast (c : Char) (v : List Char) : List Char := (afterFirst c v.reverse).reverse

/-- What stands before and after the last place where `pat` stands. -/
def splitLast (pat : List Char) : List Char → Option (List Char × List Char)
  | [] => none
  | c :: v =>
      match splitLast pat v with
      | some (a, b) => some (c :: a, b)
      | none => if pat.isPrefixOf (c :: v) then some ([], (c :: v).drop pat.length) else none

/-- `tag_for_pkgver`. -/
def tagForPkgver (pkgver : List Char) : List Char :=
  let v := beforeLast '-' (afterFirst ':' pkgver)
  let (base, rel) := (splitLast ".asahi".toList v).getD (v, v)
  match splitLast "rc".toList base with
  | some (a, n) =>
      if a ≠ [] ∧ n ≠ [] ∧ n.all Char.isDigit then
        "asahi-".toList ++ a ++ "-rc".toList ++ n ++ '-' :: rel
      else "asahi-".toList ++ base ++ '-' :: rel
  | none => "asahi-".toList ++ base ++ '-' :: rel

example : tagForPkgver "1:7.1.0rc3.asahi2-1".toList = "asahi-7.1.0-rc3-2".toList := by decide

/-- `patchset_id`, which distinguishes patch sets: the first twelve of the digits that `sha256sum`
prints. -/
structure PatchsetId (Patches : Type) where
  id : Patches → List Char
  length_id : ∀ p, (id p).length = 12
  hex : ∀ p, ∀ c ∈ id p, c ∈ "0123456789abcdef".toList
  injective : Function.Injective id

/-- What a module was built from. -/
structure Module (Patches : Type) where
  tag : List Char
  patches : Patches
  deriving DecidableEq

variable {Patches : Type}

/-- `WANT`. -/
def want (ids : PatchsetId Patches) (m : Module Patches) : List Char :=
  "tag=".toList ++ m.tag ++ " patches=".toList ++ ids.id m.patches

/-- `$(cat file)`: the line feeds at the end are dropped. -/
def substituted (text : List Char) : List Char := (text.reverse.dropWhile (· = '\n')).reverse

/-! ### Commands -/

/-- The files of a kernel. -/
structure Disk (Patches : Type) where
  /-- `$DEST/apple-avd.ko`. -/
  ko : Option (Module Patches) := none
  /-- `$DEST/$STAMP`. -/
  stamp : Option (List Char) := none
  /-- `$TMPKO`, of the run. -/
  tmpKo : Option (Module Patches) := none
  tmpStamp : Option (List Char) := none
  /-- `depmod -a` has succeeded since the module was put in place. -/
  indexed : Bool := false
  deriving DecidableEq

/-- The commands whose ending matters to a run. -/
inductive Command where
  | orphanOwner | orphanRm | kernelOwner | kernelVersion | catStamp | pickBuildId | mktemp | mkdir
  | gitClone | sparseCheckout | testSource | make | catModule | modinfo
  | upstreamRm | upstreamDepmod | install | strip | mvModule | printfStamp | mvStamp | depmod | rmTmp
  deriving DecidableEq

/-- How a command ends. -/
inductive Outcome where
  | ok | fails
  /-- The run is killed before it. -/
  | killed
  deriving DecidableEq

/-- What `prepare_tree` makes of the source. -/
inductive Prepared where
  /-- The source has every patch. -/
  | upstream
  | patched
  | doesNotApply
  | cannotPrepare
  deriving DecidableEq

/-- What a run finds. -/
structure Env (Patches : Type) where
  force : Bool := false
  pkgver : List Char
  patches : Patches
  /-- The kernel is the running one. -/
  running : Bool := false
  /-- `linux-asahi-headers` is installed. -/
  headers : Bool := true
  prepared : Prepared := .patched
  vermagicMatches : Bool := true
  outcome : Command → Outcome := fun _ => .ok
  /-- What an `rm` that fails has removed. -/
  rmModule : Bool := false
  rmStamp : Bool := false

/-- The module that a run would build. -/
def Env.module (env : Env Patches) : Module Patches := ⟨tagForPkgver env.pkgver, env.patches⟩

/-- A run: the files, `FAILED`, and the files at each report of a module that is up to date. -/
structure Shell (Patches : Type) where
  disk : Disk Patches
  failed : Bool := false
  reports : List (Disk Patches) := []
  /-- The run has reported that the stock module will be used. -/
  stock : Bool := false

/-- A piece of the script; it ends early where the run is killed. -/
abbrev Script (Patches α : Type) : Type := EStateM Unit (Shell Patches) α

/-- One command, with what it does to the files. -/
def invoke (env : Env Patches) (c : Command) (f : Disk Patches → Disk Patches) :
    Script Patches Bool :=
  match env.outcome c with
  | .ok => do
      modify fun sh => { sh with disk := f sh.disk }
      return true
  | .fails => return false
  | .killed => throw ()

/-- Commands joined by `&&`. -/
def chain (env : Env Patches) : List (Command × (Disk Patches → Disk Patches)) →
    Script Patches Bool
  | [] => return true
  | (c, f) :: rest => do
      if ← invoke env c f then chain env rest else return false

/-- `rm -f "$DEST/apple-avd.ko" "$DEST/$STAMP"`. -/
def rmFiles (env : Env Patches) (c : Command) : Script Patches Unit := do
  if ← invoke env c fun d => { d with ko := none, stamp := none } then return
  modify fun sh => { sh with disk := { sh.disk with
    ko := if env.rmModule then none else sh.disk.ko
    stamp := if env.rmStamp then none else sh.disk.stamp } }

/-- `FAILED=1`. -/
def fail : Script Patches Unit := modify fun sh => { sh with failed := true }

/-! ### The run -/

variable (ids : PatchsetId Patches) (env : Env Patches)

/-- `cleanup_orphans`. -/
def cleanupOrphans : Script Patches Unit := do
  let d := (← get).disk
  if d.stamp.isNone ∨ env.running then return
  if ← invoke env .orphanOwner id then return
  rmFiles env .orphanRm

/-- The test of a module that is up to date. -/
def upToDate : Script Patches Bool := do
  let d := (← get).disk
  if env.force ∨ d.ko.isNone then return false
  if ← invoke env .catStamp id then
    return decide (d.stamp.map substituted = some (want ids env.module))
  else return false

/-- Fetching the source, up to `prepare_tree`. -/
def fetch : Script Patches Bool := do
  if !env.headers then return false
  chain env [(.pickBuildId, id), (.mktemp, id), (.mkdir, id), (.gitClone, id),
    (.sparseCheckout, id), (.testSource, id)]

/-- The source has every patch: the stock module is used. -/
def useStock : Script Patches Unit := do
  modify fun sh => { sh with stock := true }
  if (← get).disk.stamp.isSome then
    rmFiles env .upstreamRm
    let _ ← invoke env .upstreamDepmod fun d => { d with indexed := true }

/-- Building the module. -/
def build : Script Patches Bool := do
  if ← chain env [(.make, id), (.catModule, id), (.modinfo, id)] then return env.vermagicMatches
  else return false

/-- The commands that install the module. -/
def installation : List (Command × (Disk Patches → Disk Patches)) :=
  [(.install, fun d => { d with tmpKo := some env.module }),
    (.strip, id),
    (.mvModule, fun d => { d with ko := d.tmpKo, tmpKo := none, indexed := false }),
    (.printfStamp, fun d => { d with tmpStamp := some (want ids env.module ++ ['\n']) }),
    (.mvStamp, fun d => { d with stamp := d.tmpStamp, tmpStamp := none }),
    (.depmod, fun d => { d with indexed := true })]

/-- Installing the module. -/
def installModule : Script Patches Unit := do
  if ← chain env (installation ids env) then return
  let _ ← invoke env .rmTmp fun d => { d with tmpKo := none, tmpStamp := none }
  fail

/-- The body of the loop over the kernels. -/
def rebuildKernel : Script Patches Unit := do
  if ← upToDate ids env then
    modify fun sh => { sh with reports := sh.disk :: sh.reports }
    return
  if ← fetch env then
    match env.prepared with
    | .upstream => useStock env
    | .patched => if ← build env then installModule ids env else fail
    | .doesNotApply | .cannotPrepare => fail
  else fail

/-- The script. -/
def script : Script Patches Unit := do
  cleanupOrphans env
  if ← chain env [(.kernelOwner, id), (.kernelVersion, id)] then rebuildKernel ids env

/-- A run, to its end or to where it is killed. -/
def rebuild (d : Disk Patches) : Shell Patches :=
  match script ids env { disk := d } with
  | .ok _ sh => sh
  | .error _ sh => sh

/-- The files after a sequence of runs. -/
def after (envs : List (Env Patches)) (d : Disk Patches) : Disk Patches :=
  envs.foldl (fun d env => (rebuild ids env d).disk) d

end OmarchyM1Video.Rebuild
