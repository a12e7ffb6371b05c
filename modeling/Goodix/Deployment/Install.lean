import Goodix.Deployment.Remove

/-! # Installation

`install.py` from the first check of `apply` to its last line, with the rollback.  What is read
and compared without an effect is a step that may fail; file labels are left out.
-/

namespace Goodix.Deployment

open Scripts Scripts.Script

/-- What is to be installed. -/
structure Plan where
  /-- `mode == 'UPDATE'` -/
  isUpdate : Bool
  /-- The material is installed already. -/
  isReuse : Bool
  bundle : Option (List (String × List UInt8))
  command : List UInt8
  files : List (String × List UInt8)
  links : List (String × String)
  module_ : List UInt8
  config : List UInt8
  dropin : List UInt8

/-- `software_paths` -/
def softwarePaths : List Path := [.config, .dropin, .support, .runtime, .normal, .force, .recovery]

def toolPaths : List Path := [.normal, .force, .recovery]

def anyPresent (world : World) : Bool := softwarePaths.any fun path => (world.paths path).isSome

/-! ## Files -/

/-- `write_file`, which links a file that is complete. -/
def writeFile (actor : Actor) (path : Path) (item : Item) : Deploy Unit := do
  act actor .inspect
  let world ← get
  if (world.paths path).isSome then clash actor path else act actor (.publish path item)

/-- `write_file` into a directory of the software. -/
def writeEntry (actor : Actor) (path : Path) (name : String) (item : Item) : Deploy Unit := do
  act actor .inspect
  let world ← get
  match world.paths path with
  | some (.tree entries) =>
    if entries.any fun entry => entry.1 = name then clash actor path
    else act actor (.publishEntry path name item)
  | _ => clash actor path

/-- `mkdir` -/
def makeDirectory (actor : Actor) (path : Path) : Deploy Unit := do
  let world ← get
  if (world.paths path).isSome then clash actor path else act actor (.mkdir path)

/-! ## The parts of the software -/

/-- `install_tools` -/
def installTools (plan : Plan) : Deploy Unit := do
  makeDirectory .installer .recovery
  writeFile .installer .normal (.data plan.command)
  writeFile .installer .force (.data plan.command)
  writeEntry .installer .recovery "receipt.json" (.receipt [] false)
  act .installer .call

/-- `install_materials`; the staging is a module of its own. -/
def installMaterials (files : List (String × List UInt8)) : Deploy Unit := do
  act .installer .inspect
  let world ← get
  match world.host.material with
  | some existing => do
    act .installer .inspect
    if existing = files then act .installer .call
    else refuse .installer "existing installed material differs; it was preserved"
  | none => do
    act .installer .call
    act .installer (.publishMaterial files)
    act .installer .inspect

/-- `create_state_root` -/
def createStateRoot : Deploy Unit := do
  act .installer .inspect
  let world ← get
  onlyIf world.host.stateRoot.isNone (act .installer .createStateRoot)
  act .installer .inspect

/-- `material_rule` -/
def materialRule (actor : Actor) : Deploy Bool := do
  act actor .call
  let world ← get
  pure world.rule

/-- The rule for the labels of the materials, which is added if there are materials and no rule. -/
def prepareRule : Deploy (Option Bool) := do
  act .installer .inspect
  let world ← get
  if world.host.material.isSome then do
    let preexisting ← materialRule .installer
    onlyIf (!preexisting) (act .installer .addRule)
    pure (some preexisting)
  else pure none

/-- `label_materials` -/
def labelMaterials : Deploy Unit := do
  act .installer .relabel
  act .installer .inspect

/-- `install_runtime` -/
def installRuntime (plan : Plan) (preexisting : Option Bool) : Deploy Unit := do
  act .installer .inspect
  makeDirectory .installer .runtime
  forEach plan.files fun (name, data) => do
    -- the directory of the name
    act .installer .inspect
    writeEntry .installer .runtime name (.data data)
  forEach plan.links fun (name, target) => writeEntry .installer .runtime name (.link target)
  writeEntry .installer .runtime "installation.json"
    (.receipt (plan.files.map Prod.fst ++ plan.links.map Prod.fst) (preexisting = some false))
  act .installer .call
  act .installer .inspect
  writeFile .installer .dropin (.data plan.dropin)
  act .installer .call

/-- `MODULE` -/
def moduleName : String := "pam_goodix_login_gate.so"

/-- `install_login` -/
def installLogin (plan : Plan) : Deploy Unit := do
  makeDirectory .installer .support
  act .installer .inspect
  writeEntry .installer .support moduleName (.data plan.module_)
  writeEntry .installer .support "receipt.json" (.receipt [moduleName] false)
  act .installer .call
  writeFile .installer .config (.data plan.config)
  act .installer .call

/-! ## The policy module -/

/-- `install_selinux_module` -/
def installSelinuxModule (actor : Actor) (data : List UInt8) : Deploy Unit := do
  let current ← selinuxModulePresent actor
  match current with
  | some found =>
    if found = data then pure ()
    else refuse actor "legacy SELinux module changed before rollback"
  | none => do
    act actor .inspect
    act actor (.loadModule data)
    let again ← selinuxModulePresent actor
    if again = some data then pure ()
    else refuse actor "project SELinux module restoration could not be verified"

/-- `restore_selinux_module` -/
def restoreSelinuxModule (actor : Actor) : Option (List UInt8) → Deploy Unit
  | some data => installSelinuxModule actor data
  | none => removeSelinuxModule actor

/-! ## Rollback -/

/-- `copytree`, which copies the other entries as well before it raises an error. -/
def copyEntries (actor : Actor) (path : Path) : List Entry → Bool → Deploy Unit
  | [], failed => do
    -- `copystat`
    act actor (.stat path)
    if failed then clash actor path else pure ()
  | (name, item) :: rest, failed => do
    handle (do
      act actor (.createEntry path name)
      act actor (.fillEntry path name item)) fun error =>
        if error.isOs then copyEntries actor path rest true else rethrow error
    copyEntries actor path rest failed

/-- `copytree` or `copy2` -/
def copyBack (actor : Actor) (path : Path) : Node → Deploy Unit
  | .file item => do
    act actor (.create path)
    act actor (.fill path item)
  | .tree entries => do
    makeDirectory actor path
    copyEntries actor path entries false

/-- An action whose errors are collected. -/
def collect (catches : Error → Bool) (errors : List Error) (action : Deploy Unit) :
    Deploy (List Error) :=
  handle (do
    action
    pure errors) fun error => if catches error then pure (errors ++ [error]) else rethrow error

def collectEach (catches : Error → Bool) (errors : List Error) : List (Deploy Unit) → Deploy (List Error)
  | [] => pure errors
  | action :: actions => do
    let errors ← collect catches errors action
    collectEach catches errors actions

/-- The rule, the labels and the units as they were. -/
def restoreRule (before : Bool) : Deploy Unit := do
  let there ← materialRule .rollback
  onlyIf (before && !there) (act .rollback .addRule)
  onlyIf (there && !before) (act .rollback .deleteRule)
  act .rollback .inspect
  let world ← get
  onlyIf world.host.material.isSome (act .rollback .relabel)
  act .rollback .daemonReload

abbrev Saved := List (Path × Node)

/-- The software but for the commands, in the order in which it is removed and restored. -/
def restorations (saved : Saved) : List (Deploy Unit) :=
  (saved.filter fun entry => !toolPaths.contains entry.1).map fun entry =>
    copyBack .rollback entry.1 entry.2

/-- A command is removed, and copied back if it was there. -/
def restoreTool (saved : Saved) (path : Path) : Deploy Unit := do
  removePath .rescue path
  match saved.lookup path with
  | some node => copyBack .rescue path node
  | none => pure ()

def unquiesced : String :=
  "rollback incomplete: service could not be quiesced; software and recovery commands retained"

def unrestored : String := "rollback incomplete; retain recovery commands and report"

/-- The first step of a rollback. -/
def quiesce (moduleBefore : Option (List UInt8)) : Deploy Unit :=
  handle (stopAndVerify .rollback) fun error =>
    if error.isOrdinary then do
      handle (restoreSelinuxModule .rollback moduleBefore) fun error =>
        if error.isOrdinary then pure () else rethrow error
      refuse .rollback unquiesced
    else rethrow error

/-- Actions that are taken if nothing failed before. -/
def collectIf (catches : Error → Bool) (errors : List Error) (actions : List (Deploy Unit)) :
    Deploy (List Error) :=
  if errors.isEmpty then collectEach catches errors actions else pure errors

/-- `rollback` -/
def rollback (saved : Saved) (ruleBefore : Bool) (moduleBefore : Option (List UInt8)) :
    Deploy Unit := do
  quiesce moduleBefore
  let errors ← collectEach Error.isOsOrRuntime []
    ((softwarePaths.filter fun path => !toolPaths.contains path).map (removePath .rollback))
  let errors ← collectIf Error.isOs errors (restorations saved)
  let errors ← collect Error.isOrdinary errors (restoreRule ruleBefore)
  let errors ← collect Error.isOrdinary errors (restoreSelinuxModule .rollback moduleBefore)
  let errors ← collectIf Error.isOs errors (toolPaths.map (restoreTool saved))
  if errors.isEmpty then pure () else refuse .rollback unrestored

/-! ## The transaction -/

/-- `normal_preflight`, if there is software. -/
def checkSoftware : Deploy Unit := do
  act .lifecycle .inspect
  let world ← get
  if anyPresent world then do
    let _ ← normalPreflight .lifecycle
    pure ()
  else pure ()

/-- `snapshot_software` -/
def snapshotSoftware : Deploy Saved := do
  let world ← get
  let saved := softwarePaths.filterMap fun path => (world.paths path).map fun node => (path, node)
  forEach saved fun _ => act .lifecycle .inspect
  pure saved

/-- The removal of an installation that is there. -/
def removeExisting : Saved → Deploy Unit
  | [] => pure ()
  | _ => do
    let code ← remove false
    if code = 0 then pure () else refuse .installer "existing installation could not be removed"

def installBundle (plan : Plan) : Deploy Unit :=
  match plan.bundle with
  | some files => onlyIf (!plan.isReuse) (installMaterials files)
  | none => pure ()

/-- The body of the transaction. -/
def install (plan : Plan) (saved : Saved) : Deploy Unit := do
  removeExisting saved
  installTools plan
  removeSelinuxModule .installer
  installBundle plan
  createStateRoot
  let preexisting ← prepareRule
  labelMaterials
  act .installer (.print "GOODIX_PAIRING_STATE=READY")
  installRuntime plan preexisting
  installLogin plan
  act .installer .daemonReload
  let _ ← normalPreflight .installer
  stopAndVerify .installer

def rollbackMarker : String := "GOODIX_ROLLBACK=PASS PRIOR_PROJECT_SOFTWARE_RESTORED=true"

/-- The transaction, which is rolled back on any error. -/
def transaction (plan : Plan) (saved : Saved) (ruleBefore : Bool)
    (moduleBefore : Option (List UInt8)) : Deploy Unit :=
  handle (install plan saved) fun error => do
    rollback saved ruleBefore moduleBefore
    act .rollback (.print rollbackMarker)
    rethrow error

/-- What is done in the lifecycle. -/
def replaceSoftware (plan : Plan) : Deploy Unit := do
  act .lifecycle .inspect
  let world ← get
  if world.host.material.isSome ≠ plan.isReuse then
    refuse .lifecycle "installed material appeared; retry for safe selection"
  else if anyPresent world ≠ plan.isUpdate then
    refuse .lifecycle "project software changed during preparation; retry for safe selection"
  else do
    act .lifecycle (.print "GOODIX_INSTALL_MODE")
    let saved ← snapshotSoftware
    let ruleBefore ← materialRule .lifecycle
    let moduleBefore ← selinuxModulePresent .lifecycle
    transaction plan saved ruleBefore moduleBefore

/-- The end of the lifecycle. -/
def release (created : Option Nat) (state : String) : Deploy Unit :=
  handle (releaseInhibition .lifecycle created) fun error =>
    if error.isOrdinary then
      refuse .lifecycle ("final service cleanup incomplete (" ++ state ++ ")")
    else rethrow error

/-- `lifecycle` -/
def lifecycle (body : Deploy Unit) : Deploy Unit := do
  act .lifecycle .inspect
  checkSoftware
  let created ← inhibitActivation .lifecycle
  handle (do
    stopAndVerify .lifecycle
    body) fun error => do
      release created "transaction failed"
      rethrow error
  release created "software installed; recovery commands retained"

/-- `apply` -/
def apply (plan : Plan) : Deploy Unit := do
  -- the selection of the materials and the checks of the host and the payload
  act .lifecycle .inspect
  act .lifecycle .call
  checkSoftware
  let _ ← selinuxModulePresent .lifecycle
  let _ ← materialRule .lifecycle
  -- the copy of the payload, and its checks
  act .lifecycle .inspect
  act .lifecycle .call
  lifecycle (replaceSoftware plan)
  act .lifecycle (.print "GOODIX_INSTALL=PASS READER_PRESENT_ALLOWED=true")

end Goodix.Deployment
