import Goodix.Deployment.World

/-! # Removal

`remove.py`.  What its checks read of receipts, files and listings beyond the state of the
host is left to the verdict on the step that reads it.
-/

namespace Goodix.Deployment

open Scripts Scripts.Script

/-- `shutil.rmtree` -/
def removeTree (actor : Actor) (path : Path) : List Entry → Deploy Unit
  | [] => act actor (.rmdir path)
  | _ :: rest => do
    act actor (.unlinkEntry path)
    removeTree actor path rest

/-- `remove_path` -/
def removePath (actor : Actor) (path : Path) : Deploy Unit := do
  -- `parents(path)`
  act actor .inspect
  let world ← get
  match world.paths path with
  | none => pure ()
  | some (.tree entries) =>
    if path.isTree then removeTree actor path entries
    else refuse actor "unexpected directory at file path"
  | some (.file _) => act actor (.unlink path)

/-- `remove_label` -/
def removeLabel (actor : Actor) : Deploy Unit := do
  act actor .call
  let world ← get
  onlyIf world.rule (act actor .deleteRule)
  act actor .call
  let world ← get
  if world.rule then refuse actor "project SELinux mapping remains"
  else do
    act actor .inspect
    let world ← get
    onlyIf world.host.material.isSome (act actor .relabel)

/-- `SELINUX_MODULE_RULE` -/
def selinuxModuleRule : List UInt8 :=
  "(dontaudit fprintd_t sysctl_vm_t (file (read)))".toList.map fun char => UInt8.ofNat char.toNat

/-- `bytes.strip` -/
def strip (data : List UInt8) : List UInt8 :=
  let isBlank (octet : UInt8) : Bool := octet = 0x20 || (0x09 ≤ octet && octet ≤ 0x0d)
  ((data.dropWhile isBlank).reverse.dropWhile isBlank).reverse

/-- `selinux_module_present` -/
def selinuxModulePresent (actor : Actor) : Deploy (Option (List UInt8)) := do
  act actor .call
  let world ← get
  match world.module_ with
  | none => pure none
  | some found =>
    if !found.isListed then
      refuse actor "project SELinux module has an unexpected priority/state; left untouched"
    else do
      act actor .call
      if strip found.data ≠ selinuxModuleRule then
        refuse actor "project SELinux module content differs; ownership ambiguous; left untouched"
      else pure (some found.data)

/-- `remove_selinux_module` -/
def removeSelinuxModule (actor : Actor) : Deploy Unit := do
  let found ← selinuxModulePresent actor
  match found with
  | none => pure ()
  | some _ => do
    act actor .removeModule
    let again ← selinuxModulePresent actor
    if again.isSome then refuse actor "project SELinux module remains at priority 400"
    else pure ()

/-- `release_inhibition` -/
def releaseInhibition (actor : Actor) : Option Nat → Deploy Unit
  | none => pure ()
  | some inode => do
    act actor .inspect
    let world ← get
    if world.mask = some ⟨inode, true⟩ then do
      act actor .unmaskService
      act actor .daemonReload
    else refuse actor "temporary fprintd mask changed; retained for review"

/-- `inhibit_activation`; the inode of the mask, if it is a new one. -/
def inhibitActivation (actor : Actor) : Deploy (Option Nat) := do
  act actor .inspect
  let world ← get
  match world.mask with
  | some mask => do
    act actor .inspect
    if mask.isNull then pure none
    else refuse actor "cannot inhibit fprintd: existing service override; retained for review"
  | none => do
    act actor .maskService
    -- the mask is not ours to remove before its inode is known
    act actor .inspect
    let world ← get
    match world.mask with
    | some ⟨inode, true⟩ =>
      handle (do
        act actor .inspect
        pure (some inode)) fun error => do
          releaseInhibition actor (some inode)
          rethrow error
    | _ => refuse actor "temporary fprintd mask changed during acquisition; retained for review"

/-- `stop_and_verify` -/
def stopAndVerify (actor : Actor) : Deploy Unit := do
  act actor .daemonReload
  act actor .stopService
  act actor .call
  let world ← get
  if world.running || !world.masked then
    refuse actor "fprintd has not quiesced or activation is not inhibited"
  else pure ()

/-- A directory with a receipt that lists files and links, each of them there. -/
def Node.isComplete (receipt : String) : Node → Bool
  | .file _ => false
  | .tree entries => entries.any fun entry =>
    match entry with
    | (name, .receipt names _) => name = receipt && names.all fun listed =>
      entries.any fun other => other.1 = listed && other.2 ≠ .unfinished
    | _ => false

/-- `owned_rule`: what the receipt of the runtime says. -/
def ownedRule (world : World) : Bool :=
  match world.paths .runtime with
  | some (.tree entries) => entries.any fun entry =>
    match entry with
    | (name, .receipt _ owns) => name = "installation.json" && owns
    | _ => false
  | _ => false

/-- What `normal_preflight` asks of the paths; the digests in the receipts are compared in the step
that reads the files. -/
def preflightAccepts (world : World) : Bool :=
  let pair (tree entry : Path) (receipt : String) : Bool :=
    match world.paths tree with
    | some node => node.isComplete receipt && (world.paths entry).isSome
    | none => (world.paths entry).isNone
  pair .support .config "receipt.json" && pair .runtime .dropin "installation.json" &&
    (world.paths .recovery).isSome && (world.paths .normal).isSome && (world.paths .force).isSome

/-- `normal_preflight` -/
def normalPreflight (actor : Actor) : Deploy Bool := do
  act actor .inspect
  let world ← get
  if preflightAccepts world then pure (ownedRule world)
  else refuse actor "partial/drifted project software"

/-- `attempt`: whether the action succeeded, and the errors so far. -/
def attempt (errors : List String) (label : String) (action : Deploy Unit) :
    Deploy (Bool × List String) :=
  handle (do
    action
    pure (true, errors)) fun error =>
      if error.isOrdinary then pure (false, errors ++ [label]) else rethrow error

/-- An attempt that is made on a condition. -/
def attemptIf (condition : Bool) (errors : List String) (label : String) (action : Deploy Unit) :
    Deploy (List String) :=
  if condition then do
    let (_, errors) ← attempt errors label action
    pure errors
  else pure errors

/-- The mask of the service: its inode if it is a new one, and whether there is one. -/
def tryInhibit (errors : List String) : Deploy (Option Nat × Bool × List String) :=
  handle (do
    let created ← inhibitActivation .remover
    pure (created, true, errors)) fun error =>
      if error.isOsOrRuntime then pure (none, false, errors ++ ["service activation control"])
      else rethrow error

/-- `not owned_rule or attempt(…)` -/
def removeLabels (ownsRule : Bool) (errors : List String) : Deploy (Bool × List String) :=
  if !ownsRule then pure (true, errors)
  else attempt errors "project material labels" (removeLabel .remover)

/-- The removal of what the entry points depended on. -/
def removeDependencies (ownsRule loginRemoved runtimeDetached inhibited : Bool)
    (errors : List String) : Deploy (List String) := do
  let (stopped, errors) ← attempt errors "stop fingerprint service" (stopAndVerify .remover)
  let (_, errors) ← attempt errors "project SELinux huge-page module" (removeSelinuxModule .remover)
  let errors ← attemptIf loginRemoved errors "login support" (removePath .remover .support)
  if inhibited && stopped then do
    let (labelsRemoved, errors) ← removeLabels ownsRule errors
    attemptIf (runtimeDetached && labelsRemoved) errors "runtime files" (removePath .remover .runtime)
  else pure errors

/-- `True if force else normal_preflight()` -/
def ownership (isForced : Bool) : Deploy Bool :=
  if isForced then pure true else normalPreflight .remover

/-- `remove` -/
def remove (isForced : Bool) : Deploy Nat := do
  let ownsRule ← ownership isForced
  let (loginRemoved, errors) ← attempt [] "login entry" (removePath .remover .config)
  let (runtimeDetached, errors) ← attempt errors "runtime entry" (removePath .remover .dropin)
  let (created, inhibited, errors) ← tryInhibit errors
  -- `finally`
  let errors ← handle (removeDependencies ownsRule loginRemoved runtimeDetached inhibited errors)
    fun error => do
      let _ ← attempt [] "restore service activation" (releaseInhibition .remover created)
      rethrow error
  let (_, errors) ← attempt errors "restore service activation" (releaseInhibition .remover created)
  let errors ← attemptIf errors.isEmpty errors "recovery receipt" (removePath .remover .recovery)
  let errors ← attemptIf errors.isEmpty errors "normal removal command" (removePath .remover .normal)
  let errors ← attemptIf errors.isEmpty errors "emergency command" (removePath .remover .force)
  pure (if errors.isEmpty then 0 else 1)

end Goodix.Deployment
