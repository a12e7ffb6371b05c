import Goodix.Library.Scripts
import Mathlib.Logic.Function.Basic

/-! # The host the deployment scripts act on

Seven paths hold the software of the project.  The scripts remove and create them in steps,
each of which may fail, with a service that is stopped and masked meanwhile, a label rule and
a policy module.  Materials, the pairing state and the templates belong to the host.
-/

namespace Goodix.Deployment

open Scripts

inductive Path where
  | config
  | dropin
  | support
  | runtime
  | normal
  | force
  | recovery
  deriving DecidableEq, Repr

/-- The paths that `remove_path` expects to be directories. -/
def Path.isTree : Path → Bool
  | .support | .runtime | .recovery => true
  | _ => false

inductive Item where
  | data (octets : List UInt8)
  | link (target : String)
  /-- A receipt: the names of the files and links it lists, and whether the software owns the label
  rule. -/
  | receipt (names : List String) (ownsRule : Bool)
  /-- A file that was created, and not written yet. -/
  | unfinished
  deriving DecidableEq

abbrev Entry := String × Item

inductive Node where
  | file (item : Item)
  | tree (entries : List Entry)
  deriving DecidableEq

/-- What stays on the host. -/
structure Host where
  material : Option (List (String × List UInt8))
  stateRoot : Option (List (String × List UInt8))
  templates : List (String × List UInt8)

structure Mask where
  inode : Nat
  /-- A symbolic link to `/dev/null`. -/
  isNull : Bool
  deriving DecidableEq

structure PolicyModule where
  /-- The only line of the module is that of the project's priority. -/
  isListed : Bool
  data : List UInt8

structure World where
  paths : Path → Option Node
  mask : Option Mask
  nextInode : Nat
  running : Bool
  masked : Bool
  rule : Bool
  /-- The material files carry the label of the rule. -/
  labelled : Bool
  module_ : Option PolicyModule
  host : Host

inductive Error where
  | os
  | runtime (message : String)
  | subprocess
  /-- An interrupt, or an error no script expects. -/
  | other
  deriving DecidableEq

def Error.isOs : Error → Bool
  | .os => true
  | _ => false

/-- `(OSError, RuntimeError)` -/
def Error.isOsOrRuntime : Error → Bool
  | .os | .runtime _ => true
  | _ => false

/-- `(OSError, RuntimeError, subprocess.SubprocessError)` -/
def Error.isOrdinary : Error → Bool
  | .other => false
  | _ => true

/-- One operation on the host. -/
inductive Op where
  /-- Reads files only; a check that fails is one of these. -/
  | inspect
  /-- A command that reads, or that labels software. -/
  | call
  /-- A system call that changes no content, or finds that it cannot be done. -/
  | stat (path : Path)
  | unlink (path : Path)
  /-- The first entry of a directory. -/
  | unlinkEntry (path : Path)
  | rmdir (path : Path)
  | mkdir (path : Path)
  | create (path : Path)
  | fill (path : Path) (item : Item)
  | createEntry (path : Path) (name : String)
  /-- Writes the entry that was created last. -/
  | fillEntry (path : Path) (name : String) (item : Item)
  /-- A file that appears with its content. -/
  | publish (path : Path) (item : Item)
  | publishEntry (path : Path) (name : String) (item : Item)
  | maskService
  | unmaskService
  | daemonReload
  | stopService
  | addRule
  | deleteRule
  | relabel
  | loadModule (data : List UInt8)
  | removeModule
  | publishMaterial (files : List (String × List UInt8))
  | createStateRoot
  | print (line : String)
  deriving DecidableEq

def World.put (world : World) (path : Path) (node : Option Node) : World :=
  { world with paths := Function.update world.paths path node }

/-- The world with other entries of a directory. -/
def World.modify (world : World) (path : Path) (change : List Entry → List Entry) : World :=
  match world.paths path with
  | some (.tree entries) => world.put path (some (.tree (change entries)))
  | _ => world

def Op.effect : Op → World → World
  | .inspect, world | .call, world | .stat _, world | .print _, world => world
  | .unlink path, world | .rmdir path, world => world.put path none
  | .unlinkEntry path, world => world.modify path List.tail
  | .mkdir path, world => world.put path (some (.tree []))
  | .create path, world => world.put path (some (.file .unfinished))
  | .fill path item, world | .publish path item, world => world.put path (some (.file item))
  | .createEntry path name, world => world.modify path (· ++ [(name, .unfinished)])
  | .fillEntry path name item, world => world.modify path (·.dropLast ++ [(name, item)])
  | .publishEntry path name item, world => world.modify path (· ++ [(name, item)])
  | .maskService, world =>
    { world with mask := some ⟨world.nextInode, true⟩, nextInode := world.nextInode + 1 }
  | .unmaskService, world => { world with mask := none }
  | .daemonReload, world => { world with masked := world.mask.any Mask.isNull }
  | .stopService, world => { world with running := false }
  | .addRule, world => { world with rule := true }
  | .deleteRule, world => { world with rule := false }
  | .relabel, world => { world with labelled := world.rule }
  | .loadModule data, world => { world with module_ := some ⟨true, data⟩ }
  | .removeModule, world => { world with module_ := none }
  | .publishMaterial files, world => { world with host.material := some files }
  | .createStateRoot, world => { world with host.stateRoot := some [] }

/-- The errors an operation can raise: a command may fail in every way, a check of files is one of
the scripts' own, and a system call raises the error of the system. -/
def Op.raises : Op → Error → Bool
  | .inspect, error => error ≠ .subprocess
  | .call, _ | .daemonReload, _ | .stopService, _ | .addRule, _ | .deleteRule, _ | .relabel, _
  | .loadModule _, _ | .removeModule, _ => true
  -- `write_file` and `install_materials` check paths and call commands as well
  | .publish _ _, _ | .publishEntry _ _ _, _ | .publishMaterial _, _ => true
  | _, error => error = .os || error = .other

/-- A system call that fails has no effect, unless an interrupt came behind it; a command that
fails may have had its effect. -/
def Op.leaves : Op → Error → Bool
  | .unlink _, error | .unlinkEntry _, error | .rmdir _, error | .mkdir _, error
  | .create _, error | .createEntry _ _, error | .maskService, error | .unmaskService, error
  | .createStateRoot, error => error = .other
  | _, _ => true

/-- Who takes a step. -/
inductive Actor where
  | remover
  /-- The preparation of a transaction, and its end. -/
  | lifecycle
  /-- The transaction itself. -/
  | installer
  | rollback
  /-- The end of the rollback, which puts back the recovery commands. -/
  | rescue
  deriving DecidableEq

structure Label where
  actor : Actor
  op : Op

abbrev Step := Event Label Error World
abbrev Deploy (α : Type) := Script Label Error World α

def act (actor : Actor) (op : Op) : Deploy Unit :=
  .step ⟨actor, op⟩ op.effect (fun error => if op.raises error then error else .os) op.leaves

/-- A check that the script makes itself, and that fails. -/
def refuse {α : Type} (actor : Actor) (message : String) : Deploy α :=
  .raise ⟨actor, .inspect⟩ (.runtime message)

/-- `FileExistsError`, or another error of the system. -/
def clash {α : Type} (actor : Actor) (path : Path) : Deploy α := .raise ⟨actor, .stat path⟩ .os

def onlyIf (condition : Bool) (script : Deploy Unit) : Deploy Unit :=
  if condition then script else pure ()

end Goodix.Deployment
