import Goodix.Library.TwoSlot
import Goodix.SelfState.Receipt

/-! # The state-v2 directory

What the store sees of the file system: the owner and mode of its directory and
the eight names it uses inside it, `secret-a.bin`, `receipt-a.bin`, their `-b`
counterparts, and one hidden `.tmp` name for each.
-/

namespace Goodix.SelfState

open Octets

def storeError (code : Nat) (message : String) : GError :=
  ⟨"goodix-self-state-error", code, message⟩

def eperm : Nat := 1
def enoent : Nat := 2
def eintr : Nat := 4
def eio : Nat := 5
def eisdir : Nat := 21
def einval : Nat := 22

/-- `set_io_error` -/
def ioError (errno : Nat) (operation : String) : GError :=
  storeError errno ("state-v2 " ++ operation ++ " failed")

inductive FileKind where
  | regular
  | directory
  | other
  deriving DecidableEq, Repr

structure FileNode where
  kind : FileKind
  linkCount : Nat
  uid : Nat
  gid : Nat
  mode : Nat
  contents : List UInt8
  deriving DecidableEq

inductive Component where
  | secret
  | receipt
  deriving DecidableEq, Repr

structure FileName where
  component : Component
  slot : Fin 2
  temporary : Bool
  deriving DecidableEq

abbrev FileName.final (component : Component) (slot : Fin 2) : FileName :=
  ⟨component, slot, false⟩

abbrev FileName.temp (component : Component) (slot : Fin 2) : FileName :=
  ⟨component, slot, true⟩

abbrev Files := FileName → Option FileNode

structure DirectoryNode where
  uid : Nat
  gid : Nat
  mode : Nat
  files : Files

/-- What opening the configured path without following a link finds. -/
inductive PathEntry where
  | absent
  | inaccessible (errno : Nat)
  | directory (node : DirectoryNode)

structure Policy where
  ownerUid : Nat
  ownerGid : Nat
  directoryMode : Nat
  fileMode : Nat
  deriving DecidableEq

/-- `goodix_self_state_policy_for_owner` -/
def policyForOwner (uid gid : Nat) : Policy :=
  { ownerUid := uid, ownerGid := gid, directoryMode := 0o700, fileMode := 0o600 }

/-- `policy_valid` as built for production, where only root's own store is used. -/
def policyValid (policy : Policy) : Bool :=
  policy.directoryMode == 0o700 && policy.fileMode == 0o600 &&
    policy.ownerUid == 0 && policy.ownerGid == 0

/-- The directory has the owner and the mode the policy asks for. -/
def DirectoryNode.satisfies (node : DirectoryNode) (policy : Policy) : Bool :=
  node.uid == policy.ownerUid && node.gid == policy.ownerGid &&
    node.mode == policy.directoryMode

/-- `open_directory` for a path that has to be there. -/
def openDirectory (path : PathEntry) (policy : Policy) : Except GError DirectoryNode :=
  match path with
  | .absent => .error (ioError enoent "directory open")
  | .inaccessible errno => .error (ioError errno "directory open")
  | .directory node =>
    if node.satisfies policy then .ok node
    else .error (storeError eperm "state-v2 directory policy mismatch")

theorem openDirectory_ok {path : PathEntry} {policy : Policy} {node : DirectoryNode}
    (opened : openDirectory path policy = .ok node) :
    path = .directory node ∧ node.satisfies policy = true := by
  unfold openDirectory at opened
  split at opened
  · cases opened
  · cases opened
  · split at opened
    · rename_i satisfies
      cases opened
      exact ⟨rfl, satisfies⟩
    · cases opened

def artifactExists (files : Files) (name : FileName) : Bool := (files name).isSome

/-- `read_exact_file`: a regular file of one link, the policy's owner and mode and exactly
`length` octets. -/
def readExactFile (files : Files) (name : FileName) (length : Nat) (policy : Policy) :
    Option (Block length) := do
  let node ← files name
  guard (node.kind = .regular)
  guard (node.linkCount = 1)
  guard (node.uid = policy.ownerUid)
  guard (node.gid = policy.ownerGid)
  guard (node.mode = policy.fileMode)
  Block.ofList? length node.contents

/-- The `Slot` of the source; a slot that is not valid carries no state. -/
structure Slot where
  finalArtifact : Bool
  tempArtifact : Bool
  state : Option State

/-- The generation in a secret file. -/
def secretGeneration (secret : Block secretSize) : UInt64 :=
  getU64Le (secret.slice 8 8 (by decide)).val

def secretPsk (secret : Block secretSize) : Psk := secret.slice 16 32 (by decide)

/-- The generation in a receipt file. -/
def receiptGeneration (receipt : Block receiptSize) : UInt64 :=
  getU64Le (receipt.slice 12 8 generation_inside).val

/-- The state a secret and a receipt give together, as `load_slot` accepts them. -/
def pairState (crypto : Primitives) (secret : Block secretSize) (receipt : Block receiptSize) :
    Option State := do
  guard (secret.val.take 8 = secretMagic)
  let psk := secretPsk secret
  let (binding, record) ← decodeReceipt crypto receipt psk
  guard (secretGeneration secret = record.generation)
  pure { binding, record, psk }

def slotState (crypto : Primitives) (files : Files) (policy : Policy) (index : Fin 2) :
    Option State := do
  let secret ← readExactFile files (.final .secret index) secretSize policy
  let receipt ← readExactFile files (.final .receipt index) receiptSize policy
  pairState crypto secret receipt

def loadSlot (crypto : Primitives) (files : Files) (policy : Policy) (index : Fin 2) : Slot :=
  { finalArtifact := artifactExists files (.final .secret index) ||
      artifactExists files (.final .receipt index)
    tempArtifact := artifactExists files (.temp .secret index) ||
      artifactExists files (.temp .receipt index)
    state := slotState crypto files policy index }

/-- Versions of the two-slot cell the directory implements. -/
def State.generation (state : State) : Nat := state.record.generation.toNat

abbrev slotStates (crypto : Primitives) (files : Files) (policy : Policy) : TwoSlot.Slots State :=
  slotState crypto files policy

/-- The files a path leads to. -/
def PathEntry.files : PathEntry → Files
  | .directory node => node.files
  | _ => fun _ => none

/-- The states the two slots of a path hold. -/
abbrev PathEntry.slots (path : PathEntry) (crypto : Primitives) (policy : Policy) :
    TwoSlot.Slots State :=
  slotStates crypto path.files policy

/-! ## What a pair of files can stand for -/

section Pair

variable {crypto : Primitives} {files : Files} {policy : Policy} {index : Fin 2}
  {secret : Block secretSize} {receipt : Block receiptSize} {state : State}

theorem pairState_eq_some (accepted : pairState crypto secret receipt = some state) :
    secret.val.take 8 = secretMagic ∧
      decodeReceipt crypto receipt state.psk = some (state.binding, state.record) ∧
      secretPsk secret = state.psk ∧ secretGeneration secret = state.record.generation := by
  simp only [pairState, Option.bind_eq_bind, Option.bind_eq_some_iff, Option.pure_def,
    Option.some.injEq, Option.guard_eq_some'] at accepted
  obtain ⟨-, magic, decoded, decodes, -, same, rfl⟩ := accepted
  exact ⟨magic, decodes, rfl, same⟩

/-- A state is only read from a secret and a receipt of one generation. -/
theorem pairState_generation (accepted : pairState crypto secret receipt = some state) :
    secretGeneration secret = receiptGeneration receipt ∧
      state.record.generation = receiptGeneration receipt := by
  obtain ⟨-, decodes, -, same⟩ := pairState_eq_some accepted
  have written : state.record.generation = receiptGeneration receipt :=
    decodeReceipt_generation decodes
  exact ⟨same.trans written, written⟩

theorem secretGeneration_encodeSecret (generation : UInt64) (psk : Psk) :
    secretGeneration (encodeSecret generation psk) = generation := by
  have field : ((encodeSecret generation psk).slice 8 8 (by decide)).val =
      putU64Le generation := by
    simp [Block.slice, encodeSecret, secretMagic]
  rw [secretGeneration, field, getU64Le_putU64Le]

theorem secretPsk_encodeSecret (generation : UInt64) (psk : Psk) :
    secretPsk (encodeSecret generation psk) = psk := by
  apply Subtype.ext
  simp [secretPsk, Block.slice, encodeSecret, secretMagic]

/-- **Slot round trip.**  The files of one write are read back as the state written. -/
theorem pairState_encode {binding : Binding} {record : Record} {psk : Psk}
    (bound : bindingValid binding = true) (valid : recordValid record = true)
    (encoded : encodeReceipt crypto binding record psk = some receipt) :
    pairState crypto (encodeSecret record.generation psk) receipt =
      some ⟨binding, record.canonical, psk⟩ := by
  have magic : (encodeSecret record.generation psk).val.take 8 = secretMagic := by
    simp [encodeSecret, secretMagic]
  simp only [pairState, magic, secretPsk_encodeSecret, secretGeneration_encodeSecret,
    decodeReceipt_encodeReceipt bound valid encoded]
  simp [guard]

theorem slotState_eq_some (loaded : slotState crypto files policy index = some state) :
    ∃ secret receipt, readExactFile files (.final .secret index) secretSize policy = some secret ∧
      readExactFile files (.final .receipt index) receiptSize policy = some receipt ∧
      pairState crypto secret receipt = some state := by
  simp only [slotState, Option.bind_eq_bind, Option.bind_eq_some_iff] at loaded
  obtain ⟨secret, secretRead, receipt, receiptRead, accepted⟩ := loaded
  exact ⟨secret, receipt, secretRead, receiptRead, accepted⟩

/-- Only the two final files of a slot decide what the slot holds. -/
theorem slotState_congr {other : Files}
    (secretKept : other (.final .secret index) = files (.final .secret index))
    (receiptKept : other (.final .receipt index) = files (.final .receipt index)) :
    slotState crypto other policy index = slotState crypto files policy index := by
  simp only [slotState, readExactFile, secretKept, receiptKept]

/-- Without its files a slot holds nothing. -/
theorem slotState_none (index : Fin 2) (unused : ∀ name, files name = none) :
    slotState crypto files policy index = none := by
  simp [slotState, readExactFile, unused]

end Pair

end Goodix.SelfState
