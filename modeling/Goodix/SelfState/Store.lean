import Goodix.SelfState.Directory

/-! # The state-v2 store

Loading and the three kinds of writes of `goodix_self_state.c`.  A write may be
interrupted at every point where the source can fail or the process can die; the
directory is then left as that point leaves it.
-/

namespace Goodix.SelfState

open Octets

/-! ## Writing one file -/

/-- The points of `write_component` after which nothing more of it happens. -/
inductive WriteStep where
  | staleTemporaryRemoval
  | temporaryCreate
  | temporaryWrite
  | temporaryWritten
  | fileSync
  | fileClose
  | fileSynced
  | atomicRename
  | renamed
  | directorySync
  | directorySynced
  deriving DecidableEq, Repr

/-- What a temporary that was never synced holds after an interruption. -/
structure Residue where
  mode : Nat
  contents : List UInt8
  deriving DecidableEq

/-- An interrupted write: a failing call with its `errno`, or the end of the process. -/
structure Halt where
  step : WriteStep
  errno : Nat
  residue : Option Residue
  deriving DecidableEq

def simulatedInterruption : GError := storeError eintr "state-v2 simulated interruption"

def Halt.error (halt : Halt) : GError :=
  match halt.step with
  | .staleTemporaryRemoval => ioError halt.errno "stale temporary removal"
  | .temporaryCreate => ioError halt.errno "temporary create"
  | .temporaryWrite => ioError halt.errno "temporary write"
  | .temporaryWritten => simulatedInterruption
  | .fileSync => ioError halt.errno "file sync"
  | .fileClose => ioError halt.errno "file close"
  | .fileSynced => simulatedInterruption
  | .atomicRename => ioError halt.errno "atomic rename"
  | .renamed => simulatedInterruption
  | .directorySync => ioError halt.errno "directory sync"
  | .directorySynced => simulatedInterruption

/-- A file `write_component` makes.  The directory is its owner's alone, so the process that
could open it owns the file. -/
def createdFile (policy : Policy) (mode : Nat) (contents : List UInt8) : FileNode :=
  { kind := .regular, linkCount := 1, uid := policy.ownerUid, gid := policy.ownerGid, mode,
    contents }

def isDirectory (entry : Option FileNode) : Bool :=
  match entry with
  | some node => node.kind == .directory
  | none => false

/-- `write_component`: a temporary is filled, synced, renamed over the final name, and the
directory is synced. -/
def writeComponent (component : Component) (slot : Fin 2) (contents : List UInt8)
    (policy : Policy) (halt : Option Halt) (files : Files) : Except GError Unit × Files :=
  let temp := FileName.temp component slot
  let final := FileName.final component slot
  let created := createdFile policy policy.fileMode contents
  let synced := Function.update files temp (some created)
  let published := Function.update (Function.update files temp none) final (some created)
  if isDirectory (files temp) then (.error (ioError eisdir "stale temporary removal"), files)
  else
    match halt with
    | none =>
      if isDirectory (files final) then (.error (ioError eisdir "atomic rename"), synced)
      else (.ok (), published)
    | some halt =>
      match halt.step with
      | .staleTemporaryRemoval => (.error halt.error, files)
      | .temporaryCreate | .temporaryWrite | .temporaryWritten | .fileSync =>
        let residue := halt.residue.map fun left => createdFile policy left.mode left.contents
        (.error halt.error, Function.update files temp residue)
      | .fileClose | .fileSynced | .atomicRename => (.error halt.error, synced)
      | .renamed | .directorySync | .directorySynced =>
        if isDirectory (files final) then (.error (ioError eisdir "atomic rename"), synced)
        else (.error halt.error, published)

/-- An interruption of a whole write: in which of its two files and how. -/
abbrev Fault := Component × Halt

def haltIn (fault : Option Fault) (component : Component) : Option Halt :=
  match fault with
  | some (interrupted, halt) => if interrupted = component then some halt else none
  | none => none

/-- The two `write_component` calls of `write_state`: the secret, then its receipt. -/
def writeComponents (target : Fin 2) (secret : Block secretSize) (receipt : Block receiptSize)
    (policy : Policy) (fault : Option Fault) (files : Files) : Except GError Unit × Files :=
  match writeComponent .secret target secret.val policy (haltIn fault .secret) files with
  | (.error error, files) => (.error error, files)
  | (.ok (), files) =>
    writeComponent .receipt target receipt.val policy (haltIn fault .receipt) files

/-! ## Writing a state -/

def invalidInput : GError := storeError einval "invalid state-v2 input"
def writeBindingMismatch : GError := storeError eperm "state-v2 binding mismatch"
def noWritableSlot : GError := storeError eio "state-v2 has no unambiguous writable slot"
def notMonotonic : GError := storeError einval "state-v2 generation is not monotonic"
def authenticationFailed : GError := storeError eio "state-v2 receipt authentication failed"

def Slot.hasArtifact (slot : Slot) : Bool := slot.finalArtifact || slot.tempArtifact

/-- The slot is valid and its binding is not `binding`. -/
def Slot.mismatches (slot : Slot) (binding : Binding) : Bool :=
  match slot.state with
  | some state => !bindingEqual state.binding binding
  | none => false

/-- The slot is valid and `generation` does not exceed its own. -/
def Slot.reaches (slot : Slot) (generation : UInt64) : Bool :=
  match slot.state with
  | some state => generation ≤ state.record.generation
  | none => false

/-- The slots are two. -/
local instance twoSlots : NeZero 2 := ⟨by decide⟩

/-- The slot `write_state` replaces: the older valid one, else the one that is not valid, else
one without artifacts. -/
def selectTarget (slots : Fin 2 → Slot) : Option (Fin 2) :=
  match (slots 0).state, (slots 1).state with
  | some first, some second =>
    if first.record.generation ≤ second.record.generation then some 0 else some 1
  | some _, none => some 1
  | none, some _ => some 0
  | none, none =>
    if (slots 0).hasArtifact && (slots 1).hasArtifact then none
    else if (slots 0).hasArtifact then some 1
    else some 0

structure WritePlan where
  target : Fin 2
  secret : Block secretSize
  receipt : Block receiptSize

/-- The checks of `write_state` on the loaded slots, and the files it is about to write. -/
def planWrite (crypto : Primitives) (slots : Fin 2 → Slot) (binding : Binding) (record : Record)
    (psk : Psk) : Except GError WritePlan :=
  if (slots 0).mismatches binding || (slots 1).mismatches binding then .error writeBindingMismatch
  else
    match selectTarget slots with
    | none => .error noWritableSlot
    | some target =>
      if (slots 0).reaches record.generation || (slots 1).reaches record.generation then
        .error notMonotonic
      else
        match encodeReceipt crypto binding record psk with
        | none => .error authenticationFailed
        | some receipt =>
          .ok { target, secret := encodeSecret record.generation psk, receipt }

def writeState (crypto : Primitives) (policy : Policy) (fault : Option Fault) (path : PathEntry)
    (binding : Binding) (record : Record) (psk : Psk) : Except GError Unit × PathEntry :=
  if !bindingValid binding || !recordValid record || !policyValid policy then
    (.error invalidInput, path)
  else
    match openDirectory path policy with
    | .error error => (.error error, path)
    | .ok node =>
      match planWrite crypto (loadSlot crypto node.files policy) binding record psk with
      | .error error => (.error error, path)
      | .ok plan =>
        let (result, files) :=
          writeComponents plan.target plan.secret plan.receipt policy fault node.files
        (result, .directory { node with files })

/-! ## The public operations -/

inductive LoadResult where
  | absent
  | valid
  | incomplete
  | bindingMismatch
  deriving DecidableEq, Repr

/-- A load result with the state or the error the call also hands out. -/
inductive Load where
  | absent
  | valid (state : State)
  | incomplete (error : Option GError)
  | bindingMismatch
  deriving DecidableEq

def Load.result : Load → LoadResult
  | .absent => .absent
  | .valid _ => .valid
  | .incomplete _ => .incomplete
  | .bindingMismatch => .bindingMismatch

def invalidLoadInput : GError := storeError einval "invalid state-v2 load input"

/-- One round of the selection loop of `goodix_self_state_load`. -/
def considerSlot (binding : Binding) (selected : Option State) (slot : Slot) : Option State :=
  match slot.state with
  | none => selected
  | some state =>
    if bindingEqual state.binding binding then
      match selected with
      | none => some state
      | some best =>
        if best.record.generation < state.record.generation then some state else some best
    else selected

/-- `goodix_self_state_load` -/
def load (crypto : Primitives) (path : PathEntry) (binding : Binding) (policy : Policy) : Load :=
  if !bindingValid binding || !policyValid policy then .incomplete (some invalidLoadInput)
  else
    match path with
    | .absent => .absent
    | _ =>
      match openDirectory path policy with
      | .error error => .incomplete (some error)
      | .ok node =>
        let slots := loadSlot crypto node.files policy
        let anyArtifact := (slots 0).hasArtifact || (slots 1).hasArtifact
        let anyValid := (slots 0).state.isSome || (slots 1).state.isSome
        if (slots 0).mismatches binding || (slots 1).mismatches binding then .bindingMismatch
        else
          match considerSlot binding (considerSlot binding none (slots 0)) (slots 1) with
          | some state => .valid state
          | none =>
            if anyValid then .bindingMismatch
            else if anyArtifact then .incomplete none
            else .absent

def preparedRecordRequired : GError := storeError einval "state-v2 prepared record required"

/-- `goodix_self_state_write_prepared` -/
def writePrepared (crypto : Primitives) (policy : Policy) (fault : Option Fault)
    (path : PathEntry) (binding : Binding) (record : Record) (psk : Psk) :
    Except GError Unit × PathEntry :=
  if record.phase ≠ .prepared || record.terminalProof then (.error preparedRecordRequired, path)
  else writeState crypto policy fault path binding record psk

/-- The record `goodix_self_state_import_legacy` builds. -/
def legacyRecord (validator : Validator) (legacySourceSha256 : Digest)
    (fdtTable : Option (Block 12)) : Record :=
  { phase := .prepared
    generation := 1
    expectedValidator := validator
    priorValidatorPresent := false
    priorValidator := Block.zero 32
    fdtPresent := fdtTable.isSome
    fdtTable := fdtTable.getD (Block.zero 12)
    migratedLegacy := true
    legacySourceSha256
    bb010002Sha256Present := false
    bb010002Sha256 := Block.zero 32
    e0Attempted := false
    terminalProof := false }

/-- `goodix_self_state_import_legacy` -/
def importLegacy (crypto : Primitives) (policy : Policy) (fault : Option Fault)
    (path : PathEntry) (binding : Binding) (psk : Psk) (validator : Validator)
    (legacySourceSha256 : Digest) (fdtTable : Option (Block 12)) :
    Except GError Unit × PathEntry :=
  writePrepared crypto policy fault path binding
    (legacyRecord validator legacySourceSha256 fdtTable) psk

/-- The record a promotion writes for a prepared one. -/
def Record.promoted (record : Record) : Record :=
  { record with phase := .active, generation := record.generation + 1, terminalProof := true }

def promotableRecordRequired : GError := storeError einval "state-v2 promotable record required"

def maxGeneration : UInt64 := 0xffffffffffffffff

/-- `goodix_self_state_promote_active` -/
def promoteActive (crypto : Primitives) (policy : Policy) (fault : Option Fault)
    (path : PathEntry) (prepared : State) : Except GError Unit × PathEntry :=
  if prepared.record.phase ≠ .prepared || prepared.record.generation = maxGeneration then
    (.error promotableRecordRequired, path)
  else
    writeState crypto policy fault path prepared.binding prepared.record.promoted prepared.psk

inductive Reconcile where
  | activeMatch
  | externalReplacement
  | retryTls
  | promoteActive
  | usePrior
  | recoveryRequired
  deriving DecidableEq, Repr

/-- `goodix_self_state_reconcile` -/
def reconcile (state : State) (liveValidator : Validator) (tlsProven : Bool) : Reconcile :=
  let record := state.record
  if record.phase = .active then
    if record.expectedValidator = liveValidator then .activeMatch else .externalReplacement
  else if record.phase ≠ .prepared then .recoveryRequired
  else if record.expectedValidator = liveValidator then
    if tlsProven then .promoteActive else .retryTls
  else if record.priorValidatorPresent && record.priorValidator = liveValidator then .usePrior
  else .recoveryRequired

end Goodix.SelfState
