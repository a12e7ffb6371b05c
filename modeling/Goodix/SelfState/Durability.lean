import Goodix.SelfState.WriteOutcome

/-! # Durability of the state-v2 store

The store over whole runs of completed and interrupted writes.  The invariant
says that the two valid slots never share a generation and that no readable
receipt is newer than every valid slot.  A new secret therefore never fits the
receipt an interruption leaves beside it, and the directory behaves as one
register whose value is replaced at once or not at all.
-/

namespace Goodix.SelfState

open Octets

variable {crypto : Primitives} {policy : Policy}

/-- Every readable receipt is at most as new as some valid slot. -/
def ReceiptsBounded (crypto : Primitives) (policy : Policy) (files : Files) : Prop :=
  ∀ index receipt,
    readExactFile files (.final .receipt index) receiptSize policy = some receipt →
    ∃ slot state, slotStates crypto files policy slot = some state ∧
      (receiptGeneration receipt).toNat ≤ state.generation

/-- What every run of writes from an empty directory keeps. -/
structure FilesInvariant (crypto : Primitives) (policy : Policy) (files : Files) : Prop where
  distinct : TwoSlot.Distinct State.generation (slotStates crypto files policy)
  receipts : ReceiptsBounded crypto policy files

theorem FilesInvariant.empty {files : Files} (none : ∀ name, files name = none) :
    FilesInvariant crypto policy files where
  distinct := by
    intro left right first
    rw [slotStates, slotState_none 0 none] at first
    cases first
  receipts := by
    intro index receipt receiptRead
    simp [readExactFile, none] at receiptRead

section Step

variable {files after : Files} {binding : Binding} {record : Record} {psk : Psk}
  {plan : WritePlan}

/-- Under the invariant a torn slot is not valid: the receipt left in it is older than the new
secret. -/
theorem FilesInvariant.torn_invalid (invariant : FilesInvariant crypto policy files)
    (increases : TwoSlot.Below State.generation record.generation.toNat
      (slotStates crypto files policy)) {content : Option State}
    (pairs : ∀ state, content = some state → ∃ receipt,
      readExactFile files (.final .receipt plan.target) receiptSize policy = some receipt ∧
        receiptGeneration receipt = record.generation ∧
        state.record.generation = record.generation ∧ state.psk = psk ∧
        decodeReceipt crypto receipt psk = some (state.binding, state.record)) :
    content = none := by
  cases content with
  | none => rfl
  | some state =>
    obtain ⟨receipt, receiptRead, sameGeneration, -⟩ := pairs state rfl
    obtain ⟨slot, newest, held, bound⟩ := invariant.receipts plan.target receipt receiptRead
    have below := increases slot newest held
    rw [sameGeneration] at bound
    omega

/-- The slots after a write from a directory in the invariant: unchanged, with the target slot
invalid, or with the new state in it. -/
theorem FilesInvariant.slots_after (invariant : FilesInvariant crypto policy files)
    (planned : Planned crypto (slotStates crypto files policy) binding record psk plan)
    (outcome : SlotsOutcome crypto policy files binding record psk plan.target after) :
    slotStates crypto after policy = slotStates crypto files policy ∨
      ∃ content, (content = none ∨ content = some (storedState binding record psk)) ∧
        slotStates crypto after policy =
          Function.update (slotStates crypto files policy) plan.target content := by
  cases outcome with
  | kept slots => exact .inl slots
  | torn content pairs slots =>
    exact .inr ⟨content, .inl (invariant.torn_invalid planned.increases pairs), slots⟩
  | published slots => exact .inr ⟨_, .inr rfl, slots⟩

theorem FilesInvariant.distinct_after (invariant : FilesInvariant crypto policy files)
    (planned : Planned crypto (slotStates crypto files policy) binding record psk plan)
    (outcome : SlotsOutcome crypto policy files binding record psk plan.target after) :
    TwoSlot.Distinct State.generation (slotStates crypto after policy) := by
  rcases invariant.slots_after planned outcome with slots | ⟨content, rfl | rfl, slots⟩
  · rw [slots]
    exact invariant.distinct
  · rw [slots]
    exact TwoSlot.distinct_invalidate _ _ _
  · rw [slots]
    refine TwoSlot.Below.distinct_publish _ ?_ plan.target
    rw [storedState_generation]
    exact planned.increases

/-- A receipt that the write left alone stays bounded, whatever became of the target slot. -/
theorem FilesInvariant.old_receipt_bounded (invariant : FilesInvariant crypto policy files)
    (planned : Planned crypto (slotStates crypto files policy) binding record psk plan)
    (outcome : SlotsOutcome crypto policy files binding record psk plan.target after)
    (index : Fin 2) {receipt : Block receiptSize}
    (receiptRead : readExactFile files (.final .receipt index) receiptSize policy = some receipt) :
    ∃ slot state, slotStates crypto after policy slot = some state ∧
      (receiptGeneration receipt).toNat ≤ state.generation := by
  obtain ⟨slot, state, held, bound⟩ := invariant.receipts index receipt receiptRead
  rcases invariant.slots_after planned outcome with slots | ⟨content, rfl | rfl, slots⟩
  · exact ⟨slot, state, by rw [slots, held], bound⟩
  · by_cases same : slot = plan.target
    · obtain ⟨kept, other, different, otherHeld, newer⟩ := planned.spare state (same ▸ held)
      refine ⟨kept, other, ?_, bound.trans newer⟩
      rw [slots, Function.update_of_ne different, otherHeld]
    · refine ⟨slot, state, ?_, bound⟩
      rw [slots, Function.update_of_ne same, held]
  · refine ⟨plan.target, storedState binding record psk, ?_, ?_⟩
    · rw [slots, Function.update_self]
    · rw [storedState_generation]
      exact bound.trans (planned.increases slot state held).le

theorem FilesInvariant.after_write (invariant : FilesInvariant crypto policy files)
    (bound : bindingValid binding = true) (valid : recordValid record = true)
    (planned : Planned crypto (slotStates crypto files policy) binding record psk plan)
    (others : ∀ name : FileName, name.slot ≠ plan.target → after name = files name)
    (filesOutcome : FilesOutcome policy plan files after)
    (outcome : SlotsOutcome crypto policy files binding record psk plan.target after) :
    FilesInvariant crypto policy after where
  distinct := invariant.distinct_after planned outcome
  receipts := by
    intro index receipt receiptRead
    by_cases same : index = plan.target
    · subst same
      have keptReceipt (receiptKept : after (.final .receipt plan.target) =
          files (.final .receipt plan.target)) :
          ∃ slot state, slotStates crypto after policy slot = some state ∧
            (receiptGeneration receipt).toNat ≤ state.generation := by
        refine invariant.old_receipt_bounded planned outcome plan.target ?_
        rw [← receiptRead, readExactFile, readExactFile, receiptKept]
      cases filesOutcome with
      | kept _ receiptKept => exact keptReceipt receiptKept
      | torn _ receiptKept => exact keptReceipt receiptKept
      | published secretNew receiptNew =>
        rw [readExactFile_created plan.receipt receiptNew, Option.some.injEq] at receiptRead
        subst receiptRead
        have generation : receiptGeneration plan.receipt = record.generation :=
          encodeReceipt_generation bound planned.receipt
        refine ⟨plan.target, storedState binding record psk, ?_, ?_⟩
        · rw [slots_published bound valid planned others secretNew receiptNew,
            Function.update_self]
        · rw [generation, storedState_generation]
    · refine invariant.old_receipt_bounded planned outcome index ?_
      rw [← receiptRead, readExactFile, readExactFile, others _ same]

end Step

/-! ## Runs -/

/-- The directories that writes, completed or interrupted, make out of an empty one. -/
inductive Reachable (crypto : Primitives) (policy : Policy) : PathEntry → Prop where
  | empty (node : DirectoryNode) (unused : ∀ name, node.files name = none) :
      Reachable crypto policy (.directory node)
  | write {path : PathEntry} (earlier : Reachable crypto policy path) (fault : Option Fault)
      (binding : Binding) (record : Record) (psk : Psk) :
      Reachable crypto policy (writeState crypto policy fault path binding record psk).2

/-- The run rule of the store: every reachable path is a directory in the invariant. -/
theorem Reachable.invariant {path : PathEntry} (reachable : Reachable crypto policy path) :
    ∃ node, path = .directory node ∧ FilesInvariant crypto policy node.files := by
  induction reachable with
  | empty node unused => exact ⟨node, rfl, .empty unused⟩
  | write earlier fault binding record psk earlierInvariant =>
    obtain ⟨node, rfl, invariant⟩ := earlierInvariant
    rcases writeState_outcome crypto policy fault (.directory node)
      binding record psk with ⟨error, refused⟩ | ⟨source, result, after, samePath, wrote, proceeds⟩
    · exact ⟨node, by rw [refused], invariant⟩
    · cases samePath
      obtain ⟨plan, planned, -, others, filesOutcome, outcome, -⟩ := proceeds.outcome
      exact ⟨_, by rw [wrote], invariant.after_write proceeds.bound proceeds.valid planned others
        filesOutcome outcome⟩

section Atomicity

variable {path : PathEntry} {binding : Binding} {record : Record} {psk : Psk}

/-- A planned write makes at most one step of the register behind the directory, and every valid
slot it leaves has the binding of the write. -/
theorem WriteProceeds.register {node : DirectoryNode} {result : Except GError Unit}
    {after : Files} (invariant : FilesInvariant crypto policy node.files)
    (proceeds : WriteProceeds crypto policy node binding record psk result after) :
    (TwoSlot.newest State.generation (slotStates crypto after policy) =
        TwoSlot.newest State.generation (slotStates crypto node.files policy) ∨
      TwoSlot.newest State.generation (slotStates crypto after policy) =
        some (storedState binding record psk)) ∧
    ∀ index state, slotStates crypto after policy index = some state →
      state.binding = binding := by
  obtain ⟨plan, planned, -, -, -, outcome, -⟩ := proceeds.outcome
  rcases invariant.slots_after planned outcome with slots | ⟨content, cases, slots⟩
  · rw [slots]
    exact ⟨.inl rfl, planned.sameBinding⟩
  · rw [slots]
    constructor
    · rcases cases with rfl | rfl
      · exact .inl (TwoSlot.newest_invalidate _ invariant.distinct planned.spare)
      · refine .inr (TwoSlot.newest_publish _ ?_ plan.target)
        rw [storedState_generation]
        exact planned.increases
    · intro index state held
      by_cases same : index = plan.target
      · rw [same, Function.update_self] at held
        rcases cases with rfl | rfl
        · cases held
        · cases held
          rfl
      · rw [Function.update_of_ne same] at held
        exact planned.sameBinding index state held

/-- **Crash atomicity.**  From every directory that runs of writes can reach, an accepted write
that is interrupted anywhere leaves what was selected before or what it was to store. -/
theorem interrupted_write_is_atomic (reachable : Reachable crypto policy path)
    (accepted : (writeState crypto policy none path binding record psk).1 = .ok ())
    (fault : Option Fault) :
    let before := load crypto path binding policy
    let after := load crypto (writeState crypto policy fault path binding record psk).2 binding policy
    (∀ state, before = .valid state →
      after = .valid state ∨ after = .valid (storedState binding record psk)) ∧
    ((∀ state, before ≠ .valid state) →
      after = .valid (storedState binding record psk) ∨ ∀ state, after ≠ .valid state) ∧
    after ≠ .bindingMismatch := by
  obtain ⟨node, rfl, invariant⟩ := reachable.invariant
  intro before after
  rcases writeState_outcome crypto policy none (.directory node)
    binding record psk with ⟨error, refused⟩ | ⟨source, _, _, samePath, _, whole⟩
  · rw [refused] at accepted
    cases accepted
  cases samePath
  obtain ⟨plan, planned, -⟩ := whole.outcome
  have loads (state : State) := load_valid_iff crypto node state whole.bound
    whole.policyChecked whole.opened planned.sameBinding
  have matching := load_ne_bindingMismatch crypto node whole.bound whole.policyChecked whole.opened
    planned.sameBinding
  rcases writeState_outcome crypto policy fault (.directory node)
    binding record psk with ⟨error, refused⟩ | ⟨source, result, files, samePath, wrote, proceeds⟩
  · have unchanged : after = before := by
      simp only [after, before, refused]
    rw [unchanged]
    exact ⟨fun state valid => .inl valid, .inr, matching⟩
  · cases samePath
    obtain ⟨selected, sameBinding⟩ := proceeds.register invariant
    have loadsAfter (state : State) := load_valid_iff crypto { node with files } state
      whole.bound whole.policyChecked whole.opened sameBinding
    have matchingAfter := load_ne_bindingMismatch crypto { node with files }
      whole.bound whole.policyChecked whole.opened sameBinding
    simp only [before, after, wrote, ne_eq, loads, loadsAfter, matchingAfter, not_false_eq_true,
      and_true]
    rcases selected with same | new
    · rw [same]
      exact ⟨fun state valid => .inl valid, .inr⟩
    · rw [new]
      exact ⟨fun _ _ => .inr rfl, fun _ => .inl rfl⟩

end Atomicity

section Example

/-- A directory root has just made for the store. -/
def emptyDirectory : DirectoryNode := { uid := 0, gid := 0, mode := 0o700, files := fun _ => none }

def exampleBinding : Binding :=
  { vid := 0x27c6, pid := 0x5125, chipProfile := 0x2504, app := ⟨[65, 80, 80], by decide⟩,
    otpSha256 := Block.zero 32, config90Sha256 := Block.zero 32 }

def exampleRecord : Record := legacyRecord (Block.zero 32) (Block.zero 32) none

/-- The secret is in place and its receipt is not. -/
def secretRenamed : Fault := (.secret, { step := .renamed, errno := 0, residue := none })

/-- The first write of the store. -/
def firstWrite (fault : Option Fault) : Except GError Unit × PathEntry :=
  writeState .constant (policyForOwner 0 0) fault (.directory emptyDirectory) exampleBinding
    exampleRecord (Block.zero 32)

/-- A write of generation 2 over the first one. -/
def secondWrite (fault : Option Fault) : Except GError Unit × PathEntry :=
  writeState .constant (policyForOwner 0 0) fault (firstWrite none).2 exampleBinding
    exampleRecord.promoted (Block.zero 32)

def loaded (path : PathEntry) : Load := load .constant path exampleBinding (policyForOwner 0 0)

def firstState : State := storedState exampleBinding exampleRecord (Block.zero 32)

def secondState : State := storedState exampleBinding exampleRecord.promoted (Block.zero 32)

theorem emptyDirectory_reachable :
    Reachable .constant (policyForOwner 0 0) (.directory emptyDirectory) :=
  .empty emptyDirectory fun _ => rfl

theorem firstWrite_reachable (fault : Option Fault) :
    Reachable .constant (policyForOwner 0 0) (firstWrite fault).2 :=
  emptyDirectory_reachable.write fault _ _ _

/-- The first write is accepted and interrupted in an empty directory, the second over what the
first one left. -/
theorem second_write_is_atomic :
    ((firstWrite none).1 = .ok () ∧ loaded (firstWrite none).2 = .valid firstState ∧
      loaded (firstWrite (some secretRenamed)).2 = .incomplete none ∧
      ∀ fault, loaded (firstWrite fault).2 = .valid firstState ∨
        ∀ state, loaded (firstWrite fault).2 ≠ .valid state) ∧
    (secondWrite none).1 = .ok () ∧ loaded (secondWrite none).2 = .valid secondState ∧
      loaded (secondWrite (some secretRenamed)).2 = .valid firstState ∧
      ∀ fault, loaded (secondWrite fault).2 = .valid firstState ∨
        loaded (secondWrite fault).2 = .valid secondState := by
  have first : (firstWrite none).1 = .ok () := by decide +kernel
  have second : (secondWrite none).1 = .ok () := by decide +kernel
  have held : loaded (firstWrite none).2 = .valid firstState := by decide +kernel
  refine ⟨⟨first, held, by decide +kernel, fun fault => ?_⟩, second, by decide +kernel,
    by decide +kernel, fun fault => ?_⟩
  · have empty : ∀ state, loaded (.directory emptyDirectory) ≠ .valid state := by
      have absent : loaded (.directory emptyDirectory) = .absent := by decide +kernel
      intro state
      rw [absent]
      exact Load.noConfusion
    exact (interrupted_write_is_atomic emptyDirectory_reachable first fault).2.1 empty
  · exact (interrupted_write_is_atomic (firstWrite_reachable none) second fault).1 firstState held

end Example

/-! ## The three kinds of writes -/

inductive WriteCall where
  | writePrepared (binding : Binding) (record : Record) (psk : Psk)
  | importLegacy (binding : Binding) (psk : Psk) (validator : Validator)
      (legacySourceSha256 : Digest) (fdtTable : Option (Block 12))
  | promoteActive (prepared : State)

namespace WriteCall

def perform (crypto : Primitives) (policy : Policy) (fault : Option Fault) (path : PathEntry) :
    WriteCall → Except GError Unit × PathEntry
  | writePrepared binding record psk =>
    SelfState.writePrepared crypto policy fault path binding record psk
  | importLegacy binding psk validator legacySourceSha256 fdtTable =>
    SelfState.importLegacy crypto policy fault path binding psk validator legacySourceSha256 fdtTable
  | promoteActive prepared => SelfState.promoteActive crypto policy fault path prepared

def binding : WriteCall → Binding
  | writePrepared binding _ _ => binding
  | importLegacy binding _ _ _ _ => binding
  | promoteActive prepared => prepared.binding

/-- The record the call asks the store to write. -/
def record : WriteCall → Record
  | writePrepared _ record _ => record
  | importLegacy _ _ validator legacySourceSha256 fdtTable =>
    legacyRecord validator legacySourceSha256 fdtTable
  | promoteActive prepared => prepared.record.promoted

def psk : WriteCall → Psk
  | writePrepared _ _ psk => psk
  | importLegacy _ psk _ _ _ => psk
  | promoteActive prepared => prepared.psk

/-- The phase, and for a promotion the generation, that the call itself checks. -/
def admissible : WriteCall → Bool
  | writePrepared _ record _ => record.phase = .prepared && !record.terminalProof
  | importLegacy _ _ _ _ _ => true
  | promoteActive prepared =>
    prepared.record.phase = .prepared && prepared.record.generation ≠ maxGeneration

/-- Past its own check each kind of write is the same `write_state`. -/
theorem perform_eq (call : WriteCall) (crypto : Primitives) (policy : Policy) (fault : Option Fault) (path : PathEntry) :
    (call.admissible = false ∧
      ∃ error, call.perform crypto policy fault path = (.error error, path)) ∨
    (call.admissible = true ∧ call.perform crypto policy fault path =
      writeState crypto policy fault path call.binding call.record call.psk) := by
  cases call with
  | writePrepared binding record psk =>
    by_cases refused : record.phase ≠ .prepared ∨ record.terminalProof = true
    · left
      refine ⟨?_, preparedRecordRequired, ?_⟩
      · rcases refused with phase | proof
        · simp [admissible, phase]
        · simp [admissible, proof]
      · rcases refused with phase | proof
        · simp [perform, SelfState.writePrepared, phase]
        · simp [perform, SelfState.writePrepared, proof]
    · rw [not_or, not_not, Bool.not_eq_true] at refused
      right
      simp [admissible, perform, SelfState.writePrepared, refused, WriteCall.binding,
        WriteCall.record, WriteCall.psk]
  | importLegacy binding psk validator legacySourceSha256 fdtTable =>
    right
    simp [admissible, perform, SelfState.importLegacy, SelfState.writePrepared, legacyRecord,
      WriteCall.binding, WriteCall.record, WriteCall.psk]
  | promoteActive prepared =>
    by_cases refused : prepared.record.phase ≠ .prepared ∨ prepared.record.generation = maxGeneration
    · left
      refine ⟨?_, promotableRecordRequired, ?_⟩
      · rcases refused with phase | exhausted
        · simp [admissible, phase]
        · simp [admissible, exhausted]
      · rcases refused with phase | exhausted
        · simp [perform, SelfState.promoteActive, phase]
        · simp [perform, SelfState.promoteActive, exhausted]
    · rw [not_or, not_not] at refused
      right
      simp [admissible, perform, SelfState.promoteActive, refused, WriteCall.binding,
        WriteCall.record, WriteCall.psk]

end WriteCall

/-- Why a write must be refused with the directory left alone. -/
inductive Refusal (crypto : Primitives) (policy : Policy) (path : PathEntry) (call : WriteCall) :
    Prop where
  | bindingMismatch (index : Fin 2) (state : State)
      (valid : path.slots crypto policy index = some state)
      (different : state.binding ≠ call.binding)
  | notMonotonic (index : Fin 2) (state : State)
      (valid : path.slots crypto policy index = some state)
      (reached : call.record.generation ≤ state.record.generation)
  | unpromotable (refused : call.admissible = false)
  | ambiguous (invalid : ∀ index, path.slots crypto policy index = none)
      (leftovers : ∀ index, (loadSlot crypto path.files policy index).hasArtifact = true)

theorem Planned.not_refused {node : DirectoryNode} {call : WriteCall} {plan : WritePlan}
    (planned : planWrite crypto (loadSlot crypto node.files policy) call.binding call.record
      call.psk = .ok plan) (admissible : call.admissible = true) :
    ¬ Refusal crypto policy (.directory node) call := by
  intro refusal
  have checks := planWrite_planned planned
  cases refusal with
  | bindingMismatch index state valid different =>
    exact different (checks.sameBinding index state valid)
  | notMonotonic index state valid reached =>
    have below := checks.increases index state valid
    rw [UInt64.le_iff_toNat_le] at reached
    simp only [State.generation] at below
    omega
  | unpromotable refused =>
    rw [admissible] at refused
    cases refused
  | ambiguous invalid leftovers =>
    have first : (loadSlot crypto node.files policy 0).state = none := invalid 0
    have second : (loadSlot crypto node.files policy 1).state = none := invalid 1
    have firstLeftover : (loadSlot crypto node.files policy 0).hasArtifact = true := leftovers 0
    have secondLeftover : (loadSlot crypto node.files policy 1).hasArtifact = true := leftovers 1
    have noTarget : selectTarget (loadSlot crypto node.files policy) = none := by
      simp [selectTarget, first, second, firstLeftover, secondLeftover]
    unfold planWrite at planned
    simp only [noTarget] at planned
    split at planned <;> cases planned

/-- What a write call promises about the path it leaves. -/
structure WriteContract (crypto : Primitives) (policy : Policy) (path : PathEntry)
    (call : WriteCall) (outcome : Except GError Unit × PathEntry) : Prop where
  increases : outcome.1 = .ok () → ∀ index state, path.slots crypto policy index = some state →
    state.record.generation < call.record.generation ∧ state.binding = call.binding
  readsBack : outcome.1 = .ok () → load crypto outcome.2 call.binding policy =
    .valid ⟨call.binding, call.record.canonical, call.psk⟩
  newestUntouched : ∀ state index,
    TwoSlot.newest State.generation (path.slots crypto policy) = some state →
    path.slots crypto policy index = some state → ∀ component temporary,
      outcome.2.files ⟨component, index, temporary⟩ = path.files ⟨component, index, temporary⟩
  refused : Refusal crypto policy path call → outcome.1 ≠ .ok () ∧ outcome.2 = path

theorem WriteContract.of_refused {path : PathEntry} {call : WriteCall} (error : GError) :
    WriteContract crypto policy path call (.error error, path) where
  increases succeeded := by cases succeeded
  readsBack succeeded := by cases succeeded
  newestUntouched _ _ _ _ _ _ := rfl
  refused _ := ⟨by simp, rfl⟩

theorem WriteContract.of_proceeds {node : DirectoryNode} {call : WriteCall}
    {fault : Option Fault} {result : Except GError Unit} {after : Files}
    (invariant : FilesInvariant crypto policy node.files) (admissible : call.admissible = true)
    (wrote : writeState crypto policy fault (.directory node) call.binding call.record call.psk =
      (result, .directory { node with files := after }))
    (proceeds : WriteProceeds crypto policy node call.binding call.record call.psk result after) :
    WriteContract crypto policy (.directory node) call
      (result, .directory { node with files := after }) := by
  obtain ⟨plan, planned, planSucceeds, others, -, -, -⟩ := proceeds.outcome
  refine ⟨?_, ?_, ?_, ?_⟩
  · intro _ index state valid
    refine ⟨?_, planned.sameBinding index state valid⟩
    rw [UInt64.lt_iff_toNat_lt]
    exact planned.increases index state valid
  · rintro rfl
    exact load_written wrote
  · intro state index selected held component temporary
    refine others _ ?_
    rintro rfl
    exact planned.spare.not_newest _ invariant.distinct selected held
  · intro refusal
    exact absurd refusal (Planned.not_refused planSucceeds admissible)

/-- **The store contract.**  On every reachable directory a write succeeds only above every valid
slot and under their binding, is then what a load returns, never touches the slot of the newest
record, and changes nothing when it has to be refused. -/
theorem write_call_contract {path : PathEntry} (reachable : Reachable crypto policy path)
    (call : WriteCall) (fault : Option Fault) :
    WriteContract crypto policy path call (call.perform crypto policy fault path) := by
  obtain ⟨node, rfl, invariant⟩ := reachable.invariant
  rcases call.perform_eq crypto policy fault (.directory node) with
    ⟨-, error, refused⟩ | ⟨admissible, performed⟩
  · rw [refused]
    exact .of_refused error
  · rw [performed]
    rcases writeState_outcome crypto policy fault (.directory node)
      call.binding call.record call.psk with ⟨error, refused⟩ | ⟨source, result, after, same, wrote, proceeds⟩
    · rw [refused]
      exact .of_refused error
    · cases same
      rw [wrote]
      exact .of_proceeds invariant admissible wrote proceeds

/-- The calls of the store make reachable paths of reachable ones. -/
theorem Reachable.perform {path : PathEntry} (reachable : Reachable crypto policy path)
    (call : WriteCall) (fault : Option Fault) :
    Reachable crypto policy (call.perform crypto policy fault path).2 := by
  obtain ⟨-, error, refused⟩ | ⟨-, performed⟩ := call.perform_eq crypto policy fault path
  · rw [refused]
    exact reachable
  · rw [performed]
    exact reachable.write fault _ _ _

/-- An import into an empty directory. -/
def exampleImport : WriteCall :=
  .importLegacy exampleBinding (Block.zero 32) (Block.zero 32) (Block.zero 32) none

/-- The promotion of what was imported. -/
def examplePromotion : WriteCall := .promoteActive firstState

/-- The directory behind a call that is not interrupted. -/
def WriteCall.after (call : WriteCall) (path : PathEntry) : PathEntry :=
  (call.perform .constant (policyForOwner 0 0) none path).2

/-- An import and its promotion are accepted, one behind the other, and each is what a load returns;
a second promotion is refused. -/
theorem promotion_contract :
    let imported := exampleImport.after (.directory emptyDirectory)
    let promoted := examplePromotion.after imported
    loaded imported = .valid firstState ∧ loaded promoted = .valid secondState ∧
      examplePromotion.after promoted = promoted ∧
      WriteContract .constant (policyForOwner 0 0) imported examplePromotion
        (examplePromotion.perform .constant (policyForOwner 0 0) none imported) ∧
      WriteContract .constant (policyForOwner 0 0) promoted examplePromotion
        (examplePromotion.perform .constant (policyForOwner 0 0) none promoted) := by
  intro imported promoted
  have first : Reachable .constant (policyForOwner 0 0) imported :=
    emptyDirectory_reachable.perform exampleImport none
  have second : Reachable .constant (policyForOwner 0 0) promoted := first.perform examplePromotion none
  have again := write_call_contract second examplePromotion none
  refine ⟨by decide +kernel, by decide +kernel, ?_, write_call_contract first examplePromotion none, again⟩
  refine (again.refused (.notMonotonic 1 secondState ?_ ?_)).2
  · decide +kernel
  · decide +kernel

end Goodix.SelfState
