import Goodix.SelfState.Store

/-! # What a write leaves behind

One spec lemma for each function of the write path: which names it may touch,
what the two final files of the target slot hold afterwards, and what the slots
are then loaded as.
-/

namespace Goodix.SelfState

open Octets

variable {crypto : Primitives} {policy : Policy}

theorem FileName.temp_ne_final (component other : Component) (slot index : Fin 2) :
    FileName.temp component slot ≠ FileName.final other index := by
  simp [FileName.temp, FileName.final]

/-- One `write_component` touches its temporary and its final name only; the final file is either
left alone, and then the call has failed, or it is the new one. -/
theorem writeComponent_outcome (component : Component) (slot : Fin 2) (contents : List UInt8)
    (halt : Option Halt) (files : Files) {result : Except GError Unit} {after : Files}
    (wrote : writeComponent component slot contents policy halt files = (result, after)) :
    (∀ name, name ≠ .temp component slot → name ≠ .final component slot →
      after name = files name) ∧
    ((after (.final component slot) = files (.final component slot) ∧ result ≠ .ok ()) ∨
      after (.final component slot) = some (createdFile policy policy.fileMode contents)) := by
  have distinct := FileName.temp_ne_final component component slot slot
  have others : ∀ name, name ≠ .temp component slot → name ≠ .final component slot →
      after name = files name := by
    intro name notTemp notFinal
    unfold writeComponent at wrote
    simp only at wrote
    split at wrote
    · obtain ⟨-, rfl⟩ := Prod.mk.inj wrote
      rfl
    · split at wrote <;> (try split at wrote) <;> (try split at wrote) <;>
      · obtain ⟨-, rfl⟩ := Prod.mk.inj wrote
        simp [Function.update_of_ne, notTemp, notFinal]
  refine ⟨others, ?_⟩
  unfold writeComponent at wrote
  simp only at wrote
  split at wrote
  · obtain ⟨rfl, rfl⟩ := Prod.mk.inj wrote
    exact .inl ⟨rfl, by simp⟩
  · split at wrote <;> (try split at wrote) <;> (try split at wrote) <;>
    · obtain ⟨rfl, rfl⟩ := Prod.mk.inj wrote
      simp [Function.update_of_ne, distinct.symm]

/-- How far the files of a planned write got. -/
inductive FilesOutcome (policy : Policy) (plan : WritePlan) (before after : Files) : Prop where
  | kept (secretKept : after (.final .secret plan.target) = before (.final .secret plan.target))
      (receiptKept : after (.final .receipt plan.target) = before (.final .receipt plan.target))
  | torn
      (secretNew : after (.final .secret plan.target) =
        some (createdFile policy policy.fileMode plan.secret.val))
      (receiptKept : after (.final .receipt plan.target) = before (.final .receipt plan.target))
  | published
      (secretNew : after (.final .secret plan.target) =
        some (createdFile policy policy.fileMode plan.secret.val))
      (receiptNew : after (.final .receipt plan.target) =
        some (createdFile policy policy.fileMode plan.receipt.val))

theorem writeComponents_other (plan : WritePlan) (fault : Option Fault) (files : Files)
    {result : Except GError Unit} {after : Files}
    (wrote : writeComponents plan.target plan.secret plan.receipt policy fault files =
      (result, after)) :
    ∀ name : FileName, name.slot ≠ plan.target → after name = files name := by
  intro name otherSlot
  have notTemp : ∀ component, name ≠ .temp component plan.target := by
    rintro component rfl
    exact otherSlot rfl
  have notFinal : ∀ component, name ≠ .final component plan.target := by
    rintro component rfl
    exact otherSlot rfl
  unfold writeComponents at wrote
  split at wrote
  · rename_i error afterSecret secretWrote
    obtain ⟨-, rfl⟩ := Prod.mk.inj wrote
    exact (writeComponent_outcome _ _ _ _ _ secretWrote).1 name (notTemp _) (notFinal _)
  · rename_i afterSecret secretWrote
    rw [(writeComponent_outcome _ _ _ _ _ wrote).1 name (notTemp _) (notFinal _),
      (writeComponent_outcome _ _ _ _ _ secretWrote).1 name (notTemp _) (notFinal _)]

/-- The secret is renamed before the receipt is begun, so there are three outcomes; only the last
one is reported as a success. -/
theorem writeComponents_outcome (plan : WritePlan) (fault : Option Fault) (files : Files)
    {result : Except GError Unit} {after : Files}
    (wrote : writeComponents plan.target plan.secret plan.receipt policy fault files =
      (result, after)) :
    FilesOutcome policy plan files after ∧
      (result = .ok () → after (.final .secret plan.target) =
          some (createdFile policy policy.fileMode plan.secret.val) ∧
        after (.final .receipt plan.target) =
          some (createdFile policy policy.fileMode plan.receipt.val)) := by
  have receiptOther : ∀ component, FileName.final .receipt plan.target ≠
      .final .secret component ∧ FileName.final .receipt plan.target ≠ .temp .secret component := by
    simp [FileName.final, FileName.temp]
  have secretOther : ∀ component, FileName.final .secret plan.target ≠
      .final .receipt component ∧ FileName.final .secret plan.target ≠ .temp .receipt component := by
    simp [FileName.final, FileName.temp]
  unfold writeComponents at wrote
  split at wrote
  · rename_i error afterSecret secretWrote
    obtain ⟨rfl, rfl⟩ := Prod.mk.inj wrote
    obtain ⟨others, secret⟩ := writeComponent_outcome _ _ _ _ _ secretWrote
    have receiptKept := others _ (receiptOther plan.target).2 (receiptOther plan.target).1
    refine ⟨?_, by simp⟩
    rcases secret with ⟨secretKept, -⟩ | secretNew
    · exact .kept secretKept receiptKept
    · exact .torn secretNew receiptKept
  · rename_i afterSecret secretWrote
    obtain ⟨secretOthers, secret⟩ := writeComponent_outcome _ _ _ _ _ secretWrote
    obtain ⟨receiptOthers, receipt⟩ := writeComponent_outcome _ _ _ _ _ wrote
    have secretNew : after (.final .secret plan.target) =
        some (createdFile policy policy.fileMode plan.secret.val) := by
      rw [receiptOthers _ (secretOther plan.target).2 (secretOther plan.target).1]
      rcases secret with ⟨-, failed⟩ | secretNew
      · exact absurd rfl failed
      · exact secretNew
    have receiptBefore := secretOthers _ (receiptOther plan.target).2 (receiptOther plan.target).1
    rcases receipt with ⟨receiptKept, failed⟩ | receiptNew
    · exact ⟨.torn secretNew (receiptKept.trans receiptBefore), fun succeeded => absurd succeeded failed⟩
    · exact ⟨.published secretNew receiptNew, fun _ => ⟨secretNew, receiptNew⟩⟩

/-! ## The plan -/

theorem Slot.mismatches_eq_false {slot : Slot} {binding : Binding}
    (matching : slot.mismatches binding = false) {state : State} (valid : slot.state = some state) :
    state.binding = binding := by
  simpa [Slot.mismatches, valid] using matching

theorem Slot.reaches_eq_false {slot : Slot} {generation : UInt64}
    (below : slot.reaches generation = false) {state : State} (valid : slot.state = some state) :
    state.generation < generation.toNat := by
  have : ¬ generation ≤ state.record.generation := by
    simpa [Slot.reaches, valid] using below
  rw [UInt64.le_iff_toNat_le] at this
  simp only [State.generation]
  omega

/-- The slot `write_state` replaces is invalid or no newer than the other, valid one. -/
theorem selectTarget_spare {slots : Fin 2 → Slot} {target : Fin 2}
    (selected : selectTarget slots = some target) :
    TwoSlot.Spare State.generation (fun index => (slots index).state) target := by
  intro state held
  change (slots target).state = some state at held
  unfold selectTarget at selected
  split at selected
  · rename_i first second firstValid secondValid
    split at selected
    · rename_i older
      cases selected
      cases firstValid.symm.trans held
      exact ⟨1, second, by decide, secondValid, UInt64.le_iff_toNat_le.mp older⟩
    · rename_i newer
      cases selected
      cases secondValid.symm.trans held
      rw [UInt64.le_iff_toNat_le] at newer
      exact ⟨0, first, by decide, firstValid, by simp only [State.generation]; omega⟩
  · rename_i secondInvalid
    cases selected
    cases secondInvalid.symm.trans held
  · rename_i firstInvalid secondValid
    cases selected
    cases firstInvalid.symm.trans held
  · rename_i firstInvalid secondInvalid
    have invalid : ∀ index, (slots index).state = none :=
      Fin.forall_fin_two.mpr ⟨firstInvalid, secondInvalid⟩
    cases (invalid target).symm.trans held

/-- What `write_state` has checked once it starts to write. -/
structure Planned (crypto : Primitives) (slots : TwoSlot.Slots State) (binding : Binding)
    (record : Record) (psk : Psk) (plan : WritePlan) : Prop where
  sameBinding : ∀ index state, slots index = some state → state.binding = binding
  increases : TwoSlot.Below State.generation record.generation.toNat slots
  spare : TwoSlot.Spare State.generation slots plan.target
  secret : plan.secret = encodeSecret record.generation psk
  receipt : encodeReceipt crypto binding record psk = some plan.receipt

theorem planWrite_planned {slots : Fin 2 → Slot} {binding : Binding} {record : Record} {psk : Psk}
    {plan : WritePlan} (planned : planWrite crypto slots binding record psk = .ok plan) :
    Planned crypto (fun index => (slots index).state) binding record psk plan := by
  unfold planWrite at planned
  split at planned
  · cases planned
  rename_i matching
  split at planned
  · cases planned
  rename_i target selected
  split at planned
  · cases planned
  rename_i below
  split at planned
  · cases planned
  rename_i receipt encoded
  cases planned
  simp only [Bool.or_eq_true, not_or, Bool.not_eq_true] at matching below
  refine ⟨?_, ?_, selectTarget_spare selected, rfl, encoded⟩
  · intro index state valid
    fin_cases index
    · exact Slot.mismatches_eq_false matching.1 valid
    · exact Slot.mismatches_eq_false matching.2 valid
  · intro index state valid
    fin_cases index
    · exact Slot.reaches_eq_false below.1 valid
    · exact Slot.reaches_eq_false below.2 valid

/-! ## The slots after a write -/

/-- The state a load gives back for a binding, a record and a PSK that were written. -/
def storedState (binding : Binding) (record : Record) (psk : Psk) : State :=
  ⟨binding, record.canonical, psk⟩

@[simp] theorem storedState_generation (binding : Binding) (record : Record) (psk : Psk) :
    (storedState binding record psk).generation = record.generation.toNat := by
  simp [storedState, State.generation]

theorem readExactFile_created {files : Files} {name : FileName} {length : Nat}
    (contents : Block length)
    (stored : files name = some (createdFile policy policy.fileMode contents.val)) :
    readExactFile files name length policy = some contents := by
  simp [readExactFile, stored, createdFile, guard]

/-- What the slots are loaded as once the files of a planned write got somewhere.  In a torn slot
the new secret stands beside whatever receipt was there before. -/
inductive SlotsOutcome (crypto : Primitives) (policy : Policy) (files : Files)
    (binding : Binding) (record : Record) (psk : Psk) (target : Fin 2) (after : Files) : Prop where
  | kept (slots : slotStates crypto after policy = slotStates crypto files policy)
  | torn (content : Option State)
      (pairs : ∀ state, content = some state → ∃ receipt,
        readExactFile files (.final .receipt target) receiptSize policy = some receipt ∧
          receiptGeneration receipt = record.generation ∧
          state.record.generation = record.generation ∧ state.psk = psk ∧
          decodeReceipt crypto receipt psk = some (state.binding, state.record))
      (slots : slotStates crypto after policy =
        Function.update (slotStates crypto files policy) target content)
  | published (slots : slotStates crypto after policy =
      Function.update (slotStates crypto files policy) target
        (some (storedState binding record psk)))

section Slots

variable {files after : Files} {binding : Binding} {record : Record} {psk : Psk}
  {plan : WritePlan}

theorem slotStates_update (crypto : Primitives) (policy : Policy) (others : ∀ name : FileName, name.slot ≠ plan.target →
    after name = files name) :
    slotStates crypto after policy = Function.update (slotStates crypto files policy) plan.target
      (slotState crypto after policy plan.target) := by
  funext index
  by_cases same : index = plan.target
  · rw [same, Function.update_self]
  · rw [Function.update_of_ne same]
    exact slotState_congr (others _ same) (others _ same)

/-- Both new files in place load as the state written. -/
theorem slots_published (bound : bindingValid binding = true) (valid : recordValid record = true)
    (planned : Planned crypto (slotStates crypto files policy) binding record psk plan)
    (others : ∀ name : FileName, name.slot ≠ plan.target → after name = files name)
    (secretNew : after (.final .secret plan.target) =
      some (createdFile policy policy.fileMode plan.secret.val))
    (receiptNew : after (.final .receipt plan.target) =
      some (createdFile policy policy.fileMode plan.receipt.val)) :
    slotStates crypto after policy = Function.update (slotStates crypto files policy) plan.target
      (some (storedState binding record psk)) := by
  rw [slotStates_update crypto policy others, slotState, readExactFile_created plan.secret secretNew,
    readExactFile_created plan.receipt receiptNew, planned.secret]
  exact congrArg _ (pairState_encode bound valid planned.receipt)

theorem slots_of_files (bound : bindingValid binding = true) (valid : recordValid record = true)
    (planned : Planned crypto (slotStates crypto files policy) binding record psk plan)
    (others : ∀ name : FileName, name.slot ≠ plan.target → after name = files name)
    (outcome : FilesOutcome policy plan files after) :
    SlotsOutcome crypto policy files binding record psk plan.target after := by
  have slots := slotStates_update crypto policy others
  cases outcome with
  | kept secretKept receiptKept =>
    refine .kept ?_
    rw [slots, slotState_congr secretKept receiptKept, Function.update_eq_self]
  | torn secretNew receiptKept =>
    refine .torn _ ?_ slots
    intro state loaded
    obtain ⟨secret, receipt, secretRead, receiptRead, paired⟩ := slotState_eq_some loaded
    rw [readExactFile_created plan.secret secretNew, Option.some.injEq] at secretRead
    subst secretRead
    obtain ⟨sameGeneration, recordGeneration⟩ := pairState_generation paired
    obtain ⟨-, decodes, samePsk, -⟩ := pairState_eq_some paired
    rw [planned.secret, secretGeneration_encodeSecret] at sameGeneration
    rw [planned.secret, secretPsk_encodeSecret] at samePsk
    have receiptBefore : readExactFile files (.final .receipt plan.target) receiptSize policy =
        some receipt := by
      rw [← receiptRead, readExactFile, readExactFile, receiptKept]
    exact ⟨receipt, receiptBefore, sameGeneration.symm, recordGeneration.trans sameGeneration.symm,
      samePsk.symm, samePsk ▸ decodes⟩
  | published secretNew receiptNew =>
    exact .published (slots_published bound valid planned others secretNew receiptNew)

end Slots

/-! ## The whole write -/

/-- The checks a write has passed when it changes its directory, and what it leaves there. -/
structure WriteProceeds (crypto : Primitives) (policy : Policy) (node : DirectoryNode)
    (binding : Binding) (record : Record) (psk : Psk) (result : Except GError Unit)
    (after : Files) : Prop where
  bound : bindingValid binding = true
  valid : recordValid record = true
  policyChecked : policyValid policy = true
  opened : node.satisfies policy = true
  outcome : ∃ plan, Planned crypto (slotStates crypto node.files policy) binding record psk plan ∧
    planWrite crypto (loadSlot crypto node.files policy) binding record psk = .ok plan ∧
    (∀ name : FileName, name.slot ≠ plan.target → after name = node.files name) ∧
    FilesOutcome policy plan node.files after ∧
    SlotsOutcome crypto policy node.files binding record psk plan.target after ∧
    (result = .ok () → slotStates crypto after policy =
      Function.update (slotStates crypto node.files policy) plan.target
        (some (storedState binding record psk)))

/-- A write is refused before it touches the directory, or it has passed every check. -/
theorem writeState_outcome (crypto : Primitives) (policy : Policy) (fault : Option Fault)
    (path : PathEntry) (binding : Binding)
    (record : Record) (psk : Psk) :
    (∃ error, writeState crypto policy fault path binding record psk = (.error error, path)) ∨
    ∃ node result after, path = .directory node ∧
      writeState crypto policy fault path binding record psk =
        (result, .directory { node with files := after }) ∧
      WriteProceeds crypto policy node binding record psk result after := by
  unfold writeState
  split
  · exact .inl ⟨_, rfl⟩
  rename_i checked
  simp only [Bool.or_eq_true, Bool.not_eq_true', not_or, Bool.not_eq_false] at checked
  obtain ⟨⟨bound, valid⟩, policyChecked⟩ := checked
  split
  · exact .inl ⟨_, rfl⟩
  rename_i node opened
  split
  · exact .inl ⟨_, rfl⟩
  rename_i plan planSucceeds
  obtain ⟨rfl, satisfies⟩ := openDirectory_ok opened
  right
  have planned : Planned crypto (slotStates crypto node.files policy) binding record psk plan :=
    planWrite_planned planSucceeds
  cases wrote : writeComponents plan.target plan.secret plan.receipt policy fault node.files with
  | mk result after =>
    have others := writeComponents_other plan fault node.files wrote
    obtain ⟨outcome, succeeded⟩ := writeComponents_outcome plan fault node.files wrote
    have slots := slots_of_files bound valid planned others outcome
    refine ⟨node, result, after, rfl, rfl, bound, valid, policyChecked, satisfies,
      plan, planned, planSucceeds, others, outcome, slots, ?_⟩
    intro ok
    obtain ⟨secretNew, receiptNew⟩ := succeeded ok
    exact slots_published bound valid planned others secretNew receiptNew

/-! ## What a load gives -/

/-- The state `goodix_self_state_load` selects is the newest one of the two slots. -/
theorem considerSlot_newest (slots : Fin 2 → Slot) {binding : Binding}
    (sameBinding : ∀ index state, (slots index).state = some state → state.binding = binding) :
    considerSlot binding (considerSlot binding none (slots 0)) (slots 1) =
      TwoSlot.newest State.generation (fun index => (slots index).state) := by
  have consider : ∀ index selected, considerSlot binding selected (slots index) =
      TwoSlot.prefer State.generation selected (slots index).state := by
    intro index selected
    unfold considerSlot TwoSlot.prefer
    cases valid : (slots index).state with
    | none => rfl
    | some state =>
      have equal := (bindingEqual_iff state.binding binding).mpr (sameBinding index state valid)
      cases selected with
      | none => simp [equal]
      | some best =>
        simp only [equal, if_true, State.generation]
        exact if_congr UInt64.lt_iff_toNat_lt rfl rfl
  rw [consider, consider, TwoSlot.newest]

/-- `goodix_self_state_load` on a directory it may read whose valid slots all have the wanted
binding. -/
theorem load_directory {node : DirectoryNode} {binding : Binding}
    (bound : bindingValid binding = true) (policyChecked : policyValid policy = true)
    (opened : node.satisfies policy = true)
    (sameBinding : ∀ index state, slotStates crypto node.files policy index = some state →
      state.binding = binding) :
    load crypto (.directory node) binding policy =
      match TwoSlot.newest State.generation (slotStates crypto node.files policy) with
      | some state => .valid state
      | none =>
        if (loadSlot crypto node.files policy 0).hasArtifact ||
            (loadSlot crypto node.files policy 1).hasArtifact then .incomplete none
        else .absent := by
  have selected := considerSlot_newest (loadSlot crypto node.files policy) sameBinding
  have matching : ∀ index, (loadSlot crypto node.files policy index).mismatches binding = false := by
    intro index
    unfold Slot.mismatches
    split
    · rename_i state valid
      simp [sameBinding index state valid]
    · rfl
  unfold load
  simp only [bound, policyChecked, Bool.not_true, Bool.or_self, Bool.false_eq_true, if_false,
    openDirectory, opened, if_true, matching, selected]
  change (match TwoSlot.newest State.generation (slotStates crypto node.files policy) with
    | some state => Load.valid state
    | none => _) = _
  cases newest : TwoSlot.newest State.generation (slotStates crypto node.files policy) with
  | some state => rfl
  | none =>
    have invalid := (TwoSlot.newest_eq_none_iff State.generation).mp newest
    have first : (loadSlot crypto node.files policy 0).state = none := invalid 0
    have second : (loadSlot crypto node.files policy 1).state = none := invalid 1
    simp [first, second]

theorem load_valid_iff (crypto : Primitives) (node : DirectoryNode) (state : State)
    {binding : Binding}
    (bound : bindingValid binding = true) (policyChecked : policyValid policy = true)
    (opened : node.satisfies policy = true)
    (sameBinding : ∀ index state, slotStates crypto node.files policy index = some state →
      state.binding = binding) :
    load crypto (.directory node) binding policy = .valid state ↔
      TwoSlot.newest State.generation (slotStates crypto node.files policy) = some state := by
  rw [load_directory bound policyChecked opened sameBinding]
  cases TwoSlot.newest State.generation (slotStates crypto node.files policy) with
  | some newest => simp
  | none =>
    simp only [reduceCtorEq, iff_false]
    split <;> simp

theorem load_ne_bindingMismatch (crypto : Primitives) (node : DirectoryNode) {binding : Binding}
    (bound : bindingValid binding = true) (policyChecked : policyValid policy = true)
    (opened : node.satisfies policy = true)
    (sameBinding : ∀ index state, slotStates crypto node.files policy index = some state →
      state.binding = binding) :
    load crypto (.directory node) binding policy ≠ .bindingMismatch := by
  rw [load_directory bound policyChecked opened sameBinding]
  cases TwoSlot.newest State.generation (slotStates crypto node.files policy) with
  | some newest => simp
  | none =>
    simp only [ne_eq]
    split <;> simp

/-! ## The newest state of a path -/

section Newest

variable {fault : Option Fault} {path after : PathEntry} {binding : Binding} {record : Record}
  {psk : Psk}

/-- A write that succeeded leaves its state as the newest, newer than everything before. -/
theorem newest_written
    (written : writeState crypto policy fault path binding record psk = (.ok (), after)) :
    TwoSlot.newest State.generation (after.slots crypto policy) =
        some (storedState binding record psk) ∧
      TwoSlot.Below State.generation record.generation.toNat (path.slots crypto policy) ∧
      TwoSlot.Distinct State.generation (after.slots crypto policy) := by
  rcases writeState_outcome crypto policy fault path binding record psk with
    ⟨error, refused⟩ | ⟨node, result, files, rfl, wrote, proceeds⟩
  · rw [refused] at written
    cases written
  rw [wrote] at written
  obtain ⟨rfl, rfl⟩ := Prod.mk.inj written
  obtain ⟨plan, planned, -, -, -, -, published⟩ := proceeds.outcome
  have below : TwoSlot.Below State.generation (storedState binding record psk).generation
      (slotStates crypto node.files policy) := by
    rw [storedState_generation]
    exact planned.increases
  change TwoSlot.newest State.generation (slotStates crypto files policy) = _ ∧ _ ∧
    TwoSlot.Distinct State.generation (slotStates crypto files policy)
  rw [published rfl]
  exact ⟨TwoSlot.newest_publish _ below plan.target, planned.increases,
    below.distinct_publish _ plan.target⟩

/-- Whatever becomes of a write, at most one spare slot has been replaced, by nothing or by a state
of the new generation. -/
theorem writeState_replaces (crypto : Primitives) (policy : Policy) (fault : Option Fault)
    (path : PathEntry) (binding : Binding) (record : Record) (psk : Psk) :
    let after := (writeState crypto policy fault path binding record psk).2
    after.slots crypto policy = path.slots crypto policy ∨
    ∃ target content, TwoSlot.Spare State.generation (path.slots crypto policy) target ∧
      (∀ state, content = some state →
        TwoSlot.Below State.generation state.generation (path.slots crypto policy)) ∧
      after.slots crypto policy = Function.update (path.slots crypto policy) target content := by
  intro after
  rcases writeState_outcome crypto policy fault path binding record psk with
    ⟨error, refused⟩ | ⟨node, result, files, rfl, wrote, proceeds⟩
  · left
    simp only [after, refused]
  simp only [after, wrote]
  obtain ⟨plan, planned, -, -, -, outcome, -⟩ := proceeds.outcome
  cases outcome with
  | kept slots => exact .inl slots
  | torn content pairs slots =>
    refine .inr ⟨plan.target, content, planned.spare, ?_, slots⟩
    intro state loaded
    obtain ⟨receipt, -, -, generation, -⟩ := pairs state loaded
    simp only [State.generation, generation]
    exact planned.increases
  | published slots =>
    refine .inr ⟨plan.target, _, planned.spare, ?_, slots⟩
    rintro state ⟨⟩
    rw [storedState_generation]
    exact planned.increases

/-- No write takes the newest generation back. -/
theorem newest_write_le (crypto : Primitives) (policy : Policy) (fault : Option Fault)
    (path : PathEntry) (binding : Binding) (record : Record) (psk : Psk) {state : State}
    (newest : TwoSlot.newest State.generation (path.slots crypto policy) = some state) :
    ∃ later, TwoSlot.newest State.generation
        ((writeState crypto policy fault path binding record psk).2.slots crypto policy) =
          some later ∧ state.generation ≤ later.generation := by
  rcases writeState_replaces crypto policy fault path binding record psk with
    slots | ⟨target, content, spare, -, slots⟩
  · exact ⟨state, by rw [slots, newest], le_rfl⟩
  · rw [slots]
    exact TwoSlot.newest_replace_le _ spare content newest

/-- Where no two slots share a generation, every write is one step of a register. -/
theorem write_registerStep (crypto : Primitives) (policy : Policy) (fault : Option Fault)
    (path : PathEntry) (binding : Binding) (record : Record) (psk : Psk)
    (distinct : TwoSlot.Distinct State.generation (path.slots crypto policy)) :
    let after := (writeState crypto policy fault path binding record psk).2
    TwoSlot.Distinct State.generation (after.slots crypto policy) ∧
      TwoSlot.RegisterStep State.generation
        (TwoSlot.newest State.generation (path.slots crypto policy))
        (TwoSlot.newest State.generation (after.slots crypto policy)) := by
  intro after
  rcases writeState_replaces crypto policy fault path binding record psk with
    slots | ⟨target, content, spare, newer, slots⟩
  · rw [slots]
    exact ⟨distinct, .keep _⟩
  · rw [slots]
    exact ⟨TwoSlot.distinct_replace _ newer, TwoSlot.newest_registerStep _ distinct spare newer⟩

end Newest

/-- **Read your writes.**  A write that succeeded is what the next load with its binding gives,
whatever the directory was before. -/
theorem load_written {fault : Option Fault} {path after : PathEntry} {binding : Binding}
    {record : Record} {psk : Psk}
    (written : writeState crypto policy fault path binding record psk = (.ok (), after)) :
    load crypto after binding policy = .valid (storedState binding record psk) := by
  rcases writeState_outcome crypto policy fault path binding record psk with
    ⟨error, refused⟩ | ⟨node, result, files, rfl, wrote, proceeds⟩
  · rw [refused] at written
    cases written
  rw [wrote] at written
  obtain ⟨rfl, rfl⟩ := Prod.mk.inj written
  obtain ⟨plan, planned, -, -, -, -, published⟩ := proceeds.outcome
  have slots := published rfl
  have selected := (newest_written wrote).1
  refine (load_valid_iff crypto { node with files } _ proceeds.bound proceeds.policyChecked
    proceeds.opened ?_).mpr selected
  intro index state held
  change slotStates crypto files policy index = some state at held
  rw [slots] at held
  by_cases same : index = plan.target
  · rw [same, Function.update_self] at held
    cases held
    rfl
  · rw [Function.update_of_ne same] at held
    exact planned.sameBinding index state held

/-! ## What a load tells about the slots -/

section Loaded

variable {path : PathEntry} {binding : Binding}

/-- A load that gives a state gives the newest one of the directory. -/
theorem load_valid_newest {state : State}
    (loaded : load crypto path binding policy = .valid state) :
    TwoSlot.newest State.generation (path.slots crypto policy) = some state := by
  unfold load at loaded
  split at loaded
  · cases loaded
  split at loaded
  · cases loaded
  split at loaded
  · cases loaded
  rename_i node opened
  obtain ⟨rfl, -⟩ := openDirectory_ok opened
  simp only at loaded
  split at loaded
  · cases loaded
  rename_i matching
  simp only [Bool.or_eq_true, not_or, Bool.not_eq_true] at matching
  have sameBinding : ∀ index state, (loadSlot crypto node.files policy index).state = some state →
      state.binding = binding := by
    rw [Fin.forall_fin_two]
    exact ⟨fun _ => Slot.mismatches_eq_false matching.1,
      fun _ => Slot.mismatches_eq_false matching.2⟩
  split at loaded
  · rename_i selected consider
    cases loaded
    rw [considerSlot_newest _ sameBinding] at consider
    exact consider
  · split at loaded
    · cases loaded
    · split at loaded <;> cases loaded

/-- A load that finds nothing finds no valid slot. -/
theorem load_absent_newest (loaded : load crypto path binding policy = .absent) :
    TwoSlot.newest State.generation (path.slots crypto policy) = none := by
  rw [TwoSlot.newest_eq_none_iff]
  unfold load at loaded
  split at loaded
  · cases loaded
  split at loaded
  · intro index
    exact slotState_none index (fun _ => rfl)
  split at loaded
  · cases loaded
  rename_i node opened
  obtain ⟨rfl, -⟩ := openDirectory_ok opened
  simp only at loaded
  split at loaded
  · cases loaded
  split at loaded
  · cases loaded
  split at loaded
  · cases loaded
  rename_i noneValid
  simp only [Bool.or_eq_true, not_or, Bool.not_eq_true, Option.isSome_eq_false_iff,
    Option.isNone_iff_eq_none] at noneValid
  rw [Fin.forall_fin_two]
  exact noneValid

/-- A store in which something has been left does not load as absent. -/
theorem load_absent_unused (loaded : load crypto path binding policy = .absent) (index : Fin 2) :
    (loadSlot crypto path.files policy index).hasArtifact = false := by
  unfold load at loaded
  split at loaded
  · cases loaded
  split at loaded
  · rfl
  split at loaded
  · cases loaded
  rename_i node opened
  obtain ⟨rfl, -⟩ := openDirectory_ok opened
  simp only at loaded
  split at loaded
  · cases loaded
  split at loaded
  · cases loaded
  split at loaded
  · cases loaded
  split at loaded
  · cases loaded
  rename_i unused
  simp only [Bool.or_eq_true, not_or, Bool.not_eq_true] at unused
  revert index
  rw [Fin.forall_fin_two]
  exact unused

end Loaded

end Goodix.SelfState
