import Goodix.A0Protocol
import Goodix.FdtIrqPolicy
import Goodix.Enrollment.Model

/-! # The commands of an enrollment

`goodix_enrollment_command_plan.c` reads off the model which command is due,
`goodix_enrollment_fdt_state.c` keeps the FDT tables of the contacts and says which one the
command carries, `goodix_enrollment_command_body.c` writes its body, and
`goodix_enrollment_outbound_frame.c` the frame around the body.
-/

namespace Goodix.Enrollment

open Octets FdtIrqPolicy

abbrev Table := Block 12

inductive Purpose where
  | primaryAcquire
  | preAuxFdt
  | auxFdtScan
  | auxiliaryTransition
  | fingerUp
  | firstNavPrepare
  | firstNav
  | interStageRearm
  | irq80Rearm
  deriving DecidableEq, Repr

inductive BodyClass where
  | simple_01_00
  | fdt_0A01
  | fdt_0901
  | fdtTimestamp_0801
  deriving DecidableEq, Repr

structure CommandIntent where
  event : Event
  purpose : Purpose
  bodyClass : BodyClass
  stageIndex : Nat
  control : UInt8
  deriving DecidableEq, Repr

inductive TableRole where
  | stageUp
  | stageAuxScan
  | transitionDown
  deriving DecidableEq, Repr

/-- The material of a command that has a table. -/
structure CommandMaterial where
  stageIndex : Nat
  tableRole : TableRole
  fdtTable : Table
  timestamp : Option UInt16
  deriving DecidableEq

structure PreparedCommand where
  intent : CommandIntent
  body : List UInt8
  deriving DecidableEq, Repr

/-! ## The FDT tables of the contacts -/

def fdtError (code : Nat) (message : String) : GError :=
  ⟨"goodix-enrollment-fdt-state-error", code, message⟩

def fdtErrorOrder : Nat := 1
def fdtErrorRange : Nat := 2
def fdtErrorMaterial : Nat := 3
def fdtErrorArgument : Nat := 0

structure FdtState where
  currentStage : Nat
  upStage : Nat
  downStage : Nat
  upTable : Table
  downTable : Table
  failed : Bool
  deriving DecidableEq

namespace FdtState

/-- `goodix_enrollment_fdt_state_new` -/
def new : FdtState := ⟨0, 0, 0, Block.zero 12, Block.zero 12, false⟩

/-- `fail` -/
def fail {α : Type} (state : FdtState) (code : Nat) (message : String) :
    Except GError α × FdtState :=
  (.error (fdtError code message), { state with failed := true })

/-- `goodix_enrollment_fdt_state_refresh_irq80`, which returns the table it keeps. -/
def refreshIrq80 (state : FdtState) (raw : Table) : Except GError Table × FdtState :=
  if state.failed ∨ state.downStage ≠ state.currentStage then
    state.fail fdtErrorOrder "IRQ0080 DOWN refresh is outside an IRQ2 wait"
  else
    match deriveBaselineTable raw 0 (Block.zero 12) with
    | (false, _) => state.fail fdtErrorRange "IRQ0080 FDT material is invalid"
    | (true, candidate) => (.ok candidate, { state with downTable := candidate })

/-- `goodix_enrollment_fdt_state_observe_irq2` -/
def observeIrq2 (state : FdtState) (stageIndex : Nat) (touchFlags : UInt16) (raw : Table) :
    Except GError Unit × FdtState :=
  if stageIndex = 0 then state.fail fdtErrorArgument "IRQ2 FDT observation is incomplete"
  else if state.failed ∨ stageIndex ≠ state.currentStage + 1 then
    state.fail fdtErrorOrder "IRQ2 FDT stage is stale or non-consecutive"
  else
    match deriveUpTable raw touchFlags 0x1d state.upTable with
    | (false, upTable) =>
      { state with upTable }.fail fdtErrorRange "IRQ2 flags or up-table material are invalid"
    | (true, upTable) =>
      (.ok (), { state with upTable, currentStage := stageIndex, upStage := stageIndex })

/-- `goodix_enrollment_fdt_state_observe_irq0200` -/
def observeIrq0200 (state : FdtState) (stageIndex : Nat) (touchFlags : UInt16) (raw : Table) :
    Except GError Unit × FdtState :=
  if stageIndex = 0 then state.fail fdtErrorArgument "IRQ0200 FDT observation is incomplete"
  else if state.failed ∨ stageIndex ≠ state.currentStage ∨ state.upStage ≠ stageIndex ∨
      state.downStage ≥ stageIndex then
    state.fail fdtErrorOrder "IRQ0200 FDT stage is stale or out of order"
  else
    match deriveDownTable raw touchFlags state.downTable with
    | (false, downTable) =>
      { state with downTable }.fail fdtErrorRange
        "IRQ0200 flags or down-table material are invalid"
    | (true, downTable) => (.ok (), { state with downTable, downStage := stageIndex })

/-- The table of a zero-mask sample, whose readings must fit without truncation. -/
def zeroComponent (_ : Nat) (reading : UInt16) : Option UInt8 :=
  let value := (reading >>> 1).toNat
  if value < 1 ∨ value > 254 then none else some (UInt8.ofNat value)

/-- `goodix_enrollment_fdt_state_observe_zero` -/
def observeZero (state : FdtState) (stageIndex : Nat) (raw : Table) :
    Except GError Unit × FdtState :=
  if stageIndex < 2 ∨ state.failed ∨ state.currentStage ≠ stageIndex ∨
      state.upStage ≠ stageIndex ∨ state.downStage + 1 ≠ stageIndex then
    state.fail fdtErrorOrder "zero-mask FDT stage is not the pending repeated contact"
  else
    match deriveChannels zeroComponent raw channels (Block.zero 12) with
    | (false, _) => state.fail fdtErrorRange "zero-mask FDT raw is outside 1..254"
    | (true, candidate) =>
      (.ok (), { state with downTable := candidate, downStage := stageIndex })

/-- `goodix_enrollment_fdt_state_resolve`: the material of a command, if it needs any. -/
def resolve (state : FdtState) (intent : CommandIntent) (timestamp : Option UInt16) :
    Except GError (Option CommandMaterial) × FdtState :=
  if state.failed ∨ intent.stageIndex ≠ state.currentStage then
    state.fail fdtErrorOrder "command intent does not match current FDT stage"
  else
    match intent.bodyClass with
    | .simple_01_00 =>
      if timestamp.isSome then
        state.fail fdtErrorMaterial "simple command received an unused timestamp"
      else (.ok none, state)
    | .fdt_0A01 =>
      if state.upStage ≠ intent.stageIndex ∨ timestamp.isSome then
        state.fail fdtErrorMaterial "stage-up table is unavailable or timestamp is extraneous"
      else (.ok (some ⟨intent.stageIndex, .stageUp, state.upTable, none⟩), state)
    | .fdt_0901 =>
      if intent.stageIndex < 2 ∨ state.downStage + 1 ≠ intent.stageIndex ∨ timestamp.isSome then
        state.fail fdtErrorMaterial "previous-stage down table is unavailable"
      else (.ok (some ⟨intent.stageIndex, .stageAuxScan, state.downTable, none⟩), state)
    | .fdtTimestamp_0801 =>
      if state.downStage ≠ intent.stageIndex ∨ timestamp.isNone then
        state.fail fdtErrorMaterial "current-stage down table or timestamp is unavailable"
      else (.ok (some ⟨intent.stageIndex, .transitionDown, state.downTable, timestamp⟩), state)

end FdtState

/-! ## The plan -/

def planError (code : Nat) (message : String) : GError :=
  ⟨"goodix-enrollment-command-plan-error", code, message⟩

def planErrorArgument : Nat := 0
def planErrorState : Nat := 1
def planErrorProtocol : Nat := 2

structure CommandPlan where
  pipeline : Pipeline
  lastEvent : Event
  maxPhysicalStageCount : Nat
  command50Count : Nat
  failed : Bool
  deriving DecidableEq, Repr

/-- `is_command_event` -/
def isCommandEvent : Event → Bool
  | .command_20 | .command_22 | .command_32 | .command_34 | .command_36 | .command_50 => true
  | _ => false

namespace CommandPlan

/-- `goodix_enrollment_command_plan_new` -/
def new (config : ModelConfig) : Except GError CommandPlan :=
  match Pipeline.new config with
  | .error error => .error error
  | .ok pipeline =>
    .ok {
      pipeline
      lastEvent := .none
      maxPhysicalStageCount :=
        if config.maxPhysicalStageCount ≠ 0 then config.maxPhysicalStageCount
        else config.requiredStageCount
      command50Count := 0
      failed := false }

/-- `plan_fail` -/
def fail (plan : CommandPlan) (code : Nat) (message : String) :
    Except GError Unit × CommandPlan :=
  (.error (planError code message), { plan with failed := true })

/-- The pipeline is fed, and the plan fails with it. -/
def feed (plan : CommandPlan) (event : Event) (samples : Option (List UInt16)) (reply : Reply) :
    Except GError Unit × CommandPlan :=
  match plan.pipeline.feed event samples reply with
  | (.error error, pipeline) => (.error error, { plan with pipeline, failed := true })
  | (.ok (), pipeline) => (.ok (), { plan with pipeline, lastEvent := event })

/-- `goodix_enrollment_command_plan_observe` -/
def observe (plan : CommandPlan) (event : Event) (samples : Option (List UInt16))
    (reply : Reply) : Except GError Unit × CommandPlan :=
  if plan.failed ∨ plan.pipeline.isComplete then
    plan.fail planErrorState "enrollment command plan is already terminal"
  else if isCommandEvent event ∨ event = .none then
    plan.fail planErrorArgument "command events must use command-plan commit"
  else plan.feed event samples reply

/-- The transition of a contact, from the count of contacts alone. -/
def transitionOf (plan : CommandPlan) (observed : Nat) : Transition :=
  if observed = 1 then .firstNav
  else if observed = plan.maxPhysicalStageCount then .terminal
  else .repeatedRearm

/-- The purpose, the class and the control octet of a command. -/
def describe (plan : CommandPlan) (observed : Nat) : Event → Option (Purpose × BodyClass × UInt8)
  | .command_20 => some (.auxiliaryTransition, .simple_01_00, 0x20)
  | .command_22 => some (.primaryAcquire, .simple_01_00, 0x22)
  | .command_32 =>
    some (if plan.transitionOf observed = .firstNav ∧ plan.command50Count = 0 then
        .firstNavPrepare else .interStageRearm, .fdtTimestamp_0801, 0x32)
  | .command_34 =>
    some (if plan.transitionOf observed ≠ .firstNav ∧ plan.lastEvent = .primaryB0 then
        .preAuxFdt else .fingerUp, .fdt_0A01, 0x34)
  | .command_36 => some (.auxFdtScan, .fdt_0901, 0x36)
  | .command_50 => some (.firstNav, .simple_01_00, 0x50)
  | _ => none

/-- `goodix_enrollment_command_plan_peek` -/
def peek (plan : CommandPlan) : Option CommandIntent :=
  let event := plan.pipeline.getExpectedEvent
  let observed := plan.pipeline.model.audit.observedPrimaryStageCount
  if plan.failed ∨ plan.pipeline.isComplete then none
  else
    match plan.describe observed event with
    | none => none
    | some (purpose, bodyClass, control) =>
      some {
        event, purpose, bodyClass, control
        stageIndex := if event = .command_22 then observed + 1 else observed }

/-- The one count of `record_intent` that is read again. -/
def recordIntent (plan : CommandPlan) (intent : CommandIntent) : CommandPlan :=
  if intent.control = 0x50 then { plan with command50Count := plan.command50Count + 1 } else plan

/-- `goodix_enrollment_command_plan_commit` -/
def commit (plan : CommandPlan) (commandEvent : Event) : Except GError Unit × CommandPlan :=
  -- a command never delivers an image
  let unasked : Reply := ⟨[], .ok ()⟩
  match plan.peek with
  | none => plan.fail planErrorState "no enrollment command is currently planned"
  | some intent =>
    if commandEvent ≠ intent.event then
      let fed := (plan.pipeline.feed commandEvent none unasked).2
      { plan with pipeline := fed }.fail planErrorProtocol
        "committed command differs from the planned event"
    else
      match plan.feed commandEvent none unasked with
      | (.error error, fed) => (.error error, fed)
      | (.ok (), fed) => (.ok (), fed.recordIntent intent)

/-- `goodix_enrollment_command_plan_is_complete` -/
def isComplete (plan : CommandPlan) : Bool := !plan.failed && plan.pipeline.isComplete

/-- `goodix_enrollment_command_plan_is_failed` -/
def isFailed (plan : CommandPlan) : Bool := plan.failed || plan.pipeline.isFailed

/-- `goodix_enrollment_command_plan_get_expected_event` -/
def getExpectedEvent (plan : CommandPlan) : Event :=
  if plan.failed then .none else plan.pipeline.getExpectedEvent

end CommandPlan

/-! ## Bodies -/

def bodyError (code : Nat) (message : String) : GError :=
  ⟨"goodix-enrollment-command-body-error", code, message⟩

def bodyErrorIntent : Nat := 1
def bodyErrorMaterial : Nat := 2

/-- `intent_contract_valid` -/
def intentContractValid (intent : CommandIntent) : Bool :=
  let contract (control : UInt8) (purposes : List Purpose) (bodyClass : BodyClass) : Bool :=
    intent.control = control ∧ intent.purpose ∈ purposes ∧ intent.bodyClass = bodyClass
  intent.stageIndex ≠ 0 &&
    match intent.event with
    | .command_20 => contract 0x20 [.auxiliaryTransition] .simple_01_00
    | .command_22 => contract 0x22 [.primaryAcquire] .simple_01_00
    | .command_32 =>
      contract 0x32 [.firstNavPrepare, .interStageRearm, .irq80Rearm] .fdtTimestamp_0801
    | .command_34 => contract 0x34 [.preAuxFdt, .fingerUp] .fdt_0A01
    | .command_36 => contract 0x36 [.auxFdtScan] .fdt_0901
    | .command_50 => contract 0x50 [.firstNav] .simple_01_00
    | _ => false

/-- `material_valid` -/
def materialValid (intent : CommandIntent) (material : CommandMaterial) (role : TableRole)
    (timestamp : Bool) : Bool :=
  material.stageIndex = intent.stageIndex ∧ material.tableRole = role ∧
    material.timestamp.isSome = timestamp

/-- The role of the table in a body. -/
def BodyClass.role : BodyClass → TableRole
  | .fdt_0901 => .stageAuxScan
  | .fdtTimestamp_0801 => .transitionDown
  | _ => .stageUp

/-- The octets before the table. -/
def BodyClass.opening : BodyClass → List UInt8
  | .fdt_0A01 => [0x0a, 0x01]
  | .fdt_0901 => [0x09, 0x01]
  | _ => [0x08, 0x01]

/-- `goodix_enrollment_command_body_build` -/
def commandBodyBuild (intent : CommandIntent) (material : Option CommandMaterial) :
    Except GError (List UInt8) :=
  if intentContractValid intent = false then
    .error (bodyError bodyErrorIntent "command intent is not a valid zero-sender plan item")
  else if intent.bodyClass = .simple_01_00 then
    if material.isSome then
      .error (bodyError bodyErrorMaterial "simple command must not carry dynamic material")
    else .ok [0x01, 0x00]
  else
    match material with
    | some material =>
      if materialValid intent material intent.bodyClass.role
          (intent.bodyClass = .fdtTimestamp_0801) then
        .ok (intent.bodyClass.opening ++ material.fdtTable.val ++
          (material.timestamp.map putU16Le).getD [])
      else
        .error (bodyError bodyErrorMaterial
          "dynamic material does not match command stage and role")
    | none =>
      .error (bodyError bodyErrorMaterial
        "dynamic material does not match command stage and role")

/-! ## Frames -/

def outboundError (code : Nat) (message : String) : GError :=
  ⟨"goodix-enrollment-outbound-frame-error", code, message⟩

def outboundErrorContract : Nat := 1
def outboundErrorLength : Nat := 2

def fixed64Length : Nat := 64

/-- `allowlisted_control` -/
def allowlistedControl (control : UInt8) : Bool :=
  control ∈ [0x20, 0x22, 0x32, 0x34, 0x36, 0x50]

/-- The material that a body was made of. -/
def materialOf (prepared : PreparedCommand) (stamped : Bool) : Option CommandMaterial :=
  (Block.ofList? 12 ((prepared.body.drop 2).take 12)).map fun fdtTable =>
    { stageIndex := prepared.intent.stageIndex
      tableRole := prepared.intent.bodyClass.role
      fdtTable
      timestamp := if stamped then some (getU16Le (prepared.body.drop 14)) else none }

/-- `prepared_body_valid`: the body can be built again from what it says. -/
def preparedBodyValid (prepared : PreparedCommand) : Bool :=
  let built (material : Option CommandMaterial) : Bool :=
    match commandBodyBuild prepared.intent material with
    | .ok rebuilt => rebuilt = prepared.body
    | .error _ => false
  let stamped : Bool := prepared.intent.bodyClass = .fdtTimestamp_0801
  if prepared.intent.bodyClass = .simple_01_00 then built none
  else if prepared.body.length ≠ (if stamped then 16 else 14) then false
  else built (materialOf prepared stamped)

/-- `goodix_enrollment_outbound_frame_build` -/
def outboundFrameBuild (prepared : PreparedCommand) : Except GError (List UInt8) :=
  if allowlistedControl prepared.intent.control = false ∨ preparedBodyValid prepared = false then
    .error (outboundError outboundErrorContract
      "prepared enrollment command violates its contract")
  else
    match A0Protocol.buildFrame prepared.intent.control (prepared.intent.control &&& 0xfe)
        prepared.body with
    | none =>
      .error (outboundError outboundErrorContract "A0 enrollment frame construction failed")
    | some logical =>
      if logical.length > fixed64Length then
        .error (outboundError outboundErrorLength "A0 enrollment frame exceeds fixed64")
      else .ok (logical ++ List.replicate (fixed64Length - logical.length) 0)

/-! ## What is built can be sent -/

/-- The body of a command with a table. -/
def BodyClass.body (bodyClass : BodyClass) (table : Table) (timestamp : Option UInt16) :
    List UInt8 :=
  bodyClass.opening ++ table.val ++ (timestamp.map putU16Le).getD []

theorem commandBodyBuild_material {intent : CommandIntent} {material : CommandMaterial}
    (valid : intentContractValid intent = true) (dynamic : intent.bodyClass ≠ .simple_01_00)
    (carries : materialValid intent material intent.bodyClass.role
      (intent.bodyClass = .fdtTimestamp_0801) = true) :
    commandBodyBuild intent (some material) =
      .ok (intent.bodyClass.body material.fdtTable material.timestamp) := by
  unfold commandBodyBuild
  rw [if_neg (by simp [valid]), if_neg dynamic]
  exact if_pos carries

theorem commandBodyBuild_simple {intent : CommandIntent}
    (valid : intentContractValid intent = true) (simple : intent.bodyClass = .simple_01_00) :
    commandBodyBuild intent none = .ok [0x01, 0x00] := by
  unfold commandBodyBuild
  rw [if_neg (by simp [valid]), if_pos simple]
  rfl

theorem intentContractValid_allowlisted {intent : CommandIntent}
    (valid : intentContractValid intent = true) : allowlistedControl intent.control = true := by
  unfold intentContractValid at valid
  simp only [Bool.and_eq_true] at valid
  have contract := valid.2
  split at contract <;> simp_all [allowlistedControl]

theorem BodyClass.length_opening (bodyClass : BodyClass) : bodyClass.opening.length = 2 := by
  cases bodyClass <;> rfl

/-- A body says which material it was made of. -/
theorem materialOf_body {intent : CommandIntent} {material : CommandMaterial} {stamped : Bool}
    (carries : materialValid intent material intent.bodyClass.role stamped = true) :
    materialOf ⟨intent, intent.bodyClass.body material.fdtTable material.timestamp⟩ stamped =
      some material := by
  obtain ⟨stageIndex, tableRole, fdtTable, timestamp⟩ := material
  simp only [materialValid, decide_eq_true_eq] at carries
  obtain ⟨rfl, rfl, known⟩ := carries
  have opening := intent.bodyClass.length_opening
  have table : ((intent.bodyClass.body fdtTable timestamp).drop 2).take 12 = fdtTable.val := by
    unfold BodyClass.body
    rw [List.append_assoc, ← opening, List.drop_left]
    simp
  have stamp : (intent.bodyClass.body fdtTable timestamp).drop 14 =
      (timestamp.map putU16Le).getD [] := by
    unfold BodyClass.body
    have length : (intent.bodyClass.opening ++ fdtTable.val).length = 14 := by simp [opening]
    rw [← length, List.drop_left]
  unfold materialOf
  rw [table, stamp, Block.ofList?_val]
  cases timestamp with
  | none => simp_all
  | some timestamp => simp_all

/-- What a body that has been built is made of. -/
inductive Built (intent : CommandIntent) : Option CommandMaterial → List UInt8 → Prop where
  | simple (class_ : intent.bodyClass = .simple_01_00) : Built intent none [0x01, 0x00]
  | dynamic {material : CommandMaterial} (class_ : intent.bodyClass ≠ .simple_01_00)
      (carries : materialValid intent material intent.bodyClass.role
        (intent.bodyClass = .fdtTimestamp_0801) = true) :
      Built intent (some material) (intent.bodyClass.body material.fdtTable material.timestamp)

theorem commandBodyBuild_built {intent : CommandIntent} {material : Option CommandMaterial}
    {body : List UInt8} (built : commandBodyBuild intent material = .ok body) :
    intentContractValid intent = true ∧ Built intent material body := by
  unfold commandBodyBuild at built
  split at built
  · cases built
  rename_i valid
  refine ⟨by simpa using valid, ?_⟩
  by_cases simple : intent.bodyClass = .simple_01_00
  · rw [if_pos simple] at built
    cases material with
    | none =>
      cases built
      exact .simple simple
    | some material => cases built
  · rw [if_neg simple] at built
    cases material with
    | none => cases built
    | some material =>
      dsimp only at built
      split at built
      · rename_i carries
        cases built
        exact .dynamic simple carries
      · cases built

theorem BodyClass.length_body (bodyClass : BodyClass) (table : Table) (timestamp : Option UInt16) :
    (bodyClass.body table timestamp).length = if timestamp.isSome then 16 else 14 := by
  cases timestamp <;> simp [BodyClass.body, bodyClass.length_opening]

/-- A prepared command is valid: its material can be read off its body. -/
theorem preparedBodyValid_built {intent : CommandIntent} {material : Option CommandMaterial}
    {body : List UInt8} (built : commandBodyBuild intent material = .ok body) :
    preparedBodyValid ⟨intent, body⟩ = true := by
  obtain ⟨valid, made⟩ := commandBodyBuild_built built
  unfold preparedBodyValid
  cases made with
  | simple simple => simp [simple, commandBodyBuild_simple valid simple]
  | @dynamic material dynamic carries =>
    have stamped : material.timestamp.isSome = decide (intent.bodyClass = .fdtTimestamp_0801) := by
      simp only [materialValid, decide_eq_true_eq] at carries
      exact carries.2.2
    have length := intent.bodyClass.length_body material.fdtTable material.timestamp
    rw [stamped] at length
    simp only [dynamic, if_false, length, materialOf_body carries,
      commandBodyBuild_material valid dynamic carries, ne_eq, not_true, decide_true]

/-- Every command whose body has been built has a frame. -/
theorem outboundFrameBuild_built {intent : CommandIntent} {material : Option CommandMaterial}
    {body : List UInt8} (built : commandBodyBuild intent material = .ok body) :
    ∃ frame, outboundFrameBuild ⟨intent, body⟩ = .ok frame := by
  have length : body.length ≤ 16 := by
    cases (commandBodyBuild_built built).2 with
    | simple => simp
    | @dynamic material =>
      rw [BodyClass.length_body]
      split <;> omega
  have allowed : ¬ (allowlistedControl intent.control = false ∨
      preparedBodyValid ⟨intent, body⟩ = false) := by
    simp [intentContractValid_allowlisted (commandBodyBuild_built built).1,
      preparedBodyValid_built built]
  have framed : ∃ logical, A0Protocol.buildFrame intent.control (intent.control &&& 0xfe) body =
      some logical ∧ logical.length = body.length + 8 := by
    refine ⟨_, if_neg (by omega), ?_⟩
    simp
    omega
  obtain ⟨logical, frames, size⟩ := framed
  have fits : ¬ logical.length > fixed64Length := by
    unfold fixed64Length
    omega
  refine ⟨logical ++ List.replicate (fixed64Length - logical.length) 0, ?_⟩
  unfold outboundFrameBuild
  rw [if_neg allowed]
  dsimp only
  rw [frames]
  exact if_neg fits

end Goodix.Enrollment
