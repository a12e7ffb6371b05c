import Goodix.Enrollment.Commands
import Goodix.Enrollment.Delivery
import Goodix.Library.Traces

/-! # The enrollment lifecycle adapter

`goodix_enrollment_lifecycle_adapter.c` puts the plan, the tables and the bodies together: an
observation goes to the tables and then to the plan, and a command is prepared from both before
it is committed.
-/

namespace Goodix.Enrollment

open Octets FdtIrqPolicy Machines Traces

def adapterError (code : Nat) (message : String) : GError :=
  ⟨"goodix-enrollment-lifecycle-adapter-error", code, message⟩

def adapterErrorState : Nat := 1
def adapterErrorPayload : Nat := 2
def adapterErrorTimestamp : Nat := 3
def adapterErrorProtocol : Nat := 4

/-- How the timestamp callback answers; it may refuse without an error. -/
abbrev Stamp := Except (Option GError) UInt16

structure Adapter where
  plan : CommandPlan
  fdt : FdtState
  cached : Option PreparedCommand
  failed : Bool
  deriving DecidableEq

namespace Adapter

/-- `goodix_enrollment_lifecycle_adapter_new` -/
def new (config : ModelConfig) : Except GError Adapter :=
  (CommandPlan.new config).map fun plan => { plan, fdt := .new, cached := none, failed := false }

/-- `adapter_fail`, which keeps an error that is set already. -/
def fail {α : Type} (adapter : Adapter) (error : GError) : Except GError α × Adapter :=
  (.error error, { adapter with failed := true, cached := none })

/-- `payload_contract_valid` -/
def payloadContractValid (event : Event) (samples : Option (List UInt16))
    (fdtRaw : Option (List UInt8)) (fdtTouchFlags : UInt16) : Bool :=
  let table : Bool := samples = none ∧ fdtRaw.map List.length = some 12
  match event with
  | .irq2 => table && irqFlagsValid .fingerDown fdtTouchFlags
  | .irq0200 | .zeroMaskRecovery => table && irqFlagsValid .fingerUp fdtTouchFlags
  | .primaryB0 =>
    samples.any (fun raster => raster.length > 0) && fdtRaw.isNone && fdtTouchFlags = 0
  | _ => samples.isNone && fdtRaw.isNone && fdtTouchFlags = 0

/-- What an observation tells the tables. -/
def observeFdt (adapter : Adapter) (event : Event) (fdtRaw : Option (List UInt8))
    (fdtTouchFlags : UInt16) : Except GError Unit × FdtState :=
  let stage := adapter.plan.pipeline.model.audit.observedPrimaryStageCount
  match event, fdtRaw.bind (Block.ofList? 12) with
  | .irq2, some raw => adapter.fdt.observeIrq2 (stage + 1) fdtTouchFlags raw
  | .zeroMaskRecovery, some raw => adapter.fdt.observeZero stage raw
  | .irq0200, some raw => adapter.fdt.observeIrq0200 stage fdtTouchFlags raw
  | _, _ => (.ok (), adapter.fdt)

/-- `goodix_enrollment_lifecycle_adapter_observe` -/
def observe (adapter : Adapter) (event : Event) (samples : Option (List UInt16))
    (fdtRaw : Option (List UInt8)) (fdtTouchFlags : UInt16) (reply : Reply) :
    Except GError Unit × Adapter :=
  if adapter.failed ∨ adapter.cached.isSome ∨ adapter.plan.isComplete then
    adapter.fail (adapterError adapterErrorState
      "adapter is terminal or has an uncommitted command")
  else if payloadContractValid event samples fdtRaw fdtTouchFlags = false then
    adapter.fail (adapterError adapterErrorPayload
      "observation payload does not match its event")
  else
    match adapter.observeFdt event fdtRaw fdtTouchFlags with
    | (.error error, fdt) => { adapter with fdt }.fail error
    | (.ok (), fdt) =>
      match adapter.plan.observe event samples reply with
      | (.error error, plan) => { adapter with fdt, plan }.fail error
      | (.ok (), plan) => (.ok (), { adapter with fdt, plan })

/-- The command that answers an IRQ0080. -/
def irq80Intent (stageIndex : Nat) : CommandIntent where
  event := .command_32
  purpose := .irq80Rearm
  bodyClass := .fdtTimestamp_0801
  stageIndex
  control := 0x32

/-- `goodix_enrollment_lifecycle_adapter_prepare_irq80_rearm` -/
def prepareIrq80Rearm (adapter : Adapter) (raw : Table) (stamp : Stamp) :
    Except GError PreparedCommand × Adapter :=
  if adapter.failed ∨ adapter.cached.isSome ∨ adapter.plan.getExpectedEvent ≠ .irq2 then
    adapter.fail (adapterError adapterErrorState "IRQ0080 rearm is outside an IRQ2 wait")
  else
    let stage := adapter.plan.pipeline.model.audit.observedPrimaryStageCount + 1
    match adapter.fdt.refreshIrq80 raw with
    | (.error error, fdt) => { adapter with fdt }.fail error
    | (.ok fdtTable, fdt) =>
      match stamp with
      | .error error =>
        { adapter with fdt }.fail (error.getD
          (adapterError adapterErrorTimestamp "IRQ0080 timestamp callback failed"))
      | .ok timestamp =>
        match commandBodyBuild (irq80Intent stage)
            (some ⟨stage, .transitionDown, fdtTable, some timestamp⟩) with
        | .error error => { adapter with fdt }.fail error
        | .ok body => (.ok ⟨irq80Intent stage, body⟩, { adapter with fdt })

/-- A planned command with its material. -/
def build (adapter : Adapter) (intent : CommandIntent) (timestamp : Option UInt16) :
    Except GError PreparedCommand × Adapter :=
  match adapter.fdt.resolve intent timestamp with
  | (.error error, fdt) => { adapter with fdt }.fail error
  | (.ok material, fdt) =>
    match commandBodyBuild intent material with
    | .error error => { adapter with fdt }.fail error
    | .ok body => (.ok ⟨intent, body⟩, { adapter with fdt, cached := some ⟨intent, body⟩ })

/-- `goodix_enrollment_lifecycle_adapter_prepare` -/
def prepare (adapter : Adapter) (stamp : Stamp) : Except GError PreparedCommand × Adapter :=
  if adapter.failed ∨ adapter.plan.isComplete then
    adapter.fail (adapterError adapterErrorState "adapter is already terminal")
  else
    match adapter.cached, adapter.plan.peek with
    | some cached, _ => (.ok cached, adapter)
    | none, none =>
      adapter.fail (adapterError adapterErrorState "no command is ready for preparation")
    | none, some intent =>
      if intent.bodyClass = .fdtTimestamp_0801 then
        match stamp with
        | .error error =>
          adapter.fail (error.getD
            (adapterError adapterErrorTimestamp "timestamp callback rejected the command"))
        | .ok timestamp => adapter.build intent (some timestamp)
      else adapter.build intent none

/-- `goodix_enrollment_lifecycle_adapter_commit` -/
def commit (adapter : Adapter) (commandEvent : Event) : Except GError Unit × Adapter :=
  if adapter.failed then
    adapter.fail (adapterError adapterErrorState "no prepared command is available for commit")
  else
    match adapter.cached with
    | none =>
      adapter.fail (adapterError adapterErrorState "no prepared command is available for commit")
    | some cached =>
      if commandEvent ≠ cached.intent.event then
        adapter.fail (adapterError adapterErrorProtocol
          "commit event differs from prepared command")
      else
        match adapter.plan.commit commandEvent with
        | (.error error, plan) => { adapter with plan }.fail error
        | (.ok (), plan) => (.ok (), { adapter with plan, cached := none })

/-- `goodix_enrollment_lifecycle_adapter_is_complete` -/
def isComplete (adapter : Adapter) : Bool :=
  !adapter.failed && adapter.cached.isNone && adapter.plan.isComplete

/-- `goodix_enrollment_lifecycle_adapter_is_failed` -/
def isFailed (adapter : Adapter) : Bool := adapter.failed || adapter.plan.isFailed

/-- `goodix_enrollment_lifecycle_adapter_get_expected_event` -/
def getExpectedEvent (adapter : Adapter) : Event :=
  if adapter.failed then .none else adapter.plan.getExpectedEvent

end Adapter

end Goodix.Enrollment
