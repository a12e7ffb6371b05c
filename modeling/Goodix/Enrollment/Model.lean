import Goodix.ImageDecoder

/-! # The enrollment model and its image pipeline

`goodix_enrollment_model.c` says which event of an enrollment comes next, contact after
contact, and when the image of a contact is delivered.  `goodix_enrollment_pipeline.c`
keeps that image until then.  The only stage callback of the model is the one of the
pipeline, so the functions of the model that deliver a stage are functions of the pipeline.

Every counter stays below the bound on contacts, which is a `guint`.
-/

namespace Goodix.Enrollment

open Octets ImageDecoder

inductive Event where
  | none
  | irq2
  | command_22
  | ack_22
  | primaryB0
  | command_34
  | ack_34
  | irq0200
  | command_20
  | ack_20
  | auxiliaryB0
  | command_32
  | ack_32
  | command_50
  | ack_50
  | nav
  | command_36
  | ack_36
  | irq0100
  | zeroMaskRecovery
  deriving DecidableEq, Repr

/-- `goodix_enrollment_event_name` -/
def Event.name : Event → String
  | none => "NONE"
  | irq2 => "IRQ2"
  | command_22 => "COMMAND_22"
  | ack_22 => "ACK_22"
  | primaryB0 => "PRIMARY_B0"
  | command_34 => "COMMAND_34"
  | ack_34 => "ACK_34"
  | irq0200 => "IRQ0200"
  | command_20 => "COMMAND_20"
  | ack_20 => "ACK_20"
  | auxiliaryB0 => "AUXILIARY_B0"
  | command_32 => "COMMAND_32"
  | ack_32 => "ACK_32"
  | command_50 => "COMMAND_50"
  | ack_50 => "ACK_50"
  | nav => "NAV"
  | command_36 => "COMMAND_36"
  | ack_36 => "ACK_36"
  | irq0100 => "IRQ0100"
  | zeroMaskRecovery => "ZERO_MASK_RECOVERY"

inductive Transition where
  | none
  | firstNav
  | repeatedRearm
  | terminal
  deriving DecidableEq, Repr

structure ModelConfig where
  requiredStageCount : Nat
  maxPhysicalStageCount : Nat
  deferTerminalStageDelivery : Bool
  deferTerminalStageDeliveryUntilReleaseReady : Bool
  deferIntermediateStageDeliveryUntilReleaseReady : Bool
  deriving DecidableEq, Repr

/-- The counts of the audit that the layers above read. -/
structure ModelAudit where
  observedPrimaryStageCount : Nat
  completedStageCount : Nat
  retryStageCount : Nat
  deriving DecidableEq, Repr

structure Model where
  requiredStageCount : Nat
  maxPhysicalStageCount : Nat
  observedStageCount : Nat
  completedStageCount : Nat
  expected : Event
  transition : Transition
  audit : ModelAudit
  complete : Bool
  failed : Bool
  repeatedAfterAuxiliary : Bool
  firstNavSeen : Bool
  deferTerminalStageDelivery : Bool
  deferTerminalStageDeliveryUntilReleaseReady : Bool
  deferIntermediateStageDeliveryUntilReleaseReady : Bool
  stageDeliveryPending : Bool
  deliveringStage : Bool
  retryCurrentStage : Bool
  finishCurrentStage : Bool
  deriving DecidableEq, Repr

def modelError (code : Nat) (message : String) : GError :=
  ⟨"goodix-enrollment-model-error", code, message⟩

def modelErrorArgument : Nat := 0
def modelErrorState : Nat := 1
def modelErrorProtocol : Nat := 2
def modelErrorStage : Nat := 3

namespace Model

/-- `goodix_enrollment_model_new` -/
def new (config : ModelConfig) : Except GError Model :=
  if config.requiredStageCount < 2 ∨
      (config.maxPhysicalStageCount ≠ 0 ∧
        config.maxPhysicalStageCount < config.requiredStageCount) ∨
      (config.deferTerminalStageDelivery ∧
        config.deferTerminalStageDeliveryUntilReleaseReady) then
    .error (modelError modelErrorArgument
      "enrollment model requires at least two stages, a callback, and one terminal delivery mode")
  else
    .ok {
      requiredStageCount := config.requiredStageCount
      maxPhysicalStageCount :=
        if config.maxPhysicalStageCount ≠ 0 then config.maxPhysicalStageCount
        else config.requiredStageCount
      observedStageCount := 0
      completedStageCount := 0
      expected := .irq2
      transition := .none
      audit := ⟨0, 0, 0⟩
      complete := false
      failed := false
      repeatedAfterAuxiliary := false
      firstNavSeen := false
      deferTerminalStageDelivery := config.deferTerminalStageDelivery
      deferTerminalStageDeliveryUntilReleaseReady :=
        config.deferTerminalStageDeliveryUntilReleaseReady
      deferIntermediateStageDeliveryUntilReleaseReady :=
        config.deferIntermediateStageDeliveryUntilReleaseReady
      stageDeliveryPending := false
      deliveringStage := false
      retryCurrentStage := false
      finishCurrentStage := false }

/-- The model is terminal from now on. -/
def stop (model : Model) : Model := { model with failed := true, expected := .none }

/-- The error of `model_fail`. -/
def unexpected (model : Model) (code : Nat) (observed : Event) : GError :=
  modelError code ("unexpected enrollment event: expected " ++ model.expected.name ++
    ", observed " ++ observed.name)

/-- `expect` -/
def expect (model : Model) (event : Event) : Model := { model with expected := event }

/-- `request_stage_decision` -/
def requestStageDecision (model : Model) (retry : Bool) : Except GError Unit × Model :=
  if model.deliveringStage = false ∨ model.retryCurrentStage ∨ model.finishCurrentStage then
    (.error (modelError modelErrorState "enrollment stage decision is not currently available"),
      model)
  else if retry = false ∧ model.completedStageCount + 1 > model.requiredStageCount then
    (.error (modelError modelErrorStage "terminal enrollment stage exceeds template target"),
      model)
  else (.ok (), { model with retryCurrentStage := retry, finishCurrentStage := !retry })

/-- Whether the event may be fed: it is the expected one, or the local classification of the
expected IRQ0100 as a zero mask. -/
def takes (model : Model) (event : Event) : Bool :=
  event = model.expected ∨ (event = .zeroMaskRecovery ∧ model.expected = .irq0100)

/-- The transition that the `observed`-th contact begins with. -/
def transitionOf (model : Model) (observed : Nat) : Transition :=
  if observed = 1 then .firstNav
  else if observed = model.maxPhysicalStageCount then .terminal
  else .repeatedRearm

/-- Whether the image of a contact with the current transition waits for its delivery. -/
def defers (model : Model) : Bool :=
  if model.transition = .terminal then
    model.deferTerminalStageDelivery ∨ model.deferTerminalStageDeliveryUntilReleaseReady
  else model.deferIntermediateStageDeliveryUntilReleaseReady

end Model

/-! ## The image of a contact -/

def sensorSampleMax : UInt16 := 4095

/-- `map_sample_to_u8` -/
def mapSampleToU8 (sample : UInt16) : UInt8 :=
  UInt8.ofNat ((sample.toNat * 255 + sensorSampleMax.toNat / 2) / sensorSampleMax.toNat)

structure FpImagePipeline where
  image : List UInt8
  sourceSamples : List UInt16
  deriving DecidableEq, Repr

/-- `goodix_fpimage_pipeline_new`, whose images meet the requirement of NBIS as they are. -/
def fpImagePipelineNew (samples : List UInt16) : Option FpImagePipeline :=
  if samples.length ≠ canonicalImageSampleCount then none
  else if samples.any (sensorSampleMax < ·) then none
  else some { image := samples.map mapSampleToU8, sourceSamples := samples }

/-! ## The pipeline -/

structure Pipeline where
  model : Model
  pendingImage : Option FpImagePipeline
  retryCurrentStage : Bool
  failed : Bool
  /-- What the image callback has been given, each with its stage index. -/
  handed : List (Nat × FpImagePipeline)
  deriving DecidableEq, Repr

/-- What the image callback may ask for before it returns. -/
inductive Request where
  | retryCurrentStage
  | finishCurrentStage
  deriving DecidableEq, Repr

/-- How the image callback answers: what it asks for, and its result.  It may refuse the image
without an error. -/
structure Reply where
  requests : List Request
  verdict : Except (Option GError) Unit

def pipelineError (code : Nat) (message : String) : GError :=
  ⟨"goodix-enrollment-pipeline-error", code, message⟩

def pipelineErrorArgument : Nat := 0
def pipelineErrorState : Nat := 1
def pipelineErrorImage : Nat := 2

namespace Pipeline

/-- `goodix_enrollment_pipeline_new` -/
def new (config : ModelConfig) : Except GError Pipeline :=
  match Model.new config with
  | .error error => .error error
  | .ok model =>
    .ok { model, pendingImage := none, retryCurrentStage := false, failed := false, handed := [] }

/-- `goodix_enrollment_pipeline_retry_current_stage` -/
def retryStage (pipeline : Pipeline) : Except GError Unit × Pipeline :=
  if pipeline.pendingImage.isNone ∨ pipeline.retryCurrentStage then
    (.error (pipelineError pipelineErrorState "enrollment image is not available for retry"),
      pipeline)
  else
    match pipeline.model.requestStageDecision true with
    | (.error error, model) => (.error error, { pipeline with model })
    | (.ok (), model) => (.ok (), { pipeline with model, retryCurrentStage := true })

/-- `goodix_enrollment_pipeline_finish_current_stage` -/
def finishStage (pipeline : Pipeline) : Except GError Unit × Pipeline :=
  if pipeline.pendingImage.isNone ∨ pipeline.retryCurrentStage then
    (.error (pipelineError pipelineErrorState
      "enrollment image is not available for terminal delivery"), pipeline)
  else
    let (verdict, model) := pipeline.model.requestStageDecision false
    (verdict, { pipeline with model })

def request (pipeline : Pipeline) : Request → Pipeline
  | .retryCurrentStage => pipeline.retryStage.2
  | .finishCurrentStage => pipeline.finishStage.2

/-- `pipeline_stage_ready` -/
def stageReady (pipeline : Pipeline) (stageIndex : Nat) (reply : Reply) :
    Except (Option GError) Unit × Pipeline :=
  match pipeline.pendingImage with
  | none =>
    (.error (some (pipelineError pipelineErrorState "primary stage has no pending FpImage")),
      pipeline)
  | some image =>
    let given := { pipeline with
      retryCurrentStage := false
      handed := pipeline.handed ++ [(stageIndex, image)] }
    (reply.verdict, reply.requests.foldl request given)

/-- The second half of `deliver_stage`, after the callback has taken the image. -/
def countStage (pipeline : Pipeline) : Except GError Unit × Pipeline :=
  let model := { pipeline.model with deliveringStage := false }
  if model.retryCurrentStage then
    if model.observedStageCount ≥ model.maxPhysicalStageCount then
      (.error (modelError modelErrorStage "enrollment physical-contact bound exhausted"),
        { pipeline with model := model.stop })
    else
      (.ok (), { pipeline with
        model := { model with
          audit := { model.audit with retryStageCount := model.audit.retryStageCount + 1 } } })
  else
    let model := { model with completedStageCount := model.completedStageCount + 1 }
    if model.completedStageCount > model.requiredStageCount then
      (.error (modelError modelErrorStage "enrollment delivered too many template stages"),
        { pipeline with model := model.stop })
    else
      (.ok (), { pipeline with
        model := { model with
          transition := if model.finishCurrentStage then .terminal else model.transition
          audit := { model.audit with completedStageCount := model.completedStageCount } } })

/-- `deliver_stage`, always for the contact that was observed last. -/
def deliverStage (pipeline : Pipeline) (reply : Reply) : Except GError Unit × Pipeline :=
  let asking := { pipeline with
    model := { pipeline.model with
      deliveringStage := true, retryCurrentStage := false, finishCurrentStage := false } }
  match stageReady asking pipeline.model.observedStageCount reply with
  | (.error error, asked) =>
    (.error (error.getD (modelError modelErrorStage
        "enrollment stage callback rejected without an error")),
      { asked with model := { asked.model with deliveringStage := false }.stop })
  | (.ok (), asked) => asked.countStage

/-- `deliver_pending_stage` -/
def deliverPendingStage (pipeline : Pipeline) (reply : Reply) : Except GError Unit × Pipeline :=
  if pipeline.model.stageDeliveryPending then
    match pipeline.deliverStage reply with
    | (.error error, delivered) => (.error error, delivered)
    | (.ok (), delivered) =>
      (.ok (), { delivered with model := { delivered.model with stageDeliveryPending := false } })
  else (.ok (), pipeline)

/-- `finish` -/
def finish (pipeline : Pipeline) (reply : Reply) : Except GError Unit × Pipeline :=
  match pipeline.deliverPendingStage reply with
  | (.error error, delivered) => (.error error, delivered)
  | (.ok (), delivered) =>
    (.ok (), { delivered with
      model := { delivered.model with complete := true, transition := .terminal, expected := .none } })

/-- `model_fail` -/
def modelFail (pipeline : Pipeline) (code : Nat) (observed : Event) :
    Except GError Unit × Pipeline :=
  (.error (pipeline.model.unexpected code observed),
    { pipeline with model := pipeline.model.stop })

def expect (pipeline : Pipeline) (event : Event) : Pipeline :=
  { pipeline with model := pipeline.model.expect event }

/-- The PRIMARY_B0 of `goodix_enrollment_model_feed`: one contact more is observed. -/
def observePrimary (pipeline : Pipeline) (reply : Reply) : Except GError Unit × Pipeline :=
  let model := pipeline.model
  if model.observedStageCount ≥ model.maxPhysicalStageCount then
    pipeline.modelFail modelErrorProtocol .primaryB0
  else
    let observed := model.observedStageCount + 1
    let counted := { model with
      observedStageCount := observed
      audit := { model.audit with observedPrimaryStageCount := observed }
      transition := model.transitionOf observed }
    if counted.defers then
      (.ok (), { pipeline with
        model := { counted with stageDeliveryPending := true }.expect .command_34 })
    else
      match deliverStage { pipeline with model := counted } reply with
      | (.error error, delivered) => (.error error, delivered)
      | (.ok (), delivered) => (.ok (), delivered.expect .command_34)

/-- The ACK_34 of `goodix_enrollment_model_feed`: the branch without the auxiliary scan, and the
end of the one with it, deliver here what was deferred until the release is ready. -/
def ackFingerUp (pipeline : Pipeline) (reply : Reply) : Except GError Unit × Pipeline :=
  let model := pipeline.model
  if model.transition = .firstNav ∨ model.repeatedAfterAuxiliary then
    let ready := pipeline.expect .irq0200
    if model.transition ≠ .terminal ∨ model.deferTerminalStageDeliveryUntilReleaseReady then
      ready.deliverPendingStage reply
    else (.ok (), ready)
  else (.ok (), pipeline.expect .command_36)

/-- The ZERO_MASK_RECOVERY of `goodix_enrollment_model_feed`: only the auxiliary tail is
skipped. -/
def recoverZeroMask (pipeline : Pipeline) (reply : Reply) : Except GError Unit × Pipeline :=
  let model := pipeline.model
  if model.observedStageCount < 2 ∨ model.stageDeliveryPending = false ∨
      model.repeatedAfterAuxiliary then
    pipeline.modelFail modelErrorState .zeroMaskRecovery
  else
    match pipeline.deliverPendingStage reply with
    | (.error error, delivered) => (.error error, delivered)
    | (.ok (), delivered) =>
      if delivered.model.transition = .terminal then delivered.finish reply
      else (.ok (), delivered.expect .command_32)

/-- The IRQ0200 of `goodix_enrollment_model_feed`: the finger is up. -/
def release (pipeline : Pipeline) (reply : Reply) : Except GError Unit × Pipeline :=
  let released := { pipeline with
    model := { pipeline.model with repeatedAfterAuxiliary := false } }
  match pipeline.model.transition with
  | .firstNav => (.ok (), released.expect .command_20)
  | .terminal => released.finish reply
  | _ => (.ok (), released.expect .command_32)

/-- The switch of `goodix_enrollment_model_feed`. -/
def advance (pipeline : Pipeline) (event : Event) (reply : Reply) :
    Except GError Unit × Pipeline :=
  let model := pipeline.model
  match event with
  | .irq2 =>
    (.ok (), { pipeline with model := { model with transition := .none }.expect .command_22 })
  | .command_22 => (.ok (), pipeline.expect .ack_22)
  | .ack_22 => (.ok (), pipeline.expect .primaryB0)
  | .primaryB0 => pipeline.observePrimary reply
  | .command_34 => (.ok (), pipeline.expect .ack_34)
  | .ack_34 => pipeline.ackFingerUp reply
  | .command_36 => (.ok (), pipeline.expect .ack_36)
  | .ack_36 => (.ok (), pipeline.expect .irq0100)
  | .irq0100 => (.ok (), pipeline.expect .command_20)
  | .zeroMaskRecovery => pipeline.recoverZeroMask reply
  | .command_20 => (.ok (), pipeline.expect .ack_20)
  | .ack_20 => (.ok (), pipeline.expect .auxiliaryB0)
  | .auxiliaryB0 =>
    if model.transition = .firstNav then (.ok (), pipeline.expect .command_32)
    else
      (.ok (), { pipeline with
        model := { model with repeatedAfterAuxiliary := true }.expect .command_34 })
  | .irq0200 => pipeline.release reply
  | .command_32 => (.ok (), pipeline.expect .ack_32)
  | .ack_32 =>
    if model.transition = .firstNav ∧ model.firstNavSeen = false then
      (.ok (), pipeline.expect .command_50)
    else (.ok (), pipeline.expect .irq2)
  | .command_50 => (.ok (), pipeline.expect .ack_50)
  | .ack_50 => (.ok (), pipeline.expect .nav)
  | .nav =>
    (.ok (), { pipeline with model := { model with firstNavSeen := true }.expect .command_32 })
  | .none => pipeline.modelFail modelErrorProtocol .none

/-- `goodix_enrollment_model_feed` -/
def modelFeed (pipeline : Pipeline) (event : Event) (reply : Reply) :
    Except GError Unit × Pipeline :=
  if pipeline.model.complete ∨ pipeline.model.failed then
    (.error (modelError modelErrorState "enrollment model is already terminal"), pipeline)
  else if pipeline.model.takes event = false then pipeline.modelFail modelErrorProtocol event
  else pipeline.advance event reply

/-- `pipeline_fail` -/
def fail (pipeline : Pipeline) (code : Nat) (message : String) : Except GError Unit × Pipeline :=
  (.error (pipelineError code message), { pipeline with pendingImage := none, failed := true })

/-- What is done with the pending image after the model has been fed. -/
def settle (completedBefore : Nat) : Except GError Unit × Pipeline → Except GError Unit × Pipeline
  | (.error error, fed) => (.error error, { fed with pendingImage := none, failed := true })
  | (.ok (), fed) =>
    if fed.retryCurrentStage ∨ fed.model.completedStageCount > completedBefore then
      (.ok (), { fed with pendingImage := none })
    else (.ok (), fed)

/-- `goodix_enrollment_pipeline_feed`; no samples is a null pointer with a count of zero. -/
def feed (pipeline : Pipeline) (event : Event) (samples : Option (List UInt16))
    (reply : Reply) : Except GError Unit × Pipeline :=
  let fedWith (loaded : Pipeline) :=
    settle pipeline.model.completedStageCount (loaded.modelFeed event reply)
  if pipeline.failed ∨ pipeline.model.complete then
    (.error (pipelineError pipelineErrorState "enrollment image pipeline is already terminal"),
      pipeline)
  else if pipeline.model.takes event = false then
    let fed := pipeline.modelFeed event reply
    (fed.1, { fed.2 with pendingImage := none, failed := true })
  else if event = .primaryB0 then
    let fresh := { pipeline with retryCurrentStage := false }
    match samples with
    | none =>
      fresh.fail pipelineErrorArgument "primary B0 requires one canonical raster"
    | some raster =>
      if raster.length ≠ canonicalImageSampleCount then
        fresh.fail pipelineErrorArgument "primary B0 requires one canonical raster"
      else
        match pipeline.pendingImage, fpImagePipelineNew raster with
        | none, some image => fedWith { fresh with pendingImage := some image }
        -- an image is never made over another one
        | _, _ =>
          fresh.fail pipelineErrorImage "primary raster cannot form an NBIS-compatible FpImage"
  else if samples.isSome then
    pipeline.fail pipelineErrorArgument "non-primary enrollment event cannot carry a raster"
  else fedWith pipeline

/-- `goodix_enrollment_pipeline_is_complete` -/
def isComplete (pipeline : Pipeline) : Bool := pipeline.model.complete

/-- `goodix_enrollment_pipeline_is_failed` -/
def isFailed (pipeline : Pipeline) : Bool := pipeline.failed ∨ pipeline.model.failed

/-- `goodix_enrollment_pipeline_get_expected_event` -/
def getExpectedEvent (pipeline : Pipeline) : Event := pipeline.model.expected

end Pipeline

end Goodix.Enrollment
