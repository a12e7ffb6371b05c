import Goodix.Enrollment.Model

/-! # What feeding an event does

An event that is accepted makes one of the moves below; every other event fails the
pipeline or finds it terminal already.
-/

namespace Goodix.Enrollment

open ImageDecoder

/-! ## A delivery -/

/-- What has been granted to the image callback: at most one of its requests. -/
structure Granted where
  retry : Bool
  finish : Bool
  deriving DecidableEq

/-- The requests of a callback, one after the other; the last stage of the template cannot be
finished twice. -/
def Granted.after (mayFinish : Bool) (granted : Granted) : Request → Granted
  | .retryCurrentStage => if granted = ⟨false, false⟩ then ⟨true, false⟩ else granted
  | .finishCurrentStage => if granted = ⟨false, false⟩ then ⟨false, mayFinish⟩ else granted

/-- What a reply is granted where a stage may or may not be finished. -/
def Reply.granted (reply : Reply) (mayFinish : Bool) : Granted :=
  reply.requests.foldl (Granted.after mayFinish) ⟨false, false⟩

namespace Pipeline

def mayFinish (pipeline : Pipeline) : Bool :=
  pipeline.model.completedStageCount + 1 ≤ pipeline.model.requiredStageCount

/-- The pipeline while its image callback runs, after some of its requests. -/
def asked (pipeline : Pipeline) (image : FpImagePipeline) (granted : Granted) : Pipeline :=
  { pipeline with
    retryCurrentStage := granted.retry
    handed := pipeline.handed ++ [(pipeline.model.observedStageCount, image)]
    model := { pipeline.model with
      deliveringStage := true
      retryCurrentStage := granted.retry
      finishCurrentStage := granted.finish } }

theorem request_asked {pipeline : Pipeline} {image : FpImagePipeline}
    (pending : pipeline.pendingImage = some image) (granted : Granted) (wish : Request) :
    request (pipeline.asked image granted) wish =
      pipeline.asked image (granted.after pipeline.mayFinish wish) := by
  obtain ⟨retry, finish⟩ := granted
  cases wish with
  | retryCurrentStage =>
    cases retry <;> cases finish <;>
      simp [request, retryStage, pending, asked, Model.requestStageDecision, Granted.after]
  | finishCurrentStage =>
    by_cases may : pipeline.model.completedStageCount + 1 ≤ pipeline.model.requiredStageCount
    · have below : ¬ pipeline.model.requiredStageCount < pipeline.model.completedStageCount + 1 := by
        omega
      cases retry <;> cases finish <;>
        simp [request, finishStage, pending, asked, Model.requestStageDecision, Granted.after,
          mayFinish, may, below]
    · have above : pipeline.model.requiredStageCount < pipeline.model.completedStageCount + 1 := by
        omega
      cases retry <;> cases finish <;>
        simp [request, finishStage, pending, asked, Model.requestStageDecision, Granted.after,
          mayFinish, may, above]

theorem requests_asked {pipeline : Pipeline} {image : FpImagePipeline}
    (pending : pipeline.pendingImage = some image) (requests : List Request) :
    ∀ granted, requests.foldl request (pipeline.asked image granted) =
      pipeline.asked image (requests.foldl (Granted.after pipeline.mayFinish) granted) := by
  induction requests with
  | nil =>
    intro granted
    rfl
  | cons wish rest ih =>
    intro granted
    rw [List.foldl_cons, List.foldl_cons, request_asked pending, ih]

/-- At most one request is granted. -/
theorem granted_exclusive (reply : Reply) (mayFinish : Bool)
    (retry : (reply.granted mayFinish).retry = true) :
    (reply.granted mayFinish).finish = false := by
  have kept : ∀ (requests : List Request) granted,
      (granted.retry = true → granted.finish = false) →
        (requests.foldl (Granted.after mayFinish) granted).retry = true →
          (requests.foldl (Granted.after mayFinish) granted).finish = false := by
    intro requests
    induction requests with
    | nil =>
      intro granted exclusive
      exact exclusive
    | cons wish rest ih =>
      intro granted exclusive
      refine ih _ ?_
      cases wish <;> unfold Granted.after <;> dsimp only <;> split <;> simp_all
  exact kept reply.requests ⟨false, false⟩ (by simp) retry

/-- The pipeline whose image callback has been given the pending image. -/
def given (pipeline : Pipeline) (image : FpImagePipeline) (granted : Granted) : Pipeline :=
  { pipeline with
    retryCurrentStage := granted.retry
    handed := pipeline.handed ++ [(pipeline.model.observedStageCount, image)]
    model := { pipeline.model with
      deliveringStage := false
      retryCurrentStage := granted.retry
      finishCurrentStage := granted.finish } }

/-- The contact is consumed without progress. -/
def retried (pipeline : Pipeline) (image : FpImagePipeline) : Pipeline :=
  let given := pipeline.given image ⟨true, false⟩
  { given with
    model := { given.model with
      audit := { given.model.audit with
        retryStageCount := given.model.audit.retryStageCount + 1 } } }

/-- The contact completes a stage, which the callback may have made the last one. -/
def completed (pipeline : Pipeline) (image : FpImagePipeline) (finish : Bool) : Pipeline :=
  let given := pipeline.given image ⟨false, finish⟩
  { given with
    model := { given.model with
      completedStageCount := given.model.completedStageCount + 1
      transition := if finish then .terminal else given.model.transition
      audit := { given.model.audit with
        completedStageCount := given.model.completedStageCount + 1 } } }

/-- A delivery that succeeds, with the reply of the callback. -/
inductive Delivered (before : Pipeline) (image : FpImagePipeline) (reply : Reply) :
    Pipeline → Prop where
  | retried (accepted : reply.verdict = .ok ())
      (granted : reply.granted before.mayFinish = ⟨true, false⟩)
      (within : before.model.observedStageCount < before.model.maxPhysicalStageCount) :
      Delivered before image reply (before.retried image)
  | completed {finish : Bool} (accepted : reply.verdict = .ok ())
      (granted : reply.granted before.mayFinish = ⟨false, finish⟩)
      (within : before.model.completedStageCount + 1 ≤ before.model.requiredStageCount) :
      Delivered before image reply (before.completed image finish)

theorem countStage_delivered {pipeline : Pipeline} {image : FpImagePipeline} {reply : Reply}
    (answered : reply.verdict = .ok ())
    (accepted : (pipeline.given image (reply.granted pipeline.mayFinish)).countStage.1 = .ok ()) :
    Delivered pipeline image reply
      (pipeline.given image (reply.granted pipeline.mayFinish)).countStage.2 := by
  have exclusive := granted_exclusive reply pipeline.mayFinish
  rcases granted : reply.granted pipeline.mayFinish with ⟨retry, finish⟩
  rw [granted] at exclusive accepted
  cases retry with
  | true =>
    obtain rfl : finish = false := exclusive rfl
    by_cases bound : pipeline.model.observedStageCount ≥ pipeline.model.maxPhysicalStageCount
    · simp [countStage, given, bound] at accepted
    · have counted : (pipeline.given image ⟨true, false⟩).countStage =
          (.ok (), pipeline.retried image) := by
        unfold countStage
        dsimp only
        rw [if_pos (show (pipeline.given image ⟨true, false⟩).model.retryCurrentStage = true
          from rfl)]
        exact if_neg bound
      rw [counted]
      exact .retried answered granted (by omega)
  | false =>
    by_cases bound : pipeline.model.completedStageCount + 1 > pipeline.model.requiredStageCount
    · simp [countStage, given, bound] at accepted
    · have counted : (pipeline.given image ⟨false, finish⟩).countStage =
          (.ok (), pipeline.completed image finish) := by
        unfold countStage
        dsimp only
        rw [if_neg (by simp [given])]
        exact if_neg bound
      rw [counted]
      exact .completed answered granted (by omega)

/-- The callback changes the flags of its requests only. -/
theorem deliverStage_given {pipeline : Pipeline} {image : FpImagePipeline}
    (pending : pipeline.pendingImage = some image) (reply : Reply) :
    deliverStage pipeline reply =
      match reply.verdict with
      | .error error =>
        (.error (error.getD (modelError modelErrorStage
            "enrollment stage callback rejected without an error")),
          { pipeline.given image (reply.granted pipeline.mayFinish) with
            model := (pipeline.given image (reply.granted pipeline.mayFinish)).model.stop })
      | .ok () => (pipeline.given image (reply.granted pipeline.mayFinish)).countStage := by
  have ready : stageReady { pipeline with
      model := { pipeline.model with
        deliveringStage := true, retryCurrentStage := false, finishCurrentStage := false } }
      pipeline.model.observedStageCount reply =
        (reply.verdict, pipeline.asked image (reply.granted pipeline.mayFinish)) := by
    unfold stageReady
    simp only [pending]
    have answered := requests_asked pending reply.requests ⟨false, false⟩
    unfold Reply.granted
    rw [← answered]
    simp only [asked, pending]
  unfold deliverStage
  simp only [ready]
  cases reply.verdict with
  | error error => rfl
  | ok _ => rfl

theorem deliverStage_delivered {pipeline : Pipeline} {image : FpImagePipeline} {reply : Reply}
    (pending : pipeline.pendingImage = some image)
    (accepted : (pipeline.deliverStage reply).1 = .ok ()) :
    Delivered pipeline image reply (pipeline.deliverStage reply).2 := by
  rw [deliverStage_given pending reply] at accepted ⊢
  cases answered : reply.verdict with
  | error error =>
    rw [answered] at accepted
    cases accepted
  | ok _ =>
    rw [answered] at accepted
    exact countStage_delivered answered accepted

theorem deliverStage_bare {pipeline : Pipeline} (bare : pipeline.pendingImage = none)
    (reply : Reply) : ∃ error, (pipeline.deliverStage reply).1 = .error error := by
  unfold deliverStage stageReady
  simp only [bare]
  exact ⟨_, rfl⟩

/-- The pipeline after its pending image has been delivered. -/
def unloaded (pipeline : Pipeline) : Pipeline :=
  { pipeline with
    pendingImage := none
    model := { pipeline.model with stageDeliveryPending := false } }

/-- The enrollment is complete. -/
def finished (pipeline : Pipeline) : Pipeline :=
  { pipeline with
    model := { pipeline.model with complete := true, transition := .terminal, expected := .none } }

/-- The contact that is observed next, with its image. -/
def observed (pipeline : Pipeline) (image : FpImagePipeline) : Pipeline :=
  { pipeline with
    retryCurrentStage := false
    pendingImage := some image
    model := { pipeline.model with
      observedStageCount := pipeline.model.observedStageCount + 1
      audit := { pipeline.model.audit with
        observedPrimaryStageCount := pipeline.model.observedStageCount + 1 }
      transition := pipeline.model.transitionOf (pipeline.model.observedStageCount + 1) } }

/-- The events that change nothing but what is expected next. -/
def passes : Event → Option Event
  | .command_22 => some .ack_22
  | .ack_22 => some .primaryB0
  | .command_34 => some .ack_34
  | .command_36 => some .ack_36
  | .ack_36 => some .irq0100
  | .irq0100 => some .command_20
  | .command_20 => some .ack_20
  | .ack_20 => some .auxiliaryB0
  | .command_32 => some .ack_32
  | .command_50 => some .ack_50
  | .ack_50 => some .nav
  | _ => none

/-- Whether the ACK_34 that ends a contact delivers its pending image. -/
def deliversAtAck (pipeline : Pipeline) : Prop :=
  pipeline.model.stageDeliveryPending = true ∧
    (pipeline.model.transition ≠ .terminal ∨
      pipeline.model.deferTerminalStageDeliveryUntilReleaseReady = true)

/-- An event that is accepted, with its samples, and the pipeline it leaves. -/
inductive Accepts (before : Pipeline) (reply : Reply) :
    Event → Option (List UInt16) → Pipeline → Prop where
  | contact (due : before.model.expected = .irq2) :
      Accepts before reply .irq2 none
        { before with model := { before.model with transition := .none, expected := .command_22 } }
  | passed {event next : Event} (along : passes event = some next)
      (due : before.model.expected = event) : Accepts before reply event none (before.expect next)
  | kept {samples : List UInt16} {image : FpImagePipeline}
      (due : before.model.expected = .primaryB0) (empty : before.pendingImage = none)
      (made : fpImagePipelineNew samples = some image)
      (within : before.model.observedStageCount < before.model.maxPhysicalStageCount)
      (deferred : (before.observed image).model.defers = true) :
      Accepts before reply .primaryB0 (some samples)
        { before.observed image with
          model := { (before.observed image).model with
            stageDeliveryPending := true, expected := .command_34 } }
  | taken {samples : List UInt16} {image : FpImagePipeline} {delivered : Pipeline}
      (due : before.model.expected = .primaryB0) (empty : before.pendingImage = none)
      (made : fpImagePipelineNew samples = some image)
      (within : before.model.observedStageCount < before.model.maxPhysicalStageCount)
      (atOnce : (before.observed image).model.defers = false)
      (delivers : Delivered (before.observed image) image reply delivered) :
      Accepts before reply .primaryB0 (some samples)
        { delivered.expect .command_34 with pendingImage := none }
  | scanned (due : before.model.expected = .ack_34)
      (scans : before.model.transition ≠ .firstNav ∧ before.model.repeatedAfterAuxiliary = false) :
      Accepts before reply .ack_34 none (before.expect .command_36)
  | lifted (due : before.model.expected = .ack_34)
      (ends : before.model.transition = .firstNav ∨ before.model.repeatedAfterAuxiliary = true)
      (keeps : ¬ before.deliversAtAck) :
      Accepts before reply .ack_34 none (before.expect .irq0200)
  | liftedWith {image : FpImagePipeline} {delivered : Pipeline}
      (due : before.model.expected = .ack_34)
      (ends : before.model.transition = .firstNav ∨ before.model.repeatedAfterAuxiliary = true)
      (ready : before.deliversAtAck) (loaded : before.pendingImage = some image)
      (delivers : Delivered (before.expect .irq0200) image reply delivered) :
      Accepts before reply .ack_34 none delivered.unloaded
  | recovered {image : FpImagePipeline} {delivered : Pipeline}
      (due : before.model.expected = .irq0100) (repeated : 2 ≤ before.model.observedStageCount)
      (pending : before.model.stageDeliveryPending = true)
      (unscanned : before.model.repeatedAfterAuxiliary = false)
      (loaded : before.pendingImage = some image) (delivers : Delivered before image reply delivered)
      (more : delivered.model.transition ≠ .terminal) :
      Accepts before reply .zeroMaskRecovery none (delivered.unloaded.expect .command_32)
  | recoveredLast {image : FpImagePipeline} {delivered : Pipeline}
      (due : before.model.expected = .irq0100) (repeated : 2 ≤ before.model.observedStageCount)
      (pending : before.model.stageDeliveryPending = true)
      (unscanned : before.model.repeatedAfterAuxiliary = false)
      (loaded : before.pendingImage = some image) (delivers : Delivered before image reply delivered)
      (last : delivered.model.transition = .terminal) :
      Accepts before reply .zeroMaskRecovery none delivered.unloaded.finished
  | auxiliary (due : before.model.expected = .auxiliaryB0)
      (first : before.model.transition = .firstNav) :
      Accepts before reply .auxiliaryB0 none (before.expect .command_32)
  | auxiliaryScan (due : before.model.expected = .auxiliaryB0)
      (repeated : before.model.transition ≠ .firstNav) :
      Accepts before reply .auxiliaryB0 none
        { before with
          model := { before.model with repeatedAfterAuxiliary := true, expected := .command_34 } }
  | released {next : Event} (due : before.model.expected = .irq0200)
      (more : before.model.transition ≠ .terminal)
      (along : next = if before.model.transition = .firstNav then .command_20 else .command_32) :
      Accepts before reply .irq0200 none
        { before with
          model := { before.model with repeatedAfterAuxiliary := false, expected := next } }
  | releasedLast (due : before.model.expected = .irq0200)
      (last : before.model.transition = .terminal)
      (delivered : before.model.stageDeliveryPending = false) :
      Accepts before reply .irq0200 none
        { before with model := { before.model with repeatedAfterAuxiliary := false } }.finished
  | releasedWith {image : FpImagePipeline} {delivered : Pipeline}
      (due : before.model.expected = .irq0200) (last : before.model.transition = .terminal)
      (pending : before.model.stageDeliveryPending = true)
      (loaded : before.pendingImage = some image)
      (delivers : Delivered
        { before with model := { before.model with repeatedAfterAuxiliary := false } } image
        reply delivered) :
      Accepts before reply .irq0200 none delivered.unloaded.finished
  | rearmed {next : Event} (due : before.model.expected = .ack_32)
      (along : next =
        if before.model.transition = .firstNav ∧ before.model.firstNavSeen = false then .command_50
        else .irq2) :
      Accepts before reply .ack_32 none (before.expect next)
  | navigated (due : before.model.expected = .nav) :
      Accepts before reply .nav none
        { before with model := { before.model with firstNavSeen := true, expected := .command_32 } }

theorem Accepts.due {before after : Pipeline} {reply : Reply} {event : Event} {samples : Option (List UInt16)}
    (accepts : Accepts before reply event samples after) (plain : event ≠ .zeroMaskRecovery) :
    before.model.expected = event := by
  cases accepts <;> first | assumption | exact absurd rfl plain

/-! ## Every accepted event is such a move -/

/-- No image is kept for a contact that was retried, the local classification of an event is
never expected itself, and nothing is expected after the end. -/
structure Tidy (pipeline : Pipeline) : Prop where
  forgotten : pipeline.retryCurrentStage = true → pipeline.pendingImage = none
  named : pipeline.model.expected ≠ .zeroMaskRecovery
  ended : pipeline.model.complete = true → pipeline.model.expected = .none

theorem settle_kept {fed : Pipeline}
    (tidy : fed.retryCurrentStage = true → fed.pendingImage = none) {completedBefore : Nat}
    (same : fed.model.completedStageCount = completedBefore) :
    settle completedBefore (.ok (), fed) = (.ok (), fed) := by
  subst same
  unfold settle
  dsimp only
  by_cases retry : fed.retryCurrentStage = true
  · rw [if_pos (.inl retry), ← tidy retry]
  · rw [if_neg (by simp [retry])]

theorem settle_moved {before fed : Pipeline} (tidy : before.Tidy)
    (flag : fed.retryCurrentStage = before.retryCurrentStage)
    (image : fed.pendingImage = before.pendingImage)
    (count : fed.model.completedStageCount = before.model.completedStageCount) :
    settle before.model.completedStageCount (.ok (), fed) = (.ok (), fed) := by
  refine settle_kept (fun retry => ?_) count
  rw [image]
  exact tidy.forgotten (flag ▸ retry)

theorem Delivered.settles {reply : Reply} {before delivered after : Pipeline} {image : FpImagePipeline}
    (delivers : Delivered before image reply delivered)
    (retry : after.retryCurrentStage = delivered.retryCurrentStage)
    (count : after.model.completedStageCount = delivered.model.completedStageCount) :
    settle before.model.completedStageCount (.ok (), after) =
      (.ok (), { after with pendingImage := none }) := by
  unfold settle
  dsimp only
  cases delivers with
  | retried => exact if_pos (.inl retry)
  | completed =>
    refine if_pos (.inr ?_)
    rw [count]
    exact Nat.lt_succ_self _

theorem deliverPendingStage_cases {pipeline : Pipeline} {reply : Reply}
    (accepted : (pipeline.deliverPendingStage reply).1 = .ok ()) :
    (pipeline.model.stageDeliveryPending = false ∧
        pipeline.deliverPendingStage reply = (.ok (), pipeline)) ∨
      ∃ image delivered, pipeline.model.stageDeliveryPending = true ∧
        pipeline.pendingImage = some image ∧ Delivered pipeline image reply delivered ∧
        pipeline.deliverPendingStage reply =
          (.ok (), { delivered with
            model := { delivered.model with stageDeliveryPending := false } }) := by
  unfold deliverPendingStage at accepted ⊢
  cases pending : pipeline.model.stageDeliveryPending with
  | false => exact .inl ⟨rfl, by simp⟩
  | true =>
    right
    rw [pending] at accepted
    cases loaded : pipeline.pendingImage with
    | none =>
      obtain ⟨error, refused⟩ := deliverStage_bare loaded reply
      rcases result : pipeline.deliverStage reply with ⟨verdict, delivered⟩
      rw [result] at refused accepted
      cases refused
      cases accepted
    | some image =>
      rcases result : pipeline.deliverStage reply with ⟨verdict, delivered⟩
      rw [result] at accepted
      cases verdict with
      | error error => cases accepted
      | ok _ =>
        have succeeds : (pipeline.deliverStage reply).1 = .ok () := by rw [result]
        have delivers := deliverStage_delivered loaded succeeds
        rw [result] at delivers
        exact ⟨image, delivered, rfl, rfl, delivers, by simp⟩

theorem settle_ok {completedBefore : Nat} {result : Except GError Unit × Pipeline}
    (accepted : (settle completedBefore result).1 = .ok ()) : result.1 = .ok () := by
  obtain ⟨verdict, fed⟩ := result
  cases verdict with
  | error error => cases accepted
  | ok _ => rfl

/-- What is fed must be due: the model takes nothing else. -/
theorem modelFeed_ok {pipeline : Pipeline} {event : Event} {reply : Reply}
    (accepted : (pipeline.modelFeed event reply).1 = .ok ()) :
    pipeline.model.complete = false ∧ pipeline.model.failed = false ∧
      pipeline.model.takes event = true ∧
      pipeline.modelFeed event reply = pipeline.advance event reply := by
  unfold modelFeed at accepted ⊢
  by_cases terminal : pipeline.model.complete ∨ pipeline.model.failed
  · rw [if_pos terminal] at accepted
    cases accepted
  · by_cases takes : pipeline.model.takes event = false
    · rw [if_neg terminal, if_pos takes] at accepted
      cases accepted
    · rw [if_neg terminal, if_neg takes]
      simp only [not_or, Bool.not_eq_true] at terminal takes
      exact ⟨terminal.1, terminal.2, by simpa using takes, rfl⟩

theorem takes_due {model : Model} {event : Event} (takes : model.takes event = true)
    (plain : event ≠ .zeroMaskRecovery) : model.expected = event := by
  simp only [Model.takes, plain, false_and, or_false, decide_eq_true_eq] at takes
  exact takes.symm

/-- The pipeline whose next image has been made. -/
def loaded (pipeline : Pipeline) (image : FpImagePipeline) : Pipeline :=
  { pipeline with retryCurrentStage := false, pendingImage := some image }

theorem observePrimary_within {pipeline : Pipeline} (image : FpImagePipeline) (reply : Reply)
    (within : pipeline.model.observedStageCount < pipeline.model.maxPhysicalStageCount) :
    (pipeline.loaded image).observePrimary reply =
      if (pipeline.observed image).model.defers then
        (.ok (), { pipeline.observed image with
          model := { (pipeline.observed image).model with
            stageDeliveryPending := true, expected := .command_34 } })
      else
        match (pipeline.observed image).deliverStage reply with
        | (.error error, delivered) => (.error error, delivered)
        | (.ok (), delivered) => (.ok (), delivered.expect .command_34) := by
  unfold observePrimary
  exact if_neg (by simpa [loaded] using within)

theorem observePrimary_accepts {pipeline : Pipeline} {samples : List UInt16}
    {image : FpImagePipeline} {reply : Reply} (due : pipeline.model.expected = .primaryB0)
    (empty : pipeline.pendingImage = none) (made : fpImagePipelineNew samples = some image)
    (accepted : ((pipeline.loaded image).observePrimary reply).1 = .ok ()) :
    ∃ after, settle pipeline.model.completedStageCount
        ((pipeline.loaded image).observePrimary reply) = (.ok (), after) ∧
      Accepts pipeline reply .primaryB0 (some samples) after := by
  by_cases bound : pipeline.model.observedStageCount ≥ pipeline.model.maxPhysicalStageCount
  · simp [observePrimary, loaded, bound, modelFail] at accepted
  · have within : pipeline.model.observedStageCount < pipeline.model.maxPhysicalStageCount := by
      omega
    rw [observePrimary_within image reply within] at accepted ⊢
    cases deferred : (pipeline.observed image).model.defers with
    | true =>
      refine ⟨_, ?_, .kept due empty made within deferred⟩
      exact settle_kept (by simp [observed]) rfl
    | false =>
      rw [deferred] at accepted
      dsimp only [Bool.false_eq_true, if_false] at accepted
      rw [if_neg Bool.false_ne_true] at accepted ⊢
      rcases result : (pipeline.observed image).deliverStage reply with ⟨verdict, delivered⟩
      rw [result] at accepted
      cases verdict with
      | error error => cases accepted
      | ok _ =>
        have loaded : (pipeline.observed image).pendingImage = some image := rfl
        have succeeds : ((pipeline.observed image).deliverStage reply).1 = .ok () := by rw [result]
        have delivers := deliverStage_delivered loaded succeeds
        rw [result] at delivers
        exact ⟨_, delivers.settles rfl rfl, .taken due empty made within deferred delivers⟩

theorem ackFingerUp_accepts {pipeline : Pipeline} {reply : Reply} (tidy : pipeline.Tidy)
    (due : pipeline.model.expected = .ack_34)
    (accepted : (pipeline.ackFingerUp reply).1 = .ok ()) :
    ∃ after, settle pipeline.model.completedStageCount (pipeline.ackFingerUp reply) =
        (.ok (), after) ∧ Accepts pipeline reply .ack_34 none after := by
  unfold ackFingerUp at accepted ⊢
  dsimp only at accepted ⊢
  by_cases ends : pipeline.model.transition = .firstNav ∨ pipeline.model.repeatedAfterAuxiliary
  · rw [if_pos ends] at accepted ⊢
    by_cases ready : pipeline.model.transition ≠ .terminal ∨
        pipeline.model.deferTerminalStageDeliveryUntilReleaseReady
    · rw [if_pos ready] at accepted ⊢
      rcases deliverPendingStage_cases accepted with
        ⟨none_pending, kept⟩ | ⟨image, delivered, pending, loaded, delivers, result⟩
      · rw [kept]
        refine ⟨_, settle_moved tidy rfl rfl rfl, .lifted due ends fun delivers => ?_⟩
        have contradiction := delivers.1.symm.trans none_pending
        cases contradiction
      · rw [result]
        exact ⟨_, delivers.settles rfl rfl, .liftedWith due ends ⟨pending, ready⟩ loaded delivers⟩
    · rw [if_neg ready] at accepted ⊢
      exact ⟨_, settle_moved tidy rfl rfl rfl, .lifted due ends fun delivers => ready delivers.2⟩
  · rw [if_neg ends] at accepted ⊢
    simp only [not_or, Bool.not_eq_true] at ends
    exact ⟨_, settle_moved tidy rfl rfl rfl, .scanned due ends⟩

theorem recoverZeroMask_accepts {pipeline : Pipeline} {reply : Reply}
    (due : pipeline.model.expected = .irq0100)
    (accepted : (pipeline.recoverZeroMask reply).1 = .ok ()) :
    ∃ after, settle pipeline.model.completedStageCount (pipeline.recoverZeroMask reply) =
        (.ok (), after) ∧ Accepts pipeline reply .zeroMaskRecovery none after := by
  unfold recoverZeroMask at accepted ⊢
  dsimp only at accepted ⊢
  by_cases refused : pipeline.model.observedStageCount < 2 ∨
      pipeline.model.stageDeliveryPending = false ∨ pipeline.model.repeatedAfterAuxiliary
  · rw [if_pos refused] at accepted
    cases accepted
  · rw [if_neg refused] at accepted ⊢
    simp only [not_or, Bool.not_eq_true, Bool.not_eq_false, Nat.not_lt] at refused
    obtain ⟨repeated, pending, unscanned⟩ := refused
    have accepts : (pipeline.deliverPendingStage reply).1 = .ok () := by
      rcases result : pipeline.deliverPendingStage reply with ⟨verdict, delivered⟩
      rw [result] at accepted
      cases verdict with
      | error error => cases accepted
      | ok _ => rfl
    rcases deliverPendingStage_cases accepts with
      ⟨none_pending, _⟩ | ⟨image, delivered, _, loaded, delivers, result⟩
    · rw [none_pending] at pending
      cases pending
    · rw [result]
      dsimp only
      by_cases last : delivered.model.transition = .terminal
      · rw [if_pos last]
        have done : finish { delivered with
            model := { delivered.model with stageDeliveryPending := false } } reply =
            (.ok (), finished { delivered with
              model := { delivered.model with stageDeliveryPending := false } }) := by
          simp [finish, deliverPendingStage, finished]
        rw [done]
        exact ⟨_, delivers.settles rfl rfl,
          .recoveredLast due repeated pending unscanned loaded delivers last⟩
      · rw [if_neg last]
        exact ⟨_, delivers.settles rfl rfl,
          .recovered due repeated pending unscanned loaded delivers last⟩

theorem release_more {pipeline : Pipeline} (reply : Reply)
    (more : pipeline.model.transition ≠ .terminal) :
    pipeline.release reply =
      (.ok (), { pipeline with
        model := { pipeline.model with
          repeatedAfterAuxiliary := false
          expected :=
            if pipeline.model.transition = .firstNav then .command_20 else .command_32 } }) := by
  unfold release
  dsimp only
  split
  · rename_i first
    rw [first]
    rfl
  · rename_i last
    exact absurd last more
  · rename_i notFirst _
    rw [if_neg notFirst]
    rfl

theorem release_last {pipeline : Pipeline} (reply : Reply)
    (last : pipeline.model.transition = .terminal) :
    pipeline.release reply =
      finish { pipeline with model := { pipeline.model with repeatedAfterAuxiliary := false } }
        reply := by
  unfold release
  dsimp only
  split <;> simp_all

theorem finish_ok {pipeline : Pipeline} {reply : Reply}
    (accepted : (pipeline.finish reply).1 = .ok ()) :
    (pipeline.deliverPendingStage reply).1 = .ok () ∧
      pipeline.finish reply = (.ok (), (pipeline.deliverPendingStage reply).2.finished) := by
  unfold finish at accepted ⊢
  rcases result : pipeline.deliverPendingStage reply with ⟨verdict, delivered⟩
  rw [result] at accepted
  cases verdict with
  | error error => cases accepted
  | ok _ => exact ⟨rfl, rfl⟩

theorem release_accepts {pipeline : Pipeline} {reply : Reply} (tidy : pipeline.Tidy)
    (due : pipeline.model.expected = .irq0200)
    (accepted : (pipeline.release reply).1 = .ok ()) :
    ∃ after, settle pipeline.model.completedStageCount (pipeline.release reply) = (.ok (), after) ∧
      Accepts pipeline reply .irq0200 none after := by
  by_cases last : pipeline.model.transition = .terminal
  · rw [release_last reply last] at accepted ⊢
    obtain ⟨accepts, done⟩ := finish_ok accepted
    rw [done]
    rcases deliverPendingStage_cases accepts with
      ⟨none_pending, result⟩ | ⟨image, delivered, pending, loaded, delivers, result⟩
    · rw [result]
      exact ⟨_, settle_moved tidy rfl rfl rfl, .releasedLast due last none_pending⟩
    · rw [result]
      exact ⟨_, delivers.settles rfl rfl, .releasedWith due last pending loaded delivers⟩
  · rw [release_more reply last]
    exact ⟨_, settle_moved tidy rfl rfl rfl, .released due last rfl⟩

/-- An event without samples that is accepted. -/
theorem advance_accepts {pipeline : Pipeline} {event : Event} {reply : Reply}
    (tidy : pipeline.Tidy) (takes : pipeline.model.takes event = true)
    (bare : event ≠ .primaryB0) (accepted : (pipeline.advance event reply).1 = .ok ()) :
    ∃ after, settle pipeline.model.completedStageCount (pipeline.advance event reply) =
        (.ok (), after) ∧ Accepts pipeline reply event none after := by
  by_cases zero : event = .zeroMaskRecovery
  · subst zero
    have due : pipeline.model.expected = .irq0100 := by
      simpa [Model.takes, tidy.named.symm] using takes
    exact recoverZeroMask_accepts due accepted
  · have due := takes_due takes zero
    by_cases plain : ∃ next, passes event = some next
    · obtain ⟨next, along⟩ := plain
      have moves : pipeline.advance event reply = (.ok (), pipeline.expect next) := by
        cases event <;> cases along <;> rfl
      rw [moves]
      exact ⟨_, settle_moved tidy rfl rfl rfl, .passed along due⟩
    · cases event with
      | irq2 => exact ⟨_, settle_moved tidy rfl rfl rfl, .contact due⟩
      | ack_34 => exact ackFingerUp_accepts tidy due accepted
      | irq0200 => exact release_accepts tidy due accepted
      | auxiliaryB0 =>
        unfold advance
        dsimp only
        by_cases first : pipeline.model.transition = .firstNav
        · rw [if_pos first]
          exact ⟨_, settle_moved tidy rfl rfl rfl, .auxiliary due first⟩
        · rw [if_neg first]
          exact ⟨_, settle_moved tidy rfl rfl rfl, .auxiliaryScan due first⟩
      | ack_32 =>
        unfold advance
        dsimp only
        by_cases first : pipeline.model.transition = .firstNav ∧
            pipeline.model.firstNavSeen = false
        · rw [if_pos first]
          exact ⟨_, settle_moved tidy rfl rfl rfl, .rearmed due (if_pos first).symm⟩
        · rw [if_neg first]
          exact ⟨_, settle_moved tidy rfl rfl rfl, .rearmed due (if_neg first).symm⟩
      | nav => exact ⟨_, settle_moved tidy rfl rfl rfl, .navigated due⟩
      | primaryB0 => exact absurd rfl bare
      | zeroMaskRecovery => exact absurd rfl zero
      | none => cases accepted
      | _ => exact absurd ⟨_, rfl⟩ plain

theorem Tidy.moved {before after : Pipeline} (tidy : before.Tidy)
    (flag : after.retryCurrentStage = before.retryCurrentStage)
    (image : after.pendingImage = before.pendingImage)
    (named : after.model.expected ≠ .zeroMaskRecovery) (more : after.model.complete = false) :
    after.Tidy where
  forgotten := by
    rw [flag, image]
    exact tidy.forgotten
  named := named
  ended := by simp [more]

theorem tidy_emptied {pipeline : Pipeline} (empty : pipeline.pendingImage = none)
    (named : pipeline.model.expected ≠ .zeroMaskRecovery)
    (ended : pipeline.model.complete = true → pipeline.model.expected = .none) : pipeline.Tidy :=
  ⟨fun _ => empty, named, ended⟩

theorem Delivered.complete {reply : Reply} {before delivered : Pipeline} {image : FpImagePipeline}
    (delivers : Delivered before image reply delivered) :
    delivered.model.complete = before.model.complete := by
  cases delivers <;> rfl

theorem Delivered.expected {reply : Reply} {before delivered : Pipeline} {image : FpImagePipeline}
    (delivers : Delivered before image reply delivered) :
    delivered.model.expected = before.model.expected := by
  cases delivers <;> rfl

theorem Accepts.tidy {before after : Pipeline} {reply : Reply} {event : Event} {samples : Option (List UInt16)}
    (accepts : Accepts before reply event samples after) (tidy : before.Tidy)
    (more : before.model.complete = false) : after.Tidy := by
  cases accepts with
  | contact => exact tidy.moved rfl rfl (by simp) more
  | passed along =>
    refine tidy.moved rfl rfl ?_ more
    cases event <;> cases along <;> simp [expect, Model.expect]
  | kept => exact ⟨by simp [observed], by simp, by simp [observed, more]⟩
  | taken _ _ _ _ _ delivers =>
    have running := delivers.complete.trans more
    exact tidy_emptied rfl (by simp [expect, Model.expect]) (by simp [expect, Model.expect, running])
  | scanned => exact tidy.moved rfl rfl (by simp [expect, Model.expect]) more
  | lifted => exact tidy.moved rfl rfl (by simp [expect, Model.expect]) more
  | liftedWith _ _ _ _ delivers =>
    have running := delivers.complete.trans more
    refine tidy_emptied rfl ?_ (by simp [unloaded, running])
    show _ ≠ _
    simp [unloaded, delivers.expected, expect, Model.expect]
  | recovered _ _ _ _ _ delivers =>
    have running := delivers.complete.trans more
    exact tidy_emptied rfl (by simp [expect, Model.expect])
      (by simp [expect, Model.expect, unloaded, running])
  | recoveredLast => exact tidy_emptied rfl (by simp [finished]) fun _ => rfl
  | auxiliary => exact tidy.moved rfl rfl (by simp [expect, Model.expect]) more
  | auxiliaryScan => exact tidy.moved rfl rfl (by simp) more
  | released _ _ along =>
    refine tidy.moved rfl rfl ?_ more
    subst along
    dsimp only
    split <;> simp
  | releasedLast _ _ _ =>
    exact ⟨tidy.forgotten, by simp [finished], fun _ => rfl⟩
  | releasedWith => exact tidy_emptied rfl (by simp [finished]) fun _ => rfl
  | rearmed _ along =>
    refine tidy.moved rfl rfl ?_ more
    subst along
    simp only [expect, Model.expect]
    split <;> simp
  | navigated => exact tidy.moved rfl rfl (by simp) more

/-- What an accepted event means for the image callback: it is not called, or it has been given
one image more and its reply decides about the contact. -/
inductive Serves (before : Pipeline) (reply : Reply) (after : Pipeline) : Prop where
  | nothing (same : after.handed = before.handed)
      (count : after.model.completedStageCount = before.model.completedStageCount)
  | delivery {image : Nat × FpImagePipeline} {delivered : Granted}
      (handed : after.handed = before.handed ++ [image]) (accepted : reply.verdict = .ok ())
      (granted : reply.granted before.mayFinish = delivered)
      (count : after.model.completedStageCount =
        before.model.completedStageCount + if delivered.retry then 0 else 1)

theorem Delivered.serves {reply : Reply} {before delivered after : Pipeline}
    {image : FpImagePipeline} (delivers : Delivered before image reply delivered)
    {first : Pipeline} (handed : before.handed = first.handed)
    (count : before.model.completedStageCount = first.model.completedStageCount)
    (required : before.model.requiredStageCount = first.model.requiredStageCount)
    (later : after.handed = delivered.handed)
    (counted : after.model.completedStageCount = delivered.model.completedStageCount) :
    Serves first reply after := by
  have may : before.mayFinish = first.mayFinish := by simp [mayFinish, count, required]
  have given : ∀ granted, (before.given image granted).handed =
      first.handed ++ [(before.model.observedStageCount, image)] := by
    intro granted
    rw [← handed]
    rfl
  cases delivers with
  | retried accepted granted =>
    rw [may] at granted
    exact .delivery (later.trans (given ⟨true, false⟩)) accepted granted (counted.trans count)
  | @completed finish accepted granted =>
    rw [may] at granted
    exact .delivery (later.trans (given ⟨false, finish⟩)) accepted granted
      (counted.trans (congrArg (· + 1) count))

theorem Accepts.serves {before after : Pipeline} {reply : Reply} {event : Event}
    {samples : Option (List UInt16)} (accepts : Accepts before reply event samples after) :
    Serves before reply after := by
  cases accepts with
  | taken _ _ _ _ _ delivers => exact delivers.serves rfl rfl rfl rfl rfl
  | liftedWith _ _ _ _ delivers => exact delivers.serves rfl rfl rfl rfl rfl
  | recovered _ _ _ _ _ delivers => exact delivers.serves rfl rfl rfl rfl rfl
  | recoveredLast _ _ _ _ _ delivers => exact delivers.serves rfl rfl rfl rfl rfl
  | releasedWith _ _ _ _ delivers => exact delivers.serves rfl rfl rfl rfl rfl
  | _ => exact .nothing rfl rfl

/-- What is fed to the model: a primary with its image, or an event without samples. -/
inductive Feeds (pipeline : Pipeline) (reply : Reply) :
    Event → Option (List UInt16) → Except GError Unit × Pipeline → Prop where
  | primary {samples : List UInt16} {image : FpImagePipeline}
      (empty : pipeline.pendingImage = none) (made : fpImagePipelineNew samples = some image) :
      Feeds pipeline reply .primaryB0 (some samples)
        ((pipeline.loaded image).modelFeed .primaryB0 reply)
  | bare {event : Event} (bare : event ≠ .primaryB0) :
      Feeds pipeline reply event none (pipeline.modelFeed event reply)

theorem feed_feeds {pipeline : Pipeline} {event : Event} {samples : Option (List UInt16)}
    {reply : Reply} (accepted : (pipeline.feed event samples reply).1 = .ok ()) :
    pipeline.failed = false ∧ ∃ fed, Feeds pipeline reply event samples fed ∧
      pipeline.feed event samples reply = settle pipeline.model.completedStageCount fed := by
  unfold feed at accepted ⊢
  dsimp only at accepted ⊢
  by_cases terminal : pipeline.failed ∨ pipeline.model.complete
  · rw [if_pos terminal] at accepted
    cases accepted
  rw [if_neg terminal] at accepted ⊢
  simp only [not_or, Bool.not_eq_true] at terminal
  refine ⟨terminal.1, ?_⟩
  by_cases undue : pipeline.model.takes event = false
  · rw [if_pos undue] at accepted
    simp only [modelFeed, undue, modelFail] at accepted
    split at accepted <;> cases accepted
  rw [if_neg undue] at accepted ⊢
  by_cases primary : event = .primaryB0
  · subst primary
    rw [if_pos rfl] at accepted ⊢
    cases samples with
    | none => cases accepted
    | some raster =>
      dsimp only at accepted ⊢
      by_cases short : raster.length ≠ canonicalImageSampleCount
      · rw [if_pos short] at accepted
        cases accepted
      rw [if_neg short] at accepted ⊢
      cases empty : pipeline.pendingImage with
      | some image =>
        rw [empty] at accepted
        cases accepted
      | none =>
        cases made : fpImagePipelineNew raster with
        | none =>
          rw [empty, made] at accepted
          cases accepted
        | some image => exact ⟨_, .primary empty made, rfl⟩
  · rw [if_neg primary] at accepted ⊢
    by_cases raster : samples.isSome
    · rw [if_pos raster] at accepted
      cases accepted
    obtain rfl : samples = none := by simpa using raster
    exact ⟨_, .bare primary, rfl⟩

theorem feed_running {pipeline : Pipeline} {event : Event} {samples : Option (List UInt16)}
    {reply : Reply} (accepted : (pipeline.feed event samples reply).1 = .ok ()) :
    pipeline.isFailed = false ∧ pipeline.model.complete = false := by
  obtain ⟨running, fed, feeds, result⟩ := feed_feeds accepted
  rw [result] at accepted
  have accepts := settle_ok accepted
  cases feeds with
  | primary =>
    have fed := modelFeed_ok accepts
    exact ⟨by simpa [isFailed, running, loaded] using fed.2.1, fed.1⟩
  | bare =>
    have fed := modelFeed_ok accepts
    exact ⟨by simpa [isFailed, running] using fed.2.1, fed.1⟩

/-- Feeding an event that is accepted. -/
theorem feed_accepts {pipeline : Pipeline} {event : Event} {samples : Option (List UInt16)}
    {reply : Reply} (tidy : pipeline.Tidy)
    (accepted : (pipeline.feed event samples reply).1 = .ok ()) :
    Accepts pipeline reply event samples (pipeline.feed event samples reply).2 := by
  obtain ⟨running, fed, feeds, result⟩ := feed_feeds accepted
  rw [result] at accepted ⊢
  have accepts := settle_ok accepted
  cases feeds with
  | @primary raster image empty made =>
    obtain ⟨_, _, takes, advances⟩ := modelFeed_ok accepts
    rw [advances] at accepts ⊢
    have due : pipeline.model.expected = .primaryB0 := takes_due takes (by simp)
    obtain ⟨after, settled, moves⟩ := observePrimary_accepts due empty made accepts
    change Accepts _ _ _ _ (settle pipeline.model.completedStageCount
      ((pipeline.loaded image).observePrimary reply)).2
    rw [settled]
    exact moves
  | bare bare =>
    obtain ⟨_, _, takes, advances⟩ := modelFeed_ok accepts
    rw [advances] at accepts ⊢
    obtain ⟨after, settled, moves⟩ := advance_accepts tidy takes bare accepts
    rw [settled]
    exact moves

/-- An event that is refused fails the pipeline, unless it came after the end. -/
theorem feed_refused {pipeline : Pipeline} {event : Event} {samples : Option (List UInt16)}
    {reply : Reply} {error : GError}
    (refused : (pipeline.feed event samples reply).1 = .error error) :
    (pipeline.feed event samples reply).2.isFailed = true ∨
      (pipeline.feed event samples reply).2 = pipeline ∧ pipeline.model.complete = true := by
  have settled : ∀ completedBefore (result : Except GError Unit × Pipeline),
      (settle completedBefore result).1 = .error error →
        (settle completedBefore result).2.failed = true := by
    rintro completedBefore ⟨verdict, fed⟩ failed
    cases verdict with
    | error _ => rfl
    | ok _ =>
      unfold settle at failed
      dsimp only at failed
      split at failed <;> cases failed
  unfold feed at refused ⊢
  dsimp only at refused ⊢
  by_cases terminal : pipeline.failed ∨ pipeline.model.complete
  · rw [if_pos terminal]
    cases terminal with
    | inl failed => exact .inl (by simp [isFailed, failed])
    | inr complete => exact .inr ⟨rfl, complete⟩
  rw [if_neg terminal] at refused ⊢
  left
  by_cases undue : pipeline.model.takes event = false
  · rw [if_pos undue]
    simp [isFailed]
  rw [if_neg undue] at refused ⊢
  by_cases primary : event = .primaryB0
  · rw [if_pos primary] at refused ⊢
    cases samples with
    | none => simp [fail, isFailed]
    | some raster =>
      dsimp only at refused ⊢
      by_cases short : raster.length ≠ canonicalImageSampleCount
      · rw [if_pos short]
        simp [fail, isFailed]
      rw [if_neg short] at refused ⊢
      cases empty : pipeline.pendingImage with
      | some image => simp [fail, isFailed]
      | none =>
        rw [empty] at refused
        cases made : fpImagePipelineNew raster with
        | none => simp [fail, isFailed]
        | some image =>
          rw [made] at refused
          simp [isFailed, settled _ _ refused]
  · rw [if_neg primary] at refused ⊢
    by_cases raster : samples.isSome
    · rw [if_pos raster]
      simp [fail, isFailed]
    rw [if_neg raster] at refused ⊢
    simp [isFailed, settled _ _ refused]

end Pipeline

end Goodix.Enrollment
