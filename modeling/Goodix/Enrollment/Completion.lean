import Goodix.Enrollment.Delivery
import Goodix.Library.Traces

/-! # When a complete enrollment has all its stages

The last contact that the physical bound allows ends the enrollment, however many contacts
before it were retried.  What the model promises about its count of stages depends on how that
contact is answered, and on nobody accepting more stages than the template has.
-/

namespace Goodix.Enrollment

open Machines Traces ImageDecoder

namespace Pipeline

/-! ## When the callback is called -/

/-- Whether an event that is due makes the model call its stage callback. -/
def calls (pipeline : Pipeline) : Event → Bool
  | .primaryB0 =>
    let model := pipeline.model
    let observed := model.observedStageCount + 1
    observed ≤ model.maxPhysicalStageCount ∧
      ¬ { model with observedStageCount := observed, transition := model.transitionOf observed }.defers
  | .ack_34 =>
    (pipeline.model.transition = .firstNav ∨ pipeline.model.repeatedAfterAuxiliary) ∧
      pipeline.model.stageDeliveryPending ∧
      (pipeline.model.transition ≠ .terminal ∨
        pipeline.model.deferTerminalStageDeliveryUntilReleaseReady)
  | .irq0200 => pipeline.model.transition = .terminal ∧ pipeline.model.stageDeliveryPending
  | .zeroMaskRecovery =>
    2 ≤ pipeline.model.observedStageCount ∧ pipeline.model.stageDeliveryPending ∧
      ¬ pipeline.model.repeatedAfterAuxiliary
  | _ => false

/-- The contact whose image the callback is given. -/
def contact (pipeline : Pipeline) (event : Event) : Nat :=
  pipeline.model.observedStageCount + if event = .primaryB0 then 1 else 0

/-- The callback accepts an ordinary stage only while the template lacks one, and at the last
contact only when the template lacks just this one. -/
def Adequate (pipeline : Pipeline) (fed : Feed) : Prop :=
  pipeline.calls fed.event = true → fed.reply.verdict = .ok () →
    fed.reply.granted pipeline.mayFinish = ⟨false, false⟩ →
    pipeline.model.completedStageCount < pipeline.model.requiredStageCount ∧
      (pipeline.contact fed.event = pipeline.model.maxPhysicalStageCount →
        pipeline.model.completedStageCount + 1 = pipeline.model.requiredStageCount)

instance (pipeline : Pipeline) (fed : Feed) : Decidable (pipeline.Adequate fed) :=
  inferInstanceAs (Decidable (_ → _ → _ → _))

/-! ## What an event does to the count -/

/-- A reply that accepts its stage. -/
def Keeps (pipeline : Pipeline) (reply : Reply) : Prop :=
  reply.verdict = .ok () ∧ (reply.granted pipeline.mayFinish).retry = false

/-- A delivery, whether it succeeds or not. -/
structure Served (before : Pipeline) (reply : Reply) (after : Pipeline) : Prop where
  required : after.model.requiredStageCount = before.model.requiredStageCount
  complete : after.model.complete = before.model.complete
  count : after.model.completedStageCount = before.model.completedStageCount ∨
    before.Keeps reply ∧
      after.model.completedStageCount = before.model.completedStageCount + 1

theorem countStage_served (pipeline : Pipeline) (image : FpImagePipeline) {reply : Reply}
    (accepted : reply.verdict = .ok ()) :
    pipeline.Served reply
      (pipeline.given image (reply.granted pipeline.mayFinish)).countStage.2 := by
  cases retry : (reply.granted pipeline.mayFinish).retry with
  | true =>
    by_cases bound : pipeline.model.observedStageCount ≥ pipeline.model.maxPhysicalStageCount
    · exact ⟨by simp [countStage, given, retry, bound, Model.stop],
        by simp [countStage, given, retry, bound, Model.stop],
        .inl (by simp [countStage, given, retry, bound, Model.stop])⟩
    · exact ⟨by simp [countStage, given, retry, bound], by simp [countStage, given, retry, bound],
        .inl (by simp [countStage, given, retry, bound])⟩
  | false =>
    by_cases bound : pipeline.model.completedStageCount + 1 > pipeline.model.requiredStageCount
    · exact ⟨by simp [countStage, given, retry, bound, Model.stop],
        by simp [countStage, given, retry, bound, Model.stop],
        .inr ⟨⟨accepted, retry⟩, by simp [countStage, given, retry, bound, Model.stop]⟩⟩
    · exact ⟨by simp [countStage, given, retry, bound], by simp [countStage, given, retry, bound],
        .inr ⟨⟨accepted, retry⟩, by simp [countStage, given, retry, bound]⟩⟩

theorem deliverStage_served (pipeline : Pipeline) (reply : Reply) :
    pipeline.Served reply (pipeline.deliverStage reply).2 := by
  cases loaded : pipeline.pendingImage with
  | none =>
    unfold deliverStage stageReady
    simp only [loaded]
    exact ⟨rfl, rfl, .inl rfl⟩
  | some image =>
    rw [deliverStage_given loaded reply]
    cases accepted : reply.verdict with
    | error error => exact ⟨rfl, rfl, .inl rfl⟩
    | ok _ => exact pipeline.countStage_served image accepted

theorem Served.refl (pipeline : Pipeline) (reply : Reply) : pipeline.Served reply pipeline :=
  ⟨rfl, rfl, .inl rfl⟩

/-- Other fields do not matter. -/
theorem Served.of_eq {before first after last : Pipeline} {reply : Reply}
    (served : first.Served reply after)
    (required : before.model.requiredStageCount = first.model.requiredStageCount)
    (complete : before.model.complete = first.model.complete)
    (count : before.model.completedStageCount = first.model.completedStageCount)
    (later : last.model.requiredStageCount = after.model.requiredStageCount)
    (ended : last.model.complete = after.model.complete)
    (counted : last.model.completedStageCount = after.model.completedStageCount) :
    before.Served reply last := by
  have keeps : first.Keeps reply → before.Keeps reply := by
    simp only [Keeps, mayFinish, required, count]
    exact id
  refine ⟨?_, ?_, ?_⟩
  · rw [later, served.required, required]
  · rw [ended, served.complete, complete]
  · rw [counted, count]
    exact served.count.imp_right (And.imp_left keeps)

theorem deliverPendingStage_served (pipeline : Pipeline) (reply : Reply) :
    pipeline.Served reply (pipeline.deliverPendingStage reply).2 ∧
      (pipeline.model.stageDeliveryPending = false →
        (pipeline.deliverPendingStage reply).2 = pipeline) := by
  unfold deliverPendingStage
  cases pipeline.model.stageDeliveryPending with
  | false => exact ⟨.refl _ _, fun _ => rfl⟩
  | true =>
    have served := pipeline.deliverStage_served reply
    refine ⟨?_, nofun⟩
    rcases delivery : pipeline.deliverStage reply with ⟨verdict, delivered⟩
    rw [delivery] at served
    cases verdict with
    | error error => simpa using served
    | ok _ => exact served.of_eq rfl rfl rfl rfl rfl rfl

/-- What feeding an event has done when it is over. -/
structure Steps (before : Pipeline) (event : Event) (reply : Reply)
    (result : Except GError Unit × Pipeline) : Prop where
  required : result.2.model.requiredStageCount = before.model.requiredStageCount
  count : result.2.model.completedStageCount = before.model.completedStageCount ∨
    before.calls event = true ∧ before.Keeps reply ∧
      result.2.model.completedStageCount = before.model.completedStageCount + 1
  /-- An event that is refused completes nothing. -/
  refused : ∀ error, result.1 = .error error → result.2.model.complete = before.model.complete

theorem Served.steps {before : Pipeline} {event : Event} {reply : Reply}
    {result : Except GError Unit × Pipeline} (served : before.Served reply result.2)
    (called : result.2.model.completedStageCount ≠ before.model.completedStageCount →
      before.calls event = true) : Steps before event reply result := by
  refine ⟨served.required, ?_, fun _ _ => served.complete⟩
  by_cases same : result.2.model.completedStageCount = before.model.completedStageCount
  · exact .inl same
  · obtain ⟨keeps, more⟩ := served.count.resolve_left same
    exact .inr ⟨called same, keeps, more⟩

theorem steps_quiet {before : Pipeline} {event : Event} {reply : Reply}
    {result : Except GError Unit × Pipeline}
    (required : result.2.model.requiredStageCount = before.model.requiredStageCount)
    (complete : result.2.model.complete = before.model.complete)
    (count : result.2.model.completedStageCount = before.model.completedStageCount) :
    Steps before event reply result := ⟨required, .inl count, fun _ _ => complete⟩

theorem modelFail_steps (pipeline : Pipeline) (event observed : Event) (reply : Reply) (code : Nat) :
    Steps pipeline event reply (pipeline.modelFail code observed) := steps_quiet rfl rfl rfl

theorem finish_steps {before : Pipeline} {event : Event} {reply : Reply} {pipeline : Pipeline}
    (required : before.model.requiredStageCount = pipeline.model.requiredStageCount)
    (complete : before.model.complete = pipeline.model.complete)
    (count : before.model.completedStageCount = pipeline.model.completedStageCount)
    (called : pipeline.model.stageDeliveryPending = true → before.calls event = true) :
    Steps before event reply (pipeline.finish reply) := by
  obtain ⟨served, unchanged⟩ := pipeline.deliverPendingStage_served reply
  have moved := served.of_eq required complete count rfl rfl rfl
  unfold finish
  rcases delivery : pipeline.deliverPendingStage reply with ⟨verdict, delivered⟩
  rw [delivery] at moved unchanged
  have called : delivered.model.completedStageCount ≠ before.model.completedStageCount →
      before.calls event = true := by
    intro changed
    refine called ?_
    by_contra none
    have same : delivered = pipeline := unchanged (by simpa using none)
    rw [same] at changed
    exact changed count.symm
  have steps := @Served.steps before event reply (verdict, delivered) moved called
  cases verdict with
  | error error => exact steps
  | ok _ => exact ⟨steps.required, steps.count, nofun⟩

theorem observePrimary_steps (pipeline : Pipeline) (reply : Reply) :
    Steps pipeline .primaryB0 reply (pipeline.observePrimary reply) := by
  unfold observePrimary
  dsimp only
  split
  · exact pipeline.modelFail_steps _ _ _ _
  · rename_i within
    split
    · exact steps_quiet rfl rfl rfl
    · rename_i atOnce
      have served := deliverStage_served { pipeline with
        model := { pipeline.model with
          observedStageCount := pipeline.model.observedStageCount + 1
          audit := { pipeline.model.audit with
            observedPrimaryStageCount := pipeline.model.observedStageCount + 1 }
          transition := pipeline.model.transitionOf (pipeline.model.observedStageCount + 1) } } reply
      have called : pipeline.calls .primaryB0 = true := by
        have room : pipeline.model.observedStageCount + 1 ≤ pipeline.model.maxPhysicalStageCount := by
          omega
        simp only [calls, room, true_and, decide_eq_true_eq]
        simpa [Model.defers] using atOnce
      generalize deliverStage _ reply = delivery at served ⊢
      rcases delivery with ⟨verdict, delivered⟩
      cases verdict with
      | error error =>
        refine @Served.steps pipeline .primaryB0 reply _ ?_ fun _ => called
        exact served.of_eq rfl rfl rfl rfl rfl rfl
      | ok _ =>
        refine @Served.steps pipeline .primaryB0 reply _ ?_ fun _ => called
        exact served.of_eq rfl rfl rfl rfl rfl rfl

theorem ackFingerUp_steps (pipeline : Pipeline) (reply : Reply) :
    Steps pipeline .ack_34 reply (pipeline.ackFingerUp reply) := by
  unfold ackFingerUp
  dsimp only
  split
  · rename_i ends
    split
    · rename_i ready
      obtain ⟨served, unchanged⟩ := (pipeline.expect .irq0200).deliverPendingStage_served reply
      have moved : pipeline.Served reply _ := served.of_eq rfl rfl rfl rfl rfl rfl
      refine moved.steps fun changed => ?_
      have pending : pipeline.model.stageDeliveryPending = true := by
        by_contra none
        rw [unchanged (by simpa [expect, Model.expect] using none)] at changed
        exact changed rfl
      simp only [calls, pending]
      simpa using ⟨ends, ready⟩
    · exact steps_quiet rfl rfl rfl
  · exact steps_quiet rfl rfl rfl

theorem recoverZeroMask_steps (pipeline : Pipeline) (reply : Reply) :
    Steps pipeline .zeroMaskRecovery reply (pipeline.recoverZeroMask reply) := by
  unfold recoverZeroMask
  dsimp only
  split
  · exact pipeline.modelFail_steps _ _ _ _
  · rename_i fits
    simp only [not_or, Nat.not_lt, Bool.not_eq_false, Bool.not_eq_true] at fits
    obtain ⟨repeated, pending, unscanned⟩ := fits
    have called : pipeline.calls .zeroMaskRecovery = true := by
      simp [calls, repeated, pending, unscanned]
    have served := pipeline.deliverStage_served reply
    unfold deliverPendingStage
    rw [if_pos pending]
    rcases delivery : pipeline.deliverStage reply with ⟨verdict, delivered⟩
    rw [delivery] at served
    cases verdict with
    | error error => exact served.steps fun _ => called
    | ok _ =>
      dsimp only
      split
      · have moved := @Served.steps pipeline .zeroMaskRecovery reply (.ok (), delivered) served
          fun _ => called
        exact ⟨moved.required, moved.count, nofun⟩
      · refine @Served.steps pipeline .zeroMaskRecovery reply _ ?_ fun _ => called
        exact served.of_eq rfl rfl rfl rfl rfl rfl

theorem release_steps (pipeline : Pipeline) (reply : Reply) :
    Steps pipeline .irq0200 reply (pipeline.release reply) := by
  unfold release
  dsimp only
  split
  · exact steps_quiet rfl rfl rfl
  · rename_i last
    refine finish_steps rfl rfl rfl fun pending => ?_
    simpa [calls, last] using pending
  · exact steps_quiet rfl rfl rfl

theorem advance_steps (pipeline : Pipeline) (event : Event) (reply : Reply) :
    Steps pipeline event reply (pipeline.advance event reply) := by
  unfold advance
  cases event with
  | primaryB0 => exact pipeline.observePrimary_steps reply
  | ack_34 => exact pipeline.ackFingerUp_steps reply
  | zeroMaskRecovery => exact pipeline.recoverZeroMask_steps reply
  | irq0200 => exact pipeline.release_steps reply
  | none => exact pipeline.modelFail_steps _ _ _ _
  | auxiliaryB0 | ack_32 =>
    dsimp only
    split <;> exact steps_quiet rfl rfl rfl
  | _ => exact steps_quiet rfl rfl rfl

theorem modelFeed_steps (pipeline : Pipeline) (event : Event) (reply : Reply) :
    Steps pipeline event reply (pipeline.modelFeed event reply) := by
  unfold modelFeed
  split
  · exact steps_quiet rfl rfl rfl
  · split
    · exact pipeline.modelFail_steps _ _ _ _
    · exact pipeline.advance_steps event reply

theorem Steps.settle {before fed : Pipeline} {event : Event} {reply : Reply} {counted : Nat}
    {result : Except GError Unit × Pipeline} (steps : Steps fed event reply result)
    (model : fed.model = before.model) : Steps before event reply (settle counted result) := by
  have calls : fed.calls event = before.calls event := by
    cases event <;> simp only [Pipeline.calls, model]
  have keeps : fed.Keeps reply = before.Keeps reply := by
    simp only [Keeps, mayFinish, model]
  obtain ⟨required, count, refused⟩ := steps
  rw [model, calls, keeps] at count
  rw [model] at required refused
  rcases result with ⟨verdict, after⟩
  cases verdict with
  | error error => exact ⟨required, count, fun _ _ => refused error rfl⟩
  | ok _ =>
    unfold Pipeline.settle
    dsimp only
    split
    · exact ⟨required, count, by simp⟩
    · exact ⟨required, count, by simp⟩

/-- What feeding does to the counts, accepted or refused. -/
theorem feed_steps (pipeline : Pipeline) (event : Event) (samples : Option (List UInt16))
    (reply : Reply) : Steps pipeline event reply (pipeline.feed event samples reply) := by
  unfold feed
  dsimp only
  split
  · exact steps_quiet rfl rfl rfl
  split
  · have steps := pipeline.modelFeed_steps event reply
    exact ⟨steps.required, steps.count, steps.refused⟩
  split
  · rename_i primary
    subst primary
    cases samples with
    | none => exact steps_quiet rfl rfl rfl
    | some raster =>
      dsimp only
      split
      · exact steps_quiet rfl rfl rfl
      · split
        · exact (modelFeed_steps _ _ _).settle rfl
        · exact steps_quiet rfl rfl rfl
  · split
    · exact steps_quiet rfl rfl rfl
    · exact (modelFeed_steps _ _ _).settle rfl

/-! ## The latch -/

/-- While the enrollment goes on: a contact that will end it is the last that the bound allows,
or it was finished by the callback; once such a contact is delivered the template is whole. -/
structure Latched (pipeline : Pipeline) : Prop where
  pending : pipeline.model.stageDeliveryPending = true → pipeline.model.transition = .terminal →
    pipeline.model.observedStageCount = pipeline.model.maxPhysicalStageCount
  delivered : pipeline.model.stageDeliveryPending = false → pipeline.model.transition = .terminal →
    pipeline.model.finishCurrentStage = true ∨
      pipeline.model.completedStageCount = pipeline.model.requiredStageCount

/-- The template is whole, or the callback has finished it. -/
def Whole (pipeline : Pipeline) : Prop :=
  pipeline.model.finishCurrentStage = true ∨
    pipeline.model.completedStageCount = pipeline.model.requiredStageCount

theorem Delivered.pending {before delivered : Pipeline} {image : FpImagePipeline} {reply : Reply}
    (delivers : Delivered before image reply delivered) :
    delivered.model.stageDeliveryPending = before.model.stageDeliveryPending := by
  cases delivers <;> rfl

theorem Delivered.terminal {before delivered : Pipeline} {image : FpImagePipeline} {reply : Reply}
    (delivers : Delivered before image reply delivered)
    (last : before.model.transition = .terminal) : delivered.model.transition = .terminal := by
  cases delivers with
  | retried => exact last
  | @completed finish =>
    cases finish with
    | true => rfl
    | false => exact last

/-- A contact that ends the enrollment when it is delivered leaves a whole template. -/
theorem Delivered.whole {before delivered : Pipeline} {image : FpImagePipeline} {reply : Reply}
    (delivers : Delivered before image reply delivered)
    (last : before.model.transition = .terminal →
      before.model.observedStageCount = before.model.maxPhysicalStageCount)
    (ordinary : reply.verdict = .ok () → reply.granted before.mayFinish = ⟨false, false⟩ →
      before.model.observedStageCount = before.model.maxPhysicalStageCount →
        before.model.completedStageCount + 1 = before.model.requiredStageCount)
    (ends : delivered.model.transition = .terminal) : delivered.Whole := by
  cases delivers with
  | retried accepted granted within =>
    -- the last contact is never retried
    have bound := last ends
    omega
  | @completed finish accepted granted within =>
    cases finish with
    | true => exact .inl rfl
    | false => exact .inr (ordinary accepted granted (last ends))

theorem transitionOf_terminal {model : Model} {observed : Nat}
    (terminal : model.transitionOf observed = .terminal) :
    observed = model.maxPhysicalStageCount := by
  unfold Model.transitionOf at terminal
  split_ifs at terminal with first last
  exact last

/-- What an accepted event keeps. -/
theorem Accepts.latched {before after : Pipeline} {reply : Reply} {event : Event}
    {samples : Option (List UInt16)} (accepts : Accepts before reply event samples after)
    (latched : before.Latched) (adequate : before.Adequate ⟨event, samples, reply⟩)
    (idle : before.pendingImage = none → before.model.stageDeliveryPending = false)
    (open_ : before.model.complete = false) :
    (after.model.complete = true → after.Whole) ∧ (after.model.complete = false → after.Latched) := by
  have quiet {last : Pipeline} (complete : last.model.complete = before.model.complete)
      (latched : last.Latched) :
      (last.model.complete = true → last.Whole) ∧ (last.model.complete = false → last.Latched) :=
    ⟨fun ended => (Bool.false_ne_true ((complete.trans open_).symm.trans ended)).elim,
      fun _ => latched⟩
  cases accepts with
  | contact => exact quiet rfl ⟨fun _ => nofun, fun _ => nofun⟩
  | passed | scanned | lifted | auxiliary | auxiliaryScan | rearmed | navigated | released =>
    exact quiet rfl ⟨latched.pending, latched.delivered⟩
  | kept due empty made within deferred =>
    exact quiet rfl ⟨fun _ => transitionOf_terminal, nofun⟩
  | @taken samples image delivered due empty made within atOnce delivers =>
    have called : before.calls .primaryB0 = true := by
      refine decide_eq_true ⟨within, fun deferred => ?_⟩
      exact Bool.false_ne_true (atOnce.symm.trans deferred)
    refine quiet delivers.complete ⟨fun pending _ => ?_, fun _ ends => ?_⟩
    · have none : delivered.model.stageDeliveryPending = false := by
        rw [delivers.pending]
        exact idle empty
      exact (Bool.false_ne_true (none.symm.trans pending)).elim
    · refine delivers.whole transitionOf_terminal (fun accepted granted bound => ?_) ends
      exact (adequate called accepted granted).2 bound
  | @liftedWith image delivered due ends ready loaded delivers =>
    have called : before.calls .ack_34 = true := by
      obtain ⟨pending, when⟩ := ready
      simp only [calls, pending]
      simpa using ⟨ends, when⟩
    refine quiet delivers.complete ⟨nofun, fun _ last => ?_⟩
    refine delivers.whole (latched.pending ready.1) (fun accepted granted bound => ?_) last
    exact (adequate called accepted granted).2 bound
  | @recovered image delivered due repeated pending unscanned loaded delivers more =>
    exact quiet delivers.complete ⟨nofun, fun _ ends => absurd ends more⟩
  | @recoveredLast image delivered due repeated pending unscanned loaded delivers last =>
    refine ⟨fun _ => ?_, nofun⟩
    refine delivers.whole (latched.pending pending) (fun accepted granted bound => ?_) last
    exact (adequate (by simp [calls, repeated, pending, unscanned]) accepted granted).2 bound
  | releasedLast due last delivered =>
    exact ⟨fun _ => latched.delivered delivered last, nofun⟩
  | @releasedWith image delivered due last pending loaded delivers =>
    refine ⟨fun _ => ?_, nofun⟩
    have called : before.calls .irq0200 = true := by simp [calls, last, pending]
    have ends : delivered.model.transition = .terminal := delivers.terminal last
    refine delivers.whole (latched.pending pending) (fun accepted granted bound => ?_) ends
    exact (adequate called accepted granted).2 bound

/-! ## Whole runs -/

/-- What every run keeps whose steps are adequate. -/
structure Sufficient (required : Nat) (log : List (Event × Option (List UInt16)))
    (pipeline : Pipeline) : Prop where
  sound : Sound log pipeline
  required : pipeline.model.requiredStageCount = required
  within : pipeline.model.completedStageCount ≤ pipeline.model.requiredStageCount
  whole : pipeline.model.complete = true → pipeline.Whole
  latched : pipeline.isFailed = false → pipeline.model.complete = false → pipeline.Latched

theorem Balanced.idle {images : List FpImagePipeline} {pipeline : Pipeline}
    (balanced : Balanced images pipeline) (empty : pipeline.pendingImage = none) :
    pipeline.model.stageDeliveryPending = false := by
  cases balanced with
  | settled nothing => exact nothing
  | owing _ _ loaded => cases empty.symm.trans loaded

theorem new_sufficient {config : ModelConfig} {pipeline : Pipeline}
    (created : Pipeline.new config = .ok pipeline) :
    Sufficient config.requiredStageCount [] pipeline := by
  have sound := new_sound created
  unfold Pipeline.new Model.new at created
  split at created
  · cases created
  · rename_i result
    split at result
    · cases result
    · cases result
      cases created
      exact ⟨sound, rfl, Nat.zero_le _, nofun, fun _ _ => ⟨nofun, fun _ => nofun⟩⟩

/-- Only a stage that may be finished is finished. -/
theorem granted_mayFinish {reply : Reply} {mayFinish : Bool}
    (finished : (reply.granted mayFinish).finish = true) : mayFinish = true := by
  have kept : ∀ (requests : List Request) granted, (granted.finish = true → mayFinish = true) →
      (requests.foldl (Granted.after mayFinish) granted).finish = true → mayFinish = true := by
    intro requests
    induction requests with
    | nil =>
      intro granted may
      exact may
    | cons wish rest ih =>
      intro granted may
      refine ih _ ?_
      cases wish <;> unfold Granted.after <;> dsimp only <;> split <;> simp_all
  exact kept reply.requests ⟨false, false⟩ nofun finished

/-- An adequate step accepts no stage too many. -/
theorem Steps.within {pipeline : Pipeline} {fed : Feed} {result : Except GError Unit × Pipeline}
    (steps : Steps pipeline fed.event fed.reply result) (adequate : pipeline.Adequate fed)
    (within : pipeline.model.completedStageCount ≤ pipeline.model.requiredStageCount) :
    result.2.model.completedStageCount ≤ result.2.model.requiredStageCount := by
  rw [steps.required]
  rcases steps.count with same | ⟨called, ⟨accepted, kept⟩, more⟩
  · omega
  · rw [more]
    cases finish : (fed.reply.granted pipeline.mayFinish).finish with
    | true => simpa [mayFinish] using granted_mayFinish finish
    | false =>
      have plain : fed.reply.granted pipeline.mayFinish = ⟨false, false⟩ := by
        rcases answer : fed.reply.granted pipeline.mayFinish with ⟨retry, ends⟩
        rw [answer] at kept finish
        rw [show retry = false from kept, show ends = false from finish]
      exact (adequate called accepted plain).1

theorem feed_complete {pipeline : Pipeline} (complete : pipeline.model.complete = true)
    (event : Event) (samples : Option (List UInt16)) (reply : Reply) :
    (pipeline.feed event samples reply).2 = pipeline := by
  unfold feed
  simp [complete]

theorem step_sufficient {required : Nat} {log : List (Event × Option (List UInt16))}
    {pipeline : Pipeline} (fed : Feed) (sufficient : Sufficient required log pipeline)
    (adequate : pipeline.Adequate fed) :
    Sufficient required (log ++ (pipeline.step fed).2) (pipeline.step fed).1 := by
  have sound := step_sound sufficient.sound fed
  have steps := pipeline.feed_steps fed.event fed.samples fed.reply
  have within := steps.within adequate sufficient.within
  rcases result : pipeline.feed fed.event fed.samples fed.reply with ⟨verdict, after⟩
  rw [result] at steps within
  have now : (pipeline.step fed).1 = after := by
    simp only [step, result]
    cases verdict <;> rfl
  rw [now] at sound ⊢
  have required := steps.required.trans sufficient.required
  cases verdict with
  | error error =>
    refine ⟨sound, required, within, fun ended => ?_, fun unfailed running => ?_⟩
    · have complete := (steps.refused error rfl).symm.trans ended
      have same := feed_complete complete fed.event fed.samples fed.reply
      rw [result] at same
      subst same
      exact sufficient.whole ended
    · have refused := @feed_refused pipeline fed.event fed.samples fed.reply error (by rw [result])
      rw [result] at refused
      rcases refused with failed | ⟨same, complete⟩
      · exact (Bool.false_ne_true (unfailed.symm.trans failed)).elim
      · have same : after = pipeline := same
        rw [same, complete] at running
        cases running
  | ok _ =>
    have accepted : (pipeline.feed fed.event fed.samples fed.reply).1 = .ok () := by rw [result]
    obtain ⟨unfailed, running⟩ := feed_running accepted
    obtain ⟨tidy, balanced⟩ := sufficient.sound unfailed
    have accepts := feed_accepts tidy accepted
    rw [result] at accepts
    have latched := accepts.latched (sufficient.latched unfailed running) adequate balanced.idle running
    exact ⟨sound, required, within, latched.1, fun _ => latched.2⟩

/-- In every run with adequate replies a complete enrollment has as many stages as the template
requires, unless the callback has finished the last stage itself, and never more. -/
theorem enrollment_complete_adequate {config : ModelConfig} {pipeline : Pipeline}
    (created : Pipeline.new config = .ok pipeline) (feeds : List Feed)
    (adequate : Meets step Adequate pipeline feeds) :
    let reached := (run step pipeline feeds).1
    (reached.model.complete = true → reached.model.completedStageCount = config.requiredStageCount ∨
      reached.model.finishCurrentStage = true) ∧
    reached.model.completedStageCount ≤ config.requiredStageCount := by
  intro reached
  have sufficient := run_invariant_of_meets step Adequate (Sufficient config.requiredStageCount)
    (fun log current fed sufficient adequate => step_sufficient fed sufficient adequate) feeds [] pipeline
    (new_sufficient created) adequate
  have required : reached.model.requiredStageCount = config.requiredStageCount := sufficient.required
  refine ⟨fun complete => ?_, required ▸ sufficient.within⟩
  rw [← required]
  exact (sufficient.whole complete).symm

/-! ## An enrollment of two contacts -/

/-- A second and last contact, whose image is delivered at once. -/
def lastStage : List Feed :=
  untilPrimary 0 ++
    [.command_34, .ack_34, .command_36, .ack_36, .irq0100, .command_20, .ack_20, .auxiliaryB0,
      .command_34, .ack_34, .irq0200].map plainFeed

theorem enrollment_complete_adequate_twice :
    ∃ pipeline, Pipeline.new ⟨2, 0, false, false, true⟩ = .ok pipeline ∧
      (run step pipeline (firstStage ⟨[], .ok ()⟩ ++ lastStage)).1.model.completedStageCount = 2 := by
  refine ⟨_, rfl, ?_⟩
  have adequate := @enrollment_complete_adequate ⟨2, 0, false, false, true⟩ _ rfl
    (firstStage ⟨[], .ok ()⟩ ++ lastStage) (by decide +kernel)
  exact (adequate.1 (by decide +kernel)).resolve_right (by decide +kernel)

/-- The first of two contacts is retried and the second accepted: the enrollment is complete with
one stage of two. -/
theorem retried_enrollment_short :
    ∃ pipeline, Pipeline.new ⟨2, 0, false, false, true⟩ = .ok pipeline ∧
      let reached :=
        (run step pipeline (firstStage ⟨[.retryCurrentStage], .ok ()⟩ ++ lastStage)).1
      reached.model.complete = true ∧ reached.model.completedStageCount = 1 ∧
        reached.model.finishCurrentStage = false :=
  ⟨_, rfl, by decide +kernel⟩

end Pipeline

end Goodix.Enrollment
