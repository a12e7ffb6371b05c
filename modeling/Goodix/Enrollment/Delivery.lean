import Goodix.Enrollment.Moves
import Goodix.Library.Machines

/-! # Every primary image is delivered once

A contact whose image has been taken is settled when the image callback has had it; until
then the pipeline owes exactly that one image.  Both are read off the counts of the model
and the images the callback has been given.
-/

namespace Goodix.Enrollment

open Machines ImageDecoder

/-- What is fed to the pipeline, and how the image callback would answer. -/
structure Feed where
  event : Event
  samples : Option (List UInt16)
  reply : Reply

namespace Pipeline

/-- Feeding, which is noted where it is accepted. -/
def step (pipeline : Pipeline) (fed : Feed) :
    Pipeline × List (Event × Option (List UInt16)) :=
  match pipeline.feed fed.event fed.samples fed.reply with
  | (.ok (), after) => (after, [(fed.event, fed.samples)])
  | (.error _, after) => (after, [])

end Pipeline

/-- The image of an accepted primary. -/
def primaryImage : Event × Option (List UInt16) → Option FpImagePipeline
  | (.primaryB0, some samples) => fpImagePipelineNew samples
  | _ => none

/-- The images of the contacts, in their order. -/
def primaries (log : List (Event × Option (List UInt16))) : List FpImagePipeline :=
  log.filterMap primaryImage

@[simp] theorem primaries_append (log later : List (Event × Option (List UInt16))) :
    primaries (log ++ later) = primaries log ++ primaries later :=
  List.filterMap_append

@[simp] theorem primaries_bare (event : Event) : primaries [(event, none)] = [] := by
  cases event <;> rfl

theorem primaries_primary {samples : List UInt16} {image : FpImagePipeline}
    (made : fpImagePipelineNew samples = some image) :
    primaries [(.primaryB0, some samples)] = [image] := by
  simp [primaries, primaryImage, made]

/-- Images with the stage indices of their contacts. -/
def numbered (images : List FpImagePipeline) : List (Nat × FpImagePipeline) :=
  (images.zipIdx 1).map Prod.swap

@[simp] theorem numbered_concat (images : List FpImagePipeline) (image : FpImagePipeline) :
    numbered (images ++ [image]) = numbered images ++ [(images.length + 1, image)] := by
  simp [numbered, List.zipIdx_append, Nat.add_comm]

/-! ## The ledger -/

/-- What a pipeline has counted and handed out. -/
structure Ledger where
  audit : ModelAudit
  observed : Nat
  completed : Nat
  handed : List (Nat × FpImagePipeline)

def Pipeline.ledger (pipeline : Pipeline) : Ledger where
  audit := pipeline.model.audit
  observed := pipeline.model.observedStageCount
  completed := pipeline.model.completedStageCount
  handed := pipeline.handed

/-- The audit agrees with the model about the contacts with these images. -/
structure Ledger.Agrees (images : List FpImagePipeline) (ledger : Ledger) : Prop where
  observed : ledger.observed = images.length
  audited : ledger.audit.observedPrimaryStageCount = ledger.observed
  completed : ledger.audit.completedStageCount = ledger.completed

/-- Every image has been handed out and counted. -/
structure Ledger.Settled (images : List FpImagePipeline) (ledger : Ledger) : Prop
    extends ledger.Agrees images where
  balance : ledger.observed = ledger.completed + ledger.audit.retryStageCount
  handed : ledger.handed = numbered images

/-- Every image but this last one has been handed out and counted. -/
structure Ledger.Owes (images : List FpImagePipeline) (image : FpImagePipeline)
    (ledger : Ledger) : Prop extends ledger.Agrees images where
  balance : ledger.observed = ledger.completed + ledger.audit.retryStageCount + 1
  handed : ledger.handed ++ [(ledger.observed, image)] = numbered images

namespace Pipeline

theorem Delivered.settled {before delivered : Pipeline} {reply : Reply} {image : FpImagePipeline}
    {images : List FpImagePipeline} (delivers : Delivered before image reply delivered)
    (owes : before.ledger.Owes images image) : delivered.ledger.Settled images := by
  obtain ⟨⟨observed, audited, completed⟩, balance, handed⟩ := owes
  cases delivers with
  | retried within =>
    refine ⟨⟨observed, audited, completed⟩, ?_, handed⟩
    simp only [ledger, Pipeline.retried, given] at balance ⊢
    omega
  | completed finish within =>
    refine ⟨⟨observed, audited, rfl⟩, ?_, handed⟩
    simp only [ledger, Pipeline.completed, given] at balance ⊢
    omega

/-- A contact more is observed: its image is owed. -/
theorem observed_owes {pipeline : Pipeline} {images : List FpImagePipeline}
    (settled : pipeline.ledger.Settled images) (image : FpImagePipeline) :
    (pipeline.observed image).ledger.Owes (images ++ [image]) image := by
  obtain ⟨⟨observed, audited, completed⟩, balance, handed⟩ := settled
  simp only [ledger] at observed audited completed balance handed
  constructor
  · constructor <;> simp [ledger, Pipeline.observed, observed, completed]
  · simp only [ledger, Pipeline.observed]
    omega
  · simp [ledger, Pipeline.observed, handed, observed]

/-! ## The invariant -/

/-- Where an image that is owed can be.  It never gets past the IRQ0200 of a contact that is not
the last one. -/
def awaitsDelivery (pipeline : Pipeline) : Prop :=
  match pipeline.model.expected with
  | .command_34 | .ack_34 => True
  | .command_36 | .ack_36 | .irq0100 | .command_20 | .ack_20 | .auxiliaryB0 =>
    pipeline.model.transition ≠ .firstNav
  | .irq0200 => pipeline.model.transition = .terminal
  | _ => False

inductive Balanced (images : List FpImagePipeline) (pipeline : Pipeline) : Prop where
  | settled (nothing : pipeline.model.stageDeliveryPending = false)
      (empty : pipeline.pendingImage = none) (settles : pipeline.ledger.Settled images)
  | owing (image : FpImagePipeline) (pending : pipeline.model.stageDeliveryPending = true)
      (loaded : pipeline.pendingImage = some image) (owes : pipeline.ledger.Owes images image)
      (waits : pipeline.awaitsDelivery)

theorem passes_awaits {pipeline : Pipeline} {event next : Event} (along : passes event = some next)
    (due : pipeline.model.expected = event) (waits : pipeline.awaitsDelivery) :
    (pipeline.expect next).awaitsDelivery := by
  unfold awaitsDelivery at waits ⊢
  rw [due] at waits
  cases event <;> cases along <;> exact waits

/-- Nothing is owed where the next contact may begin. -/
theorem Balanced.nothing {images : List FpImagePipeline} {pipeline : Pipeline}
    (balanced : Balanced images pipeline) (moved : ¬ pipeline.awaitsDelivery) :
    pipeline.model.stageDeliveryPending = false ∧ pipeline.pendingImage = none ∧
      pipeline.ledger.Settled images := by
  cases balanced with
  | settled nothing empty settles => exact ⟨nothing, empty, settles⟩
  | owing _ _ _ _ waits => exact absurd waits moved

/-- The image that is delivered is the one that is owed. -/
theorem Balanced.owed {images : List FpImagePipeline} {pipeline : Pipeline}
    {image : FpImagePipeline} (balanced : Balanced images pipeline)
    (loaded : pipeline.pendingImage = some image) : pipeline.ledger.Owes images image := by
  cases balanced with
  | settled _ empty _ =>
    rw [empty] at loaded
    cases loaded
  | owing owed _ found owes _ =>
    rw [found] at loaded
    cases loaded
    exact owes

theorem Accepts.balanced {before after : Pipeline} {reply : Reply} {event : Event}
    {samples : Option (List UInt16)} {images : List FpImagePipeline}
    (accepts : Accepts before reply event samples after) (balanced : Balanced images before) :
    Balanced (images ++ primaries [(event, samples)]) after := by
  -- an image is owed from its B0 until it is delivered, and only in the phases between
  cases accepts with
  | contact due =>
    obtain ⟨nothing, empty, settles⟩ := balanced.nothing (by simp [awaitsDelivery, due])
    rw [primaries_bare, List.append_nil]
    exact .settled nothing empty settles
  | passed along due =>
    rw [primaries_bare, List.append_nil]
    cases balanced with
    | settled nothing empty settles => exact .settled nothing empty settles
    | owing image pending loaded owes waits =>
      exact .owing image pending loaded owes (passes_awaits along due waits)
  | kept due empty made within deferred =>
    obtain ⟨_, _, settles⟩ := balanced.nothing (by simp [awaitsDelivery, due])
    rw [primaries_primary made]
    exact .owing _ rfl rfl (observed_owes settles _) trivial
  | taken due empty made within atOnce delivers =>
    obtain ⟨nothing, _, settles⟩ := balanced.nothing (by simp [awaitsDelivery, due])
    rw [primaries_primary made]
    refine .settled ?_ rfl (delivers.settled (observed_owes settles _))
    cases delivers <;> exact nothing
  | scanned due scans =>
    rw [primaries_bare, List.append_nil]
    cases balanced with
    | settled nothing empty settles => exact .settled nothing empty settles
    | owing image pending loaded owes waits => exact .owing image pending loaded owes scans.1
  | lifted due ends keeps =>
    rw [primaries_bare, List.append_nil]
    cases balanced with
    | settled nothing empty settles => exact .settled nothing empty settles
    | owing image pending loaded owes waits =>
      -- only the legacy mode keeps the last image beyond its ACK_34
      have last : before.model.transition = .terminal := by
        by_contra more
        exact keeps ⟨pending, .inl more⟩
      exact .owing image pending loaded owes last
  | liftedWith due ends ready loaded delivers =>
    rw [primaries_bare, List.append_nil]
    exact .settled rfl rfl (delivers.settled (balanced.owed loaded))
  | recovered due repeated pending unscanned loaded delivers more =>
    rw [primaries_bare, List.append_nil]
    exact .settled rfl rfl (delivers.settled (balanced.owed loaded))
  | recoveredLast due repeated pending unscanned loaded delivers last =>
    rw [primaries_bare, List.append_nil]
    exact .settled rfl rfl (delivers.settled (balanced.owed loaded))
  | auxiliary due first =>
    obtain ⟨nothing, empty, settles⟩ := balanced.nothing (by simp [awaitsDelivery, due, first])
    rw [primaries_bare, List.append_nil]
    exact .settled nothing empty settles
  | auxiliaryScan due repeated =>
    rw [primaries_bare, List.append_nil]
    cases balanced with
    | settled nothing empty settles => exact .settled nothing empty settles
    | owing image pending loaded owes waits => exact .owing image pending loaded owes trivial
  | released due more along =>
    obtain ⟨nothing, empty, settles⟩ := balanced.nothing (by simp [awaitsDelivery, due, more])
    rw [primaries_bare, List.append_nil]
    exact .settled nothing empty settles
  | releasedLast due last delivered =>
    rw [primaries_bare, List.append_nil]
    cases balanced with
    | settled nothing empty settles => exact .settled nothing empty settles
    | owing image pending loaded owes waits =>
      rw [delivered] at pending
      cases pending
  | releasedWith due last pending loaded delivers =>
    rw [primaries_bare, List.append_nil]
    exact .settled rfl rfl (delivers.settled (balanced.owed loaded))
  | rearmed due along =>
    obtain ⟨nothing, empty, settles⟩ := balanced.nothing (by simp [awaitsDelivery, due])
    rw [primaries_bare, List.append_nil]
    exact .settled nothing empty settles
  | navigated due =>
    obtain ⟨nothing, empty, settles⟩ := balanced.nothing (by simp [awaitsDelivery, due])
    rw [primaries_bare, List.append_nil]
    exact .settled nothing empty settles

/-! ## Runs -/

/-- A pipeline that has not failed is tidy and balanced. -/
def Sound (log : List (Event × Option (List UInt16))) (pipeline : Pipeline) : Prop :=
  pipeline.isFailed = false → pipeline.Tidy ∧ Balanced (primaries log) pipeline

theorem new_sound {config : ModelConfig} {pipeline : Pipeline}
    (created : Pipeline.new config = .ok pipeline) : Sound [] pipeline := by
  unfold Pipeline.new Model.new at created
  split at created
  · cases created
  · rename_i result
    split at result
    · cases result
    · cases result
      cases created
      intro _
      exact ⟨⟨by simp, by simp, by simp⟩,
        .settled rfl rfl ⟨⟨rfl, rfl, rfl⟩, rfl, rfl⟩⟩

theorem new_fresh {config : ModelConfig} {pipeline : Pipeline}
    (created : Pipeline.new config = .ok pipeline) :
    pipeline.isFailed = false ∧ pipeline.model.completedStageCount = 0 ∧
      pipeline.model.expected = .irq2 ∧ pipeline.model.observedStageCount = 0 ∧
      pipeline.model.audit.observedPrimaryStageCount = 0 := by
  unfold Pipeline.new Model.new at created
  split at created
  · cases created
  · rename_i result
    split at result
    · cases result
    · cases result
      cases created
      exact ⟨rfl, rfl, rfl, rfl, rfl⟩

theorem step_sound {log : List (Event × Option (List UInt16))} {pipeline : Pipeline}
    (sound : Sound log pipeline) (fed : Feed) :
    Sound (log ++ (pipeline.step fed).2) (pipeline.step fed).1 := by
  intro running
  rcases result : pipeline.feed fed.event fed.samples fed.reply with ⟨verdict, after⟩
  simp only [step, result] at running ⊢
  cases verdict with
  | error error =>
    have refuses : (pipeline.feed fed.event fed.samples fed.reply).1 = .error error := by
      rw [result]
    have refused := feed_refused refuses
    rw [result] at refused
    rcases refused with stays | ⟨same, _⟩
    · rw [running] at stays
      cases stays
    · subst same
      simpa using sound running
  | ok _ =>
    have accepted : (pipeline.feed fed.event fed.samples fed.reply).1 = .ok () := by rw [result]
    have before := feed_running accepted
    obtain ⟨tidy, balanced⟩ := sound before.1
    have accepts := feed_accepts tidy accepted
    rw [result] at accepts
    rw [primaries_append]
    exact ⟨accepts.tidy tidy before.2, accepts.balanced balanced⟩

theorem run_sound {config : ModelConfig} {pipeline : Pipeline}
    (created : Pipeline.new config = .ok pipeline) (feeds : List Feed) :
    Sound (run step pipeline feeds).2 (run step pipeline feeds).1 :=
  run_invariant step Sound (new_sound created) (fun _ _ fed sound => step_sound sound fed) feeds

/-- What the callback has been given and the image that is pending are the images of all
contacts, in their order. -/
theorem Balanced.images {images : List FpImagePipeline} {pipeline : Pipeline}
    (balanced : Balanced images pipeline) :
    pipeline.handed ++ (pipeline.pendingImage.map
        fun image => (pipeline.model.observedStageCount, image)).toList = numbered images := by
  cases balanced with
  | settled _ empty settles => simpa [empty, ledger] using settles.handed
  | owing image _ loaded owes _ => simpa [loaded, ledger] using owes.handed

theorem Balanced.counts {images : List FpImagePipeline} {pipeline : Pipeline}
    (balanced : Balanced images pipeline) :
    pipeline.model.audit.observedPrimaryStageCount =
      pipeline.model.audit.completedStageCount + pipeline.model.audit.retryStageCount +
        (if pipeline.model.stageDeliveryPending then 1 else 0) := by
  cases balanced with
  | settled nothing _ settles =>
    have observed := settles.audited
    have completed := settles.completed
    have balance := settles.balance
    simp only [ledger] at observed completed balance
    simp only [nothing, Bool.false_eq_true, if_false]
    omega
  | owing _ pending _ owes _ =>
    have observed := owes.audited
    have completed := owes.completed
    have balance := owes.balance
    simp only [ledger] at observed completed balance
    simp only [pending, if_true]
    omega

/-- In every run of the pipeline that has not failed, whatever the delivery configuration: the
contacts observed are those completed, those retried and the pending one; there is a pending
image exactly while a delivery is pending; every other primary image has been delivered once, in
the order of the contacts; and none is left when the model is complete or takes the IRQ2 of the
next contact. -/
theorem primaries_delivered_once {config : ModelConfig} {pipeline : Pipeline}
    (created : Pipeline.new config = .ok pipeline) (feeds : List Feed) :
    let reached := run step pipeline feeds
    reached.1.isFailed = false →
      reached.1.model.audit.observedPrimaryStageCount =
          reached.1.model.audit.completedStageCount + reached.1.model.audit.retryStageCount +
            (if reached.1.model.stageDeliveryPending then 1 else 0) ∧
        reached.1.pendingImage.isSome = reached.1.model.stageDeliveryPending ∧
        reached.1.handed ++ (reached.1.pendingImage.map
            fun image => (reached.1.model.observedStageCount, image)).toList =
          numbered (primaries reached.2) ∧
        (reached.1.model.complete = true → reached.1.handed = numbered (primaries reached.2)) ∧
        (∀ samples reply, (reached.1.feed .irq2 samples reply).1 = .ok () →
          reached.1.handed = numbered (primaries reached.2)) := by
  intro reached running
  obtain ⟨tidy, balanced⟩ := run_sound created feeds running
  refine ⟨balanced.counts, ?_, balanced.images, ?_, ?_⟩
  · cases balanced with
    | settled nothing empty _ => rw [nothing, empty]; rfl
    | owing _ pending loaded _ _ => rw [pending, loaded]; rfl
  · intro complete
    have ended := tidy.ended complete
    exact (balanced.nothing (by simp [awaitsDelivery, ended])).2.2.handed
  · intro samples reply accepted
    have due := (feed_accepts tidy accepted).due (by simp)
    exact (balanced.nothing (by simp [awaitsDelivery, due])).2.2.handed

/-- An event without an image, whose callback asks for nothing. -/
def plainFeed (event : Event) : Feed := ⟨event, none, ⟨[], .ok ()⟩⟩

/-- The events of a contact up to its primary image. -/
def untilPrimary (sample : UInt16) : List Feed :=
  [.irq2, .command_22, .ack_22].map plainFeed ++
    [⟨.primaryB0, some (List.replicate canonicalImageSampleCount sample), ⟨[], .ok ()⟩⟩]

/-- The first contact, whose image is delivered at its ACK_34. -/
def firstStage (reply : Reply) : List Feed :=
  untilPrimary 0 ++ [plainFeed .command_34, ⟨.ack_34, none, reply⟩] ++
    [.irq0200, .command_20, .ack_20, .auxiliaryB0, .command_32, .ack_32, .command_50, .ack_50, .nav,
      .command_32, .ack_32].map plainFeed

/-- A first contact that is retried, and the second one up to its image. -/
def retriedContact : List Feed := firstStage ⟨[.retryCurrentStage], .ok ()⟩ ++ untilPrimary 1

/-- The first image is delivered late and retried, the second waits for its delivery. -/
theorem primaries_delivered_once_deferred :
    ∃ pipeline, Pipeline.new ⟨2, 3, false, false, true⟩ = .ok pipeline ∧
      let reached := run step pipeline retriedContact
      reached.1.model.audit = ⟨2, 0, 1⟩ ∧ reached.1.handed.length = 1 ∧
        reached.1.pendingImage.isSome = true ∧
        reached.1.handed ++ (reached.1.pendingImage.map
            fun image => (reached.1.model.observedStageCount, image)).toList =
          numbered (primaries reached.2) := by
  refine ⟨_, rfl, by decide +kernel, by decide +kernel, by decide +kernel, ?_⟩
  exact (@primaries_delivered_once ⟨2, 3, false, false, true⟩ _ rfl retriedContact
    (by decide +kernel)).2.2.1

end Pipeline

end Goodix.Enrollment
