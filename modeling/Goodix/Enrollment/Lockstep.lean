import Goodix.Enrollment.Adapter

/-! # Model, plan and tables stay in step

The model, the plan and the FDT tables advance on different events.  What ties them together is
the phase of the contact: whether its IRQ2, its image and its release have been taken.  In each
phase the stages of the tables follow from the number of contacts, and the material that the
command of the phase needs is there.
-/

namespace Goodix.Enrollment

open Octets FdtIrqPolicy Machines Traces

/-! ## The phases of a contact -/

inductive Phase where
  | waiting
  | begun
  | held
  | lifted
  | ended
  deriving DecidableEq, Repr

def Model.phase (model : Model) : Phase :=
  match model.expected with
  | .irq2 => .waiting
  | .command_22 | .ack_22 | .primaryB0 => .begun
  | .command_34 | .ack_34 | .command_36 | .ack_36 | .irq0100 | .zeroMaskRecovery | .irq0200 =>
    .held
  | .command_20 | .ack_20 | .auxiliaryB0 => if model.transition = .firstNav then .lifted else .held
  | .command_32 | .ack_32 | .command_50 | .ack_50 | .nav => .lifted
  | .none => .ended

/-- What the model says about the contact in each phase. -/
structure Model.Steady (model : Model) : Prop where
  audited : model.audit.observedPrimaryStageCount = model.observedStageCount
  counted : model.phase = .held ∨ model.phase = .lifted → 1 ≤ model.observedStageCount
  first : model.phase = .held → model.expected ≠ .irq0200 → model.observedStageCount = 1 →
    model.transition = .firstNav
  scans : model.expected = .command_36 ∨ model.expected = .ack_36 ∨ model.expected = .irq0100 →
    model.transition ≠ .firstNav

/-- How an accepted event takes the contact from phase to phase. -/
inductive Passage (before after : Model) : Event → Prop where
  | touched (waits : before.phase = .waiting) (begins : after.phase = .begun)
      (same : after.observedStageCount = before.observedStageCount) : Passage before after .irq2
  | imaged (began : before.phase = .begun) (holds : after.phase = .held)
      (more : after.observedStageCount = before.observedStageCount + 1) :
      Passage before after .primaryB0
  | lifted {event : Event} (releases : event = .irq0200 ∨ event = .zeroMaskRecovery)
      (held : before.phase = .held) (lifts : after.phase = .lifted ∨ after.phase = .ended)
      (same : after.observedStageCount = before.observedStageCount) : Passage before after event
  | rearmed (lifted : before.phase = .lifted) (waits : after.phase = .waiting)
      (same : after.observedStageCount = before.observedStageCount) : Passage before after .ack_32
  | stayed {event : Event} (bare : event ≠ .irq2 ∧ event ≠ .irq0200 ∧ event ≠ .zeroMaskRecovery)
      (phase : after.phase = before.phase)
      (same : after.observedStageCount = before.observedStageCount) : Passage before after event

/-- A reply that finishes the first contact, which is delivered at once. -/
def FinishesFirst (model : Model) (event : Event) (reply : Reply) : Prop :=
  event = .primaryB0 ∧ model.observedStageCount = 0 ∧
    model.deferIntermediateStageDeliveryUntilReleaseReady = false ∧
    reply.requests.head? = some .finishCurrentStage

namespace Pipeline

/-- A delivery keeps the contact; it may make the transition terminal. -/
theorem Delivered.contact {before delivered : Pipeline} {image : FpImagePipeline} {reply : Reply}
    (delivers : Delivered before image reply delivered) :
    delivered.model.observedStageCount = before.model.observedStageCount ∧
      delivered.model.audit.observedPrimaryStageCount =
        before.model.audit.observedPrimaryStageCount ∧
      (delivered.model.transition = before.model.transition ∨
        delivered.model.transition = .terminal ∧
          (reply.granted before.mayFinish).finish = true) := by
  cases delivers with
  | retried => exact ⟨rfl, rfl, .inl rfl⟩
  | @completed finish _ granted =>
    refine ⟨rfl, rfl, ?_⟩
    cases finish with
    | false => exact .inl rfl
    | true => exact .inr ⟨rfl, by rw [granted]⟩

theorem Delivered.unfailed {before delivered : Pipeline} {image : FpImagePipeline} {reply : Reply}
    (delivers : Delivered before image reply delivered) :
    delivered.isFailed = before.isFailed := by
  cases delivers <;> rfl

/-- An event that is accepted does not fail the pipeline. -/
theorem Accepts.unfailed {before after : Pipeline} {reply : Reply} {event : Event}
    {samples : Option (List UInt16)} (accepts : Accepts before reply event samples after) :
    after.isFailed = before.isFailed := by
  cases accepts with
  | taken _ _ _ _ _ delivers => exact delivers.unfailed
  | liftedWith _ _ _ _ delivers => exact delivers.unfailed
  | recovered _ _ _ _ _ delivers => exact delivers.unfailed
  | recoveredLast _ _ _ _ _ delivers => exact delivers.unfailed
  | releasedWith _ _ _ _ delivers => exact delivers.unfailed
  | _ => rfl

/-- Only the first request can be granted. -/
theorem granted_finish {reply : Reply} {mayFinish : Bool}
    (finishes : (reply.granted mayFinish).finish = true) :
    reply.requests.head? = some .finishCurrentStage := by
  have exclusive := granted_exclusive reply mayFinish
  have kept : ∀ requests : List Request,
      (requests.foldl (Granted.after mayFinish) ⟨true, false⟩) = ⟨true, false⟩ := by
    intro requests
    induction requests with
    | nil => rfl
    | cons wish rest ih => cases wish <;> exact ih
  unfold Reply.granted at finishes
  cases requests : reply.requests with
  | nil =>
    rw [requests] at finishes
    cases finishes
  | cons wish rest =>
    cases wish with
    | finishCurrentStage => rfl
    | retryCurrentStage =>
      rw [requests, List.foldl_cons] at finishes
      have first : Granted.after mayFinish ⟨false, false⟩ .retryCurrentStage = ⟨true, false⟩ := rfl
      rw [first, kept] at finishes
      cases finishes

section

variable {before after delivered : Pipeline} {reply : Reply} {image : FpImagePipeline}

theorem passage_contact (steady : before.model.Steady) (due : before.model.expected = .irq2) :
    let after : Pipeline :=
      { before with model := { before.model with transition := .none, expected := .command_22 } }
    Passage before.model after.model .irq2 ∧ after.model.Steady := by
  have waits : before.model.phase = .waiting := by simp [Model.phase, due]
  exact ⟨.touched waits rfl rfl, steady.audited, by simp [Model.phase], by simp [Model.phase],
    by simp⟩

theorem passage_passed {event next : Event} (steady : before.model.Steady)
    (along : passes event = some next) (due : before.model.expected = event) :
    Passage before.model (before.expect next).model event ∧
      (before.expect next).model.Steady := by
  obtain ⟨audited, counted, first, scans⟩ := steady
  have phase : (before.expect next).model.phase = before.model.phase := by
    unfold Model.phase
    rw [due]
    cases event <;> cases along <;> first
      | rfl
      -- after the scan of a repeated contact the finger is still on
      | exact if_neg (scans (.inr (.inr due)))
  have bare : event ≠ .irq2 ∧ event ≠ .irq0200 ∧ event ≠ .zeroMaskRecovery := by
    cases event <;> cases along <;> simp
  refine ⟨.stayed bare phase rfl, audited, phase ▸ counted, ?_, ?_⟩
  · intro held _ single
    refine first (phase ▸ held) ?_ single
    rw [due]
    exact bare.2.1
  · cases event <;> cases along <;> simp_all [Pipeline.expect, Model.expect]

theorem passage_kept (due : before.model.expected = .primaryB0) :
    let after : Pipeline := { before.observed image with
      model := { (before.observed image).model with
        stageDeliveryPending := true, expected := .command_34 } }
    Passage before.model after.model .primaryB0 ∧ after.model.Steady := by
  have began : before.model.phase = .begun := by simp [Model.phase, due]
  refine ⟨.imaged began rfl rfl, rfl, fun _ => Nat.le_add_left 1 _, ?_, by simp⟩
  intro _ _ single
  exact if_pos single

theorem passage_taken (sane : ¬ FinishesFirst before.model .primaryB0 reply)
    (due : before.model.expected = .primaryB0)
    (atOnce : (before.observed image).model.defers = false)
    (delivers : Delivered (before.observed image) image reply delivered) :
    let after : Pipeline := { delivered.expect .command_34 with pendingImage := none }
    Passage before.model after.model .primaryB0 ∧ after.model.Steady := by
  have began : before.model.phase = .begun := by simp [Model.phase, due]
  obtain ⟨same, count, kept⟩ := delivers.contact
  refine ⟨.imaged began rfl same, count.trans same.symm, fun _ => ?_, ?_,
    by simp [expect, Model.expect]⟩
  · exact same ▸ Nat.le_add_left 1 _
  · intro _ _ single
    have alone : before.model.observedStageCount + 1 = 1 := same.symm.trans single
    have opening : (before.observed image).model.transition = .firstNav := if_pos alone
    cases kept with
    | inl kept => exact kept.trans opening
    | inr ends =>
      -- the reply has finished the first contact
      have immediate : before.model.deferIntermediateStageDeliveryUntilReleaseReady = false := by
        unfold Model.defers at atOnce
        rwa [opening] at atOnce
      exact absurd ⟨rfl, by omega, immediate, granted_finish ends.2⟩ sane

theorem passage_scanned (steady : before.model.Steady) (due : before.model.expected = .ack_34)
    (scans : before.model.transition ≠ .firstNav) :
    Passage before.model (before.expect .command_36).model .ack_34 ∧
      (before.expect .command_36).model.Steady := by
  have holds : before.model.phase = .held := by simp [Model.phase, due]
  refine ⟨.stayed (by simp) (holds ▸ rfl) rfl, steady.audited, fun _ => steady.counted (.inl holds),
    ?_, fun _ => scans⟩
  intro _ _ single
  exact steady.first holds (by simp [due]) single

theorem passage_lifted (steady : before.model.Steady) (due : before.model.expected = .ack_34) :
    Passage before.model (before.expect .irq0200).model .ack_34 ∧
      (before.expect .irq0200).model.Steady := by
  have holds : before.model.phase = .held := by simp [Model.phase, due]
  exact ⟨.stayed (by simp) (holds ▸ rfl) rfl, steady.audited, fun _ => steady.counted (.inl holds),
    by simp [expect, Model.expect], by simp [expect, Model.expect]⟩

theorem passage_liftedWith (steady : before.model.Steady) (due : before.model.expected = .ack_34)
    (delivers : Delivered (before.expect .irq0200) image reply delivered) :
    Passage before.model delivered.unloaded.model .ack_34 ∧ delivered.unloaded.model.Steady := by
  have holds : before.model.phase = .held := by simp [Model.phase, due]
  obtain ⟨same, count, kept⟩ := delivers.contact
  have next : delivered.unloaded.model.expected = .irq0200 := delivers.expected
  refine ⟨.stayed (by simp) ?_ same, count.trans (steady.audited.trans same.symm), fun _ => ?_, ?_,
    ?_⟩
  · rw [holds]
    simp [Model.phase, next]
  · exact same ▸ steady.counted (.inl holds)
  · simp [next]
  · simp [next]

theorem passage_recovered (steady : before.model.Steady) (due : before.model.expected = .irq0100)
    (delivers : Delivered before image reply delivered) :
    Passage before.model (delivered.unloaded.expect .command_32).model .zeroMaskRecovery ∧
      (delivered.unloaded.expect .command_32).model.Steady := by
  have holds : before.model.phase = .held := by simp [Model.phase, due]
  obtain ⟨same, count, kept⟩ := delivers.contact
  refine ⟨.lifted (.inr rfl) holds (.inl rfl) same, count.trans (steady.audited.trans same.symm),
    fun _ => ?_, by simp [Model.phase, expect, Model.expect], by simp [expect, Model.expect]⟩
  exact same ▸ steady.counted (.inl holds)

/-- The last contact ends with its delivery, by a release or by a zero mask. -/
theorem passage_delivered {event : Event} {ready : Pipeline} (steady : before.model.Steady)
    (releases : event = .irq0200 ∨ event = .zeroMaskRecovery)
    (holds : before.model.phase = .held) (delivers : Delivered ready image reply delivered)
    (observed : ready.model.observedStageCount = before.model.observedStageCount)
    (audited : ready.model.audit = before.model.audit) :
    Passage before.model delivered.unloaded.finished.model event ∧
      delivered.unloaded.finished.model.Steady := by
  obtain ⟨same, count, kept⟩ := delivers.contact
  refine ⟨.lifted releases holds (.inr rfl) (same.trans observed), ?_,
    by simp [Model.phase, finished], by simp [Model.phase, finished], by simp [finished]⟩
  rw [audited, steady.audited, ← observed] at count
  exact count.trans same.symm

theorem passage_auxiliary (steady : before.model.Steady)
    (due : before.model.expected = .auxiliaryB0) (opening : before.model.transition = .firstNav) :
    Passage before.model (before.expect .command_32).model .auxiliaryB0 ∧
      (before.expect .command_32).model.Steady := by
  have lifts : before.model.phase = .lifted := by simp [Model.phase, due, opening]
  exact ⟨.stayed (by simp) (lifts ▸ rfl) rfl, steady.audited, fun _ => steady.counted (.inr lifts),
    by simp [Model.phase, expect, Model.expect], by simp [expect, Model.expect]⟩

theorem passage_auxiliaryScan (steady : before.model.Steady)
    (due : before.model.expected = .auxiliaryB0) (repeated : before.model.transition ≠ .firstNav) :
    let after : Pipeline := { before with
      model := { before.model with repeatedAfterAuxiliary := true, expected := .command_34 } }
    Passage before.model after.model .auxiliaryB0 ∧ after.model.Steady := by
  have holds : before.model.phase = .held := by simp [Model.phase, due, repeated]
  refine ⟨.stayed (by simp) (holds ▸ rfl) rfl, steady.audited, fun _ => steady.counted (.inl holds),
    ?_, by simp⟩
  intro _ _ single
  exact steady.first holds (by simp [due]) single

theorem passage_released (steady : before.model.Steady) (due : before.model.expected = .irq0200) :
    let after : Pipeline := { before with
      model := { before.model with
        repeatedAfterAuxiliary := false
        expected := if before.model.transition = .firstNav then .command_20 else .command_32 } }
    Passage before.model after.model .irq0200 ∧ after.model.Steady := by
  have holds : before.model.phase = .held := by simp [Model.phase, due]
  have one := steady.counted (.inl holds)
  by_cases opening : before.model.transition = .firstNav
  · rw [if_pos opening]
    exact ⟨.lifted (.inl rfl) holds (.inl (if_pos opening)) rfl, steady.audited, fun _ => one,
      by simp [Model.phase, opening], by simp⟩
  · rw [if_neg opening]
    exact ⟨.lifted (.inl rfl) holds (.inl rfl) rfl, steady.audited, fun _ => one,
      by simp [Model.phase], by simp⟩

theorem passage_releasedLast (steady : before.model.Steady)
    (due : before.model.expected = .irq0200) :
    let after : Pipeline :=
      { before with model := { before.model with repeatedAfterAuxiliary := false } }.finished
    Passage before.model after.model .irq0200 ∧ after.model.Steady := by
  have holds : before.model.phase = .held := by simp [Model.phase, due]
  exact ⟨.lifted (.inl rfl) holds (.inr rfl) rfl, steady.audited, by simp [Model.phase, finished],
    by simp [Model.phase, finished], by simp [finished]⟩

theorem passage_rearmed {next : Event} (steady : before.model.Steady)
    (due : before.model.expected = .ack_32) (along : next = .command_50 ∨ next = .irq2) :
    Passage before.model (before.expect next).model .ack_32 ∧
      (before.expect next).model.Steady := by
  have lifts : before.model.phase = .lifted := by simp [Model.phase, due]
  have one := steady.counted (.inr lifts)
  cases along with
  | inl navigates =>
    subst navigates
    exact ⟨.stayed (by simp) (lifts ▸ rfl) rfl, steady.audited, fun _ => one,
      by simp [Model.phase, expect, Model.expect], by simp [expect, Model.expect]⟩
  | inr waits =>
    subst waits
    exact ⟨.rearmed lifts rfl rfl, steady.audited, fun _ => one,
      by simp [Model.phase, expect, Model.expect], by simp [expect, Model.expect]⟩

theorem passage_navigated (steady : before.model.Steady) (due : before.model.expected = .nav) :
    let after : Pipeline := { before with
      model := { before.model with firstNavSeen := true, expected := .command_32 } }
    Passage before.model after.model .nav ∧ after.model.Steady := by
  have lifts : before.model.phase = .lifted := by simp [Model.phase, due]
  exact ⟨.stayed (by simp) (lifts ▸ rfl) rfl, steady.audited, fun _ => steady.counted (.inr lifts),
    by simp [Model.phase], by simp⟩

end

/-- The contact after an event that is accepted. -/
theorem Accepts.passage {before after : Pipeline} {reply : Reply} {event : Event}
    {samples : Option (List UInt16)} (accepts : Accepts before reply event samples after)
    (steady : before.model.Steady) (sane : ¬ FinishesFirst before.model event reply) :
    Passage before.model after.model event ∧ after.model.Steady := by
  have held {due : Event} (expected : before.model.expected = due)
      (irq : due = .irq0100 ∨ due = .irq0200) : before.model.phase = .held := by
    cases irq with
    | inl irq => simp [Model.phase, expected, irq]
    | inr irq => simp [Model.phase, expected, irq]
  cases accepts with
  | contact due => exact passage_contact steady due
  | passed along due => exact passage_passed steady along due
  | kept due => exact passage_kept due
  | taken due empty made within atOnce delivers => exact passage_taken sane due atOnce delivers
  | scanned due scans => exact passage_scanned steady due scans.1
  | lifted due => exact passage_lifted steady due
  | liftedWith due ends ready loaded delivers => exact passage_liftedWith steady due delivers
  | recovered due repeated pending unscanned loaded delivers =>
    exact passage_recovered steady due delivers
  | recoveredLast due repeated pending unscanned loaded delivers =>
    exact passage_delivered steady (.inr rfl) (held due (.inl rfl)) delivers rfl rfl
  | auxiliary due opening => exact passage_auxiliary steady due opening
  | auxiliaryScan due repeated => exact passage_auxiliaryScan steady due repeated
  | released due more along =>
    subst along
    exact passage_released steady due
  | releasedLast due => exact passage_releasedLast steady due
  | releasedWith due last pending loaded delivers =>
    exact passage_delivered steady (.inl rfl) (held due (.inr rfl)) delivers rfl rfl
  | rearmed due along =>
    refine passage_rearmed steady due ?_
    split at along
    · exact .inl along
    · exact .inr along
  | navigated due => exact passage_navigated steady due

end Pipeline

/-! ## The material of a contact -/

/-- FDT material that has been taken: by the IRQ2 and the IRQ0200 of a contact, by the zero mask
that stands for the latter, and by an IRQ0080 before it. -/
inductive Taken where
  | touched (raw : Table) (touchFlags : UInt16)
  | released (raw : Table) (touchFlags : UInt16)
  | recovered (raw : Table)
  | refreshed (raw : Table)

/-- The tables that the commands of a contact are to carry. -/
structure Contact where
  /-- The up-table of its IRQ2. -/
  up : Option Table
  /-- The down-table in force before it. -/
  before : Option Table
  /-- The down-table of its release or zero mask. -/
  release : Option Table
  /-- The down-table that is in force now. -/
  inForce : Option Table

def Contact.after (contact : Contact) : Taken → Contact
  | .touched raw touchFlags => {
      up := derived (deriveUpTable raw touchFlags 0x1d)
      before := contact.inForce
      release := none
      inForce := contact.inForce }
  | .released raw touchFlags =>
    let table := derived (deriveDownTable raw touchFlags)
    { contact with release := table, inForce := table }
  | .recovered raw =>
    let table := derived (deriveChannels FdtState.zeroComponent raw channels)
    { contact with release := table, inForce := table }
  | .refreshed raw => { contact with inForce := derived (deriveBaselineTable raw 0) }

def contactOf (log : List Taken) : Contact := log.foldl Contact.after ⟨none, none, none, none⟩

/-- The stages and the tables of the FDT state in the phases of a contact. -/
def FdtState.Level (fdt : FdtState) (contact : Contact) (observed : Nat) : Phase → Prop
  | .waiting =>
    fdt.currentStage = observed ∧ fdt.upStage = observed ∧ fdt.downStage = observed ∧
      (1 ≤ observed → contact.inForce = some fdt.downTable)
  | .begun =>
    fdt.currentStage = observed + 1 ∧ fdt.upStage = observed + 1 ∧ fdt.downStage = observed ∧
      contact.up = some fdt.upTable ∧ (1 ≤ observed → contact.before = some fdt.downTable)
  | .held =>
    fdt.currentStage = observed ∧ fdt.upStage = observed ∧ fdt.downStage + 1 = observed ∧
      contact.up = some fdt.upTable ∧ (2 ≤ observed → contact.before = some fdt.downTable)
  | .lifted =>
    fdt.currentStage = observed ∧ fdt.upStage = observed ∧ fdt.downStage = observed ∧
      contact.release = some fdt.downTable ∧ contact.inForce = some fdt.downTable
  | .ended => True

namespace FdtState

theorem observeIrq2_level {fdt after : FdtState} {contact : Contact} {observed : Nat}
    {touchFlags : UInt16} {raw : Table} (level : fdt.Level contact observed .waiting)
    (accepted : fdt.observeIrq2 (observed + 1) touchFlags raw = (.ok (), after)) :
    after.failed = false ∧
      after.Level (contact.after (.touched raw touchFlags)) observed .begun := by
  obtain ⟨current, up, down, inForce⟩ := level
  unfold observeIrq2 at accepted
  rw [if_neg (Nat.succ_ne_zero observed)] at accepted
  split at accepted
  · cases accepted
  rename_i running
  cases derives : deriveUpTable raw touchFlags 0x1d fdt.upTable with
  | mk verdict table =>
    rw [derives] at accepted
    cases verdict with
    | false => cases accepted
    | true =>
      cases accepted
      exact ⟨by simpa using (not_or.mp running).1, rfl, rfl, down, derived_up derives, inForce⟩

theorem observeIrq0200_level {fdt after : FdtState} {contact : Contact} {observed : Nat}
    {touchFlags : UInt16} {raw : Table} (level : fdt.Level contact observed .held)
    (accepted : fdt.observeIrq0200 observed touchFlags raw = (.ok (), after)) :
    after.failed = false ∧
      after.Level (contact.after (.released raw touchFlags)) observed .lifted := by
  obtain ⟨current, up, down, -, -⟩ := level
  unfold observeIrq0200 at accepted
  split at accepted
  · cases accepted
  split at accepted
  · cases accepted
  rename_i running
  cases derives : deriveDownTable raw touchFlags fdt.downTable with
  | mk verdict table =>
    rw [derives] at accepted
    cases verdict with
    | false => cases accepted
    | true =>
      cases accepted
      exact ⟨by simpa using (not_or.mp running).1, current, up, rfl, derived_down derives,
        derived_down derives⟩

theorem observeZero_level {fdt after : FdtState} {contact : Contact} {observed : Nat}
    {raw : Table} (level : fdt.Level contact observed .held)
    (accepted : fdt.observeZero observed raw = (.ok (), after)) :
    after.failed = false ∧ after.Level (contact.after (.recovered raw)) observed .lifted := by
  obtain ⟨current, up, down, -, -⟩ := level
  unfold observeZero at accepted
  split at accepted
  · cases accepted
  rename_i running
  cases derives : deriveChannels zeroComponent raw channels (Block.zero 12) with
  | mk verdict table =>
    rw [derives] at accepted
    cases verdict with
    | false => cases accepted
    | true =>
      cases accepted
      have running : fdt.failed = false := by simpa using (not_or.mp (not_or.mp running).2).1
      exact ⟨running, current, up, rfl, derived_of_eq derives, derived_of_eq derives⟩

theorem refreshIrq80_level {fdt after : FdtState} {contact : Contact} {observed : Nat}
    {raw table : Table} (level : fdt.Level contact observed .waiting)
    (accepted : fdt.refreshIrq80 raw = (.ok table, after)) :
    after.failed = false ∧ after.Level (contact.after (.refreshed raw)) observed .waiting ∧
      derived (deriveBaselineTable raw 0) = some table := by
  obtain ⟨current, up, down, -⟩ := level
  unfold refreshIrq80 at accepted
  split at accepted
  · cases accepted
  rename_i running
  cases derives : deriveBaselineTable raw 0 (Block.zero 12) with
  | mk verdict candidate =>
    rw [derives] at accepted
    cases verdict with
    | false => cases accepted
    | true =>
      cases accepted
      exact ⟨by simpa using (not_or.mp running).1,
        ⟨current, up, down, fun _ => derived_of_eq derives⟩, derived_of_eq derives⟩

end FdtState

/-! ## The command that is due -/

/-- The command carries what the contact says. -/
def PreparedCommand.Right (prepared : PreparedCommand) (contact : Contact) : Prop :=
  match prepared.intent.event with
  | .command_34 =>
    ∃ table, contact.up = some table ∧ prepared.body = [0x0a, 0x01] ++ table.val
  | .command_36 =>
    2 ≤ prepared.intent.stageIndex ∧
      ∃ table, contact.before = some table ∧ prepared.body = [0x09, 0x01] ++ table.val
  | .command_32 =>
    ∃ table timestamp, contact.release = some table ∧
      prepared.body = [0x08, 0x01] ++ table.val ++ putU16Le timestamp
  | _ => prepared.body = [0x01, 0x00]

/-- The class of the body of a command. -/
def Event.bodyClass : Event → BodyClass
  | .command_32 => .fdtTimestamp_0801
  | .command_34 => .fdt_0A01
  | .command_36 => .fdt_0901
  | _ => .simple_01_00

/-- What the plan says about the command that is due. -/
structure CommandIntent.Due (intent : CommandIntent) (model : Model) : Prop where
  event : intent.event = model.expected
  stage : intent.stageIndex = if model.expected = .command_22 then model.observedStageCount + 1
    else model.observedStageCount
  class_ : intent.bodyClass = model.expected.bodyClass
  valid : intent.stageIndex ≠ 0 → intentContractValid intent = true

theorem CommandPlan.describe_valid {plan : CommandPlan} {observed : Nat} {event : Event}
    (command : isCommandEvent event = true) :
    ∃ purpose control, plan.describe observed event = some (purpose, event.bodyClass, control) ∧
      ∀ stageIndex, stageIndex ≠ 0 →
        intentContractValid ⟨event, purpose, event.bodyClass, stageIndex, control⟩ = true := by
  cases event <;> cases command
  all_goals
    refine ⟨_, _, rfl, fun stageIndex placed => ?_⟩
    simp only [intentContractValid, Event.bodyClass, ne_eq, placed, not_false_eq_true,
      decide_true, Bool.true_and, true_and, and_true, decide_eq_true_eq]
  -- COMMAND_20, COMMAND_22, COMMAND_36 and COMMAND_50 have one purpose, the others two
  all_goals try split
  all_goals simp

theorem CommandPlan.peek_due {plan : CommandPlan} (planned : plan.failed = false)
    (more : plan.pipeline.model.complete = false) (steady : plan.pipeline.model.Steady)
    (due : isCommandEvent plan.pipeline.model.expected = true) :
    ∃ intent, plan.peek = some intent ∧ intent.Due plan.pipeline.model := by
  obtain ⟨purpose, control, described, valid⟩ := @describe_valid plan
    plan.pipeline.model.observedStageCount _ due
  unfold peek
  rw [if_neg (by simp [planned, Pipeline.isComplete, more])]
  unfold Pipeline.getExpectedEvent
  rw [steady.audited, described]
  exact ⟨_, rfl, rfl, rfl, rfl, fun placed => valid _ placed⟩

/-- Only commands are planned. -/
theorem CommandPlan.peek_command {plan : CommandPlan}
    {intent : CommandIntent} (peeks : plan.peek = some intent) :
    isCommandEvent plan.pipeline.model.expected = true := by
  unfold CommandPlan.peek Pipeline.getExpectedEvent at peeks
  dsimp only at peeks
  split at peeks
  · cases peeks
  cases expected : plan.pipeline.model.expected <;> rw [expected] at peeks <;> first
    | rfl
    | cases peeks

theorem CommandPlan.peek_event {plan : CommandPlan} {intent : CommandIntent}
    (peeks : plan.peek = some intent) : intent.event = plan.pipeline.model.expected := by
  unfold CommandPlan.peek Pipeline.getExpectedEvent at peeks
  dsimp only at peeks
  split at peeks
  · cases peeks
  · split at peeks
    · cases peeks
    · cases peeks
      rfl

/-- Feeding the plan with an event that the pipeline accepts. -/
theorem CommandPlan.feed_ok {plan after : CommandPlan} {event : Event}
    {samples : Option (List UInt16)} {reply : Reply} (tidy : plan.pipeline.Tidy)
    (accepted : plan.feed event samples reply = (.ok (), after)) :
    ∃ pipeline, after = { plan with pipeline, lastEvent := event } ∧
      Pipeline.Accepts plan.pipeline reply event samples pipeline ∧ pipeline.Tidy ∧
        plan.pipeline.model.complete = false := by
  unfold CommandPlan.feed at accepted
  have feeds := @Pipeline.feed_accepts plan.pipeline event samples reply tidy
  have runs := @Pipeline.feed_running plan.pipeline event samples reply
  rcases result : plan.pipeline.feed event samples reply with ⟨verdict, pipeline⟩
  rw [result] at accepted feeds runs
  cases verdict with
  | error error => cases accepted
  | ok _ =>
    cases accepted
    have more := (runs rfl).2
    exact ⟨pipeline, rfl, feeds rfl, (feeds rfl).tidy tidy more, more⟩

/-- Where the FDT state stands when a command is due. -/
theorem FdtState.Level.current {fdt : FdtState} {contact : Contact} {model : Model}
    (level : fdt.Level contact model.observedStageCount model.phase)
    (command : isCommandEvent model.expected = true) :
    fdt.currentStage = if model.expected = .command_22 then model.observedStageCount + 1
      else model.observedStageCount := by
  unfold Model.phase at level
  cases expected : model.expected <;> rw [expected] at command level <;> cases command
  case command_20 =>
    dsimp only at level
    split at level <;> exact level.1
  all_goals exact level.1

theorem Model.Steady.placed {model : Model} (steady : model.Steady)
    (command : isCommandEvent model.expected = true) :
    (if model.expected = .command_22 then model.observedStageCount + 1
      else model.observedStageCount) ≠ 0 := by
  have counted := steady.counted
  unfold Model.phase at counted
  cases expected : model.expected <;> rw [expected] at command counted <;> cases command
  case command_20 =>
    dsimp only at counted
    split at counted <;> have one := counted (by simp) <;> simp <;> omega
  case command_22 => simp
  all_goals
    have one := counted (by simp)
    simp
    omega

/-- The command that is due finds its material. -/
theorem FdtState.resolve_due {fdt : FdtState} {contact : Contact} {model : Model}
    {intent : CommandIntent} {timestamp : Option UInt16} (tabled : fdt.failed = false)
    (level : fdt.Level contact model.observedStageCount model.phase) (steady : model.Steady)
    (due : intent.Due model) (command : isCommandEvent model.expected = true)
    (stamped : timestamp.isSome = decide (intent.bodyClass = .fdtTimestamp_0801)) :
    ∃ material body, fdt.resolve intent timestamp = (.ok material, fdt) ∧
      commandBodyBuild intent material = .ok body ∧
      PreparedCommand.Right ⟨intent, body⟩ contact := by
  obtain ⟨event, stage, class_, valid⟩ := due
  have current := level.current command
  have placed := steady.placed command
  rw [← stage] at current placed
  have contract := valid placed
  have runs : ¬ (fdt.failed = true ∨ intent.stageIndex ≠ fdt.currentStage) := by
    simp [tabled, current]
  unfold resolve
  rw [if_neg runs]
  have stage_ := stage
  cases expected : model.expected <;> rw [expected] at command class_ event stage_ <;> cases command
  case command_22 | command_20 | command_50 =>
    rw [class_] at stamped ⊢
    refine ⟨none, _, if_neg (by simp [stamped, Event.bodyClass]),
      commandBodyBuild_simple contract class_, ?_⟩
    simp [PreparedCommand.Right, event]
  case command_34 =>
    have held : model.phase = .held := by simp [Model.phase, expected]
    rw [held] at level
    obtain ⟨-, up, -, table, -⟩ := level
    rw [class_] at stamped ⊢
    have unstamped : timestamp = none := by simpa [Event.bodyClass] using stamped
    refine ⟨_, _, if_neg ?_, commandBodyBuild_material contract ?_ ?_, ?_⟩
    · simp [up, stage_, unstamped]
    · simp [class_, Event.bodyClass]
    · simp [materialValid, class_, Event.bodyClass, BodyClass.role]
    · simp only [PreparedCommand.Right, event]
      exact ⟨fdt.upTable, table, by simp [BodyClass.body, class_, Event.bodyClass, BodyClass.opening]⟩
  case command_36 =>
    have held : model.phase = .held := by simp [Model.phase, expected]
    have one := steady.counted (.inl held)
    have first := steady.first held (by simp [expected])
    have more := steady.scans (.inl expected)
    have two : 2 ≤ model.observedStageCount := by
      by_contra few
      exact more (first (by omega))
    rw [held] at level
    obtain ⟨-, -, down, -, table⟩ := level
    rw [class_] at stamped ⊢
    have unstamped : timestamp = none := by simpa [Event.bodyClass] using stamped
    have stages : intent.stageIndex = model.observedStageCount := stage_
    refine ⟨_, _, if_neg ?_, commandBodyBuild_material contract ?_ ?_, ?_⟩
    · simp only [stages, unstamped, Option.isSome_none, Bool.false_eq_true, or_false]
      omega
    · simp [class_, Event.bodyClass]
    · simp [materialValid, class_, Event.bodyClass, BodyClass.role]
    · simp only [PreparedCommand.Right, event]
      refine ⟨stages ▸ two, fdt.downTable, table two, ?_⟩
      simp [BodyClass.body, class_, Event.bodyClass, BodyClass.opening]
  case command_32 =>
    have lifts : model.phase = .lifted := by simp [Model.phase, expected]
    rw [lifts] at level
    obtain ⟨-, -, down, release, -⟩ := level
    rw [class_] at stamped ⊢
    have stages : intent.stageIndex = model.observedStageCount := stage_
    cases timestamp with
    | none => cases stamped
    | some timestamp =>
      refine ⟨_, _, if_neg ?_, commandBodyBuild_material contract ?_ ?_, ?_⟩
      · simp [down, stages]
      · simp [class_, Event.bodyClass]
      · simp [materialValid, class_, Event.bodyClass, BodyClass.role]
      · simp only [PreparedCommand.Right, event]
        refine ⟨fdt.downTable, timestamp, release, ?_⟩
        simp [BodyClass.body, class_, Event.bodyClass, BodyClass.opening]

/-- A command keeps the phase of the contact. -/
theorem Passage.of_command {before after : Model} {event : Event}
    (passage : Passage before after event) (command : isCommandEvent event = true) :
    after.phase = before.phase ∧ after.observedStageCount = before.observedStageCount := by
  cases passage with
  | touched => cases command
  | imaged => cases command
  | lifted releases =>
    obtain rfl | rfl := releases <;> cases command
  | rearmed => cases command
  | stayed _ phase same => exact ⟨phase, same⟩

/-! ## Calls of the adapter -/

/-- A call, with the answers of the image and timestamp callbacks. -/
inductive Call where
  | observe (event : Event) (samples : Option (List UInt16)) (fdtRaw : Option (List UInt8))
      (fdtTouchFlags : UInt16) (reply : Reply)
  | prepareIrq80Rearm (raw : Table) (stamp : Stamp)
  | prepare (stamp : Stamp)
  | commit (commandEvent : Event)

/-- The material of an observation. -/
def taken (event : Event) (fdtRaw : Option (List UInt8)) (fdtTouchFlags : UInt16) : List Taken :=
  match event, fdtRaw.bind (Block.ofList? 12) with
  | .irq2, some raw => [.touched raw fdtTouchFlags]
  | .zeroMaskRecovery, some raw => [.recovered raw]
  | .irq0200, some raw => [.released raw fdtTouchFlags]
  | _, _ => []

/-- What a call that succeeds notes. -/
def noted {α : Type} (notes : List Taken) (result : Except GError α × Adapter) :
    Adapter × List Taken :=
  match result with
  | (.ok _, after) => (after, notes)
  | (.error _, after) => (after, [])

namespace Adapter

/-- A call, which notes the material that it has taken. -/
def step (adapter : Adapter) : Call → Adapter × List Taken
  | .observe event samples fdtRaw fdtTouchFlags reply =>
    noted (taken event fdtRaw fdtTouchFlags)
      (adapter.observe event samples fdtRaw fdtTouchFlags reply)
  | .prepareIrq80Rearm raw stamp => noted [.refreshed raw] (adapter.prepareIrq80Rearm raw stamp)
  | .prepare stamp => noted [] (adapter.prepare stamp)
  | .commit commandEvent => noted [] (adapter.commit commandEvent)

/-- The adapter, its model and its tables agree about the contact. -/
structure InStep (contact : Contact) (adapter : Adapter) : Prop where
  planned : adapter.plan.failed = false
  running : adapter.plan.pipeline.isFailed = false
  tidy : adapter.plan.pipeline.Tidy
  steady : adapter.plan.pipeline.model.Steady
  tabled : adapter.fdt.failed = false
  level : adapter.fdt.Level contact adapter.plan.pipeline.model.observedStageCount
    adapter.plan.pipeline.model.phase
  prepared : ∀ prepared, adapter.cached = some prepared →
    adapter.plan.peek = some prepared.intent ∧ prepared.Right contact ∧
      ∃ frame, outboundFrameBuild prepared = .ok frame

/-- A command has been prepared in a state that is otherwise unchanged. -/
structure Prepares (contact : Contact) (adapter : Adapter) (prepared : PreparedCommand)
    (after : Adapter) : Prop where
  event : prepared.intent.event = adapter.plan.pipeline.model.expected
  right : prepared.Right contact
  frame : ∃ frame, outboundFrameBuild prepared = .ok frame
  stays : InStep contact after

theorem InStep.more {contact : Contact} {adapter : Adapter} (inStep : InStep contact adapter)
    (command : isCommandEvent adapter.plan.pipeline.model.expected = true) :
    adapter.plan.pipeline.model.complete = false := by
  by_contra complete
  have ended := inStep.tidy.ended (by simpa using complete)
  rw [ended] at command
  cases command

theorem InStep.builds {contact : Contact} {adapter : Adapter} {intent : CommandIntent}
    {timestamp : Option UInt16} (inStep : InStep contact adapter) (peeks : adapter.plan.peek = some intent)
    (due : intent.Due adapter.plan.pipeline.model)
    (command : isCommandEvent adapter.plan.pipeline.model.expected = true)
    (stamped : timestamp.isSome = decide (intent.bodyClass = .fdtTimestamp_0801)) :
    ∃ prepared after, adapter.build intent timestamp = (.ok prepared, after) ∧
      Prepares contact adapter prepared after := by
  obtain ⟨material, body, resolves, builds, right⟩ :=
    FdtState.resolve_due inStep.tabled inStep.level inStep.steady due command stamped
  have frame := outboundFrameBuild_built builds
  refine ⟨⟨intent, body⟩, { adapter with cached := some ⟨intent, body⟩ }, ?_, due.event, right,
    frame, { inStep with prepared := ?_ }⟩
  · unfold build
    rw [resolves]
    dsimp only
    rw [builds]
  · rintro _ ⟨⟩
    exact ⟨peeks, right, frame⟩

/-- Preparing the command that is due. -/
theorem InStep.prepares {contact : Contact} {adapter : Adapter} (inStep : InStep contact adapter)
    (running : adapter.failed = false)
    (command : isCommandEvent adapter.plan.pipeline.model.expected = true) (timestamp : UInt16) :
    ∃ prepared after, adapter.prepare (.ok timestamp) = (.ok prepared, after) ∧
      Prepares contact adapter prepared after := by
  obtain ⟨intent, peeks, due⟩ :=
    CommandPlan.peek_due inStep.planned (inStep.more command) inStep.steady command
  have runs : ¬ (adapter.failed = true ∨ adapter.plan.isComplete = true) := by
    simp [running, CommandPlan.isComplete, Pipeline.isComplete, inStep.more command]
  unfold prepare
  rw [if_neg runs]
  cases cached : adapter.cached with
  | some prepared =>
    obtain ⟨same, right, frame⟩ := inStep.prepared prepared cached
    obtain rfl : intent = prepared.intent := Option.some.inj (peeks.symm.trans same)
    exact ⟨prepared, adapter, rfl, due.event, right, frame, inStep⟩
  | none =>
    rw [peeks]
    by_cases stamps : intent.bodyClass = .fdtTimestamp_0801
    · dsimp only
      rw [if_pos stamps]
      exact inStep.builds peeks due command (by simp [stamps])
    · dsimp only
      rw [if_neg stamps]
      exact inStep.builds peeks due command (by simp [stamps])

/-- A command that is prepared without a timestamp needs none. -/
theorem prepare_stamped {adapter after : Adapter} {stamp : Stamp} {prepared : PreparedCommand}
    (accepted : adapter.prepare stamp = (.ok prepared, after)) :
    ∃ timestamp, adapter.prepare (.ok timestamp) = (.ok prepared, after) := by
  cases stamp with
  | ok timestamp => exact ⟨timestamp, accepted⟩
  | error error =>
    refine ⟨0, ?_⟩
    unfold prepare at accepted ⊢
    split at accepted
    · cases accepted
    rename_i runs
    rw [if_neg runs]
    cases cached : adapter.cached with
    | some command =>
      rw [cached] at accepted
      exact accepted
    | none =>
      rw [cached] at accepted
      cases peeks : adapter.plan.peek with
      | none =>
        rw [peeks] at accepted
        cases accepted
      | some intent =>
        rw [peeks] at accepted
        dsimp only at accepted ⊢
        split at accepted
        · cases accepted
        · rename_i bare
          rw [if_neg bare]
          exact accepted

/-- A command is prepared only when it is due. -/
theorem InStep.prepare_ok {contact : Contact} {adapter after : Adapter} {stamp : Stamp}
    {prepared : PreparedCommand} (inStep : InStep contact adapter)
    (accepted : adapter.prepare stamp = (.ok prepared, after)) : InStep contact after := by
  obtain ⟨timestamp, stamped⟩ := prepare_stamped accepted
  have opened := stamped
  unfold prepare at opened
  split at opened
  · cases opened
  rename_i runs
  have running : adapter.failed = false := by simpa using (not_or.mp runs).1
  have command : isCommandEvent adapter.plan.pipeline.model.expected = true := by
    cases cached : adapter.cached with
    | some command => exact CommandPlan.peek_command (inStep.prepared command cached).1
    | none =>
      rw [cached] at opened
      cases peeks : adapter.plan.peek with
      | none =>
        rw [peeks] at opened
        cases opened
      | some intent => exact CommandPlan.peek_command peeks
  obtain ⟨found, last, prepares, result⟩ := inStep.prepares running command timestamp
  rw [stamped] at prepares
  cases prepares
  exact result.stays

/-- Most events say nothing about the tables. -/
theorem observeFdt_bare {adapter : Adapter} {event : Event}
    (bare : event ≠ .irq2 ∧ event ≠ .irq0200 ∧ event ≠ .zeroMaskRecovery)
    (fdtRaw : Option (List UInt8)) (fdtTouchFlags : UInt16) :
    adapter.observeFdt event fdtRaw fdtTouchFlags = (.ok (), adapter.fdt) ∧
      taken event fdtRaw fdtTouchFlags = [] := by
  unfold observeFdt taken
  cases event <;> simp_all

theorem payload_table {event : Event} {samples : Option (List UInt16)}
    {fdtRaw : Option (List UInt8)} {fdtTouchFlags : UInt16}
    (carries : event = .irq2 ∨ event = .irq0200 ∨ event = .zeroMaskRecovery)
    (shaped : payloadContractValid event samples fdtRaw fdtTouchFlags = true) :
    ∃ raw, fdtRaw.bind (Block.ofList? 12) = some raw := by
  have sized : fdtRaw.map List.length = some 12 := by
    obtain rfl | rfl | rfl := carries <;>
      simp only [payloadContractValid, Bool.and_eq_true, decide_eq_true_eq] at shaped <;>
      exact shaped.1.2
  cases fdtRaw with
  | none => cases sized
  | some octets =>
    have length : octets.length = 12 := by simpa using sized
    exact ⟨⟨octets, length⟩, by simp [Block.ofList?, length]⟩

/-- An event has been accepted, by an observation or a commit. -/
structure Advances (before : Adapter) (event : Event) (after : Adapter) : Prop where
  accepts : ∃ reply samples,
    Pipeline.Accepts before.plan.pipeline reply event samples after.plan.pipeline
  tidy : after.plan.pipeline.Tidy
  more : before.plan.pipeline.model.complete = false
  running : after.failed = false
  planned : after.plan.failed = false
  free : after.cached = none

theorem observe_advances {adapter after : Adapter} {event : Event}
    {samples : Option (List UInt16)} {fdtRaw : Option (List UInt8)} {fdtTouchFlags : UInt16}
    {reply : Reply} (tidy : adapter.plan.pipeline.Tidy)
    (accepted : adapter.observe event samples fdtRaw fdtTouchFlags reply = (.ok (), after)) :
    Advances adapter event after ∧
      Pipeline.Accepts adapter.plan.pipeline reply event samples after.plan.pipeline := by
  unfold observe at accepted
  split at accepted
  · cases accepted
  rename_i runs
  split at accepted
  · cases accepted
  split at accepted
  · cases accepted
  split at accepted
  · cases accepted
  rename_i plan plans
  cases accepted
  unfold CommandPlan.observe at plans
  split at plans
  · cases plans
  rename_i planned
  split at plans
  · cases plans
  obtain ⟨pipeline, rfl, accepts, tidy, more⟩ := CommandPlan.feed_ok tidy plans
  refine ⟨?_, accepts⟩
  exact {
    accepts := ⟨reply, samples, accepts⟩
    tidy
    more
    running := by simpa using (not_or.mp runs).1
    planned := by simpa using (not_or.mp planned).1
    free := by simpa using (not_or.mp (not_or.mp runs).2).1 }

theorem commit_advances {adapter after : Adapter} {commandEvent : Event}
    (tidy : adapter.plan.pipeline.Tidy)
    (accepted : adapter.commit commandEvent = (.ok (), after)) :
    Advances adapter commandEvent after ∧ isCommandEvent commandEvent = true ∧
      commandEvent = adapter.plan.pipeline.model.expected := by
  unfold commit at accepted
  split at accepted
  · cases accepted
  rename_i runs
  split at accepted
  · cases accepted
  split at accepted
  · cases accepted
  unfold CommandPlan.commit at accepted
  cases peeks : adapter.plan.peek with
  | none =>
    rw [peeks] at accepted
    cases accepted
  | some intent =>
    rw [peeks] at accepted
    dsimp only at accepted
    by_cases differs : commandEvent ≠ intent.event
    · rw [if_pos differs] at accepted
      cases accepted
    rw [if_neg differs] at accepted
    have same : commandEvent = adapter.plan.pipeline.model.expected :=
      (not_not.mp differs).trans (CommandPlan.peek_event peeks)
    have command : isCommandEvent commandEvent = true := same ▸ CommandPlan.peek_command peeks
    have planned : adapter.plan.failed = false := by
      unfold CommandPlan.peek at peeks
      dsimp only at peeks
      split at peeks
      · cases peeks
      · rename_i runs
        simpa using (not_or.mp runs).1
    rcases fed : adapter.plan.feed commandEvent none ⟨[], .ok ()⟩ with ⟨verdict, plan⟩
    rw [fed] at accepted
    cases verdict with
    | error error => cases accepted
    | ok _ =>
      cases accepted
      obtain ⟨pipeline, rfl, accepts, tidy, more⟩ := CommandPlan.feed_ok tidy fed
      have recorded : ∀ plan : CommandPlan, (plan.recordIntent intent).pipeline = plan.pipeline ∧
          (plan.recordIntent intent).failed = plan.failed := by
        intro plan
        unfold CommandPlan.recordIntent
        split <;> exact ⟨rfl, rfl⟩
      refine ⟨⟨⟨⟨[], .ok ()⟩, none, ?_⟩, ?_, more, by simpa using runs, ?_, rfl⟩, command, same⟩
      · rw [(recorded _).1]
        exact accepts
      · rw [(recorded _).1]
        exact tidy
      · rw [(recorded _).2]
        exact planned

/-- The tables and the contact after an observation. -/
theorem InStep.observeFdt_level {contact : Contact} {adapter : Adapter} {fdt : FdtState}
    {event : Event} {samples : Option (List UInt16)} {after : Model}
    {fdtRaw : Option (List UInt8)} {fdtTouchFlags : UInt16}
    (inStep : InStep contact adapter)
    (shaped : payloadContractValid event samples fdtRaw fdtTouchFlags = true)
    (accepted : adapter.observeFdt event fdtRaw fdtTouchFlags = (.ok (), fdt))
    (passage : Passage adapter.plan.pipeline.model after event) :
    fdt.failed = false ∧
      fdt.Level ((taken event fdtRaw fdtTouchFlags).foldl Contact.after contact)
        after.observedStageCount after.phase := by
  obtain ⟨-, -, -, steady, tabled, level, -⟩ := inStep
  cases passage with
  | touched waits begins same =>
    obtain ⟨raw, made⟩ := payload_table (.inl rfl) shaped
    unfold observeFdt at accepted
    unfold taken
    rw [made, steady.audited] at accepted
    rw [made, begins, same]
    rw [waits] at level
    exact FdtState.observeIrq2_level level accepted
  | imaged began holds more =>
    obtain ⟨kept, silent⟩ := @observeFdt_bare adapter .primaryB0 (by simp) fdtRaw fdtTouchFlags
    rw [kept] at accepted
    cases accepted
    rw [began] at level
    obtain ⟨current, up, down, table, before⟩ := level
    rw [silent, holds, more]
    exact ⟨tabled, current, up, congrArg (· + 1) down, table, fun two => before (by omega)⟩
  | lifted releases held lifts same =>
    obtain ⟨raw, made⟩ := payload_table (.inr releases) shaped
    have lifted : fdt.failed = false ∧
        fdt.Level ((taken event fdtRaw fdtTouchFlags).foldl Contact.after contact)
          adapter.plan.pipeline.model.observedStageCount .lifted := by
      unfold observeFdt at accepted
      unfold taken
      rw [made, steady.audited] at accepted
      rw [made]
      rw [held] at level
      cases releases with
      | inl release =>
        subst release
        exact FdtState.observeIrq0200_level level accepted
      | inr recovery =>
        subst recovery
        exact FdtState.observeZero_level level accepted
    refine ⟨lifted.1, ?_⟩
    rw [same]
    cases lifts with
    | inl lifts => exact lifts ▸ lifted.2
    | inr ends => exact ends ▸ trivial
  | rearmed lifted waits same =>
    obtain ⟨kept, silent⟩ := @observeFdt_bare adapter .ack_32 (by simp) fdtRaw fdtTouchFlags
    rw [kept] at accepted
    cases accepted
    rw [lifted] at level
    obtain ⟨current, up, down, -, inForce⟩ := level
    rw [silent, waits, same]
    exact ⟨tabled, current, up, down, fun _ => inForce⟩
  | stayed bare phase same =>
    obtain ⟨kept, silent⟩ := @observeFdt_bare adapter event bare fdtRaw fdtTouchFlags
    rw [kept] at accepted
    cases accepted
    rw [silent, phase, same]
    exact ⟨tabled, level⟩

/-- The plan has been fed with an event that the model accepts. -/
theorem InStep.fed {contact later : Contact} {adapter : Adapter} {plan : CommandPlan}
    {fdt : FdtState} {event : Event} {samples : Option (List UInt16)} {reply : Reply}
    (inStep : InStep contact adapter)
    (accepted : adapter.plan.feed event samples reply = (.ok (), plan))
    (sane : ¬ FinishesFirst adapter.plan.pipeline.model event reply)
    (levels : ∀ after, Passage adapter.plan.pipeline.model after event →
      fdt.failed = false ∧ fdt.Level later after.observedStageCount after.phase) :
    InStep later { adapter with fdt, plan, cached := none } := by
  obtain ⟨pipeline, rfl, accepts, tidy, -⟩ := CommandPlan.feed_ok inStep.tidy accepted
  obtain ⟨passage, steady⟩ := accepts.passage inStep.steady sane
  obtain ⟨tabled, level⟩ := levels pipeline.model passage
  exact {
    planned := inStep.planned
    running := accepts.unfailed.trans inStep.running
    tidy
    steady
    tabled
    level
    prepared := by simp }

theorem InStep.observe_ok {contact : Contact} {adapter after : Adapter} {event : Event}
    {samples : Option (List UInt16)} {fdtRaw : Option (List UInt8)} {fdtTouchFlags : UInt16}
    {reply : Reply} (inStep : InStep contact adapter)
    (sane : ¬ FinishesFirst adapter.plan.pipeline.model event reply)
    (accepted : adapter.observe event samples fdtRaw fdtTouchFlags reply = (.ok (), after)) :
    InStep ((taken event fdtRaw fdtTouchFlags).foldl Contact.after contact) after := by
  unfold observe at accepted
  split at accepted
  · cases accepted
  rename_i runs
  have free : adapter.cached = none := by simpa using (not_or.mp (not_or.mp runs).2).1
  split at accepted
  · cases accepted
  rename_i shaped
  rcases observes : adapter.observeFdt event fdtRaw fdtTouchFlags with ⟨verdict, fdt⟩
  rw [observes] at accepted
  cases verdict with
  | error error => cases accepted
  | ok _ =>
    rcases plans : adapter.plan.observe event samples reply with ⟨verdict, plan⟩
    rw [plans] at accepted
    cases verdict with
    | error error => cases accepted
    | ok _ =>
      cases accepted
      unfold CommandPlan.observe at plans
      split at plans
      · cases plans
      split at plans
      · cases plans
      have fed := inStep.fed plans sane fun after passage =>
        inStep.observeFdt_level (by simpa using shaped) observes passage
      rw [← free] at fed
      exact fed

theorem InStep.recorded {contact : Contact} {adapter : Adapter} (inStep : InStep contact adapter)
    (free : adapter.cached = none) (intent : CommandIntent) :
    InStep contact { adapter with plan := adapter.plan.recordIntent intent } := by
  unfold CommandPlan.recordIntent
  split
  · exact { inStep with prepared := by simp [free] }
  · exact inStep

theorem InStep.commit_ok {contact : Contact} {adapter after : Adapter} {commandEvent : Event}
    (inStep : InStep contact adapter)
    (accepted : adapter.commit commandEvent = (.ok (), after)) : InStep contact after := by
  unfold commit at accepted
  split at accepted
  · cases accepted
  split at accepted
  · cases accepted
  split at accepted
  · cases accepted
  unfold CommandPlan.commit at accepted
  cases peeks : adapter.plan.peek with
  | none =>
    rw [peeks] at accepted
    cases accepted
  | some intent =>
    rw [peeks] at accepted
    dsimp only at accepted
    by_cases differs : commandEvent ≠ intent.event
    · rw [if_pos differs] at accepted
      cases accepted
    · rw [if_neg differs] at accepted
      have same : commandEvent = adapter.plan.pipeline.model.expected :=
        (not_not.mp differs).trans (CommandPlan.peek_event peeks)
      have command : isCommandEvent commandEvent = true := same ▸ CommandPlan.peek_command peeks
      rcases fed : adapter.plan.feed commandEvent none ⟨[], .ok ()⟩ with ⟨verdict, plan⟩
      rw [fed] at accepted
      cases verdict with
      | error error => cases accepted
      | ok _ =>
        cases accepted
        have feeds := inStep.fed fed (by simp [FinishesFirst]) (fun last passage => by
          obtain ⟨phase, count⟩ := passage.of_command command
          rw [phase, count]
          exact ⟨inStep.tabled, inStep.level⟩)
        exact feeds.recorded rfl intent

theorem InStep.prepareIrq80Rearm_ok {contact : Contact} {adapter after : Adapter} {raw : Table}
    {stamp : Stamp} {prepared : PreparedCommand} (inStep : InStep contact adapter)
    (accepted : adapter.prepareIrq80Rearm raw stamp = (.ok prepared, after)) :
    InStep (contact.after (.refreshed raw)) after := by
  unfold prepareIrq80Rearm at accepted
  split at accepted
  · cases accepted
  rename_i runs
  have free : adapter.cached = none := by simpa using (not_or.mp (not_or.mp runs).2).1
  have due : adapter.plan.pipeline.model.expected = .irq2 := by
    have waits := not_not.mp (not_or.mp (not_or.mp runs).2).2
    simpa [CommandPlan.getExpectedEvent, Pipeline.getExpectedEvent, inStep.planned] using waits
  have waits : adapter.plan.pipeline.model.phase = .waiting := by simp [Model.phase, due]
  have level := inStep.level
  rw [waits] at level
  rcases refreshes : adapter.fdt.refreshIrq80 raw with ⟨verdict, fdt⟩
  dsimp only at accepted
  rw [refreshes] at accepted
  cases verdict with
  | error error => cases accepted
  | ok table =>
    obtain ⟨tabled, later, -⟩ := FdtState.refreshIrq80_level level refreshes
    cases stamp with
    | error error => cases accepted
    | ok timestamp =>
      dsimp only at accepted
      split at accepted
      · cases accepted
      · cases accepted
        exact { inStep with tabled, level := waits ▸ later, prepared := by simp [free] }

/-! ## Runs -/

/-- A call that leaves the model and the tables in step: the image callback does not finish the
first contact if that is delivered at once. -/
def Keeps (adapter : Adapter) : Call → Prop
  | .observe event _ _ _ reply => ¬ FinishesFirst adapter.plan.pipeline.model event reply
  | _ => True

/-- An adapter that has not failed is in step with what it has taken. -/
def Sound (log : List Taken) (adapter : Adapter) : Prop :=
  adapter.failed = false → InStep (contactOf log) adapter

theorem new_sound {config : ModelConfig} {adapter : Adapter}
    (created : Adapter.new config = .ok adapter) : Sound [] adapter := by
  intro running
  unfold Adapter.new CommandPlan.new at created
  split at created
  · cases created
  rename_i pipeline opened
  cases created
  obtain ⟨running, -, due, none_, audited⟩ := Pipeline.new_fresh opened
  have waits : pipeline.model.phase = .waiting := by simp [Model.phase, due]
  exact {
    planned := rfl
    running
    tidy := (Pipeline.new_sound opened running).1
    steady := ⟨audited.trans none_.symm, by simp [waits], by simp [waits], by simp [due]⟩
    tabled := rfl
    level := by
      rw [waits, none_]
      exact ⟨rfl, rfl, rfl, by simp⟩
    prepared := by simp }

/-- A call that succeeds finds the adapter running; one that does not fails it. -/
structure Strict {α : Type} (adapter : Adapter) (result : Except GError α × Adapter) : Prop where
  accepted : ∀ value after, result = (.ok value, after) → adapter.failed = false
  refused : ∀ error after, result = (.error error, after) → after.failed = true

theorem strict_fail {α : Type} (adapter broken : Adapter) (error : GError) :
    Strict adapter (broken.fail error : Except GError α × Adapter) := by
  constructor
  · rintro value after ⟨⟩
  · rintro _ after ⟨⟩
    rfl

theorem strict_ok {α : Type} {adapter : Adapter} (running : adapter.failed = false) (value : α)
    (after : Adapter) : Strict adapter (.ok value, after) := by
  constructor
  · intro _ _ _
    exact running
  · rintro error _ ⟨⟩

theorem observe_strict (adapter : Adapter) (event : Event) (samples : Option (List UInt16))
    (fdtRaw : Option (List UInt8)) (fdtTouchFlags : UInt16) (reply : Reply) :
    Strict adapter (adapter.observe event samples fdtRaw fdtTouchFlags reply) := by
  unfold observe
  split
  · exact strict_fail ..
  rename_i runs
  split
  · exact strict_fail ..
  split
  · exact strict_fail ..
  split
  · exact strict_fail ..
  · exact strict_ok (by simpa using (not_or.mp runs).1) ..

theorem prepareIrq80Rearm_strict (adapter : Adapter) (raw : Table) (stamp : Stamp) :
    Strict adapter (adapter.prepareIrq80Rearm raw stamp) := by
  unfold prepareIrq80Rearm
  split
  · exact strict_fail ..
  rename_i runs
  dsimp only
  split
  · exact strict_fail ..
  split
  · exact strict_fail ..
  split
  · exact strict_fail ..
  · exact strict_ok (by simpa using (not_or.mp runs).1) ..

theorem build_strict {adapter : Adapter} (running : adapter.failed = false)
    (intent : CommandIntent) (timestamp : Option UInt16) :
    Strict adapter (adapter.build intent timestamp) := by
  unfold build
  split
  · exact strict_fail ..
  split
  · exact strict_fail ..
  · exact strict_ok running ..

theorem prepare_strict (adapter : Adapter) (stamp : Stamp) :
    Strict adapter (adapter.prepare stamp) := by
  unfold prepare
  split
  · exact strict_fail ..
  rename_i runs
  have running : adapter.failed = false := by simpa using (not_or.mp runs).1
  split
  · exact strict_ok running ..
  · exact strict_fail ..
  split
  · split
    · exact strict_fail ..
    · exact build_strict running ..
  · exact build_strict running ..

theorem commit_strict (adapter : Adapter) (commandEvent : Event) :
    Strict adapter (adapter.commit commandEvent) := by
  unfold commit
  split
  · exact strict_fail ..
  rename_i runs
  split
  · exact strict_fail ..
  split
  · exact strict_fail ..
  split
  · exact strict_fail ..
  · exact strict_ok (by simpa using runs) ..

theorem Strict.sound {α : Type} {log notes : List Taken} {adapter : Adapter}
    {result : Except GError α × Adapter} (strict : Strict adapter result)
    (sound : Sound log adapter)
    (accepts : ∀ value after, InStep (contactOf log) adapter → result = (.ok value, after) →
      InStep (notes.foldl Contact.after (contactOf log)) after) :
    Sound (log ++ (noted notes result).2) (noted notes result).1 := by
  rcases result with ⟨verdict, after⟩
  intro running
  cases verdict with
  | error error =>
    have failed := strict.refused error after rfl
    simp only [noted] at running
    rw [failed] at running
    cases running
  | ok value =>
    have inStep := accepts value after (sound (strict.accepted value after rfl)) rfl
    simp only [noted, contactOf, List.foldl_append]
    exact inStep

theorem step_sound {log : List Taken} {adapter : Adapter} (sound : Sound log adapter)
    (call : Call) (keeps : Keeps adapter call) :
    Sound (log ++ (adapter.step call).2) (adapter.step call).1 := by
  cases call with
  | observe event samples fdtRaw fdtTouchFlags reply =>
    exact (observe_strict ..).sound sound fun _ _ inStep => inStep.observe_ok keeps
  | prepareIrq80Rearm raw stamp =>
    exact (prepareIrq80Rearm_strict ..).sound sound fun _ _ inStep => inStep.prepareIrq80Rearm_ok
  | prepare stamp => exact (prepare_strict ..).sound sound fun _ _ inStep => inStep.prepare_ok
  | commit commandEvent => exact (commit_strict ..).sound sound fun _ _ inStep => inStep.commit_ok

theorem run_sound {config : ModelConfig} {adapter : Adapter}
    (created : Adapter.new config = .ok adapter) (calls : List Call)
    (keeps : Meets step Keeps adapter calls) :
    Sound (run step adapter calls).2 (run step adapter calls).1 :=
  run_invariant_of_meets step Keeps Sound
    (fun _ _ call sound keeps => step_sound sound call keeps) calls [] adapter
    (new_sound created) keeps

/-- In every run in which the image callback never finishes the first contact while it is
delivered at once: whenever a command is expected, it can be prepared and framed, and its table is
the one of the contact. -/
theorem commands_in_step {config : ModelConfig} {adapter : Adapter}
    (created : Adapter.new config = .ok adapter) (calls : List Call)
    (keeps : Meets step Keeps adapter calls) :
    let reached := run step adapter calls
    isCommandEvent reached.1.getExpectedEvent = true → ∀ timestamp,
      ∃ prepared frame, (reached.1.prepare (.ok timestamp)).1 = .ok prepared ∧
        outboundFrameBuild prepared = .ok frame ∧
        prepared.intent.event = reached.1.getExpectedEvent ∧
        prepared.Right (contactOf reached.2) := by
  intro reached command timestamp
  have sound := run_sound created calls keeps
  unfold getExpectedEvent CommandPlan.getExpectedEvent Pipeline.getExpectedEvent at command ⊢
  by_cases failed : reached.1.failed = true
  · rw [if_pos failed] at command
    cases command
  rw [if_neg failed] at command ⊢
  have running : reached.1.failed = false := by simpa using failed
  have inStep := sound running
  rw [inStep.planned] at command ⊢
  obtain ⟨prepared, after, prepares, event, right, ⟨frame, framed⟩, -⟩ :=
    inStep.prepares running command timestamp
  exact ⟨prepared, frame, congrArg Prod.fst prepares, framed, event, right⟩

/-- The calls up to the release of the first contact, with the reply to its image. -/
def firstContactCalls (reply : Reply) : List Call :=
  let unasked : Reply := ⟨[], .ok ()⟩
  [.observe .irq2 none (some (List.replicate 12 0)) 1 unasked, .prepare (.ok 0),
    .commit .command_22, .observe .ack_22 none none 0 unasked,
    .observe .primaryB0 (some (List.replicate ImageDecoder.canonicalImageSampleCount 0)) none 0
      reply]

/-- A first contact that is finished at once is followed by a COMMAND_36 that has no table. -/
theorem first_contact_finished :
    ∃ adapter, Adapter.new ⟨2, 0, false, false, false⟩ = .ok adapter ∧
      let reached := run step adapter (firstContactCalls ⟨[.finishCurrentStage], .ok ()⟩ ++
        [.prepare (.ok 0), .commit .command_34, .observe .ack_34 none none 0 ⟨[], .ok ()⟩])
      reached.1.getExpectedEvent = .command_36 ∧ (reached.1.prepare (.ok 0)).1 =
        .error (fdtError fdtErrorMaterial "previous-stage down table is unavailable") :=
  ⟨_, rfl, by decide +kernel, by decide +kernel⟩

theorem commands_in_step_first :
    ∃ adapter, Adapter.new ⟨2, 0, false, false, false⟩ = .ok adapter ∧
      ∃ prepared, ((run step adapter (firstContactCalls ⟨[], .ok ()⟩)).1.prepare (.ok 0)).1 =
        .ok prepared :=
  ⟨_, rfl,
    let ⟨prepared, _, prepares, _⟩ :=
      @commands_in_step ⟨2, 0, false, false, false⟩ _ rfl (firstContactCalls ⟨[], .ok ()⟩)
        (by simp [Meets, Keeps, FinishesFirst, firstContactCalls]) (by decide +kernel) 0
    ⟨prepared, prepares⟩⟩

end Adapter

end Goodix.Enrollment
