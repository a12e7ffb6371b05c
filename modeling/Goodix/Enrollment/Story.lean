import Goodix.Enrollment.Binding

/-! # What a run of the binding is allowed to note

The story of a run is read off its log alone: whether a zero-mask contact waits for the next IRQ2,
which command is outstanding, how far the answer to an IRQ0080 has come.  It says which note may
come next.  As long as nothing has failed the three modules of the binding agree with the story,
each with its own flags, and whatever happens every note was allowed.
-/

namespace Goodix.Enrollment

open Octets FdtIrqPolicy A0Protocol ImageDecoder Machines Traces

/-! ## The story -/

/-- How far the answer to an IRQ0080 has come. -/
inductive RearmStage where
  | idle
  | accepted (raw : Table)
  | sent
  | completed
  deriving DecidableEq

structure Story where
  /-- Whether a zero-mask contact has been recovered since the last IRQ2. -/
  recovering : Bool
  /-- The late releases and the sample requests since then. -/
  lates : Nat
  requests : Nat
  /-- The IRQ0080 events since the last IRQ2. -/
  rearms : Nat
  rearm : RearmStage
  /-- The command whose OUT has not completed. -/
  outstanding : Option PreparedCommand

namespace Story

def start : Story := ⟨false, 0, 0, 0, .idle, none⟩

def after (story : Story) : Noted → Story
  | .recovered => { story with recovering := true, lates := 0, requests := 0 }
  | .late => { story with lates := story.lates + 1 }
  | .requested => { story with requests := story.requests + 1 }
  | .touched => { story with recovering := false, rearms := 0 }
  | .rearmed raw => { story with rearms := story.rearms + 1, rearm := .accepted raw }
  | .rearmAcked => { story with rearm := .idle }
  | .submitted prepared _ =>
    { story with
      outstanding := some prepared
      rearm := if story.rearm = .idle then .idle else .sent }
  | .committed _ =>
    { story with
      outstanding := none
      rearm := if story.rearm = .idle then .idle else .completed }

/-- The re-arm that answers an IRQ0080 with these readings. -/
def AnswersWith (raw : Table) (prepared : PreparedCommand) : Prop :=
  ∃ stageIndex table timestamp, prepared.intent = Adapter.irq80Intent stageIndex ∧
    derived (deriveBaselineTable raw 0) = some table ∧
    prepared.body = [0x08, 0x01] ++ table.val ++ putU16Le timestamp

/-- What may be noted next. -/
def Allows (story : Story) : Noted → Prop
  | .recovered => story.recovering = false
  | .late => story.recovering = true ∧ story.lates = 0
  | .requested => story.recovering = true ∧ story.requests = 0
  | .touched => story.rearm = .idle ∧ story.outstanding = none
  | .rearmed _ => story.rearms < irq80PerWaitLimit ∧ story.rearm = .idle ∧ story.outstanding = none
  | .rearmAcked => story.rearm = .completed
  | .submitted prepared frame =>
    story.outstanding = none ∧ outboundFrameBuild prepared = .ok frame ∧
      (story.recovering = true → prepared.intent.event = .command_32 → story.requests = 1) ∧
      match story.rearm with
      | .idle => True
      | .accepted raw => AnswersWith raw prepared
      | _ => False
  | .committed event => ∃ prepared, story.outstanding = some prepared ∧
      prepared.intent.event = event

end Story

def storyOf (log : List Noted) : Story := log.foldl Story.after .start

@[simp] theorem storyOf_concat (log : List Noted) (noted : Noted) :
    storyOf (log ++ [noted]) = (storyOf log).after noted := by
  simp [storyOf]

/-- Every note was allowed by the story before it. -/
def Told (log : List Noted) : Prop :=
  Justified (fun before noted => (storyOf before).Allows noted) log

theorem Told.concat {log : List Noted} {noted : Noted} (told : Told log)
    (allows : (storyOf log).Allows noted) : Told (log ++ [noted]) :=
  justified_concat.mpr ⟨told, allows⟩

/-! ## Agreement -/

/-- The events between the release of a contact and the next IRQ2. -/
def isBetween : Event → Bool
  | .irq2 | .command_32 | .ack_32 | .command_50 | .ack_50 | .nav => true
  | _ => false

/-- Only an IRQ2 leads out of the events between two contacts. -/
theorem Pipeline.Accepts.between {before after : Pipeline} {reply : Reply} {event : Event}
    {samples : Option (List UInt16)} (accepts : Pipeline.Accepts before reply event samples after)
    (plain : event ≠ .irq2) (between : isBetween before.model.expected = true) :
    isBetween after.model.expected = true := by
  cases accepts with
  | contact due => exact absurd rfl plain
  | passed along due =>
    rw [due] at between
    cases event <;> cases along <;> first | rfl | cases between
  | rearmed due along =>
    rw [along]
    split <;> rfl
  | navigated due => rfl
  | _ => simp_all [isBetween]

/-- The event that is accepted is the expected one, or a zero mask instead of an IRQ0100. -/
theorem Pipeline.Accepts.classified {before after : Pipeline} {reply : Reply} {event : Event}
    {samples : Option (List UInt16)}
    (accepts : Pipeline.Accepts before reply event samples after) :
    before.model.expected = event ∨
      event = .zeroMaskRecovery ∧ before.model.expected = .irq0100 := by
  cases accepts with
  | recovered due => exact .inr ⟨rfl, due⟩
  | recoveredLast due => exact .inr ⟨rfl, due⟩
  | _ => exact .inl ‹_›

/-- After a zero mask the finger is waited for again, unless it was the last contact. -/
theorem Pipeline.Accepts.recovers {before after : Pipeline} {reply : Reply}
    {samples : Option (List UInt16)}
    (accepts : Pipeline.Accepts before reply .zeroMaskRecovery samples after)
    (more : after.model.complete = false) : after.model.expected = .command_32 := by
  cases accepts with
  | passed along => cases along
  | recovered => rfl
  | recoveredLast => cases more

/-! ## What the adapter prepares -/

namespace Adapter

theorem build_plan (adapter : Adapter) (intent : CommandIntent) (timestamp : Option UInt16) :
    (adapter.build intent timestamp).2.plan = adapter.plan := by
  unfold build
  rcases adapter.fdt.resolve intent timestamp with ⟨verdict, fdt⟩
  cases verdict with
  | error error => rfl
  | ok material =>
    dsimp only
    cases commandBodyBuild intent material <;> rfl

/-- To prepare a command does not advance the graph. -/
theorem prepare_plan (adapter : Adapter) (stamp : Stamp) :
    (adapter.prepare stamp).2.plan = adapter.plan := by
  unfold prepare
  split
  · rfl
  · split
    · rfl
    · rfl
    · split
      · cases stamp with
        | error error => rfl
        | ok timestamp => exact adapter.build_plan _ _
      · exact adapter.build_plan _ _

/-- What a preparation needs. -/
theorem prepare_at {adapter after : Adapter} {stamp : Stamp} {prepared : PreparedCommand}
    (accepted : adapter.prepare stamp = (.ok prepared, after)) :
    adapter.plan.isComplete = false ∧
      (adapter.cached = none → isCommandEvent adapter.plan.pipeline.model.expected = true) ∧
      (adapter.cached ≠ none → after = adapter) := by
  unfold prepare at accepted
  by_cases terminal : adapter.failed ∨ adapter.plan.isComplete
  · rw [if_pos terminal] at accepted
    cases accepted
  rw [if_neg terminal] at accepted
  refine ⟨by simpa using (not_or.mp terminal).2, ?_⟩
  cases cached : adapter.cached with
  | some command =>
    rw [cached] at accepted
    cases accepted
    exact ⟨nofun, fun _ => rfl⟩
  | none =>
    refine ⟨fun _ => ?_, fun loaded => absurd rfl loaded⟩
    cases peeks : adapter.plan.peek with
    | none =>
      rw [cached, peeks] at accepted
      cases accepted
    | some intent => exact CommandPlan.peek_command peeks

theorem commit_prepared {adapter after : Adapter} {commandEvent : Event}
    (accepted : adapter.commit commandEvent = (.ok (), after)) : adapter.cached ≠ none := by
  unfold commit at accepted
  split at accepted
  · cases accepted
  · intro free
    rw [free] at accepted
    cases accepted

/-- A re-arm answers its IRQ0080 and leaves the graph where it is. -/
theorem prepareIrq80Rearm_answers {adapter after : Adapter} {raw : Table} {stamp : Stamp}
    {prepared : PreparedCommand}
    (accepted : adapter.prepareIrq80Rearm raw stamp = (.ok prepared, after)) :
    after.plan = adapter.plan ∧ after.cached = none ∧
      adapter.plan.getExpectedEvent = .irq2 ∧ Story.AnswersWith raw prepared := by
  unfold prepareIrq80Rearm at accepted
  by_cases refuses : adapter.failed ∨ adapter.cached.isSome ∨ adapter.plan.getExpectedEvent ≠ .irq2
  · rw [if_pos refuses] at accepted
    cases accepted
  rw [if_neg refuses] at accepted
  have free : adapter.cached = none := by simpa using (not_or.mp (not_or.mp refuses).2).1
  have waits := not_not.mp (not_or.mp (not_or.mp refuses).2).2
  unfold FdtState.refreshIrq80 at accepted
  by_cases stale : adapter.fdt.failed ∨ adapter.fdt.downStage ≠ adapter.fdt.currentStage
  · rw [if_pos stale] at accepted
    cases accepted
  rw [if_neg stale] at accepted
  rcases derives : deriveBaselineTable raw 0 (Block.zero 12) with ⟨verdict, table⟩
  rw [derives] at accepted
  cases verdict with
  | false => cases accepted
  | true =>
    cases stamp with
    | error error => cases accepted
    | ok timestamp =>
      dsimp only at accepted
      split at accepted
      · cases accepted
      · rename_i body builds
        cases accepted
        obtain ⟨-, built⟩ := commandBodyBuild_built builds
        refine ⟨rfl, free, waits, _, table, timestamp, rfl, derived_of_eq derives, ?_⟩
        cases built
        rfl

theorem prepareIrq80Rearm_plan (adapter : Adapter) (raw : Table) (stamp : Stamp) :
    (adapter.prepareIrq80Rearm raw stamp).2.plan = adapter.plan := by
  unfold prepareIrq80Rearm
  split
  · rfl
  · rcases adapter.fdt.refreshIrq80 raw with ⟨verdict, fdt⟩
    cases verdict with
    | error error => rfl
    | ok table =>
      cases stamp with
      | error error => rfl
      | ok timestamp =>
        dsimp only
        split <;> rfl

end Adapter

namespace Binding

/-- Neither the events nor the transaction have failed. -/
def Live (binding : Binding) : Prop :=
  binding.events.failed = false ∧ binding.transaction.failed = false

/-- The re-arm of the events and the command of the transaction. -/
def rearmStage (binding : Binding) (story : Story) : Prop :=
  match binding.events.irq80RearmEvent with
  | .none => story.rearm = .idle
  | .command_32 =>
    if binding.transaction.pending then
      story.rearm = .sent ∧ binding.transaction.prepared = binding.events.irq80Rearm
    else
      ∃ raw, story.rearm = .accepted raw ∧ Story.AnswersWith raw binding.events.irq80Rearm
  | .ack_32 => story.rearm = .completed ∧ binding.transaction.pending = false
  | _ => False

/-- The flags of the window, as long as the enrollment goes on. -/
structure WindowAgrees (story : Story) (zero : ZeroMaskRecovery) (lifecycle : Adapter) :
    Prop where
  recovering : lifecycle.plan.pipeline.model.complete = false →
    zero.staleWindowOpen = story.recovering
  lates : zero.staleWindowOpen = true → story.lates = if zero.lateSeen then 1 else 0
  requests : zero.staleWindowOpen = true →
    story.requests = if zero.awaitingSampleRequest then 0 else 1
  between : zero.staleWindowOpen = true →
    isBetween lifecycle.plan.pipeline.model.expected = true
  awaits : zero.awaitingSampleRequest = true → zero.staleWindowOpen = true ∧
    lifecycle.plan.pipeline.model.expected = .command_32 ∧ lifecycle.cached = none

/-- The binding agrees with the story. -/
structure Agrees (story : Story) (binding : Binding) : Prop where
  tidy : binding.events.lifecycle.plan.pipeline.Tidy
  outstanding : story.outstanding =
    if binding.transaction.pending then some binding.transaction.prepared else none
  rearm : binding.rearmStage story
  waits : binding.events.irq80RearmEvent ≠ .none →
    binding.events.lifecycle.plan.pipeline.model.expected = .irq2 ∧
      binding.events.lifecycle.cached = none
  cached : binding.events.lifecycle.cached ≠ none →
    isCommandEvent binding.events.lifecycle.plan.pipeline.model.expected = true
  window : binding.terminalError = none →
    WindowAgrees story binding.events.zero binding.events.lifecycle

theorem storyOf_note (binding : Binding) (noted : Noted) :
    storyOf (binding.note noted).log = (storyOf binding.log).after noted :=
  storyOf_concat _ _

theorem Agrees.noted {binding : Binding} {noted : Noted}
    (agrees : Agrees ((storyOf binding.log).after noted) binding) :
    Agrees (storyOf (binding.note noted).log) (binding.note noted) := by
  rw [storyOf_note]
  exact { agrees with }

/-- A late release that can still come is counted already. -/
def lateDue (zero : ZeroMaskRecovery) : Nat :=
  if zero.staleWindowOpen ∧ zero.lateSeen = false then 1 else 0

/-- What holds at any moment, even while a call fails. -/
structure Kept (binding : Binding) : Prop where
  told : Told binding.log
  rearms : (storyOf binding.log).rearms = binding.events.irq80Count
  counted : binding.events.zero.lateReleaseCount + lateDue binding.events.zero ≤
    binding.events.zero.recoveredCount
  failedShut : binding.events.failed = true → binding.events.zero.staleWindowOpen = false

/-- What holds whenever the events or the transaction return. -/
structure Sound (binding : Binding) : Prop extends Kept binding where
  agrees : binding.Live → Agrees (storyOf binding.log) binding
  shut : binding.events.zero.staleWindowOpen = true → binding.terminalError = none

/-- What holds of a binding between two calls. -/
structure Settled (binding : Binding) : Prop extends Sound binding where
  terminal : binding.transaction.failed = true → binding.terminalError.isSome = true

/-! ## Failures -/

@[simp] theorem stop_failed (events : Events) : events.stop.failed = true := by
  unfold Events.stop
  split
  · assumption
  · rfl

@[simp] theorem stop_irq80Count (events : Events) : events.stop.irq80Count = events.irq80Count := by
  unfold Events.stop
  split <;> rfl

@[simp] theorem stop_audit (events : Events) : events.stop.audit = events.audit := by
  unfold Events.stop
  split <;> rfl

@[simp] theorem stop_lifecycle (events : Events) : events.stop.lifecycle = events.lifecycle := by
  unfold Events.stop
  split <;> rfl

@[simp] theorem lateDue_closed (events : Events) : lateDue events.closeZeroWindow.zero = 0 := by
  simp [lateDue, Events.closeZeroWindow]

theorem stop_zero (events : Events) :
    events.stop.zero = events.zero ∧ events.failed = true ∨
      events.stop.zero = events.closeZeroWindow.zero := by
  unfold Events.stop
  by_cases failed : events.failed = true
  · exact .inl ⟨by rw [if_pos failed], failed⟩
  · exact .inr (by rw [if_neg failed])

/-- Whatever closes the window keeps the counts. -/
theorem Kept.closed {binding after : Binding} (kept : Kept binding)
    (log : after.log = binding.log) (rearms : after.events.irq80Count = binding.events.irq80Count)
    (zero : after.events.zero = binding.events.closeZeroWindow.zero) : Kept after where
  told := log ▸ kept.told
  rearms := by rw [log, rearms, kept.rearms]
  counted := by
    have counted := kept.counted
    rw [zero, lateDue_closed]
    simp only [Events.closeZeroWindow]
    omega
  failedShut _ := by rw [zero]; rfl

theorem Kept.stop {binding : Binding} (kept : Kept binding) :
    Sound { binding with events := binding.events.stop } := by
  have shut : binding.events.stop.zero.staleWindowOpen = false := by
    cases stop_zero binding.events with
    | inl failed => exact (congrArg _ failed.1).trans (kept.failedShut failed.2)
    | inr closes => exact congrArg ZeroMaskRecovery.staleWindowOpen closes
  refine ⟨?_, ?_, ?_⟩
  · cases stop_zero binding.events with
    | inl failed =>
      exact { told := kept.told
              rearms := kept.rearms.trans (stop_irq80Count _).symm
              counted := by
                have counted := kept.counted
                rwa [← failed.1] at counted
              failedShut := fun _ => shut }
    | inr closes => exact kept.closed rfl (stop_irq80Count _) closes
  · intro live
    simp [Live] at live
  · intro opened
    rw [show binding.events.stop.zero.staleWindowOpen = true from opened] at shut
    cases shut

theorem Sound.terminate {binding : Binding} (sound : Sound binding) (error : GError) :
    Settled (binding.terminate error) := by
  unfold Binding.terminate
  by_cases terminal : binding.terminalError.isSome = true
  · rw [if_pos terminal]
    exact ⟨sound, fun _ => terminal⟩
  · rw [if_neg terminal]
    have closed : Kept { binding with
        events := binding.events.closeZeroWindow, terminalError := some error } :=
      sound.toKept.closed rfl rfl rfl
    refine ⟨⟨closed, ?_, by simp [Events.closeZeroWindow]⟩, fun _ => rfl⟩
    intro live
    exact { sound.agrees live with window := by simp }

theorem Sound.fail {binding : Binding} (sound : Sound binding) (message : String)
    (error : GError) : Settled (binding.fail message error).2 :=
  sound.terminate _

theorem Sound.transactionStop {binding : Binding} (sound : Sound binding) :
    Sound binding.transactionStop := by
  unfold Binding.transactionStop
  by_cases failed : binding.transaction.failed = true
  · rw [if_pos failed]
    exact sound
  · rw [if_neg failed]
    exact { told := sound.told
            rearms := sound.rearms
            counted := sound.counted
            failedShut := sound.failedShut
            agrees := fun live => absurd live.2 (by simp)
            shut := sound.shut }

/-- What a cancellation leaves of a binding that is not terminal. -/
theorem cancelNow_stops {binding : Binding} (runs : binding.terminalError = none) :
    binding.cancelNow.log = binding.log ∧
      binding.cancelNow.events = binding.events.closeZeroWindow ∧
      binding.cancelNow.transaction.failed = true ∧
      binding.cancelNow.terminalError.isSome = true := by
  unfold Binding.cancelNow Binding.transactionStop Binding.terminate
  by_cases failed : binding.transaction.failed = true <;>
    simp [runs, failed, Events.closeZeroWindow]

/-- Nothing more is asked of a binding that has been stopped. -/
theorem Kept.dead {binding : Binding} (kept : Kept binding)
    (failed : binding.transaction.failed = true)
    (terminal : binding.terminalError.isSome = true)
    (shut : binding.events.zero.staleWindowOpen = false) : Settled binding where
  toKept := kept
  agrees live := absurd live.2 (by simp [failed])
  shut opened := by simp [shut] at opened
  terminal _ := terminal

/-- A cancellation does nothing, or it stops the binding. -/
theorem cancel_cases (binding : Binding) :
    binding.cancel = binding ∨
      binding.terminalError = none ∧ binding.cancel = binding.cancelNow := by
  unfold Binding.cancel
  by_cases complete : binding.transactionIsComplete = true
  · exact .inl (if_pos complete)
  rw [if_neg complete]
  cases terminal : binding.terminalError with
  | none => exact .inr ⟨rfl, rfl⟩
  | some error =>
    refine .inl ?_
    unfold Binding.cancelNow
    rw [if_pos (by simp [terminal])]

theorem Kept.cancel {binding : Binding} (kept : Kept binding) : Kept binding.cancel := by
  cases binding.cancel_cases with
  | inl same => rwa [same]
  | inr stops =>
    obtain ⟨log, events, -, -⟩ := cancelNow_stops stops.1
    rw [stops.2]
    exact kept.closed log (by rw [events]; rfl) (by rw [events])

theorem Settled.cancel {binding : Binding} (settled : Settled binding) :
    Settled binding.cancel := by
  have kept := settled.toKept.cancel
  cases binding.cancel_cases with
  | inl same => rwa [same]
  | inr stops =>
    obtain ⟨-, events, failed, stopped⟩ := cancelNow_stops stops.1
    rw [stops.2] at kept ⊢
    exact kept.dead failed stopped (by rw [events]; rfl)

end Binding

end Goodix.Enrollment
