import Goodix.Enrollment.Story

/-! # What the device sends, and the story

Each frame and each chunk of plaintext that the events accept takes the binding and its story to
states that agree again.  An image callback that fences its context stops the binding from inside,
and what is noted after it is never left standing.
-/

namespace Goodix.Enrollment

open Octets FdtIrqPolicy A0Protocol ImageDecoder Machines Traces

namespace Binding

/-! ## Observations -/

/-- The window is over once the enrollment is complete. -/
theorem WindowAgrees.more {story : Story} {zero : ZeroMaskRecovery} {lifecycle : Adapter}
    (window : WindowAgrees story zero lifecycle) (tidy : lifecycle.plan.pipeline.Tidy)
    (opened : zero.staleWindowOpen = true) :
    lifecycle.plan.pipeline.model.complete = false := by
  cases complete : lifecycle.plan.pipeline.model.complete with
  | false => rfl
  | true =>
    have between := window.between opened
    rw [tidy.ended complete] at between
    cases between

/-- What an observation leaves of a binding: the adapter has advanced, and the context may have
been fenced meanwhile. -/
inductive Observed (before : Binding) (event : Event) : Binding → Prop where
  | plain {lifecycle : Adapter}
      (advances : Adapter.Advances before.events.lifecycle event lifecycle) :
      Observed before event { before with events := { before.events with lifecycle } }
  | fenced {lifecycle : Adapter}
      (advances : Adapter.Advances before.events.lifecycle event lifecycle)
      (context : before.events.contact = true) :
      Observed before event
        { { before with events := { before.events with lifecycle } : Binding }.cancelNow with
          fenced := true }

theorem observe_observed {binding after : Binding} {event : Event}
    {samples : Option (List UInt16)} {fdtRaw : Option (List UInt8)} {fdtTouchFlags : UInt16}
    {answers : Answers} (tidy : binding.events.lifecycle.plan.pipeline.Tidy)
    (accepted : binding.observe event samples fdtRaw fdtTouchFlags answers = (.ok (), after)) :
    Observed binding event after := by
  unfold Binding.observe at accepted
  rcases observed : binding.events.lifecycle.observe event samples fdtRaw fdtTouchFlags
    answers.image with ⟨verdict, lifecycle⟩
  rw [observed] at accepted
  dsimp only at accepted
  by_cases fences : binding.events.contact ∧ answers.imageFences ∧
      lifecycle.plan.pipeline.handed ≠ binding.events.lifecycle.plan.pipeline.handed
  · rw [if_pos fences] at accepted
    cases accepted
    exact .fenced (Adapter.observe_advances tidy observed).1 fences.1
  · rw [if_neg fences] at accepted
    cases accepted
    exact .plain (Adapter.observe_advances tidy observed).1

/-- No sample is awaited when the adapter advances: it would be at a command that has not been
prepared. -/
theorem WindowAgrees.quiet {story : Story} {zero : ZeroMaskRecovery} {before after : Adapter}
    {event : Event} (window : WindowAgrees story zero before)
    (advances : Adapter.Advances before event after)
    (moves : event ≠ .command_32 ∨ before.cached ≠ none) :
    zero.awaitingSampleRequest = false := by
  cases awaiting : zero.awaitingSampleRequest with
  | false => rfl
  | true =>
    obtain ⟨-, expected, free⟩ := window.awaits awaiting
    obtain ⟨reply, samples, accepts⟩ := advances.accepts
    cases moves with
    | inr prepared => exact absurd free prepared
    | inl other =>
      cases accepts.classified with
      | inl due => exact absurd (due.symm.trans expected) other
      | inr zero =>
        rw [expected] at zero
        cases zero.2

/-- The adapter advances within a contact, or from a release to the next contact. -/
theorem Agrees.advanced {story : Story} {binding : Binding} {event : Event} {lifecycle : Adapter}
    (agrees : Agrees story binding)
    (advances : Adapter.Advances binding.events.lifecycle event lifecycle)
    (plain : event ≠ .irq2 ∧ event ≠ .zeroMaskRecovery)
    (moves : event ≠ .command_32 ∨ binding.events.lifecycle.cached ≠ none) :
    Agrees story { binding with events := { binding.events with lifecycle } } where
  tidy := advances.tidy
  outstanding := agrees.outstanding
  rearm := agrees.rearm
  waits rearms := by
    obtain ⟨reply, samples, accepts⟩ := advances.accepts
    exact absurd ((accepts.due plain.2).symm.trans (agrees.waits rearms).1) plain.1
  cached prepared := absurd advances.free prepared
  window goes := by
    have window := agrees.window goes
    obtain ⟨reply, samples, accepts⟩ := advances.accepts
    exact { recovering := fun _ => window.recovering advances.more
            lates := window.lates
            requests := window.requests
            between := fun opened => accepts.between plain.1 (window.between opened)
            awaits := by simp [window.quiet advances moves] }

/-- The counts of the audit and the assembled plaintext do not matter. -/
theorem Settled.relabelled {binding : Binding} (settled : Settled binding) (audit : EventsAudit)
    (b0Pending : List UInt8) :
    Settled { binding with events := { binding.events with audit, b0Pending } } where
  told := settled.told
  rearms := settled.rearms
  counted := settled.counted
  failedShut := settled.failedShut
  agrees live := { settled.agrees live with }
  shut := settled.shut
  terminal := settled.terminal

/-- A binding that may take what the device sends. -/
structure Ready (binding : Binding) : Prop extends Settled binding where
  goes : binding.terminalError = none
  live : binding.Live
  free : binding.transaction.pending = false

theorem Ready.relabelled {binding : Binding} (ready : Ready binding) (audit : EventsAudit)
    (b0Pending : List UInt8) :
    Ready { binding with events := { binding.events with audit, b0Pending } } where
  toSettled := ready.toSettled.relabelled audit b0Pending
  goes := ready.goes
  live := ready.live
  free := ready.free

theorem Ready.agreed {binding : Binding} (ready : Ready binding) :
    Agrees (storyOf binding.log) binding := ready.agrees ready.live

/-- Whatever the adapter did, the context is fenced and the binding cancelled. -/
theorem Kept.fenced {binding : Binding} (kept : Kept binding)
    (goes : binding.terminalError = none) (lifecycle : Adapter) :
    Settled { { binding with events := { binding.events with lifecycle } : Binding }.cancelNow with
      fenced := true } := by
  obtain ⟨log, events, failed, stopped⟩ :=
    @cancelNow_stops { binding with events := { binding.events with lifecycle } } goes
  have closed : Kept { { binding with
      events := { binding.events with lifecycle } : Binding }.cancelNow with fenced := true } :=
    kept.closed log (by rw [events]; rfl) (by rw [events]; rfl)
  exact closed.dead failed stopped (by rw [events]; rfl)

theorem Ready.observe_kept {binding : Binding} (ready : Ready binding) (event : Event)
    (samples : Option (List UInt16)) (fdtRaw : Option (List UInt8)) (fdtTouchFlags : UInt16)
    (answers : Answers) :
    Kept (binding.observe event samples fdtRaw fdtTouchFlags answers).2 := by
  unfold Binding.observe
  generalize binding.events.lifecycle.observe event samples fdtRaw fdtTouchFlags answers.image =
    observed
  dsimp only
  by_cases fences : binding.events.contact ∧ answers.imageFences ∧
      observed.2.plan.pipeline.handed ≠ binding.events.lifecycle.plan.pipeline.handed
  · rw [if_pos fences]
    exact (ready.toKept.fenced ready.goes observed.2).toKept
  · rw [if_neg fences]
    exact { told := ready.told
            rearms := ready.rearms
            counted := ready.counted
            failedShut := ready.failedShut }

/-- What a call leaves behind while it runs. -/
structure Lands {ε : Type} (result : Except ε Unit × Binding) : Prop where
  kept : Kept result.2
  settled : result.1 = .ok () → Settled result.2

/-- What a call of the events or of the transaction leaves behind. -/
structure Ends {ε : Type} (result : Except ε Unit × Binding) : Prop where
  sound : Sound result.2
  settled : result.1 = .ok () → Settled result.2

theorem Settled.lands {ε : Type} {binding : Binding} (settled : Settled binding)
    (verdict : Except ε Unit) : Lands (verdict, binding) :=
  ⟨settled.toKept, fun _ => settled⟩

theorem Settled.ends {ε : Type} {binding : Binding} (settled : Settled binding)
    (verdict : Except ε Unit) : Ends (verdict, binding) :=
  ⟨settled.toSound, fun _ => settled⟩

theorem Kept.refused {ε : Type} {binding : Binding} (kept : Kept binding) (error : ε) :
    Lands (.error error, binding) :=
  ⟨kept, nofun⟩

theorem Kept.ends {binding : Binding} (kept : Kept binding) (error : GError) :
    Ends (binding.eventsFail error) :=
  ⟨kept.stop, nofun⟩

theorem Lands.concludes {result : Except (Option GError) Unit × Binding} (lands : Lands result) :
    Ends (conclude result) := by
  rcases result with ⟨verdict, binding⟩
  cases verdict with
  | ok _ => exact (lands.settled rfl).ends (.ok ())
  | error error => exact lands.kept.ends _

/-- An observation that advances the graph, whatever is counted on it. -/
theorem Ready.observed {binding after : Binding} {event : Event}
    {samples : Option (List UInt16)} {fdtRaw : Option (List UInt8)} {fdtTouchFlags : UInt16}
    {answers : Answers} (ready : Ready binding)
    (plain : event ≠ .irq2 ∧ event ≠ .zeroMaskRecovery ∧ event ≠ .command_32)
    (accepted : binding.observe event samples fdtRaw fdtTouchFlags answers = (.ok (), after)) :
    Settled after := by
  have agrees := ready.agreed
  cases observe_observed agrees.tidy accepted with
  | fenced advances context => exact ready.toKept.fenced ready.goes _
  | plain advances =>
    have later := agrees.advanced advances ⟨plain.1, plain.2.1⟩ (.inl plain.2.2)
    exact { told := ready.told
            rearms := ready.rearms
            counted := ready.counted
            failedShut := ready.failedShut
            agrees := fun _ => later
            shut := ready.shut
            terminal := ready.terminal }

theorem Ready.observeCounted {binding : Binding} {event : Event} {fdtRaw : Option (List UInt8)}
    {fdtTouchFlags : UInt16} {answers : Answers} {count : EventsAudit → EventsAudit}
    (ready : Ready binding)
    (plain : event ≠ .irq2 ∧ event ≠ .zeroMaskRecovery ∧ event ≠ .command_32) :
    Lands (binding.observeCounted event fdtRaw fdtTouchFlags answers count) := by
  have kept := ready.observe_kept event none fdtRaw fdtTouchFlags answers
  unfold Binding.observeCounted
  rcases accepted : binding.observe event none fdtRaw fdtTouchFlags answers with ⟨verdict, after⟩
  rw [accepted] at kept
  cases verdict with
  | error error => exact kept.refused _
  | ok _ =>
    have settled := ready.observed plain accepted
    exact (settled.relabelled (count after.events.audit) after.events.b0Pending).lands _

/-! ## What the device sends -/

/-- Where the answer to an IRQ0080 stands is what the events expect. -/
theorem Ready.idle {binding : Binding} (ready : Ready binding)
    (other : binding.events.getExpectedEvent ≠ .command_32 ∧
      binding.events.getExpectedEvent ≠ .ack_32) :
    binding.events.irq80RearmEvent = .none ∧ (storyOf binding.log).rearm = .idle := by
  have rearm := ready.agreed.rearm
  unfold Binding.rearmStage at rearm
  unfold Events.getExpectedEvent at other
  rw [if_neg (by simp [ready.live.1])] at other
  cases event : binding.events.irq80RearmEvent with
  | none =>
    rw [event] at rearm
    exact ⟨rfl, rearm⟩
  | command_32 => simp [event] at other
  | ack_32 => simp [event] at other
  | _ =>
    rw [event] at rearm
    exact rearm.elim

theorem Ready.outstanding {binding : Binding} (ready : Ready binding) :
    (storyOf binding.log).outstanding = none :=
  ready.agreed.outstanding.trans (by simp [ready.free])

theorem Ready.handleIrq80 {binding : Binding} {message : A0Message} {answers : Answers}
    (ready : Ready binding) (waits : binding.events.getExpectedEvent = .irq2) :
    Ends (binding.handleIrq80 message answers) := by
  obtain ⟨none, idle⟩ := ready.idle (by simp [waits])
  unfold Binding.handleIrq80
  by_cases limit : binding.events.irq80Count ≥ irq80PerWaitLimit
  · rw [if_pos limit]
    exact ready.toKept.ends _
  rw [if_neg limit]
  rcases prepares : binding.events.lifecycle.prepareIrq80Rearm (readings message.body)
    (binding.stamp answers) with ⟨verdict, lifecycle⟩
  dsimp only
  have kept : Kept { binding with events := { binding.events with lifecycle } } :=
    { told := ready.told
      rearms := ready.rearms
      counted := ready.counted
      failedShut := ready.failedShut }
  cases verdict with
  | error error => exact kept.ends _
  | ok rearm =>
    obtain ⟨plan, free, due, answer⟩ := Adapter.prepareIrq80Rearm_answers prepares
    have agrees := ready.agreed
    have expected : binding.events.lifecycle.plan.pipeline.model.expected = .irq2 := by
      unfold CommandPlan.getExpectedEvent at due
      split at due
      · cases due
      · exact due
    have allowed : (storyOf binding.log).Allows (.rearmed (readings message.body)) :=
      ⟨by rw [ready.rearms]; omega, idle, ready.outstanding⟩
    have window := agrees.window ready.goes
    refine Settled.ends ?_ _
    exact {
      told := ready.told.concat allowed
      rearms := by
        rw [storyOf_note]
        exact congrArg (· + 1) ready.rearms
      counted := ready.counted
      failedShut := ready.failedShut
      agrees := fun _ => Agrees.noted {
        tidy := by
          dsimp only
          rw [plan]
          exact agrees.tidy
        outstanding := agrees.outstanding
        rearm := by
          unfold Binding.rearmStage
          dsimp only
          rw [if_neg (by simp [ready.free])]
          exact ⟨_, rfl, answer⟩
        waits := fun _ => ⟨by rw [← expected, ← plan], free⟩
        cached := fun prepared => absurd free prepared
        window := fun _ => {
          recovering := by
            rw [plan]
            exact window.recovering
          lates := window.lates
          requests := window.requests
          between := by
            rw [plan]
            exact window.between
          -- a sample is awaited before the 0x32 that leads to the IRQ2
          awaits := fun awaiting => by
            have stuck := (window.awaits awaiting).2.1
            rw [expected] at stuck
            cases stuck } }
      shut := ready.shut
      terminal := ready.terminal }

theorem Ready.handleAck {binding : Binding} {expected : Event} {answers : Answers}
    (ready : Ready binding) (echoes : (expectedAckEcho expected).isSome = true) :
    Lands (binding.handleAck expected answers) := by
  unfold Binding.handleAck
  by_cases rearmed : binding.events.irq80RearmEvent = .ack_32
  · rw [if_pos rearmed]
    have agrees := ready.agreed
    have completed : (storyOf binding.log).rearm = .completed := by
      have rearm := agrees.rearm
      unfold Binding.rearmStage at rearm
      rw [rearmed] at rearm
      exact rearm.1
    refine Settled.lands ?_ _
    exact {
      told := ready.told.concat completed
      rearms := by
        rw [storyOf_note]
        exact ready.rearms
      counted := ready.counted
      failedShut := ready.failedShut
      agrees := fun _ => Agrees.noted {
        tidy := agrees.tidy
        outstanding := agrees.outstanding
        rearm := rfl
        waits := fun waits => absurd rfl waits
        cached := agrees.cached
        window := fun goes => { agrees.window goes with } }
      shut := ready.shut
      terminal := ready.terminal }
  · rw [if_neg rearmed]
    refine ready.observeCounted ⟨?_, ?_, ?_⟩ <;>
      · rintro rfl
        cases echoes

/-- The contact callback is not asked in a fenced context, and changes nothing but its counts if it
accepts. -/
theorem tellContact_ok {binding after : Binding} {present : Bool} {answers : Answers}
    (accepted : binding.tellContact present answers = (.ok (), after)) :
    (binding.events.contact = true → binding.fenced = false) ∧
      ∃ audit, after = { binding with events := { binding.events with audit } } := by
  unfold Binding.tellContact at accepted
  dsimp only at accepted
  by_cases absent : binding.events.contact = false
  · rw [if_pos absent] at accepted
    cases accepted
    exact ⟨by simp [absent], binding.events.audit, rfl⟩
  rw [if_neg absent] at accepted
  by_cases fenced : binding.fenced = true
  · rw [if_pos fenced] at accepted
    cases accepted
  rw [if_neg fenced] at accepted
  cases answer : answers.contact with
  | accepts =>
    rw [answer] at accepted
    cases accepted
    exact ⟨fun _ => by simpa using fenced, _, rfl⟩
  | refuses error =>
    rw [answer] at accepted
    cases accepted
  | fences =>
    rw [answer] at accepted
    cases accepted

theorem Kept.tellContact {binding : Binding} (kept : Kept binding) (present : Bool)
    (answers : Answers) : Kept (binding.tellContact present answers).2 := by
  unfold Binding.tellContact
  dsimp only
  by_cases absent : binding.events.contact = false
  · rw [if_pos absent]
    exact kept
  rw [if_neg absent]
  by_cases fenced : binding.fenced = true
  · rw [if_pos fenced]
    exact kept
  rw [if_neg fenced]
  cases answers.contact with
  | accepts =>
    exact { told := kept.told
            rearms := kept.rearms
            counted := kept.counted
            failedShut := kept.failedShut }
  | refuses error => exact kept
  | fences =>
    have cancelled := kept.cancel
    exact { told := cancelled.told
            rearms := cancelled.rearms
            counted := cancelled.counted
            failedShut := cancelled.failedShut }

theorem Settled.tellContact {binding : Binding} (settled : Settled binding) (present : Bool)
    (answers : Answers) : Lands (binding.tellContact present answers) := by
  have after := settled.toKept.tellContact present answers
  rcases tells : binding.tellContact present answers with ⟨verdict, told⟩
  rw [tells] at after
  cases verdict with
  | error error => exact after.refused error
  | ok _ =>
    obtain ⟨-, audit, rfl⟩ := tellContact_ok tells
    exact (settled.relabelled audit binding.events.b0Pending).lands _

theorem cancelNow_contact (binding : Binding) :
    binding.cancelNow.events.contact = binding.events.contact := by
  unfold Binding.cancelNow Binding.transactionStop Binding.terminate
  by_cases terminal : binding.terminalError.isSome = true <;>
    by_cases failed : binding.transaction.failed = true <;>
    simp [terminal, failed, Events.closeZeroWindow]

theorem Observed.same {before after : Binding} {event : Event}
    (goes : before.terminalError = none) (observed : Observed before event after) :
    after.log = before.log ∧ after.events.failed = before.events.failed := by
  cases observed with
  | plain advances => exact ⟨rfl, rfl⟩
  | @fenced lifecycle advances context =>
    obtain ⟨log, events, -, -⟩ :=
      @cancelNow_stops { before with events := { before.events with lifecycle } } goes
    exact ⟨log, by rw [events]; rfl⟩

theorem Ready.handleIrq2 {binding : Binding} {touchFlags : UInt16} {raw : List UInt8}
    {answers : Answers} (ready : Ready binding)
    (waits : binding.events.getExpectedEvent = .irq2) :
    Lands (binding.handleIrq2 touchFlags raw answers) := by
  have kept := ready.observe_kept .irq2 none (some raw) touchFlags answers
  have agrees := ready.agreed
  unfold Binding.handleIrq2
  rcases accepted : binding.observe .irq2 none (some raw) touchFlags answers with ⟨verdict, after⟩
  rw [accepted] at kept
  cases verdict with
  | error error => exact kept.refused _
  | ok _ =>
    have observed := observe_observed agrees.tidy accepted
    dsimp only
    generalize counts : Binding.mk _ _ _ _ _ = counted
    have keeps : Kept counted := by
      subst counts
      have count : after.events.zero.lateReleaseCount + lateDue after.events.zero ≤
        after.events.zero.recoveredCount := kept.counted
      exact { told := kept.told
              rearms := kept.rearms
              counted := by
                simp only [lateDue]
                rw [if_neg (by simp)]
                omega
              failedShut := fun _ => rfl }
    have tells := keeps.tellContact true answers
    rcases told : counted.tellContact true answers with ⟨verdict, touched⟩
    rw [told] at tells
    cases verdict with
    | error error => exact tells.refused error
    | ok _ =>
      obtain ⟨unfenced, audit, rfl⟩ := tellContact_ok told
      subst counts
      cases observed with
      | fenced advances context =>
        have free := unfenced ((cancelNow_contact _).trans context)
        cases free
      | @plain lifecycle advances =>
        obtain ⟨none, idle⟩ := ready.idle (by simp [waits])
        refine Settled.lands ?_ _
        exact {
          told := ready.told.concat ⟨idle, ready.outstanding⟩
          rearms := by rw [storyOf_note]; rfl
          counted := keeps.counted
          failedShut := keeps.failedShut
          agrees := fun _ => Agrees.noted {
            tidy := advances.tidy
            outstanding := agrees.outstanding
            rearm := agrees.rearm
            waits := fun rearms => absurd none rearms
            cached := fun prepared => absurd advances.free prepared
            window := fun goes => {
              recovering := fun _ => rfl
              lates := by simp
              requests := by simp
              between := by simp
              awaits := by
                have quiet := (agrees.window goes).quiet advances (.inl (by simp))
                simp [quiet] } }
          shut := fun broken => by cases broken
          terminal := ready.terminal }

theorem lateDue_le (zero : ZeroMaskRecovery) : lateDue zero ≤ 1 := by
  unfold lateDue
  split <;> omega

/-- An adapter that has advanced is complete when its model is. -/
theorem advanced_complete {before after : Adapter} {event : Event}
    (advances : Adapter.Advances before event after) :
    after.isComplete = after.plan.pipeline.model.complete := by
  simp [Adapter.isComplete, CommandPlan.isComplete, Pipeline.isComplete, advances.running,
    advances.planned, advances.free]

theorem Ready.handleZeroContact {binding : Binding} {message : A0Message} {answers : Answers}
    (ready : Ready binding) (waits : binding.events.getExpectedEvent = .irq0100) :
    Lands (binding.handleZeroContact message answers) := by
  have kept := ready.observe_kept .zeroMaskRecovery none (some (readings message.body).val) 0 answers
  have agrees := ready.agreed
  have window := agrees.window ready.goes
  unfold Binding.handleZeroContact
  dsimp only
  by_cases recovers : binding.events.zeroEnabled = true ∧
      binding.events.zero.staleWindowOpen = false ∧
      binding.events.lifecycle.plan.pipeline.model.audit.observedPrimaryStageCount ≥ 2 ∧
      binding.events.lifecycle.plan.pipeline.model.audit.observedPrimaryStageCount =
        binding.events.lifecycle.plan.pipeline.model.audit.completedStageCount +
          binding.events.lifecycle.plan.pipeline.model.audit.retryStageCount + 1
  swap
  · rw [if_neg recovers]
    exact ready.toKept.refused _
  rw [if_pos recovers]
  rcases accepted : binding.observe .zeroMaskRecovery none (some (readings message.body).val) 0
    answers with ⟨verdict, after⟩
  rw [accepted] at kept
  cases verdict with
  | error error => exact kept.refused _
  | ok _ =>
    have observed := observe_observed agrees.tidy accepted
    have count : after.events.zero.lateReleaseCount + lateDue after.events.zero ≤
      after.events.zero.recoveredCount := kept.counted
    dsimp only
    generalize counts : Binding.note _ _ = counted
    -- an event is only observed before the enrollment is complete, where the log knows the window
    have more : binding.events.lifecycle.plan.pipeline.model.complete = false := by
      cases observed with
      | plain advances => exact advances.more
      | fenced advances context => exact advances.more
    have allowed : (storyOf binding.log).Allows .recovered :=
      (window.recovering more).symm.trans recovers.2.1
    have keeps : Kept counted := by
      subst counts
      obtain ⟨log, failed⟩ := observed.same ready.goes
      have due := lateDue_le (ZeroMaskRecovery.mk (after.events.zero.recoveredCount + 1)
        after.events.zero.lateReleaseCount after.events.zero.rearm32Count
        (!after.events.lifecycle.isComplete) false (!after.events.lifecycle.isComplete))
      exact { told := by
                dsimp only [note]
                rw [log]
                exact ready.told.concat allowed
              rearms := by
                rw [storyOf_note]
                exact kept.rearms
              counted := by
                dsimp only [note]
                omega
              failedShut := fun fails => absurd (failed.symm.trans fails) (by simp [ready.live.1]) }
    have tells := keeps.tellContact false answers
    rcases told : counted.tellContact false answers with ⟨verdict, lifted⟩
    rw [told] at tells
    cases verdict with
    | error error => exact tells.refused error
    | ok _ =>
      obtain ⟨unfenced, audit, rfl⟩ := tellContact_ok told
      refine Settled.lands (Settled.relabelled (?_ : Settled counted) audit
        counted.events.b0Pending) _
      subst counts
      cases observed with
      | fenced advances context =>
        have free := unfenced ((cancelNow_contact _).trans context)
        cases free
      | @plain lifecycle advances =>
        obtain ⟨none, idle⟩ := ready.idle (by simp [waits])
        obtain ⟨reply, samples, accepts⟩ := advances.accepts
        have complete := advanced_complete advances
        have opens : (!lifecycle.isComplete) = true →
            lifecycle.plan.pipeline.model.expected = .command_32 := by
          intro opened
          exact accepts.recovers (by simpa [complete] using opened)
        exact {
          told := keeps.told
          rearms := keeps.rearms
          counted := keeps.counted
          failedShut := keeps.failedShut
          agrees := fun _ => Agrees.noted {
            tidy := advances.tidy
            outstanding := agrees.outstanding
            rearm := agrees.rearm
            waits := fun rearms => absurd none rearms
            cached := fun prepared => absurd advances.free prepared
            window := fun goes => {
              recovering := fun more => by
                dsimp only
                rw [complete, more]
                rfl
              lates := fun _ => rfl
              requests := fun opened => (if_pos opened).symm
              between := fun opened => by
                dsimp only
                rw [opens opened]
                rfl
              awaits := fun opened => ⟨opened, opens opened, advances.free⟩ } }
          shut := fun _ => ready.goes
          terminal := ready.terminal }

theorem Ready.handleIrq0200 {binding : Binding} {touchFlags : UInt16} {raw : List UInt8}
    {answers : Answers} (ready : Ready binding) :
    Lands (binding.handleIrq0200 touchFlags raw answers) := by
  have lands := @Ready.observeCounted binding .irq0200 (some raw) touchFlags answers
    (fun audit => { audit with irq0200Count := audit.irq0200Count + 1 }) ready (by simp)
  unfold Binding.handleIrq0200
  generalize binding.observeCounted .irq0200 (some raw) touchFlags answers _ = observed at lands ⊢
  rcases observed with ⟨verdict, after⟩
  cases verdict with
  | error error => exact lands.kept.refused error
  | ok _ => exact (lands.settled rfl).tellContact false answers

theorem Ready.mismatch {binding : Binding} (ready : Ready binding) (expected : Event)
    (message : A0Message) : Lands (binding.mismatch expected message) :=
  ready.toKept.refused _

theorem Ready.handleMessage {binding : Binding} {message : A0Message} {answers : Answers}
    (ready : Ready binding) :
    Lands (binding.handleMessage binding.events.getExpectedEvent message answers) := by
  generalize waits : binding.events.getExpectedEvent = expected
  unfold Binding.handleMessage
  split
  · rename_i echo echoes
    split
    · exact ready.handleAck (by rw [echoes]; rfl)
    · exact ready.mismatch _ _
  · split
    · exact ready.handleIrq2 waits
    · exact ready.mismatch _ _
  · split
    · exact ready.handleZeroContact waits
    · split
      · exact ready.observeCounted (by simp)
      · exact ready.mismatch _ _
  · split
    · exact ready.handleIrq0200
    · exact ready.mismatch _ _
  · exact ready.mismatch _ _

theorem Ready.eventsHandleA0 {binding : Binding} (ready : Ready binding) (frame : List UInt8)
    (answers : Answers) : Ends (binding.eventsHandleA0 frame answers) := by
  unfold Binding.eventsHandleA0
  dsimp only
  split
  · exact ready.toKept.ends _
  split
  · split
    · exact ready.toKept.ends _
    · exact (ready.observeCounted (by simp)).concludes
  split
  · exact ready.toKept.ends _
  cases parseReceived frame with
  | error error => exact ready.toKept.ends _
  | ok message =>
    dsimp only
    generalize { binding.events.audit with
      parsedA0Count := binding.events.audit.parsedA0Count + 1 } = audit
    have parsed := ready.relabelled audit binding.events.b0Pending
    split
    · rename_i rearms
      exact parsed.handleIrq80 rearms.1
    · exact parsed.handleMessage.concludes

theorem Ready.handlePrimarySamples {binding : Binding} (ready : Ready binding)
    (samples : List UInt16) (answers : Answers) :
    Ends (binding.handlePrimarySamples samples answers) := by
  have kept := ready.observe_kept .primaryB0 (some samples) none 0 answers
  unfold Binding.handlePrimarySamples
  split
  · exact ready.toKept.ends _
  · rcases accepted : binding.observe .primaryB0 (some samples) none 0 answers with
      ⟨verdict, after⟩
    rw [accepted] at kept
    cases verdict with
    | error error => exact kept.ends _
    | ok _ =>
      have settled := ready.observed (by simp) accepted
      exact (settled.relabelled _ after.events.b0Pending).ends _

theorem Ready.handleAuxiliaryB0 {binding : Binding} (ready : Ready binding)
    (answers : Answers) : Ends (binding.handleAuxiliaryB0 answers) := by
  have kept := ready.observe_kept .auxiliaryB0 none none 0 answers
  unfold Binding.handleAuxiliaryB0
  split
  · exact ready.toKept.ends _
  · rcases accepted : binding.observe .auxiliaryB0 none none 0 answers with ⟨verdict, after⟩
    rw [accepted] at kept
    cases verdict with
    | error error => exact kept.ends _
    | ok _ =>
      have settled := ready.observed (by simp) accepted
      exact (settled.relabelled _ after.events.b0Pending).ends _

theorem Ready.handleComplete {binding : Binding} (ready : Ready binding) (expected : Event)
    (complete : List UInt8) (answers : Answers) :
    Ends (binding.handleComplete expected complete answers) := by
  have cleared : Ready binding.clearPending := ready.relabelled binding.events.audit []
  unfold Binding.handleComplete
  split
  · cases decodePlaintext complete with
    | error error => exact cleared.toKept.ends _
    | ok samples => exact cleared.handlePrimarySamples samples answers
  · cases (if binding.fenced then Except.error (some fencedError) else answers.auxiliary) with
    | error error => exact cleared.toKept.ends _
    | ok _ => exact (ready.relabelled _ []).handleAuxiliaryB0 answers

theorem Ready.eventsHandlePlaintextChunk {binding : Binding} (ready : Ready binding)
    (chunk : List UInt8) (answers : Answers) :
    Ends (binding.eventsHandlePlaintextChunk chunk answers) := by
  unfold Binding.eventsHandlePlaintextChunk
  dsimp only
  generalize binding.events.b0Pending ++ chunk = pending
  have appended := ready.relabelled binding.events.audit pending
  split
  · exact ready.toKept.ends _
  split
  · exact ready.toKept.ends _
  split
  · exact ready.toKept.ends _
  split
  · exact appended.toSettled.ends _
  split
  · exact appended.toKept.ends _
  split
  · exact appended.toSettled.ends _
  · exact appended.handleComplete _ _ answers

end Binding

end Goodix.Enrollment
