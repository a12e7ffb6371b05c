import Goodix.Enrollment.Inbound

/-! # The binding agrees with its story

A command is prepared by the events, pending in the transaction and submitted by the binding; each
keeps its own flag.  With what the device sends this makes every call of the binding, so that the
agreement holds between any two calls of a run.
-/

namespace Goodix.Enrollment

open Octets FdtIrqPolicy A0Protocol ImageDecoder Machines Traces

namespace Binding

/-! ## Commands -/

theorem Sound.transactionFail {binding : Binding} (sound : Sound binding) (error : GError) :
    Ends (binding.transactionFail error) :=
  ⟨sound.transactionStop, nofun⟩

/-- What is prepared for the transaction. -/
theorem prepare_prepared {events after : Events} {stamp : Stamp} {prepared : PreparedCommand}
    (accepted : events.prepare stamp = (.ok prepared, after)) :
    events.failed = false ∧ events.zero.awaitingSampleRequest = false ∧
      (events.irq80RearmEvent = .command_32 ∧ prepared = events.irq80Rearm ∧ after = events ∨
        events.irq80RearmEvent ≠ .command_32 ∧ ∃ lifecycle,
          events.lifecycle.prepare stamp = (.ok prepared, lifecycle) ∧
            after = { events with lifecycle }) := by
  unfold Events.prepare at accepted
  by_cases refuses : events.failed ∨ events.b0Pending ≠ [] ∨ events.zero.awaitingSampleRequest
  · rw [if_pos refuses] at accepted
    cases accepted
  rw [if_neg refuses] at accepted
  refine ⟨by simpa using (not_or.mp refuses).1,
    by simpa using (not_or.mp (not_or.mp refuses).2).2, ?_⟩
  by_cases rearms : events.irq80RearmEvent = .command_32
  · rw [if_pos rearms] at accepted
    cases accepted
    exact .inl ⟨rearms, rfl, rfl⟩
  rw [if_neg rearms] at accepted
  rcases prepares : events.lifecycle.prepare stamp with ⟨verdict, lifecycle⟩
  rw [prepares] at accepted
  cases verdict with
  | error error => cases accepted
  | ok command =>
    cases accepted
    exact .inr ⟨rearms, lifecycle, rfl, rfl⟩

/-- Events that fail with an adapter of their own. -/
theorem Sound.stopped {binding : Binding} (sound : Sound binding) (lifecycle : Adapter) :
    Sound { binding with events := ({ binding.events with lifecycle } : Events).stop } := by
  have kept : Kept { binding with events := { binding.events with lifecycle } } :=
    { told := sound.told
      rearms := sound.rearms
      counted := sound.counted
      failedShut := sound.failedShut }
  exact kept.stop

/-- A preparation that is refused fails the events. -/
theorem Sound.prepare_refused {binding : Binding} {stamp : Stamp} {error : GError}
    {events : Events} (sound : Sound binding)
    (refused : binding.events.prepare stamp = (.error error, events)) :
    Sound { binding with events } := by
  unfold Events.prepare at refused
  split at refused
  · cases refused
    exact sound.stopped binding.events.lifecycle
  split at refused
  · cases refused
  · split at refused
    · cases refused
      exact sound.stopped _
    · cases refused

/-- A preparation advances nothing. -/
theorem Agrees.prepared {story : Story} {binding : Binding} {stamp : Stamp}
    {prepared : PreparedCommand} {events : Events} (agrees : Agrees story binding)
    (accepted : binding.events.prepare stamp = (.ok prepared, events)) :
    Agrees story { binding with events } := by
  obtain ⟨-, quiet, cases⟩ := prepare_prepared accepted
  cases cases with
  | inl rearm =>
    obtain ⟨-, -, rfl⟩ := rearm
    exact agrees
  | inr plain =>
    obtain ⟨other, lifecycle, prepares, rfl⟩ := plain
    have plan : lifecycle.plan = binding.events.lifecycle.plan := by
      rw [← binding.events.lifecycle.prepare_plan stamp, prepares]
    obtain ⟨-, command, cached⟩ := Adapter.prepare_at prepares
    exact {
      tidy := by
        dsimp only
        rw [plan]
        exact agrees.tidy
      outstanding := agrees.outstanding
      rearm := agrees.rearm
      -- an IRQ2 is expected while a re-arm goes on, so that nothing could be prepared
      waits := fun rearms => by
        obtain ⟨expected, free⟩ := agrees.waits rearms
        have stuck := command free
        rw [expected] at stuck
        cases stuck
      cached := fun _ => by
        dsimp only
        rw [plan]
        cases held : binding.events.lifecycle.cached with
        | none => exact command held
        | some before => exact agrees.cached (by simp [held])
      window := fun goes => by
        have window := agrees.window goes
        exact {
          recovering := by
            dsimp only
            rw [plan]
            exact window.recovering
          lates := window.lates
          requests := window.requests
          between := by
            dsimp only
            rw [plan]
            exact window.between
          awaits := fun awaiting => by
            rw [quiet] at awaiting
            cases awaiting } }

theorem prepare_same {events after : Events} {stamp : Stamp} {prepared : PreparedCommand}
    (accepted : events.prepare stamp = (.ok prepared, after)) :
    after = { events with lifecycle := after.lifecycle } := by
  obtain ⟨-, -, cases⟩ := prepare_prepared accepted
  cases cases with
  | inl rearm =>
    obtain ⟨-, -, rfl⟩ := rearm
    rfl
  | inr plain =>
    obtain ⟨-, lifecycle, -, rfl⟩ := plain
    rfl

theorem prepare_rearm {events after : Events} {stamp : Stamp} {prepared : PreparedCommand}
    (accepted : events.prepare stamp = (.ok prepared, after))
    (rearms : after.irq80RearmEvent = .command_32) : after.irq80Rearm = prepared := by
  obtain ⟨-, -, cases⟩ := prepare_prepared accepted
  cases cases with
  | inl rearm =>
    obtain ⟨-, rfl, rfl⟩ := rearm
    rfl
  | inr plain =>
    obtain ⟨other, lifecycle, -, rfl⟩ := plain
    exact absurd rearms other

theorem Settled.prepared {binding : Binding} {stamp : Stamp} {prepared : PreparedCommand}
    {events : Events} (settled : Settled binding)
    (accepted : binding.events.prepare stamp = (.ok prepared, events)) :
    Settled { binding with events } := by
  have same := prepare_same accepted
  have agrees := fun agrees : Agrees (storyOf binding.log) binding => agrees.prepared accepted
  revert agrees
  rw [same]
  intro agrees
  exact { told := settled.told
          rearms := settled.rearms
          counted := settled.counted
          failedShut := settled.failedShut
          agrees := fun live => agrees (settled.agrees live)
          shut := settled.shut
          terminal := settled.terminal }

/-- The command that is prepared may be submitted. -/
theorem Agrees.submits {binding : Binding} {stamp : Stamp} {prepared : PreparedCommand}
    {events : Events} {frame : List UInt8}
    (agrees : Agrees (storyOf binding.log) binding) (goes : binding.terminalError = none)
    (free : binding.transaction.pending = false)
    (accepted : binding.events.prepare stamp = (.ok prepared, events))
    (built : outboundFrameBuild prepared = .ok frame) :
    (storyOf binding.log).Allows (.submitted prepared frame) := by
  obtain ⟨-, quiet, cases⟩ := prepare_prepared accepted
  have window := agrees.window goes
  have rearm := agrees.rearm
  unfold Binding.rearmStage at rearm
  have due : binding.events.lifecycle.plan.pipeline.model.complete = false ∧
      ((storyOf binding.log).rearm = .idle ∨
        ∃ raw, (storyOf binding.log).rearm = .accepted raw ∧ Story.AnswersWith raw prepared) := by
    have running : binding.events.lifecycle.plan.pipeline.model.expected ≠ .none →
        binding.events.lifecycle.plan.pipeline.model.complete = false := by
      intro expects
      cases complete : binding.events.lifecycle.plan.pipeline.model.complete with
      | false => rfl
      | true => exact absurd (agrees.tidy.ended complete) expects
    cases cases with
    | inl answer =>
      obtain ⟨rearms, rfl, -⟩ := answer
      rw [rearms] at rearm
      dsimp only at rearm
      rw [if_neg (by simp [free])] at rearm
      obtain ⟨raw, stage, answers⟩ := rearm
      exact ⟨running (by simp [(agrees.waits (by simp [rearms])).1]), .inr ⟨raw, stage, answers⟩⟩
    | inr plain =>
      obtain ⟨other, lifecycle, prepares, -⟩ := plain
      obtain ⟨-, command, -⟩ := Adapter.prepare_at prepares
      have commands :
          isCommandEvent binding.events.lifecycle.plan.pipeline.model.expected = true := by
        cases held : binding.events.lifecycle.cached with
        | none => exact command held
        | some before => exact agrees.cached (by simp [held])
      refine ⟨running (by rintro none; rw [none] at commands; cases commands), ?_⟩
      cases event : binding.events.irq80RearmEvent with
      | none =>
        rw [event] at rearm
        exact .inl rearm
      | command_32 => exact absurd event other
      | ack_32 =>
        have waits := (agrees.waits (by simp [event])).1
        rw [waits] at commands
        cases commands
      | _ =>
        rw [event] at rearm
        exact rearm.elim
  refine ⟨agrees.outstanding.trans (by simp [free]), built, ?_, ?_⟩
  · intro recovering _
    have opened := (window.recovering due.1).trans recovering
    rw [window.requests opened, quiet]
    rfl
  · obtain ⟨-, idle | ⟨raw, stage, answers⟩⟩ := due
    · rw [idle]
      trivial
    · rw [stage]
      exact answers

theorem Settled.transactionSubmitNext {binding : Binding} (settled : Settled binding)
    (goes : binding.terminalError = none) (answers : Answers) :
    Ends (binding.transactionSubmitNext answers) := by
  unfold Binding.transactionSubmitNext
  by_cases refuses : binding.transaction.failed ∨ binding.transaction.pending ∨
      binding.events.isComplete
  · rw [if_pos refuses]
    exact settled.toSound.transactionFail _
  rw [if_neg refuses]
  simp only [not_or, Bool.not_eq_true] at refuses
  obtain ⟨running, free, -⟩ := refuses
  rcases prepares : binding.events.prepare (binding.stamp answers) with ⟨verdict, events⟩
  cases verdict with
  | error error => exact (settled.toSound.prepare_refused prepares).transactionFail _
  | ok prepared =>
    have ready := settled.prepared prepares
    dsimp only
    cases builds : outboundFrameBuild prepared with
    | error error => exact ready.toSound.transactionFail _
    | ok frame =>
      have agrees := settled.agrees ⟨(prepare_prepared prepares).1, running⟩
      have allowed := agrees.submits goes free prepares builds
      have later := agrees.prepared prepares
      have same := prepare_same prepares
      dsimp only
      generalize submits : Binding.note _ _ = submitted
      have sent : Settled submitted := by
        subst submits
        exact {
          told := ready.told.concat allowed
          rearms := by
            rw [storyOf_note]
            exact ready.rearms
          counted := ready.counted
          failedShut := ready.failedShut
          agrees := fun live => Agrees.noted {
            tidy := later.tidy
            outstanding := rfl
            rearm := by
              have rearm := later.rearm
              unfold Binding.rearmStage at rearm ⊢
              dsimp only at rearm ⊢
              cases event : events.irq80RearmEvent with
              | none =>
                rw [event] at rearm
                exact if_pos rearm
              | command_32 =>
                rw [event] at rearm
                dsimp only at rearm
                rw [if_neg (by simp [free])] at rearm
                obtain ⟨raw, stage, -⟩ := rearm
                exact ⟨by simp [Story.after, stage], (prepare_rearm prepares event).symm⟩
              | ack_32 =>
                -- the re-arm has completed and waits for its acknowledgement
                rw [event] at rearm
                have stage := allowed.2.2.2
                rw [rearm.1] at stage
                exact stage.elim
              | _ =>
                rw [event] at rearm
                exact rearm.elim
            waits := later.waits
            cached := later.cached
            window := fun goes => { later.window goes with } }
          shut := ready.shut
          terminal := ready.terminal }
      cases answers.sink with
      | error error => exact sent.toSound.transactionFail _
      | ok _ => exact sent.ends _

/-- What a commit does to the events: the re-arm waits for its acknowledgement, or the graph
advances past the command. -/
theorem commit_committed {events after : Events} {commandEvent : Event}
    (accepted : events.commit commandEvent = (.ok (), after)) :
    events.failed = false ∧
      (events.irq80RearmEvent = .command_32 ∧ commandEvent = .command_32 ∧
          after = { events with irq80RearmEvent := .ack_32 } ∨
        events.irq80RearmEvent = .none ∧ ∃ lifecycle rearm32Count,
          events.lifecycle.commit commandEvent = (.ok (), lifecycle) ∧
            after = { events with lifecycle, zero := { events.zero with rearm32Count } }) := by
  unfold Events.commit at accepted
  by_cases refuses : events.failed ∨ events.b0Pending ≠ []
  · rw [if_pos refuses] at accepted
    cases accepted
  rw [if_neg refuses] at accepted
  refine ⟨by simpa using (not_or.mp refuses).1, ?_⟩
  by_cases rearms : events.irq80RearmEvent ≠ .none
  · rw [if_pos rearms] at accepted
    by_cases other : events.irq80RearmEvent ≠ .command_32 ∨ commandEvent ≠ .command_32
    · rw [if_pos other] at accepted
      cases accepted
    · rw [if_neg other] at accepted
      cases accepted
      exact .inl ⟨not_not.mp (not_or.mp other).1, not_not.mp (not_or.mp other).2, rfl⟩
  · rw [if_neg rearms] at accepted
    rcases commits : events.lifecycle.commit commandEvent with ⟨verdict, lifecycle⟩
    rw [commits] at accepted
    cases verdict with
    | error error => cases accepted
    | ok _ =>
      dsimp only at accepted
      refine .inr ⟨not_not.mp rearms, lifecycle, ?_⟩
      split at accepted
      · cases accepted
        exact ⟨_, rfl, rfl⟩
      · cases accepted
        exact ⟨events.zero.rearm32Count, rfl, rfl⟩

/-- A commit that is refused fails the events. -/
theorem Sound.commit_refused {binding : Binding} {commandEvent : Event} {error : GError}
    {events : Events} (sound : Sound binding)
    (refused : binding.events.commit commandEvent = (.error error, events)) :
    Sound { binding with events } := by
  unfold Events.commit at refused
  split at refused
  · cases refused
    exact sound.stopped binding.events.lifecycle
  split at refused
  · split at refused
    · cases refused
      exact sound.stopped binding.events.lifecycle
    · cases refused
  · split at refused
    · cases refused
      exact sound.stopped _
    · dsimp only at refused
      split at refused <;> cases refused

/-- A command whose OUT has completed is committed. -/
theorem Settled.committed {binding : Binding} {events : Events} (settled : Settled binding)
    (running : binding.transaction.failed = false) (pending : binding.transaction.pending = true)
    (commits : binding.events.commit binding.transaction.prepared.intent.event =
      (.ok (), events)) :
    Settled ({ binding with
      events
      transaction := { binding.transaction with prepared := .cleared, pending := false } }.note
        (.committed binding.transaction.prepared.intent.event)) := by
  obtain ⟨sound, cases⟩ := commit_committed commits
  have agrees := settled.agrees ⟨sound, running⟩
  have outstanding : (storyOf binding.log).outstanding = some binding.transaction.prepared :=
    agrees.outstanding.trans (if_pos pending)
  have told : Told (binding.log ++ [.committed binding.transaction.prepared.intent.event]) :=
    settled.told.concat ⟨_, outstanding, rfl⟩
  have rearm := agrees.rearm
  unfold Binding.rearmStage at rearm
  cases cases with
  | inl answer =>
    obtain ⟨rearms, -, rfl⟩ := answer
    rw [rearms] at rearm
    dsimp only at rearm
    rw [if_pos pending] at rearm
    exact {
      told
      rearms := by
        rw [storyOf_note]
        exact settled.rearms
      counted := settled.counted
      failedShut := settled.failedShut
      agrees := fun _ => Agrees.noted {
        tidy := agrees.tidy
        outstanding := rfl
        rearm := ⟨by simp [Story.after, rearm.1], rfl⟩
        waits := fun _ => agrees.waits (by simp [rearms])
        cached := agrees.cached
        window := fun goes => { agrees.window goes with } }
      shut := settled.shut
      terminal := settled.terminal }
  | inr plain =>
    obtain ⟨idle, lifecycle, rearm32Count, advanced, rfl⟩ := plain
    rw [idle] at rearm
    obtain ⟨advances, command, same⟩ := Adapter.commit_advances agrees.tidy advanced
    have prepared := Adapter.commit_prepared advanced
    have later := agrees.advanced advances
      (by constructor <;> (intro event; rw [event] at command; cases command)) (.inr prepared)
    exact {
      told
      rearms := by
        rw [storyOf_note]
        exact settled.rearms
      counted := settled.counted
      failedShut := settled.failedShut
      agrees := fun _ => Agrees.noted {
        tidy := later.tidy
        outstanding := rfl
        rearm := by
          unfold Binding.rearmStage
          dsimp only
          rw [idle]
          exact if_pos rearm
        waits := later.waits
        cached := later.cached
        window := fun goes => { later.window goes with } }
      shut := settled.shut
      terminal := settled.terminal }

theorem Settled.completeOut {binding : Binding} (settled : Settled binding)
    (generation : UInt64) (completionError : Option GError) :
    Ends (binding.completeOut generation completionError) := by
  unfold Binding.completeOut
  by_cases refuses : binding.transaction.failed ∨ binding.transaction.pending = false
  · rw [if_pos refuses]
    exact settled.toSound.transactionFail _
  rw [if_neg refuses]
  simp only [not_or, Bool.not_eq_true, Bool.not_eq_false] at refuses
  by_cases stale : generation ≠ binding.transaction.generation
  · rw [if_pos stale]
    exact settled.toSound.transactionFail _
  rw [if_neg stale]
  cases completionError with
  | some error => exact settled.toSound.transactionFail _
  | none =>
    dsimp only
    rcases commits : binding.events.commit binding.transaction.prepared.intent.event with
      ⟨verdict, events⟩
    cases verdict with
    | error error => exact (settled.toSound.commit_refused commits).transactionFail _
    | ok _ => exact (settled.committed refuses.1 refuses.2 commits).ends _

/-! ## Calls of the binding -/

theorem Settled.ready {binding : Binding} (settled : Settled binding)
    (goes : binding.terminalError = none) (free : binding.transaction.pending = false)
    (running : binding.events.failed = false) : Ready binding where
  toSettled := settled
  goes
  live := by
    refine ⟨running, ?_⟩
    cases failed : binding.transaction.failed with
    | false => rfl
    | true => simpa [goes] using settled.terminal failed
  free

theorem Settled.submitNext {binding : Binding} (settled : Settled binding) (answers : Answers) :
    Settled (binding.submitNext answers).2 := by
  unfold Binding.submitNext
  by_cases terminal : binding.terminalError.isSome = true
  · rw [if_pos terminal]
    exact settled.toSound.fail _ _
  rw [if_neg terminal]
  have ends := settled.transactionSubmitNext (by simpa using terminal) answers
  rcases submits : binding.transactionSubmitNext answers with ⟨verdict, after⟩
  rw [submits] at ends
  cases verdict with
  | error error => exact ends.sound.fail _ _
  | ok _ => exact ends.settled rfl

theorem Settled.submitIfGraphReady {binding : Binding} (settled : Settled binding)
    (answers : Answers) : Settled (binding.submitIfGraphReady answers).2 := by
  unfold Binding.submitIfGraphReady
  cases binding.terminalError with
  | some error => exact settled
  | none =>
    dsimp only
    split
    · exact settled
    split
    · exact settled.submitNext answers
    · exact settled

theorem Settled.eventsHandleA0 {binding : Binding} (settled : Settled binding)
    (goes : binding.terminalError = none) (free : binding.transaction.pending = false)
    (frame : List UInt8) (answers : Answers) : Ends (binding.eventsHandleA0 frame answers) := by
  cases failed : binding.events.failed with
  | false => exact (settled.ready goes free failed).eventsHandleA0 frame answers
  | true =>
    unfold Binding.eventsHandleA0
    rw [if_pos (.inl failed)]
    exact settled.toKept.ends _

theorem Settled.eventsHandlePlaintextChunk {binding : Binding} (settled : Settled binding)
    (goes : binding.terminalError = none) (free : binding.transaction.pending = false)
    (chunk : List UInt8) (answers : Answers) :
    Ends (binding.eventsHandlePlaintextChunk chunk answers) := by
  cases failed : binding.events.failed with
  | false => exact (settled.ready goes free failed).eventsHandlePlaintextChunk chunk answers
  | true =>
    unfold Binding.eventsHandlePlaintextChunk
    rw [if_pos failed]
    exact settled.toKept.ends _

/-- What the events make of the input, the transaction passes on. -/
theorem Ends.passed {result : Except GError Unit × Binding} (ends : Ends result) :
    Ends (match result with
      | (.error error, after) => after.transactionFail error
      | (.ok (), after) => (.ok (), after)) := by
  rcases result with ⟨verdict, after⟩
  cases verdict with
  | error error => exact ends.sound.transactionFail error
  | ok _ => exact ends

theorem Settled.transactionHandleA0 {binding : Binding} (settled : Settled binding)
    (goes : binding.terminalError = none) (frame : List UInt8) (answers : Answers) :
    Ends (binding.transactionHandleA0 frame answers) := by
  unfold Binding.transactionHandleA0
  by_cases refuses : binding.transaction.failed ∨ binding.transaction.pending
  · rw [if_pos refuses]
    exact settled.toSound.transactionFail _
  rw [if_neg refuses]
  have free : binding.transaction.pending = false := by simpa using (not_or.mp refuses).2
  exact (settled.eventsHandleA0 goes free frame answers).passed

theorem Settled.transactionHandlePlaintextChunk {binding : Binding} (settled : Settled binding)
    (goes : binding.terminalError = none) (chunk : List UInt8) (answers : Answers) :
    Ends (binding.transactionHandlePlaintextChunk chunk answers) := by
  unfold Binding.transactionHandlePlaintextChunk
  by_cases refuses : binding.transaction.failed ∨ binding.transaction.pending
  · rw [if_pos refuses]
    exact settled.toSound.transactionFail _
  rw [if_neg refuses]
  have free : binding.transaction.pending = false := by simpa using (not_or.mp refuses).2
  exact (settled.eventsHandlePlaintextChunk goes free chunk answers).passed

/-- Accepted input is followed by the next command; input that is refused ends the enrollment. -/
theorem Ends.answered {result : Except GError Unit × Binding} (ends : Ends result)
    (message : String) (answers : Answers) :
    Settled (match result with
      | (.error error, after) => after.fail message error
      | (.ok (), after) => after.submitIfGraphReady answers).2 := by
  rcases result with ⟨verdict, after⟩
  cases verdict with
  | error error => exact ends.sound.fail message error
  | ok _ => exact (ends.settled rfl).submitIfGraphReady answers

/-- What a late release does, and what refuses it. -/
inductive Consumed (events : Events) (frame : List UInt8) : Except GError Bool × Events → Prop where
  | other : Consumed events frame (.ok false, events)
  | refused (opened : events.zero.staleWindowOpen = true) (error : GError) :
      Consumed events frame (.error error, events.stop)
  | late (running : events.failed = false) (opened : events.zero.staleWindowOpen = true)
      (first : events.zero.lateSeen = false) :
      Consumed events frame (.ok true, { events with
        zero := { events.zero with
          lateSeen := true, lateReleaseCount := events.zero.lateReleaseCount + 1 }
        audit := { events.audit with parsedA0Count := events.audit.parsedA0Count + 1 } })

theorem consumeStaleRelease_cases (events : Events) (frame : List UInt8) :
    Consumed events frame (events.consumeStaleRelease frame) := by
  unfold Events.consumeStaleRelease
  by_cases other : events.failed ∨ events.zero.staleWindowOpen = false ∨ frame.length < 5 ∨
      octet frame 4 ≠ 0x34
  · rw [if_pos other]
    exact .other
  rw [if_neg other]
  simp only [not_or, Bool.not_eq_true, Bool.not_eq_false] at other
  cases parseFrame frame 0x34 with
  | error error => exact .refused other.2.1 error
  | ok message =>
    dsimp only
    by_cases invalid : isLateRelease message.body = false ∨ events.zero.lateSeen
    · rw [if_pos invalid]
      exact .refused other.2.1 _
    · rw [if_neg invalid]
      exact .late other.1 other.2.1 (by simpa using (not_or.mp invalid).2)

theorem Settled.handleA0 {binding : Binding} (settled : Settled binding) (frame : List UInt8)
    (answers : Answers) : Settled (binding.handleA0 frame answers).2 := by
  unfold Binding.handleA0
  by_cases terminal : binding.terminalError.isSome = true
  · rw [if_pos terminal]
    exact settled.toSound.fail _ _
  rw [if_neg terminal]
  have goes : binding.terminalError = none := by simpa using terminal
  have consumed := consumeStaleRelease_cases binding.events frame
  generalize binding.events.consumeStaleRelease frame = result at consumed ⊢
  cases consumed with
  | other =>
    exact (settled.transactionHandleA0 goes frame answers).answered _ answers
  | refused opened error => exact settled.toKept.stop.fail _ error
  | late running opened first =>
    have live : binding.Live := by
      refine ⟨running, ?_⟩
      cases failed : binding.transaction.failed with
      | false => rfl
      | true => simpa [goes] using settled.terminal failed
    have agrees := settled.agrees live
    have window := agrees.window goes
    have recovering := (window.recovering (window.more agrees.tidy opened)).symm.trans opened
    have lates := window.lates opened
    rw [first] at lates
    have counted := settled.counted
    exact {
      told := settled.told.concat ⟨recovering, lates⟩
      rearms := by
        rw [storyOf_note]
        exact settled.rearms
      counted := by
        simp only [lateDue, opened, first] at counted
        simpa [note, lateDue] using counted
      failedShut := settled.failedShut
      agrees := fun _ => Agrees.noted {
        tidy := agrees.tidy
        outstanding := agrees.outstanding
        rearm := agrees.rearm
        waits := agrees.waits
        cached := agrees.cached
        window := fun goes => {
          recovering := window.recovering
          lates := fun _ => congrArg (· + 1) lates
          requests := window.requests
          between := window.between
          awaits := window.awaits } }
      shut := settled.shut
      terminal := settled.terminal }

theorem Settled.handlePlaintextChunk {binding : Binding} (settled : Settled binding)
    (chunk : List UInt8) (answers : Answers) :
    Settled (binding.handlePlaintextChunk chunk answers).2 := by
  unfold Binding.handlePlaintextChunk
  by_cases terminal : binding.terminalError.isSome = true
  · rw [if_pos terminal]
    exact settled.toSound.fail _ _
  rw [if_neg terminal]
  have goes : binding.terminalError = none := by simpa using terminal
  exact (settled.transactionHandlePlaintextChunk goes chunk answers).answered _ answers

theorem Settled.live {binding : Binding} (settled : Settled binding)
    (goes : binding.terminalError = none) (running : binding.events.failed = false) :
    binding.Live := by
  refine ⟨running, ?_⟩
  cases failed : binding.transaction.failed with
  | false => rfl
  | true => simpa [goes] using settled.terminal failed

theorem Settled.requestZeroSample {binding : Binding} (settled : Settled binding)
    (answers : Answers) : Settled (binding.requestZeroSample answers).2 := by
  unfold Binding.requestZeroSample
  by_cases terminal : binding.terminalError.isSome ∨ binding.transactionHasPending
  · rw [if_pos terminal]
    exact settled.toSound.fail _ _
  rw [if_neg terminal]
  have goes : binding.terminalError = none := by simpa using (not_or.mp terminal).1
  unfold Events.requestZeroSample
  by_cases undue : binding.events.failed ∨ binding.events.zero.awaitingSampleRequest = false ∨
      binding.events.getExpectedEvent ≠ .command_32
  · rw [if_pos undue]
    exact settled.toKept.stop.terminate _
  rw [if_neg undue]
  simp only [not_or, Bool.not_eq_true, Bool.not_eq_false] at undue
  have agrees := settled.agrees (settled.live goes undue.1)
  have window := agrees.window goes
  have opened := (window.awaits undue.2.1).1
  have recovering := (window.recovering (window.more agrees.tidy opened)).symm.trans opened
  have requests := window.requests opened
  rw [undue.2.1] at requests
  refine Settled.submitIfGraphReady ?_ answers
  exact {
    told := settled.told.concat ⟨recovering, requests⟩
    rearms := by
      rw [storyOf_note]
      exact settled.rearms
    counted := settled.counted
    failedShut := settled.failedShut
    agrees := fun _ => Agrees.noted {
      tidy := agrees.tidy
      outstanding := agrees.outstanding
      rearm := agrees.rearm
      waits := agrees.waits
      cached := agrees.cached
      window := fun goes => {
        recovering := window.recovering
        lates := window.lates
        requests := fun _ => congrArg (· + 1) requests
        between := window.between
        awaits := nofun } }
    shut := settled.shut
    terminal := settled.terminal }

theorem Settled.backendOutComplete {binding : Binding} (settled : Settled binding)
    (generation : UInt64) (completionError : Option GError) (answers : Answers) :
    Settled (binding.backendOutComplete generation completionError answers) := by
  have ends := settled.completeOut generation completionError
  unfold Binding.backendOutComplete
  generalize binding.completeOut generation completionError = result at ends ⊢
  rcases result with ⟨verdict, after⟩
  cases verdict with
  | error error => exact ends.sound.terminate error
  | ok _ =>
    have completed : Settled after := ends.settled rfl
    dsimp only
    split
    · exact completed
    · cases answers.ready with
      | ok _ => exact completed
      | error error => exact completed.toSound.terminate _

theorem Settled.call {binding : Binding} (settled : Settled binding) (answers : Answers)
    (made : Call) : Settled (binding.call answers made).2 := by
  cases made with
  | handleA0 frame => exact settled.handleA0 frame answers
  | handlePlaintextChunk chunk => exact settled.handlePlaintextChunk chunk answers
  | requestZeroSample => exact settled.requestZeroSample answers
  | prepare =>
    unfold Binding.call
    rcases prepares : binding.events.prepare (binding.stamp answers) with ⟨verdict, events⟩
    cases verdict with
    | error error =>
      have sound := settled.toSound.prepare_refused prepares
      exact { toSound := sound, terminal := settled.terminal }
    | ok prepared => exact settled.prepared prepares
  | submitNext => exact settled.submitNext answers
  | outComplete generation completionError =>
    exact settled.backendOutComplete generation completionError answers
  | cancel => exact settled.cancel

theorem new_settled {config : ModelConfig} {contact zeroRecovery : Bool} {generation : UInt64}
    {binding : Binding} (made : Binding.new config contact zeroRecovery generation = .ok binding) :
    Settled binding := by
  unfold Binding.new Events.new Adapter.new CommandPlan.new at made
  rcases creates : Pipeline.new config with error | pipeline
  · rw [creates] at made
    cases made
  rw [creates] at made
  cases made
  obtain ⟨running, -, due, -⟩ := Pipeline.new_fresh creates
  exact {
    told := justified_nil _
    rearms := rfl
    counted := Nat.le_refl 0
    failedShut := nofun
    agrees := fun _ => {
      tidy := (Pipeline.new_sound creates running).1
      outstanding := rfl
      rearm := rfl
      waits := fun waits => absurd rfl waits
      cached := fun prepared => absurd rfl prepared
      window := fun _ => {
        recovering := fun _ => rfl
        lates := nofun
        requests := nofun
        between := nofun
        awaits := nofun } }
    shut := nofun
    terminal := nofun }

/-- Between any two calls the binding agrees with what it has noted. -/
theorem run_settled {config : ModelConfig} {contact zeroRecovery : Bool} {generation : UInt64}
    {binding : Binding} (made : Binding.new config contact zeroRecovery generation = .ok binding)
    (calls : List (Call × Answers)) : Settled (run step binding calls).1 :=
  run_state_invariant step Settled (new_settled made)
    (fun _ made settled => settled.call made.2 made.1) calls

end Binding

end Goodix.Enrollment
