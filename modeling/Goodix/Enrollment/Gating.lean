import Goodix.Enrollment.Agreement

/-! # What a call of the binding can change

The graph advances past a command only when the OUT of that command has completed, and nothing is
heard while a command is pending except one late release.
-/

namespace Goodix.Enrollment

open Octets FdtIrqPolicy A0Protocol ImageDecoder Machines Traces

namespace Binding

/-! ## The graph stays where it is -/

/-- The model with its image has not moved, and no re-arm has. -/
structure Stays (before after : Events) : Prop where
  plan : after.lifecycle.plan = before.lifecycle.plan
  failed : before.failed = true → after.failed = true
  rearm : after.failed = true ∨ after.irq80RearmEvent = before.irq80RearmEvent

theorem Stays.trans {first second third : Events} (earlier : Stays first second)
    (later : Stays second third) : Stays first third where
  plan := later.plan.trans earlier.plan
  failed failed := later.failed (earlier.failed failed)
  rearm := by
    cases later.rearm with
    | inl failed => exact .inl failed
    | inr same =>
      cases earlier.rearm with
      | inl failed => exact .inl (later.failed failed)
      | inr before => exact .inr (same.trans before)

/-- Nothing has been counted either, the window apart. -/
structure Idles (before after : Events) : Prop extends Stays before after where
  audit : after.audit = before.audit
  count : after.irq80Count = before.irq80Count

theorem Idles.refl (events : Events) : Idles events events := ⟨⟨rfl, id, .inr rfl⟩, rfl, rfl⟩

theorem Idles.trans {first second third : Events} (earlier : Idles first second)
    (later : Idles second third) : Idles first third where
  toStays := earlier.toStays.trans later.toStays
  audit := later.audit.trans earlier.audit
  count := later.count.trans earlier.count

theorem idles_stop (events : Events) : Idles events events.stop :=
  ⟨⟨by rw [stop_lifecycle], fun _ => stop_failed events, .inl (stop_failed events)⟩,
    stop_audit events, stop_irq80Count events⟩

theorem idles_terminate (binding : Binding) (error : GError) :
    Idles binding.events (binding.terminate error).events := by
  unfold Binding.terminate
  by_cases terminal : binding.terminalError.isSome = true
  · rw [if_pos terminal]
    exact .refl _
  · rw [if_neg terminal]
    exact ⟨⟨rfl, id, .inr rfl⟩, rfl, rfl⟩

theorem transactionStop_events (binding : Binding) :
    binding.transactionStop.events = binding.events := by
  unfold Binding.transactionStop
  by_cases failed : binding.transaction.failed = true
  · rw [if_pos failed]
  · rw [if_neg failed]

theorem idles_transactionFail (binding : Binding) (error : GError) :
    Idles binding.events (binding.transactionFail error).2.events := by
  rw [show (binding.transactionFail error).2.events = binding.events from
    transactionStop_events binding]
  exact .refl _

theorem idles_cancel (binding : Binding) : Idles binding.events binding.cancel.events := by
  cases binding.cancel_cases with
  | inl same =>
    rw [same]
    exact .refl _
  | inr stops =>
    rw [stops.2, (cancelNow_stops stops.1).2.1]
    exact ⟨⟨rfl, id, .inr rfl⟩, rfl, rfl⟩

theorem idles_prepare (events : Events) (stamp : Stamp) :
    Idles events (events.prepare stamp).2 := by
  unfold Events.prepare
  split
  · exact idles_stop events
  split
  · exact .refl _
  · have plan := events.lifecycle.prepare_plan stamp
    generalize events.lifecycle.prepare stamp = prepared at plan ⊢
    rcases prepared with ⟨verdict, lifecycle⟩
    have same : Idles events { events with lifecycle } := ⟨⟨plan, id, .inr rfl⟩, rfl, rfl⟩
    cases verdict with
    | error error => exact same.trans (idles_stop _)
    | ok prepared => exact same

theorem idles_transactionSubmitNext (binding : Binding) (answers : Answers) :
    Idles binding.events (binding.transactionSubmitNext answers).2.events := by
  have prepares := idles_prepare binding.events (binding.stamp answers)
  unfold Binding.transactionSubmitNext
  split
  · exact idles_transactionFail _ _
  generalize binding.events.prepare (binding.stamp answers) = result at prepares ⊢
  rcases result with ⟨verdict, events⟩
  cases verdict with
  | error error => exact prepares.trans (idles_transactionFail { binding with events } error)
  | ok prepared =>
    dsimp only
    cases outboundFrameBuild prepared with
    | error error => exact prepares.trans (idles_transactionFail { binding with events } error)
    | ok frame =>
      dsimp only
      generalize submits : Binding.note _ _ = submitted
      have same : submitted.events = events := by
        subst submits
        rfl
      rw [← same] at prepares
      cases answers.sink with
      | error error => exact prepares.trans (idles_transactionFail submitted _)
      | ok _ => exact prepares

theorem idles_submitNext (binding : Binding) (answers : Answers) :
    Idles binding.events (binding.submitNext answers).2.events := by
  have submits := idles_transactionSubmitNext binding answers
  unfold Binding.submitNext
  split
  · exact idles_terminate _ _
  generalize binding.transactionSubmitNext answers = result at submits ⊢
  rcases result with ⟨verdict, after⟩
  cases verdict with
  | error error => exact submits.trans (idles_terminate after _)
  | ok _ => exact submits

theorem idles_submitIfGraphReady (binding : Binding) (answers : Answers) :
    Idles binding.events (binding.submitIfGraphReady answers).2.events := by
  unfold Binding.submitIfGraphReady
  cases binding.terminalError with
  | some error => exact .refl _
  | none =>
    dsimp only
    split
    · exact .refl _
    split
    · exact idles_submitNext binding answers
    · exact .refl _

theorem idles_requestZeroSample (binding : Binding) (answers : Answers) :
    Idles binding.events (binding.requestZeroSample answers).2.events := by
  unfold Binding.requestZeroSample
  split
  · exact idles_terminate _ _
  unfold Events.requestZeroSample
  by_cases undue : binding.events.failed ∨ binding.events.zero.awaitingSampleRequest = false ∨
      binding.events.getExpectedEvent ≠ .command_32
  · rw [if_pos undue]
    exact (idles_stop binding.events).trans (idles_terminate
      { binding with events := binding.events.stop } _)
  · rw [if_neg undue]
    dsimp only
    generalize requests : Binding.note _ _ = requested
    have same : Idles binding.events requested.events := by
      subst requests
      exact ⟨⟨rfl, id, .inr rfl⟩, rfl, rfl⟩
    exact same.trans (idles_submitIfGraphReady requested answers)

/-! ## Completions -/

theorem commit_failed {events after : Events} {commandEvent : Event} {error : GError}
    (refused : events.commit commandEvent = (.error error, after)) : after.failed = true := by
  unfold Events.commit at refused
  split at refused
  · cases refused
    exact stop_failed events
  split at refused
  · split at refused
    · cases refused
      exact stop_failed events
    · cases refused
  · split at refused
    · cases refused
      exact stop_failed _
    · dsimp only at refused
      split at refused <;> cases refused

/-- The successful OUT completion of the pending command in the current generation; unless it fails
the events, the command is the one that is due. -/
def Completes (binding after : Binding) (made : Call) : Prop :=
  made = .outComplete binding.transaction.generation none ∧
    binding.transactionHasPending = true ∧
    (after.events.failed = false →
      binding.transaction.prepared.intent.event = binding.events.getExpectedEvent)

theorem commit_due {adapter after : Adapter} {commandEvent : Event}
    (accepted : adapter.commit commandEvent = (.ok (), after)) :
    adapter.getExpectedEvent = commandEvent := by
  unfold Adapter.commit at accepted
  by_cases failed : adapter.failed = true
  · rw [if_pos failed] at accepted
    cases accepted
  rw [if_neg failed] at accepted
  split at accepted
  · cases accepted
  split at accepted
  · cases accepted
  unfold CommandPlan.commit at accepted
  cases peeks : adapter.plan.peek with
  | none =>
    rw [peeks] at accepted
    cases accepted
  | some intent =>
    rw [peeks] at accepted
    dsimp only at accepted
    by_cases differs : commandEvent ≠ intent.event
    · rw [if_pos differs] at accepted
      cases accepted
    · have planned : adapter.plan.failed = false := by
        unfold CommandPlan.peek at peeks
        dsimp only at peeks
        split at peeks
        · cases peeks
        · rename_i runs
          simpa using (not_or.mp runs).1
      have event := CommandPlan.peek_event peeks
      simp only [Adapter.getExpectedEvent, CommandPlan.getExpectedEvent, failed, planned]
      exact event.symm.trans (not_not.mp differs).symm

theorem completeOut_moves (binding : Binding) (generation : UInt64)
    (completionError : Option GError) :
    Stays binding.events (binding.completeOut generation completionError).2.events ∨
      Completes binding (binding.completeOut generation completionError).2
        (.outComplete generation completionError) := by
  unfold Binding.completeOut
  by_cases refuses : binding.transaction.failed ∨ binding.transaction.pending = false
  · rw [if_pos refuses]
    exact .inl (idles_transactionFail _ _).toStays
  rw [if_neg refuses]
  by_cases stale : generation ≠ binding.transaction.generation
  · rw [if_pos stale]
    exact .inl (idles_transactionFail _ _).toStays
  rw [if_neg stale]
  cases completionError with
  | some error => exact .inl (idles_transactionFail _ _).toStays
  | none =>
    right
    refine ⟨by rw [not_not.mp stale], by simpa [Binding.transactionHasPending] using refuses, ?_⟩
    dsimp only
    rcases commits : binding.events.commit binding.transaction.prepared.intent.event with
      ⟨verdict, events⟩
    cases verdict with
    | error error =>
      intro running
      have failed : events.failed = true := commit_failed commits
      have same := transactionStop_events { binding with events }
      simp [Binding.transactionFail, same, failed] at running
    | ok _ =>
      intro _
      obtain ⟨sound, cases⟩ := commit_committed commits
      cases cases with
      | inl answer => simp [Events.getExpectedEvent, sound, answer.1, answer.2.1]
      | inr plain =>
        obtain ⟨idle, lifecycle, _, advanced, -⟩ := plain
        rw [Events.getExpectedEvent, if_neg (by simp [sound]), if_neg (by simp [idle])]
        exact (commit_due advanced).symm

theorem backendOutComplete_moves (binding : Binding) (generation : UInt64)
    (completionError : Option GError) (answers : Answers) :
    Stays binding.events
        (binding.backendOutComplete generation completionError answers).events ∨
      Completes binding (binding.backendOutComplete generation completionError answers)
        (.outComplete generation completionError) := by
  have moves := binding.completeOut_moves generation completionError
  have later : Stays (binding.completeOut generation completionError).2.events
      (binding.backendOutComplete generation completionError answers).events := by
    unfold Binding.backendOutComplete
    generalize binding.completeOut generation completionError = result
    rcases result with ⟨verdict, after⟩
    cases verdict with
    | error error => exact (idles_terminate after error).toStays
    | ok _ =>
      dsimp only
      split
      · exact (Idles.refl _).toStays
      · cases answers.ready with
        | ok _ => exact (Idles.refl _).toStays
        | error error => exact (idles_terminate after _).toStays
  cases moves with
  | inl stays => exact .inl (stays.trans later)
  | inr completes =>
    refine .inr ⟨completes.1, completes.2.1, fun running => completes.2.2 ?_⟩
    cases failed : (binding.completeOut generation completionError).2.events.failed with
    | false => rfl
    | true => rw [later.failed failed] at running; cases running

/-! ## Input -/

/-- The call is refused, and the binding is terminal. -/
structure Refuses (binding : Binding) (result : Except GError Unit × Binding) : Prop where
  error : ∃ error, result.1 = .error error
  terminal : result.2.terminalError.isSome = true
  stays : Stays binding.events result.2.events

/-- Input is taken: nothing is pending, and no command is due. -/
structure Listens (binding : Binding) : Prop where
  goes : binding.terminalError = none
  running : binding.transaction.failed = false
  free : binding.transaction.pending = false
  due : isCommandEvent binding.events.getExpectedEvent = false

theorem terminate_terminal (binding : Binding) (error : GError) :
    (binding.terminate error).terminalError.isSome = true := by
  unfold Binding.terminate
  by_cases terminal : binding.terminalError.isSome = true
  · rwa [if_pos terminal]
  · rw [if_neg terminal]
    rfl

theorem refuses_fail {binding after : Binding} (stays : Stays binding.events after.events)
    (message : String) (error : GError) : Refuses binding (after.fail message error) where
  error := ⟨error, rfl⟩
  terminal := terminate_terminal after _
  stays := stays.trans (idles_terminate after _).toStays

/-- The events or the transaction decline the input. -/
def Declines (binding : Binding) (result : Except GError Unit × Binding) : Prop :=
  ∃ error, result.1 = .error error ∧ Stays binding.events result.2.events

theorem declines_eventsFail (binding : Binding) (error : GError) :
    Declines binding (binding.eventsFail error) :=
  ⟨error, rfl, (idles_stop _).toStays⟩

theorem declines_transactionFail (binding : Binding) (error : GError) :
    Declines binding (binding.transactionFail error) :=
  ⟨error, rfl, (idles_transactionFail binding error).toStays⟩

theorem Declines.passed {binding : Binding} {result : Except GError Unit × Binding} :
    Declines binding result → Declines binding (match result with
      | (.error error, after) => after.transactionFail error
      | (.ok (), after) => (.ok (), after)) := by
  intro declines
  rcases result with ⟨verdict, after⟩
  obtain ⟨error, rfl, stays⟩ := declines
  exact ⟨error, rfl, stays.trans (idles_transactionFail after error).toStays⟩

theorem Declines.answered {binding : Binding} {result : Except GError Unit × Binding}
    (message : String) (answers : Answers) :
    Declines binding result → Refuses binding (match result with
      | (.error error, after) => after.fail message error
      | (.ok (), after) => after.submitIfGraphReady answers) := by
  intro declines
  rcases result with ⟨verdict, after⟩
  obtain ⟨error, rfl, stays⟩ := declines
  exact refuses_fail stays message error

/-- No frame advances the graph past a command. -/
theorem eventsHandleA0_command {binding : Binding} (frame : List UInt8) (answers : Answers)
    (command : isCommandEvent binding.events.getExpectedEvent = true) :
    Declines binding (binding.eventsHandleA0 frame answers) := by
  unfold Binding.eventsHandleA0
  dsimp only
  split
  · exact declines_eventsFail _ _
  split
  · rename_i nav
    rw [nav] at command
    cases command
  split
  · exact declines_eventsFail _ _
  cases parseReceived frame with
  | error error => exact declines_eventsFail _ _
  | ok message =>
    dsimp only
    split
    · rename_i irq80
      rw [irq80.1] at command
      cases command
    · generalize binding.events.getExpectedEvent = expected at command
      have mismatched : ∀ parsed : Binding,
          parsed.handleMessage expected message answers = parsed.mismatch expected message := by
        intro parsed
        cases expected <;> first | rfl | cases command
      rw [mismatched]
      have same : Stays binding.events { binding.events with
          audit := { binding.events.audit with
            parsedA0Count := binding.events.audit.parsedA0Count + 1 } } := ⟨rfl, id, .inr rfl⟩
      exact ⟨_, rfl, same.trans (idles_stop _).toStays⟩

theorem eventsHandlePlaintextChunk_command {binding : Binding} (chunk : List UInt8)
    (answers : Answers) (command : isCommandEvent binding.events.getExpectedEvent = true) :
    Declines binding (binding.eventsHandlePlaintextChunk chunk answers) := by
  unfold Binding.eventsHandlePlaintextChunk
  dsimp only
  by_cases failed : binding.events.failed = true
  · rw [if_pos failed]
    exact declines_eventsFail _ _
  · rw [if_neg failed, if_pos]
    · exact declines_eventsFail _ _
    · constructor <;> (intro event; rw [event] at command; cases command)

theorem transactionHandleA0_gated {binding : Binding} (goes : binding.terminalError = none)
    (frame : List UInt8) (answers : Answers) :
    Declines binding (binding.transactionHandleA0 frame answers) ∨ Listens binding := by
  unfold Binding.transactionHandleA0
  by_cases refuses : binding.transaction.failed ∨ binding.transaction.pending
  · rw [if_pos refuses]
    exact .inl (declines_transactionFail _ _)
  rw [if_neg refuses]
  simp only [not_or, Bool.not_eq_true] at refuses
  cases due : isCommandEvent binding.events.getExpectedEvent with
  | false => exact .inr ⟨goes, refuses.1, refuses.2, due⟩
  | true => exact .inl (eventsHandleA0_command frame answers due).passed

theorem transactionHandlePlaintextChunk_gated {binding : Binding}
    (goes : binding.terminalError = none) (chunk : List UInt8) (answers : Answers) :
    Declines binding (binding.transactionHandlePlaintextChunk chunk answers) ∨
      Listens binding := by
  unfold Binding.transactionHandlePlaintextChunk
  by_cases refuses : binding.transaction.failed ∨ binding.transaction.pending
  · rw [if_pos refuses]
    exact .inl (declines_transactionFail _ _)
  rw [if_neg refuses]
  simp only [not_or, Bool.not_eq_true] at refuses
  cases due : isCommandEvent binding.events.getExpectedEvent with
  | false => exact .inr ⟨goes, refuses.1, refuses.2, due⟩
  | true => exact .inl (eventsHandlePlaintextChunk_command chunk answers due).passed

/-- A frame is refused, or taken where no command is due, or it is a late release. -/
theorem handleA0_gated (binding : Binding) (frame : List UInt8) (answers : Answers) :
    Refuses binding (binding.handleA0 frame answers) ∨ Listens binding ∨
      ∃ events, binding.events.consumeStaleRelease frame = (.ok true, events) ∧
        binding.handleA0 frame answers = (.ok (), { binding with events }.note .late) := by
  unfold Binding.handleA0
  by_cases terminal : binding.terminalError.isSome = true
  · rw [if_pos terminal]
    exact .inl (refuses_fail (Idles.refl _).toStays _ _)
  rw [if_neg terminal]
  have goes : binding.terminalError = none := by simpa using terminal
  have consumed := consumeStaleRelease_cases binding.events frame
  generalize binding.events.consumeStaleRelease frame = result at consumed ⊢
  cases consumed with
  | other =>
    cases transactionHandleA0_gated goes frame answers with
    | inl declines => exact .inl (Declines.answered _ answers declines)
    | inr listens => exact .inr (.inl listens)
  | refused opened error =>
    have stops : Stays binding.events { binding with events := binding.events.stop }.events :=
      (idles_stop _).toStays
    exact .inl (refuses_fail stops _ error)
  | late running opened first => exact .inr (.inr ⟨_, rfl, rfl⟩)

theorem handlePlaintextChunk_gated (binding : Binding) (chunk : List UInt8) (answers : Answers) :
    Refuses binding (binding.handlePlaintextChunk chunk answers) ∨ Listens binding := by
  unfold Binding.handlePlaintextChunk
  by_cases terminal : binding.terminalError.isSome = true
  · rw [if_pos terminal]
    exact .inl (refuses_fail (Idles.refl _).toStays _ _)
  rw [if_neg terminal]
  have goes : binding.terminalError = none := by simpa using terminal
  cases transactionHandlePlaintextChunk_gated goes chunk answers with
  | inl declines => exact .inl (Declines.answered _ answers declines)
  | inr listens => exact .inr listens

/-! ## All calls -/

/-- What the device sends. -/
def Call.isInbound : Call → Bool
  | .handleA0 _ | .handlePlaintextChunk _ => true
  | _ => false

/-- What can move the graph: the OUT completion of the pending command, or input where no command is
due. -/
theorem call_moves (binding : Binding) (answers : Answers) (made : Call) :
    Stays binding.events (binding.call answers made).2.events ∨
      Completes binding (binding.call answers made).2 made ∨
        made.isInbound = true ∧ Listens binding := by
  cases made with
  | handleA0 frame =>
    rcases binding.handleA0_gated frame answers with refuses | listens | late
    · exact .inl refuses.stays
    · exact .inr (.inr ⟨rfl, listens⟩)
    · obtain ⟨events, consumed, handled⟩ := late
      left
      have cases := consumeStaleRelease_cases binding.events frame
      rw [consumed] at cases
      unfold Binding.call
      dsimp only
      rw [handled]
      cases cases
      exact ⟨rfl, id, .inr rfl⟩
  | handlePlaintextChunk chunk =>
    cases binding.handlePlaintextChunk_gated chunk answers with
    | inl refuses => exact .inl refuses.stays
    | inr listens => exact .inr (.inr ⟨rfl, listens⟩)
  | requestZeroSample => exact .inl (idles_requestZeroSample binding answers).toStays
  | prepare =>
    have prepares := idles_prepare binding.events (binding.stamp answers)
    exact .inl prepares.toStays
  | submitNext => exact .inl (idles_submitNext binding answers).toStays
  | outComplete generation completionError =>
    exact (binding.backendOutComplete_moves generation completionError answers).imp id .inl
  | cancel => exact .inl (idles_cancel binding).toStays

/-- While a command is pending, input is refused, or it is a late release. -/
theorem inbound_gated {binding : Binding} (pending : binding.transactionHasPending = true)
    (answers : Answers) {made : Call} (inbound : made.isInbound = true) :
    Refuses binding (binding.call answers made) ∨
      ∃ frame events, made = .handleA0 frame ∧
        binding.events.consumeStaleRelease frame = (.ok true, events) ∧
        binding.call answers made = (.ok (), { binding with events }.note .late) := by
  have busy : ¬ Listens binding := by
    intro listens
    simp [Binding.transactionHasPending, listens.free] at pending
  cases made with
  | handleA0 frame =>
    rcases binding.handleA0_gated frame answers with refuses | listens | late
    · exact .inl refuses
    · exact absurd listens busy
    · obtain ⟨events, consumed, handled⟩ := late
      exact .inr ⟨frame, events, rfl, consumed, handled⟩
  | handlePlaintextChunk chunk =>
    exact .inl ((binding.handlePlaintextChunk_gated chunk answers).resolve_right busy)
  | _ => cases inbound

theorem transactionStop_terminalError (binding : Binding) :
    binding.transactionStop.terminalError = binding.terminalError ∧
      binding.transactionStop.log = binding.log := by
  unfold Binding.transactionStop
  by_cases failed : binding.transaction.failed = true
  · rw [if_pos failed]
    exact ⟨rfl, rfl⟩
  · rw [if_neg failed]
    exact ⟨rfl, rfl⟩

theorem completeOut_silent (binding : Binding) (generation : UInt64)
    (completionError : Option GError) :
    (binding.completeOut generation completionError).2.terminalError = binding.terminalError ∧
      ((binding.completeOut generation completionError).2.log = binding.log ∨
        ∃ event, (binding.completeOut generation completionError).2.log =
          binding.log ++ [.committed event]) := by
  have stops : ∀ error, (binding.transactionFail error).2.terminalError = binding.terminalError ∧
      (binding.transactionFail error).2.log = binding.log :=
    fun _ => transactionStop_terminalError binding
  unfold Binding.completeOut
  split
  · exact ⟨(stops _).1, .inl (stops _).2⟩
  split
  · exact ⟨(stops _).1, .inl (stops _).2⟩
  cases completionError with
  | some error => exact ⟨(stops error).1, .inl (stops error).2⟩
  | none =>
    dsimp only
    rcases binding.events.commit binding.transaction.prepared.intent.event with ⟨verdict, events⟩
    cases verdict with
    | error error =>
      have fails := transactionStop_terminalError { binding with events }
      exact ⟨fails.1, .inl fails.2⟩
    | ok _ => exact ⟨rfl, .inr ⟨_, rfl⟩⟩

/-- A terminal binding stays terminal, and all that it still notes is the completion of a command that
was pending. -/
theorem call_silent {binding : Binding} (terminal : binding.terminalError.isSome = true)
    (answers : Answers) (made : Call) :
    (binding.call answers made).2.terminalError = binding.terminalError ∧
      ((binding.call answers made).2.log = binding.log ∨
        ∃ event, (binding.call answers made).2.log = binding.log ++ [.committed event]) := by
  have same : ∀ error, binding.terminate error = binding := by
    intro error
    unfold Binding.terminate
    rw [if_pos terminal]
  have refuses : ∀ message, (binding.refuse message).2 = binding := fun _ => same _
  unfold Binding.call
  cases made with
  | handleA0 frame =>
    dsimp only
    rw [Binding.handleA0, if_pos terminal, refuses]
    exact ⟨rfl, .inl rfl⟩
  | handlePlaintextChunk chunk =>
    dsimp only
    rw [Binding.handlePlaintextChunk, if_pos terminal, refuses]
    exact ⟨rfl, .inl rfl⟩
  | requestZeroSample =>
    dsimp only
    rw [Binding.requestZeroSample, if_pos (.inl terminal), refuses]
    exact ⟨rfl, .inl rfl⟩
  | prepare => exact ⟨rfl, .inl rfl⟩
  | submitNext =>
    dsimp only
    rw [Binding.submitNext, if_pos terminal, refuses]
    exact ⟨rfl, .inl rfl⟩
  | outComplete generation completionError =>
    dsimp only
    have silent := binding.completeOut_silent generation completionError
    unfold Binding.backendOutComplete
    generalize binding.completeOut generation completionError = result at silent ⊢
    rcases result with ⟨verdict, after⟩
    have ends : after.terminalError.isSome = true := by rw [silent.1]; exact terminal
    cases verdict with
    | error error =>
      dsimp only
      rw [Binding.terminate, if_pos ends]
      exact silent
    | ok _ =>
      dsimp only
      rw [if_pos (.inl ends)]
      exact silent
  | cancel =>
    cases binding.cancel_cases with
    | inl nothing =>
      dsimp only
      rw [nothing]
      exact ⟨rfl, .inl rfl⟩
    | inr stops => simp [stops.1] at terminal

/-! ## Completion gating -/

/-- A late release is allowed by the story. -/
theorem Settled.late_allowed {binding : Binding} {events : Events} {frame : List UInt8}
    {answers : Answers} (settled : Settled binding)
    (handled : binding.handleA0 frame answers = (.ok (), { binding with events }.note .late)) :
    (storyOf binding.log).recovering = true ∧ (storyOf binding.log).lates = 0 := by
  have later := settled.handleA0 frame answers
  rw [handled] at later
  exact (justified_concat.mp later.told).2

/-- What holds in every state that a run reaches: a command is submitted when none is outstanding,
and it is the one that completes; nothing but its completion moves the graph past it; while it is
pending, what the device sends is refused for good, or it is the one late release. -/
theorem commands_gated {config : ModelConfig} {contact zeroRecovery : Bool} {generation : UInt64}
    {start : Binding} (made : Binding.new config contact zeroRecovery generation = .ok start)
    (calls : List (Call × Answers)) :
    let reached := (run step start calls).1
    (∀ before prepared frame after, reached.log = before ++ .submitted prepared frame :: after →
      (storyOf before).outstanding = none ∧ outboundFrameBuild prepared = .ok frame) ∧
    (∀ before event after, reached.log = before ++ .committed event :: after →
      ∃ prepared, (storyOf before).outstanding = some prepared ∧
        prepared.intent.event = event) ∧
    (reached.Live → (storyOf reached.log).outstanding =
      if reached.transaction.pending then some reached.transaction.prepared else none) ∧
    (∀ answers call, Stays reached.events (reached.call answers call).2.events ∨
      Completes reached (reached.call answers call).2 call ∨
        call.isInbound = true ∧ Listens reached) ∧
    (∀ answers call, reached.transactionHasPending = true → call.isInbound = true →
      Refuses reached (reached.call answers call) ∨
        (storyOf reached.log).recovering = true ∧ (storyOf reached.log).lates = 0 ∧
          ∃ frame events, call = .handleA0 frame ∧
            reached.events.consumeStaleRelease frame = (.ok true, events) ∧
            reached.call answers call = (.ok (), { reached with events }.note .late)) ∧
    (∀ answers call, reached.terminalError.isSome = true →
      (reached.call answers call).2.terminalError = reached.terminalError ∧
        ((reached.call answers call).2.log = reached.log ∨
          ∃ event, (reached.call answers call).2.log = reached.log ++ [.committed event])) := by
  intro reached
  have settled : Settled reached := run_settled made calls
  refine ⟨?_, ?_, fun live => (settled.agrees live).outstanding,
    fun answers call => call_moves reached answers call, ?_,
    fun answers call terminal => call_silent terminal answers call⟩
  · intro before prepared frame after split
    have allowed := settled.told before _ after split
    exact ⟨allowed.1, allowed.2.1⟩
  · intro before event after split
    exact settled.told before _ after split
  · intro answers call pending inbound
    refine (inbound_gated pending answers inbound).imp id ?_
    rintro ⟨frame, events, rfl, consumed, handled⟩
    have allowed := settled.late_allowed handled
    exact ⟨allowed.1, allowed.2, frame, events, rfl, consumed, handled⟩

/-- Callbacks and a sink that accept everything. -/
def quiet : Answers := ⟨⟨[], .ok ()⟩, false, .accepts, .ok 0, .ok (), .ok (), .ok ()⟩

/-- A frame with the interrupt, its flags and six equal readings. -/
def interruptFrame (control : UInt8) (opening : List UInt8) : List UInt8 :=
  (buildFrame control control (opening ++ (List.replicate 6 [0x40, 0x00]).flatten)).getD []

/-- The first touch is followed by a 0x22, and plaintext before its completion is refused. -/
theorem commands_gated_touched :
    ∃ start, Binding.new ⟨2, 0, false, false, false⟩ false false 1 = .ok start ∧
      let touched := (run step start
        [(.handleA0 (interruptFrame 0x32 [0x02, 0x00, 0x01, 0x00]), quiet)]).1
      touched.transactionHasPending = true ∧ touched.transaction.prepared.intent.control = 0x22 ∧
        Refuses touched (touched.call quiet (.handlePlaintextChunk [0])) := by
  refine ⟨_, rfl, by decide +kernel, by decide +kernel, ?_⟩
  have gated := @commands_gated ⟨2, 0, false, false, false⟩ false false 1 _ rfl
    [(.handleA0 (interruptFrame 0x32 [0x02, 0x00, 0x01, 0x00]), quiet)]
  obtain ⟨-, -, -, -, inbound, -⟩ := gated
  refine (inbound quiet (.handlePlaintextChunk [0]) (by decide +kernel) rfl).resolve_right ?_
  rintro ⟨-, -, frame, events, other, -⟩
  cases other

end Binding

end Goodix.Enrollment
