import Goodix.Enrollment.Reassembly

/-! # Recovered contacts and re-arms

What a call notes, and what it did to the graph and to the counts when it noted it.  The window for
a late release belongs to a recovered contact: it opens with it and closes with the next IRQ2 or
with the end of the enrollment, however that comes.
-/

namespace Goodix.Enrollment

open Octets FdtIrqPolicy A0Protocol ImageDecoder Machines Traces

/-- A recovered contact has delivered its sample. -/
theorem Pipeline.Accepts.delivers {before after : Pipeline} {reply : Reply}
    {samples : Option (List UInt16)}
    (accepts : Pipeline.Accepts before reply .zeroMaskRecovery samples after) :
    reply.verdict = .ok () := by
  have taken : ∀ {first delivered : Pipeline} {image : FpImagePipeline},
      Pipeline.Delivered first image reply delivered → reply.verdict = .ok () := by
    intro first delivered image delivers
    cases delivers <;> assumption
  cases accepts with
  | passed along => cases along
  | recovered _ _ _ _ _ delivers => exact taken delivers
  | recoveredLast _ _ _ _ _ delivers => exact taken delivers

/-- What is noted of something that the device has sent, late releases apart. -/
def Noted.isHeard : Noted → Bool
  | .recovered | .touched | .rearmed _ | .rearmAcked => true
  | _ => false

namespace Binding

/-! ## The log of a call -/

theorem cancelNow_log (binding : Binding) : binding.cancelNow.log = binding.log := by
  cases terminal : binding.terminalError with
  | none => exact (cancelNow_stops terminal).1
  | some error =>
    unfold Binding.cancelNow
    rw [if_pos (by simp [terminal])]

theorem cancel_log (binding : Binding) : binding.cancel.log = binding.log := by
  cases binding.cancel_cases with
  | inl same => rw [same]
  | inr stops => rw [stops.2, cancelNow_log]

@[simp] theorem observe_log (binding : Binding) (event : Event) (samples : Option (List UInt16))
    (fdtRaw : Option (List UInt8)) (fdtTouchFlags : UInt16) (answers : Answers) :
    (binding.observe event samples fdtRaw fdtTouchFlags answers).2.log = binding.log := by
  unfold Binding.observe
  dsimp only
  split
  · exact cancelNow_log _
  · rfl

theorem observeCounted_log (binding : Binding) (event : Event) (fdtRaw : Option (List UInt8))
    (fdtTouchFlags : UInt16) (answers : Answers) (count : EventsAudit → EventsAudit) :
    (binding.observeCounted event fdtRaw fdtTouchFlags answers count).2.log = binding.log := by
  have observes := binding.observe_log event none fdtRaw fdtTouchFlags answers
  unfold Binding.observeCounted
  generalize binding.observe event none fdtRaw fdtTouchFlags answers = result at observes ⊢
  rcases result with ⟨verdict, after⟩
  cases verdict <;> exact observes

/-- The contact callback leaves the graph alone. -/
theorem tellContact_same (binding : Binding) (present : Bool) (answers : Answers) :
    (binding.tellContact present answers).2.log = binding.log ∧
      (binding.tellContact present answers).2.events.lifecycle = binding.events.lifecycle := by
  unfold Binding.tellContact
  dsimp only
  split
  · exact ⟨rfl, rfl⟩
  split
  · exact ⟨rfl, rfl⟩
  cases answers.contact with
  | accepts => exact ⟨rfl, rfl⟩
  | refuses error => exact ⟨rfl, rfl⟩
  | fences =>
    refine ⟨cancel_log binding, ?_⟩
    cases binding.cancel_cases with
    | inl same => exact congrArg (fun binding => binding.events.lifecycle) same
    | inr stops =>
      dsimp only
      rw [stops.2, (cancelNow_stops stops.1).2.1]
      rfl

theorem conclude_same (result : Except (Option GError) Unit × Binding) :
    (conclude result).2.log = result.2.log ∧
      (conclude result).2.events.lifecycle = result.2.events.lifecycle := by
  rcases result with ⟨verdict, binding⟩
  cases verdict with
  | ok _ => exact ⟨rfl, rfl⟩
  | error error => exact ⟨rfl, stop_lifecycle _⟩

/-- An accepted IRQ0080 changes the re-arm, its count and the count of frames. -/
structure Rearms (before after : Events) : Prop where
  plan : after.lifecycle.plan = before.lifecycle.plan
  audit : after.audit = { before.audit with parsedA0Count := before.audit.parsedA0Count + 1 }
  count : after.irq80Count = before.irq80Count + 1

/-- The image callback has accepted the sample of a recovered contact. -/
structure Recovers (before : Events) (answers : Answers) (after : Events) : Prop where
  accepts : Pipeline.Accepts before.lifecycle.plan.pipeline answers.image .zeroMaskRecovery none
    after.lifecycle.plan.pipeline
  verdict : answers.image.verdict = .ok ()

/-- An IRQ0080 with these readings, while an IRQ2 is due. -/
def Irq80Due (binding : Binding) (frame : List UInt8) (raw : Table) : Prop :=
  ∃ message, parseReceived frame = .ok message ∧ isIrq80 message = true ∧
    readings message.body = raw ∧ binding.events.getExpectedEvent = .irq2

/-- What the events note of a frame. -/
inductive Heard (before : Binding) (frame : List UInt8) (answers : Answers) : Binding → Prop where
  | nothing {after : Binding} (same : after.log = before.log) : Heard before frame answers after
  | plain {noted : Noted} {after : Binding} (plain : noted = .touched ∨ noted = .rearmAcked)
      (adds : after.log = before.log ++ [noted]) : Heard before frame answers after
  | rearmed {raw : Table} {after : Binding} (due : Irq80Due before frame raw)
      (rearms : Rearms before.events after.events)
      (adds : after.log = before.log ++ [.rearmed raw]) : Heard before frame answers after
  | recovered {after : Binding} (recovers : Recovers before.events answers after.events)
      (adds : after.log = before.log ++ [.recovered]) : Heard before frame answers after

theorem observe_accepts {binding after : Binding} {event : Event}
    {samples : Option (List UInt16)} {fdtRaw : Option (List UInt8)} {fdtTouchFlags : UInt16}
    {answers : Answers} (tidy : binding.events.lifecycle.plan.pipeline.Tidy)
    (accepted : binding.observe event samples fdtRaw fdtTouchFlags answers = (.ok (), after)) :
    Pipeline.Accepts binding.events.lifecycle.plan.pipeline answers.image event samples
      after.events.lifecycle.plan.pipeline := by
  unfold Binding.observe at accepted
  rcases observed : binding.events.lifecycle.observe event samples fdtRaw fdtTouchFlags
    answers.image with ⟨verdict, lifecycle⟩
  rw [observed] at accepted
  dsimp only at accepted
  split at accepted
  · have cancelled : ∀ stopped : Binding, stopped.cancelNow.events.lifecycle =
        stopped.events.lifecycle := by
      intro stopped
      cases terminal : stopped.terminalError with
      | none =>
        rw [(cancelNow_stops terminal).2.1]
        rfl
      | some error =>
        unfold Binding.cancelNow
        rw [if_pos (by simp [terminal])]
    cases accepted
    rw [cancelled]
    exact (Adapter.observe_advances tidy observed).2
  · cases accepted
    exact (Adapter.observe_advances tidy observed).2

theorem handleIrq80_heard {binding before : Binding} {frame : List UInt8} {message : A0Message}
    {answers : Answers} (due : Irq80Due before frame (readings message.body))
    (log : binding.log = before.log)
    (same : binding.events = { before.events with
      audit := { before.events.audit with
        parsedA0Count := before.events.audit.parsedA0Count + 1 } }) :
    Heard before frame answers (binding.handleIrq80 message answers).2 := by
  have plan := binding.events.lifecycle.prepareIrq80Rearm_plan (readings message.body)
    (binding.stamp answers)
  unfold Binding.handleIrq80
  split
  · exact .nothing log
  generalize binding.events.lifecycle.prepareIrq80Rearm (readings message.body)
    (binding.stamp answers) = result at plan ⊢
  rcases result with ⟨verdict, lifecycle⟩
  cases verdict with
  | error error => exact .nothing log
  | ok rearm =>
    refine @Heard.rearmed _ _ _ (readings message.body) _ due ⟨?_, ?_, ?_⟩ (by rw [← log]; rfl)
    · rw [same] at plan
      exact plan
    · dsimp only [note]
      rw [same]
    · dsimp only [note]
      rw [same]

theorem handleAck_heard (binding : Binding) (expected : Event) (answers : Answers) :
    (binding.handleAck expected answers).2.log = binding.log ∨
      (binding.handleAck expected answers).2.log = binding.log ++ [.rearmAcked] := by
  unfold Binding.handleAck
  dsimp only
  split
  · exact .inr rfl
  · exact .inl (observeCounted_log _ _ _ _ _ _)

theorem handleIrq2_heard (binding : Binding) (touchFlags : UInt16) (raw : List UInt8)
    (answers : Answers) :
    (binding.handleIrq2 touchFlags raw answers).2.log = binding.log ∨
      (binding.handleIrq2 touchFlags raw answers).2.log = binding.log ++ [.touched] := by
  have observes := binding.observe_log .irq2 none (some raw) touchFlags answers
  unfold Binding.handleIrq2
  generalize binding.observe .irq2 none (some raw) touchFlags answers = result at observes ⊢
  rcases result with ⟨verdict, after⟩
  cases verdict with
  | error error => exact .inl observes
  | ok _ =>
    dsimp only
    generalize counts : Binding.mk _ _ _ _ _ = counted
    have log : counted.log = binding.log := by
      subst counts
      exact observes
    have tells := (counted.tellContact_same true answers).1.trans log
    generalize counted.tellContact true answers = told at tells ⊢
    rcases told with ⟨verdict, touched⟩
    cases verdict with
    | error error => exact .inl tells
    | ok _ => exact .inr (congrArg (· ++ [Noted.touched]) tells)

theorem Ready.handleZeroContact_heard {binding : Binding} (ready : Ready binding)
    (message : A0Message) (answers : Answers) :
    (binding.handleZeroContact message answers).2.log = binding.log ∨
      (binding.handleZeroContact message answers).2.log = binding.log ++ [.recovered] ∧
        Recovers binding.events answers (binding.handleZeroContact message answers).2.events := by
  have observes := binding.observe_log .zeroMaskRecovery none (some (readings message.body).val) 0
    answers
  unfold Binding.handleZeroContact
  dsimp only
  split
  · rcases accepted : binding.observe .zeroMaskRecovery none (some (readings message.body).val) 0
      answers with ⟨verdict, after⟩
    rw [accepted] at observes
    cases verdict with
    | error error => exact .inl observes
    | ok _ =>
      right
      have accepts := observe_accepts ready.agreed.tidy accepted
      dsimp only
      generalize counts : Binding.note _ _ = counted
      obtain ⟨log, lifecycle⟩ := counted.tellContact_same false answers
      have taken : counted.log = binding.log ++ [.recovered] ∧
          counted.events.lifecycle = after.events.lifecycle := by
        subst counts
        exact ⟨congrArg (· ++ [Noted.recovered]) observes, rfl⟩
      refine ⟨log.trans taken.1, ?_, accepts.delivers⟩
      rw [lifecycle, taken.2]
      exact accepts
  · exact .inl rfl

theorem handleIrq0200_log (binding : Binding) (touchFlags : UInt16) (raw : List UInt8)
    (answers : Answers) : (binding.handleIrq0200 touchFlags raw answers).2.log = binding.log := by
  have observes := binding.observeCounted_log .irq0200 (some raw) touchFlags answers
    (fun audit => { audit with irq0200Count := audit.irq0200Count + 1 })
  unfold Binding.handleIrq0200
  generalize binding.observeCounted .irq0200 (some raw) touchFlags answers _ = result
    at observes ⊢
  rcases result with ⟨verdict, after⟩
  cases verdict with
  | error error => exact observes
  | ok _ => exact (after.tellContact_same false answers).1.trans observes

/-- What is concluded was noted by the message. -/
theorem Ready.handleMessage_heard {binding before : Binding} {frame : List UInt8}
    (ready : Ready binding)
    (expected : Event) (message : A0Message) (answers : Answers)
    (log : binding.log = before.log) (same : binding.events.lifecycle = before.events.lifecycle) :
    Heard before frame answers (conclude (binding.handleMessage expected message answers)).2 := by
  have heard : ∀ {result : Except (Option GError) Unit × Binding} {noted : Noted},
      noted = .touched ∨ noted = .rearmAcked →
      result.2.log = binding.log ∨ result.2.log = binding.log ++ [noted] →
      Heard before frame answers (conclude result).2 := by
    intro result noted plain adds
    cases adds with
    | inl nothing => exact .nothing ((conclude_same result).1.trans (nothing.trans log))
    | inr adds => exact .plain plain ((conclude_same result).1.trans (adds.trans (by rw [log])))
  have silent : ∀ {result : Except (Option GError) Unit × Binding},
      result.2.log = binding.log → Heard before frame answers (conclude result).2 :=
    fun nothing => heard (.inl rfl) (.inl nothing)
  unfold Binding.handleMessage
  split
  · split
    · exact heard (.inr rfl) (binding.handleAck_heard _ answers)
    · exact silent rfl
  · split
    · exact heard (.inl rfl) (binding.handleIrq2_heard _ _ answers)
    · exact silent rfl
  · split
    · cases ready.handleZeroContact_heard message answers with
      | inl nothing => exact silent nothing
      | inr recovers =>
        have concludes := conclude_same (binding.handleZeroContact message answers)
        refine .recovered ⟨?_, recovers.2.verdict⟩ (concludes.1.trans (by rw [recovers.1, log]))
        rw [concludes.2, ← same]
        exact recovers.2.accepts
    · split
      · exact silent (observeCounted_log _ _ _ _ _ _)
      · exact silent rfl
  · split
    · exact silent (handleIrq0200_log _ _ _ _)
    · exact silent rfl
  · exact silent rfl

theorem Ready.eventsHandleA0_heard {binding : Binding} (ready : Ready binding)
    (frame : List UInt8) (answers : Answers) :
    Heard binding frame answers (binding.eventsHandleA0 frame answers).2 := by
  unfold Binding.eventsHandleA0
  dsimp only
  split
  · exact .nothing rfl
  split
  · split
    · exact .nothing rfl
    · exact .nothing ((conclude_same _).1.trans (observeCounted_log _ _ _ _ _ _))
  split
  · exact .nothing rfl
  cases parsed : parseReceived frame with
  | error error => exact .nothing rfl
  | ok message =>
    dsimp only
    split
    · rename_i irq80
      exact handleIrq80_heard ⟨message, parsed, irq80.2, rfl, irq80.1⟩ rfl rfl
    · exact (ready.relabelled _ binding.events.b0Pending).handleMessage_heard _ _ _ rfl rfl

/-! ## Calls -/

/-- Whatever is noted, the device did not send it. -/
def Quietly (before after : Binding) : Prop :=
  ∃ notes, after.log = before.log ++ notes ∧ ∀ noted ∈ notes, noted.isHeard = false

theorem quietly_same {before after : Binding} (same : after.log = before.log) :
    Quietly before after :=
  ⟨[], by simp [same], by simp⟩

theorem quietly_one {before after : Binding} {noted : Noted} (plain : noted.isHeard = false)
    (adds : after.log = before.log ++ [noted]) : Quietly before after :=
  ⟨[noted], adds, by simpa using plain⟩

theorem Quietly.trans {first second third : Binding} (earlier : Quietly first second)
    (later : Quietly second third) : Quietly first third := by
  obtain ⟨notes, adds, plain⟩ := earlier
  obtain ⟨more, further, silent⟩ := later
  refine ⟨notes ++ more, by rw [further, adds, List.append_assoc], ?_⟩
  intro noted inside
  cases List.mem_append.mp inside with
  | inl early => exact plain noted early
  | inr late => exact silent noted late

/-- A note that the device caused is not made quietly. -/
theorem Quietly.unheard {before after : Binding} {noted : Noted} {rest : List Noted}
    (quietly : Quietly before after) (heard : noted.isHeard = true)
    (adds : after.log = before.log ++ noted :: rest) : False := by
  obtain ⟨notes, same, plain⟩ := quietly
  have split : notes = noted :: rest := List.append_cancel_left (same.symm.trans adds)
  have silent := plain noted (by simp [split])
  rw [heard] at silent
  cases silent

theorem terminate_log (binding : Binding) (error : GError) :
    (binding.terminate error).log = binding.log := by
  unfold Binding.terminate
  split <;> rfl

theorem fail_log (binding : Binding) (message : String) (error : GError) :
    (binding.fail message error).2.log = binding.log :=
  terminate_log _ _

theorem transactionFail_log (binding : Binding) (error : GError) :
    (binding.transactionFail error).2.log = binding.log :=
  (transactionStop_terminalError binding).2

theorem quietly_transactionSubmitNext (binding : Binding) (answers : Answers) :
    Quietly binding (binding.transactionSubmitNext answers).2 := by
  unfold Binding.transactionSubmitNext
  split
  · exact quietly_same (transactionFail_log _ _)
  rcases binding.events.prepare (binding.stamp answers) with ⟨verdict, events⟩
  cases verdict with
  | error error => exact quietly_same (transactionFail_log { binding with events } error)
  | ok prepared =>
    dsimp only
    cases outboundFrameBuild prepared with
    | error error => exact quietly_same (transactionFail_log { binding with events } error)
    | ok frame =>
      dsimp only
      generalize submits : Binding.note _ _ = submitted
      have sent : Quietly binding submitted := by
        subst submits
        exact quietly_one rfl rfl
      cases answers.sink with
      | error error => exact sent.trans (quietly_same (transactionFail_log submitted _))
      | ok _ => exact sent

theorem quietly_submitNext (binding : Binding) (answers : Answers) :
    Quietly binding (binding.submitNext answers).2 := by
  have submits := quietly_transactionSubmitNext binding answers
  unfold Binding.submitNext
  split
  · exact quietly_same (fail_log _ _ _)
  generalize binding.transactionSubmitNext answers = result at submits ⊢
  rcases result with ⟨verdict, after⟩
  cases verdict with
  | error error => exact submits.trans (quietly_same (fail_log after _ error))
  | ok _ => exact submits

theorem quietly_submitIfGraphReady (binding : Binding) (answers : Answers) :
    Quietly binding (binding.submitIfGraphReady answers).2 := by
  unfold Binding.submitIfGraphReady
  cases binding.terminalError with
  | some error => exact quietly_same rfl
  | none =>
    dsimp only
    split
    · exact quietly_same rfl
    split
    · exact quietly_submitNext binding answers
    · exact quietly_same rfl

/-- What the transaction passes on, with the command that follows it, adds nothing that was heard. -/
theorem quietly_answered (message : String) (answers : Answers)
    (result : Except GError Unit × Binding) :
    Quietly result.2 (match result with
      | (.error error, after) => after.fail message error
      | (.ok (), after) => after.submitIfGraphReady answers).2 := by
  rcases result with ⟨verdict, after⟩
  cases verdict with
  | error error => exact quietly_same (fail_log after message error)
  | ok _ => exact quietly_submitIfGraphReady after answers

theorem idles_answered (message : String) (answers : Answers)
    (result : Except GError Unit × Binding) :
    Idles result.2.events (match result with
      | (.error error, after) => after.fail message error
      | (.ok (), after) => after.submitIfGraphReady answers).2.events := by
  rcases result with ⟨verdict, after⟩
  cases verdict with
  | error error => exact idles_terminate after _
  | ok _ => exact idles_submitIfGraphReady after answers

theorem idles_same {before after : Events} (same : after = before) : Idles before after :=
  same ▸ .refl before

theorem passed_same (result : Except GError Unit × Binding) :
    (match result with
      | (.error error, after) => after.transactionFail error
      | (.ok (), after) => (.ok (), after)).2.log = result.2.log ∧
    (match result with
      | (.error error, after) => after.transactionFail error
      | (.ok (), after) => (.ok (), after)).2.events = result.2.events := by
  rcases result with ⟨verdict, after⟩
  cases verdict with
  | error error => exact ⟨transactionFail_log after error, transactionStop_events after⟩
  | ok _ => exact ⟨rfl, rfl⟩

theorem handlePrimarySamples_log (binding : Binding) (samples : List UInt16) (answers : Answers) :
    (binding.handlePrimarySamples samples answers).2.log = binding.log := by
  have observes := binding.observe_log .primaryB0 (some samples) none 0 answers
  unfold Binding.handlePrimarySamples
  split
  · rfl
  generalize binding.observe .primaryB0 (some samples) none 0 answers = result at observes ⊢
  rcases result with ⟨verdict, after⟩
  cases verdict <;> exact observes

theorem handleAuxiliaryB0_log (binding : Binding) (answers : Answers) :
    (binding.handleAuxiliaryB0 answers).2.log = binding.log := by
  have observes := binding.observe_log .auxiliaryB0 none none 0 answers
  unfold Binding.handleAuxiliaryB0
  split
  · rfl
  generalize binding.observe .auxiliaryB0 none none 0 answers = result at observes ⊢
  rcases result with ⟨verdict, after⟩
  cases verdict <;> exact observes

theorem handleComplete_log (binding : Binding) (expected : Event) (complete : List UInt8)
    (answers : Answers) :
    (binding.handleComplete expected complete answers).2.log = binding.log := by
  unfold Binding.handleComplete
  split
  · cases decodePlaintext complete with
    | error error => rfl
    | ok samples => exact handlePrimarySamples_log _ samples answers
  · cases (if binding.fenced then Except.error (some fencedError) else answers.auxiliary) with
    | error error => rfl
    | ok _ => exact handleAuxiliaryB0_log _ answers

theorem eventsHandlePlaintextChunk_log (binding : Binding) (chunk : List UInt8)
    (answers : Answers) : (binding.eventsHandlePlaintextChunk chunk answers).2.log = binding.log := by
  unfold Binding.eventsHandlePlaintextChunk
  dsimp only
  split
  · rfl
  split
  · rfl
  split
  · rfl
  split
  · rfl
  split
  · rfl
  split
  · rfl
  · exact handleComplete_log _ _ _ answers

theorem quietly_handlePlaintextChunk (binding : Binding) (chunk : List UInt8)
    (answers : Answers) : Quietly binding (binding.handlePlaintextChunk chunk answers).2 := by
  unfold Binding.handlePlaintextChunk
  split
  · exact quietly_same (fail_log _ _ _)
  refine Quietly.trans ?_ (quietly_answered _ answers _)
  unfold Binding.transactionHandlePlaintextChunk
  split
  · exact quietly_same (transactionFail_log _ _)
  · exact quietly_same ((passed_same _).1.trans (eventsHandlePlaintextChunk_log _ chunk answers))

theorem quietly_requestZeroSample (binding : Binding) (answers : Answers) :
    Quietly binding (binding.requestZeroSample answers).2 := by
  unfold Binding.requestZeroSample
  split
  · exact quietly_same (fail_log _ _ _)
  cases binding.events.requestZeroSample with
  | mk verdict events =>
    cases verdict with
    | error error => exact quietly_same (fail_log { binding with events } _ error)
    | ok _ =>
      have requested : Quietly binding ({ binding with events }.note .requested) :=
        quietly_one rfl rfl
      exact requested.trans (quietly_submitIfGraphReady _ answers)

/-- What the events take of a frame, before the next command. -/
theorem Settled.handleA0_heard {binding : Binding} (settled : Settled binding)
    (frame : List UInt8) (answers : Answers) :
    Quietly binding (binding.handleA0 frame answers).2 ∨
      ∃ taken, Heard binding frame answers taken ∧
        Quietly taken (binding.handleA0 frame answers).2 ∧
        Idles taken.events (binding.handleA0 frame answers).2.events := by
  unfold Binding.handleA0
  by_cases terminal : binding.terminalError.isSome = true
  · rw [if_pos terminal]
    exact .inl (quietly_same (fail_log _ _ _))
  rw [if_neg terminal]
  have consumed := consumeStaleRelease_cases binding.events frame
  generalize binding.events.consumeStaleRelease frame = result at consumed ⊢
  cases consumed with
  | refused opened error =>
    exact .inl (quietly_same (fail_log { binding with events := binding.events.stop } _ error))
  | late running opened first => exact .inl (quietly_one rfl rfl)
  | other =>
    dsimp only
    have quietly := quietly_answered "enrollment inbound A0 failed" answers
      (binding.transactionHandleA0 frame answers)
    have idles := idles_answered "enrollment inbound A0 failed" answers
      (binding.transactionHandleA0 frame answers)
    unfold Binding.transactionHandleA0 at quietly idles ⊢
    by_cases refuses : binding.transaction.failed ∨ binding.transaction.pending
    · rw [if_pos refuses] at quietly ⊢
      exact .inl (Quietly.trans (quietly_same (transactionFail_log _ _)) quietly)
    rw [if_neg refuses] at quietly idles ⊢
    simp only [not_or, Bool.not_eq_true] at refuses
    have passed := passed_same (binding.eventsHandleA0 frame answers)
    cases failed : binding.events.failed with
    | true =>
      refine .inl (Quietly.trans (quietly_same (passed.1.trans ?_)) quietly)
      unfold Binding.eventsHandleA0
      rw [if_pos (.inl failed)]
      rfl
    | false =>
      have ready := settled.ready (by simpa using terminal) refuses.2 failed
      refine .inr ⟨_, ready.eventsHandleA0_heard frame answers, ?_, ?_⟩
      · exact Quietly.trans (quietly_same passed.1) quietly
      · exact (idles_same passed.2).trans idles

theorem completeOut_quietly (binding : Binding) (generation : UInt64)
    (completionError : Option GError) (answers : Answers) :
    Quietly binding (binding.backendOutComplete generation completionError answers) := by
  have silent := binding.completeOut_silent generation completionError
  have completes : Quietly binding (binding.completeOut generation completionError).2 := by
    rcases silent.2 with same | ⟨event, adds⟩
    · exact quietly_same same
    · exact quietly_one rfl adds
  unfold Binding.backendOutComplete
  generalize binding.completeOut generation completionError = result at completes ⊢
  rcases result with ⟨verdict, after⟩
  cases verdict with
  | error error => exact completes.trans (quietly_same (terminate_log after error))
  | ok _ =>
    dsimp only
    split
    · exact completes
    · cases answers.ready with
      | ok _ => exact completes
      | error error => exact completes.trans (quietly_same (terminate_log after _))

/-- Only a frame is heard, and what it was noted as says what it did. -/
theorem Settled.call_heard {binding : Binding} (settled : Settled binding) (answers : Answers)
    (made : Call) :
    Quietly binding (binding.call answers made).2 ∨
      ∃ frame taken, made = .handleA0 frame ∧ Heard binding frame answers taken ∧
        Quietly taken (binding.call answers made).2 ∧
        Idles taken.events (binding.call answers made).2.events := by
  cases made with
  | handleA0 frame =>
    refine (settled.handleA0_heard frame answers).imp id ?_
    rintro ⟨taken, hears, quietly, idles⟩
    exact ⟨frame, taken, rfl, hears, quietly, idles⟩
  | handlePlaintextChunk chunk => exact .inl (quietly_handlePlaintextChunk binding chunk answers)
  | requestZeroSample => exact .inl (quietly_requestZeroSample binding answers)
  | prepare => exact .inl (quietly_same rfl)
  | submitNext => exact .inl (quietly_submitNext binding answers)
  | outComplete generation completionError =>
    exact .inl (binding.completeOut_quietly generation completionError answers)
  | cancel => exact .inl (quietly_same (cancel_log binding))

/-- The first note of a call, if the device caused it. -/
theorem Settled.noted {binding : Binding} (settled : Settled binding) {answers : Answers}
    {made : Call} {noted : Noted} {rest : List Noted} (heard : noted.isHeard = true)
    (adds : (binding.call answers made).2.log = binding.log ++ noted :: rest) :
    ∃ frame taken, made = .handleA0 frame ∧ Heard binding frame answers taken ∧
      taken.log = binding.log ++ [noted] ∧
      Idles taken.events (binding.call answers made).2.events := by
  rcases settled.call_heard answers made with
    quietly | ⟨frame, taken, calls, hears, quietly, idles⟩
  · exact (quietly.unheard heard adds).elim
  · obtain ⟨notes, further, plain⟩ := quietly
    refine ⟨frame, taken, calls, hears, ?_, idles⟩
    have first : ∀ {other : Noted}, taken.log = binding.log ++ [other] →
        taken.log = binding.log ++ [noted] := by
      intro other took
      rw [took, List.append_assoc] at further
      have same := List.append_cancel_left (further.symm.trans adds)
      cases same
      exact took
    cases hears with
    | nothing same =>
      rw [same] at further
      have empty := List.append_cancel_left (further.symm.trans adds)
      have silent := plain noted (by simp [empty])
      rw [heard] at silent
      cases silent
    | plain _ took => exact first took
    | rearmed _ _ took => exact first took
    | recovered _ took => exact first took

theorem Idles.rearms {before taken after : Events} (idles : Idles taken after)
    (rearms : Rearms before taken) : Rearms before after where
  plan := idles.plan.trans rearms.plan
  audit := idles.audit.trans rearms.audit
  count := idles.count.trans rearms.count

/-- An IRQ0080 that is accepted leaves the stages, the contacts and the deliveries as they were. -/
theorem Settled.rearmed {binding : Binding} (settled : Settled binding) {answers : Answers}
    {made : Call} {raw : Table} {rest : List Noted}
    (adds : (binding.call answers made).2.log = binding.log ++ .rearmed raw :: rest) :
    (∃ frame, made = .handleA0 frame ∧ Irq80Due binding frame raw) ∧
      Rearms binding.events (binding.call answers made).2.events := by
  obtain ⟨frame, taken, calls, hears, took, idles⟩ := settled.noted rfl adds
  cases hears with
  | rearmed due rearms same =>
    cases List.append_cancel_left (same.symm.trans took)
    exact ⟨⟨frame, calls, due⟩, idles.rearms rearms⟩
  | nothing same => simp [same] at took
  | plain plain same =>
    have other := List.append_cancel_left (same.symm.trans took)
    rcases plain with rfl | rfl <;> cases other
  | recovered _ same => cases List.append_cancel_left (same.symm.trans took)

/-- A contact is recovered with its sample. -/
theorem Settled.recovered {binding : Binding} (settled : Settled binding) {answers : Answers}
    {made : Call} {rest : List Noted}
    (adds : (binding.call answers made).2.log = binding.log ++ .recovered :: rest) :
    Recovers binding.events answers (binding.call answers made).2.events := by
  obtain ⟨frame, taken, -, hears, took, idles⟩ := settled.noted rfl adds
  cases hears with
  | recovered recovers _ =>
    refine ⟨?_, recovers.verdict⟩
    rw [idles.plan]
    exact recovers.accepts
  | nothing same => simp [same] at took
  | plain plain same =>
    have other := List.append_cancel_left (same.symm.trans took)
    rcases plain with rfl | rfl <;> cases other
  | rearmed _ _ same => cases List.append_cancel_left (same.symm.trans took)

/-! ## The window of a recovered contact -/

/-- A request for the next sample is noted, or it ends the enrollment. -/
theorem requestZeroSample_noted (binding : Binding) (answers : Answers) :
    (∃ rest, (binding.requestZeroSample answers).2.log = binding.log ++ .requested :: rest) ∨
      (binding.requestZeroSample answers).2.terminalError.isSome = true := by
  unfold Binding.requestZeroSample
  split
  · exact .inr (terminate_terminal binding _)
  cases binding.events.requestZeroSample with
  | mk verdict events =>
    cases verdict with
    | error error => exact .inr (terminate_terminal { binding with events } _)
    | ok _ =>
      obtain ⟨notes, adds, -⟩ :=
        quietly_submitIfGraphReady ({ binding with events }.note .requested) answers
      refine .inl ⟨notes, ?_⟩
      dsimp only
      rw [adds]
      simp [note]

/-- A late release changes the window and the counts of frames. -/
theorem handleA0_late {binding : Binding} {frame : List UInt8} {events : Events}
    (goes : binding.terminalError = none)
    (consumed : binding.events.consumeStaleRelease frame = (.ok true, events))
    (answers : Answers) :
    events = { binding.events with
        zero := { binding.events.zero with
          lateSeen := true, lateReleaseCount := binding.events.zero.lateReleaseCount + 1 }
        audit := { binding.events.audit with
          parsedA0Count := binding.events.audit.parsedA0Count + 1 } } ∧
      binding.handleA0 frame answers = (.ok (), { binding with events }.note .late) := by
  have cases := consumeStaleRelease_cases binding.events frame
  unfold Binding.handleA0
  rw [if_neg (by simp [goes]), consumed]
  rw [consumed] at cases
  cases cases
  exact ⟨rfl, rfl⟩

/-- The window is open from the recovery of a contact to the next IRQ2, as long as nothing has
failed, been cancelled or completed. -/
theorem Settled.window {binding : Binding} (settled : Settled binding) :
    binding.events.zero.staleWindowOpen = true ↔
      binding.terminalError = none ∧ binding.Live ∧
        binding.events.lifecycle.plan.pipeline.model.complete = false ∧
        (storyOf binding.log).recovering = true := by
  constructor
  · intro opened
    have goes := settled.shut opened
    have running : binding.events.failed = false := by
      cases failed : binding.events.failed with
      | false => rfl
      | true =>
        have shut := settled.failedShut failed
        rw [opened] at shut
        cases shut
    have live := settled.live goes running
    have agrees := settled.agrees live
    have window := agrees.window goes
    have more := window.more agrees.tidy opened
    exact ⟨goes, live, more, (window.recovering more).symm.trans opened⟩
  · rintro ⟨goes, live, more, recovering⟩
    exact (((settled.agrees live).window goes).recovering more).trans recovering

/-- In every run: a late release is consumed at most once for a recovered contact, and changes the
window and its counts only; the 0x32 after a recovered contact follows the one request for the next
sample, and its own sample has been accepted; the window closes with the next IRQ2, a failure, a
cancellation or the completion. -/
theorem late_release_window {config : ModelConfig} {contact zeroRecovery : Bool}
    {generation : UInt64} {start : Binding}
    (made : Binding.new config contact zeroRecovery generation = .ok start)
    (calls : List (Call × Answers)) :
    let reached := (run step start calls).1
    (∀ before after, reached.log = before ++ .late :: after →
      (storyOf before).recovering = true ∧ (storyOf before).lates = 0) ∧
    (∀ frame answers events, reached.terminalError = none →
      reached.events.consumeStaleRelease frame = (.ok true, events) →
      events = { reached.events with
          zero := { reached.events.zero with
            lateSeen := true, lateReleaseCount := reached.events.zero.lateReleaseCount + 1 }
          audit := { reached.events.audit with
            parsedA0Count := reached.events.audit.parsedA0Count + 1 } } ∧
        reached.handleA0 frame answers = (.ok (), { reached with events }.note .late)) ∧
    (∀ before prepared frame after, reached.log = before ++ .submitted prepared frame :: after →
      prepared.intent.event = .command_32 → (storyOf before).recovering = true →
      (storyOf before).requests = 1) ∧
    (∀ answers, (∃ rest, (reached.call answers .requestZeroSample).2.log =
        reached.log ++ .requested :: rest) ∨
      (reached.call answers .requestZeroSample).2.terminalError.isSome = true) ∧
    (∀ answers call, reached.terminalError.isSome = true →
      (reached.call answers call).2.terminalError = reached.terminalError ∧
        ((reached.call answers call).2.log = reached.log ∨
          ∃ event, (reached.call answers call).2.log = reached.log ++ [.committed event])) ∧
    (∀ answers call rest, (reached.call answers call).2.log = reached.log ++ .recovered :: rest →
      Recovers reached.events answers (reached.call answers call).2.events) ∧
    (reached.events.zero.staleWindowOpen = true ↔
      reached.terminalError = none ∧ reached.Live ∧
        reached.events.lifecycle.plan.pipeline.model.complete = false ∧
        (storyOf reached.log).recovering = true) ∧
    reached.events.zero.lateReleaseCount ≤ reached.events.zero.recoveredCount := by
  intro reached
  have settled : Settled reached := run_settled made calls
  refine ⟨fun before after split => settled.told before _ after split,
    fun frame answers events goes consumed => handleA0_late goes consumed answers, ?_,
    fun answers => requestZeroSample_noted reached answers,
    fun answers call terminal => call_silent terminal answers call,
    fun answers call rest adds => settled.recovered adds, settled.window,
    Nat.le_of_add_right_le settled.counted⟩
  intro before prepared frame after split event recovering
  exact (settled.told before _ after split).2.2.1 recovering event

/-! ## A contact that is recovered -/

def heard (control : UInt8) (opening : List UInt8) : List (Call × Answers) :=
  [(.handleA0 (interruptFrame control opening), quiet)]

def acked (control : UInt8) : List (Call × Answers) :=
  [(.outComplete 1 none, quiet),
    (.handleA0 ((buildFrame 0xb0 0xb0 [control, 0x01]).getD []), quiet)]

def plainNav : List UInt8 :=
  [0xa0, 0x6d, 0x09, 0x16, 0x50, 0x6a, 0x09, 0x50, 0x01] ++ List.replicate 2407 0 ++ [0x88]

def imaged : Call × Answers := (.handlePlaintextChunk blackImage, quiet)

/-- What the image does to a binding that waits for one. -/
def afterImage (binding : Binding) : Binding :=
  ((binding.clearPending.handlePrimarySamples blackRaster.samples quiet).2.submitIfGraphReady quiet).2

/-- Whether the image is due and is accepted. -/
abbrev TakesImage (binding : Binding) : Prop :=
  (binding.terminalError = none ∧ binding.transaction.failed = false ∧
    binding.transaction.pending = false) ∧
  binding.events.getExpectedEvent = .primaryB0 ∧ binding.events.b0Pending = [] ∧
  (binding.clearPending.handlePrimarySamples blackRaster.samples quiet).1 = .ok ()

theorem step_imaged {binding : Binding} (takes : TakesImage binding) :
    step binding imaged = (binding.afterImage, []) := by
  obtain ⟨⟨goes, stands, free⟩, awaits, empty, taken⟩ := takes
  have handled := handle_blackImage quiet awaits empty
  have accepted : binding.clearPending.handlePrimarySamples blackRaster.samples quiet =
      (.ok (), (binding.clearPending.handlePrimarySamples blackRaster.samples quiet).2) :=
    Prod.ext taken rfl
  have chunk : binding.handlePlaintextChunk blackImage quiet =
      (binding.clearPending.handlePrimarySamples blackRaster.samples quiet).2.submitIfGraphReady
        quiet := by
    unfold Binding.handlePlaintextChunk Binding.transactionHandlePlaintextChunk
    rw [if_neg (by simp [goes]), if_neg (by simp [stands, free]), handled, accepted]
  simp only [step, imaged, call, chunk]
  rfl

/-- The first touch, and from its image to the slot of the second one. -/
def untilSecond : List (Call × Answers) :=
  acked 0x34 ++ heard 0x34 [0x00, 0x02, 0x00, 0x00] ++ acked 0x20 ++
    [(.handlePlaintextChunk [0x20, 0x01, 0x00, 0x00], quiet)] ++ acked 0x32 ++ acked 0x50 ++
    [(.handleA0 plainNav, quiet)] ++ acked 0x32 ++ heard 0x32 [0x02, 0x00, 0x01, 0x00] ++ acked 0x22

/-- The second contact is recovered: a late release, the request for the next sample, which submits
a 0x32. -/
def untilRequest : List (Call × Answers) :=
  acked 0x34 ++ acked 0x36 ++ heard 0x36 [0x00, 0x01, 0x00, 0x00] ++
    heard 0x34 [0x00, 0x02, 0x00, 0x00] ++ [(.requestZeroSample, quiet)]

/-- The next touch. -/
def untilTouch : List (Call × Answers) := acked 0x32 ++ heard 0x32 [0x02, 0x00, 0x01, 0x00]

def recoveredContact : List (Call × Answers) :=
  untilImage ++ [imaged] ++ untilSecond ++ [imaged] ++ untilRequest ++ untilTouch

def atFirst (start : Binding) : Binding := (run step start untilImage).1
def atSecond (start : Binding) : Binding := (run step (atFirst start).afterImage untilSecond).1
def atRequest (start : Binding) : Binding := (run step (atSecond start).afterImage untilRequest).1
def atTouch (start : Binding) : Binding := (run step (atRequest start) untilTouch).1

theorem run_recoveredContact {start : Binding} (first : TakesImage (atFirst start))
    (second : TakesImage (atSecond start)) :
    (run step start recoveredContact).1 = atTouch start := by
  have once : (run step (atFirst start) [imaged]).1 = (atFirst start).afterImage := by
    simp only [run, step_imaged first]
  have twice : (run step (atSecond start) [imaged]).1 = (atSecond start).afterImage := by
    simp only [run, step_imaged second]
  rw [recoveredContact, run_append, run_append, run_append, run_append, run_append,
    ← atFirst, once, ← atSecond, twice, ← atRequest, ← atTouch]

/-- The second contact of an enrollment is recovered and its release comes late; the next sample is
requested once and its 0x32 follows; the next touch closes the window. -/
theorem late_release_window_recovered :
    ∃ start, Binding.new ⟨3, 4, true, false, true⟩ true true 1 = .ok start ∧
      let reached := (run step start recoveredContact).1
      reached.events.zero.recoveredCount = 1 ∧ reached.events.zero.lateReleaseCount = 1 ∧
        reached.events.zero.staleWindowOpen = false ∧
        (∃ before after, reached.log = before ++ .late :: after ∧
          (storyOf before).recovering = true ∧ (storyOf before).lates = 0) ∧
        ∃ before prepared frame after,
          reached.log = before ++ .submitted prepared frame :: after ∧
            prepared.intent.event = .command_32 ∧ (storyOf before).recovering = true ∧
            (storyOf before).requests = 1 := by
  have ends : ∀ start, Binding.new ⟨3, 4, true, false, true⟩ true true 1 = .ok start →
      let touched := atTouch start
      let prepared := (atRequest start).transaction.prepared
      (TakesImage (atFirst start) ∧ TakesImage (atSecond start)) ∧
      (touched.events.zero.recoveredCount = 1 ∧ touched.events.zero.lateReleaseCount = 1 ∧
        touched.events.zero.staleWindowOpen = false) ∧
      touched.log = touched.log.take 21 ++ .late :: touched.log.drop 22 ∧
      touched.log = touched.log.take 23 ++
        .submitted prepared ((outboundFrameBuild prepared).toOption.getD []) ::
          touched.log.drop 24 ∧
      prepared.intent.event = .command_32 ∧
      (storyOf (touched.log.take 23)).recovering = true := by
    rintro start made
    cases made
    decide +kernel
  obtain ⟨start, made⟩ : ∃ start, Binding.new ⟨3, 4, true, false, true⟩ true true 1 = .ok start :=
    ⟨_, rfl⟩
  obtain ⟨images, counts, late, submitted, event, recovering⟩ := ends start made
  obtain ⟨lates, -, requests, -⟩ := late_release_window made recoveredContact
  have reached := run_recoveredContact images.1 images.2
  rw [reached] at lates requests
  refine ⟨start, made, ?_⟩
  rw [reached]
  exact ⟨counts.1, counts.2.1, counts.2.2, ⟨_, _, late, lates _ _ late⟩, _, _, _, _, submitted,
    event, recovering, requests _ _ _ _ submitted event recovering⟩

end Binding

end Goodix.Enrollment
