import Goodix.Enrollment.Events
import Goodix.Enrollment.Lockstep

/-! # The USB binding of an enrollment

`goodix_enrollment_outbound_transaction.c` sends one command at a time and commits it when its OUT
has completed; `goodix_enrollment_fpi_usb_binding.c` puts the transaction between the backend and
the events, and submits whenever the graph is at a command.

The callbacks of the events belong to a device context.  While one of them runs the context may be
fenced, which cancels the binding from inside; from then on the context refuses what its callbacks
are asked.  A binding without a contact callback has no context that could be fenced.
-/

namespace Goodix.Enrollment

open Octets FdtIrqPolicy A0Protocol ImageDecoder

def transactionError (code : Nat) (message : String) : GError :=
  ⟨"goodix-enrollment-outbound-transaction-error", code, message⟩

def transactionErrorState : Nat := 1
def transactionErrorTransport : Nat := 2
def transactionErrorGeneration : Nat := 3

def bindingError (message : String) : GError :=
  ⟨"goodix-enrollment-fpi-usb-binding-error", 1, message⟩

/-- The error with which a fenced context refuses. -/
def fencedError : GError := ⟨"g-io-error-quark", 18, "enrollment callback reached a fenced context"⟩

structure Transaction where
  generation : UInt64
  prepared : PreparedCommand
  pending : Bool
  failed : Bool
  deriving DecidableEq

/-- What a run of the binding notes. -/
inductive Noted where
  /-- A zero-mask contact has been recovered. -/
  | recovered
  /-- A late release has been consumed. -/
  | late
  /-- The next sample has been requested after a recovery. -/
  | requested
  /-- An IRQ2 has been accepted. -/
  | touched
  /-- An IRQ0080 with these readings has been accepted. -/
  | rearmed (raw : Table)
  /-- The re-arm that answers it has been acknowledged. -/
  | rearmAcked
  /-- The sink has been given the frame of a command. -/
  | submitted (prepared : PreparedCommand) (frame : List UInt8)
  /-- The OUT of a command has completed. -/
  | committed (event : Event)
  deriving DecidableEq

structure Binding where
  events : Events
  transaction : Transaction
  terminalError : Option GError
  /-- Whether the context of the callbacks is fenced. -/
  fenced : Bool
  log : List Noted
  deriving DecidableEq

inductive ContactAnswer where
  | accepts
  | refuses (error : Option GError)
  /-- The context is fenced from inside the callback, which then refuses. -/
  | fences

/-- What the callbacks, the clock and the sink answer while a call runs. -/
structure Answers where
  image : Reply
  /-- Whether the context is fenced from inside the image callback. -/
  imageFences : Bool
  contact : ContactAnswer
  stamp : Stamp
  sink : Except (Option GError) Unit
  auxiliary : Except (Option GError) Unit
  ready : Except (Option GError) Unit

namespace Binding

def new (config : ModelConfig) (contact zeroRecovery : Bool) (generation : UInt64) :
    Except GError Binding :=
  (Events.new config contact zeroRecovery).map fun events => {
    events
    transaction := ⟨generation, .cleared, false, false⟩
    terminalError := none
    fenced := false
    log := [] }

def note (binding : Binding) (noted : Noted) : Binding :=
  { binding with log := binding.log ++ [noted] }

/-- `events_fail` -/
def eventsFail (binding : Binding) (error : GError) : Except GError Unit × Binding :=
  (.error error, { binding with events := binding.events.stop })

/-- What `transaction_fail` does, once. -/
def transactionStop (binding : Binding) : Binding :=
  if binding.transaction.failed then binding
  else { binding with
    transaction := { binding.transaction with
      failed := true, pending := false, prepared := .cleared } }

/-- `transaction_fail` -/
def transactionFail (binding : Binding) (error : GError) : Except GError Unit × Binding :=
  (.error error, binding.transactionStop)

/-- `goodix_enrollment_outbound_transaction_has_pending` -/
def transactionHasPending (binding : Binding) : Bool :=
  !binding.transaction.failed && binding.transaction.pending

/-- `goodix_enrollment_outbound_transaction_is_complete` -/
def transactionIsComplete (binding : Binding) : Bool :=
  !binding.transaction.failed && !binding.transaction.pending && binding.events.isComplete

/-- The first terminal error closes the window. -/
def terminate (binding : Binding) (error : GError) : Binding :=
  if binding.terminalError.isSome then binding
  else { binding with
    events := binding.events.closeZeroWindow, terminalError := some error }

/-- `binding_fail`, after an error that is set already. -/
def fail (binding : Binding) (message : String) (error : GError) :
    Except GError Unit × Binding :=
  (.error error, binding.terminate (bindingError message))

/-- What `goodix_enrollment_fpi_usb_binding_cancel` does to a binding that is not terminal. -/
def cancelNow (binding : Binding) : Binding :=
  if binding.terminalError.isSome then binding
  else
    { binding with events := binding.events.closeZeroWindow }.transactionStop.terminate
      (bindingError "enrollment USB binding cancelled")

/-- `goodix_enrollment_fpi_usb_binding_cancel` -/
def cancel (binding : Binding) : Binding :=
  if binding.transactionIsComplete then binding else binding.cancelNow

/-! ## The callbacks -/

/-- The adapter observes; if it calls the image callback, that may fence the context.  While it runs
the enrollment is not complete. -/
def observe (binding : Binding) (event : Event) (samples : Option (List UInt16))
    (fdtRaw : Option (List UInt8)) (fdtTouchFlags : UInt16) (answers : Answers) :
    Except GError Unit × Binding :=
  let (verdict, lifecycle) :=
    binding.events.lifecycle.observe event samples fdtRaw fdtTouchFlags answers.image
  let observed := { binding with events := { binding.events with lifecycle } }
  if binding.events.contact ∧ answers.imageFences ∧
      lifecycle.plan.pipeline.handed ≠ binding.events.lifecycle.plan.pipeline.handed then
    (verdict, { observed.cancelNow with fenced := true })
  else (verdict, observed)

/-- The contact callback, which counts what it has delivered. -/
def tellContact (binding : Binding) (present : Bool) (answers : Answers) :
    Except (Option GError) Unit × Binding :=
  let audit := binding.events.audit
  if binding.events.contact = false then (.ok (), binding)
  else if binding.fenced then (.error (some fencedError), binding)
  else
    match answers.contact with
    | .refuses error => (.error error, binding)
    | .fences => (.error none, { binding.cancel with fenced := true })
    | .accepts =>
      (.ok (), { binding with
        events := { binding.events with
          audit :=
            if present then
              { audit with fingerDownDeliveryCount := audit.fingerDownDeliveryCount + 1 }
            else { audit with fingerUpDeliveryCount := audit.fingerUpDeliveryCount + 1 } } })

/-- The timestamp of a context that may be fenced. -/
def stamp (binding : Binding) (answers : Answers) : Stamp :=
  if binding.fenced then .error (some fencedError) else answers.stamp

/-! ## What the device sends -/

/-- The twelve octets of the readings in the body of an interrupt. -/
def readings (body : List UInt8) : Table :=
  ⟨(List.range 12).map fun index => octet body (4 + index), by simp⟩

/-- The result of a message, where a refusal fails the events. -/
def conclude : Except (Option GError) Unit × Binding → Except GError Unit × Binding
  | (.ok (), binding) => (.ok (), binding)
  | (.error error, binding) =>
    binding.eventsFail (error.getD (eventsError eventsErrorEvent
      "A0 frame does not match the expected enrollment event"))

/-- An observation that changes the audit if it is accepted. -/
def observeCounted (binding : Binding) (event : Event) (fdtRaw : Option (List UInt8))
    (fdtTouchFlags : UInt16) (answers : Answers) (count : EventsAudit → EventsAudit) :
    Except (Option GError) Unit × Binding :=
  match binding.observe event none fdtRaw fdtTouchFlags answers with
  | (.error error, observed) => (.error (some error), observed)
  | (.ok (), observed) =>
    (.ok (), { observed with
      events := { observed.events with audit := count observed.events.audit } })

/-- An IRQ0080, which is answered by a re-arm of its own. -/
def handleIrq80 (binding : Binding) (message : A0Message) (answers : Answers) :
    Except GError Unit × Binding :=
  if binding.events.irq80Count ≥ irq80PerWaitLimit then
    binding.eventsFail (eventsError eventsErrorEvent
      "Goodix enrollment IRQ0080 limit exceeded while waiting for IRQ2")
  else
    match binding.events.lifecycle.prepareIrq80Rearm (readings message.body)
        (binding.stamp answers) with
    | (.error error, lifecycle) =>
      { binding with events := { binding.events with lifecycle } }.eventsFail error
    | (.ok rearm, lifecycle) =>
      (.ok (), { binding with
        events := { binding.events with
          lifecycle
          irq80Rearm := rearm
          irq80RearmEvent := .command_32
          irq80Count := binding.events.irq80Count + 1 } }.note
            (.rearmed (readings message.body)))

/-- An acknowledgement. -/
def handleAck (binding : Binding) (expected : Event) (answers : Answers) :
    Except (Option GError) Unit × Binding :=
  let count (audit : EventsAudit) := { audit with ackCount := audit.ackCount + 1 }
  if binding.events.irq80RearmEvent = .ack_32 then
    (.ok (), { binding with
      events := { binding.events with
        irq80RearmEvent := .none
        irq80Rearm := .cleared
        audit := count binding.events.audit } }.note .rearmAcked)
  else binding.observeCounted expected none 0 answers count

/-- The IRQ2 of a contact. -/
def handleIrq2 (binding : Binding) (touchFlags : UInt16) (raw : List UInt8) (answers : Answers) :
    Except (Option GError) Unit × Binding :=
  match binding.observe .irq2 none (some raw) touchFlags answers with
  | (.error error, observed) => (.error (some error), observed)
  | (.ok (), observed) =>
    let counted := { observed with
      events := { observed.events with
        zero := { observed.events.zero with staleWindowOpen := false, lateSeen := false }
        audit := { observed.events.audit with
          irq2Count := observed.events.audit.irq2Count + 1 } } }
    match counted.tellContact true answers with
    | (.error error, told) => (.error error, told)
    | (.ok (), told) =>
      (.ok (), { told with events := { told.events with irq80Count := 0 } }.note .touched)

/-- The sample of a contact whose mask is zero: it is recovered, or the enrollment stops. -/
def handleZeroContact (binding : Binding) (message : A0Message) (answers : Answers) :
    Except (Option GError) Unit × Binding :=
  let protocol := binding.events.lifecycle.plan.pipeline.model.audit
  if binding.events.zeroEnabled ∧ binding.events.zero.staleWindowOpen = false ∧
      protocol.observedPrimaryStageCount ≥ 2 ∧ protocol.observedPrimaryStageCount =
        protocol.completedStageCount + protocol.retryStageCount + 1 then
    match binding.observe .zeroMaskRecovery none (some (readings message.body).val) 0 answers with
    | (.error error, observed) => (.error (some error), observed)
    | (.ok (), observed) =>
      let opened := !observed.events.lifecycle.isComplete
      { observed with
        events := { observed.events with
          zero := { observed.events.zero with
            recoveredCount := observed.events.zero.recoveredCount + 1
            staleWindowOpen := opened
            awaitingSampleRequest := opened
            lateSeen := false }
          audit := { observed.events.audit with
            irq0100Count := observed.events.audit.irq0100Count + 1 } } }.note
              .recovered |>.tellContact false answers
  else
    (.error (some (eventsError eventsErrorUnusableContact
      ("Goodix zero-mask contact unusable: no active touch channels in the " ++
        "enrollment contact sample. Enrollment stopped safely; no sample saved " ++
        "for this contact. Start a new enrollment manually after closing this " ++
        "attempt, keeping the finger centered and steady."))), binding)

/-- The IRQ0200 of a contact. -/
def handleIrq0200 (binding : Binding) (touchFlags : UInt16) (raw : List UInt8)
    (answers : Answers) : Except (Option GError) Unit × Binding :=
  match binding.observeCounted .irq0200 (some raw) touchFlags answers
      (fun audit => { audit with irq0200Count := audit.irq0200Count + 1 }) with
  | (.error error, observed) => (.error error, observed)
  | (.ok (), observed) => observed.tellContact false answers

/-- The frame does not match. -/
def mismatch (binding : Binding) (expected : Event) (message : A0Message) :
    Except (Option GError) Unit × Binding :=
  (.error (some (eventsError eventsErrorEvent
    (mismatchMessage binding.events.lifecycle.plan.pipeline.model expected message))), binding)

/-- A message where an event is expected. -/
def handleMessage (binding : Binding) (expected : Event) (message : A0Message)
    (answers : Answers) : Except (Option GError) Unit × Binding :=
  match expected, expectedAckEcho expected with
  | _, some echo =>
    if isAck message echo then binding.handleAck expected answers
    else binding.mismatch expected message
  | .irq2, none =>
    match parseIrq message 0x32 0x0002 .fingerDown with
    | some (touchFlags, raw) => binding.handleIrq2 touchFlags raw answers
    | none => binding.mismatch expected message
  | .irq0100, none =>
    if isUnusableZeroContact message then binding.handleZeroContact message answers
    else if (parseIrq message 0x36 0x0100 .contactSample).isSome then
      binding.observeCounted .irq0100 none 0 answers
        (fun audit => { audit with irq0100Count := audit.irq0100Count + 1 })
    else binding.mismatch expected message
  | .irq0200, none =>
    match parseIrq message 0x34 0x0200 .fingerUp with
    | some (touchFlags, raw) => binding.handleIrq0200 touchFlags raw answers
    | none => binding.mismatch expected message
  | _, none => binding.mismatch expected message

/-- `goodix_enrollment_post_tls_events_handle_a0` -/
def eventsHandleA0 (binding : Binding) (frame : List UInt8) (answers : Answers) :
    Except GError Unit × Binding :=
  let expected := binding.events.getExpectedEvent
  if binding.events.failed ∨ binding.events.b0Pending ≠ [] then
    binding.eventsFail (eventsError eventsErrorState "post-TLS event adapter is terminal")
  else if expected = .nav then
    if parseNavNoCheck frame = false then
      binding.eventsFail (eventsError eventsErrorFrame "OEM NAV no-check frame mismatch")
    else
      conclude (binding.observeCounted .nav none 0 answers fun audit =>
        { audit with parsedA0Count := audit.parsedA0Count + 1, navCount := audit.navCount + 1 })
  else if frame.length < 5 then
    binding.eventsFail (eventsError eventsErrorFrame "decrypted A0 frame is malformed")
  else
    match parseReceived frame with
    | .error error => binding.eventsFail error
    | .ok message =>
      let parsed := { binding with
        events := { binding.events with
          audit := { binding.events.audit with
            parsedA0Count := binding.events.audit.parsedA0Count + 1 } } }
      if expected = .irq2 ∧ isIrq80 message then parsed.handleIrq80 message answers
      else conclude (parsed.handleMessage expected message answers)

/-- The plaintext that has been assembled is forgotten. -/
def clearPending (binding : Binding) : Binding :=
  { binding with events := { binding.events with b0Pending := [] } }

/-- `goodix_enrollment_post_tls_events_handle_primary_samples` -/
def handlePrimarySamples (binding : Binding) (samples : List UInt16) (answers : Answers) :
    Except GError Unit × Binding :=
  if binding.events.failed ∨ binding.events.b0Pending ≠ [] then
    binding.eventsFail (eventsError eventsErrorState
      "post-TLS event adapter is absent or terminal")
  else
    match binding.observe .primaryB0 (some samples) none 0 answers with
    | (.error error, observed) => observed.eventsFail error
    | (.ok (), observed) =>
      (.ok (), { observed with
        events := { observed.events with
          audit := { observed.events.audit with
            primaryB0Count := observed.events.audit.primaryB0Count + 1 } } })

/-- `goodix_enrollment_post_tls_events_handle_auxiliary_b0` -/
def handleAuxiliaryB0 (binding : Binding) (answers : Answers) : Except GError Unit × Binding :=
  if binding.events.failed ∨ binding.events.b0Pending ≠ [] then
    binding.eventsFail (eventsError eventsErrorState
      "post-TLS event adapter is absent or terminal")
  else
    match binding.observe .auxiliaryB0 none none 0 answers with
    | (.error error, observed) => observed.eventsFail error
    | (.ok (), observed) =>
      (.ok (), { observed with
        events := { observed.events with
          audit := { observed.events.audit with
            auxiliaryB0Count := observed.events.audit.auxiliaryB0Count + 1 } } })

/-- A B0 message that is complete. -/
def handleComplete (binding : Binding) (expected : Event) (complete : List UInt8)
    (answers : Answers) : Except GError Unit × Binding :=
  if expected = .primaryB0 then
    match decodePlaintext complete with
    | .error error => binding.clearPending.eventsFail error
    | .ok samples => binding.clearPending.handlePrimarySamples samples answers
  else
    match if binding.fenced then .error (some fencedError) else answers.auxiliary with
    | .error error =>
      binding.clearPending.eventsFail (error.getD
        (eventsError eventsErrorEvent "complete B0 delivery failed"))
    | .ok () =>
      { binding.clearPending with
        events := { binding.clearPending.events with
          audit := { binding.events.audit with
            auxiliaryB0DeliveryCount := binding.events.audit.auxiliaryB0DeliveryCount + 1 } }
      }.handleAuxiliaryB0 answers

/-- `goodix_enrollment_post_tls_events_handle_plaintext_chunk` -/
def eventsHandlePlaintextChunk (binding : Binding) (chunk : List UInt8) (answers : Answers) :
    Except GError Unit × Binding :=
  let expected := binding.events.getExpectedEvent
  let pending := binding.events.b0Pending ++ chunk
  let expectedLength := (word16 pending 1).toNat + 3
  if binding.events.failed then
    binding.eventsFail (eventsError eventsErrorState "post-TLS event adapter is terminal")
  else if expected ≠ .primaryB0 ∧ expected ≠ .auxiliaryB0 then
    binding.eventsFail (eventsError eventsErrorState
      "plaintext arrived outside an enrollment B0 slot")
  else if chunk.length = 0 ∨ pending.length > b0MaxPlaintextLength then
    binding.eventsFail (eventsError eventsErrorFrame "B0 plaintext reassembly exceeds its bound")
  else
    let appended := { binding with events := { binding.events with b0Pending := pending } }
    if pending.length < 3 then (.ok (), appended)
    else if word16 pending 1 = 0 ∨ expectedLength > b0MaxPlaintextLength ∨
        (expected = .primaryB0 ∧ expectedLength ≠ imagePlaintextLength) ∨
        pending.length > expectedLength then
      appended.eventsFail (eventsError eventsErrorFrame "B0 plaintext declared length is invalid")
    else if pending.length < expectedLength then (.ok (), appended)
    else appended.handleComplete expected pending answers

/-! ## The transaction -/

/-- `goodix_enrollment_outbound_transaction_submit_next` -/
def transactionSubmitNext (binding : Binding) (answers : Answers) : Except GError Unit × Binding :=
  if binding.transaction.failed ∨ binding.transaction.pending ∨ binding.events.isComplete then
    binding.transactionFail (transactionError transactionErrorState
      "outbound transaction is terminal or already pending")
  else
    match binding.events.prepare (binding.stamp answers) with
    | (.error error, events) => { binding with events }.transactionFail error
    | (.ok prepared, events) =>
      match outboundFrameBuild prepared with
      | .error error => { binding with events }.transactionFail error
      | .ok frame =>
        let submitted := { binding with
          events
          transaction := { binding.transaction with prepared, pending := true } }.note
            (.submitted prepared frame)
        match answers.sink with
        | .error error =>
          submitted.transactionFail (error.getD (transactionError transactionErrorTransport
            "synthetic enrollment frame sink rejected OUT"))
        | .ok () => (.ok (), submitted)

/-- `goodix_enrollment_outbound_transaction_complete_out` -/
def completeOut (binding : Binding) (generation : UInt64) (completionError : Option GError) :
    Except GError Unit × Binding :=
  if binding.transaction.failed ∨ binding.transaction.pending = false then
    binding.transactionFail (transactionError transactionErrorState
      "no enrollment OUT is pending")
  else if generation ≠ binding.transaction.generation then
    binding.transactionFail (transactionError transactionErrorGeneration
      "enrollment OUT completion generation mismatch")
  else
    match completionError with
    | some error => binding.transactionFail error
    | none =>
      let event := binding.transaction.prepared.intent.event
      match binding.events.commit event with
      | (.error error, events) => { binding with events }.transactionFail error
      | (.ok (), events) =>
        (.ok (), { binding with
          events
          transaction := { binding.transaction with
            prepared := .cleared, pending := false } }.note (.committed event))

/-- `goodix_enrollment_outbound_transaction_handle_a0` -/
def transactionHandleA0 (binding : Binding) (frame : List UInt8) (answers : Answers) :
    Except GError Unit × Binding :=
  if binding.transaction.failed ∨ binding.transaction.pending then
    binding.transactionFail (transactionError transactionErrorState
      "inbound A0 arrived while OUT is pending or terminal")
  else
    match binding.eventsHandleA0 frame answers with
    | (.error error, after) => after.transactionFail error
    | (.ok (), after) => (.ok (), after)

/-- `goodix_enrollment_outbound_transaction_handle_plaintext_chunk` -/
def transactionHandlePlaintextChunk (binding : Binding) (chunk : List UInt8)
    (answers : Answers) : Except GError Unit × Binding :=
  if binding.transaction.failed ∨ binding.transaction.pending then
    binding.transactionFail (transactionError transactionErrorState
      "plaintext arrived while OUT is pending or terminal")
  else
    match binding.eventsHandlePlaintextChunk chunk answers with
    | (.error error, after) => after.transactionFail error
    | (.ok (), after) => (.ok (), after)

/-! ## The binding -/

/-- A call of a terminal binding. -/
def refuse (binding : Binding) (message : String) : Except GError Unit × Binding :=
  binding.fail message (binding.terminalError.getD (bindingError message))

/-- `goodix_enrollment_fpi_usb_binding_submit_next` -/
def submitNext (binding : Binding) (answers : Answers) : Except GError Unit × Binding :=
  if binding.terminalError.isSome then
    binding.refuse "enrollment USB binding is absent or terminal"
  else
    match binding.transactionSubmitNext answers with
    | (.error error, after) => after.fail "enrollment USB OUT submission failed" error
    | (.ok (), after) => (.ok (), after)

/-- `submit_if_graph_ready` -/
def submitIfGraphReady (binding : Binding) (answers : Answers) : Except GError Unit × Binding :=
  match binding.terminalError with
  | some error => (.error error, binding)
  | none =>
    if binding.transactionHasPending ∨ binding.transactionIsComplete ∨
        binding.events.zero.awaitingSampleRequest then (.ok (), binding)
    else if isCommandEvent binding.events.getExpectedEvent then binding.submitNext answers
    else (.ok (), binding)

/-- `goodix_enrollment_fpi_usb_binding_handle_a0` -/
def handleA0 (binding : Binding) (frame : List UInt8) (answers : Answers) :
    Except GError Unit × Binding :=
  if binding.terminalError.isSome then
    binding.refuse "enrollment USB binding is absent or terminal"
  else
    match binding.events.consumeStaleRelease frame with
    | (.error error, events) =>
      { binding with events }.fail "zero-mask stale release rejected" error
    | (.ok true, events) => (.ok (), { binding with events }.note .late)
    | (.ok false, _) =>
      match binding.transactionHandleA0 frame answers with
      | (.error error, after) => after.fail "enrollment inbound A0 failed" error
      | (.ok (), after) => after.submitIfGraphReady answers

/-- `goodix_enrollment_fpi_usb_binding_handle_plaintext_chunk` -/
def handlePlaintextChunk (binding : Binding) (chunk : List UInt8) (answers : Answers) :
    Except GError Unit × Binding :=
  if binding.terminalError.isSome then
    binding.refuse "enrollment USB binding is absent or terminal"
  else
    match binding.transactionHandlePlaintextChunk chunk answers with
    | (.error error, after) => after.fail "enrollment plaintext failed" error
    | (.ok (), after) => after.submitIfGraphReady answers

/-- `goodix_enrollment_fpi_usb_binding_request_zero_sample` -/
def requestZeroSample (binding : Binding) (answers : Answers) : Except GError Unit × Binding :=
  if binding.terminalError.isSome ∨ binding.transactionHasPending then
    binding.refuse "zero-mask next sample has no free OUT owner"
  else
    match binding.events.requestZeroSample with
    | (.error error, events) =>
      { binding with events }.fail "zero-mask next sample is not pending" error
    | (.ok (), events) => ({ binding with events }.note .requested).submitIfGraphReady answers

/-- `goodix_enrollment_fpi_usb_binding_is_complete` -/
def isComplete (binding : Binding) : Bool :=
  binding.terminalError.isNone && binding.transactionIsComplete

/-- `backend_out_complete` -/
def backendOutComplete (binding : Binding) (generation : UInt64)
    (completionError : Option GError) (answers : Answers) : Binding :=
  match binding.completeOut generation completionError with
  | (.error error, after) => after.terminate error
  | (.ok (), after) =>
    if after.terminalError.isSome ∨ after.transactionIsComplete then after
    else
      match answers.ready with
      | .ok () => after
      | .error error =>
        after.terminate (error.getD (bindingError "enrollment receive continuation failed"))

/-! ## Calls -/

/-- A call of the binding, of its events, or of the backend. -/
inductive Call where
  | handleA0 (frame : List UInt8)
  | handlePlaintextChunk (chunk : List UInt8)
  | requestZeroSample
  | prepare
  | submitNext
  | outComplete (generation : UInt64) (completionError : Option GError)
  | cancel

/-- The result of a call and the binding after it. -/
def call (binding : Binding) (answers : Answers) : Call → Except GError Unit × Binding
  | .handleA0 frame => binding.handleA0 frame answers
  | .handlePlaintextChunk chunk => binding.handlePlaintextChunk chunk answers
  | .requestZeroSample => binding.requestZeroSample answers
  | .prepare =>
    let (prepared, events) := binding.events.prepare (binding.stamp answers)
    (prepared.map fun _ => (), { binding with events })
  | .submitNext => binding.submitNext answers
  | .outComplete generation completionError =>
    (.ok (), binding.backendOutComplete generation completionError answers)
  | .cancel => (.ok (), binding.cancel)

def step (binding : Binding) (made : Call × Answers) : Binding × List Unit :=
  ((binding.call made.2 made.1).2, [])

end Binding

end Goodix.Enrollment
