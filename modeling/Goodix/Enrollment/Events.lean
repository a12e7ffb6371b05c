import Goodix.Enrollment.Adapter

/-! # The post-TLS events of an enrollment

`goodix_enrollment_post_tls_events.c` reads what the device sends during an enrollment and tells
the adapter.  Two exceptions lie over the graph of the model: an IRQ0080 before a contact is
answered by a re-arm of its own, and a contact whose sample has a zero mask is recovered, after
which a late release may still arrive.

This module has the state, the parsing of frames and the functions that call nothing back; the
others are in the binding, which a callback may cancel.
-/

namespace Goodix.Enrollment

open Octets FdtIrqPolicy A0Protocol

def eventsError (code : Nat) (message : String) : GError :=
  ⟨"goodix-enrollment-post-tls-events-error", code, message⟩

def eventsErrorState : Nat := 1
def eventsErrorFrame : Nat := 2
def eventsErrorEvent : Nat := 3
def eventsErrorUnusableContact : Nat := 4

def b0MaxPlaintextLength : Nat := 8192
def irq80PerWaitLimit : Nat := 2

/-- `GoodixZeroMaskRecoveryAudit` -/
structure ZeroMaskRecovery where
  recoveredCount : Nat
  lateReleaseCount : Nat
  rearm32Count : Nat
  staleWindowOpen : Bool
  lateSeen : Bool
  awaitingSampleRequest : Bool
  deriving DecidableEq, Repr

/-- The counts of the audit. -/
structure EventsAudit where
  parsedA0Count : Nat
  ackCount : Nat
  irq2Count : Nat
  irq0100Count : Nat
  irq0200Count : Nat
  fingerDownDeliveryCount : Nat
  fingerUpDeliveryCount : Nat
  navCount : Nat
  primaryB0Count : Nat
  auxiliaryB0Count : Nat
  auxiliaryB0DeliveryCount : Nat
  deriving DecidableEq, Repr

/-- `goodix_enrollment_prepared_command_clear` -/
def PreparedCommand.cleared : PreparedCommand :=
  ⟨⟨.none, .primaryAcquire, .simple_01_00, 0, 0⟩, []⟩

structure Events where
  lifecycle : Adapter
  /-- Whether there is a contact callback. -/
  contact : Bool
  b0Pending : List UInt8
  failed : Bool
  zeroEligible : Bool
  zeroEnabled : Bool
  zero : ZeroMaskRecovery
  irq80Count : Nat
  irq80RearmEvent : Event
  irq80Rearm : PreparedCommand
  audit : EventsAudit
  deriving DecidableEq

/-! ## Frames -/

/-- `expected_ack_echo` -/
def expectedAckEcho : Event → Option UInt8
  | .ack_20 => some 0x20
  | .ack_22 => some 0x22
  | .ack_32 => some 0x32
  | .ack_34 => some 0x34
  | .ack_36 => some 0x36
  | .ack_50 => some 0x50
  | _ => none

def octet (octets : List UInt8) (index : Nat) : UInt8 := octets.getD index 0

def word16 (octets : List UInt8) (index : Nat) : UInt16 :=
  getU16Le [octet octets index, octet octets (index + 1)]

/-- `parse_nav_no_check` -/
def parseNavNoCheck (frame : List UInt8) : Bool :=
  frame.length = 2417 ∧ octet frame 0 = 0xa0 ∧ octet frame 4 = 0x50 ∧ word16 frame 1 = 2413 ∧
    word16 frame 5 = 2410 ∧ octet frame 3 = octet frame 0 + octet frame 1 + octet frame 2 ∧
    octet frame 7 = 0x50 ∧ octet frame 8 = 0x01 ∧ octet frame (frame.length - 1) = 0x88

/-- `parse_irq`: the touch flags and the readings of an interrupt. -/
def parseIrq (message : A0Message) (expectedControl : UInt8) (expectedIrq : UInt16)
    (context : FlagsContext) : Option (UInt16 × List UInt8) :=
  if message.control ≠ expectedControl ∨ message.body.length ≠ 16 then none
  else if word16 message.body 0 ≠ expectedIrq ∨
      irqFlagsValid context (word16 message.body 2) = false then none
  else some (word16 message.body 2, message.body.drop 4)

/-- The readings fit without truncation. -/
def readingsBounded (body : List UInt8) : Bool :=
  channels.all fun channel =>
    let value := (word16 body (4 + 2 * channel)).toNat / 2
    1 ≤ value ∧ value ≤ 254

/-- `is_unusable_zero_contact` -/
def isUnusableZeroContact (message : A0Message) : Bool :=
  message.control = 0x36 ∧ message.body.length = 16 ∧ octet message.body 0 = 0x00 ∧
    octet message.body 1 = 0x01 ∧ octet message.body 2 = 0 ∧ octet message.body 3 = 0 ∧
    readingsBounded message.body

/-- A late release, after its A0 checks. -/
def isLateRelease (body : List UInt8) : Bool :=
  body.length = 16 ∧ octet body 0 = 0 ∧ octet body 1 = 2 ∧ octet body 2 = 0 ∧ octet body 3 = 0 ∧
    readingsBounded body

/-- The IRQ0080 of `goodix_enrollment_post_tls_events_handle_a0`. -/
def isIrq80 (message : A0Message) : Bool :=
  message.control = 0x32 ∧ message.body.length = 16 ∧ octet message.body 0 = 0x80 ∧
    octet message.body 1 = 0 ∧ octet message.body 2 &&& ~~~touchMask.toUInt8 = 0 ∧
    octet message.body 3 = 0

/-- The acknowledgement of a command. -/
def isAck (message : A0Message) (echo : UInt8) : Bool :=
  message.control = 0xb0 ∧ message.body = [echo, 0x01]

/-! ## The error of a frame that does not match -/

/-- A number in hexadecimal, `digits` digits wide. -/
def hexadecimal (digits value : Nat) : String :=
  let shown := String.ofList (Nat.toDigits 16 value)
  String.ofList (List.replicate (digits - shown.length) '0') ++ shown

/-- What `a0_mismatch_reason` looks for: the control octet, the interrupt, and the policy. -/
def mismatchPolicy : Event → Option (UInt8 × UInt16 × String)
  | .irq2 => some (0x32, 0x0002, "finger-down-nonzero-subset-0x003f")
  | .irq0100 => some (0x36, 0x0100, "contact-sample-nonzero-subset-0x003f")
  | .irq0200 => some (0x34, 0x0200, "finger-up-zero")
  | _ => none

/-- `a0_mismatch_reason`: the reason and the policy. -/
def a0MismatchReason (expected : Event) (message : A0Message) : String × String :=
  match mismatchPolicy expected with
  | none =>
    (if (expectedAckEcho expected).isSome then "ack-shape" else "state", "expected-event")
  | some (control, irq, policy) =>
    let flags := word16 message.body 2
    (if message.control ≠ control then "control"
      else if message.body.length ≠ 16 then "body-length"
      else if word16 message.body 0 ≠ irq then "irq"
      else if flags &&& ~~~touchMask ≠ 0 then "flags-reserved"
      else if flags = 0 then "flags-zero" else "flags-nonzero", policy)

/-- The message of a mismatch. -/
def mismatchMessage (protocol : Model) (expected : Event) (message : A0Message) : String :=
  let (reason, policy) := a0MismatchReason expected message
  let classified : Bool := message.body.length = 16 ∧ message.control ∈ [0x32, 0x34, 0x36]
  let pendingPrimary := if protocol.audit.observedPrimaryStageCount >
    protocol.audit.completedStageCount + protocol.audit.retryStageCount then 1 else 0
  "A0 mismatch: expected " ++ expected.name ++ ", observed control 0x" ++
    hexadecimal 2 message.control.toNat ++
    (if classified then
      " IRQ 0x" ++ hexadecimal 4 (word16 message.body 0).toNat ++ " flags 0x" ++
        hexadecimal 4 (word16 message.body 2).toNat
    else " (not classified as IRQ)") ++
    "; decision=reject reason=" ++ reason ++ " policy=" ++ policy ++ " contacts=" ++
    toString protocol.audit.observedPrimaryStageCount ++ " stages=" ++
    toString protocol.audit.completedStageCount ++ " pending_primary=" ++ toString pendingPrimary

/-! ## Functions that call nothing back -/

namespace Events

/-- `goodix_enrollment_post_tls_events_new`, with or without a contact callback, and with or
without `goodix_enrollment_post_tls_events_enable_zero_recovery`. -/
def new (config : ModelConfig) (contact zeroRecovery : Bool) : Except GError Events :=
  let zeroEligible : Bool := config.deferIntermediateStageDeliveryUntilReleaseReady ∧
    (config.deferTerminalStageDelivery ∨ config.deferTerminalStageDeliveryUntilReleaseReady)
  (Adapter.new config).map fun lifecycle => {
    lifecycle, contact, zeroEligible
    b0Pending := []
    failed := false
    zeroEnabled := zeroRecovery && zeroEligible
    zero := ⟨0, 0, 0, false, false, false⟩
    irq80Count := 0
    irq80RearmEvent := .none
    irq80Rearm := .cleared
    audit := ⟨0, 0, 0, 0, 0, 0, 0, 0, 0, 0, 0⟩ }

/-- `goodix_enrollment_post_tls_events_close_zero_window` -/
def closeZeroWindow (events : Events) : Events :=
  { events with
    zero := { events.zero with
      staleWindowOpen := false, awaitingSampleRequest := false, lateSeen := false } }

/-- What `events_fail` does, once. -/
def stop (events : Events) : Events :=
  if events.failed then events
  else
    { events.closeZeroWindow with
      failed := true
      irq80RearmEvent := .none
      irq80Rearm := .cleared
      b0Pending := [] }

/-- `goodix_enrollment_post_tls_events_get_expected_event` -/
def getExpectedEvent (events : Events) : Event :=
  if events.failed then .none
  else if events.irq80RearmEvent ≠ .none then events.irq80RearmEvent
  else events.lifecycle.getExpectedEvent

/-- `goodix_enrollment_post_tls_events_is_complete` -/
def isComplete (events : Events) : Bool := !events.failed && events.lifecycle.isComplete

/-- `goodix_enrollment_post_tls_events_is_failed` -/
def isFailed (events : Events) : Bool := events.failed || events.lifecycle.isFailed

/-- `goodix_enrollment_post_tls_events_request_zero_sample` -/
def requestZeroSample (events : Events) : Except GError Unit × Events :=
  if events.failed ∨ events.zero.awaitingSampleRequest = false ∨
      events.getExpectedEvent ≠ .command_32 then
    (.error (eventsError eventsErrorState "zero-mask has no pending next-sample request"),
      events.stop)
  else (.ok (), { events with zero := { events.zero with awaitingSampleRequest := false } })

/-- `goodix_enrollment_post_tls_events_consume_stale_release`: whether the frame has been
handled. -/
def consumeStaleRelease (events : Events) (frame : List UInt8) :
    Except GError Bool × Events :=
  if events.failed ∨ events.zero.staleWindowOpen = false ∨ frame.length < 5 ∨
      octet frame 4 ≠ 0x34 then (.ok false, events)
  else
    match parseFrame frame 0x34 with
    | .error error => (.error error, events.stop)
    | .ok message =>
      if isLateRelease message.body = false ∨ events.zero.lateSeen then
        (.error (eventsError eventsErrorEvent
          "invalid or duplicate late release in zero-mask window"), events.stop)
      else
        (.ok true, { events with
          zero := { events.zero with
            lateSeen := true, lateReleaseCount := events.zero.lateReleaseCount + 1 }
          audit := { events.audit with parsedA0Count := events.audit.parsedA0Count + 1 } })

/-- `goodix_enrollment_post_tls_events_prepare` -/
def prepare (events : Events) (stamp : Stamp) : Except GError PreparedCommand × Events :=
  if events.failed ∨ events.b0Pending ≠ [] ∨ events.zero.awaitingSampleRequest then
    (.error (eventsError eventsErrorState "post-TLS event adapter is absent or terminal"),
      events.stop)
  else if events.irq80RearmEvent = .command_32 then (.ok events.irq80Rearm, events)
  else
    match events.lifecycle.prepare stamp with
    | (.error error, lifecycle) => (.error error, { events with lifecycle }.stop)
    | (.ok prepared, lifecycle) => (.ok prepared, { events with lifecycle })

/-- `goodix_enrollment_post_tls_events_commit` -/
def commit (events : Events) (commandEvent : Event) : Except GError Unit × Events :=
  if events.failed ∨ events.b0Pending ≠ [] then
    (.error (eventsError eventsErrorState "post-TLS event adapter is absent or terminal"),
      events.stop)
  else if events.irq80RearmEvent ≠ .none then
    if events.irq80RearmEvent ≠ .command_32 ∨ commandEvent ≠ .command_32 then
      (.error (eventsError eventsErrorState "IRQ0080 rearm completion is unexpected"),
        events.stop)
    else (.ok (), { events with irq80RearmEvent := .ack_32 })
  else
    match events.lifecycle.commit commandEvent with
    | (.error error, lifecycle) => (.error error, { events with lifecycle }.stop)
    | (.ok (), lifecycle) =>
      if commandEvent = .command_32 ∧ events.zero.staleWindowOpen then
        (.ok (), { events with
          lifecycle, zero := { events.zero with rearm32Count := events.zero.rearm32Count + 1 } })
      else (.ok (), { events with lifecycle })

end Events

end Goodix.Enrollment
