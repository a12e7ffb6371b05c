import Goodix.A0Protocol
import Goodix.LivePreflight.Evidence
import Goodix.Library.Machines

/-! # The live preflight

`goodix_live_preflight.c`: seven read-only commands, each with an ACK and a typed
response, that gather the evidence needed before any pairing material is chosen.
-/

namespace Goodix.LivePreflight

open Octets A0Protocol SelfState

inductive Phase where
  | reentryA2
  | appA8
  | bb010002E4
  | validatorE4
  | coldA2
  | chip82
  | otpA6
  | stop
  | terminal
  deriving DecidableEq, Repr

/-- The next enumerator. -/
def Phase.next : Phase → Phase
  | reentryA2 => appA8
  | appA8 => bb010002E4
  | bb010002E4 => validatorE4
  | validatorE4 => coldA2
  | coldA2 => chip82
  | chip82 => otpA6
  | otpA6 => stop
  | stop => terminal
  | terminal => terminal

/-- `phase >= GOODIX_LIVE_PREFLIGHT_STOP` -/
def Phase.ended : Phase → Bool
  | stop | terminal => true
  | _ => false

/-- `phase_control` -/
def phaseControl : Phase → UInt8
  | .reentryA2 | .coldA2 => 0xa2
  | .appA8 => 0xa8
  | .bb010002E4 | .validatorE4 => 0xe4
  | .chip82 => 0x82
  | .otpA6 => 0xa6
  | .stop | .terminal => 0

/-- The body of the phase's command. -/
def requestBody : Phase → List UInt8
  | .reentryA2 | .coldA2 => [0x01, 0x14]
  | .appA8 => [0x00, 0x00]
  | .bb010002E4 => [0x02, 0x00, 0x01, 0xbb, 0, 0, 0, 0]
  | .validatorE4 => [0x03, 0x00, 0x02, 0xbb, 0, 0, 0, 0]
  | .chip82 => [0, 0, 0, 4, 0]
  | .otpA6 => [0, 0]
  | .stop | .terminal => []

def preflightError (code : Nat) (message : String) : GError :=
  ⟨"goodix-live-preflight-error", code, message⟩

def errorState : Nat := 0
def errorProtocol : Nat := 1
def errorTarget : Nat := 2
def errorTransport : Nat := 3

structure Preflight where
  phase : Phase
  evidence : Evidence
  requestSubmitted : Bool
  outPending : Bool
  ackSeen : Bool
  logicalDone : Bool
  error : Option GError
  deriving DecidableEq

/-- `goodix_live_preflight_new` -/
def new : Preflight :=
  { phase := .reentryA2
    evidence := .empty
    requestSubmitted := false
    outPending := false
    ackSeen := false
    logicalDone := false
    error := none }

/-- `preflight_fail` -/
def Preflight.fail (preflight : Preflight) (code : Nat) (message : String) :
    Preflight :=
  if preflight.phase = .terminal then preflight
  else { preflight with phase := .terminal, error := some (preflightError code message) }

/-- `maybe_advance` -/
def Preflight.maybeAdvance (preflight : Preflight) : Preflight :=
  if !preflight.logicalDone || preflight.outPending || preflight.phase.ended then preflight
  else
    { preflight with
      phase := preflight.phase.next
      requestSubmitted := false
      ackSeen := false
      logicalDone := false }

/-- `goodix_live_preflight_next_request`: no request when the phase is not ready for one. -/
def Preflight.nextRequest (preflight : Preflight) :
    Preflight × Except GError (Option (List UInt8)) :=
  if preflight.phase = .terminal then
    (preflight, .error (preflightError errorState "live preflight is unavailable"))
  else if preflight.phase = .stop || preflight.requestSubmitted || preflight.outPending then
    (preflight, .ok none)
  else
    let control := phaseControl preflight.phase
    match buildFrame control control (requestBody preflight.phase) with
    | none =>
      (preflight.fail errorState "live preflight request construction failed",
        .error (a0Error 0 "A0 body is absent or too large"))
    | some request =>
      ({ preflight with requestSubmitted := true, outPending := true }, .ok (some request))

/-- `goodix_live_preflight_out_complete` -/
def Preflight.outComplete (preflight : Preflight) (error : Option GError) :
    Preflight :=
  if preflight.phase.ended || !preflight.outPending then preflight
  else
    let preflight := { preflight with outPending := false }
    match error with
    | some error => preflight.fail errorTransport error.message
    | none => preflight.maybeAdvance

/-- The nine octets in front of a block read with command 0xe4. -/
def e4Header (type length : UInt32) : List UInt8 := [0] ++ putU32Le type ++ putU32Le length

/-- The block of `length` octets in an 0xe4 response of the wanted type. -/
def e4Block (type : UInt32) (length : Nat) (body : List UInt8) : Option (Block length) :=
  if body.length ≠ 9 + length || body.take 9 ≠ e4Header type (UInt32.ofNat length) then none
  else Block.ofList? length (body.drop 9)

/-- `accept_typed`, with `parse_e4`.  A refused response may have left octets in the record; it
ends the preflight, and only the record at STOP is ever handed out. -/
def acceptTyped (phase : Phase) (evidence : Evidence) (body : List UInt8) : Option Evidence :=
  match phase with
  | .reentryA2 => (Block.ofList? 3 body).map fun a2Response => { evidence with a2Response }
  | .appA8 =>
    if body = app12509Identity then
      some (evidence.withIdentity app12509Identity app12509Identity_fits app12509)
    else if body = app12508Identity then
      some (evidence.withIdentity app12508Identity (by decide) app12508)
    else none
  | .bb010002E4 =>
    match e4Block 0xbb010002 Bb010002.length body with
    | none => none
    | some bb010002 =>
      match Bb010002.validate bb010002.val with
      | .error _ => none
      | .ok () => some { evidence with bb010002 }
  | .validatorE4 =>
    (e4Block 0xbb020003 32 body).map fun validator => { evidence with validator }
  | .coldA2 => if body = evidence.a2Response.val then some evidence else none
  | .chip82 =>
    match Block.ofList? 4 body with
    | none => none
    | some chipResponse =>
      let chipId := getU16Le (chipResponse.slice 1 2 (by decide)).val
      if Config90.chipSupported chipId then some { evidence with chipResponse, chipId } else none
  | .otpA6 =>
    match Block.ofList? 64 body with
    | none => none
    | some otp =>
      match Config90.derive evidence.chipId otp with
      | .error _ => none
      | .ok (config90, calibration) => some { evidence with otp, config90, calibration }
  | .stop | .terminal => none

/-- The failure for a response that is not the one the phase waits for. -/
def Preflight.invalid (preflight : Preflight) : Preflight × Except GError Unit :=
  let message := "live preflight response failed its target boundary"
  (preflight.fail errorTarget message, .error (preflightError errorTarget message))

/-- `goodix_live_preflight_handle_a0` once the frame has been parsed. -/
def Preflight.handleMessage (preflight : Preflight) (message : A0Message) :
    Preflight × Except GError Unit :=
  let expected := phaseControl preflight.phase
  if message.control = 0xb0 then
    if preflight.ackSeen || message.body.length ≠ 2 || message.body.getD 0 0 ≠ expected ||
        !ackStatusAccepted (message.body.getD 1 0) then
      preflight.invalid
    else ({ preflight with ackSeen := true }, .ok ())
  else if !preflight.ackSeen || message.control ≠ expected then preflight.invalid
  else
    match acceptTyped preflight.phase preflight.evidence message.body with
    | none => preflight.invalid
    | some evidence =>
      (Preflight.maybeAdvance { preflight with evidence, logicalDone := true }, .ok ())

/-- `goodix_live_preflight_handle_a0` -/
def Preflight.handleA0 (preflight : Preflight) (frame : List UInt8) :
    Preflight × Except GError Unit :=
  if preflight.phase.ended || !preflight.requestSubmitted || preflight.logicalDone ||
      frame.length < 5 then
    let preflight := preflight.fail errorState "A0 response is outside the live preflight phase"
    (preflight, .error (preflight.error.getD (preflightError errorState "")))
  else
    match parseReceived frame with
    | .error error =>
      (preflight.fail errorProtocol "malformed live preflight A0 frame", .error error)
    | .ok message => preflight.handleMessage message

/-- `goodix_live_preflight_copy_evidence` -/
def Preflight.copyEvidence (preflight : Preflight) : Option Evidence :=
  if preflight.phase = .stop then some preflight.evidence else none

/-- `goodix_live_preflight_needs_receive` -/
def Preflight.needsReceive (preflight : Preflight) : Bool := !preflight.phase.ended

/-! ## Runs -/

inductive Event where
  | nextRequest
  | outComplete (error : Option GError)
  | handleA0 (frame : List UInt8)

/-- What the preflight did not refuse. -/
inductive Accepted where
  | command (frame : List UInt8)
  | outComplete
  | ack (echo status : UInt8)
  | typed (control : UInt8) (body : List UInt8)
  deriving DecidableEq

/-- How a message that was accepted counts. -/
def acceptedMessage (message : A0Message) : Accepted :=
  if message.control = 0xb0 then .ack (message.body.getD 0 0) (message.body.getD 1 0)
  else .typed message.control message.body

def step (preflight : Preflight) : Event → Preflight × List Accepted
  | .nextRequest =>
    match preflight.nextRequest with
    | (after, .ok (some request)) => (after, [.command request])
    | (after, _) => (after, [])
  | .outComplete error =>
    let accepted := !preflight.phase.ended && preflight.outPending && error.isNone
    (preflight.outComplete error, if accepted then [.outComplete] else [])
  | .handleA0 frame =>
    match preflight.handleA0 frame, parseReceived frame with
    | (after, .ok ()), .ok message => (after, [acceptedMessage message])
    | (after, _), _ => (after, [])

end Goodix.LivePreflight
