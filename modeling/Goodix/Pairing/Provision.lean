import Goodix.A0Protocol
import Goodix.Bb010002
import Goodix.PairingCrypto

/-! # The pairing write

`goodix_pairing_provision.c`: one E0 frame, its ACK and completion, and the readback
and TLS proofs that have to follow.  There is no second attempt.
-/

namespace Goodix.Pairing

open Octets A0Protocol PairingCrypto

inductive Terminal where
  | waiting
  | accepted
  | rejected
  deriving DecidableEq, Repr

structure Provision where
  bb010002 : Block Bb010002.length
  envelope : Envelope
  validator : Validator
  terminal : Terminal
  begun : Bool
  ackSeen : Bool
  readbackProven : Bool
  tlsProven : Bool
  deriving DecidableEq

def provisionError (code : Nat) (message : String) : GError :=
  ⟨"goodix-pairing-provision-error", code, message⟩

def provisionErrorState : Nat := 1
def provisionErrorProtocol : Nat := 2
def provisionErrorProof : Nat := 3

/-- `reject` -/
def Provision.reject (provision : Provision) : Provision :=
  { provision with terminal := .rejected }

/-- `goodix_pairing_provision_new` -/
def Provision.new (bb010002 : Block Bb010002.length) (envelope : Envelope)
    (validator : Validator) : Except GError Provision :=
  match Bb010002.validate bb010002.val with
  | .error error => .error error
  | .ok () =>
    .ok
      { bb010002
        envelope
        validator
        terminal := .waiting
        begun := false
        ackSeen := false
        readbackProven := false
        tlsProven := false }

def dtBb010002 : UInt32 := 0xbb010002
def dtBb010003 : UInt32 := 0xbb010003

/-- The body of the E0 frame: both blocks with their types and lengths, padded to whole words. -/
def e0Body (bb010002 : Block Bb010002.length) (envelope : Envelope) : List UInt8 :=
  let body := putU32Le dtBb010002 ++ putU32Le 332 ++ bb010002.val ++
    putU32Le dtBb010003 ++ putU32Le 102 ++ envelope.val
  body ++ List.replicate ((4 - body.length % 4) % 4) 0

/-- `goodix_pairing_provision_begin_e0` -/
def Provision.beginE0 (provision : Provision) : Provision × Except GError (List UInt8) :=
  if provision.begun || provision.terminal ≠ .waiting then
    (provision.reject, .error (provisionError provisionErrorState
      "a pairing transaction permits exactly one logical E0"))
  else
    let body := e0Body provision.bb010002 provision.envelope
    if body.length ≠ 452 then
      (provision.reject, .error (provisionError provisionErrorState
        "E0 body construction violated its fixed boundary"))
    else
      match buildFrame 0xe0 0xe0 body with
      | none => (provision.reject, .error (a0Error 0 "A0 body is absent or too large"))
      | some frame => ({ provision with begun := true }, .ok frame)

/-- `goodix_pairing_provision_handle_a0` once the frame has been parsed. -/
def Provision.handleMessage (provision : Provision) (message : A0Message) :
    Provision × Except GError Unit :=
  if message.control = 0xb0 then
    if provision.ackSeen || message.body.length ≠ 2 || message.body.getD 0 0 ≠ 0xe0 ||
        !ackStatusAccepted (message.body.getD 1 0) then
      (provision.reject, .error (provisionError provisionErrorProtocol "E0 ACK contract failed"))
    else ({ provision with ackSeen := true }, .ok ())
  else if !provision.ackSeen || (message.control ≠ 0xe0 && message.control ≠ 0xe2) ||
      message.body.length ≠ 2 || message.body.getD 0 0 ≠ 0x00 ||
      (message.body.getD 1 0 ≠ 0x02 && message.body.getD 1 0 ≠ 0x03) then
    (provision.reject,
      .error (provisionError provisionErrorProtocol "E0 completion contract failed"))
  else ({ provision with terminal := .accepted }, .ok ())

/-- `goodix_pairing_provision_handle_a0` -/
def Provision.handleA0 (provision : Provision) (frame : List UInt8) :
    Provision × Except GError Unit :=
  if !provision.begun || provision.terminal ≠ .waiting then
    (provision.reject, .error (provisionError provisionErrorState
      "E0 response is outside the active transaction"))
  else if frame.length < 5 then
    (provision.reject, .error (provisionError provisionErrorProtocol
      "E0 response frame is truncated"))
  else
    match parseReceived frame with
    | .error error => (provision.reject, .error error)
    | .ok message => provision.handleMessage message

/-- `goodix_pairing_provision_check_readback` -/
def Provision.checkReadback (provision : Provision) (bb010002 : Block Bb010002.length)
    (validator : Validator) : Provision × Except GError Unit :=
  if provision.terminal ≠ .accepted || provision.readbackProven then
    (provision.reject, .error (provisionError provisionErrorState
      "pairing readback is outside the accepted E0 transaction"))
  else if bb010002 ≠ provision.bb010002 then
    (provision.reject, .error (provisionError provisionErrorProof
      "BB010002 changed across the E0 transaction"))
  else if validator ≠ provision.validator then
    (provision.reject, .error (provisionError provisionErrorProof
      "post-E0 validator does not match the local envelope"))
  else ({ provision with readbackProven := true }, .ok ())

/-- `goodix_pairing_provision_mark_tls_proven` -/
def Provision.markTlsProven (provision : Provision) : Provision × Except GError Unit :=
  if provision.terminal ≠ .accepted || !provision.readbackProven || provision.tlsProven then
    (provision.reject, .error (provisionError provisionErrorState
      "TLS proof requires one accepted E0 and both readbacks"))
  else ({ provision with tlsProven := true }, .ok ())

end Goodix.Pairing
