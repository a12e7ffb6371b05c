import Goodix.LivePreflight.Machine
import Goodix.Pairing.Provision
import Goodix.SecureMaterial
import Goodix.SelfState.Store

/-! # Pairing activation

`goodix_pairing_activation.c`: construction decides from the store and the live
evidence whether a pairing write is allowed and makes it durable before anything is
sent; the object then walks E0, the two readbacks, TLS and promotion.
-/

namespace Goodix.Pairing

open Octets A0Protocol PairingCrypto SelfState LivePreflight

inductive Phase where
  | e0
  | readBb010002
  | readValidator
  | tls
  | complete
  | terminal
  deriving DecidableEq, Repr

/-- `phase >= GOODIX_PAIRING_ACTIVATION_TLS` -/
def Phase.pastReadback : Phase → Bool
  | e0 | readBb010002 | readValidator => false
  | tls | complete | terminal => true

inductive Disposition where
  | newPsk
  | restoreActivePsk
  | recoverPreparedTls
  | reuseActiveTls
  deriving DecidableEq, Repr

/-- The dispositions that send an E0. -/
def Disposition.provisions : Disposition → Bool
  | newPsk | restoreActivePsk => true
  | recoverPreparedTls | reuseActiveTls => false

structure Activation where
  phase : Phase
  disposition : Disposition
  statePolicy : Policy
  preparedState : State
  provision : Option Provision
  secureView : SecureMaterial
  readbackBb010002 : Block Bb010002.length
  readbackValidator : Validator
  requestSubmitted : Bool
  outPending : Bool
  ackSeen : Bool
  logicalDone : Bool
  error : Option GError
  deriving DecidableEq

def activationError (code : Nat) (message : String) : GError :=
  ⟨"goodix-pairing-activation-error", code, message⟩

def errorArgument : Nat := 0
def errorState : Nat := 1
def errorProtocol : Nat := 2
def errorProof : Nat := 3
def errorCrypto : Nat := 4

/-- `fail` -/
def Activation.fail (activation : Activation) (code : Nat) (message : String) : Activation :=
  if activation.phase = .terminal then activation
  else { activation with phase := .terminal, error := some (activationError code message) }

/-! ## Construction -/

/-- The binding of a reader, and the digest of its BB010002. -/
def evidenceBinding (crypto : Primitives) (evidence : Evidence) : Option (Binding × Digest) := do
  let otpSha256 ← crypto.sha256 evidence.otp.val
  let config90Sha256 ← crypto.sha256 evidence.config90.val
  let bb010002Sha256 ← crypto.sha256 evidence.bb010002.val
  pure
    ({ vid := 0x27c6
       pid := 0x5125
       chipProfile := evidence.chipId
       app := strlcpy evidence.app appMax
       otpSha256
       config90Sha256 },
      bb010002Sha256)

/-- `prepare_secure_view` -/
def prepareSecureView (crypto : Primitives) (evidence : Evidence) (validator : Validator)
    (psk : Psk) : Except GError SecureMaterial :=
  if !evidenceIdentityValid evidence then
    .error (activationError errorArgument
      "pairing identity evidence is invalid or out of bounds")
  else
    let view := do
      let e4ValidatorSha256 ← crypto.sha256 validator.val
      let config90Sha256 ← crypto.sha256 evidence.config90.val
      let a2ResponseSha256 ← crypto.sha256 evidence.a2Response.val
      let chip82ResponseSha256 ← crypto.sha256 evidence.chipResponse.val
      let otpA6ResponseSha256 ← crypto.sha256 evidence.otp.val
      pure
        { expectedIdentity := evidence.identity.val.take evidence.identityLength
          e4Validator := validator.val
          e4ValidatorSha256
          a2ResponseSha256
          chip82ResponseSha256
          otpA6ResponseSha256
          dacValues := evidence.calibration.dacRegisters
          config90 := evidence.config90.val
          config90Sha256
          psk := psk.val }
    match view with
    | none => .error (activationError errorCrypto "pairing secure-view digest construction failed")
    | some view => .ok view

/-- The stored record was written for the BB010002 the reader has, and its PSK derives to the
validator it expects.  A failing derivation leaves its own error. -/
def checkStoredMaterial (crypto : Primitives) (state : State) (bb010002Sha256 : Digest) :
    Except (Option GError) Validator :=
  if !state.record.bb010002Sha256Present || state.record.bb010002Sha256 ≠ bb010002Sha256 then
    .error none
  else
    match PairingCrypto.derive crypto state.psk with
    | .error error => .error (some error)
    | .ok (_, validator) =>
      if validator = state.record.expectedValidator then .ok validator else .error none

/-- The object as it stands once its material is known. -/
def Activation.make (phase : Phase) (disposition : Disposition) (policy : Policy)
    (preparedState : State) (provision : Option Provision) (secureView : SecureMaterial) :
    Activation :=
  { phase
    disposition
    statePolicy := policy
    preparedState
    provision
    secureView
    readbackBb010002 := Block.zero Bb010002.length
    readbackValidator := Block.zero 32
    requestSubmitted := false
    outPending := false
    ackSeen := false
    logicalDone := false
    error := none }

/-- An activation that goes to TLS on a stored state, without any device write. -/
def reuseState (crypto : Primitives) (policy : Policy) (evidence : Evidence) (state : State)
    (validator : Validator) (disposition : Disposition) : Except GError Activation :=
  match prepareSecureView crypto evidence validator state.psk with
  | .error error => .error error
  | .ok view => .ok (.make .tls disposition policy state none view)

/-- The record that reserves one E0. -/
def reservationRecord (generation : UInt64) (fdtPresent : Bool) (fdtTable : Block 12)
    (validator : Validator) (evidence : Evidence) (bb010002Sha256 : Digest) : Record :=
  { phase := .prepared
    generation
    expectedValidator := validator
    priorValidatorPresent := true
    priorValidator := evidence.validator
    fdtPresent
    fdtTable
    migratedLegacy := false
    legacySourceSha256 := Block.zero 32
    bb010002Sha256Present := true
    bb010002Sha256
    e0Attempted := true
    terminalProof := false }

/-- What a reservation is made of, before its validator is derived. -/
structure Reservation where
  disposition : Disposition
  psk : Psk
  generation : UInt64
  fdtPresent : Bool
  fdtTable : Block 12

def notReloaded : GError :=
  activationError errorState "durable PREPARED pairing reservation could not be reloaded"

/-- The end of `activation_new_internal`: the PREPARED record is written and read back before the
object that may send an E0 exists. -/
def reserve (crypto : Primitives) (policy : Policy) (fault : Option Fault) (path : PathEntry)
    (evidence : Evidence) (binding : Binding) (bb010002Sha256 : Digest)
    (reservation : Reservation) : Except GError Activation × PathEntry :=
  match PairingCrypto.derive crypto reservation.psk with
  | .error error => (.error error, path)
  | .ok (envelope, validator) =>
    let record := reservationRecord reservation.generation reservation.fdtPresent
      reservation.fdtTable validator evidence bb010002Sha256
    match writePrepared crypto policy fault path binding record reservation.psk with
    | (.error error, path) => (.error error, path)
    | (.ok (), path) =>
      match load crypto path binding policy with
      | .valid prepared =>
        if prepared.record.generation ≠ record.generation || !prepared.record.e0Attempted then
          (.error notReloaded, path)
        else
          match Provision.new evidence.bb010002 envelope validator with
          | .error error => (.error error, path)
          | .ok provision =>
            match prepareSecureView crypto evidence validator reservation.psk with
            | .error error => (.error error, path)
            | .ok view =>
              (.ok (.make .e0 reservation.disposition policy prepared (some provision) view), path)
      | .incomplete error => (.error (error.getD notReloaded), path)
      | .absent | .bindingMismatch => (.error notReloaded, path)

def notAuthorized : GError :=
  activationError errorState "state-v2 does not authorize a pairing write"

/-- `activation_new_internal` on a state that was loaded. -/
def activateLoaded (crypto : Primitives) (policy : Policy) (fault : Option Fault)
    (path : PathEntry) (evidence : Evidence) (binding : Binding) (bb010002Sha256 : Digest)
    (state : State) : Except GError Activation × PathEntry :=
  let record := state.record
  let refuse (error : Option GError) := (Except.error (error.getD notAuthorized), path)
  match reconcile state evidence.validator false with
  | .activeMatch =>
    match checkStoredMaterial crypto state bb010002Sha256 with
    | .error error => refuse error
    | .ok validator => (reuseState crypto policy evidence state validator .reuseActiveTls, path)
  | .retryTls =>
    if !record.e0Attempted then refuse none
    else
      match checkStoredMaterial crypto state bb010002Sha256 with
      | .error error => refuse error
      | .ok validator =>
        (reuseState crypto policy evidence state validator .recoverPreparedTls, path)
  | .externalReplacement =>
    if record.phase ≠ .active || record.generation = maxGeneration then refuse none
    else
      reserve crypto policy fault path evidence binding bb010002Sha256
        { disposition := .restoreActivePsk
          psk := state.psk
          generation := record.generation + 1
          fdtPresent := record.fdtPresent
          fdtTable := record.fdtTable }
  | _ => refuse none

def storeUnusable : GError :=
  activationError errorState "state-v2 is incomplete or target-mismatched"

/-- `activation_new_internal`.  `generated` is what `RAND_priv_bytes` gives. -/
def activationNew (crypto : Primitives) (policy : Policy) (generated : Option Psk)
    (fault : Option Fault) (path : PathEntry) (evidence : Evidence) :
    Except GError Activation × PathEntry :=
  if !evidenceValid evidence then
    (.error (activationError errorArgument "pairing activation inputs are invalid"), path)
  else
    match evidenceBinding crypto evidence with
    | none => (.error (activationError errorCrypto "pairing state binding digest failed"), path)
    | some (binding, bb010002Sha256) =>
      match load crypto path binding policy with
      | .absent =>
        match generated with
        | none => (.error (activationError errorCrypto "local pairing PSK generation failed"), path)
        | some psk =>
          reserve crypto policy fault path evidence binding bb010002Sha256
            { disposition := .newPsk
              psk
              generation := 1
              fdtPresent := false
              fdtTable := Block.zero 12 }
      | .valid state =>
        activateLoaded crypto policy fault path evidence binding bb010002Sha256 state
      | .incomplete error => (.error (error.getD storeUnusable), path)
      | .bindingMismatch => (.error storeUnusable, path)

/-! ## The transaction -/

/-- `reset_for_next_phase` -/
def Activation.resetForNextPhase (activation : Activation) : Activation :=
  { activation with
    requestSubmitted := false
    outPending := false
    ackSeen := false
    logicalDone := false }

def dtBb020003 : UInt32 := 0xbb020003

/-- The frame a readback phase asks with. -/
def readbackRequest (phase : Phase) : Option (List UInt8) :=
  let type := if phase = .readBb010002 then dtBb010002 else dtBb020003
  buildFrame 0xe4 0xe4 (putU32Le type ++ [0, 0, 0, 0])

/-- `goodix_pairing_activation_next_request` -/
def Activation.nextRequest (activation : Activation) :
    Activation × Except GError (Option (List UInt8)) :=
  if activation.phase.pastReadback || activation.requestSubmitted || activation.outPending then
    (activation, .ok none)
  else
    let failed (activation : Activation) (error : GError) :=
      (activation.fail errorState "pairing request construction failed", Except.error error)
    let sent (activation : Activation) (request : List UInt8) :=
      ({ activation with requestSubmitted := true, outPending := true }, Except.ok (some request))
    if activation.phase = .e0 then
      match activation.provision with
      | none =>
        failed activation (provisionError provisionErrorState
          "a pairing transaction permits exactly one logical E0")
      | some provision =>
        match provision.beginE0 with
        | (provision, .error error) => failed { activation with provision := some provision } error
        | (provision, .ok request) => sent { activation with provision := some provision } request
    else
      match readbackRequest activation.phase with
      | none => failed activation (a0Error 0 "A0 body is absent or too large")
      | some request => sent activation request

/-- `finish_readback` -/
def Activation.finishReadback (activation : Activation) : Activation × Except GError Unit :=
  match activation.provision with
  | none =>
    (activation.fail errorProof "post-E0 readback proof failed",
      .error (provisionError provisionErrorState
        "pairing readback is outside the accepted E0 transaction"))
  | some provision =>
    match provision.checkReadback activation.readbackBb010002 activation.readbackValidator with
    | (provision, .error error) =>
      (Activation.fail { activation with provision := some provision } errorProof
        "post-E0 readback proof failed", .error error)
    | (provision, .ok ()) =>
      ({ Activation.resetForNextPhase { activation with provision := some provision } with
          phase := .tls }, .ok ())

def Activation.provisionTerminal (activation : Activation) : Terminal :=
  match activation.provision with
  | none => .rejected
  | some provision => provision.terminal

/-- `maybe_advance` -/
def Activation.maybeAdvance (activation : Activation) : Activation × Except GError Unit :=
  if activation.outPending then (activation, .ok ())
  else if activation.phase = .e0 then
    if activation.provisionTerminal ≠ .accepted then (activation, .ok ())
    else ({ activation.resetForNextPhase with phase := .readBb010002 }, .ok ())
  else if !activation.logicalDone then (activation, .ok ())
  else if activation.phase = .readBb010002 then
    ({ activation.resetForNextPhase with phase := .readValidator }, .ok ())
  else activation.finishReadback

/-- `goodix_pairing_activation_out_complete` -/
def Activation.outComplete (activation : Activation) (error : Option GError) : Activation :=
  if !activation.outPending || activation.phase.pastReadback then activation
  else
    let activation := { activation with outPending := false }
    match error with
    | some _ => activation.fail errorProtocol "pairing USB OUT failed; do not retry E0"
    | none => activation.maybeAdvance.1

def readbackInvalid : GError :=
  activationError errorProof "pairing readback failed its exact typed-response contract"

/-- The failure of a readback response. -/
def Activation.invalid (activation : Activation) : Activation × Except GError Unit :=
  (activation.fail errorProof "pairing readback failed its exact typed-response contract",
    .error readbackInvalid)

/-- `handle_readback_a0` once the frame has been parsed. -/
def Activation.handleReadback (activation : Activation) (message : A0Message) :
    Activation × Except GError Unit :=
  if message.control = 0xb0 then
    if activation.ackSeen || message.body.length ≠ 2 || message.body.getD 0 0 ≠ 0xe4 ||
        !ackStatusAccepted (message.body.getD 1 0) then
      activation.invalid
    else ({ activation with ackSeen := true }, .ok ())
  else if !activation.ackSeen || message.control ≠ 0xe4 then activation.invalid
  else if activation.phase = .readBb010002 then
    match e4Block dtBb010002 Bb010002.length message.body with
    | none => activation.invalid
    | some readbackBb010002 =>
      Activation.maybeAdvance { activation with readbackBb010002, logicalDone := true }
  else
    match e4Block dtBb020003 32 message.body with
    | none => activation.invalid
    | some readbackValidator =>
      Activation.maybeAdvance { activation with readbackValidator, logicalDone := true }

/-- `goodix_pairing_activation_handle_a0` while the E0 is not finished. -/
def Activation.handleE0 (activation : Activation) (frame : List UInt8) :
    Activation × Except GError Unit :=
  match activation.provision with
  | none =>
    (activation.fail errorProtocol "E0 response failed its qualified contract",
      .error (provisionError provisionErrorState "E0 response is outside the active transaction"))
  | some provision =>
    match provision.handleA0 frame with
    | (provision, .error error) =>
      (Activation.fail { activation with provision := some provision } errorProtocol
        "E0 response failed its qualified contract", .error error)
    | (provision, .ok ()) =>
      Activation.maybeAdvance { activation with provision := some provision }

/-- `handle_readback_a0` -/
def Activation.handleReadbackA0 (activation : Activation) (frame : List UInt8) :
    Activation × Except GError Unit :=
  match parseReceived frame with
  | .error error =>
    (activation.fail errorProtocol "malformed pairing readback frame", .error error)
  | .ok message => activation.handleReadback message

/-- `goodix_pairing_activation_handle_a0` -/
def Activation.handleA0 (activation : Activation) (frame : List UInt8) :
    Activation × Except GError Unit :=
  if !activation.requestSubmitted || activation.phase.pastReadback || frame.length < 5 then
    let activation :=
      activation.fail errorState "A0 response is outside the pairing transaction"
    (activation, .error (activation.error.getD (activationError errorState "")))
  else if activation.phase ≠ .e0 then activation.handleReadbackA0 frame
  else activation.handleE0 frame

/-- `goodix_pairing_activation_get_secure_view` -/
def Activation.getSecureView (activation : Activation) :
    Activation × Except GError SecureMaterial :=
  if activation.phase ≠ .tls then
    let activation :=
      activation.fail errorState "pairing secure material is not readback-qualified"
    (activation, .error (activation.error.getD (activationError errorState "")))
  else (activation, .ok activation.secureView)

/-- What `goodix_pairing_activation_mark_tls_and_promote` did; `promotion` is the result of the
`goodix_self_state_promote_active` call, if there was one. -/
structure MarkOutcome where
  activation : Activation
  path : PathEntry
  promotion : Option (Except GError Unit)
  result : Except GError Unit

/-- The TLS proof of the nested write, when there was one. -/
def Activation.markProvision (activation : Activation) : Activation × Except GError Unit :=
  match activation.provision with
  | none => (activation, .ok ())
  | some provision =>
    ({ activation with provision := some provision.markTlsProven.1 }, provision.markTlsProven.2)

/-- A failure of `goodix_pairing_activation_mark_tls_and_promote`. -/
def Activation.markFailed (activation : Activation) (path : PathEntry)
    (promotion : Option (Except GError Unit)) (code : Nat) (message : String)
    (error : Option GError) : MarkOutcome :=
  let activation := activation.fail code message
  { activation
    path
    promotion
    result := .error (error.getD (activation.error.getD (activationError code message))) }

/-- `goodix_pairing_activation_mark_tls_and_promote` -/
def Activation.markTlsAndPromote (activation : Activation) (crypto : Primitives)
    (fault : Option Fault) (path : PathEntry) : MarkOutcome :=
  if activation.phase ≠ .tls then
    activation.markFailed path none errorState "pairing state is not awaiting TLS proof" none
  else
    match activation.markProvision with
    | (activation, .error error) =>
      activation.markFailed path none errorProof "pairing TLS proof was rejected" (some error)
    | (activation, .ok ()) =>
      if activation.disposition = .reuseActiveTls then
        { activation := { activation with phase := .complete }
          path
          promotion := none
          result := .ok () }
      else
        match promoteActive crypto activation.statePolicy fault path activation.preparedState with
        | (.error error, path) =>
          activation.markFailed path (some (.error error)) errorState
            "pairing ACTIVE promotion failed" (some error)
        | (.ok (), path) =>
          { activation := { activation with phase := .complete }
            path
            promotion := some (.ok ())
            result := .ok () }

end Goodix.Pairing
