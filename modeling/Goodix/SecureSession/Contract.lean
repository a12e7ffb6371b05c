import Goodix.A0Protocol
import Goodix.LivePreflight.Evidence
import Goodix.SecureMaterial

/-! # The phases of a secure session

The parts of `goodix_secure_session.c` that do not depend on its state: the material it
accepts, the order of its phases, and for each phase the command it sends and the
answer it takes.
-/

namespace Goodix.SecureSession

open Octets A0Protocol LivePreflight

inductive Phase where
  | reentryRecoveryA2
  | a8
  | e4
  | oemColdStartA21
  | chip82
  | otpA6
  | oemColdStartA22
  | mode70
  | dac220
  | dac236
  | dac238
  | dac23A
  | config90
  | d1
  | tls
  | stop
  | terminal
  deriving DecidableEq, Repr

/-- The value of the enumerator. -/
def Phase.index : Phase → Nat
  | reentryRecoveryA2 => 0
  | a8 => 1
  | e4 => 2
  | oemColdStartA21 => 3
  | chip82 => 4
  | otpA6 => 5
  | oemColdStartA22 => 6
  | mode70 => 7
  | dac220 => 8
  | dac236 => 9
  | dac238 => 10
  | dac23A => 11
  | config90 => 12
  | d1 => 13
  | tls => 14
  | stop => 15
  | terminal => 16

instance : LT Phase := ⟨fun first second => first.index < second.index⟩

instance : LE Phase := ⟨fun first second => first.index ≤ second.index⟩

instance (first second : Phase) : Decidable (first < second) :=
  inferInstanceAs (Decidable (first.index < second.index))

instance (first second : Phase) : Decidable (first ≤ second) :=
  inferInstanceAs (Decidable (first.index ≤ second.index))

theorem Phase.lt_iff {first second : Phase} : first < second ↔ first.index < second.index :=
  Iff.rfl

/-- The phase `advance_phase` goes on to: the next enumerator. -/
def Phase.next : Phase → Phase
  | reentryRecoveryA2 => a8
  | a8 => e4
  | e4 => oemColdStartA21
  | oemColdStartA21 => chip82
  | chip82 => otpA6
  | otpA6 => oemColdStartA22
  | oemColdStartA22 => mode70
  | mode70 => dac220
  | dac220 => dac236
  | dac236 => dac238
  | dac238 => dac23A
  | dac23A => config90
  | config90 => d1
  | d1 => tls
  | tls => stop
  | stop => terminal
  | terminal => terminal

theorem Phase.index_next {phase : Phase} (running : phase < terminal) :
    phase.next.index = phase.index + 1 := by
  cases phase with
  | terminal => exact absurd running (by decide)
  | _ => rfl

/-- The enumerator of a value. -/
def Phase.ofIndex (index : Nat) : Phase :=
  [reentryRecoveryA2, a8, e4, oemColdStartA21, chip82, otpA6, oemColdStartA22, mode70, dac220,
    dac236, dac238, dac23A, config90, d1, tls, stop].getD index terminal

theorem Phase.ofIndex_index (phase : Phase) : ofIndex phase.index = phase := by
  cases phase <;> rfl

theorem Phase.index_injective {first second : Phase} (same : first.index = second.index) :
    first = second := by
  rw [← ofIndex_index first, same, ofIndex_index]

def secureError (code : Nat) (message : String) : GError :=
  ⟨"goodix-secure-session-error", code, message⟩

def errorMaterial : Nat := 0
def errorState : Nat := 1
def errorProtocol : Nat := 2
def errorTls : Nat := 4

/-! ## Material -/

/-- `is_supported_identity` -/
def isSupportedIdentity (identity : List UInt8) : Bool :=
  identity = app12509Identity || identity = app12508Identity

def dacRegisters : List UInt16 := [0x0220, 0x0236, 0x0238, 0x023a]

def configDacOffsets : List Nat := [117, 121, 125, 129]

/-- `digest_matches` -/
def digestMatches (crypto : Primitives) (data : List UInt8) (expected : Digest) : Bool :=
  crypto.checksumSha256 data = expected

/-- `digest_present` -/
def digestPresent (digest : Digest) : Bool := digest.val.any (· ≠ 0)

/-- `validate_config_finalizer` -/
def validateConfigFinalizer (config : List UInt8) : Bool :=
  let word (index : Nat) : UInt16 := getU16Le [config.getD (2 * index) 0, config.getD (2 * index + 1) 0]
  let sum := (List.range 111).foldl (fun sum index => sum + (word index).toUInt32) (0 : UInt32)
  word 111 = (0 - 0xa5a5 - sum).toUInt16

/-- The DAC values of the material are those CONFIG_90 sets its registers to. -/
def dacCorrelated (material : SecureMaterial) (index : Fin 4) : Bool :=
  let offset := configDacOffsets.getD index.val 0
  let register := dacRegisters.getD index.val 0
  (material.config90.drop offset).take 4 =
    putU16Le register ++ putU16Le (material.dacValues index)

def materialError (message : String) : Except GError Unit :=
  .error (secureError errorMaterial message)

/-- `validate_material` -/
def validateMaterial (crypto : Primitives) (material : SecureMaterial) : Except GError Unit :=
  if !isSupportedIdentity material.expectedIdentity then
    materialError "expected APP12509 identity material is invalid"
  else if material.e4Validator.length ≠ 32 || !digestPresent material.e4ValidatorSha256 ||
      !digestMatches crypto material.e4Validator material.e4ValidatorSha256 then
    materialError "E4 validator material or pin is invalid"
  else if !digestPresent material.a2ResponseSha256 ||
      !digestPresent material.chip82ResponseSha256 ||
      !digestPresent material.otpA6ResponseSha256 then
    materialError "a typed-response pin is missing"
  else if material.config90.length ≠ 224 || !digestPresent material.config90Sha256 ||
      !digestMatches crypto material.config90 material.config90Sha256 then
    materialError "CONFIG_90 length or SHA-256 is invalid"
  else if !validateConfigFinalizer material.config90 then
    materialError "CONFIG_90 finalizer is invalid"
  else if !(List.finRange 4).all (dacCorrelated material) then
    materialError "DAC and CONFIG_90 material are inconsistent"
  else if material.psk.length ≠ 32 then
    materialError "target PSK length must be exactly 32 bytes"
  else .ok ()

/-! ## Commands -/

/-- `phase_ack_only` -/
def phaseAckOnly (phase : Phase) : Bool :=
  phase = .mode70 || (.dac220 ≤ phase && phase ≤ .dac23A)

/-- `phase_control` -/
def phaseControl : Phase → UInt8
  | .reentryRecoveryA2 => 0xa2
  | .a8 => 0xa8
  | .e4 => 0xe4
  | .oemColdStartA21 | .oemColdStartA22 => 0xa2
  | .chip82 => 0x82
  | .otpA6 => 0xa6
  | .mode70 => 0x70
  | .dac220 | .dac236 | .dac238 | .dac23A => 0x80
  | .config90 => 0x90
  | .d1 => 0xd1
  | .tls | .stop | .terminal => 0

/-- The body of the command that sets a DAC register. -/
def dacBody (material : SecureMaterial) (index : Fin 4) : List UInt8 :=
  putU16Le (dacRegisters.getD index.val 0) ++ [2] ++ putU16Le (material.dacValues index)

/-- The DAC registers are four. -/
local instance fourRegisters : NeZero 4 := ⟨by decide⟩

/-- The body `build_phase_frame` sends in a phase that has a command. -/
def phaseBody (material : SecureMaterial) : Phase → Option (List UInt8)
  | .reentryRecoveryA2 => some [0x01, 0x14]
  | .a8 => some [0x00, 0x00]
  | .e4 => some [0x03, 0x00, 0x02, 0xbb, 0, 0, 0, 0]
  | .oemColdStartA21 | .oemColdStartA22 => some [0x01, 0x14]
  | .chip82 => some [0, 0, 0, 4, 0]
  | .otpA6 => some [0, 0]
  | .mode70 => some [0x14, 0]
  | .dac220 => some (dacBody material 0)
  | .dac236 => some (dacBody material 1)
  | .dac238 => some (dacBody material 2)
  | .dac23A => some (dacBody material 3)
  | .config90 => some material.config90
  | .d1 => some [0, 0]
  | .tls | .stop | .terminal => none

/-- `build_phase_frame` -/
def buildPhaseFrame (material : SecureMaterial) (phase : Phase) : Except GError (List UInt8) :=
  let wireControl := phaseControl phase
  let checksumControl := if phase = .d1 then 0xd0 else wireControl
  match phaseBody material phase with
  | none => .error (secureError errorState "phase has no A0 request")
  | some body =>
    match buildFrame wireControl checksumControl body with
    | none => .error (a0Error 0 "A0 body is absent or too large")
    | some frame => .ok frame

/-! ## Answers -/

/-- `phase_ack_policies` -/
def phaseAckPolicies : List (Phase × List UInt8) :=
  [(.reentryRecoveryA2, [0x01, 0x07]),
    (.a8, [0x01, 0x07]),
    (.e4, [0x01, 0x07]),
    (.oemColdStartA21, [0x01, 0x07]),
    (.chip82, [0x01, 0x07]),
    (.otpA6, [0x01, 0x07]),
    (.oemColdStartA22, [0x01, 0x07]),
    (.mode70, [0x01, 0x07]),
    (.dac220, [0x01, 0x07]),
    (.dac236, [0x01, 0x07]),
    (.dac238, [0x01, 0x07]),
    (.dac23A, [0x01, 0x07]),
    (.config90, [0x01, 0x07])]

/-- `phase_ack_status_allowed` -/
def phaseAckStatusAllowed (phase : Phase) (status : UInt8) : Bool :=
  match phaseAckPolicies.find? (·.1 = phase) with
  | some policy => policy.2.contains status
  | none => false

inductive E4ContractResult where
  | notEvaluated
  | bodyLengthMismatch
  | prefixMismatch
  | validatorMismatch
  | digestMismatch
  | fits
  deriving DecidableEq, Repr

/-- `check_e4_contract` -/
def checkE4Contract (crypto : Primitives) (body expectedValidator : List UInt8)
    (expectedValidatorSha256 : Digest) : E4ContractResult :=
  if body.length ≠ 9 + 32 then .bodyLengthMismatch
  else if body.take 9 ≠ [0x00, 0x03, 0x00, 0x02, 0xbb, 0x20, 0x00, 0x00, 0x00] then
    .prefixMismatch
  else if body.drop 9 ≠ expectedValidator then .validatorMismatch
  else if !digestMatches crypto (body.drop 9) expectedValidatorSha256 then .digestMismatch
  else .fits

def contractFailed : String := "phase-specific A0 response contract failed"

/-- `e4_contract_failure_message` -/
def e4ContractFailureMessage : E4ContractResult → String
  | .bodyLengthMismatch => "E4 typed response length differs from the BB020003 contract"
  | .prefixMismatch => "E4 typed response is not a BB020003 validator record"
  | .validatorMismatch => "E4 live validator differs from the expected pairing state"
  | .digestMismatch => "E4 expected-validator digest contract failed"
  | .notEvaluated => "E4 typed response contract could not be evaluated"
  | .fits => contractFailed

/-- `validate_typed` for a control that is the phase's own; a refused response has the text the
session fails with. -/
def validateTyped (crypto : Primitives) (material : SecureMaterial) (phase : Phase)
    (body : List UInt8) : Except String Unit :=
  let check (accepted : Bool) : Except String Unit :=
    if accepted then .ok () else .error contractFailed
  match phase with
  | .reentryRecoveryA2 | .oemColdStartA21 | .oemColdStartA22 =>
    check (body.length = 3 && digestMatches crypto body material.a2ResponseSha256)
  | .a8 => check (body = material.expectedIdentity)
  | .e4 =>
    match checkE4Contract crypto body material.e4Validator material.e4ValidatorSha256 with
    | .fits => .ok ()
    | refused => .error (e4ContractFailureMessage refused)
  | .chip82 => check (body.length = 4 && digestMatches crypto body material.chip82ResponseSha256)
  | .otpA6 => check (body.length = 64 && digestMatches crypto body material.otpA6ResponseSha256)
  | .config90 => check (body = [1, 0])
  | _ => check false

end Goodix.SecureSession
