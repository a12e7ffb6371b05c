import Goodix.TargetMaterial.Manifest
import Goodix.ActionBinding
import Goodix.SecureSession.Contract

/-! # Loading the target material

`goodix_target_material.c`: three protected files and two seeds become the material a secure
session is started with.
-/

namespace Goodix.TargetMaterial

open Octets SecureSession ActionBinding

def errorArgument : Nat := 0
def errorOpen : Nat := 1
def errorMetadata : Nat := 2
def errorRead : Nat := 3
def errorContent : Nat := 4
def errorBinding : Nat := 5
def errorState : Nat := 6

def targetError (code : Nat) (message : String) : GError :=
  ⟨"goodix-target-material-error", code, message⟩

/-- `goodix_target_material_error_class` -/
def errorClass (error : GError) : String :=
  if error.domain ≠ "goodix-target-material-error" then "ARGUMENT_OR_POLICY"
  else if error.code = errorOpen then "PROTECTED_OPEN"
  else if error.code = errorMetadata then "PROTECTED_METADATA"
  else if error.code = errorRead then "PROTECTED_READ"
  else if error.code = errorContent then "PROTECTED_CONTENT"
  else if error.code = errorBinding then "E4_BINDING"
  else if error.code = errorState then "MATERIAL_EXPORT_OR_STATE"
  else "ARGUMENT_OR_POLICY"

/-- `GoodixTargetMaterialPolicy` -/
structure Policy where
  ownerUid : Nat
  ownerGid : Nat
  mode : Nat
  manifestLength : Nat
  transportLength : Nat
  config90Length : Nat
  manifestSha256 : Digest
  transportSha256 : Digest
  config90Sha256 : Digest
  config90Finalizer : Block 2
  e4ValidatorSha256 : Digest
  a2ResponseSha256 : Digest
  chip82ResponseSha256 : Digest
  otpA6ResponseSha256 : Digest
  fdtCacheSha256 : Digest
  dacRegisters : List UInt16
  dacValues : Fin 4 → UInt16
  dacOffsets : List Nat

/-- `goodix_target_material_policy_production` -/
def production : Policy where
  ownerUid := 0
  ownerGid := 0
  mode := 0o600
  manifestLength := 0
  transportLength := 88
  config90Length := 224
  manifestSha256 := Block.zero 32
  transportSha256 := Block.zero 32
  config90Sha256 := Block.zero 32
  config90Finalizer := Block.zero 2
  e4ValidatorSha256 := Block.zero 32
  a2ResponseSha256 := Block.zero 32
  chip82ResponseSha256 := Block.zero 32
  otpA6ResponseSha256 := Block.zero 32
  fdtCacheSha256 := Block.zero 32
  dacRegisters := [0x0220, 0x0236, 0x0238, 0x023a]
  dacValues := fun _ => 0
  dacOffsets := [117, 121, 125, 129]

/-- `policy_shape_valid` -/
def policyShapeValid (policy : Policy) : Bool :=
  policy.mode = 0o600 && policy.manifestLength ≤ 4096 && policy.transportLength = 88 &&
    policy.config90Length = 224 && policy.dacRegisters = [0x0220, 0x0236, 0x0238, 0x023a] &&
    policy.dacOffsets = [117, 121, 125, 129]

/-! ## Protected files -/

/-- What `fstat` reports. -/
structure Stat where
  isRegular : Bool
  uid : Nat
  gid : Nat
  permissions : Nat
  size : Nat
  dev : Nat
  ino : Nat
  deriving DecidableEq

inductive ReadResult where
  | interrupted
  | failed
  /-- Up to so many octets. -/
  | count (octets : Nat)

/-- A file that is opened and read: the octets the reads deliver, one after the other, and what
`fstat` reports before and behind them. -/
structure ProtectedFile where
  before : Option Stat
  content : List UInt8
  reads : List ReadResult
  after : Option Stat

/-- `metadata_valid` -/
def metadataValid (status : Stat) (policy : Policy) (expectedLength : Nat) : Bool :=
  status.isRegular && status.uid = policy.ownerUid && status.gid = policy.ownerGid &&
    status.permissions = policy.mode && 0 < status.size &&
    (if expectedLength = 0 then status.size ≤ 4096 else status.size = expectedLength)

/-- The loop of `read_exact_protected`: whether it reads the expected length. -/
def readLoop (available expectedLength : Nat) : List ReadResult → Nat → Bool
  | [], offset => expectedLength ≤ offset
  | result :: rest, offset =>
    if expectedLength ≤ offset then true
    else
      match result with
      | .interrupted => readLoop available expectedLength rest offset
      | .failed => false
      | .count octets =>
        let count := min octets (min (expectedLength - offset) (available - offset))
        if count = 0 then false else readLoop available expectedLength rest (offset + count)

/-- What a file of its own length is expected to have. -/
def ProtectedFile.length (file : ProtectedFile) (expectedLength : Nat) : Nat :=
  if expectedLength = 0 then (file.before.map Stat.size).getD 0 else expectedLength

/-- The octets of a file that are read into the buffer. -/
def ProtectedFile.buffer (file : ProtectedFile) (expectedLength : Nat) : List UInt8 :=
  file.content.take (file.length expectedLength)

/-- `read_exact_protected`; opening a file gives it, or the text of an error. -/
def readExactProtected (policy : Policy) (expectedLength : Nat) :
    Except String ProtectedFile → Except GError (List UInt8)
  | .error reason => .error (targetError errorOpen ("protected open failed: " ++ reason))
  | .ok file =>
    match file.before with
    | none => .error (targetError errorMetadata "protected file type/uid/gid/mode/size mismatch")
    | some before =>
      if !metadataValid before policy expectedLength then
        .error (targetError errorMetadata "protected file type/uid/gid/mode/size mismatch")
      else if !readLoop file.content.length (file.length expectedLength) file.reads 0 then
        .error (targetError errorRead "protected file short/error read")
      else
        match file.after with
        | none => .error (targetError errorMetadata "protected file changed during read")
        | some after =>
          if before.dev ≠ after.dev || before.ino ≠ after.ino || before.size ≠ after.size ||
              !metadataValid after policy (file.length expectedLength) then
            .error (targetError errorMetadata "protected file changed during read")
          else .ok (file.buffer expectedLength)

/-! ## The material -/

/-- `GoodixTargetMaterial` -/
structure Material where
  policy : Policy
  expectedIdentity : List UInt8
  psk : Psk
  transportValidator : Validator
  config90 : List UInt8
  validator : Option Validator
  bound : Bool

/-- The policy with the digests of the manifest: `hash_outputs`. -/
def Policy.withHashes (policy : Policy) (hashes : Fin 6 → Digest) : Policy :=
  { policy with
    transportSha256 := hashes 0, config90Sha256 := hashes 1, fdtCacheSha256 := hashes 2,
    a2ResponseSha256 := hashes 3, chip82ResponseSha256 := hashes 4,
    otpA6ResponseSha256 := hashes 5 }

/-- The policy and the identity the manifest leads to. -/
def acceptManifest (crypto : Primitives) (policy : Policy) (manifest : List UInt8) :
    Option (Policy × List UInt8) :=
  if policy.manifestLength ≠ 0 then
    if crypto.checksumSha256 manifest = policy.manifestSha256 then
      some (policy, LivePreflight.app12509Identity)
    else none
  else
    (parseManifest manifest).map fun parsed =>
      (policy.withHashes parsed.hashes, parsed.expectedIdentity)

/-- The 24 octets at the head of the transport material. -/
def transportHeader : List UInt8 :=
  [0x47, 0x35, 0x31, 0x32, 0x35, 0x50, 0x4f, 0x43, 1, 0, 24, 0, 0xc6, 0x27, 0x25, 0x51, 1, 0, 32, 0,
    32, 0, 0, 0]

/-- `config_finalizer_valid` -/
def configFinalizerValid (config : List UInt8) (policy : Policy) : Bool :=
  let word (index : Nat) : UInt32 :=
    (config.getD (2 * index) 0).toUInt32 ||| (config.getD (2 * index + 1) 0).toUInt32 <<< 8
  let sum := (List.range 111).foldl (fun sum index => sum + word index) 0
  let expected := (0 - 0xa5a5 - sum).toUInt16
  let actual := (config.getD 222 0).toUInt16 ||| (config.getD 223 0).toUInt16 <<< 8
  actual = expected &&
    (policy.config90Finalizer.val = [0, 0] ||
      (config.drop 222).take 2 = policy.config90Finalizer.val)

/-- `config_correlations_valid`, for one of the registers. -/
def correlationValid (config : List UInt8) (policy : Policy) (index : Fin 4) : Bool :=
  let offset := policy.dacOffsets.getD index.val 0
  let register := policy.dacRegisters.getD index.val 0
  offset ≤ 224 - 4 && config.getD offset 0 = register.toUInt8 &&
    config.getD (offset + 1) 0 = (register >>> 8).toUInt8 &&
    (config.drop (offset + 2)).take 2 = putU16Le (policy.dacValues index)

def configCorrelationsValid (config : List UInt8) (policy : Policy) : Bool :=
  (List.finRange 4).all (correlationValid config policy)

/-- The DAC values of the configuration. -/
def Policy.withDacValues (policy : Policy) (config : List UInt8) : Policy :=
  { policy with
    dacValues := fun index =>
      getU16Le ((config.drop (policy.dacOffsets.getD index.val 0 + 2)).take 2) }

structure Files where
  manifest : Except String ProtectedFile
  transport : Except String ProtectedFile
  config90 : Except String ProtectedFile

def contentError (message : String) : Except GError Material :=
  .error (targetError errorContent message)

/-- `goodix_target_material_load` -/
def load (crypto : Primitives) (policy : Policy) (files : Files) : Except GError Material :=
  if !policyShapeValid policy then
    .error (targetError errorArgument "target material path or policy is invalid")
  else
    match readExactProtected policy policy.manifestLength files.manifest with
    | .error error => .error error
    | .ok manifest =>
      match acceptManifest crypto policy manifest with
      | none => contentError "target manifest schema or field rejected"
      | some (accepted, identity) =>
        match readExactProtected policy policy.transportLength files.transport with
        | .error error => .error error
        | .ok transport =>
          if transport.take 24 ≠ transportHeader then
            contentError "transport material magic mismatch"
          else if crypto.checksumSha256 transport ≠ accepted.transportSha256 then
            contentError "transport material SHA-256 mismatch"
          else
            match Block.ofList? 32 ((transport.drop 24).take 32),
                Block.ofList? 32 ((transport.drop 56).take 32) with
            | some psk, some transportValidator =>
              match readExactProtected policy policy.config90Length files.config90 with
              | .error error => .error error
              | .ok config =>
                if crypto.checksumSha256 config ≠ accepted.config90Sha256 then
                  contentError "CONFIG90 SHA-256 mismatch"
                else if !configFinalizerValid config policy then
                  contentError "CONFIG90 finalizer mismatch"
                else
                  let accepted :=
                    if policy.manifestLength = 0 then accepted.withDacValues config else accepted
                  if !configCorrelationsValid config accepted then
                    contentError "CONFIG90 DAC correlation mismatch"
                  else
                    .ok ⟨accepted, identity, psk, transportValidator, config, none, false⟩
            -- 88 octets have both
            | _, _ => contentError "transport material magic mismatch"

def bindingError : Except GError Material :=
  .error (targetError errorBinding "derived E4 validator digest failed")

/-- `goodix_target_material_bind` -/
def Material.bind (crypto : Primitives) (ecb : ZeroKeyEcb) (material : Material)
    (seedA seedB : Seed) : Except GError Material :=
  if material.bound then
    .error (targetError errorState "target material cannot be bound in current state")
  else
    match bindValidator crypto ecb material.psk seedA seedB with
    | .error error => .error error
    | .ok validator =>
      let actual := crypto.checksumSha256 validator.val
      if validator ≠ material.transportValidator ||
          (material.policy.e4ValidatorSha256.val.getD 0 0 ≠ 0 &&
            actual ≠ material.policy.e4ValidatorSha256) then
        bindingError
      else
        .ok { material with
          policy := { material.policy with e4ValidatorSha256 := actual },
          validator := some validator, transportValidator := Block.zero 32, bound := true }

/-- `goodix_target_material_get_secure_session_material` -/
def Material.getSecureSessionMaterial (material : Material) : Except GError SecureMaterial :=
  match material.validator with
  | none => .error (targetError errorState "target material is not completely bound")
  | some validator =>
    if !material.bound || material.expectedIdentity.length = 0 then
      .error (targetError errorState "target material is not completely bound")
    else
      .ok {
        expectedIdentity := material.expectedIdentity
        e4Validator := validator.val
        e4ValidatorSha256 := material.policy.e4ValidatorSha256
        a2ResponseSha256 := material.policy.a2ResponseSha256
        chip82ResponseSha256 := material.policy.chip82ResponseSha256
        otpA6ResponseSha256 := material.policy.otpA6ResponseSha256
        dacValues := material.policy.dacValues
        config90 := material.config90
        config90Sha256 := material.policy.config90Sha256
        psk := material.psk.val }

end Goodix.TargetMaterial
