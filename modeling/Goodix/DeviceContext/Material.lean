import Goodix.Pairing.Activation
import Goodix.RuntimeCoordinator.Acquire

/-! # Runtime material of the device context

The part of `goodix_fpimage_device.c` that decides, once the live preflight is over,
where the material of the secure session comes from: the legacy owner acquired
before, the state-v2 store, or a pairing.
-/

namespace Goodix.DeviceContext

open Octets SelfState LivePreflight RuntimeCoordinator Pairing

/-- What the driver finds on its host and does not change: its cryptography, the policies and the
legacy files. -/
structure Host where
  crypto : Primitives
  policy : Policy
  legacyPath : PathEntry
  legacyOwnerUid : Nat
  legacyOwnerGid : Nat
  legacyMode : Nat
  legacyAcquire : LegacyAcquire

def Host.request (host : Host) (statePath : PathEntry) (live : Option LiveEvidence) : Request :=
  { statePath
    legacyPath := host.legacyPath
    policy := host.policy
    legacyOwnerUid := host.legacyOwnerUid
    legacyOwnerGid := host.legacyOwnerGid
    legacyMode := host.legacyMode
    live }

/-- The fields of the context about material.  A view that has been cleansed is `none`. -/
structure Material where
  livePreflight : Option Preflight
  runtimeMaterial : Option Coordinator
  pairingActivation : Option Activation
  secureView : Option SecureMaterial
  fdtSeed : Block 12
  audit : Audit

def fpDeviceError (code : Nat) (message : String) : GError := ⟨"fp-device-error", code, message⟩

/-- `FP_DEVICE_ERROR_PROTO` -/
def errorProto : Nat := 5

/-- `default_acquire_runtime_material_with_live` -/
def Material.acquire (material : Material) (host : Host) (statePath : PathEntry)
    (live : Option LiveEvidence) : Material × Except (Option GError) Unit :=
  let acquired := RuntimeCoordinator.acquire host.crypto (host.request statePath live)
    host.legacyAcquire true
  let material := { material with audit := acquired.audit.getD material.audit }
  match acquired.result with
  | .error error => (material, .error error)
  | .ok coordinator =>
    match coordinator.getSecureView, coordinator.getFdtSeed with
    | .ok view, .ok fdtSeed =>
      ({ material with
          runtimeMaterial := some coordinator
          secureView := some view
          fdtSeed }, .ok ())
    | .error error, _ | _, .error error =>
      ({ material with secureView := none, fdtSeed := Block.zero 12 }, .error (some error))

/-- The evidence as `production_live_preflight_acquire_state` passes it on. -/
def liveEvidence (evidence : Evidence) : LiveEvidence :=
  { vid := 0x27c6
    pid := 0x5125
    chipId := evidence.chipId
    app := some evidence.app
    a2Response := some evidence.a2Response.val
    chipResponse := some evidence.chipResponse.val
    otp := some evidence.otp.val
    liveValidator := some evidence.validator.val
    bb010002 := some evidence.bb010002.val
    tlsProven := false }

/-- `production_digest_matches` -/
def digestMatches (crypto : Primitives) (data : List UInt8) (expected : Digest) : Bool :=
  crypto.checksumSha256 data = expected

def noQualifiedOwner : GError :=
  fpDeviceError errorProto "read-only live preflight has no qualified legacy owner"

/-- `production_live_preflight_validate_legacy_target` -/
def Material.validateLegacyTarget (material : Material) (crypto : Primitives)
    (evidence : Evidence) : Except GError Unit :=
  match material.runtimeMaterial with
  | none => .error noQualifiedOwner
  | some coordinator =>
    if coordinator.source ≠ .legacy then .error noQualifiedOwner
    else
      match material.secureView with
      | none =>
        .error (fpDeviceError errorProto
          "generated CONFIG90 differs from the qualified legacy boundary")
      | some view =>
        if view.config90 ≠ evidence.config90.val then
          .error (fpDeviceError errorProto
            "generated CONFIG90 differs from the qualified legacy boundary")
        else if !digestMatches crypto evidence.a2Response.val view.a2ResponseSha256 ||
            !digestMatches crypto evidence.chipResponse.val view.chip82ResponseSha256 ||
            !digestMatches crypto evidence.otp.val view.otpA6ResponseSha256 then
          .error (fpDeviceError errorProto
            "read-only target evidence differs from the qualified legacy boundary")
        else .ok ()

/-- `production_live_preflight_legacy_validator_matches` -/
def Material.legacyValidatorMatches (material : Material) (evidence : Evidence) : Bool :=
  match material.secureView with
  | none => false
  | some view => view.e4Validator = evidence.validator.val

/-- `production_release_runtime_material` -/
def Material.releaseRuntimeMaterial (material : Material) : Material :=
  if material.runtimeMaterial.isNone then material
  else { material with runtimeMaterial := none, secureView := none, fdtSeed := Block.zero 12 }

/-- How `production_live_preflight_finish` goes on. -/
inductive Finish where
  | failed (error : Option GError)
  | startPairing (evidence : Evidence)
  | startSecureGraph

def noEvidence : GError := fpDeviceError errorProto "live preflight completed without evidence"

def notBound : GError :=
  fpDeviceError 6 "Chicago calibration is not bound to this reader's OTP"

/-- `production_live_preflight_finish` up to what it starts.  `bound` is what
`context_chicago_bind` says, where the driver is built with it. -/
def Material.finishLivePreflight (material : Material) (host : Host) (statePath : PathEntry)
    (bound : Bool) : Material × Finish :=
  match material.livePreflight.bind Preflight.copyEvidence with
  | none => (material, .failed (some noEvidence))
  | some evidence =>
    let closed (material : Material) : Material := { material with livePreflight := none }
    if !bound then (closed material, .failed (some notBound))
    else if material.runtimeMaterial.isSome then
      match material.validateLegacyTarget host.crypto evidence with
      | .error error => (closed material, .failed (some error))
      | .ok () =>
        if material.legacyValidatorMatches evidence then
          (closed
            { material with
              fdtSeed := Block.zero 12
              audit := { material.audit with zeroFdtSeed := true } }, .startSecureGraph)
        else (closed material.releaseRuntimeMaterial, .startPairing evidence)
    else
      match material.acquire host statePath (some (liveEvidence evidence)) with
      | (material, .ok ()) => (closed material, .startSecureGraph)
      | (material, .error error) =>
        if material.audit.stateLoadResult = .absent ||
            material.audit.decision = .externalReplacement then
          (closed material, .startPairing evidence)
        else (closed material, .failed error)

def ownershipNotClean : GError :=
  fpDeviceError errorProto "pairing activation ownership is not clean"

/-- `production_start_pairing_activation` up to the first request. -/
def Material.startPairing (material : Material) (host : Host) (generated : Option Psk)
    (fault : Option Fault) (statePath : PathEntry) (evidence : Evidence) :
    Material × Except GError Unit × PathEntry :=
  if material.runtimeMaterial.isSome || material.pairingActivation.isSome then
    (material, .error ownershipNotClean, statePath)
  else
    match activationNew host.crypto host.policy generated fault statePath evidence with
    | (.error error, statePath) => (material, .error error, statePath)
    | (.ok activation, statePath) =>
      ({ material with
          pairingActivation := some activation
          audit := { material.audit with
            writerEnabled := true
            source := .stateV2
            decision := .stateV2PairingActivation } }, .ok (), statePath)

end Goodix.DeviceContext
