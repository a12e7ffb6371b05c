import Goodix.LivePreflight.Evidence
import Goodix.SecureMaterial
import Goodix.SelfState.Store

/-! # Acquiring runtime material

`goodix_runtime_coordinator.c`: from the state-v2 store or, while that is still
empty, from the legacy files.  Live evidence is what a caller has collected; any of
its parts may be missing.
-/

namespace Goodix.RuntimeCoordinator

open Octets SelfState LivePreflight

inductive Source where
  | none
  | legacy
  | stateV2
  deriving DecidableEq, Repr

inductive Decision where
  | none
  | readyLegacy
  | readyActive
  | readyRetryTls
  | needsLivePreflight
  | needsInitialization
  | promotionRequired
  | usePriorRequired
  | externalReplacement
  | recoveryRequired
  | failClosed
  | stateV2PairingActivation
  deriving DecidableEq, Repr

/-- `GoodixRuntimeCoordinatorLiveEvidence`; a `NULL` pointer is `none`. -/
structure LiveEvidence where
  vid : UInt16
  pid : UInt16
  chipId : UInt16
  app : Option CString
  a2Response : Option (List UInt8)
  chipResponse : Option (List UInt8)
  otp : Option (List UInt8)
  liveValidator : Option (List UInt8)
  bb010002 : Option (List UInt8)
  tlsProven : Bool

structure Audit where
  source : Source
  decision : Decision
  stateLoadResult : LoadResult
  reconciliation : Reconcile
  statePresent : Bool
  legacyPresent : Bool
  coexistenceObserved : Bool
  stateLoadAttempted : Bool
  legacyLoadAttempted : Bool
  writerEnabled : Bool
  pairingWriteCount : Nat
  zeroFdtSeed : Bool
  deriving DecidableEq, Repr

/-- The audit as `goodix_runtime_coordinator_acquire` resets it. -/
def Audit.reset : Audit :=
  { source := .none
    decision := .none
    stateLoadResult := .absent
    reconciliation := .activeMatch
    statePresent := false
    legacyPresent := false
    coexistenceObserved := false
    stateLoadAttempted := false
    legacyLoadAttempted := false
    writerEnabled := false
    pairingWriteCount := 0
    zeroFdtSeed := false }

/-- The state a coordinator owns and the policy to promote it under. -/
structure StateOwner where
  state : State
  policy : Policy
  deriving DecidableEq

structure Coordinator where
  source : Source
  owner : Option StateOwner
  secureView : SecureMaterial
  fdtSeed : Block 12
  decision : Decision
  deriving DecidableEq

def Decision.code : Decision → Nat
  | .none => 0
  | .readyLegacy => 1
  | .readyActive => 2
  | .readyRetryTls => 3
  | .needsLivePreflight => 4
  | .needsInitialization => 5
  | .promotionRequired => 6
  | .usePriorRequired => 7
  | .externalReplacement => 8
  | .recoveryRequired => 9
  | .failClosed => 10
  | .stateV2PairingActivation => 11

def coordinatorError (code : Nat) (message : String) : GError :=
  ⟨"goodix-runtime-coordinator-error", code, message⟩

/-- The error of `set_decision_error`. -/
def decisionError (decision : Decision) (message : String) : GError :=
  coordinatorError decision.code message

/-! ## Directories -/

inductive PathState where
  | absent
  | directory
  | invalid
  deriving DecidableEq, Repr

/-- `inspect_directory` -/
def inspectDirectory (path : PathEntry) (ownerUid ownerGid mode : Nat) : PathState :=
  match path with
  | .absent => .absent
  | .inaccessible _ => .invalid
  | .directory node =>
    if node.uid = ownerUid && node.gid = ownerGid && node.mode = mode then .directory
    else .invalid

/-- What is asked for: the two directories, the policies, and the evidence if there is some. -/
structure Request where
  statePath : PathEntry
  legacyPath : PathEntry
  policy : Policy
  legacyOwnerUid : Nat
  legacyOwnerGid : Nat
  legacyMode : Nat
  live : Option LiveEvidence

def Request.stateEntry (request : Request) : PathState :=
  inspectDirectory request.statePath request.policy.ownerUid request.policy.ownerGid
    request.policy.directoryMode

def Request.legacyEntry (request : Request) : PathState :=
  inspectDirectory request.legacyPath request.legacyOwnerUid request.legacyOwnerGid
    request.legacyMode

/-! ## Evidence -/

/-- Evidence that `live_evidence_valid` accepts, with its lengths. -/
structure CheckedEvidence where
  chipId : UInt16
  app : CString
  a2Response : List UInt8
  chipResponse : List UInt8
  otp : Config90.Otp
  liveValidator : Validator
  bb010002 : Option (List UInt8)
  tlsProven : Bool

/-- `live_evidence_valid` -/
def LiveEvidence.check (live : LiveEvidence) : Option CheckedEvidence := do
  guard (live.vid = 0x27c6 ∧ live.pid = 0x5125 ∧ live.chipId ≠ 0)
  let app ← live.app
  guard (app = app12509 ∨ app = app12508)
  let a2Response ← live.a2Response
  guard (0 < a2Response.length)
  let chipResponse ← live.chipResponse
  guard (0 < chipResponse.length)
  let otp ← live.otp.bind (Block.ofList? 64)
  let liveValidator ← live.liveValidator.bind (Block.ofList? 32)
  pure
    { chipId := live.chipId
      app
      a2Response
      chipResponse
      otp
      liveValidator
      bb010002 := live.bb010002
      tlsProven := live.tlsProven }

/-- What `acquire_state` derives before it loads the store. -/
structure Derived where
  config90 : Config90.Config
  calibration : Config90.Calibration
  config90Sha256 : Digest
  binding : Binding

/-- The derivations in front of the load; a failing digest leaves no error of its own. -/
def derive (crypto : Primitives) (live : CheckedEvidence) : Except (Option GError) Derived :=
  match Config90.derive live.chipId live.otp with
  | .error error => .error (some error)
  | .ok (config90, calibration) =>
    match crypto.sha256 live.otp.val, crypto.sha256 config90.val with
    | some otpSha256, some config90Sha256 =>
      .ok
        { config90
          calibration
          config90Sha256
          binding :=
            { vid := 0x27c6
              pid := 0x5125
              chipProfile := live.chipId
              app := strlcpy live.app appMax
              otpSha256
              config90Sha256 } }
    | _, _ => .error none

/-- `record_bb010002_matches` -/
def recordBb010002Matches (crypto : Primitives) (record : Record) (bb010002 : Option (List UInt8)) :
    Bool :=
  if !record.bb010002Sha256Present then true
  else
    match bb010002 with
    | none => false
    | some octets =>
      if octets.length = 0 then false
      else
        match crypto.sha256 octets with
        | none => false
        | some digest => digest = record.bb010002Sha256

/-! ## The state-v2 source -/

/-- The decision on a state that was loaded, or why it is not used. -/
def reconciled (crypto : Primitives) (state : State) (live : CheckedEvidence) :
    Except (Decision × String) Decision :=
  match reconcile state live.liveValidator live.tlsProven with
  | .activeMatch =>
    if recordBb010002Matches crypto state.record live.bb010002 then .ok .readyActive
    else .error (.failClosed, "live BB010002 differs from the journaled pairing transaction")
  | .retryTls =>
    if recordBb010002Matches crypto state.record live.bb010002 then .ok .readyRetryTls
    else .error (.recoveryRequired, "prepared state BB010002 proof differs from live readback")
  | .promoteActive =>
    .error (.promotionRequired, "state-v2 requires a later host-only promotion")
  | .usePrior => .error (.usePriorRequired, "state-v2 requires the preserved prior generation")
  | .externalReplacement =>
    .error (.externalReplacement, "live pairing validator was replaced externally")
  | .recoveryRequired =>
    .error (.recoveryRequired, "state-v2 reconciliation requires explicit recovery")

/-- The secure view of a state, which takes its validator and target evidence from the reader. -/
def stateView (crypto : Primitives) (state : State) (live : CheckedEvidence) (derived : Derived) :
    Option SecureMaterial := do
  let e4ValidatorSha256 ← crypto.sha256 live.liveValidator.val
  let a2ResponseSha256 ← crypto.sha256 live.a2Response
  let chip82ResponseSha256 ← crypto.sha256 live.chipResponse
  let otpA6ResponseSha256 ← crypto.sha256 live.otp.val
  pure
    { expectedIdentity := if live.app = app12508 then app12508Identity else app12509Identity
      e4Validator := live.liveValidator.val
      e4ValidatorSha256
      a2ResponseSha256
      chip82ResponseSha256
      otpA6ResponseSha256
      dacValues := derived.calibration.dacRegisters
      config90 := derived.config90.val
      config90Sha256 := derived.config90Sha256
      psk := state.psk.val }

/-- What an attempt on the state-v2 store gave; `load` is the result of `goodix_self_state_load`
if it was called. -/
structure StateAttempt where
  result : Except GError Coordinator
  audit : Option Audit
  load : Option Load

/-- The end of an attempt that uses no state. -/
def refuse (audit : Option Audit) (load : Option Load) (decision : Decision) (message : String)
    (error : Option GError) : StateAttempt :=
  { result := .error (error.getD (decisionError decision message))
    audit := audit.map fun audit => { audit with decision }
    load }

def loadMessage (load : Load) : String :=
  if load.result = .bindingMismatch then "state-v2 binding does not match live evidence"
  else "state-v2 is incomplete or unavailable"

/-- `acquire_state` once a state was loaded. -/
def acquireLoaded (crypto : Primitives) (policy : Policy) (live : CheckedEvidence)
    (derived : Derived) (state : State) (audit : Option Audit) : StateAttempt :=
  let load := some (Load.valid state)
  let audit := audit.map fun audit =>
    { audit with reconciliation := reconcile state live.liveValidator live.tlsProven }
  match reconciled crypto state live with
  | .error (decision, message) => refuse audit load decision message none
  | .ok decision =>
    let audit := audit.map fun audit => { audit with decision }
    match stateView crypto state live derived with
    | none => refuse audit load .failClosed "state-v2 material derivation failed closed" none
    | some secureView =>
      { result := .ok
          { source := .stateV2
            owner := some { state, policy }
            secureView
            fdtSeed := if state.record.fdtPresent then state.record.fdtTable else Block.zero 12
            decision }
        audit := audit.map fun audit =>
          { audit with
            source := .stateV2
            zeroFdtSeed := audit.zeroFdtSeed || !state.record.fdtPresent }
        load }

/-- `acquire_state` -/
def acquireState (crypto : Primitives) (policy : Policy) (path : PathEntry) (live : LiveEvidence)
    (audit : Option Audit) : StateAttempt :=
  let audit := audit.map fun audit => { audit with stateLoadAttempted := true }
  match live.check with
  | none => refuse audit none .failClosed "state-v2 live evidence is incomplete" none
  | some live =>
    match derive crypto live with
    | .error error =>
      refuse audit none .failClosed "state-v2 material derivation failed closed" error
    | .ok derived =>
      let load := SelfState.load crypto path derived.binding policy
      let audit := audit.map fun audit => { audit with stateLoadResult := load.result }
      match load with
      | .valid state => acquireLoaded crypto policy live derived state audit
      | .incomplete error => refuse audit (some load) .failClosed (loadMessage load) error
      | .absent | .bindingMismatch =>
        refuse audit (some load) .failClosed (loadMessage load) none

/-! ## Acquiring -/

/-- What the legacy acquire function hands out. -/
structure LegacyMaterial where
  secureView : SecureMaterial
  fdtSeed : Block 12

/-- An acquire function reports a failure or success; on success it may still leave no owner. -/
abbrev LegacyAcquire := Except GError (Option LegacyMaterial)

/-- What a call returned and wrote, and which of its two sources it asked: the result of the store
load, if the store was loaded, and whether the legacy acquire function was called. -/
structure Acquired where
  result : Except (Option GError) Coordinator
  audit : Option Audit
  load : Option Load
  legacyCalled : Bool

/-- The legacy half of `goodix_runtime_coordinator_acquire`. -/
def acquireLegacy (legacyAcquire : LegacyAcquire) (audit : Option Audit) (load : Option Load) :
    Acquired :=
  let audit := audit.map fun audit => { audit with legacyLoadAttempted := true }
  let failed (error : Option GError) : Acquired :=
    { result := .error error
      audit := audit.map fun audit => { audit with decision := .failClosed }
      load
      legacyCalled := true }
  match legacyAcquire with
  | .error error => failed (some error)
  | .ok none => failed none
  | .ok (some material) =>
    { result := .ok
        { source := .legacy
          owner := none
          secureView := material.secureView
          fdtSeed := material.fdtSeed
          decision := .none }
      audit := audit.map fun audit => { audit with source := .legacy, decision := .readyLegacy }
      load
      legacyCalled := true }

/-- The end of `goodix_runtime_coordinator_acquire`: the legacy files if they are there, else a
report of what is missing. -/
def acquireFallback (request : Request) (legacyAcquire : LegacyAcquire) (audit : Option Audit)
    (load : Option Load) : Acquired :=
  let missing (decision : Decision) (message : String) : Acquired :=
    { result := .error (some (decisionError decision message))
      audit := audit.map fun audit => { audit with decision }
      load
      legacyCalled := false }
  if request.legacyEntry = .directory then acquireLegacy legacyAcquire audit load
  else if request.stateEntry = .directory then
    missing .needsLivePreflight "state-v2 requires the bounded read-only live preflight"
  else missing .needsInitialization "reader runtime state is not initialized"

/-- `goodix_runtime_coordinator_acquire`; `audited` says whether the caller passed an audit. -/
def acquire (crypto : Primitives) (request : Request) (legacyAcquire : LegacyAcquire)
    (audited : Bool) : Acquired :=
  let audit := if audited then some Audit.reset else none
  let stateEntry := request.stateEntry
  let legacyEntry := request.legacyEntry
  if stateEntry = .invalid || legacyEntry = .invalid then
    { result := .error
        (some (decisionError .failClosed "runtime coordinator directory policy mismatch"))
      audit := audit.map fun audit => { audit with decision := .failClosed }
      load := none
      legacyCalled := false }
  else
    let audit := audit.map fun audit =>
      { audit with
        statePresent := stateEntry = .directory
        legacyPresent := legacyEntry = .directory
        coexistenceObserved := stateEntry = .directory && legacyEntry = .directory }
    match request.live, stateEntry with
    | some live, .directory =>
      let attempt := acquireState crypto request.policy request.statePath live audit
      match attempt.result, attempt.audit with
      | .ok coordinator, audit =>
        { result := .ok coordinator, audit, load := attempt.load, legacyCalled := false }
      | .error error, none =>
        { result := .error (some error), audit := none, load := attempt.load,
          legacyCalled := false }
      | .error error, some audit =>
        -- a store that was found absent leaves the legacy files as the source
        if audit.stateLoadResult ≠ .absent || legacyEntry ≠ .directory then
          { result := .error (some error), audit := some audit, load := attempt.load,
            legacyCalled := false }
        else
          acquireFallback request legacyAcquire (some { audit with decision := .none })
            attempt.load
    | _, _ => acquireFallback request legacyAcquire audit none

/-- `goodix_runtime_coordinator_get_secure_view` -/
def Coordinator.getSecureView (coordinator : Coordinator) : Except GError SecureMaterial :=
  if coordinator.source = .none then
    .error (coordinatorError einval "runtime coordinator secure view is unavailable")
  else .ok coordinator.secureView

/-- `goodix_runtime_coordinator_get_fdt_seed` -/
def Coordinator.getFdtSeed (coordinator : Coordinator) : Except GError (Block 12) :=
  if coordinator.source = .none then
    .error (coordinatorError einval "runtime coordinator FDT seed is unavailable")
  else .ok coordinator.fdtSeed

def notAwaitingPromotion : GError :=
  coordinatorError einval "runtime state is not awaiting TLS promotion"

/-- `goodix_runtime_coordinator_promote_after_tls` -/
def Coordinator.promoteAfterTls (coordinator : Coordinator) (crypto : Primitives)
    (fault : Option Fault) (path : PathEntry) :
    Coordinator × Except GError Unit × PathEntry :=
  match coordinator.owner with
  | none => (coordinator, .error notAwaitingPromotion, path)
  | some owner =>
    if coordinator.source ≠ .stateV2 || coordinator.decision ≠ .readyRetryTls then
      (coordinator, .error notAwaitingPromotion, path)
    else
      match promoteActive crypto owner.policy fault path owner.state with
      | (.error error, path) => (coordinator, .error error, path)
      | (.ok (), path) => ({ coordinator with decision := .readyActive }, .ok (), path)

end Goodix.RuntimeCoordinator
