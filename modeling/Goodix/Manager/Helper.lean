import Mathlib.Data.List.Infix
import Goodix.Deployment.Receipt

/-! # The helper of the Manager

`helper.py`: what an inspection of the runtime finds, and how an operation is executed between two
inspections.  What is read of the host is given with each inspection, and what the backend does
with each call.
-/

namespace Goodix.Manager.Helper

open Decimals Values

/-! ## Codes and errors -/

/-- `CODES` -/
inductive Code where
  | ready
  | notInstalled
  | legacyUnqualified
  | legacyUpgradeAvailable
  | versionUnknown
  | upToDate
  | updateAvailable
  | downgradeBlocked
  | integrityFailed
  | authorizationRequired
  | invalidRequest
  | busy
  | operationFailed
  | rollbackComplete
  | installed
  | removed
  | runtimeChanged
  | missingDependencies
  | sourceMismatch
  deriving DecidableEq, Repr

def Code.text : Code → String
  | .ready => "ready"
  | .notInstalled => "not_installed"
  | .legacyUnqualified => "legacy_unqualified"
  | .legacyUpgradeAvailable => "legacy_upgrade_available"
  | .versionUnknown => "version_unknown"
  | .upToDate => "up_to_date"
  | .updateAvailable => "update_available"
  | .downgradeBlocked => "downgrade_blocked"
  | .integrityFailed => "integrity_failed"
  | .authorizationRequired => "authorization_required"
  | .invalidRequest => "invalid_request"
  | .busy => "busy"
  | .operationFailed => "operation_failed"
  | .rollbackComplete => "rollback_complete"
  | .installed => "installed"
  | .removed => "removed"
  | .runtimeChanged => "runtime_changed"
  | .missingDependencies => "missing_dependencies"
  | .sourceMismatch => "source_mismatch"

/-- What can be raised. -/
inductive Raised where
  /-- `Blocked` -/
  | blocked (code : Code)
  /-- Any other `Exception`. -/
  | failed (message : Text)
  /-- `KeyboardInterrupt` -/
  | interrupted (message : Text)
  /-- Neither of them, such as `SystemExit`. -/
  | exits

/-- `str(error)` -/
def Raised.message : Raised → Text
  | .blocked code => text code.text
  | .failed message | .interrupted message => message
  | .exits => []

/-- `isinstance(error, Exception)` -/
def Raised.isException : Raised → Bool
  | .blocked _ | .failed _ => true
  | _ => false

/-- `isinstance(error, (Exception, KeyboardInterrupt))` -/
def Raised.isCaught : Raised → Bool
  | .exits => false
  | _ => true

/-- `require` -/
def demand (condition : Prop) [Decidable condition] (code : Code) : Except Raised Unit :=
  if condition then .ok () else .error (.blocked code)

/-! ## Responses -/

inductive State where
  | absent
  | installed
  | legacy
  | blocked
  deriving DecidableEq

inductive Result where
  | success
  | blocked
  | failed
  | rolledBack
  deriving DecidableEq

/-- What the package says of itself. -/
structure Metadata where
  version : Value
  release : Value
  fedora : Value
  sourceId : Value

structure Response where
  state : State
  runtimeVersion : Value
  payloadVersion : Value
  /-- The parts of the version of the package. -/
  packageVersion : Value × Value × Value
  sensorPresent : Option Bool
  messageCode : Code
  rebootRequired : Bool
  enrollmentRequired : Bool
  result : Result

/-- `response` -/
def response (metadata : Metadata) : Response where
  state := .blocked
  runtimeVersion := .null
  payloadVersion := metadata.version
  packageVersion := (metadata.version, metadata.release, metadata.fedora)
  sensorPresent := none
  messageCode := .integrityFailed
  rebootRequired := false
  enrollmentRequired := false
  result := .blocked

/-! ## Inspection -/

/-- `HISTORICAL`: the version and the matcher of each source inventory. -/
def historical : List (Text × Text × Text) :=
  [(text "5495a408358ecde77c882bc6ada1dc4018077e44375524ed2a46730ab61272cd",
      text "2.0.0", text "sigfm"),
    (text "3dd3fbaa7e5f5cc2599476110b4b3bc1506e3c24efcb76b2a724857544d8cc46",
      text "2.1.0", text "sigfm"),
    (text "929983b0adf8b07e4b68e872a1de1b99193ee534a1960bf20d880af4a9a06760",
      text "2.1.1", text "sigfm"),
    (text "e67de418620282d54de2ecbd56eb7c74ffd3deec27176cad629e0c55a67e9e18",
      text "2.2.1", text "sigfm"),
    (text "bdc3729d6467636d06045190f08e3eb3852dcc84181e080f9182984c3f0cc5a4",
      text "3.0.0", text "chicago-type24")]

/-- `CHICAGO_300_EQUIVALENT` -/
def equivalent300 : List Text :=
  [text "bdc3729d6467636d06045190f08e3eb3852dcc84181e080f9182984c3f0cc5a4",
    text "f259f6f10a60e5facc5a8404f951bce3eb18da2aaefebc8c9a167e4540938d97"]

def sigfm : Text := text "sigfm"
def chicago : Text := text "chicago-type24"
def version300 : Text := text "3.0.0"

/-- What an inspection comes to read, and which of it fails. -/
structure Sight where
  /-- Entering `status_lock`. -/
  lock : Except Raised Unit
  /-- Any of `software_paths` is present. -/
  software : Bool
  /-- `normal_preflight` -/
  preflight : Except Raised Unit
  /-- The directory of the runtime is present. -/
  runtime : Bool
  /-- `installation.json` -/
  receipt : Except Raised Value
  /-- `build-provenance.json` -/
  provenance : Except Raised Value
  /-- The digest of `source-files.sha256`. -/
  sources : Except Raised Text

/-- `version`, with the limit of `int` -/
def version : Value → Except Raised (List Nat)
  | .string words =>
    if isVersion words = false then .error (.blocked .versionUnknown)
    else if (words.splitOn stop).any fun part => 4300 < part.length then
      .error (.failed (text "Exceeds the limit (4300 digits) for integer string conversion"))
    else .ok (components words)
  | _ => .error (.blocked .versionUnknown)

/-- A version that a record has must be one. -/
def checkVersion (record : Value) : Except Raised Unit :=
  match record.field? "version" with
  | some recorded => do
    let _ ← version recorded
    pure ()
  | none => pure ()

/-- `'field' not in record or record['field'] == value` -/
def agrees (field : String) (record value : Value) : Bool :=
  match record.field? field with
  | some recorded => recorded.equals value
  | none => true

/-- `receipt_identity`, whose failure is a `RuntimeError` -/
def identify (receipt : Value) : Except Raised Text :=
  match Deployment.receiptIdentity receipt with
  | .ok identity => .ok identity
  | .error message => .error (.failed (text message))

/-- The version of the runtime, as far as the receipt, the provenance and the registry say it. -/
def runtimeVersion (sight : Sight) (metadata : Metadata) (receipt provenance matcher : Value)
    (identity : Text) : Except Raised Value := do
  demand ((provenance.get "source_id").equals (receipt.get "source_id")) .integrityFailed
  demand (agrees "matcher" provenance matcher) .integrityFailed
  let known := historical.lookup identity
  match known with
  | some (_, knownMatcher) => do
    demand ((Value.string knownMatcher).equals matcher) .integrityFailed
    let digest ← sight.sources
    demand (digest = identity) .integrityFailed
  | none => pure ()
  checkVersion receipt
  checkVersion provenance
  let recorded := (receipt.field? "version").getD (provenance.get "version")
  match known with
  | some (knownVersion, _) => do
    demand (recorded.isNull || recorded.equals (.string knownVersion)) .integrityFailed
    pure (.string knownVersion)
  | none =>
    if recorded.isNull && (Value.string identity).equals metadata.sourceId then do
      -- the payload, which is verified, proves the identity of its own sources
      let digest ← sight.sources
      demand (digest = identity) .integrityFailed
      pure metadata.version
    else pure recorded

/-- Whether the runtime has the version of the payload, but other sources. -/
def mismatched (metadata : Metadata) (identity : Text) (runtime : Value) : Except Raised Bool :=
  if runtime.equals metadata.version = false ∨ (Value.string identity).equals metadata.sourceId then
    pure false
  else if runtime.equals (.string version300) = false then pure true
  else
    match metadata.sourceId with
    | .list _ | .dict _ => .error (.failed (text "unhashable type"))
    | .string sourceId => pure !(equivalent300.contains identity && equivalent300.contains sourceId)
    | _ => pure true

/-- What the versions come to. -/
def judge (metadata : Metadata) (provenance matcher : Value) (identity : Text) (runtime : Value) :
    Except Raised (Response × Option Text) :=
  if runtime.isNull then
    pure ({ response metadata with messageCode := .versionUnknown }, some identity)
  else do
    demand (agrees "version" provenance runtime) .integrityFailed
    if matcher.equals (.string sigfm) then do
      let old ← version runtime
      let new ← version metadata.version
      demand (old < new) .downgradeBlocked
      pure ({ response metadata with
        state := .legacy
        runtimeVersion := runtime
        result := .success
        messageCode := .legacyUpgradeAvailable
        enrollmentRequired := true }, some identity)
    else if runtime.equals (.string version300) && !equivalent300.contains identity &&
        !(Value.string identity).equals metadata.sourceId then
      pure ({ response metadata with
        runtimeVersion := runtime
        messageCode := .sourceMismatch }, some identity)
    else do
      if ← mismatched metadata identity runtime then
        pure ({ response metadata with
          runtimeVersion := runtime
          messageCode := .sourceMismatch }, some identity)
      else do
        let old ← version runtime
        let new ← version metadata.version
        pure ({ response metadata with
          state := .installed
          runtimeVersion := runtime
          result := .success
          messageCode :=
            if new < old then .downgradeBlocked
            else if old < new then .updateAvailable
            else .upToDate }, some identity)

/-- A matcher that no update comes from. -/
def unqualified (identity : Text) (matcher : Value) : Bool :=
  !matcher.equals (.string chicago) &&
    match historical.lookup identity with
    | some (_, knownMatcher) => knownMatcher != sigfm || !matcher.equals (.string sigfm)
    | none => true

/-- `inspect_runtime` -/
def inspectRuntime (sight : Sight) (metadata : Metadata) :
    Except Raised (Response × Option Text) := do
  sight.lock
  if sight.software = false then
    pure ({ response metadata with
      state := .absent
      result := .success
      messageCode := .notInstalled }, none)
  else do
    sight.preflight
    demand sight.runtime .integrityFailed
    let receipt ← sight.receipt
    let identity ← identify receipt
    let matcher := (receipt.field? "matcher").getD (.string sigfm)
    if unqualified identity matcher then
      pure ({ response metadata with
        state := .legacy
        result := .success
        messageCode := .legacyUnqualified }, some identity)
    else do
      let provenance ← sight.provenance
      if provenance.isDict = false then
        .error (.failed (text "object has no attribute 'get'"))
      else do
        let runtime ← runtimeVersion sight metadata receipt provenance matcher identity
        judge metadata provenance matcher identity runtime

/-! ## Execution -/

inductive Operation where
  | status
  | install
  | update
  | remove
  deriving DecidableEq

/-- A call of the backend. -/
inductive Call where
  /-- `apply`, with the identity that it is to find. -/
  | apply (expected : Option Text)
  | remove
  deriving DecidableEq

/-- How a call ends, and what it printed on `stderr`. -/
inductive Ending where
  | returned (code : Int) (errors : Text)
  | raised (error : Raised) (errors : Text)

/-- What an execution meets. -/
structure Surroundings where
  before : Sight
  sensor : Option Bool
  /-- `runtime_prerequisites` -/
  prerequisites : Except Raised Unit
  /-- The source identity in the manifest of the payload. -/
  manifest : Except Raised Value
  /-- The provenance in the payload. -/
  provenance : Except Raised Value
  backend : Call → Ending
  after : Sight

structure Execution where
  calls : List Call
  answer : Except Raised Response

/-- The marker of a restoration. -/
def restorationMarker : String := "GOODIX_ROLLBACK=PASS PRIOR_PROJECT_SOFTWARE_RESTORED=true"

def incompleteCleanup : String := "final service cleanup incomplete"

/-- The checks before the backend is called. -/
def prepare (operation : Operation) (surroundings : Surroundings) (metadata : Metadata)
    (current : Response) : Except Raised Unit :=
  if operation = .remove then demand (current.state ≠ .absent) .notInstalled
  else do
    let legacyUpgrade := current.state = .legacy ∧ current.messageCode = .legacyUpgradeAvailable
    demand (current.state ≠ .legacy ∨ legacyUpgrade) .legacyUnqualified
    demand (current.state ≠ .blocked) current.messageCode
    demand ((operation = .install ∧ current.state = .absent) ∨
      (operation = .update ∧ (current.state = .installed ∨ legacyUpgrade))) .runtimeChanged
    if operation = .update then do
      let old ← version current.runtimeVersion
      let new ← version metadata.version
      demand (old < new) (if new < old then .downgradeBlocked else .upToDate)
    surroundings.prerequisites
    let manifest ← surroundings.manifest
    demand (manifest.equals metadata.sourceId) .integrityFailed
    let provenance ← surroundings.provenance
    demand ((provenance.get "version").equals metadata.version) .integrityFailed

/-- Whether a second inspection finds the state and the identity of the first one. -/
def isRestored (surroundings : Surroundings) (metadata : Metadata) (current : Response)
    (sourceId : Option Text) : Except Raised Bool :=
  match inspectRuntime surroundings.after metadata with
  | .ok (after, afterSource) => .ok (after.state = current.state && afterSource = sourceId)
  | .error error => if error.isException then .ok false else .error error

/-- The answer to an error of the backend. -/
def recover (surroundings : Surroundings) (metadata : Metadata) (current : Response)
    (sourceId : Option Text) (error : Raised) (errors : Text) : Except Raised Response := do
  let rolledBack := (text restorationMarker <:+: errors) ∧ ¬ text incompleteCleanup <+: error.message
  let restored ← isRestored surroundings metadata current sourceId
  if rolledBack ∧ restored = true then
    pure { response metadata with result := .rolledBack, messageCode := .rollbackComplete }
  else
    pure { response metadata with result := .failed, messageCode := .operationFailed }

/-- The answer behind a call that returned. -/
def finish (operation : Operation) (surroundings : Surroundings) (metadata : Metadata)
    (current : Response) : Except Raised Response := do
  let (after, afterSource) ← inspectRuntime surroundings.after metadata
  demand (after.state = if operation = .remove then .absent else .installed) .operationFailed
  if operation ≠ .remove then
    demand (after.runtimeVersion.equals metadata.version ∧
      ((afterSource.map Value.string).getD .null).equals metadata.sourceId) .runtimeChanged
  pure { after with
    messageCode := if operation = .remove then .removed else .installed
    rebootRequired := true
    enrollmentRequired :=
      operation = .update && current.messageCode = .legacyUpgradeAvailable
    sensorPresent := current.sensorPresent }

/-- What follows a call of the backend. -/
def conclude (operation : Operation) (surroundings : Surroundings) (metadata : Metadata)
    (current : Response) (sourceId : Option Text) : Ending → Except Raised Response
  | .raised error errors =>
    if error.isCaught then recover surroundings metadata current sourceId error errors
    else .error error
  | .returned code errors =>
    if operation = .remove ∧ code ≠ 0 then
      recover surroundings metadata current sourceId (.blocked .operationFailed) errors
    else finish operation surroundings metadata current

/-- `execute` -/
def execute (operation : Operation) (surroundings : Surroundings) (metadata : Metadata) : Execution :=
  match inspectRuntime surroundings.before metadata with
  | .error error => ⟨[], .error error⟩
  | .ok (inspected, sourceId) =>
    let current := { inspected with sensorPresent := surroundings.sensor }
    if operation = .status then ⟨[], .ok current⟩
    else
      match prepare operation surroundings metadata current with
      | .error error => ⟨[], .error error⟩
      | .ok _ =>
        let call := if operation = .remove then .remove else .apply sourceId
        ⟨[call], conclude operation surroundings metadata current sourceId
          (surroundings.backend call)⟩

end Goodix.Manager.Helper
