import Goodix.DeviceContext.Material
import Goodix.Usb.Backend

/-! # The context of the device

The state of `goodix_fpimage_device.c` in the build with the Chicago engine, and what its
functions do to it between two calls of anything else.

The components that run the protocol are here what the context knows of them: whether they
exist, and the generation they were made for.
-/

namespace Goodix.DeviceContext

open Usb RuntimeCoordinator

/-- `FpiDeviceAction`, as far as an image device takes part in it. -/
inductive DeviceAction where
  | none
  | openDevice
  | closeDevice
  | enroll
  | verify
  | identify
  | capture
  deriving DecidableEq, Repr

/-- `FpiImageDeviceState` -/
inductive ImageState where
  | inactive
  | activating
  | deactivating
  | idle
  | awaitFingerOn
  | capture
  | awaitFingerOff
  deriving DecidableEq, Repr

/-- `GoodixDeviceContextState` -/
inductive ContextState where
  | closed
  | opening
  | inactive
  | activating
  | active
  | deactivating
  | poisoned
  | closing
  deriving DecidableEq, Repr

/-! ## Errors -/

def deviceRetry : String := "fp-device-retry"

/-- `FP_DEVICE_ERROR_NOT_SUPPORTED` -/
def errorNotSupported : Nat := 1

/-- `FP_DEVICE_ERROR_NOT_OPEN` -/
def errorNotOpen : Nat := 2

/-- `FP_DEVICE_ERROR_DATA_INVALID` -/
def errorDataInvalid : Nat := 6

def ioError (code : Nat) (message : String) : GError := ⟨"g-io-error-quark", code, message⟩

/-- `G_IO_ERROR_CANCELLED`, as `g_cancellable_set_error_if_cancelled` sets it. -/
def cancelledError : GError := ioError 19 "Operation was cancelled"

def protocolFailedClosed : GError :=
  fpDeviceError errorProto "Goodix production protocol failed closed"

/-- `G_USB_DEVICE_ERROR_TIMED_OUT` -/
def isTimedOut (error : GError) : Bool := error.domain = "g-usb-device-error-quark" ∧ error.code = 2

/-! ## The synchronisation of the receiver -/

/-- `GOODIX_PRE_SESSION_RX_QUIET_TIMEOUT_MS` -/
def quietTimeoutMs : Nat := 250

/-- `GOODIX_PRE_SESSION_RX_MAX_COMPLETIONS` -/
def maxCompletions : Nat := 16

/-- `GOODIX_PRE_SESSION_RX_MAX_BYTES` -/
def maxBytes : Nat := 65536

/-- `GOODIX_PRE_SESSION_RX_MAX_TOTAL_MS` -/
def maxTotalMs : Nat := 2000

/-- `GoodixPreSessionRxSyncResult` -/
inductive SyncResult where
  | notStarted
  | active
  | pass
  | failClosed
  deriving DecidableEq, Repr

/-- `GoodixPreSessionRxSyncAudit`, and the time at which it started. -/
structure RxSync where
  started : Bool
  completed : Bool
  quietBoundary : Bool
  result : SyncResult
  timeoutCount : Nat
  nonTimeoutErrorCount : Nat
  discardedCompletionCount : Nat
  discardedByteCount : Nat
  elapsedMs : Nat
  startedUs : Int
  deriving DecidableEq

def RxSync.zero : RxSync where
  started := false
  completed := false
  quietBoundary := false
  result := .notStarted
  timeoutCount := 0
  nonTimeoutErrorCount := 0
  discardedCompletionCount := 0
  discardedByteCount := 0
  elapsedMs := 0
  startedUs := 0

/-- `pre_session_rx_sync_update_elapsed` -/
def RxSync.updateElapsed (sync : RxSync) (now : Int) : RxSync :=
  { sync with elapsedMs := (now - sync.startedUs).toNat / 1000 }

/-- The audit counts a completion with octets. -/
def RxSync.discard (sync : RxSync) (octets : List UInt8) : RxSync :=
  { sync with
    discardedCompletionCount := sync.discardedCompletionCount + 1
    discardedByteCount := sync.discardedByteCount + octets.length }

/-- The bounds that end a synchronisation behind a completion with octets. -/
def RxSync.exceeds (sync : RxSync) : Bool :=
  sync.discardedCompletionCount > maxCompletions ∨ sync.discardedByteCount > maxBytes ∨
    sync.elapsedMs > maxTotalMs ∨ sync.elapsedMs + quietTimeoutMs > maxTotalMs

/-! ## The context -/

/-- What the context sees of the phase of the post-TLS lifecycle. -/
inductive LifecyclePhase where
  | notStarted
  | running
  | stop
  | terminal
  deriving DecidableEq, Repr

structure Lifecycle where
  generation : Nat
  phase : LifecyclePhase
  deriving DecidableEq

/-- The phases that are still before a lifecycle. -/
def Lifecycle.mayReach (lifecycle : Lifecycle) : LifecyclePhase → Bool
  | .notStarted => false
  | .running => lifecycle.phase = .notStarted
  | .stop => lifecycle.phase = .running
  | .terminal => lifecycle.phase ≠ .terminal

/-- `production_verify_*` and `production_identify_*` -/
structure CaptureEpoch where
  closed : Bool
  resultKnown : Bool
  resultSuccess : Bool
  resultMatch : Bool
  deriving DecidableEq

def CaptureEpoch.none : CaptureEpoch := ⟨false, false, false, false⟩

structure Context where
  state : ContextState
  generationSeq : Nat
  generation : Nat
  terminalFence : Bool
  poisoned : Bool
  terminalError : Option GError
  /-- There is an `activation_cancellable`. -/
  activationCancellable : Bool
  /-- `cancel_handler_id` is not zero. -/
  cancelHandler : Bool
  activationCompleted : Bool
  releaseTailComplete : Bool
  freshDownTable : Bool
  deactivationPending : Bool
  deactivationNonquiescent : Bool
  deactivationCompletionScheduled : Bool
  usb : Stack Owner
  livePreflight : Bool
  pairingActivation : Bool
  secureSession : Option Nat
  postTls : Option Lifecycle
  pendingEnrollmentEvents : Bool
  enrollmentBinding : Option Nat
  runtimeMaterial : Bool
  usbInterfaceClaimed : Bool
  loginPreparing : Bool
  loginSeries : Bool
  loginReusable : Bool
  loginAttempts : Nat
  loginReady : Bool
  loginClosePending : Bool
  loginDeadline : Bool
  sync : RxSync
  lastFrameworkState : ImageState
  productionActionConsumed : Bool
  productionAction : DeviceAction
  verify : CaptureEpoch
  identify : CaptureEpoch
  identifyEnrollHandoffArmed : Bool
  captureTerminal : Bool
  terminalEnrollCompletionHeld : Bool
  deriving DecidableEq

namespace Context

/-- `goodix_device_context_new` -/
def new (state : ContextState) : Context where
  state
  generationSeq := 0
  generation := 0
  terminalFence := false
  poisoned := false
  terminalError := none
  activationCancellable := false
  cancelHandler := false
  activationCompleted := false
  releaseTailComplete := false
  freshDownTable := false
  deactivationPending := false
  deactivationNonquiescent := false
  deactivationCompletionScheduled := false
  usb := Stack.new
  livePreflight := false
  pairingActivation := false
  secureSession := none
  postTls := none
  pendingEnrollmentEvents := false
  enrollmentBinding := none
  runtimeMaterial := false
  usbInterfaceClaimed := false
  loginPreparing := false
  loginSeries := false
  loginReusable := false
  loginAttempts := 0
  loginReady := false
  loginClosePending := false
  loginDeadline := false
  sync := RxSync.zero
  lastFrameworkState := .inactive
  productionActionConsumed := false
  productionAction := .none
  verify := CaptureEpoch.none
  identify := CaptureEpoch.none
  identifyEnrollHandoffArmed := false
  captureTerminal := false
  terminalEnrollCompletionHeld := false

variable (context : Context)

def isDrained : Bool := context.usb.backend.isDrained

/-- Some component exists. -/
def hasComponent : Bool :=
  context.livePreflight ∨ context.pairingActivation ∨ context.secureSession ≠ none ∨
    context.postTls ≠ none ∨ context.enrollmentBinding ≠ none

/-- The component exists, and this is the generation it submits for. -/
def submitsFor : Owner → Option Nat
  | .livePreflight => if context.livePreflight then some context.generation else none
  | .pairingActivation => if context.pairingActivation then some context.generation else none
  | .secureSession => context.secureSession
  | .postTlsLifecycle =>
    (context.postTls.filter fun lifecycle => lifecycle.phase = .running).map Lifecycle.generation
  | .enrollmentBinding => context.enrollmentBinding

/-- Some component needs a receive, as `context_usb_in_completed` asks. -/
def needsReceive : Bool :=
  context.livePreflight ∨ context.pairingActivation ∨ context.secureSession ≠ none ∨
    context.enrollmentBinding ≠ none ∨ context.postTls.map Lifecycle.phase = some .running

/-- `goodix_device_context_set_poisoned` -/
def setPoisoned (error : Option GError) : Context :=
  { context with poisoned := true, terminalError := context.terminalError.or error }

/-- `goodix_device_context_disconnect_cancel_handler` -/
def disconnectCancelHandler : Context :=
  if context.cancelHandler ∧ context.activationCancellable then
    { context with cancelHandler := false }
  else context

/-- `goodix_device_context_is_stale_or_fenced` -/
def isStaleOrFenced : Bool := context.terminalFence ∨ context.generation = 0

/-- `goodix_device_context_release_epoch_objects` -/
def releaseEpochObjects : Context :=
  { context with
    activationCancellable := false
    terminalError := none
    postTls := none
    livePreflight := false
    pairingActivation := false
    secureSession := none
    enrollmentBinding := none
    pendingEnrollmentEvents := false
    runtimeMaterial := false
    usb := { context.usb with
      backend := { context.usb.backend with outCompletedCallback := none } } }

/-- `goodix_device_context_reset_for_capture_reopen` -/
def resetForCaptureReopen : Context :=
  { context with
    productionActionConsumed := false
    productionAction := .none
    verify := CaptureEpoch.none
    identify := CaptureEpoch.none
    identifyEnrollHandoffArmed := false
    releaseTailComplete := false
    freshDownTable := false
    terminalFence := true
    poisoned := false
    activationCompleted := false
    deactivationPending := false
    deactivationNonquiescent := false
    terminalEnrollCompletionHeld := false
    sync := RxSync.zero }

/-- The production action is one that ends with a result of the matcher. -/
def awaitsResult : Bool :=
  context.productionAction = .verify ∨ context.productionAction = .identify

/-- The result of the current production action is known. -/
def resultKnown : Bool :=
  (context.productionAction = .verify ∧ context.verify.resultKnown) ∨
    (context.productionAction = .identify ∧ context.identify.resultKnown)

/-- The current production action ended in a comparison without a match. -/
def isNoMatch : Bool :=
  (context.productionAction = .verify ∧ context.verify.resultKnown ∧
      context.verify.resultSuccess ∧ context.verify.resultMatch = false) ∨
    (context.productionAction = .identify ∧ context.identify.resultKnown ∧
      context.identify.resultSuccess ∧ context.identify.resultMatch = false)

/-- The condition of `login_maybe_report_release`. -/
def reportsRelease : Bool :=
  context.loginSeries ∧ context.releaseTailComplete ∧ context.state = .active ∧
    context.resultKnown

/-- `goodix_device_context_record_capture_result` -/
def recordCaptureResult (production success isMatch : Bool) : Context :=
  if production = false ∨ context.loginSeries then context
  else
    { context with
      captureTerminal := context.captureTerminal || !success || isMatch }

/-- The condition of `goodix_device_context_maybe_rearm` up to the components. -/
def mayRearm : Bool :=
  context.isStaleOrFenced = false ∧ context.releaseTailComplete ∧ context.freshDownTable ∧
    context.lastFrameworkState = .awaitFingerOn

/-- What `deactivate` makes of the login series. -/
def reusable (cancelled : Bool) : Bool :=
  context.loginSeries ∧ context.loginAttempts < 3 ∧ context.poisoned = false ∧
    context.terminalFence = false ∧ context.releaseTailComplete ∧
    context.postTls.map Lifecycle.phase = some .stop ∧ cancelled = false ∧ context.isNoMatch

end Context

end Goodix.DeviceContext
