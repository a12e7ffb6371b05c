import Goodix.DeviceContext.Context
import Goodix.Library.Pieces

/-! # The image device of the framework

`fp-image-device.c` and `fpi-image-device.c` of libfprint: the state that the driver and the
client of an action see, and the device as a whole with what the parts outside it answer.
-/

namespace Goodix.DeviceContext

open Usb RuntimeCoordinator

/-- What the framework keeps of an image device and of its current action. -/
structure Framework where
  action : DeviceAction
  /-- The action is complete and its result is on its way to the client. -/
  returning : Bool
  isOpen : Bool
  /-- The cancellable of the action is cancelled. -/
  cancelled : Bool
  /-- The main loop is going to cancel the action. -/
  cancelIdle : Bool
  state : ImageState
  active : Bool
  fingerPresent : Bool
  minutiaeScanActive : Bool
  enrollCompletionHeld : Bool
  enrollTerminalSampleCommitted : Bool
  actionError : Option GError
  deriving DecidableEq

def Framework.new : Framework where
  action := .none
  returning := false
  isOpen := false
  cancelled := false
  cancelIdle := false
  state := .inactive
  active := false
  fingerPresent := false
  minutiaeScanActive := false
  enrollCompletionHeld := false
  enrollTerminalSampleCommitted := false
  actionError := none

/-- The actions that capture. -/
def DeviceAction.captures : DeviceAction → Bool
  | .enroll | .verify | .identify | .capture => true
  | _ => false

/-- How the acquisition of the runtime material ends. -/
inductive Acquisition where
  | ready
  | refused (decision : Decision) (error : Option GError)
  deriving DecidableEq

/-- How the live preflight ends, `production_live_preflight_finish`. -/
inductive PreflightEnd where
  | noEvidence
  /-- The calibration is not bound to this reader. -/
  | unbound
  | ready
  | pairing
  | refused (error : Option GError)
  deriving DecidableEq

/-- How the parts outside answer when they are asked next. -/
structure Outside where
  /-- The interface of the device: its claim, and its release when an acquisition fails, when that
  is tried again, and elsewhere. -/
  claim : Option GError
  releaseAtFailure : Option GError
  releaseAgain : Option GError
  release : Option GError
  acquisition : Acquisition
  /-- The action is cancelled while its resources are acquired. -/
  cancelsBetween : Bool
  cancelsAfter : Bool
  /-- The algorithm refuses the action. -/
  refusal : Option GError
  /-- The components of the secure graph: their construction, and the start of the session. -/
  diversity : Option GError
  postTls : Option GError
  enrollment : Option GError
  secureSession : Option GError
  sessionStart : Option GError
  preflight : PreflightEnd
  pairingStart : Option GError
  secureView : Option GError
  /-- The lifecycle lets the prepared login attach, and starts its next attempt. -/
  authorizes : Bool
  nextLogin : Option GError
  /-- The enrolment has all its stages. -/
  stagesComplete : Bool
  deriving DecidableEq

/-- Everything answers well. -/
def Outside.ready : Outside where
  claim := none
  releaseAtFailure := none
  releaseAgain := none
  release := none
  acquisition := .ready
  cancelsBetween := false
  cancelsAfter := false
  refusal := none
  diversity := none
  postTls := none
  enrollment := none
  secureSession := none
  sessionStart := none
  preflight := .ready
  pairingStart := none
  secureView := none
  authorizes := true
  nextLogin := none
  stagesComplete := false

/-- A detection that is over. -/
structure Scan where
  cancelled : Bool
  /-- The print cannot be made, for a reason that is no retry. -/
  fatal : Option GError
  /-- The processing or the comparison failed. -/
  error : Option GError
  isMatch : Bool
  deriving DecidableEq

structure Device where
  /-- `goodix_fpimage_device_is_production_usb` -/
  production : Bool
  context : Option Context
  framework : Framework
  outside : Outside
  /-- The monotonic clock, in microseconds. -/
  now : Int
  /-- The functions that wait for the main loop. -/
  activationCancelIdles : Nat
  deactivationIdles : Nat
  loginCloseIdles : Nat
  openIdles : Nat
  /-- The transfers in flight of contexts that are no longer the device's. -/
  abandoned : Nat
  deriving DecidableEq

def Device.new (production : Bool) : Device where
  production
  context := some (Context.new .opening)
  framework := Framework.new
  outside := Outside.ready
  now := 0
  activationCancelIdles := 0
  deactivationIdles := 0
  loginCloseIdles := 0
  openIdles := 0
  abandoned := 0

/-- What the device does that can be seen from outside. -/
inductive Noted where
  | usb (noted : Usb.Noted Owner)
  /-- A transfer of a context that is no longer the device's is complete. -/
  | abandonedCompleted
  | created
  | claimed
  | released (error : Option GError)
  | opened (error : Option GError)
  | closed (error : Option GError)
  /-- `img_class->activate` is called. -/
  | activates (action : DeviceAction)
  /-- `fpi_image_device_activate_complete` is called. -/
  | activateComplete (error : Option GError)
  | deactivates
  | deactivateComplete (error : Option GError)
  | sessionError (error : GError)
  | actionComplete (error : Option GError)
  | fingerStatus (present : Bool)
  /-- `verify_result` or `identify_result` of the driver is called. -/
  | captureResult (action : DeviceAction) (success isMatch : Bool)
  | releaseTail
  | fenced
  /-- A failure of the protocol in a context without a fence. -/
  | failed (error : GError)
  /-- The synchronisation of the receiver, with the time of the clock. -/
  | syncStarted (now : Int)
  | syncDiscarded (octets : List UInt8) (now : Int)
  | syncPassed (completion : Completion) (drained : Bool) (now : Int)
  | syncFailed
  | epochClosed (action : DeviceAction)
  | loginPrepared (ready : Bool)
  /-- An activation of a login series is accepted. -/
  | loginAttached (attempt : Nat)
  deriving DecidableEq

/-- The code of the driver and of the framework in pieces, each named after the function it belongs
to.  While `component` is on top, a component has control; while `starting` is, one that takes its
first step, and while `cancelling` is, one that is cancelled. -/
inductive Piece where
  | component
  | starting
  | cancelling
  | abort
  | usb (work : Work)
  | usbDrained
  | usbFrame (outerType : UInt8) (frame : List UInt8)
  | usbInCompleted
  | usbOutCompleted
  | syncCompleted (generation : Nat) (completion : Completion)
  | startProtocol
  | cancelBackend
  | protocolFailure (error : Option GError)
  | protocolFailed (error : GError)
  | emittedTerminal (error : GError)
  | activationCancelled
  | syncBegun (error : GError)
  | startSecureGraph
  | secureSessionStarted
  | emitArmComplete
  | emitFingerStatus (present : Bool)
  | loginMaybeReportRelease
  | nextLogin
  | armReceive
  | captureResult (action : DeviceAction) (success isMatch : Bool)
  | captureResultKnown
  | imgOpen
  | activate
  | deactivate
  | deactivateFenced
  | finishDeactivation
  | finishDeactivationFenced
  | imgClose
  | imgCloseLogin
  | imgCloseFence
  | imgClosed
  | changeState (state : ImageState)
  | frameworkDeactivate (cancelling : Bool)
  | maybeCompleteAction (error : Option GError)
  | enrollMaybeAwaitFingerOn

/-- The device behind a piece, what it showed, and the pieces that come next. -/
abbrev Outcome := Device × List Noted × List Piece

/-- Something has been shown before. -/
def Outcome.behind (noted : List Noted) (outcome : Outcome) : Outcome :=
  (outcome.1, noted ++ outcome.2.1, outcome.2.2)

/-- Something else comes next. -/
def Outcome.andThen (outcome : Outcome) (pieces : List Piece) : Outcome :=
  (outcome.1, outcome.2.1, outcome.2.2 ++ pieces)

namespace Device

variable (device : Device) (context : Context)

def put (context : Context) : Device := { device with context := some context }

/-- Nothing happens. -/
def nothing : Outcome := (device, [], [])

def withContext (function : Context → Outcome) : Outcome :=
  match device.context with
  | none => device.nothing
  | some context => function context

def withFramework (framework : Framework) : Device := { device with framework }

/-! ## The framework -/

/-- `fp_image_device_change_state`, with the driver's `change_state`. -/
def changeState (state : ImageState) : Outcome :=
  let device := device.withFramework { device.framework with state }
  device.withContext fun context =>
    let context := { context with lastFrameworkState := state }
    if state = .awaitFingerOn ∧ context.mayRearm then (device.put context, [], [.component])
    else (device.put context, [], [])

/-- `fpi_image_device_deactivate` -/
def frameworkDeactivate (cancelling : Bool) : Outcome :=
  let framework := { device.framework with
    enrollCompletionHeld := device.framework.enrollCompletionHeld && !cancelling
    enrollTerminalSampleCommitted := false }
  let device := device.withFramework framework
  if framework.active = false ∨ framework.state = .deactivating then (device, [], [])
  else (device, [.deactivates], [.changeState .deactivating, .deactivate])

/-- The first error is kept, unless it is one of those that only ask for another try. -/
def keepError (first : Option GError) (error : GError) : GError :=
  match first with
  | some first => if first.domain = deviceRetry then error else first
  | none => error

/-- `fp_image_device_maybe_complete_action` -/
def maybeCompleteAction (error : Option GError) : Outcome :=
  let framework := device.framework
  let actionError := match error with
    | some error => some (keepError framework.actionError error)
    | none => framework.actionError
  if framework.active ∨ framework.minutiaeScanActive then
    (device.withFramework { framework with actionError }, [], [])
  else
    let result := actionError.or (if framework.cancelled then some cancelledError else none)
    -- without an action an error is logged and forgotten
    if framework.action = .none then
      (device.withFramework { framework with actionError := none }, [],
        if result.isSome then [] else [.abort])
    else
      (device.withFramework { framework with
        actionError := none
        returning := true
        cancelIdle := false }, [.actionComplete result], [])

/-- `fp_image_device_enroll_maybe_await_finger_on` -/
def enrollMaybeAwaitFingerOn : Outcome :=
  let framework := device.framework
  if framework.minutiaeScanActive ∨ framework.fingerPresent ∨ framework.enrollCompletionHeld then
    device.nothing
  else if device.outside.stagesComplete then
    (device, [], [.maybeCompleteAction none, .frameworkDeactivate false])
  else (device, [], [.changeState .awaitFingerOn])

/-- `fpi_image_device_report_finger_status` -/
def reportFingerStatus (present : Bool) : Outcome :=
  let framework := device.framework
  let noted := [Noted.fingerStatus present]
  if framework.state = .inactive then (device, noted, [])
  else if framework.action = .openDevice ∨ framework.action = .closeDevice then
    (device, noted, [.abort])
  else
    let device := device.withFramework { framework with fingerPresent := present }
    if present ∧ framework.state = .awaitFingerOn then (device, noted, [.changeState .capture])
    else if present = false ∧ framework.state = .awaitFingerOff then
      (device, noted, .changeState .idle ::
        if framework.action = .enroll then [.enrollMaybeAwaitFingerOn]
        else [.frameworkDeactivate false])
    else (device, noted, [])

/-- `goodix_device_context_emit_finger_down` and `goodix_device_context_emit_finger_up_ready` -/
def emitFingerStatus (present : Bool) : Outcome :=
  if context.isStaleOrFenced ∨ (present = false ∧ context.releaseTailComplete = false) then
    device.nothing
  else device.reportFingerStatus present

/-- `fpi_image_device_image_captured` -/
def imageCaptured : Outcome :=
  let framework := device.framework
  if framework.state ≠ .capture ∨ framework.action.captures = false then device.nothing
  else
    (device.withFramework { framework with minutiaeScanActive := true }, [],
      [.changeState .awaitFingerOff])

/-- What follows the processing of an enrolment image. -/
def enrollmentProcessed (error : Option GError) (complete : Bool) : List Piece :=
  match error with
  | some error => [.maybeCompleteAction (some error), .frameworkDeactivate true]
  | none =>
    if complete then
      if device.framework.enrollCompletionHeld then []
      else [.maybeCompleteAction none, .frameworkDeactivate false]
    else [.enrollMaybeAwaitFingerOn]

/-- An error that only asks for another try is reported to the client and forgotten. -/
def unlessRetry (error : Option GError) : Option GError :=
  error.filter fun error => error.domain ≠ deviceRetry

/-- `fpi_image_device_minutiae_detected` -/
def minutiaeDetected (scan : Scan) : Outcome :=
  let device := device.withFramework { device.framework with minutiaeScanActive := false }
  let action := device.framework.action
  let result (success isMatch : Bool) : List Piece :=
    if action = .verify ∨ action = .identify then [.captureResult action success isMatch] else []
  if scan.cancelled then
    (device, [], [.maybeCompleteAction (some cancelledError), .frameworkDeactivate true])
  else if action = .capture then (device, [], [.maybeCompleteAction scan.error])
  else
    match scan.fatal with
    | some error =>
      (device, [], result false false ++
        [.maybeCompleteAction (some error), .frameworkDeactivate true])
    | none =>
      if action = .enroll then
        (device, [], device.enrollmentProcessed scan.error device.outside.stagesComplete)
      else
        (device, [], result scan.error.isNone scan.isMatch ++
          [.maybeCompleteAction (unlessRetry scan.error)])

/-- `fpi_image_device_raw_image_captured`: the processing is over already. -/
def rawImageCaptured (scan : Scan) : Outcome :=
  let framework := device.framework
  if framework.state ≠ .capture ∨ framework.minutiaeScanActive then device.nothing
  else
    let error := scan.fatal.or (if framework.cancelled then some cancelledError else none)
    match unlessRetry error with
    | some error =>
      (device, [], [.changeState .awaitFingerOff, .maybeCompleteAction (some error),
        .frameworkDeactivate true])
    | none =>
      if framework.action = .enroll then
        (device, [], .changeState .awaitFingerOff ::
          match (error.or scan.error) with
          | some error => [.maybeCompleteAction (some error), .frameworkDeactivate true]
          | none =>
            if device.outside.stagesComplete then
              if framework.enrollCompletionHeld ∨ framework.fingerPresent then []
              else [.maybeCompleteAction none, .frameworkDeactivate false]
            else [.enrollMaybeAwaitFingerOn])
      else if framework.action = .verify ∨ framework.action = .identify then
        let error := error.or scan.error
        (device, [], [.changeState .awaitFingerOff,
            .captureResult framework.action error.isNone scan.isMatch,
            .maybeCompleteAction (unlessRetry error)] ++
          if error = some cancelledError then [.frameworkDeactivate true] else [])
      else
        (device, [], [.changeState .awaitFingerOff, .maybeCompleteAction error])

/-- `fpi_image_device_retry_scan` of an enrolment. -/
def retryScan : Outcome :=
  if device.framework.state = .inactive ∨ device.framework.action ≠ .enroll then device.nothing
  else (device, [], [.changeState .awaitFingerOff])

/-- `fpi_image_device_hold_enroll_completion`, where the driver calls it. -/
def holdEnrollCompletion : Outcome :=
  let framework := device.framework
  let context := { context with terminalEnrollCompletionHeld := true }
  if framework.action ≠ .enroll ∨ framework.active = false ∨ framework.enrollCompletionHeld then
    (device.put context, [], [])
  else
    ((device.put context).withFramework { framework with
      enrollCompletionHeld := true
      enrollTerminalSampleCommitted := true }, [], [])

/-- `fpi_image_device_release_enroll_completion`, where the driver calls it. -/
def releaseEnrollCompletion : Outcome :=
  let framework := device.framework
  if context.terminalEnrollCompletionHeld = false then device.nothing
  else
    let device := device.put { context with terminalEnrollCompletionHeld := false }
    if framework.action ≠ .enroll ∨ framework.enrollCompletionHeld = false ∨
        framework.enrollTerminalSampleCommitted = false then
      (device, [], [])
    else
      (device.withFramework { framework with enrollCompletionHeld := false }, [],
        if framework.active ∧ framework.minutiaeScanActive = false ∧
            device.outside.stagesComplete then
          [.maybeCompleteAction none, .frameworkDeactivate false]
        else [])

/-- `fpi_image_device_activate_complete` -/
def activateComplete (error : Option GError) : Outcome :=
  let framework := device.framework
  let noted := [Noted.activateComplete error]
  if framework.active ∨ framework.state ≠ .activating ∨ framework.action.captures = false then
    (device, noted, [])
  else
    match error with
    | some error =>
      (device.withFramework { framework with returning := true, cancelIdle := false },
        noted ++ [.actionComplete (some error)], [])
    | none =>
      (device.withFramework { framework with active := true }, noted,
        [.changeState .idle, .changeState .awaitFingerOn])

/-- `fpi_image_device_deactivate_complete` -/
def deactivateComplete (error : Option GError) : Outcome :=
  let framework := device.framework
  let noted := [Noted.deactivateComplete error]
  if framework.active = false ∨ framework.state ≠ .deactivating then (device, noted, [])
  else
    (device.withFramework { framework with active := false, fingerPresent := false }, noted,
      [.changeState .inactive, .maybeCompleteAction error])

/-- `fpi_image_device_session_error` -/
def sessionError (error : GError) : Outcome :=
  let framework := device.framework
  let noted := [Noted.sessionError error]
  let ends : Outcome :=
    (device, noted, [.maybeCompleteAction (some error), .frameworkDeactivate true])
  if framework.active = false then
    if framework.action ≠ .none then (device.activateComplete (some error)).behind noted else ends
  else if error.domain = "g-io-error-quark" ∧ error.code = 19 ∧ framework.cancelled then
    (device, noted, [])
  else if framework.state = .inactive then (device, noted, [])
  else ends

/-- `fpi_image_device_open_complete` -/
def openComplete (error : Option GError) : Outcome :=
  let framework := device.framework
  let noted := [Noted.opened error]
  if framework.active ∨ framework.action ≠ .openDevice then (device, noted, [])
  else
    (device.withFramework { framework with
      state := .inactive
      isOpen := error.isNone
      returning := true }, noted, [])

/-- `fpi_image_device_close_complete` -/
def closeComplete (error : Option GError) : Outcome :=
  let framework := device.framework
  let noted := [Noted.closed error]
  if framework.active ∨ framework.action ≠ .closeDevice then (device, noted, [])
  else
    (device.withFramework { framework with
      state := .inactive
      isOpen := false
      returning := true }, noted, [])

/-- A client starts an action that captures: `fp_image_device_start_capture_action`. -/
def start (action : DeviceAction) (cancelled : Bool) : Outcome :=
  let framework := { device.framework with
    action
    returning := false
    cancelled
    cancelIdle := cancelled
    enrollCompletionHeld := false
    enrollTerminalSampleCommitted := false }
  if framework.fingerPresent ∨ framework.minutiaeScanActive ∨ framework.active then
    (device.withFramework framework, [], [.abort])
  else
    (device.withFramework framework, [.activates action], [.changeState .activating, .activate])

end Device

end Goodix.DeviceContext
