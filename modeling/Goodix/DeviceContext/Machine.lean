import Goodix.DeviceContext.Framework

/-! # The code of the driver

The functions of `goodix_fpimage_device.c`, each up to the next call of anything else.
-/

namespace Goodix.DeviceContext

open Usb RuntimeCoordinator

namespace Device

variable (device : Device) (context : Context)

/-- `production_action_requires_live_preflight` of the build with the Chicago engine -/
def requiresLivePreflight : DeviceAction → Bool
  | .enroll | .identify | .capture | .verify => true
  | _ => false

/-- `production_action_may_start_without_material` -/
def mayStartWithoutMaterial (action : DeviceAction) (decision : Decision) : Bool :=
  requiresLivePreflight action &&
    (decision = .needsLivePreflight || decision = .needsInitialization)

/-! ## The backend -/

/-- A call of the backend that the context or a component makes. -/
def callUsb (call : Usb.Call Owner) : Outcome :=
  match context.usb.call call with
  | (usb, noted, works) => (device.put { context with usb }, noted.map .usb, works.map .usb)

/-- Whom the backend calls. -/
def callbackOf : Usb.Noted Owner → List Piece
  | .frame outerType frame => [.usbFrame outerType frame]
  | .syncCompleted generation completion => [.syncCompleted generation completion]
  | .inCompleted .. => [.usbInCompleted]
  | .outCompleted .. => [.usbOutCompleted]
  | .drained => [.usbDrained]
  | _ => []

def turnUsb (work : Work) : Outcome :=
  match context.usb.turn work with
  | (usb, noted, more) =>
    (device.put { context with usb }, noted.map .usb,
      noted.flatMap callbackOf ++ (more.getD []).map .usb)

/-- `goodix_device_context_arm_receive`, and what follows if it fails. -/
def armReceive (refused : GError → List Piece) (armed : List Piece) : Outcome :=
  match context.usb.armReceive context.generation with
  | .error error => (device, [.usb (.refused error)], refused error)
  | .ok usb =>
    (device.put { context with usb }, [.usb (.submittedIn context.generation .protocolRx)], armed)

/-! ## Failures -/

/-- `goodix_device_context_set_terminal_fence`: the components are cancelled, then the backend, and
the caller goes on. -/
def setTerminalFence (noted : List Noted) (next : List Piece) : Outcome :=
  (device.put { context with terminalFence := true }, noted ++ [.fenced],
    .cancelling :: .cancelBackend :: next)

/-- `context_protocol_failure` -/
def protocolFailure (error : Option GError) : Outcome :=
  if context.terminalFence then (device.put (context.setPoisoned error), [], [])
  else
    let error := error.getD protocolFailedClosed
    device.setTerminalFence context [.failed error] [.protocolFailed error]

/-- `emit_terminal` -/
def emitTerminal (error : GError) : Outcome :=
  device.setTerminalFence context.disconnectCancelHandler [] [.emittedTerminal error]

/-- `context_protocol_failure` behind the fence. -/
def protocolFailed (error : GError) : Outcome :=
  let context := context.setPoisoned (some error)
  if context.loginPreparing ∨ context.loginReusable then
    (device.put { context with
      loginReady := false
      loginDeadline := false
      state := .poisoned }, [.loginPrepared false], [])
  else if context.state = .activating ∨ context.state = .active then
    device.emitTerminal context error
  else (device.put context, [], [])

/-- `emit_terminal` behind the fence. -/
def emittedTerminal (error : GError) : Outcome :=
  let context := { context.setPoisoned (some error) with generation := 0 }
  if context.state = .activating then
    (device.put { context with state := .inactive }).activateComplete (some error)
  else (device.put { context with state := .poisoned }).sessionError error

/-! ## The synchronisation of the receiver -/

/-- The end of a synchronisation that failed, if nothing is outstanding. -/
def syncEnded : Backend Owner :=
  let backend := context.usb.backend
  if backend.preSessionSyncActive ∧ backend.isDrained then
    match backend.endPreSessionSync context.generation with
    | .error _ => backend
    | .ok ended => ended
  else backend

/-- `pre_session_rx_sync_fail` -/
def syncFail (error : GError) : Outcome :=
  (device.put { context with
      sync := { context.sync.updateElapsed device.now with
        completed := true
        result := .failClosed }
      usb := { context.usb with backend := syncEnded context } },
    [.syncFailed], [.protocolFailure (some error)])

/-- `goodix_device_context_begin_pre_session_rx_sync`; if it fails, what else its caller does. -/
def beginPreSessionRxSync (refused : GError → List Piece) : Outcome :=
  if ¬(device.production ∧ context.state = .activating) ∨ context.generation = 0 ∨
      context.terminalFence ∨ context.secureSession ≠ none ∨ context.sync.result ≠ .notStarted then
    (device.put context, [], refused (ioError 18 "pre-session RX sync cannot begin"))
  else
    let context := { context with
      sync := { RxSync.zero with started := true, result := .active, startedUs := device.now } }
    let started := [Noted.syncStarted device.now]
    match context.usb.backend.beginPreSessionSync context.generation with
    | .error error =>
      ((device.syncFail context error).andThen (refused error)).behind started
    | .ok backend =>
      let context := { context with usb := { context.usb with backend } }
      match backend.armPreSessionSyncReceive context.generation quietTimeoutMs with
      | .error error =>
        ((device.syncFail context error).andThen (refused error)).behind started
      | .ok backend =>
        (device.put { context with usb := { context.usb with backend } },
          started ++ [.usb (.submittedIn context.generation .preSessionSyncRx)], [])

/-- `context_pre_session_sync_completed` -/
def syncCompleted (generation : Nat) (completion : Completion) : Outcome :=
  let context := { context with sync := context.sync.updateElapsed device.now }
  if generation ≠ context.generation ∨ context.sync.result ≠ .active then
    (device.put context, [], [])
  else if context.sync.elapsedMs > maxTotalMs then
    device.syncFail context (ioError 24 "pre-session RX sync total-time bound exceeded")
  else
    match completion.error with
    | some error =>
      if isTimedOut error ∧ completion.octets = [] ∧ context.isDrained then
        let context := { context with
          sync := { context.sync with
            timeoutCount := context.sync.timeoutCount + 1
            quietBoundary := true } }
        match context.usb.backend.endPreSessionSync context.generation with
        | .error error => device.syncFail context error
        | .ok backend =>
          (device.put { context with
              sync := { context.sync with completed := true, result := .pass }
              usb := { context.usb with backend } },
            [.syncPassed completion context.isDrained device.now], [.startProtocol])
      else
        device.syncFail
          { context with
            sync := { context.sync with
              nonTimeoutErrorCount := context.sync.nonTimeoutErrorCount + 1 } } error
    | none =>
      if completion.octets = [] then
        device.syncFail context
          (ioError 35 "pre-session RX sync completed without timeout or data")
      else
        let context := { context with sync := context.sync.discard completion.octets }
        if context.sync.exceeds then
          device.syncFail context (ioError 12 "pre-session RX sync hard bound exceeded")
        else
          match context.usb.backend.armPreSessionSyncReceive context.generation quietTimeoutMs with
          | .error error => device.syncFail context error
          | .ok backend =>
            (device.put { context with usb := { context.usb with backend } },
              [.syncDiscarded completion.octets device.now,
                .usb (.submittedIn context.generation .preSessionSyncRx)], [])

/-! ## The secure graph -/

/-- `production_activation_start_live_preflight` -/
def startLivePreflight : Outcome :=
  if context.terminalFence ∨ context.livePreflight ∨ context.usbInterfaceClaimed = false ∨
      requiresLivePreflight device.framework.action = false then
    (device.put context, [], [])
  else
    (device.put { context with
      livePreflight := true
      usb := { context.usb with
        backend := { context.usb.backend with
          outCompletedCallback := some .livePreflight } } }, [], [.starting])

def closedError (message : String) : GError := ioError 18 message

/-- `goodix_device_context_configure_post_tls_lifecycle` -/
def configurePostTlsLifecycle : Except GError Context :=
  if context.generation = 0 ∨ context.terminalFence ∨ context.postTls ≠ none ∨
      context.secureSession ≠ none then
    .error (closedError "GoodixDeviceContext cannot configure post-TLS lifecycle")
  else
    match device.outside.postTls with
    | some error => .error error
    | none => .ok { context with postTls := some ⟨context.generation, .notStarted⟩ }

/-- `goodix_device_context_configure_enrollment_graph` -/
def configureEnrollmentGraph : Except GError Context :=
  if context.generation = 0 ∨ context.terminalFence ∨
      context.postTls.map Lifecycle.phase ≠ some .notStarted ∨ context.secureSession ≠ none ∨
      context.pendingEnrollmentEvents ∨ context.enrollmentBinding ≠ none then
    .error (closedError "GoodixDeviceContext cannot configure enrollment graph")
  else
    match device.outside.enrollment with
    | some error => .error error
    | none => .ok { context with pendingEnrollmentEvents := true }

/-- `goodix_device_context_start_secure_session` up to the start of the session. -/
def newSecureSession : Except GError Context :=
  if context.secureSession ≠ none ∨ context.generation = 0 ∨ context.terminalFence ∨
      (device.production ∧ context.sync.result ≠ .pass) then
    .error (closedError "GoodixDeviceContext cannot start secure session")
  else
    match device.outside.secureSession with
    | some error => .error error
    | none => .ok { context with secureSession := some context.generation }

/-- The part of `production_activation_start_secure_graph` that makes the components; what was made
before one fails stays. -/
def makeSecureGraph : Context × Option GError :=
  match device.configurePostTlsLifecycle context with
  | .error error => (context, some error)
  | .ok context =>
    match if device.framework.action = .enroll then device.configureEnrollmentGraph context
        else .ok context with
    | .error error => (context, some error)
    | .ok context =>
      match device.newSecureSession context with
      | .error error => (context, some error)
      | .ok context => (context, none)

/-- `production_activation_start_secure_graph` -/
def startSecureGraph : Outcome :=
  if context.state ≠ .activating ∨ context.terminalFence ∨
      (context.runtimeMaterial = false ∧ context.pairingActivation = false) ∨
      context.usbInterfaceClaimed = false then
    (device.put context, [], [])
  else
    match if device.framework.action = .enroll then device.outside.diversity else none with
    | some error => (device.put context, [], [.protocolFailure (some error)])
    | none =>
      match device.makeSecureGraph context with
      | (context, some error) => (device.put context, [], [.protocolFailure (some error)])
      | (context, none) => (device.put context, [], [.starting, .secureSessionStarted])

/-- The session has been started, or not; `goodix_device_context_start_secure_session` and its
caller from there on. -/
def secureSessionStarted : Outcome :=
  match device.outside.sessionStart with
  | some error => (device, [], [.cancelling, .protocolFailure (some error)])
  | none =>
    device.armReceive context (fun error => [.cancelling, .protocolFailure (some error)])
      (if context.loginPreparing then [] else [.emitArmComplete])

/-- What follows a synchronisation that passed. -/
def startProtocol : Outcome :=
  if requiresLivePreflight device.framework.action then device.startLivePreflight context
  else device.startSecureGraph context

/-- `production_start_pairing_activation` -/
def startPairingActivation : Outcome :=
  if context.runtimeMaterial ∨ context.pairingActivation then
    (device.put context, [], [.protocolFailure (some
      (fpDeviceError errorProto "pairing activation ownership is not clean"))])
  else
    match device.outside.pairingStart with
    | some error => (device.put context, [], [.protocolFailure (some error)])
    | none =>
      (device.put { context with
        pairingActivation := true
        usb := { context.usb with
          backend := { context.usb.backend with
            outCompletedCallback := some .pairingActivation } } }, [], [.starting])

/-- `production_live_preflight_finish` -/
def finishLivePreflight : Outcome :=
  match device.outside.preflight with
  | .noEvidence =>
    (device, [], [.protocolFailure (some
      (fpDeviceError errorProto "live preflight completed without evidence"))])
  | finish =>
    let context := { context with
      livePreflight := false
      usb := { context.usb with
        backend := { context.usb.backend with outCompletedCallback := none } } }
    match finish with
    | .unbound =>
      (device.put context, [], [.protocolFailure (some (fpDeviceError errorDataInvalid
        "Chicago calibration is not bound to this reader's OTP"))])
    | .pairing => device.startPairingActivation { context with runtimeMaterial := false }
    | .refused error => (device.put context, [], [.protocolFailure error])
    | _ => (device.put { context with runtimeMaterial := true }, [], [.startSecureGraph])

/-- `production_pairing_activation_ready_tls` -/
def pairingReady : Outcome :=
  let context := { context with
    usb := { context.usb with
      backend := { context.usb.backend with outCompletedCallback := none } } }
  match device.outside.secureView with
  | some error => (device.put context, [], [.protocolFailure (some error)])
  | none => (device.put context, [], [.startSecureGraph])

/-- `goodix_device_context_emit_arm_complete` without an error. -/
def emitArmComplete : Outcome :=
  if context.isStaleOrFenced ∨ context.state ≠ .activating then device.nothing
  else
    (device.put { context.disconnectCancelHandler with
      activationCompleted := true
      state := .active }).activateComplete none

/-! ## The capture epochs -/

/-- `goodix_fpimage_device_release_claim`, with what the bus answers. -/
def releaseClaim (answer : Option GError) : Context × List Noted × Option GError :=
  if context.usbInterfaceClaimed = false then (context, [], none)
  else
    match answer with
    | some error => (context, [.released (some error)], some error)
    | none => ({ context with usbInterfaceClaimed := false }, [.released none], none)

/-- The failure of `goodix_fpimage_device_acquire_action_resources`. -/
def acquisitionFailed (noted : List Noted) (error : GError) :
    Context × List Noted × Except GError Unit :=
  match releaseClaim context device.outside.releaseAgain with
  | (context, more, _) => (context.releaseEpochObjects, noted ++ more, .error error)

/-- The claim of `goodix_fpimage_device_acquire_action_resources`, between two looks at the
cancellable. -/
def claimInterface : Context × List Noted × Except GError Unit :=
  if device.outside.cancelsBetween then device.acquisitionFailed context [] cancelledError
  else
    match device.outside.claim with
    | some error => device.acquisitionFailed context [] error
    | none =>
      let context := { context with usbInterfaceClaimed := true }
      if device.outside.cancelsAfter then
        match releaseClaim context device.outside.releaseAtFailure with
        | (context, noted, _) => device.acquisitionFailed context (.claimed :: noted) cancelledError
      else (context, [.claimed], .ok ())

/-- `goodix_fpimage_device_acquire_action_resources` -/
def acquireActionResources : Context × List Noted × Except GError Unit :=
  if context.runtimeMaterial ∨ context.pairingActivation ∨ context.usbInterfaceClaimed then
    (context, [], .error (closedError "Goodix action resources are not clean"))
  else if device.framework.cancelled then (context, [], .error cancelledError)
  else
    match device.outside.acquisition with
    | .refused decision error =>
      if mayStartWithoutMaterial device.framework.action decision then
        device.claimInterface context
      else
        device.acquisitionFailed context []
          (error.getD (ioError 0 "Goodix action resource acquisition failed closed"))
    | .ready => device.claimInterface { context with runtimeMaterial := true }

/-- What `goodix_fpimage_device_close_completed_capture_epoch` demands. -/
def epochIsComplete (action : DeviceAction) : Bool :=
  context.productionAction = action ∧ (action = .verify ∨ action = .identify) ∧
    context.productionActionConsumed ∧ context.poisoned = false ∧ context.isDrained ∧
    context.postTls.map Lifecycle.phase = some .stop ∧ context.enrollmentBinding = none ∧
    context.pendingEnrollmentEvents = false

/-- `goodix_fpimage_device_close_completed_capture_epoch` -/
def closeCompletedCaptureEpoch (action : DeviceAction) :
    Context × List Noted × Except GError Unit :=
  if epochIsComplete context action = false then
    (context, [], .error (fpDeviceError errorProto
      "Goodix capture epoch did not reach a clean terminal drain"))
  else
    match releaseClaim context device.outside.release with
    | (context, noted, some error) => (context, noted, .error error)
    | (context, noted, none) =>
      ({ context.releaseEpochObjects with
          generation := 0
          verify := { context.verify with closed := action = .verify }
          identify := { context.identify with closed := action = .identify }
          identifyEnrollHandoffArmed :=
            action = .identify && context.identify.resultKnown &&
              context.identify.resultSuccess && !context.identify.resultMatch &&
              !context.captureTerminal },
        noted ++ [.epochClosed action], .ok ())

/-- The failure of `goodix_fpimage_device_reopen_for_capture_action` behind the reset. -/
def reopenFailed (error : Option GError) : Context × List Noted × Except (Option GError) Unit :=
  ({ context.releaseEpochObjects with
      verify := { context.verify with closed := false }
      identify := { context.identify with closed := false }
      identifyEnrollHandoffArmed := false
      poisoned := true }, [],
    .error (some (error.getD (ioError 0 "Goodix capture epoch reopen failed"))))

/-- What `goodix_fpimage_device_reopen_for_capture_action` demands. -/
def mayReopen (action : DeviceAction) : Bool :=
  context.poisoned = false ∧
    ((action = .verify ∧ context.verify.closed) ∨ (action = .identify ∧ context.identify.closed) ∨
      (action = .enroll ∧ context.identify.closed ∧ context.identifyEnrollHandoffArmed)) ∧
    context.state = .inactive ∧ context.runtimeMaterial = false ∧
    context.pairingActivation = false ∧ context.usbInterfaceClaimed = false ∧
    context.secureSession = none ∧ context.postTls = none

/-- The claim of `goodix_fpimage_device_reopen_for_capture_action`. -/
def claimAgain (action : DeviceAction) : Context × List Noted × Except (Option GError) Unit :=
  match device.outside.claim with
  | some error => reopenFailed context (some error)
  | none =>
    ({ context with
        usbInterfaceClaimed := true
        identifyEnrollHandoffArmed :=
          if action = .enroll then false else context.identifyEnrollHandoffArmed },
      [.claimed], .ok ())

/-- `goodix_fpimage_device_reopen_for_capture_action` -/
def reopenForCaptureAction (action : DeviceAction) :
    Context × List Noted × Except (Option GError) Unit :=
  if mayReopen context action = false then (context, [], .error none)
  else
    match context.usb.backend.resetEpochAudit with
    | .error error => (context, [], .error (some error))
    | .ok backend =>
      let context := { context with usb := { context.usb with backend } }.resetForCaptureReopen
      match device.outside.acquisition with
      | .refused decision error =>
        if mayStartWithoutMaterial action decision then device.claimAgain context action
        else reopenFailed context error
      | .ready => device.claimAgain { context with runtimeMaterial := true } action

/-! ## Activation -/

def unsupported (message : String) : GError := fpDeviceError errorNotSupported message

/-- The error of an activation in a poisoned context. -/
def poisonedError : GError :=
  match context.terminalError with
  | some error =>
    if error.domain = deviceRetry then
      fpDeviceError errorProto "Goodix protocol session is poisoned until device close"
    else error
  | none => fpDeviceError errorProto "Goodix protocol session is poisoned until device close"

/-- The end of `goodix_fpimage_device_activate`: a new generation. -/
def beginActivation : Outcome :=
  let action := device.framework.action
  let context := { context with
    generationSeq := context.generationSeq + 1
    generation := context.generationSeq + 1
    releaseTailComplete := false
    freshDownTable := false
    terminalFence := false
    activationCompleted := false
    activationCancellable := true }
  match context.usb.backend.beginGeneration context.generation with
  | .error error =>
    (device.put { context with
      terminalFence := true
      poisoned := true
      generation := 0
      state := .inactive }).activateComplete (some error)
  | .ok backend =>
    let context := { context with
      usb := { backend, router := context.usb.router.beginGeneration context.generation }
      -- a cancellable that is cancelled already keeps no handler
      cancelHandler := !device.framework.cancelled
      state := .activating }
    let begun := [Noted.usb (.begun context.generation)]
    if device.production = false then (device.put context, begun, [])
    else if context.usbInterfaceClaimed = false ∨
        (context.runtimeMaterial = false ∧ requiresLivePreflight action = false) then
      (device.put context, begun, [.protocolFailure (some (fpDeviceError errorNotOpen
        "Goodix production activation lacks its open-epoch resources"))])
    else
      (device.beginPreSessionRxSync context fun error => [.syncBegun error]).behind begun

/-- The first action of an epoch takes what it needs. -/
def consumeEpoch : Context × List Noted × Except GError Unit :=
  let context := { context with
    productionActionConsumed := true
    productionAction := device.framework.action }
  if context.usbInterfaceClaimed then (context, [], .ok ())
  else
    match device.acquireActionResources context with
    | (context, noted, .ok ()) => (context, noted, .ok ())
    | (context, noted, .error error) => ({ context with poisoned := true }, noted, .error error)

/-- The part of `goodix_fpimage_device_activate` that reopens a completed epoch: of IDENTIFY first,
and then of VERIFY. -/
def reopenCompleted : Context × List Noted × Except GError Unit :=
  let action := device.framework.action
  if context.identify.closed then
    if action ≠ .identify ∧ (action ≠ .enroll ∨ context.identifyEnrollHandoffArmed = false) then
      ({ context with identifyEnrollHandoffArmed := false, poisoned := true }, [],
        .error (unsupported ("Goodix completed IDENTIFY epoch accepts only a new IDENTIFY or " ++
          "one clean no-match ENROLL handoff")))
    else
      match device.reopenForCaptureAction context action with
      | (context, noted, .error error) =>
        (context, noted, .error (error.getD
          (fpDeviceError errorNotOpen "Goodix completed IDENTIFY epoch reopen failed")))
      | (context, noted, .ok ()) => (context, noted, .ok ())
  else if context.verify.closed then
    if action ≠ .verify then
      (context, [], .error (unsupported
        "Goodix completed VERIFY epoch accepts only a new explicit VerifyStart"))
    else
      match device.reopenForCaptureAction context .verify with
      | (context, noted, .error error) =>
        (context, noted, .error (error.getD
          (fpDeviceError errorNotOpen "Goodix explicit VERIFY epoch reopen failed")))
      | (context, noted, .ok ()) => (context, noted, .ok ())
  else (context, [], .ok ())

/-- The activation of a production device up to its new generation. -/
def prepareActivation : Context × List Noted × Except GError Unit :=
  let action := device.framework.action
  if context.captureTerminal then
    (context, [], .error (unsupported
      "Goodix capture outcome is terminal; release the device before a new attempt"))
  else if action ≠ .enroll ∧ action ≠ .verify ∧ action ≠ .identify then
    (context, [], .error (unsupported
      "Goodix production boundary permits enrollment, verify and identify only"))
  else
    match device.reopenCompleted context with
    | (context, noted, .error error) => (context, noted, .error error)
    | (context, noted, .ok ()) =>
      if context.productionActionConsumed then
        (context, noted, .error (unsupported
          "Goodix production open epoch already consumed; close/reopen required"))
      else
        match device.consumeEpoch context with
        | (context, more, result) => (context, noted ++ more, result)

/-- The login session takes no further attempt. -/
def refusesLogin : Bool :=
  context.terminalFence ∨ context.poisoned ∨ context.loginAttempts ≥ 3 ∨
    (if context.loginPreparing then context.loginReady = false
      else context.loginReusable = false) ∨
    (device.framework.action ≠ .verify ∧ device.framework.action ≠ .identify) ∨
    (context.loginPreparing ∧ (context.postTls = none ∨ device.outside.authorizes = false))

/-- The login branch of `goodix_fpimage_device_activate`. -/
def activateLogin : Outcome :=
  if device.refusesLogin context then
    (device.put context).activateComplete (some
      (unsupported "Goodix login session unavailable; use password"))
  else
    let first := context.loginPreparing
    let context := { context with
      loginDeadline := false
      loginPreparing := false
      loginReady := false
      loginSeries := true
      loginReusable := false
      loginAttempts := context.loginAttempts + 1
      releaseTailComplete := false
      freshDownTable := false
      verify := { context.verify with resultKnown := false }
      identify := { context.identify with resultKnown := false }
      productionActionConsumed := true
      productionAction := device.framework.action
      activationCompleted := true
      state := .active }
    (((device.put context).activateComplete none).andThen
      (if first then [] else [.nextLogin])).behind [.loginAttached context.loginAttempts]

/-- `goodix_fpimage_device_activate`, with what the Chicago engine says to it. -/
def activate : Outcome :=
  if context.state ≠ .inactive ∧ context.state ≠ .active ∧ context.state ≠ .poisoned then
    (device, [], [.abort])
  else
    match device.outside.refusal with
    | some error => device.activateComplete (some error)
    | none =>
      if context.loginPreparing ∨ context.loginSeries then device.activateLogin context
      else if context.poisoned then
        device.activateComplete (some (poisonedError context))
      else if device.production = false then device.beginActivation context
      else
        match device.prepareActivation context with
        | (context, noted, .error error) =>
          ((device.put context).activateComplete (some error)).behind noted
        | (context, noted, .ok ()) => (device.beginActivation context).behind noted

/-- `goodix_post_tls_lifecycle_next_login` in `goodix_fpimage_device_activate`. -/
def nextLogin : Outcome :=
  match context.postTls with
  | none => (device, [], [.protocolFailure none])
  | some lifecycle =>
    if lifecycle.phase ≠ .stop ∨ context.isDrained = false then
      (device, [], [.protocolFailure (some (closedError
        "Prepared login requires a completed release and remaining attempt"))])
    else
      let context := { context with postTls := some { lifecycle with phase := .running } }
      match device.outside.nextLogin with
      | some error => (device.put context, [], [.protocolFailure (some error)])
      | none => (device.put context, [], [.starting, .armReceive])

/-- `on_activation_cancellable_cancelled` -/
def activationCancellableCancelled : Outcome :=
  if context.state ≠ .activating ∨ context.activationCompleted then device.nothing
  else
    device.setTerminalFence { context with cancelHandler := false } [] [.activationCancelled]

/-- `on_activation_cancellable_cancelled` behind the fence. -/
def activationCancelled : Outcome :=
  let context := { context with generation := 0 }.setPoisoned none
  ({ device.put { context with state := .inactive, activationCompleted := true } with
      activationCancelIdles := device.activationCancelIdles + 1 }, [], [])

/-- `login_prepare`; the engine that it makes where there is none stays outside, as in `activate`. -/
def loginPrepare : Outcome :=
  if device.production = false ∨ device.framework.action ≠ .none ∨ context.state ≠ .inactive ∨
      context.loginPreparing ∨ context.productionActionConsumed ∨ context.poisoned ∨
      context.usbInterfaceClaimed = false ∨ context.runtimeMaterial = false then
    device.nothing
  else
    let context := { context with
      loginPreparing := true
      generationSeq := context.generationSeq + 1
      generation := context.generationSeq + 1
      terminalFence := false
      state := .activating
      loginDeadline := true }
    match context.usb.backend.beginGeneration context.generation with
    | .error error => (device.put context, [], [.protocolFailure (some error)])
    | .ok backend =>
      let context := { context with
        usb := { backend, router := context.usb.router.beginGeneration context.generation } }
      (device.beginPreSessionRxSync context fun error => [.protocolFailure (some error)]).behind
        [.usb (.begun context.generation)]

/-- `goodix_device_context_test_login_post_tls`: a login that starts behind the secure session. -/
def testLoginPostTls : Outcome :=
  if context.state ≠ .inactive then device.nothing
  else
    let context := { context with
      loginPreparing := true
      generationSeq := context.generationSeq + 1
      generation := context.generationSeq + 1 }
    match context.usb.backend.beginGeneration context.generation with
    | .error error => (device.put context, [.usb (.refused error)], [])
    | .ok backend =>
      let context := { context with
        usb := { backend, router := context.usb.router.beginGeneration context.generation }
        state := .activating }
      let begun := [Noted.usb (.begun context.generation)]
      match device.configurePostTlsLifecycle context with
      | .error _ => (device.put context, begun, [])
      | .ok context => (device.put context, begun, [.component])

/-- `login_ready` -/
def loginReady : Outcome :=
  if context.loginPreparing = false ∨ context.terminalFence then device.nothing
  else
    (device.put { context with
      loginDeadline := true
      loginReady := true
      state := .active }, [.loginPrepared true], [])

/-! ## Deactivation -/

/-- The closing of the epoch in `goodix_device_context_finish_deactivation`. -/
def closeEpoch : Context × List Noted × Except GError Unit :=
  if device.production ∧ context.awaitsResult then
    device.closeCompletedCaptureEpoch context context.productionAction
  else (context, [], .ok ())

/-- A capture that failed poisons the context. -/
def failedCapture : Bool :=
  (context.productionAction = .identify ∧ context.identify.resultSuccess = false) ∨
    (context.productionAction = .verify ∧ context.verify.resultSuccess = false)

/-- A comparison of IDENTIFY that did not end without a match takes no enrolment behind it. -/
def disarmHandoff : Context :=
  if context.productionAction = .identify ∧
      (context.identify.resultSuccess = false ∨ context.identify.resultMatch) then
    { context with identifyEnrollHandoffArmed := false }
  else context

/-- The end of `goodix_device_context_finish_deactivation`. -/
def finishedDeactivation : Outcome :=
  let context := { context with deactivationPending := false }
  if context.loginReusable then
    (device.put { context with state := .inactive, loginDeadline := true }).deactivateComplete none
  else if context.deactivationNonquiescent then
    (device.put { context with poisoned := true, state := .poisoned }).deactivateComplete none
  else
    match device.closeEpoch { context with state := .inactive } with
    | (context, noted, .error error) =>
      ((device.put { context.setPoisoned (some error) with
        state := .poisoned }).deactivateComplete (some error)).behind noted
    | (context, noted, .ok ()) =>
      let context := disarmHandoff context
      if failedCapture context then
        ((device.put { context with
          poisoned := true
          state := .poisoned }).deactivateComplete none).behind noted
      else ((device.put context).deactivateComplete none).behind noted

/-- `goodix_device_context_finish_deactivation` -/
def finishDeactivation : Outcome :=
  if context.deactivationPending = false ∨ context.state ≠ .deactivating ∨
      context.isDrained = false then
    device.nothing
  else if context.loginReusable ∧
      (context.poisoned ∨ context.terminalFence ∨ device.framework.cancelled) then
    device.setTerminalFence { context with loginReusable := false } [] [.finishDeactivationFenced]
  else device.finishedDeactivation context

/-- `goodix_device_context_finish_deactivation` behind the fence of a login that is not carried
on. -/
def finishDeactivationFenced : Outcome :=
  device.finishedDeactivation { context with generation := 0, deactivationNonquiescent := true }

/-- `goodix_device_context_complete_deactivation` -/
def completeDeactivation : Outcome :=
  if context.deactivationPending = false ∨ context.state ≠ .deactivating ∨
      context.isDrained = false then
    (device.put context, [], [])
  else if context.deactivationNonquiescent = false ∧ context.poisoned = false ∧
      (device.production ∨ context.loginSeries) ∧ context.awaitsResult then
    if context.resultKnown = false ∨ context.deactivationCompletionScheduled then
      (device.put context, [], [])
    else
      ({ device.put { context with deactivationCompletionScheduled := true } with
          deactivationIdles := device.deactivationIdles + 1 }, [], [])
  else (device.put context, [], [.finishDeactivation])

/-- `goodix_fpimage_device_deactivate` -/
def deactivate : Outcome :=
  if context.state = .deactivating then device.nothing
  else
    let context := { context with
      terminalEnrollCompletionHeld := false
      state := .deactivating
      deactivationPending := true }.disconnectCancelHandler
    let context := { context with loginReusable := context.reusable device.framework.cancelled }
    if context.loginReusable then
      if context.isDrained then device.completeDeactivation context
      else (device.put context, [], [])
    else device.setTerminalFence context [] [.deactivateFenced]

/-- `goodix_fpimage_device_deactivate` behind the fence. -/
def deactivateFenced : Outcome :=
  let context := { context with
    generation := 0
    deactivationNonquiescent := device.framework.cancelled }
  if context.deactivationPending ∧ context.isDrained then device.completeDeactivation context
  else (device.put context, [], [])

/-- `context_usb_drained` -/
def usbDrained : Outcome :=
  if context.loginClosePending then
    ({ device.put { context with loginClosePending := false } with
        loginCloseIdles := device.loginCloseIdles + 1 }, [], [])
  else if context.deactivationPending then device.completeDeactivation context
  else device.nothing

/-- `goodix_fpimage_device_verify_result` and `goodix_fpimage_device_identify_result` -/
def captureResult (action : DeviceAction) (success isMatch : Bool) : Outcome :=
  if context.productionAction ≠ action then device.nothing
  else
    let result (epoch : CaptureEpoch) : CaptureEpoch := { epoch with
      resultKnown := true
      resultSuccess := success
      resultMatch := isMatch }
    let context :=
      if action = .verify then { context with verify := result context.verify }
      else { context with identify := result context.identify }
    (device.put (context.recordCaptureResult device.production success isMatch),
      [.captureResult action success isMatch], [.loginMaybeReportRelease, .captureResultKnown])

/-- The end of `goodix_fpimage_device_verify_result` and of its sibling. -/
def captureResultKnown : Outcome :=
  if context.deactivationPending ∧ context.isDrained then device.completeDeactivation context
  else device.nothing

/-! ## Opening and closing -/

/-- `goodix_fpimage_device_img_open` with its context. -/
def imgOpenContext : Outcome :=
  if context.state ≠ .opening then (device, [], [.abort])
  else if device.production = false then
    ({ device.put context with openIdles := device.openIdles + 1 }, [], [])
  else if device.framework.cancelled then
    ({ device with context := none } : Device).openComplete (some cancelledError)
  else (device.put { context with state := .inactive }).openComplete none

/-- `goodix_fpimage_device_img_open` -/
def imgOpen : Outcome :=
  match device.context with
  | some context => device.imgOpenContext context
  | none =>
    let context := Context.new .opening
    ((device.put context).imgOpenContext context).behind [.created]

/-- `goodix_fpimage_device_img_close` -/
def imgClose : Outcome :=
  if context.loginPreparing ∨ context.loginSeries then
    device.setTerminalFence { context with loginDeadline := false } [] [.imgCloseLogin]
  else (device, [], [.imgCloseFence])

/-- `goodix_fpimage_device_img_close` of a login: it waits for the backend. -/
def imgCloseLogin : Outcome :=
  if context.isDrained = false then
    (device.put { context with loginClosePending := true }, [], [])
  else (device, [], [.imgCloseFence])

/-- `goodix_fpimage_device_img_close` from its fence on. -/
def imgCloseFence : Outcome :=
  if context.state = .closing then (device, [], [.abort])
  else device.setTerminalFence context [] [.imgClosed]

/-- `goodix_fpimage_device_discard_context`: a context whose backend has not drained is not
freed. -/
def discardContext : Device :=
  { device with
    context := none
    abandoned := device.abandoned + context.usb.backend.inOutstanding +
      context.usb.backend.outOutstanding }

/-- The end of `goodix_fpimage_device_img_close`. -/
def imgClosed : Outcome :=
  match releaseClaim { context with state := .closing } device.outside.release with
  | (context, noted, error) =>
    ((device.discardContext context).closeComplete error).behind noted

end Device

end Goodix.DeviceContext
