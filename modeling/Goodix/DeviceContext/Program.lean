import Goodix.DeviceContext.Machine

/-! # The device as a program

All pieces put together.  The main loop calls while nothing is owed; the components call while one
of them has control, whatever they like and in any order.
-/

namespace Goodix.DeviceContext

open Usb

/-! ## The pieces -/

open Device in
def perform (device : Device) : Piece → Outcome
  | .component | .starting | .cancelling => device.nothing
  | .abort => (device, [], [.abort])
  | .usb work => device.withContext fun context => device.turnUsb context work
  | .usbDrained => device.withContext device.usbDrained
  -- which component takes a frame or arms a receive, the components decide
  | .usbFrame .. | .usbInCompleted =>
    device.withContext fun context =>
      if context.terminalFence then device.nothing else (device, [], [.component])
  | .usbOutCompleted => (device, [], [.component])
  | .syncCompleted generation completion =>
    device.withContext fun context => device.syncCompleted context generation completion
  | .startProtocol => device.withContext device.startProtocol
  | .cancelBackend => device.withContext fun context => device.callUsb context .cancel
  | .protocolFailure error => device.withContext fun context => device.protocolFailure context error
  | .protocolFailed error => device.withContext fun context => device.protocolFailed context error
  | .emittedTerminal error =>
    device.withContext fun context => device.emittedTerminal context error
  | .activationCancelled => device.withContext device.activationCancelled
  | .syncBegun error =>
    device.withContext fun context =>
      if context.state = .activating then device.protocolFailure context (some error)
      else device.nothing
  | .startSecureGraph => device.withContext device.startSecureGraph
  | .secureSessionStarted => device.withContext device.secureSessionStarted
  | .emitArmComplete => device.withContext device.emitArmComplete
  | .emitFingerStatus present =>
    device.withContext fun context => device.emitFingerStatus context present
  | .loginMaybeReportRelease =>
    device.withContext fun context =>
      if context.reportsRelease then device.emitFingerStatus context false else device.nothing
  | .nextLogin => device.withContext device.nextLogin
  | .armReceive =>
    device.withContext fun context =>
      device.armReceive context (fun error => [.protocolFailure (some error)]) []
  | .captureResult action success isMatch =>
    device.withContext fun context => device.captureResult context action success isMatch
  | .captureResultKnown => device.withContext device.captureResultKnown
  | .imgOpen => device.imgOpen
  | .activate => device.withContext device.activate
  | .deactivate => device.withContext device.deactivate
  | .deactivateFenced => device.withContext device.deactivateFenced
  | .finishDeactivation => device.withContext device.finishDeactivation
  | .finishDeactivationFenced => device.withContext device.finishDeactivationFenced
  | .imgClose => device.withContext device.imgClose
  | .imgCloseLogin => device.withContext device.imgCloseLogin
  | .imgCloseFence => device.withContext device.imgCloseFence
  | .imgClosed => device.withContext device.imgClosed
  | .changeState state => device.changeState state
  | .frameworkDeactivate cancelling => device.frameworkDeactivate cancelling
  | .maybeCompleteAction error => device.maybeCompleteAction error
  | .enrollMaybeAwaitFingerOn => device.enrollMaybeAwaitFingerOn

/-! ## The calls -/

inductive Call where
  -- the parts outside and the clock
  | outside (outside : Outside)
  | tick (now : Int)
  -- a client
  | openDevice (cancelled : Bool)
  | closeDevice
  | start (action : DeviceAction) (cancelled : Bool)
  | cancel
  | loginPrepare
  -- the main loop
  | openCompleteIdle
  | cancelIdle
  | returnTask
  | activationCancelIdle
  | deactivationIdle
  | loginCloseIdle
  | loginDeadline
  | timer
  | minutiaeDetected (scan : Scan)
  | completeReceive (generation : Nat) (completion : Completion)
  | completeOut (generation : Nat) (error : Option GError)
  | completeAbandoned
  -- the tests of the driver, with a device that is no production device
  | testLoginPostTls
  | testArmComplete
  -- a component
  | submitOut (owner : Owner) (bytes : List UInt8)
  | setOutCompletedCallback (callback : Option Owner)
  | armReceive
  | protocolFailure (error : Option GError)
  | fingerDown
  | releaseTail
  | fingerUp
  | enrollmentFingerUp
  | imageCaptured
  | rawImageCaptured (scan : Scan)
  | retryScan
  | holdEnrollCompletion
  | releaseEnrollCompletion
  | loginReady
  | livePreflightFinished
  | pairingReady
  | lifecyclePhase (phase : LifecyclePhase)
  | bindEnrollment

open Device in
def call (device : Device) : Call → Outcome
  | .outside outside => ({ device with outside }, [], [])
  | .tick now => ({ device with now }, [], [])
  | .openDevice cancelled =>
    (device.withFramework { device.framework with
      action := .openDevice
      returning := false
      cancelled
      cancelIdle := false }, [], [.imgOpen])
  | .closeDevice =>
    (device.withFramework { device.framework with
      action := .closeDevice
      returning := false
      cancelled := false
      cancelIdle := false }, [],
      if device.framework.active then [.abort] else [.imgClose])
  | .start action cancelled => device.start action cancelled
  | .cancel =>
    let device := device.withFramework { device.framework with
      cancelled := true
      cancelIdle := !device.framework.returning }
    device.withContext fun context =>
      if context.cancelHandler then device.activationCancellableCancelled context
      else device.nothing
  | .loginPrepare => device.withContext device.loginPrepare
  | .openCompleteIdle =>
    let device := { device with openIdles := device.openIdles - 1 }
    if device.framework.cancelled then
      ({ device with context := none } : Device).openComplete (some cancelledError)
    else
      device.withContext fun context =>
        (device.put { context with state := .inactive }).openComplete none
  | .cancelIdle =>
    let device := device.withFramework { device.framework with cancelIdle := false }
    (device, [], if device.framework.action.captures then [.frameworkDeactivate true] else [])
  | .returnTask =>
    (device.withFramework { device.framework with
      action := .none
      returning := false
      cancelled := false }, [], [])
  | .activationCancelIdle =>
    let device := { device with activationCancelIdles := device.activationCancelIdles - 1 }
    device.withContext fun context =>
      if context.state = .inactive ∧ context.activationCompleted ∧
          context.activationCancellable ∧ device.framework.cancelled then
        device.activateComplete (some cancelledError)
      else device.nothing
  | .deactivationIdle =>
    let device := { device with deactivationIdles := device.deactivationIdles - 1 }
    device.withContext fun context =>
      let context := { context with deactivationCompletionScheduled := false }
      if context.deactivationPending ∧ context.state = .deactivating ∧ context.isDrained then
        (device.put context, [], [.finishDeactivation])
      else (device.put context, [], [])
  | .loginCloseIdle =>
    ({ device with loginCloseIdles := device.loginCloseIdles - 1 }, [], [.imgClose])
  | .loginDeadline =>
    device.withContext fun context =>
      (device.put { context with loginDeadline := false }, [],
        [.protocolFailure (some (ioError 24 "Goodix login preparation expired; use password"))])
  | .timer => (device, [], [.component])
  | .minutiaeDetected scan => device.minutiaeDetected scan
  | .completeReceive generation completion =>
    device.withContext fun context =>
      device.callUsb context (.completeReceive generation completion)
  | .completeOut generation error =>
    device.withContext fun context => device.callUsb context (.completeOut generation error)
  | .completeAbandoned =>
    ({ device with abandoned := device.abandoned - 1 }, [.abandonedCompleted], [])
  | .testLoginPostTls => device.withContext device.testLoginPostTls
  | .testArmComplete => (device, [], [.emitArmComplete])
  | .submitOut owner bytes =>
    device.withContext fun context =>
      match context.submitsFor owner with
      | none => device.nothing
      | some generation => device.callUsb context (.submitOut generation bytes)
  | .setOutCompletedCallback callback =>
    device.withContext fun context => device.callUsb context (.setOutCompletedCallback callback)
  | .armReceive =>
    device.withContext fun context => device.armReceive context (fun _ => []) []
  | .protocolFailure error => (device, [], [.protocolFailure error])
  | .fingerDown => (device, [], [.emitFingerStatus true])
  | .releaseTail =>
    device.withContext fun context =>
      (device.put { context with
        freshDownTable := true
        releaseTailComplete := context.releaseTailComplete || !context.isStaleOrFenced },
        [.releaseTail], [])
  | .fingerUp =>
    device.withContext fun context =>
      (device, [],
        [if context.loginSeries then .loginMaybeReportRelease else .emitFingerStatus false])
  | .enrollmentFingerUp =>
    device.withContext fun context =>
      if context.terminalFence then device.nothing
      else
        (device.put { context with freshDownTable := true, releaseTailComplete := true }, [],
          [.emitFingerStatus false])
  | .imageCaptured => device.imageCaptured
  | .rawImageCaptured scan =>
    device.withContext fun context =>
      if context.isStaleOrFenced ∨ device.framework.cancelled then device.nothing
      else device.rawImageCaptured scan
  | .retryScan =>
    device.withContext fun context =>
      if context.terminalFence then device.nothing else device.retryScan
  | .holdEnrollCompletion =>
    device.withContext fun context =>
      if context.terminalFence then device.nothing else device.holdEnrollCompletion context
  | .releaseEnrollCompletion => device.withContext device.releaseEnrollCompletion
  | .loginReady => device.withContext device.loginReady
  | .livePreflightFinished => device.withContext device.finishLivePreflight
  | .pairingReady => device.withContext device.pairingReady
  | .lifecyclePhase phase =>
    device.withContext fun context =>
      (device.put { context with
        postTls := context.postTls.map fun lifecycle => { lifecycle with phase } }, [], [])
  | .bindEnrollment =>
    device.withContext fun context =>
      if context.terminalFence ∨ context.pendingEnrollmentEvents = false ∨
          context.enrollmentBinding ≠ none ∨ context.isDrained = false then
        device.nothing
      else
        (device.put { context with
          pendingEnrollmentEvents := false
          enrollmentBinding := some context.generation }, [], [])

/-- What the main loop may do. -/
def mainLoopPermits (device : Device) : Call → Bool
  | .outside _ => true
  | .tick now => device.now ≤ now
  | .openDevice _ =>
    device.framework.action = .none && !device.framework.isOpen
  | .closeDevice => device.framework.action = .none && device.framework.isOpen
  | .start action _ =>
    device.framework.action = .none && device.framework.isOpen && action.captures
  | .cancel => device.framework.action ≠ .none && !device.framework.cancelled
  | .loginPrepare => true
  | .openCompleteIdle => device.openIdles ≠ 0
  | .cancelIdle => device.framework.cancelIdle
  | .returnTask => device.framework.returning
  | .activationCancelIdle => device.activationCancelIdles ≠ 0
  | .deactivationIdle => device.deactivationIdles ≠ 0
  | .loginCloseIdle => device.loginCloseIdles ≠ 0
  | .loginDeadline => (device.context.map Context.loginDeadline).getD false
  | .timer => true
  | .minutiaeDetected _ => device.framework.minutiaeScanActive
  | .completeReceive .. | .completeOut .. => true
  | .completeAbandoned => device.abandoned ≠ 0
  | .testLoginPostTls => !device.production
  -- the tests arm for an activation, and a login that is prepared has none
  | .testArmComplete =>
    !device.production && !(device.context.map Context.loginPreparing).getD false
  | _ => false

/-- What a component may do that has control. -/
def componentPermits (context : Context) : Call → Bool
  | .setOutCompletedCallback _ | .protocolFailure _ | .outside _ => context.hasComponent
  | .submitOut owner _ => (context.submitsFor owner).isSome
  | .armReceive => context.needsReceive
  | .fingerDown | .imageCaptured | .rawImageCaptured _ | .releaseTail | .fingerUp | .loginReady =>
    context.postTls ≠ none
  | .enrollmentFingerUp | .retryScan | .holdEnrollCompletion | .releaseEnrollCompletion =>
    context.enrollmentBinding ≠ none
  | .livePreflightFinished => context.livePreflight
  | .pairingReady => context.pairingActivation
  | .lifecyclePhase phase =>
    (context.postTls.map fun lifecycle => lifecycle.mayReach phase).getD false
  | .bindEnrollment => context.postTls.map Lifecycle.phase = some .running
  | _ => false

/-- What a component may do while it takes its first step. -/
def startingPermits (context : Context) : Call → Bool
  | .setOutCompletedCallback _ | .protocolFailure _ | .outside _ => context.hasComponent
  | .submitOut owner _ => (context.submitsFor owner).isSome
  | .armReceive => context.needsReceive
  | _ => false

/-- What a component may do while it is cancelled. -/
def cancellingPermits (context : Context) : Call → Bool
  | .setOutCompletedCallback _ | .protocolFailure _ | .outside _ => context.hasComponent
  | .lifecyclePhase .terminal => context.postTls ≠ none
  | _ => false

/-- What a component may do that has control in one of these ways. -/
def innerPermits (context : Context) (call : Call) : Bool :=
  componentPermits context call || startingPermits context call || cancellingPermits context call

/-- What a component may do, by what is on top. -/
def piecePermits (device : Device) (piece : Piece) (call : Call) : Bool :=
  match piece with
  | .component => device.context.any fun context => componentPermits context call
  | .starting => device.context.any fun context => startingPermits context call
  | .cancelling => device.context.any fun context => cancellingPermits context call
  | _ => false

/-- A client may cancel from inside a callback, and callbacks stand between any two pieces.  None
runs while the driver activates. -/
def clientPermits (device : Device) : Call → Bool
  | .cancel =>
    device.framework.action ≠ .none && !device.framework.cancelled &&
      device.context.all fun context => context.state ≠ .activating
  | _ => false

def permits (device : Device) (piece : Option Piece) (call : Call) : Bool :=
  match piece with
  | none => mainLoopPermits device call
  | some piece => clientPermits device call || piecePermits device piece call

/-- The device with everything around it. -/
def program : Pieces.Program Device Call Piece Noted := ⟨call, perform, permits⟩

/-- Nothing but the cancellation is left to a client. -/
theorem cancel_of_clientPermits {device : Device} {call : Call}
    (permitted : clientPermits device call = true) :
    call = .cancel ∧
      ∀ context, device.context = some context → context.state ≠ .activating := by
  cases call with
  | cancel =>
    simp only [clientPermits, Bool.and_eq_true, Option.all_eq_true, decide_eq_true_eq] at permitted
    exact ⟨rfl, permitted.2⟩
  | _ => cases permitted

/-- Unless the driver activates, a cancellation is only noted. -/
theorem cancel_eq {device : Device}
    (settled : ∀ context, device.context = some context → context.state ≠ .activating) :
    Goodix.DeviceContext.call device .cancel =
      (device.withFramework { device.framework with
        cancelled := true
        cancelIdle := !device.framework.returning }, [], []) := by
  unfold Goodix.DeviceContext.call Device.withContext
  dsimp only
  split
  · rfl
  · rename_i context present
    split
    · unfold Device.activationCancellableCancelled
      rw [if_pos (.inl (settled context present))]
      rfl
    · rfl

/-- Whoever else calls while something is owed is a component of the context. -/
theorem inner_of_permits {device : Device} {piece : Piece} {call : Call}
    (permitted : piecePermits device piece call = true) :
    ∃ context, device.context = some context ∧ innerPermits context call = true := by
  cases piece with
  | component | starting | cancelling =>
    obtain ⟨context, present, permitted⟩ := (Option.any_eq_true ..).mp permitted
    exact ⟨context, present, by simp [innerPermits, permitted]⟩
  | _ => cases permitted

theorem Context.hasComponent_of_submitsFor {context : Context} {owner : Owner}
    (submits : (context.submitsFor owner).isSome = true) : context.hasComponent = true := by
  cases owner with
  | livePreflight | pairingActivation =>
    by_contra absent
    simp_all [Context.submitsFor, Context.hasComponent]
  | secureSession | enrollmentBinding =>
    have present := Option.isSome_iff_ne_none.mp submits
    simp only [Context.submitsFor] at present
    simp [Context.hasComponent, present]
  | postTlsLifecycle =>
    have present : context.postTls ≠ none := by
      intro absent
      simp [Context.submitsFor, absent] at submits
    simp [Context.hasComponent, present]

theorem Context.hasComponent_of_needsReceive {context : Context}
    (needs : context.needsReceive = true) : context.hasComponent = true := by
  simp only [Context.needsReceive, decide_eq_true_eq] at needs
  simp only [Context.hasComponent, decide_eq_true_eq]
  rcases needs with live | pairing | session | binding | lifecycle
  · exact .inl live
  · exact .inr (.inl pairing)
  · exact .inr (.inr (.inl session))
  · exact .inr (.inr (.inr (.inr binding)))
  · exact .inr (.inr (.inr (.inl (by rintro absent; simp [absent] at lifecycle))))

/-- Whoever calls from inside is there. -/
theorem hasComponent_of_permits {context : Context} {call : Call}
    (permitted : innerPermits context call = true) : context.hasComponent = true := by
  cases call with
  | submitOut owner bytes =>
    refine @Context.hasComponent_of_submitsFor _ owner ?_
    simpa [innerPermits, componentPermits, startingPermits, cancellingPermits] using permitted
  | armReceive =>
    refine Context.hasComponent_of_needsReceive ?_
    simpa [innerPermits, componentPermits, startingPermits, cancellingPermits] using permitted
  | lifecyclePhase phase =>
    have present : context.postTls ≠ none := by
      intro absent
      cases phase <;>
        simp [innerPermits, componentPermits, startingPermits, cancellingPermits, absent]
          at permitted
    simp [Context.hasComponent, present]
  | bindEnrollment =>
    have present : context.postTls ≠ none := by
      intro absent
      simp [innerPermits, componentPermits, startingPermits, cancellingPermits, absent] at permitted
    simp [Context.hasComponent, present]
  | _ =>
    first
    | cases permitted
    | simp_all [innerPermits, componentPermits, startingPermits, cancellingPermits,
        Context.hasComponent]

end Goodix.DeviceContext
