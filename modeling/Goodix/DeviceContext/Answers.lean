import Goodix.DeviceContext.Synchronisation

/-! # What the framework is told

The framework asks the driver to activate and to deactivate, and each time it waits for an
answer.  A monitor reads from the log what is still to be answered, and what has failed
meanwhile.  Most steps of the device have nothing to do with it; they are told apart here.
-/

namespace Goodix.DeviceContext

open Usb Monitors

/-- What a log shows of the answers that the framework waits for. -/
structure Answers where
  awaited : Bool
  leaving : Bool
  /-- The fence of the generation, and the failure behind the last activation. -/
  fenced : Bool
  failure : Option GError

namespace Answers

def idle : Answers where
  awaited := false
  leaving := false
  fenced := false
  failure := none

def note (answers : Answers) : Noted → Answers
  | .activates _ => { answers with awaited := true, failure := none }
  | .activateComplete _ => { answers with awaited := false }
  | .deactivates => { answers with leaving := true }
  | .deactivateComplete _ => { answers with leaving := false }
  | .failed error => { answers with failure := some error }
  | .fenced => { answers with fenced := true }
  | .created | .usb (.begun _) => { answers with fenced := false }
  | _ => answers

def Allows (answers : Answers) : Noted → Prop
  | .activates _ => answers.awaited = false
  | .activateComplete none =>
    answers.awaited = true ∧ answers.fenced = false ∧ answers.failure = none
  | .activateComplete (some error) =>
    answers.awaited = true ∧ ∀ failure, answers.failure = some failure → error = failure
  | .deactivateComplete _ => answers.leaving = true
  | _ => True

end Answers

def answering : Monitor Answers Noted := ⟨Answers.idle, Answers.note, Answers.Allows⟩

/-- Entries that say nothing about the answers. -/
def Noted.isSilent : Noted → Bool
  | .activates _ | .activateComplete _ | .deactivates | .deactivateComplete _ | .failed _ | .fenced
  | .created | .usb (.begun _) => false
  | _ => true

theorem Noted.ignores_of_isSilent {entry : Noted} (silent : entry.isSilent = true) :
    answering.Ignores entry := by
  intro answers
  cases entry with
  | usb noted => cases noted <;> first | exact ⟨trivial, rfl⟩ | cases silent
  | _ => first | exact ⟨trivial, rfl⟩ | cases silent

theorem silent_foldl {noted : List Noted} (silent : noted.all Noted.isSilent = true)
    (answers : Answers) :
    answering.Admits answers noted ∧ noted.foldl Answers.note answers = answers :=
  Monitor.admits_of_ignores fun entry inside =>
    Noted.ignores_of_isSilent (List.all_eq_true.mp silent entry inside)

/-! ## The pieces -/

/-- What may be owed while an activation is prepared: code of the driver that does not answer. -/
def Piece.isWaiting : Piece → Bool
  | .component | .starting | .cancelling | .abort | .usb _ | .usbDrained | .usbFrame ..
  | .usbInCompleted | .usbOutCompleted | .syncCompleted .. | .startProtocol | .cancelBackend
  | .protocolFailure _ | .syncBegun _ | .startSecureGraph | .armReceive
  | .frameworkDeactivate _ => true
  | _ => false

/-- The same behind the components of the secure graph. -/
def Piece.isLate : Piece → Bool
  | .secureSessionStarted | .emitArmComplete => true
  | piece => piece.isWaiting

/-- What runs between a fence and whoever set it. -/
def Piece.isInert : Piece → Bool
  | .cancelling | .cancelBackend | .usb .notifyDrained | .usbDrained | .protocolFailure _ => true
  | _ => false

/-- What may be owed while no answer is awaited, wherever it stands. -/
def Piece.isPlain : Piece → Bool
  | .protocolFailed _ | .emittedTerminal _ | .activationCancelled | .activate | .nextLogin
  | .deactivate | .finishDeactivationFenced | .imgCloseLogin => false
  | _ => true

theorem Piece.isLate_of_isWaiting {piece : Piece} (waiting : piece.isWaiting = true) :
    piece.isLate = true := by
  cases piece <;> first | rfl | cases waiting

theorem Piece.isPlain_of_isLate {piece : Piece} (late : piece.isLate = true) :
    piece.isPlain = true := by
  cases piece <;> first | rfl | cases late

theorem Piece.isPlain_of_isWaiting {piece : Piece} (waiting : piece.isWaiting = true) :
    piece.isPlain = true :=
  isPlain_of_isLate (isLate_of_isWaiting waiting)

theorem all_imp {pieces : List Piece} {first second : Piece → Bool}
    (implies : ∀ {piece : Piece}, first piece = true → second piece = true)
    (all : pieces.all first = true) : pieces.all second = true :=
  List.all_eq_true.mpr fun piece inside => implies (List.all_eq_true.mp all piece inside)

/-! ## What most steps leave as it is -/

/-- The framework waits for the answer to an activation. -/
structure Framework.Awaits (framework : Framework) : Prop where
  captures : framework.action.captures = true
  inactive : framework.active = false
  returning : framework.returning = false
  activating : framework.state = .activating
  scanless : framework.minutiaeScanActive = false

/-- There is no component behind the secure session. -/
def Context.IsBare (context : Context) : Prop :=
  context.postTls = none ∧ context.enrollmentBinding = none

structure Context.Alike (context changed : Context) : Prop where
  state : changed.state = context.state
  fence : changed.terminalFence = context.terminalFence
  pending : changed.deactivationPending = context.deactivationPending
  closing : changed.loginClosePending = context.loginClosePending
  current : context.state = .activating → context.generation ≠ 0 → changed.generation ≠ 0
  bare : context.IsBare → changed.IsBare

theorem Context.Alike.rfl {context : Context} : context.Alike context :=
  ⟨.refl _, .refl _, .refl _, .refl _, fun _ => id, id⟩

/-- A step that changes nothing of what the answers depend on. -/
structure Still (device : Device) (outcome : Outcome) : Prop where
  active : outcome.1.framework.active = device.framework.active
  cancelIdles : outcome.1.activationCancelIdles = device.activationCancelIdles
  openIdles : outcome.1.openIdles = device.openIdles
  closeIdles : outcome.1.loginCloseIdles = device.loginCloseIdles
  contexts : Option.Rel Context.Alike device.context outcome.1.context
  silent : outcome.2.1.all Noted.isSilent = true
  plain : outcome.2.2.all Piece.isPlain = true

/-- Such a step while an activation is prepared. -/
structure Calm (device : Device) (outcome : Outcome) : Prop extends Still device outcome where
  awaits : device.framework.Awaits → outcome.1.framework.Awaits
  waiting : outcome.2.2.all Piece.isWaiting = true

section

variable {device : Device} {context changed : Context} {noted : List Noted} {pieces : List Piece}

theorem contexts_alike (device : Device) :
    Option.Rel Context.Alike device.context device.context := by
  cases device.context with
  | none => exact .none
  | some context => exact .some .rfl

theorem Still.put (present : device.context = some context) (alike : context.Alike changed)
    (silent : noted.all Noted.isSilent = true) (plain : pieces.all Piece.isPlain = true) :
    Still device (device.put changed, noted, pieces) :=
  ⟨rfl, rfl, rfl, rfl, by rw [present]; exact .some alike, silent, plain⟩

theorem Calm.put (present : device.context = some context) (alike : context.Alike changed)
    (silent : noted.all Noted.isSilent = true) (waiting : pieces.all Piece.isWaiting = true) :
    Calm device (device.put changed, noted, pieces) :=
  ⟨.put present alike silent (all_imp Piece.isPlain_of_isWaiting waiting), id, waiting⟩

theorem Still.same (silent : noted.all Noted.isSilent = true)
    (plain : pieces.all Piece.isPlain = true) : Still device (device, noted, pieces) :=
  ⟨rfl, rfl, rfl, rfl, contexts_alike device, silent, plain⟩

theorem Calm.same (silent : noted.all Noted.isSilent = true)
    (waiting : pieces.all Piece.isWaiting = true) : Calm device (device, noted, pieces) :=
  ⟨.same silent (all_imp Piece.isPlain_of_isWaiting waiting), id, waiting⟩

theorem Still.framework {framework : Framework}
    (active : framework.active = device.framework.active)
    (silent : noted.all Noted.isSilent = true) (plain : pieces.all Piece.isPlain = true) :
    Still device (device.withFramework framework, noted, pieces) :=
  ⟨active, rfl, rfl, rfl, contexts_alike device, silent, plain⟩

theorem Still.withContext {function : Context → Outcome}
    (still : ∀ context, device.context = some context → Still device (function context)) :
    Still device (device.withContext function) := by
  unfold Device.withContext
  split
  · exact .same rfl rfl
  · exact still _ ‹_›

theorem Calm.withContext {function : Context → Outcome}
    (calm : ∀ context, device.context = some context → Calm device (function context)) :
    Calm device (device.withContext function) := by
  unfold Device.withContext
  split
  · exact .same rfl rfl
  · exact calm _ ‹_›

/-- The backend of the context changes. -/
theorem alike_usb (context : Context) (usb : Stack Owner) : context.Alike { context with usb } :=
  { Context.Alike.rfl with }

/-! ## The backend -/

theorem call_silent {call : Usb.Call Owner} (usb : Stack Owner)
    (other : ∀ generation, call ≠ .beginGeneration generation) :
    ((usb.call call).2.1.map Noted.usb).all Noted.isSilent = true := by
  cases call with
  | beginGeneration generation => exact absurd rfl (other generation)
  | beginRouterGeneration | setOutCompletedCallback => rfl
  | armReceive | beginPreSessionSync | armPreSessionSyncReceive | endPreSessionSync | submitOut =>
    simp only [Stack.call, Stack.settle]
    split <;> rfl
  | completeReceive =>
    simp only [Stack.call]
    split
    · rfl
    split
    · split <;> rfl
    · rfl
  | completeOut | cancel =>
    simp only [Stack.call]
    split <;> rfl

theorem Calm.callUsb (present : device.context = some context) {call : Usb.Call Owner}
    (other : ∀ generation, call ≠ .beginGeneration generation) :
    Calm device (device.callUsb context call) := by
  refine .put present (alike_usb _ _) (call_silent context.usb other) ?_
  simp [Function.comp_def, Piece.isWaiting]

theorem turn_silent (usb : Stack Owner) (work : Work) :
    ((usb.turn work).2.1.map Noted.usb).all Noted.isSilent = true := by
  cases work with
  | parse =>
    simp only [Stack.turn]
    split
    · rfl
    split <;> rfl
  | receiveCompleted purpose => cases purpose <;> rfl
  | outCompleted | notifyDrained =>
    simp only [Stack.turn]
    split <;> rfl

theorem turn_waiting (usb : Stack Owner) (work : Work) :
    ((usb.turn work).2.1.flatMap Device.callbackOf ++
      ((usb.turn work).2.2.getD []).map Piece.usb).all Piece.isWaiting = true := by
  cases work with
  | parse =>
    simp only [Stack.turn]
    split
    · rfl
    split <;> rfl
  | receiveCompleted purpose => cases purpose <;> rfl
  | outCompleted | notifyDrained =>
    simp only [Stack.turn]
    split <;> rfl

theorem Calm.turnUsb (present : device.context = some context) (work : Work) :
    Calm device (device.turnUsb context work) :=
  .put present (alike_usb _ _) (turn_silent context.usb work) (turn_waiting context.usb work)

theorem Still.armReceive (present : device.context = some context)
    {refused : GError → List Piece} {armed : List Piece}
    (plainRefused : ∀ error, (refused error).all Piece.isPlain = true)
    (plainArmed : armed.all Piece.isPlain = true) :
    Still device (device.armReceive context refused armed) := by
  unfold Device.armReceive
  split
  · exact .same rfl (plainRefused _)
  · exact .put present (alike_usb _ _) rfl plainArmed

theorem Calm.armReceive (present : device.context = some context)
    {refused : GError → List Piece} {armed : List Piece}
    (waitingRefused : ∀ error, (refused error).all Piece.isWaiting = true)
    (waitingArmed : armed.all Piece.isWaiting = true) :
    Calm device (device.armReceive context refused armed) := by
  unfold Device.armReceive
  split
  · exact .same rfl (waitingRefused _)
  · exact .put present (alike_usb _ _) rfl waitingArmed

/-! ## The synchronisation -/

theorem Calm.syncFail (present : device.context = some context) (alike : context.Alike changed)
    (error : GError) : Calm device (device.syncFail changed error) := by
  refine .put present ?_ rfl rfl
  exact { alike with }

theorem Calm.syncCompleted (present : device.context = some context) (generation : Nat)
    (completion : Completion) :
    Calm device (device.syncCompleted context generation completion) := by
  have synced (sync : RxSync) : context.Alike { context with sync } := { Context.Alike.rfl with }
  have both (sync : RxSync) (usb : Stack Owner) : context.Alike { context with sync, usb } :=
    { Context.Alike.rfl with }
  unfold Device.syncCompleted
  dsimp only
  split
  · exact .put present (synced _) rfl rfl
  split
  · exact .syncFail present (synced _) _
  split
  · split
    · split
      · exact .syncFail present (synced _) _
      · exact .put present (both _ _) rfl rfl
    · exact .syncFail present (synced _) _
  · split
    · exact .syncFail present (synced _) _
    split
    · exact .syncFail present (synced _) _
    · split
      · exact .syncFail present (synced _) _
      · exact .put present (both _ _) rfl rfl

/-! ## The components -/

theorem Calm.startLivePreflight (present : device.context = some context) :
    Calm device (device.startLivePreflight context) := by
  unfold Device.startLivePreflight
  split
  · exact .put present .rfl rfl rfl
  · exact .put present { Context.Alike.rfl with } rfl rfl

theorem Calm.startPairingActivation (present : device.context = some context)
    (alike : context.Alike changed) : Calm device (device.startPairingActivation changed) := by
  unfold Device.startPairingActivation
  split
  · exact .put present alike rfl rfl
  split
  · exact .put present alike rfl rfl
  · refine .put present ?_ rfl rfl
    exact { alike with }

theorem Calm.finishLivePreflight (present : device.context = some context) :
    Calm device (device.finishLivePreflight context) := by
  have finished : context.Alike { context with
      livePreflight := false
      usb := { context.usb with
        backend := { context.usb.backend with outCompletedCallback := none } } } :=
    { Context.Alike.rfl with }
  unfold Device.finishLivePreflight
  split
  · exact .same rfl rfl
  dsimp only
  split
  · exact .put present finished rfl rfl
  · refine .startPairingActivation present ?_
    exact { finished with }
  · exact .put present finished rfl rfl
  · refine .put present ?_ rfl rfl
    exact { finished with }

theorem Calm.pairingReady (present : device.context = some context) :
    Calm device (device.pairingReady context) := by
  unfold Device.pairingReady
  dsimp only
  split
  · exact .put present (alike_usb _ _) rfl rfl
  · exact .put present (alike_usb _ _) rfl rfl

theorem Still.secureSessionStarted (present : device.context = some context) :
    Still device (device.secureSessionStarted context) := by
  unfold Device.secureSessionStarted
  split
  · exact .same rfl rfl
  · refine .armReceive present (fun _ => rfl) ?_
    split <;> rfl

/-! ## Deactivation -/

theorem Still.completeDeactivation (present : device.context = some context)
    (alike : context.Alike changed) : Still device (device.completeDeactivation changed) := by
  unfold Device.completeDeactivation
  split
  · exact .put present alike rfl rfl
  split
  · split
    · exact .put present alike rfl rfl
    · exact ⟨rfl, rfl, rfl, rfl, by rw [present]; exact .some { alike with }, rfl, rfl⟩
  · exact .put present alike rfl rfl

theorem Still.deactivateFenced (present : device.context = some context)
    (settled : context.state ≠ .activating) : Still device (device.deactivateFenced context) := by
  have fenced : context.Alike { context with
      generation := 0
      deactivationNonquiescent := device.framework.cancelled } :=
    { Context.Alike.rfl with current := fun activating => absurd activating settled }
  unfold Device.deactivateFenced
  dsimp only
  split
  · exact .completeDeactivation present fenced
  · exact .put present fenced rfl rfl

theorem Still.usbDrained (present : device.context = some context)
    (open' : context.loginClosePending = false) : Still device (device.usbDrained context) := by
  unfold Device.usbDrained
  rw [open', if_neg Bool.false_ne_true]
  split
  · exact .completeDeactivation present .rfl
  · exact .same rfl rfl

theorem Still.captureResult (present : device.context = some context) (action : DeviceAction)
    (success isMatch : Bool) :
    Still device (device.captureResult context action success isMatch) := by
  unfold Device.captureResult
  split
  · exact .same rfl rfl
  · refine .put present ?_ rfl rfl
    dsimp only [Context.recordCaptureResult]
    split <;> split <;> exact { Context.Alike.rfl with }

theorem Still.captureResultKnown (present : device.context = some context) :
    Still device (device.captureResultKnown context) := by
  unfold Device.captureResultKnown
  split
  · exact .completeDeactivation present .rfl
  · exact .same rfl rfl

/-! ## The framework -/

theorem Still.changeState (state : ImageState) : Still device (device.changeState state) := by
  unfold Device.changeState Device.withContext
  dsimp only
  split
  · exact .framework rfl rfl rfl
  · rename_i context present
    have present : device.context = some context := present
    split <;>
      exact ⟨rfl, rfl, rfl, rfl, by rw [present]; exact .some { Context.Alike.rfl with }, rfl, rfl⟩

theorem Still.maybeCompleteAction (error : Option GError) :
    Still device (device.maybeCompleteAction error) := by
  unfold Device.maybeCompleteAction
  dsimp only
  split
  · exact .framework rfl rfl rfl
  split
  · refine .framework rfl rfl ?_
    repeat' split
    all_goals rfl
  · exact .framework rfl rfl rfl

theorem Still.enrollMaybeAwaitFingerOn : Still device device.enrollMaybeAwaitFingerOn := by
  unfold Device.enrollMaybeAwaitFingerOn
  dsimp only
  split
  · exact .same rfl rfl
  split <;> exact .same rfl rfl

theorem Still.emitFingerStatus (context : Context) (finger : Bool) :
    Still device (device.emitFingerStatus context finger) := by
  unfold Device.emitFingerStatus
  split
  · exact .same rfl rfl
  unfold Device.reportFingerStatus
  dsimp only
  split
  · exact .same rfl rfl
  split
  · exact .same rfl rfl
  split
  · exact .framework rfl rfl rfl
  split
  · refine .framework rfl rfl ?_
    split <;> rfl
  · exact .framework rfl rfl rfl

theorem Still.imageCaptured : Still device device.imageCaptured := by
  unfold Device.imageCaptured
  dsimp only
  split
  · exact .same rfl rfl
  · exact .framework rfl rfl rfl

theorem enrollmentProcessed_plain (device : Device) (error : Option GError) (complete : Bool) :
    (device.enrollmentProcessed error complete).all Piece.isPlain = true := by
  unfold Device.enrollmentProcessed
  split
  · rfl
  split
  · split <;> rfl
  · rfl

theorem Still.minutiaeDetected (scan : Scan) : Still device (device.minutiaeDetected scan) := by
  unfold Device.minutiaeDetected
  dsimp only
  split
  · exact .framework rfl rfl rfl
  split
  · exact .framework rfl rfl rfl
  split
  · refine .framework rfl rfl ?_
    split <;> rfl
  split
  · exact .framework rfl rfl (enrollmentProcessed_plain ..)
  · refine .framework rfl rfl ?_
    split <;> rfl

theorem Still.rawImageCaptured (scan : Scan) : Still device (device.rawImageCaptured scan) := by
  unfold Device.rawImageCaptured
  dsimp only
  split
  · exact .same rfl rfl
  generalize scan.fatal.or
    (if device.framework.cancelled = true then some cancelledError else none) = error
  split
  · exact .same rfl rfl
  split
  · refine .same rfl ?_
    split
    · rfl
    split
    · split <;> rfl
    · rfl
  split
  · refine .same rfl ?_
    split <;> rfl
  · exact .same rfl rfl

theorem Still.retryScan : Still device device.retryScan := by
  unfold Device.retryScan
  split <;> exact .same rfl rfl

theorem Still.holdEnrollCompletion (present : device.context = some context) :
    Still device (device.holdEnrollCompletion context) := by
  have held : Option.Rel Context.Alike device.context
      (some { context with terminalEnrollCompletionHeld := true }) := by
    rw [present]
    exact .some { Context.Alike.rfl with }
  unfold Device.holdEnrollCompletion
  dsimp only
  split <;> exact ⟨rfl, rfl, rfl, rfl, held, rfl, rfl⟩

theorem Still.releaseEnrollCompletion (present : device.context = some context) :
    Still device (device.releaseEnrollCompletion context) := by
  have released : Option.Rel Context.Alike device.context
      (some { context with terminalEnrollCompletionHeld := false }) := by
    rw [present]
    exact .some { Context.Alike.rfl with }
  unfold Device.releaseEnrollCompletion
  dsimp only
  split
  · exact .same rfl rfl
  split
  · exact ⟨rfl, rfl, rfl, rfl, released, rfl, rfl⟩
  · refine ⟨rfl, rfl, rfl, rfl, released, rfl, ?_⟩
    split <;> rfl

end

end Goodix.DeviceContext
