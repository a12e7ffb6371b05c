import Goodix.DeviceContext.Answers

/-! # The activation

Every activation of a production device is answered at most once: with success only while
nothing has failed, and otherwise with the failure.
-/

namespace Goodix.DeviceContext

open Usb Monitors

section

variable {device : Device} {context changed : Context}

/-! ## The driver prepares an activation -/

/-- What is owed while the secure graph is built. -/
inductive Building : List Piece → Prop where
  | starting {below : List Piece} (late : below.all Piece.isLate = true) :
    Building (.starting :: .secureSessionStarted :: below)
  | started {below : List Piece} (late : below.all Piece.isLate = true) :
    Building (.secureSessionStarted :: below)
  | cancelling {error : Option GError} {below : List Piece} (late : below.all Piece.isLate = true) :
    Building (.cancelling :: .protocolFailure error :: below)
  | fails {error : Option GError} {below : List Piece} (late : below.all Piece.isLate = true) :
    Building (.protocolFailure error :: below)
  | arms {below : List Piece} (late : below.all Piece.isLate = true) :
    Building (.emitArmComplete :: below)

theorem Building.late {owed : List Piece} (building : Building owed) :
    owed.all Piece.isLate = true := by
  cases building with
  | starting late | started late | cancelling late | fails late | arms late =>
    simpa [Piece.isLate, Piece.isWaiting] using late

theorem Building.append {pieces owed : List Piece} (building : Building pieces)
    (late : owed.all Piece.isLate = true) : Building (pieces ++ owed) := by
  cases building with
  | starting first => exact .starting (by simp [first, late])
  | started first => exact .started (by simp [first, late])
  | cancelling first => exact .cancelling (by simp [first, late])
  | fails first => exact .fails (by simp [first, late])
  | arms first => exact .arms (by simp [first, late])

/-- The same context, but for the components. -/
structure Context.Keeps (context changed : Context) : Prop where
  state : changed.state = context.state
  fence : changed.terminalFence = context.terminalFence
  pending : changed.deactivationPending = context.deactivationPending
  closing : changed.loginClosePending = context.loginClosePending
  current : context.state = .activating → context.generation ≠ 0 → changed.generation ≠ 0

theorem Context.Keeps.rfl {context : Context} : context.Keeps context :=
  ⟨.refl _, .refl _, .refl _, .refl _, fun _ => id⟩

/-- What the code of the driver does that prepares an activation: nothing that matters, or it
fails, or it builds the secure graph. -/
inductive Advances (device : Device) (outcome : Outcome) : Prop where
  | calm (calm : Calm device outcome)
  | fails (context : Context) (error : GError) (present : device.context = some context)
    (unfenced : context.terminalFence = false)
    (same : outcome = device.setTerminalFence context [.failed error] [.protocolFailed error])
  | builds (context changed : Context) (pieces : List Piece)
    (present : device.context = some context) (activating : context.state = .activating)
    (unfenced : context.terminalFence = false) (keeps : context.Keeps changed)
    (same : outcome = (device.put changed, [], pieces)) (building : Building pieces)

theorem Advances.protocolFailure (present : device.context = some context)
    (error : Option GError) : Advances device (device.protocolFailure context error) := by
  unfold Device.protocolFailure
  split
  · exact .calm (.put present { Context.Alike.rfl with } rfl rfl)
  · exact .fails context _ present (Bool.not_eq_true _ ▸ ‹_›) rfl

theorem makeSecureGraph_keeps (device : Device) (context : Context) :
    context.Keeps (device.makeSecureGraph context).1 := by
  have lifecycle {made : Context} (makes : device.configurePostTlsLifecycle context = .ok made) :
      context.Keeps made := by
    unfold Device.configurePostTlsLifecycle at makes
    split at makes
    · cases makes
    split at makes
    · cases makes
    · cases makes
      exact ⟨rfl, rfl, rfl, rfl, fun _ => id⟩
  have enrollment {first made : Context} (kept : context.Keeps first)
      (makes : device.configureEnrollmentGraph first = .ok made) : context.Keeps made := by
    unfold Device.configureEnrollmentGraph at makes
    split at makes
    · cases makes
    split at makes
    · cases makes
    · cases makes
      exact { kept with }
  have session {second made : Context} (kept : context.Keeps second)
      (makes : device.newSecureSession second = .ok made) : context.Keeps made := by
    unfold Device.newSecureSession at makes
    split at makes
    · cases makes
    split at makes
    · cases makes
    · cases makes
      exact { kept with }
  unfold Device.makeSecureGraph
  split
  · exact .rfl
  rename_i first made
  have first := lifecycle made
  split
  · exact first
  rename_i second made
  have second : context.Keeps second := by
    split at made
    · exact enrollment first made
    · cases made
      exact first
  split
  · exact second
  · exact session second ‹_›

theorem Advances.startSecureGraph (present : device.context = some context) :
    Advances device (device.startSecureGraph context) := by
  unfold Device.startSecureGraph
  split
  · exact .calm (.put present .rfl rfl rfl)
  rename_i starts
  simp only [not_or, Decidable.not_not, Bool.not_eq_true] at starts
  have keeps := makeSecureGraph_keeps device context
  split
  · exact .calm (.put present .rfl rfl rfl)
  split
  · rename_i made
    rw [made] at keeps
    exact .builds context _ _ present starts.1 starts.2.1 keeps rfl (.fails rfl)
  · rename_i made
    rw [made] at keeps
    exact .builds context _ _ present starts.1 starts.2.1 keeps rfl (.starting rfl)

theorem Advances.withContext {function : Context → Outcome}
    (advances : ∀ context, device.context = some context → Advances device (function context)) :
    Advances device (device.withContext function) := by
  unfold Device.withContext
  split
  · exact .calm (.same rfl rfl)
  · exact advances _ ‹_›

/-- The pieces that may be owed while an activation is prepared. -/
theorem Advances.perform {piece : Piece} (waiting : piece.isWaiting = true)
    (drained : piece ≠ .usbDrained)
    (other : ∀ cancelling, piece ≠ .frameworkDeactivate cancelling) :
    Advances device (perform device piece) := by
  cases piece with
  | component | starting | cancelling => exact .calm (.same rfl rfl)
  | abort => exact .calm (.same rfl rfl)
  | usb work => exact .withContext fun _ present => .calm (.turnUsb present work)
  | usbDrained => exact absurd rfl drained
  | usbFrame | usbInCompleted =>
    refine .withContext fun _ _ => ?_
    split <;> exact .calm (.same rfl rfl)
  | usbOutCompleted => exact .calm (.same rfl rfl)
  | syncCompleted generation completion =>
    exact .withContext fun _ present => .calm (.syncCompleted present generation completion)
  | startProtocol =>
    refine .withContext fun _ present => ?_
    unfold Device.startProtocol
    split
    · exact .calm (.startLivePreflight present)
    · exact .startSecureGraph present
  | cancelBackend => exact .withContext fun _ present => .calm (.callUsb present (by simp))
  | protocolFailure error => exact .withContext fun _ present => .protocolFailure present error
  | syncBegun error =>
    refine .withContext fun _ present => ?_
    split
    · exact .protocolFailure present _
    · exact .calm (.same rfl rfl)
  | startSecureGraph => exact .withContext fun _ present => .startSecureGraph present
  | armReceive =>
    exact .withContext fun _ present => .calm (.armReceive present (fun _ => rfl) rfl)
  | frameworkDeactivate cancelling => exact absurd rfl (other cancelling)
  | _ => cases waiting

theorem Calm.usbDrained (idle : ∀ context, device.context = some context →
      context.deactivationPending = false ∧ context.loginClosePending = false) :
    Calm device (perform device .usbDrained) := by
  refine .withContext fun context present => ?_
  unfold Device.usbDrained
  rw [(idle context present).1, (idle context present).2]
  exact .same rfl rfl

theorem Calm.frameworkDeactivate (inactive : device.framework.active = false) (cancelling : Bool) :
    Calm device (device.frameworkDeactivate cancelling) := by
  unfold Device.frameworkDeactivate
  dsimp only
  rw [if_pos (.inl inactive)]
  exact ⟨.framework rfl rfl rfl,
    fun awaits => ⟨awaits.captures, awaits.inactive, awaits.returning, awaits.activating,
      awaits.scanless⟩, rfl⟩

/-- The calls of a component that takes its first step or is cancelled. -/
theorem Calm.startingCall {call : Call}
    (permitted : startingPermits context call = true ∨ cancellingPermits context call = true) :
    Calm device (Goodix.DeviceContext.call device call) := by
  cases call with
  | outside outside =>
    exact ⟨⟨rfl, rfl, rfl, rfl, contexts_alike device, rfl, rfl⟩, id, rfl⟩
  | submitOut owner bytes =>
    refine .withContext fun context present => ?_
    split
    · exact .same rfl rfl
    · exact .callUsb present (by simp)
  | setOutCompletedCallback callback =>
    exact .withContext fun _ present => .callUsb present (by simp)
  | armReceive => exact .withContext fun _ present => .armReceive present (fun _ => rfl) rfl
  | protocolFailure error => exact .same rfl rfl
  | lifecyclePhase phase =>
    refine .withContext fun context present => .put present ?_ rfl rfl
    exact { Context.Alike.rfl with bare := fun bare => ⟨by simp [bare.1], bare.2⟩ }
  | _ => rcases permitted with permitted | permitted <;> cases permitted

/-- The calls of a component when there is none behind the secure session. -/
theorem Calm.componentCall (bare : context.IsBare)
    {call : Call} (permitted : componentPermits context call = true) :
    Calm device (Goodix.DeviceContext.call device call) := by
  cases call with
  | outside | submitOut | setOutCompletedCallback | armReceive | protocolFailure =>
    exact .startingCall (.inl permitted)
  | livePreflightFinished => exact .withContext fun _ present => .finishLivePreflight present
  | pairingReady => exact .withContext fun _ present => .pairingReady present
  | fingerDown | releaseTail | fingerUp | imageCaptured | rawImageCaptured | loginReady =>
    exact absurd bare.1 (of_decide_eq_true permitted)
  | enrollmentFingerUp | retryScan | holdEnrollCompletion | releaseEnrollCompletion =>
    exact absurd bare.2 (of_decide_eq_true permitted)
  | lifecyclePhase phase => simp [componentPermits, bare.1] at permitted
  | bindEnrollment => simp [componentPermits, bare.1] at permitted
  | _ => cases permitted

/-- The calls of the main loop while the framework waits for an activation. -/
theorem Calm.mainLoopCall {reception : Reception} (production : device.production = true)
    (couples : ∀ context, device.context = some context → Couples reception context)
    (awaits : device.framework.Awaits) (openIdles : device.openIdles = 0)
    (closeIdles : device.loginCloseIdles = 0)
    (idle : ∀ context, device.context = some context → context.deactivationPending = false)
    {call : Call} (permitted : mainLoopPermits device call = true) (cancel : call ≠ .cancel)
    (cancelIdle : call ≠ .activationCancelIdle) :
    Calm device (Goodix.DeviceContext.call device call) := by
  have busy : device.framework.action ≠ .none := fun none => by
    have captures := awaits.captures
    rw [none] at captures
    cases captures
  have alike := contexts_alike device
  cases call with
  | outside outside => exact ⟨⟨rfl, rfl, rfl, rfl, alike, rfl, rfl⟩, id, rfl⟩
  | tick now => exact ⟨⟨rfl, rfl, rfl, rfl, alike, rfl, rfl⟩, id, rfl⟩
  | openDevice | closeDevice | start => simp [mainLoopPermits, busy] at permitted
  | cancel => exact absurd rfl cancel
  | loginPrepare =>
    refine .withContext fun context present => ?_
    rw [(couples context present).loginPrepare]
    exact .same rfl rfl
  | openCompleteIdle => simp [mainLoopPermits, openIdles] at permitted
  | cancelIdle =>
    refine ⟨.framework rfl rfl ?_, fun awaits => ⟨awaits.captures, awaits.inactive,
      awaits.returning, awaits.activating, awaits.scanless⟩, ?_⟩
    · split <;> rfl
    · unfold Goodix.DeviceContext.call
      dsimp only
      split <;> rfl
  | returnTask =>
    have returning : device.framework.returning = true := permitted
    rw [awaits.returning] at returning
    cases returning
  | activationCancelIdle => exact absurd rfl cancelIdle
  | deactivationIdle =>
    unfold Goodix.DeviceContext.call Device.withContext
    dsimp only
    split
    · exact ⟨⟨rfl, rfl, rfl, rfl, alike, rfl, rfl⟩, id, rfl⟩
    · rename_i context present
      have present : device.context = some context := present
      rw [if_neg fun pending => Bool.false_ne_true ((idle context present).symm.trans pending.1)]
      exact ⟨⟨rfl, rfl, rfl, rfl, by rw [present]; exact .some { Context.Alike.rfl with }, rfl,
        rfl⟩, id, rfl⟩
  | loginCloseIdle => simp [mainLoopPermits, closeIdles] at permitted
  | loginDeadline =>
    refine .withContext fun context present => .put present ?_ rfl rfl
    exact { Context.Alike.rfl with }
  | timer => exact .same rfl rfl
  | minutiaeDetected scan =>
    have scans : device.framework.minutiaeScanActive = true := permitted
    rw [awaits.scanless] at scans
    cases scans
  | completeReceive generation completion =>
    exact .withContext fun _ present => .callUsb present (by simp)
  | completeOut generation error => exact .withContext fun _ present => .callUsb present (by simp)
  | completeAbandoned => exact ⟨⟨rfl, rfl, rfl, rfl, alike, rfl, rfl⟩, id, rfl⟩
  | testLoginPostTls | testArmComplete => simp [mainLoopPermits, production] at permitted
  | _ => cases permitted

/-! ## The driver activates -/

/-- What the driver may do to its context before a generation begins. -/
structure Context.Prepares (context changed : Context) : Prop where
  state : changed.state = context.state
  fence : context.terminalFence = true → changed.terminalFence = true
  pending : changed.deactivationPending = true → context.deactivationPending = true
  closing : changed.loginClosePending = context.loginClosePending

/-- A part of an activation that does no more than that. -/
def Prepared {ε : Type} (context : Context)
    (prepared : Context × List Noted × Except ε Unit) : Prop :=
  context.Prepares prepared.1 ∧ prepared.2.1.all Noted.isSilent = true

theorem Context.Prepares.rfl {context : Context} : context.Prepares context :=
  ⟨.refl _, id, id, .refl _⟩

theorem Context.Prepares.trans {context between changed : Context}
    (first : context.Prepares between) (second : between.Prepares changed) :
    context.Prepares changed where
  state := second.state.trans first.state
  fence := second.fence ∘ first.fence
  pending := first.pending ∘ second.pending
  closing := second.closing.trans first.closing

theorem releaseClaim_prepared (context : Context) (answer : Option GError) :
    context.Prepares (Device.releaseClaim context answer).1 ∧
      (Device.releaseClaim context answer).2.1.all Noted.isSilent = true := by
  unfold Device.releaseClaim
  split
  · exact ⟨.rfl, rfl⟩
  split
  · exact ⟨.rfl, rfl⟩
  · exact ⟨{ Context.Prepares.rfl with }, rfl⟩

theorem acquisitionFailed_prepared {noted : List Noted} (prepares : context.Prepares changed)
    (silent : noted.all Noted.isSilent = true) (error : GError) :
    Prepared context (device.acquisitionFailed changed noted error) := by
  have released := releaseClaim_prepared changed device.outside.releaseAgain
  refine ⟨prepares.trans ?_, ?_⟩
  · exact { released.1 with }
  · show (noted ++ (Device.releaseClaim changed device.outside.releaseAgain).2.1).all _ = true
    rw [List.all_append, silent, released.2]
    rfl

theorem claimInterface_prepared (prepares : context.Prepares changed) :
    Prepared context (device.claimInterface changed) := by
  unfold Device.claimInterface
  split
  · exact acquisitionFailed_prepared prepares rfl _
  split
  · exact acquisitionFailed_prepared prepares rfl _
  have claimed : context.Prepares { changed with usbInterfaceClaimed := true } := { prepares with }
  dsimp only
  split
  · have released := releaseClaim_prepared { changed with usbInterfaceClaimed := true }
      device.outside.releaseAtFailure
    exact acquisitionFailed_prepared (claimed.trans released.1) released.2 cancelledError
  · exact ⟨claimed, rfl⟩

theorem acquireActionResources_prepared (device : Device) (prepares : context.Prepares changed) :
    Prepared context (device.acquireActionResources changed) := by
  unfold Device.acquireActionResources
  split
  · exact ⟨prepares, rfl⟩
  split
  · exact ⟨prepares, rfl⟩
  split
  · split
    · exact claimInterface_prepared prepares
    · exact acquisitionFailed_prepared prepares rfl _
  · refine claimInterface_prepared ?_
    exact { prepares with }

theorem consumeEpoch_prepared (device : Device) (prepares : context.Prepares changed) :
    Prepared context (device.consumeEpoch changed) := by
  have taken : context.Prepares { changed with
      productionActionConsumed := true
      productionAction := device.framework.action } := { prepares with }
  have acquired := acquireActionResources_prepared device taken
  revert acquired
  unfold Device.consumeEpoch
  dsimp only
  split
  · exact fun _ => ⟨taken, rfl⟩
  split
  · rename_i found
    rw [found]
    exact id
  · rename_i found
    rw [found]
    exact fun acquired => ⟨{ acquired.1 with }, acquired.2⟩

theorem claimAgain_prepared (prepares : context.Prepares changed) (action : DeviceAction) :
    Prepared context (device.claimAgain changed action) := by
  unfold Device.claimAgain
  split
  · exact ⟨{ prepares with }, rfl⟩
  · exact ⟨{ prepares with }, rfl⟩

theorem reopenForCaptureAction_prepared (device : Device) (context : Context)
    (action : DeviceAction) : Prepared context (device.reopenForCaptureAction context action) := by
  unfold Device.reopenForCaptureAction
  split
  · exact ⟨.rfl, rfl⟩
  split
  · exact ⟨.rfl, rfl⟩
  rename_i backend resets
  have reset : context.Prepares
      { context with usb := { context.usb with backend } }.resetForCaptureReopen :=
    ⟨rfl, fun _ => rfl, nofun, rfl⟩
  dsimp only
  split
  · split
    · exact claimAgain_prepared reset action
    · exact ⟨{ reset with }, rfl⟩
  · refine claimAgain_prepared ?_ action
    exact { reset with }

theorem reopenCompleted_prepared (device : Device) (context : Context) :
    Prepared context (device.reopenCompleted context) := by
  have reopened (action : DeviceAction) := reopenForCaptureAction_prepared device context action
  unfold Device.reopenCompleted
  dsimp only
  split
  · split
    · exact ⟨{ Context.Prepares.rfl with }, rfl⟩
    have reopened := reopened device.framework.action
    split
    · rename_i found
      rw [found] at reopened
      exact reopened
    · rename_i found
      rw [found] at reopened
      exact reopened
  split
  · split
    · exact ⟨.rfl, rfl⟩
    have reopened := reopened .verify
    split
    · rename_i found
      rw [found] at reopened
      exact reopened
    · rename_i found
      rw [found] at reopened
      exact reopened
  · exact ⟨.rfl, rfl⟩

theorem prepareActivation_prepared (device : Device) (context : Context) :
    Prepared context (device.prepareActivation context) := by
  unfold Device.prepareActivation
  dsimp only
  split
  · exact ⟨.rfl, rfl⟩
  split
  · exact ⟨.rfl, rfl⟩
  have reopened := reopenCompleted_prepared device context
  split
  · rename_i found
    rw [found] at reopened
    exact reopened
  rename_i reopening noted found
  rw [found] at reopened
  split
  · exact reopened
  · obtain ⟨prepares, silent⟩ := consumeEpoch_prepared device reopened.1
    refine ⟨prepares, ?_⟩
    show (noted ++ (device.consumeEpoch reopening).2.1).all _ = true
    rw [List.all_append, reopened.2, silent]
    rfl

/-- What `activate` of the driver comes to. -/
inductive Activates (device : Device) (context : Context) (outcome : Outcome) : Prop where
  | aborts (same : outcome = (device, [], [.abort]))
  | refuses (changed : Context) (noted : List Noted) (error : GError)
    (prepares : context.Prepares changed) (silent : noted.all Noted.isSilent = true)
    (same : outcome = ((device.put changed).activateComplete (some error)).behind noted)
  | begins (changed : Context) (noted : List Noted) (rested : context.state ≠ .deactivating)
    (prepares : context.Prepares changed)
    (bare : changed.IsBare) (silent : noted.all Noted.isSilent = true)
    (same : outcome = (device.beginActivation changed).behind noted)

theorem put_same (present : device.context = some context) : device.put context = device := by
  rw [Device.put, ← present]

theorem bare_of_absent (absent : context.hasComponent = false) : context.IsBare := by
  simp only [Context.hasComponent, decide_eq_false_iff_not, not_or, Decidable.not_not] at absent
  exact ⟨absent.2.2.2.1, absent.2.2.2.2⟩

theorem Activates.activate {reception : Reception} (production : device.production = true)
    (couples : Couples reception context) (present : device.context = some context) :
    Activates device context (device.activate context) := by
  have still (error : GError) : device.activateComplete (some error) =
      ((device.put context).activateComplete (some error)).behind [] := by
    rw [put_same present]
    rfl
  unfold Device.activate
  split
  · exact .aborts rfl
  rename_i guard
  have rested : context.state ≠ .deactivating := fun deactivating => guard (by simp [deactivating])
  split
  · exact .refuses context [] _ .rfl rfl (still _)
  split
  · rename_i login
    rcases login with preparing | series
    · exact absurd (couples.noLogin.1.symm.trans preparing) Bool.false_ne_true
    · exact absurd (couples.noLogin.2.1.symm.trans series) Bool.false_ne_true
  split
  · exact .refuses context [] _ .rfl rfl (still _)
  split
  · rename_i other
    rw [production] at other
    cases other
  have prepared := prepareActivation_prepared device context
  have taken := (couples.prepareActivation device).2.2
  split
  · rename_i found
    rw [found] at prepared
    exact .refuses _ _ _ prepared.1 prepared.2 rfl
  · rename_i found
    rw [found] at prepared taken
    exact .begins _ _ rested prepared.1 (bare_of_absent (taken rfl).absent) prepared.2 rfl

end

end Goodix.DeviceContext
