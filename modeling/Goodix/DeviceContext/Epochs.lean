import Goodix.DeviceContext.Bus

/-! # The epochs of the interface

What every piece of the device and every call does to the interface, and from that what holds
of it in every run.
-/

namespace Goodix.DeviceContext

open Usb Monitors

section

variable {reception : Reception} {bus : Bus} {device : Device} {context : Context}

/-! ## The framework -/

theorem enrollmentProcessed_loose (device : Device) (error : Option GError) (complete : Bool) :
    (device.enrollmentProcessed error complete).all Piece.isLoose = true := by
  unfold Device.enrollmentProcessed
  split
  · rfl
  split
  · split <;> rfl
  · rfl

theorem BusAgrees.deviceAgrees {changed : Context} (agrees : BusAgrees bus false changed)
    (production : device.production = true) (couples : Couples reception changed) :
    DeviceAgrees reception bus (device.put changed) where
  production := production
  couples := fun _ same => by cases same; exact couples
  agrees := fun _ same => by cases same; exact agrees
  gone := fun absent => by cases absent

theorem DeviceAgrees.put (holds : DeviceAgrees reception bus device) {changed : Context}
    (couples : Couples reception changed) (agrees : BusAgrees bus false changed) :
    DeviceAgrees reception bus (device.put changed) := agrees.deviceAgrees holds.production couples

section

variable (holds : DeviceAgrees reception bus device)

include holds

/-- Whatever changes but the context. -/
theorem DeviceAgrees.around (changed : Device) (production : changed.production = true)
    (same : changed.context = device.context) : DeviceAgrees reception bus changed where
  production := production
  couples := by rw [same]; exact holds.couples
  agrees := by rw [same]; exact holds.agrees
  gone := by rw [same]; exact holds.gone

theorem DeviceAgrees.withFramework (framework : Framework) :
    DeviceAgrees reception bus (device.withFramework framework) :=
  holds.around _ holds.production rfl

/-- A step that shows one entry which leaves the interface as it is. -/
theorem DeviceAgrees.shows (entry : Noted) {pieces : List Piece}
    (allows : interface.Allows bus entry) (ignores : bus.note entry = bus)
    (loose : pieces.all Piece.isLoose = true) : EpochStep bus (device, [entry], pieces) := by
  have after : [entry].foldl Bus.note bus = bus := ignores
  refine ⟨⟨⟨allows, trivial⟩, ?_, ?_, ?_⟩, ?_⟩
  · rw [after]
    exact fun context present => (holds.agrees context present).fencing _
  · rw [after]
    exact holds.gone
  · rw [after]
    exact needsBus_of_all loose
  · rw [after]
    exact .rfl _

theorem DeviceAgrees.changeState (state : ImageState) : EpochStep bus
    (device.changeState state) := by
  unfold Device.changeState
  refine DeviceAgrees.withContext (holds.withFramework _) fun context _ _ agrees => ?_
  dsimp only
  split
  · exact .put { agrees with } rfl rfl
  · exact .put { agrees with } rfl rfl

theorem DeviceAgrees.frameworkDeactivate (cancelling : Bool) :
    EpochStep bus (device.frameworkDeactivate cancelling) := by
  unfold Device.frameworkDeactivate
  dsimp only
  split <;> exact holds.framework rfl rfl

theorem DeviceAgrees.maybeCompleteAction (error : Option GError) :
    EpochStep bus (device.maybeCompleteAction error) := by
  unfold Device.maybeCompleteAction
  dsimp only
  split
  · exact holds.framework rfl rfl
  split
  · refine holds.framework rfl ?_
    repeat' split
    all_goals rfl
  · exact holds.framework rfl rfl

theorem DeviceAgrees.enrollMaybeAwaitFingerOn : EpochStep bus device.enrollMaybeAwaitFingerOn := by
  unfold Device.enrollMaybeAwaitFingerOn
  dsimp only
  split
  · exact holds.still rfl rfl
  split <;> exact holds.still rfl rfl

theorem DeviceAgrees.reportFingerStatus (live : bus.IsLive) (finger : Bool) :
    EpochStep bus (device.reportFingerStatus finger) := by
  have reported (framework : Framework) {pieces : List Piece}
      (loose : pieces.all Piece.isLoose = true) :
      EpochStep bus (device.withFramework framework, [Noted.fingerStatus finger], pieces) :=
    (holds.withFramework framework).shows (.fingerStatus finger) live rfl loose
  unfold Device.reportFingerStatus
  dsimp only
  split
  · exact holds.shows (.fingerStatus finger) live rfl rfl
  split
  · exact holds.shows (.fingerStatus finger) live rfl rfl
  split
  · exact reported _ rfl
  split
  · refine reported _ ?_
    split <;> rfl
  · exact reported _ rfl

/-- A finger is only reported within a generation. -/
theorem DeviceAgrees.emitFingerStatus (present : device.context = some context) (finger : Bool) :
    EpochStep bus (device.emitFingerStatus context finger) := by
  have agrees := holds.agrees context present
  unfold Device.emitFingerStatus
  split
  · exact holds.still rfl rfl
  rename_i current
  simp only [Context.isStaleOrFenced, decide_eq_true_eq, not_or, Bool.not_eq_true] at current
  have live := agrees.current current.1.2 current.1.1
  refine holds.reportFingerStatus ⟨live.1, live.2, ?_⟩ finger
  by_contra fenced
  have shut := agrees.shut (Bool.not_eq_false _ ▸ fenced)
  exact absurd (current.1.1.symm.trans shut) Bool.false_ne_true

theorem DeviceAgrees.imageCaptured : EpochStep bus device.imageCaptured := by
  unfold Device.imageCaptured
  dsimp only
  split
  · exact holds.still rfl rfl
  · exact holds.framework rfl rfl

theorem DeviceAgrees.minutiaeDetected (scan : Scan) : EpochStep bus
    (device.minutiaeDetected scan) := by
  unfold Device.minutiaeDetected
  dsimp only
  split
  · exact holds.framework rfl rfl
  split
  · exact holds.framework rfl rfl
  split
  · refine holds.framework rfl ?_
    split <;> rfl
  split
  · exact holds.framework rfl (enrollmentProcessed_loose ..)
  · refine holds.framework rfl ?_
    split <;> rfl

theorem DeviceAgrees.rawImageCaptured (scan : Scan) : EpochStep bus
    (device.rawImageCaptured scan) := by
  unfold Device.rawImageCaptured
  dsimp only
  split
  · exact holds.still rfl rfl
  generalize scan.fatal.or
    (if device.framework.cancelled = true then some cancelledError else none) = error
  split
  · exact holds.still rfl rfl
  split
  · refine holds.still rfl ?_
    split
    · rfl
    split
    · split <;> rfl
    · rfl
  split
  · refine holds.still rfl ?_
    split <;> rfl
  · exact holds.still rfl rfl

theorem DeviceAgrees.retryScan : EpochStep bus device.retryScan := by
  unfold Device.retryScan
  split <;> exact holds.still rfl rfl

omit holds in
/-- The context changes, and the framework with it. -/
theorem EpochStep.putWith {changed : Context} {framework : Framework} {pieces : List Piece}
    (agrees : BusAgrees bus false changed) (loose : pieces.all Piece.isLoose = true) :
    EpochStep bus ((device.put changed).withFramework framework, [], pieces) :=
  .idle (fun _ same => by cases same; exact agrees) (fun absent => by cases absent) rfl
    (needsBus_of_all loose)

omit holds in
theorem BusAgrees.holdEnrollCompletion (agrees : BusAgrees bus false context) :
    EpochStep bus (device.holdEnrollCompletion context) := by
  unfold Device.holdEnrollCompletion
  dsimp only
  split
  · exact .put { agrees with } rfl rfl
  · exact .putWith { agrees with } rfl

theorem DeviceAgrees.releaseEnrollCompletion (agrees : BusAgrees bus false context) :
    EpochStep bus (device.releaseEnrollCompletion context) := by
  unfold Device.releaseEnrollCompletion
  dsimp only
  split
  · exact holds.still rfl rfl
  split
  · exact .put { agrees with } rfl rfl
  · refine .putWith { agrees with } ?_
    split <;> rfl

/-- An activation is answered with success only within a generation. -/
theorem DeviceAgrees.activateComplete {error : Option GError} (live : error = none → bus.IsLive) :
    EpochStep bus (device.activateComplete error) := by
  have allows : interface.Allows bus (.activateComplete error) := by
    cases error with
    | none => exact live rfl
    | some error => trivial
  have ignores : bus.note (.activateComplete error) = bus := by cases error <;> rfl
  unfold Device.activateComplete
  dsimp only
  split
  · exact holds.shows _ allows ignores rfl
  split
  · exact holds.framework rfl rfl
  · exact (holds.withFramework _).shows _ allows ignores rfl

theorem DeviceAgrees.deactivateComplete (fenced : bus.fenced = true) (silent : bus.IsSilent)
    (error : Option GError) : EpochStep bus (device.deactivateComplete error) := by
  unfold Device.deactivateComplete
  dsimp only
  split
  · exact holds.shows (.deactivateComplete error) ⟨fenced, silent⟩ rfl rfl
  · exact (holds.withFramework _).shows (.deactivateComplete error) ⟨fenced, silent⟩ rfl rfl

theorem DeviceAgrees.sessionError (error : GError) : EpochStep bus (device.sessionError error) := by
  unfold Device.sessionError
  dsimp only
  split
  · split
    · exact (holds.activateComplete (by simp)).behind rfl
    · exact holds.still rfl rfl
  split
  · exact holds.still rfl rfl
  split <;> exact holds.still rfl rfl

theorem DeviceAgrees.openComplete (error : Option GError) :
    EpochStep bus (device.openComplete error) := by
  unfold Device.openComplete
  dsimp only
  split
  · exact holds.still rfl rfl
  · exact holds.framework rfl rfl

end

/-! ## Failures -/

theorem BusAgrees.setPoisoned (agrees : BusAgrees bus false context) (error : Option GError) :
    BusAgrees bus false (context.setPoisoned error) := { agrees with }

theorem BusAgrees.disconnect (agrees : BusAgrees bus false context) :
    BusAgrees bus false context.disconnectCancelHandler := by
  unfold Context.disconnectCancelHandler
  split
  · exact { agrees with }
  · exact agrees

/-- A fenced context, before its backend is cancelled. -/
theorem BusAgrees.fence (agrees : BusAgrees bus false context) :
    BusAgrees { bus with fenced := true } true { context with terminalFence := true } :=
  { agrees with
    current := by simp
    shut := fun _ => rfl
    leaves := fun _ => rfl
    halted := fun _ => .inr rfl }

theorem BusAgrees.setTerminalFence
    (agrees : BusAgrees { bus with fenced := true } true { context with terminalFence := true })
    {noted : List Noted} {next : List Piece} (idle : noted.all Noted.isIdle = true)
    (needs : ∀ piece ∈ next, piece.NeedsBus { bus with fenced := true }) :
    EpochStep bus (device.setTerminalFence context noted next) := by
  obtain ⟨admits, same⟩ := idle_foldl idle bus
  have after : (noted ++ [Noted.fenced]).foldl Bus.note bus = { bus with fenced := true } := by
    rw [List.foldl_append, same]
    rfl
  have step : BusStep bus (device.setTerminalFence context noted next) := by
    refine ⟨Monitor.admits_append.mpr ⟨admits, trivial, trivial⟩, fun _ present => ?_,
      (by intro absent; cases absent), fun piece inside => ?_⟩
    · cases present
      show BusAgrees ((noted ++ [Noted.fenced]).foldl Bus.note bus) true _
      rw [after]
      exact agrees
    · show piece.NeedsBus ((noted ++ [Noted.fenced]).foldl Bus.note bus)
      rw [after]
      simp only [Device.setTerminalFence, List.mem_cons] at inside
      obtain rfl | rfl | inside := inside
      · trivial
      · trivial
      · exact needs piece inside
  refine ⟨step, ?_⟩
  show bus.Grows ((noted ++ [Noted.fenced]).foldl Bus.note bus)
  rw [after]
  exact ⟨id, fun _ => rfl⟩

theorem BusAgrees.protocolFailure (agrees : BusAgrees bus false context) (error : Option GError) :
    EpochStep bus (device.protocolFailure context error) := by
  unfold Device.protocolFailure
  split
  · exact .put (agrees.setPoisoned error) rfl rfl
  · exact agrees.fence.setTerminalFence rfl (needsBus_of_all rfl)

theorem BusAgrees.protocolFailed (agrees : BusAgrees bus false context) (error : GError) :
    EpochStep bus (device.protocolFailed context error) := by
  have poisoned := agrees.setPoisoned (some error)
  unfold Device.protocolFailed
  dsimp only
  split
  · exact .put { poisoned with opening := by simp } rfl rfl
  split
  · exact poisoned.disconnect.fence.setTerminalFence rfl (needsBus_of_all rfl)
  · exact .put poisoned rfl rfl

theorem DeviceAgrees.emittedTerminal (holds : DeviceAgrees reception bus device)
    (couples : Couples reception context) (agrees : BusAgrees bus false context) (error : GError) :
    EpochStep bus (device.emittedTerminal context error) := by
  have poisoned (state : ContextState) (other : state ≠ .opening) : BusAgrees bus false
      { context.setPoisoned (some error) with generation := 0, state } :=
    { agrees.setPoisoned (some error) with
      live := fun unfenced => (agrees.live unfenced).imp id fun untouched =>
        ⟨untouched.1, untouched.2.1, untouched.2.2.1, rfl, untouched.2.2.2.2⟩
      current := fun positive => absurd rfl positive
      opening := fun same => absurd same other }
  have coupled (state : ContextState) : Couples reception
      { context.setPoisoned (some error) with generation := 0, state } :=
    { couples.setPoisoned (some error) with }
  unfold Device.emittedTerminal
  dsimp only
  split
  · exact (holds.put (coupled .inactive) (poisoned _ (by simp))).activateComplete (by simp)
  · exact (holds.put (coupled .poisoned) (poisoned _ (by simp))).sessionError error

/-! ## The synchronisation -/

/-- The end of a synchronisation takes nothing back. -/
theorem syncEnded_still (context : Context) :
    (Device.syncEnded context).terminalFence = context.usb.backend.terminalFence ∧
      (Device.syncEnded context).inOutstanding = context.usb.backend.inOutstanding ∧
      (Device.syncEnded context).outOutstanding = context.usb.backend.outOutstanding := by
  unfold Device.syncEnded
  dsimp only
  split
  · split
    · exact ⟨rfl, rfl, rfl⟩
    · rename_i ended ends
      unfold Backend.endPreSessionSync at ends
      split at ends
      · cases ends
      · cases ends
        exact ⟨rfl, rfl, rfl⟩
  · exact ⟨rfl, rfl, rfl⟩

/-- The backend changes in nothing that the interface sees. -/
theorem BusAgrees.backend {soon : Bool} (agrees : BusAgrees bus soon context)
    {backend : Backend Owner}
    (fence : backend.terminalFence = context.usb.backend.terminalFence)
    (ins : backend.inOutstanding = context.usb.backend.inOutstanding)
    (outs : backend.outOutstanding = context.usb.backend.outOutstanding) :
    BusAgrees bus soon { context with usb := { context.usb with backend } } := by
  have drained : backend.isDrained = context.usb.backend.isDrained := by
    simp only [Backend.isDrained, ins, outs]
  exact { agrees with
    receiving := by rw [agrees.receiving, ins]
    sending := by rw [agrees.sending, outs]
    live := fun unfenced => (agrees.live (fence ▸ unfenced)).imp id fun untouched =>
      ⟨⟨untouched.1.1, untouched.1.2.1, drained.trans untouched.1.2.2⟩, untouched.2⟩
    router := fun fenced => agrees.router (fence ▸ fenced)
    halted := fun fenced => (agrees.halted fenced).imp (fence.trans ·) id
    idle := fun unconsumed => drained.trans (agrees.idle unconsumed) }

/-- A synchronisation is under way, or was. -/
theorem BusAgrees.sync (agrees : BusAgrees bus false context) (touched : ¬Untouched bus context)
    (begun : bus.begun = true) (sync : RxSync) : BusAgrees bus false { context with sync } :=
  { agrees with
    live := fun unfenced => .inl ((agrees.live unfenced).resolve_right touched)
    synchronised := fun _ => begun }

theorem BusAgrees.syncFail (agrees : BusAgrees bus false context) (touched : ¬Untouched bus context)
    (begun : bus.begun = true) (sync : RxSync) (error : GError) :
    EpochStep bus (device.syncFail { context with sync } error) := by
  obtain ⟨fence, ins, outs⟩ := syncEnded_still { context with sync }
  have ended := (agrees.backend fence ins outs)
  have touched' : ¬Untouched bus { context with usb := { context.usb with
      backend := Device.syncEnded { context with sync } } } := fun untouched => touched
    ⟨⟨untouched.1.1, untouched.1.2.1, by
      have drained := untouched.1.2.2
      simp only [Backend.isDrained, ins, outs] at drained
      simpa only [Backend.isDrained] using drained⟩, untouched.2⟩
  exact .put (ended.sync touched' begun _) rfl rfl

/-- A receive of the synchronisation is armed. -/
theorem BusAgrees.armSync (agrees : BusAgrees bus false context) (touched : ¬Untouched bus context)
    (consumed : context.productionActionConsumed = true) {generation timeoutMs : Nat}
    {backend : Backend Owner}
    (arms : context.usb.backend.armPreSessionSyncReceive generation timeoutMs = .ok backend) :
    EpochStep bus (device.put { context with usb := { context.usb with backend } },
      [.usb (.submittedIn generation .preSessionSyncRx)], []) := by
  have live := agrees.isLive touched
  unfold Backend.armPreSessionSyncReceive at arms
  split at arms
  · cases arms
  rename_i accepts
  simp only [not_or, Bool.not_eq_true, Decidable.not_not] at accepts
  cases arms
  have submits : Submits bus [.submittedIn generation .preSessionSyncRx] context.usb
      { context.usb with
        backend := context.usb.backend.submitReceive generation .preSessionSyncRx timeoutMs } := by
    refine ⟨⟨⟨live accepts.1, ?_⟩, trivial⟩, ?_, id, agrees.router⟩
    · simp [agrees.receiving, accepts.2.2.2.2.1]
    · show { bus with receiving := true } = _
      rw [Bus.with, agrees.sending]
      rfl
  exact submits.epochStep (agrees.submitted submits consumed live) rfl

theorem BusAgrees.syncCompleted (agrees : BusAgrees bus false context)
    (couples : Couples reception context)
    (generation : Nat) (completion : Completion) :
    EpochStep bus (device.syncCompleted context generation completion) := by
  have elapsed : BusAgrees bus false
      { context with sync := context.sync.updateElapsed device.now } := { agrees with }
  unfold Device.syncCompleted
  dsimp only
  split
  · exact .put elapsed rfl rfl
  rename_i current
  simp only [not_or, Decidable.not_not] at current
  have active : context.sync.result ≠ .notStarted := by
    rw [show context.sync.result = .active from current.2]
    simp
  have begun := agrees.synchronised active
  have touched : ¬Untouched bus context := fun untouched => active untouched.2.2.1
  have consumed := couples.synchronised active
  split
  · exact agrees.syncFail touched begun _ _
  split
  · split
    · split
      · exact agrees.syncFail touched begun _ _
      · rename_i backend ends
        unfold Backend.endPreSessionSync at ends
        split at ends
        · cases ends
        · cases ends
          refine .idle (fun _ same => ?_) (fun absent => by cases absent) rfl fun piece inside => ?_
          · cases same
            have ended : BusAgrees bus false { context with
                usb := { context.usb with
                  backend := { context.usb.backend with
                    preSessionSyncActive := false
                    inPurpose := .none
                    inTimeoutMs := 0 } } } := agrees.backend rfl rfl rfl
            exact ended.sync (fun untouched => active untouched.2.2.1) begun _
          · cases List.mem_singleton.mp inside
            exact begun
    · exact agrees.syncFail touched begun _ _
  · split
    · exact agrees.syncFail touched begun _ _
    split
    · exact agrees.syncFail touched begun _ _
    split
    · exact agrees.syncFail touched begun _ _
    · rename_i backend arms
      have discarded := agrees.sync touched begun
        ((context.sync.updateElapsed device.now).discard completion.octets)
      have armed := @BusAgrees.armSync _ device _ discarded
        (fun untouched => active untouched.2.2.1) consumed _ _ _ arms
      exact @EpochStep.behind _ (_, [_], []) armed [.syncDiscarded completion.octets device.now] rfl

/-- The synchronisation begins in a generation that has just begun. -/
theorem BusAgrees.beginPreSessionRxSync (agrees : BusAgrees bus false context)
    (consumed : context.productionActionConsumed = true) (live : bus.IsLive)
    (touched : ¬Untouched bus context) {refused : GError → List Piece}
    (loose : ∀ error, (refused error).all Piece.isLoose = true) :
    EpochStep bus (device.beginPreSessionRxSync context refused) := by
  have begun := live.2.1
  unfold Device.beginPreSessionRxSync
  split
  · exact .put agrees rfl (loose _)
  dsimp only
  split
  · exact ((agrees.syncFail touched begun _ _).andThen rfl (loose _)).behind rfl
  rename_i backend begins
  unfold Backend.beginPreSessionSync at begins
  split at begins
  · cases begins
  cases begins
  have active : BusAgrees bus false { context with
      usb := { context.usb with
        backend := { context.usb.backend with preSessionSyncActive := true } } } :=
    agrees.backend rfl rfl rfl
  have touched' : ¬Untouched bus { context with
      usb := { context.usb with
        backend := { context.usb.backend with preSessionSyncActive := true } } } :=
    fun untouched => touched untouched
  split
  · exact ((active.syncFail touched' begun _ _).andThen rfl (loose _)).behind rfl
  rename_i backend arms
  have started := active.sync touched' begun
    { RxSync.zero with started := true, result := .active, startedUs := device.now }
  have armed := @BusAgrees.armSync _ device _ started
    (fun untouched => absurd untouched.2.2.1 (by simp)) consumed _ _ _ arms
  exact @EpochStep.behind _ (_, [_], []) armed [.syncStarted device.now] rfl

/-! ## The secure graph -/

theorem BusAgrees.startLivePreflight (agrees : BusAgrees bus false context)
    (begun : bus.begun = true) :
    EpochStep bus (device.startLivePreflight context) := by
  unfold Device.startLivePreflight
  split
  · exact .put agrees rfl rfl
  · rename_i starts
    simp only [not_or, Bool.not_eq_false] at starts
    have claim : bus.claimed = true := agrees.claim.symm.trans starts.2.2.1
    exact .put { agrees with
      present := fun _ => begun
      live := fun _ => .inl ⟨claim, begun⟩ } rfl rfl

section

variable (agrees : BusAgrees bus false context) (claim : bus.claimed = true)
  (begun : bus.begun = true)

include agrees claim begun

theorem BusAgrees.configurePostTlsLifecycle {made : Context}
    (makes : device.configurePostTlsLifecycle context = .ok made) : BusAgrees bus false made := by
  unfold Device.configurePostTlsLifecycle at makes
  split at makes
  · cases makes
  split at makes
  · cases makes
  · cases makes
    exact { agrees with
      present := fun _ => begun
      live := fun _ => .inl ⟨claim, begun⟩ }

omit claim begun in
theorem BusAgrees.configureEnrollmentGraph {made : Context}
    (makes : device.configureEnrollmentGraph context = .ok made) : BusAgrees bus false made := by
  unfold Device.configureEnrollmentGraph at makes
  split at makes
  · cases makes
  split at makes
  · cases makes
  · cases makes
    exact { agrees with }

theorem BusAgrees.newSecureSession {made : Context}
    (makes : device.newSecureSession context = .ok made) : BusAgrees bus false made := by
  unfold Device.newSecureSession at makes
  split at makes
  · cases makes
  split at makes
  · cases makes
  · cases makes
    exact { agrees with
      present := fun _ => begun
      live := fun _ => .inl ⟨claim, begun⟩ }

theorem BusAgrees.makeSecureGraph (device : Device) :
    BusAgrees bus false (device.makeSecureGraph context).1 := by
  unfold Device.makeSecureGraph
  split
  · exact agrees
  rename_i first lifecycle
  have first := agrees.configurePostTlsLifecycle claim begun lifecycle
  split
  · exact first
  rename_i second enrolled
  have second : BusAgrees bus false second := by
    split at enrolled
    · exact first.configureEnrollmentGraph enrolled
    · cases enrolled
      exact first
  split
  · exact second
  · rename_i third session
    exact second.newSecureSession claim begun session

end

theorem BusAgrees.startSecureGraph (agrees : BusAgrees bus false context)
    (begun : bus.begun = true) :
    EpochStep bus (device.startSecureGraph context) := by
  unfold Device.startSecureGraph
  split
  · exact .put agrees rfl rfl
  rename_i starts
  simp only [not_or, Bool.not_eq_false] at starts
  have claim : bus.claimed = true := agrees.claim.symm.trans starts.2.2.2
  have graph := agrees.makeSecureGraph claim begun device
  split
  · exact .put agrees rfl rfl
  split
  · rename_i made
    rw [made] at graph
    exact .put graph rfl rfl
  · rename_i made
    rw [made] at graph
    exact .put graph rfl rfl

theorem DeviceAgrees.secureSessionStarted (holds : DeviceAgrees reception bus device)
    (present : device.context = some context) :
    EpochStep bus (device.secureSessionStarted context) := by
  unfold Device.secureSessionStarted
  split
  · exact holds.still rfl rfl
  · refine holds.armReceive present (fun _ => rfl) ?_
    split <;> rfl

theorem BusAgrees.startProtocol (agrees : BusAgrees bus false context) (begun : bus.begun = true) :
    EpochStep bus (device.startProtocol context) := by
  unfold Device.startProtocol
  split
  · exact agrees.startLivePreflight begun
  · exact agrees.startSecureGraph begun

/-- The OUT callback changes hands. -/
theorem BusAgrees.callback (agrees : BusAgrees bus false context) (callback : Option Owner) :
    BusAgrees bus false { context with
      usb := { context.usb with
        backend := { context.usb.backend with outCompletedCallback := callback } } } :=
  agrees.backend rfl rfl rfl

theorem DeviceAgrees.finishLivePreflight (holds : DeviceAgrees reception bus device)
    (present : device.context = some context) (lives : context.livePreflight = true) :
    EpochStep bus (device.finishLivePreflight context) := by
  have agrees := holds.agrees context present
  have component : context.hasComponent = true := by simp [Context.hasComponent, lives]
  have begun := agrees.present component
  have callback := agrees.callback none
  have finished : BusAgrees bus false { context with
      livePreflight := false
      usb := { context.usb with
        backend := { context.usb.backend with outCompletedCallback := none } } } :=
    { callback with
      present := fun _ => begun
      live := fun unfenced =>
        .inl ((agrees.live unfenced).resolve_right (not_untouched component)) }
  unfold Device.finishLivePreflight
  split
  · exact holds.still rfl rfl
  dsimp only
  split
  · exact .put finished rfl rfl
  · unfold Device.startPairingActivation
    split
    · exact .put { finished with } rfl rfl
    split
    · exact .put { finished with } rfl rfl
    · exact .put { finished with
        present := fun _ => begun
        live := fun unfenced =>
          .inl ((agrees.live unfenced).resolve_right (not_untouched component)) } rfl rfl
  · exact .put finished rfl rfl
  · refine .idle (fun _ same => by cases same; exact { finished with })
      (fun absent => by cases absent) rfl fun piece inside => ?_
    cases List.mem_singleton.mp inside
    exact begun

theorem BusAgrees.pairingReady (agrees : BusAgrees bus false context)
    (pairing : context.pairingActivation = true) : EpochStep bus (device.pairingReady context) := by
  have component : context.hasComponent = true := by simp [Context.hasComponent, pairing]
  unfold Device.pairingReady
  dsimp only
  split
  · exact .put (agrees.callback none) rfl rfl
  · refine .idle (fun _ same => by cases same; exact agrees.callback none)
      (fun absent => by cases absent) rfl fun piece inside => ?_
    cases List.mem_singleton.mp inside
    exact agrees.present component

/-- The device is armed only within a generation. -/
theorem DeviceAgrees.emitArmComplete (holds : DeviceAgrees reception bus device)
    (present : device.context = some context) : EpochStep bus (device.emitArmComplete context) := by
  have agrees := holds.agrees context present
  have couples := holds.couples context present
  unfold Device.emitArmComplete
  split
  · exact holds.still rfl rfl
  rename_i current
  simp only [Context.isStaleOrFenced, decide_eq_true_eq, not_or, Bool.not_eq_true] at current
  have live := agrees.current current.1.2 current.1.1
  have armed : DeviceAgrees reception bus (device.put { context.disconnectCancelHandler with
      activationCompleted := true
      state := .active }) :=
    holds.put { couples.disconnect with } { agrees.disconnect with opening := by simp }
  refine armed.activateComplete fun _ => ⟨live.1, live.2, ?_⟩
  by_contra fenced
  have shut := agrees.shut (Bool.not_eq_false _ ▸ fenced)
  exact absurd (current.1.1.symm.trans shut) Bool.false_ne_true

/-! ## The claim -/

theorem BusAgrees.silent (agrees : BusAgrees bus false context)
    (drained : context.isDrained = true) :
    bus.IsSilent := by
  simp only [Context.isDrained, Backend.isDrained, decide_eq_true_eq] at drained
  exact ⟨by simp [agrees.receiving, drained.1], by simp [agrees.sending, drained.2]⟩

/-- The claim is given back when its generation is over. -/
theorem BusAgrees.releaseClaim (agrees : BusAgrees bus false context)
    (may : bus.fenced = true ∨ bus.IsSilent)
    (stale : context.generation ≠ 0 → context.terminalFence = true)
    (ended : context.usb.backend.terminalFence = false → Untouched bus context)
    (answer : Option GError) :
    interface.Admits bus (Device.releaseClaim context answer).2.1 ∧
      BusAgrees ((Device.releaseClaim context answer).2.1.foldl Bus.note bus) false
        (Device.releaseClaim context answer).1 ∧
      ((Device.releaseClaim context answer).2.2 = none →
        ((Device.releaseClaim context answer).2.1.foldl Bus.note bus).claimed = false) := by
  unfold Device.releaseClaim
  split
  · rename_i unclaimed
    exact ⟨trivial, agrees, fun _ => agrees.claim.symm.trans unclaimed⟩
  rename_i claimed
  have claim : bus.claimed = true := agrees.claim.symm.trans (Bool.not_eq_false _ ▸ claimed)
  split
  · exact ⟨⟨⟨claim, may⟩, trivial⟩, agrees, by simp⟩
  · refine ⟨⟨⟨claim, may⟩, trivial⟩, { agrees with
      claim := rfl
      live := fun unfenced => .inr ?_
      current := fun positive unfenced => ?_ }, fun _ => rfl⟩
    · have untouched := ended unfenced
      exact ⟨untouched.1, untouched.2.1, untouched.2.2.1, untouched.2.2.2.1, by simp [Bus.note]⟩
    · exact absurd (unfenced.symm.trans (stale positive)) Bool.false_ne_true

/-- What the interface shows of the claim only. -/
theorem releaseClaim_note (context : Context) (answer : Option GError) (bus : Bus) :
    (Device.releaseClaim context answer).2.1.foldl Bus.note bus =
      { bus with claimed :=
        ((Device.releaseClaim context answer).2.1.foldl Bus.note bus).claimed } := by
  unfold Device.releaseClaim
  split
  · rfl
  split <;> rfl

/-- A context between two epochs. -/
structure BetweenEpochs (bus : Bus) (context : Context) : Prop
    extends BusAgrees bus false context where
  silent : bus.IsSilent
  stale : context.generation ≠ 0 → context.terminalFence = true
  ended : context.usb.backend.terminalFence = false → Untouched bus context
  absent : context.hasComponent = false
  unstarted : context.sync.result = .notStarted
  settled : context.state ≠ .opening
  stays : context.deactivationPending = false
  unbegun : bus.claimed = true → bus.begun = false

/-- A part of an activation that ends with the claim, or without. -/
structure ClaimAttempt (bus : Bus) (attempted : Context × List Noted × Except GError Unit) :
    Prop where
  admits : interface.Admits bus attempted.2.1
  between : BetweenEpochs (attempted.2.1.foldl Bus.note bus) attempted.1
  claims : attempted.2.2 = .ok () → (attempted.2.1.foldl Bus.note bus).claimed = true

theorem BetweenEpochs.releaseClaim (between : BetweenEpochs bus context) (answer : Option GError) :
    interface.Admits bus (Device.releaseClaim context answer).2.1 ∧
      BetweenEpochs ((Device.releaseClaim context answer).2.1.foldl Bus.note bus)
        (Device.releaseClaim context answer).1 := by
  obtain ⟨admits, agrees, -⟩ :=
    between.toBusAgrees.releaseClaim (.inr between.silent) between.stale between.ended answer
  refine ⟨admits, ?_⟩
  revert agrees
  unfold Device.releaseClaim
  split
  · exact fun _ => between
  split
  · exact fun _ => between
  · intro agrees
    exact { agrees with
      silent := between.silent
      stale := between.stale
      ended := fun unfenced => ⟨(between.ended unfenced).1, (between.ended unfenced).2.1,
        (between.ended unfenced).2.2.1, (between.ended unfenced).2.2.2.1, by simp [Bus.note]⟩
      absent := between.absent
      unstarted := between.unstarted
      settled := between.settled
      stays := between.stays
      unbegun := by simp [Bus.note] }

/-- What an epoch leaves behind fits together. -/
theorem BusAgrees.releaseEpochObjects (agrees : BusAgrees bus false context) :
    BusAgrees bus false context.releaseEpochObjects := by
  have callback := agrees.callback none
  exact { callback with
    present := by simp [Context.releaseEpochObjects, Context.hasComponent]
    live := fun unfenced => (agrees.live unfenced).imp id fun untouched =>
      ⟨untouched.1, by simp [Context.releaseEpochObjects, Context.hasComponent], untouched.2.2⟩ }

theorem BetweenEpochs.acquisitionFailed {noted : List Noted}
    (between : BetweenEpochs (noted.foldl Bus.note bus) context)
    (admits : interface.Admits bus noted)
    (error : GError) : ClaimAttempt bus (device.acquisitionFailed context noted error) := by
  obtain ⟨more, released⟩ := between.releaseClaim device.outside.releaseAgain
  have absent : (Device.releaseClaim context
      device.outside.releaseAgain).1.releaseEpochObjects.hasComponent = false := by
    simp [Context.releaseEpochObjects, Context.hasComponent]
  refine ⟨Monitor.admits_append.mpr ⟨admits, more⟩, ?_, by simp [Device.acquisitionFailed]⟩
  show BetweenEpochs ((noted ++ _).foldl Bus.note bus) _
  rw [List.foldl_append]
  exact { released.toBusAgrees.releaseEpochObjects with
    silent := released.silent
    stale := released.stale
    ended := fun unfenced => ⟨(released.ended unfenced).1, absent, (released.ended unfenced).2.2⟩
    absent := absent
    unstarted := released.unstarted
    settled := released.settled
    stays := released.stays
    unbegun := released.unbegun }

/-- The interface is claimed between two epochs. -/
theorem BetweenEpochs.claimed (between : BetweenEpochs bus context) :
    BetweenEpochs { bus with claimed := true, begun := false }
      { context with usbInterfaceClaimed := true } :=
  { between with
    claim := rfl
    present := fun present => absurd (between.absent.symm.trans present) Bool.false_ne_true
    live := fun unfenced => .inr ⟨(between.ended unfenced).1, (between.ended unfenced).2.1,
      (between.ended unfenced).2.2.1, (between.ended unfenced).2.2.2.1, fun _ => rfl⟩
    current := fun positive unfenced =>
      absurd (unfenced.symm.trans (between.stale positive)) Bool.false_ne_true
    synchronised := fun started => absurd between.unstarted started
    ended := fun unfenced => ⟨(between.ended unfenced).1, (between.ended unfenced).2.1,
      (between.ended unfenced).2.2.1, (between.ended unfenced).2.2.2.1, fun _ => rfl⟩
    unbegun := fun _ => rfl }

theorem BetweenEpochs.claimInterface (between : BetweenEpochs bus context)
    (unclaimed : bus.claimed = false) :
    ClaimAttempt bus (device.claimInterface context) := by
  have allows : bus.claimed = false ∧ bus.IsSilent := ⟨unclaimed, between.silent⟩
  have claimed := between.claimed
  unfold Device.claimInterface
  split
  · exact @BetweenEpochs.acquisitionFailed bus device context [] between trivial _
  split
  · exact @BetweenEpochs.acquisitionFailed bus device context [] between trivial _
  dsimp only
  split
  · obtain ⟨admits, released⟩ := claimed.releaseClaim device.outside.releaseAtFailure
    exact @BetweenEpochs.acquisitionFailed bus device _ (.claimed :: _) released ⟨allows, admits⟩
      cancelledError
  · exact ⟨⟨allows, trivial⟩, claimed, fun _ => rfl⟩

theorem BetweenEpochs.acquireActionResources (between : BetweenEpochs bus context)
    (device : Device) :
    ClaimAttempt bus (device.acquireActionResources context) := by
  unfold Device.acquireActionResources
  split
  · exact ⟨trivial, between, by simp⟩
  rename_i clean
  simp only [not_or, Bool.not_eq_true] at clean
  have unclaimed : bus.claimed = false := between.claim.symm.trans clean.2.2
  split
  · exact ⟨trivial, between, by simp⟩
  split
  · split
    · exact between.claimInterface unclaimed
    · exact @BetweenEpochs.acquisitionFailed bus device context [] between trivial _
  · refine BetweenEpochs.claimInterface ?_ unclaimed
    exact { between with }

/-- The epoch is taken up. -/
theorem BetweenEpochs.consume (between : BetweenEpochs bus context) (action : DeviceAction) :
    BetweenEpochs bus { context with
      productionActionConsumed := true, productionAction := action } :=
  { between with
    idle := by simp
    opening := fun same => absurd same between.settled }

theorem BetweenEpochs.consumeEpoch (between : BetweenEpochs bus context) (device : Device) :
    ClaimAttempt bus (device.consumeEpoch context) := by
  have taken := between.consume device.framework.action
  have acquired := taken.acquireActionResources device
  revert acquired
  unfold Device.consumeEpoch
  dsimp only
  split
  · rename_i claimed
    exact fun _ => ⟨trivial, taken, fun _ => between.toBusAgrees.claim.symm.trans claimed⟩
  split
  · rename_i found
    rw [found]
    exact id
  · rename_i found
    rw [found]
    exact fun acquired => ⟨acquired.admits, { acquired.between with }, by simp⟩

/-- A context that has not taken up an epoch is between two. -/
theorem BusAgrees.between (agrees : BusAgrees bus false context)
    (couples : Couples reception context)
    (unconsumed : context.productionActionConsumed = false) (settled : context.state ≠ .opening)
    (stays : context.deactivationPending = false) : BetweenEpochs bus context := by
  obtain ⟨absent, unclaimed⟩ := couples.not_busy (by simp [Context.isBusy, unconsumed])
  have claim : ¬bus.claimed = true := fun claim =>
    absurd (unclaimed.symm.trans (agrees.claim.trans claim)) Bool.false_ne_true
  exact { agrees with
    silent := agrees.silent (agrees.idle unconsumed)
    stale := fun positive => by
      by_contra unfenced
      exact claim (agrees.current positive (Bool.eq_false_iff.mpr unfenced)).1
    ended := fun unfenced => (agrees.live unfenced).resolve_left fun live => claim live.1
    absent
    unstarted := couples.not_started unconsumed
    settled
    stays
    unbegun := fun claimed => absurd claimed claim }

/-- How a completed epoch is reopened. -/
structure ReopensEpoch {ε : Type} (bus : Bus)
    (reopened : Context × List Noted × Except ε Unit) : Prop where
  admits : interface.Admits bus reopened.2.1
  agrees : BusAgrees (reopened.2.1.foldl Bus.note bus) false reopened.1
  ready : reopened.2.2 = .ok () → reopened.1.productionActionConsumed = false →
    BetweenEpochs (reopened.2.1.foldl Bus.note bus) reopened.1

theorem BusAgrees.reopenFailed (agrees : BusAgrees bus false context) (error : Option GError) :
    ReopensEpoch bus (Device.reopenFailed context error) :=
  ⟨trivial, { agrees.releaseEpochObjects with }, by simp [Device.reopenFailed]⟩

theorem BetweenEpochs.claimAgain (between : BetweenEpochs bus context)
    (unclaimed : bus.claimed = false)
    (action : DeviceAction) : ReopensEpoch bus (device.claimAgain context action) := by
  have claimed := between.claimed
  unfold Device.claimAgain
  split
  · exact between.toBusAgrees.reopenFailed _
  · have handed : BetweenEpochs { bus with claimed := true, begun := false } { context with
        usbInterfaceClaimed := true
        identifyEnrollHandoffArmed :=
          if action = .enroll then false else context.identifyEnrollHandoffArmed } :=
      { claimed with }
    exact ⟨⟨⟨unclaimed, between.silent⟩, trivial⟩, handed.toBusAgrees, fun _ _ => handed⟩

/-- The audit of the backend is only reset behind a fence that has drained. -/
theorem resetEpochAudit_still {backend reset : Backend Owner}
    (resets : backend.resetEpochAudit = .ok reset) :
    backend.terminalFence = true ∧ backend.isDrained = true ∧ reset.terminalFence = true ∧
      reset.inOutstanding = backend.inOutstanding ∧
      reset.outOutstanding = backend.outOutstanding := by
  unfold Backend.resetEpochAudit at resets
  split at resets
  · cases resets
  rename_i may
  simp only [not_or, Bool.not_eq_false, Bool.not_eq_true] at may
  cases resets
  exact ⟨may.1, may.2.1, may.1, rfl, rfl⟩

theorem BusAgrees.reopenForCaptureAction (agrees : BusAgrees bus false context)
    (couples : Couples reception context)
    (closed : context.verify.closed = true ∨ context.identify.closed = true) (device : Device)
    (action : DeviceAction) :
    ReopensEpoch bus (device.reopenForCaptureAction context action) := by
  obtain ⟨absent, unclaimed⟩ := couples.not_busy (by
    cases closed with
    | inl verify => simp [Context.isBusy, verify]
    | inr identify => simp [Context.isBusy, identify])
  have claim : bus.claimed = false := agrees.claim.symm.trans unclaimed
  unfold Device.reopenForCaptureAction
  split
  · exact ⟨trivial, agrees, by simp⟩
  rename_i may
  split
  · exact ⟨trivial, agrees, by simp⟩
  rename_i backend resets
  obtain ⟨wasFenced, drained, fence, ins, outs⟩ := resetEpochAudit_still resets
  have inactive : context.state = .inactive := by
    simp only [Bool.not_eq_false, Device.mayReopen, decide_eq_true_eq] at may
    exact may.2.2.1
  have backed := agrees.backend (fence.trans wasFenced.symm) ins outs
  have reset : BetweenEpochs bus
      { context with usb := { context.usb with backend } }.resetForCaptureReopen :=
    { backed with
      live := fun unfenced => absurd (fence.symm.trans unfenced) (by simp)
      current := by simp [Context.resetForCaptureReopen]
      shut := fun _ => rfl
      leaves := by simp [Context.resetForCaptureReopen]
      idle := fun _ => by
        simp only [Backend.isDrained, decide_eq_true_eq] at drained
        simp [Context.resetForCaptureReopen, Backend.isDrained, ins, outs, drained]
      synchronised := by simp [Context.resetForCaptureReopen, RxSync.zero]
      opening := fun _ => rfl
      silent := agrees.silent drained
      stale := fun _ => rfl
      ended := fun unfenced => absurd (fence.symm.trans unfenced) (by simp)
      absent := absent
      unstarted := rfl
      settled := by simp [Context.resetForCaptureReopen, inactive]
      stays := rfl
      unbegun := fun claimed => absurd (claim.symm.trans claimed) Bool.false_ne_true }
  dsimp only
  split
  · split
    · exact reset.claimAgain claim action
    · exact reset.toBusAgrees.reopenFailed _
  · refine BetweenEpochs.claimAgain ?_ claim action
    exact { reset with }

/-- What is left of the epochs before is reopened, or there is nothing to reopen. -/
theorem BusAgrees.reopenCompleted (agrees : BusAgrees bus false context)
    (couples : Couples reception context) (settled : context.state ≠ .opening)
    (stays : context.deactivationPending = false) (device : Device) :
    ReopensEpoch bus (device.reopenCompleted context) := by
  unfold Device.reopenCompleted
  dsimp only
  split
  · rename_i closed
    split
    · exact ⟨trivial, { agrees with }, by simp⟩
    have reopens := agrees.reopenForCaptureAction couples (.inr closed) device
      device.framework.action
    split
    · rename_i found
      rw [found] at reopens
      exact ⟨reopens.admits, reopens.agrees, by simp⟩
    · rename_i found
      rw [found] at reopens
      exact ⟨reopens.admits, reopens.agrees, fun _ => reopens.ready rfl⟩
  split
  · rename_i closed
    split
    · exact ⟨trivial, agrees, by simp⟩
    have reopens := agrees.reopenForCaptureAction couples (.inl closed) device .verify
    split
    · rename_i found
      rw [found] at reopens
      exact ⟨reopens.admits, reopens.agrees, by simp⟩
    · rename_i found
      rw [found] at reopens
      exact ⟨reopens.admits, reopens.agrees, fun _ => reopens.ready rfl⟩
  · exact ⟨trivial, agrees, fun _ unconsumed => agrees.between couples unconsumed settled stays⟩

/-- An activation goes on with a claim under which no generation has begun. -/
theorem BusAgrees.prepareActivation (agrees : BusAgrees bus false context)
    (couples : Couples reception context) (settled : context.state ≠ .opening)
    (stays : context.deactivationPending = false) (device : Device) :
    interface.Admits bus (device.prepareActivation context).2.1 ∧
      BusAgrees ((device.prepareActivation context).2.1.foldl Bus.note bus) false
        (device.prepareActivation context).1 ∧
      ((device.prepareActivation context).2.2 = .ok () →
        BetweenEpochs ((device.prepareActivation context).2.1.foldl Bus.note bus)
          (device.prepareActivation context).1 ∧
        ((device.prepareActivation context).2.1.foldl Bus.note bus).claimed = true) := by
  unfold Device.prepareActivation
  dsimp only
  split
  · exact ⟨trivial, agrees, by simp⟩
  split
  · exact ⟨trivial, agrees, by simp⟩
  have reopens := agrees.reopenCompleted couples settled stays device
  split
  · rename_i found
    rw [found] at reopens
    exact ⟨reopens.admits, reopens.agrees, by simp⟩
  rename_i reopened noted found
  rw [found] at reopens
  split
  · exact ⟨reopens.admits, reopens.agrees, by simp⟩
  rename_i unconsumed
  have attempt := (reopens.ready rfl (Bool.eq_false_iff.mpr unconsumed)).consumeEpoch device
  have after : (noted ++ (device.consumeEpoch reopened).2.1).foldl Bus.note bus =
      (device.consumeEpoch reopened).2.1.foldl Bus.note (noted.foldl Bus.note bus) :=
    List.foldl_append ..
  refine ⟨Monitor.admits_append.mpr ⟨reopens.admits, attempt.admits⟩, ?_, fun ends => ⟨?_, ?_⟩⟩
  · rw [after]
    exact attempt.between.toBusAgrees
  · rw [after]
    exact attempt.between
  · rw [after]
    exact attempt.claims ends

/-! ## Activation -/

/-- Something has been shown before. -/
theorem BusStep.behind {outcome : Outcome} {noted : List Noted}
    (step : BusStep (noted.foldl Bus.note bus) outcome) (admits : interface.Admits bus noted) :
    BusStep bus (outcome.behind noted) := by
  have after : (outcome.behind noted).2.1.foldl Bus.note bus =
      outcome.2.1.foldl Bus.note (noted.foldl Bus.note bus) := List.foldl_append ..
  refine ⟨Monitor.admits_append.mpr ⟨admits, step.admits⟩, ?_, ?_, ?_⟩
  · rw [after]
    exact step.agrees
  · rw [after]
    exact step.gone
  · rw [after]
    exact step.needs

/-- The generation of an activation begins. -/
theorem BetweenEpochs.beginActivation (between : BetweenEpochs bus context)
    (claim : bus.claimed = true)
    (production : device.production = true) (couples : Couples reception context)
    (consumed : context.productionActionConsumed = true) :
    BusStep bus (device.beginActivation context) := by
  unfold Device.beginActivation
  dsimp only
  split
  · have failed : DeviceAgrees reception bus (device.put { context with
        generationSeq := context.generationSeq + 1
        generation := 0
        releaseTailComplete := false
        freshDownTable := false
        terminalFence := true
        poisoned := true
        activationCompleted := false
        activationCancellable := true
        state := .inactive }) := by
      refine BusAgrees.deviceAgrees ?_ production { couples with }
      exact { between.toBusAgrees with
        live := fun unfenced => (between.live unfenced).imp id fun untouched =>
          ⟨untouched.1, untouched.2.1, untouched.2.2.1, rfl, untouched.2.2.2.2⟩
        current := by simp
        shut := fun _ => rfl
        opening := by simp }
    exact (failed.activateComplete (by simp)).toBusStep
  rename_i backend begins
  unfold Backend.beginGeneration at begins
  split at begins
  · cases begins
  cases begins
  have begun : ∀ (state : ContextState) (handler : Bool), state ≠ .opening →
      BusAgrees { bus with begun := true, fenced := false } false { context with
        generationSeq := context.generationSeq + 1
        generation := context.generationSeq + 1
        releaseTailComplete := false
        freshDownTable := false
        terminalFence := false
        activationCompleted := false
        activationCancellable := true
        usb :=
          { backend := { context.usb.backend with
              generation := context.generationSeq + 1
              terminalFence := false
              drainNotified := false }
            router := context.usb.router.beginGeneration (context.generationSeq + 1) }
        cancelHandler := handler
        state } := fun state handler other =>
    { between.toBusAgrees with
      present := fun _ => rfl
      live := fun _ => .inl ⟨claim, rfl⟩
      router := by simp
      current := fun _ _ => ⟨claim, rfl⟩
      shut := by simp
      leaves := fun pending => absurd (between.stays.symm.trans pending) Bool.false_ne_true
      halted := by simp
      synchronised := fun _ => rfl
      opening := fun same => absurd same other }
  have allows : interface.Admits bus [.usb (.begun (context.generationSeq + 1))] :=
    ⟨⟨claim, between.unbegun claim, between.silent⟩, trivial⟩
  split
  · rename_i other
    rw [production] at other
    cases other
  split
  · have refused := @EpochStep.put _ device _ [] [.protocolFailure (some (fpDeviceError errorNotOpen
      "Goodix production activation lacks its open-epoch resources"))]
      (begun .activating (!device.framework.cancelled) (by simp)) rfl rfl
    exact @BusStep.behind bus _ [.usb (.begun _)] refused.toBusStep allows
  · refine BusStep.behind (EpochStep.toBusStep ?_) allows
    refine (begun .activating _ (by simp)).beginPreSessionRxSync consumed ⟨claim, rfl, rfl⟩
      (fun untouched => ?_) fun _ => rfl
    exact absurd untouched.2.2.2.1 (Nat.succ_ne_zero _)

/-- `activate` of the driver in a production device. -/
theorem DeviceAgrees.activate (holds : DeviceAgrees reception bus device)
    (present : device.context = some context)
    (stays : context.state ≠ .deactivating → context.deactivationPending = false) :
    BusStep bus (device.activate context) := by
  have couples := holds.couples context present
  have agrees := holds.agrees context present
  unfold Device.activate
  split
  · exact (holds.still rfl rfl).toBusStep
  rename_i state
  split
  · exact (holds.activateComplete (by simp)).toBusStep
  split
  · rename_i login
    cases login with
    | inl preparing => exact absurd (couples.noLogin.1.symm.trans preparing) Bool.false_ne_true
    | inr series => exact absurd (couples.noLogin.2.1.symm.trans series) Bool.false_ne_true
  split
  · exact (holds.activateComplete (by simp)).toBusStep
  split
  · rename_i other
    rw [holds.production] at other
    cases other
  have settled : context.state ≠ .opening ∧ context.state ≠ .deactivating := by
    constructor <;> (intro same; simp [same] at state)
  obtain ⟨admits, prepared, attempt⟩ :=
    agrees.prepareActivation couples settled.1 (stays settled.2) device
  obtain ⟨-, coupled, taken⟩ := couples.prepareActivation device
  split
  · rename_i found
    rw [found] at admits prepared coupled
    refine BusStep.behind (EpochStep.toBusStep ?_) admits
    exact (prepared.deviceAgrees holds.production coupled).activateComplete (by simp)
  · rename_i found
    rw [found] at admits attempt coupled taken
    obtain ⟨between, claim⟩ := attempt rfl
    exact (between.beginActivation claim holds.production coupled (taken rfl).consumed).behind
      admits

/-! ## Deactivation -/

/-- An epoch is only closed behind its fence, when nothing is in flight. -/
theorem BusAgrees.closeCompletedCaptureEpoch (agrees : BusAgrees bus false context)
    (fenced : bus.fenced = true) (action : DeviceAction) :
    interface.Admits bus (device.closeCompletedCaptureEpoch context action).2.1 ∧
      BusAgrees ((device.closeCompletedCaptureEpoch context action).2.1.foldl Bus.note bus) false
        (device.closeCompletedCaptureEpoch context action).1 ∧
      (device.closeCompletedCaptureEpoch context action).2.1.foldl Bus.note bus =
        { bus with claimed := ((device.closeCompletedCaptureEpoch context
          action).2.1.foldl Bus.note bus).claimed } := by
  have shut := agrees.shut fenced
  have halts := agrees.halts fenced
  obtain ⟨admits, released, unclaims⟩ := agrees.releaseClaim (.inl fenced) (fun _ => shut)
    (fun unfenced => absurd (unfenced.symm.trans halts) Bool.false_ne_true) device.outside.release
  have same := releaseClaim_note context device.outside.release bus
  unfold Device.closeCompletedCaptureEpoch
  split
  · exact ⟨trivial, agrees, rfl⟩
  rename_i complete
  have drained : context.isDrained = true := by
    simp only [Device.epochIsComplete, Bool.not_eq_false, decide_eq_true_eq] at complete
    exact complete.2.2.2.2.1
  split
  · rename_i found
    rw [found] at admits released same
    exact ⟨admits, released, same⟩
  · rename_i closed noted found
    rw [found] at admits released unclaims same
    dsimp only at admits released unclaims same ⊢
    have unclaimed := unclaims rfl
    have after : (noted ++ [Noted.epochClosed action]).foldl Bus.note bus =
        noted.foldl Bus.note bus := by
      rw [List.foldl_append]
      rfl
    have silent := agrees.silent drained
    refine ⟨Monitor.admits_append.mpr ⟨admits, ⟨unclaimed, ?_, ?_⟩, trivial⟩, ?_, ?_⟩
    · show (noted.foldl Bus.note bus).fenced = true
      rw [same]
      exact fenced
    · show (noted.foldl Bus.note bus).IsSilent
      rw [same]
      exact silent
    · rw [after]
      exact { released.releaseEpochObjects with
        live := fun unfenced => (released.releaseEpochObjects.live unfenced).imp id
          fun untouched => ⟨untouched.1, untouched.2.1, untouched.2.2.1, rfl, untouched.2.2.2.2⟩
        current := by simp }
    · rw [after]
      exact same

theorem BusAgrees.closeEpoch (agrees : BusAgrees bus false context) (fenced : bus.fenced = true)
    (device : Device) :
    interface.Admits bus (device.closeEpoch context).2.1 ∧
      BusAgrees ((device.closeEpoch context).2.1.foldl Bus.note bus) false
        (device.closeEpoch context).1 ∧
      (device.closeEpoch context).2.1.foldl Bus.note bus =
        { bus with claimed := ((device.closeEpoch context).2.1.foldl Bus.note bus).claimed } := by
  unfold Device.closeEpoch
  split
  · exact agrees.closeCompletedCaptureEpoch fenced _
  · exact ⟨trivial, agrees, rfl⟩

theorem BusAgrees.disarmHandoff (agrees : BusAgrees bus false context) :
    BusAgrees bus false (Device.disarmHandoff context) := by
  unfold Device.disarmHandoff
  split
  · exact { agrees with }
  · exact agrees

/-- Something has been shown before that only gives the claim back. -/
theorem EpochStep.closing {outcome : Outcome} {noted : List Noted}
    (step : EpochStep (noted.foldl Bus.note bus) outcome) (admits : interface.Admits bus noted)
    (same : noted.foldl Bus.note bus =
      { bus with claimed := (noted.foldl Bus.note bus).claimed }) :
    EpochStep bus (outcome.behind noted) := by
  refine ⟨step.toBusStep.behind admits, ?_⟩
  have after : (outcome.behind noted).2.1.foldl Bus.note bus =
      outcome.2.1.foldl Bus.note (noted.foldl Bus.note bus) := List.foldl_append ..
  rw [after]
  refine ⟨fun begun => step.grows.begun ?_, fun fenced => step.grows.fenced ?_⟩
  · rw [same]
    exact begun
  · rw [same]
    exact fenced

theorem DeviceAgrees.finishedDeactivation (holds : DeviceAgrees reception bus device)
    (couples : Couples reception context) (agrees : BusAgrees bus false context)
    (fenced : bus.fenced = true) (drained : context.isDrained = true) :
    EpochStep bus (device.finishedDeactivation context) := by
  have silent := agrees.silent drained
  unfold Device.finishedDeactivation
  dsimp only
  split
  · refine (holds.put ?_ ?_).deactivateComplete fenced silent none
    · exact { couples with }
    · exact { agrees with
        leaves := by simp
        opening := by simp }
  split
  · refine (holds.put ?_ ?_).deactivateComplete fenced silent none
    · exact { couples with }
    · exact { agrees with
        leaves := by simp
        opening := by simp }
  have inactive : BusAgrees bus false
      { context with deactivationPending := false, state := .inactive } :=
    { agrees with
      leaves := by simp
      opening := by simp }
  have settled : Couples reception
      { context with deactivationPending := false, state := .inactive } := { couples with }
  obtain ⟨admits, closed, same⟩ := inactive.closeEpoch fenced device
  obtain ⟨coupled, -⟩ := settled.closeEpoch device
  have fenced' : ((device.closeEpoch { context with
      deactivationPending := false, state := .inactive }).2.1.foldl Bus.note bus).fenced =
      true := by
    rw [same]
    exact fenced
  have silent' : ((device.closeEpoch { context with
      deactivationPending := false, state := .inactive }).2.1.foldl Bus.note bus).IsSilent := by
    rw [same]
    exact silent
  split
  · rename_i error found
    rw [found] at admits closed same coupled fenced' silent'
    refine EpochStep.closing ?_ admits same
    refine (@BusAgrees.deviceAgrees reception _ device _ ?_ holds.production
      ?_).deactivateComplete fenced'
      silent' _
    · exact { closed.setPoisoned (some error) with opening := by simp }
    · exact { coupled.setPoisoned (some error) with }
  · rename_i found
    rw [found] at admits closed same coupled fenced' silent'
    split
    · refine EpochStep.closing ?_ admits same
      refine (@BusAgrees.deviceAgrees reception _ device _ ?_ holds.production
        ?_).deactivateComplete
        fenced' silent' _
      · exact { closed.disarmHandoff with opening := by simp }
      · exact { coupled.disarmHandoff with }
    · refine EpochStep.closing ?_ admits same
      exact (closed.disarmHandoff.deviceAgrees holds.production
        coupled.disarmHandoff).deactivateComplete fenced' silent' _

theorem DeviceAgrees.finishDeactivation (holds : DeviceAgrees reception bus device)
    (present : device.context = some context) :
    EpochStep bus (device.finishDeactivation context) := by
  have couples := holds.couples context present
  have agrees := holds.agrees context present
  unfold Device.finishDeactivation
  split
  · exact holds.still rfl rfl
  rename_i may
  simp only [not_or, Bool.not_eq_false] at may
  split
  · rename_i reusable
    exact absurd (couples.noLogin.2.2.symm.trans reusable.1) Bool.false_ne_true
  · exact holds.finishedDeactivation couples agrees (agrees.leaves may.1) may.2.2

theorem BusAgrees.completeDeactivation (agrees : BusAgrees bus false context) :
    EpochStep bus (device.completeDeactivation context) := by
  unfold Device.completeDeactivation
  split
  · exact .put agrees rfl rfl
  split
  · split
    · exact .put agrees rfl rfl
    · exact .idle (fun _ same => by cases same; exact { agrees with })
        (fun absent => by cases absent) rfl (needsBus_of_all rfl)
  · exact .put agrees rfl rfl

theorem DeviceAgrees.deactivate (holds : DeviceAgrees reception bus device)
    (present : device.context = some context) : EpochStep bus (device.deactivate context) := by
  have couples := holds.couples context present
  have agrees := holds.agrees context present
  unfold Device.deactivate
  split
  · exact holds.still rfl rfl
  dsimp only
  have noSeries : ({ context with
      terminalEnrollCompletionHeld := false
      state := .deactivating
      deactivationPending := true } : Context).disconnectCancelHandler.loginSeries = false := by
    unfold Context.disconnectCancelHandler
    split <;> exact couples.noLogin.2.1
  have left : BusAgrees { bus with fenced := true } true { ({ context with
      terminalEnrollCompletionHeld := false
      state := .deactivating
      deactivationPending := true } : Context).disconnectCancelHandler with
      loginReusable := false
      terminalFence := true } := by
    have fence := agrees.fence
    unfold Context.disconnectCancelHandler
    split <;> exact { fence with
      leaves := fun _ => rfl
      opening := by simp }
  generalize ({ context with
      terminalEnrollCompletionHeld := false
      state := .deactivating
      deactivationPending := true } : Context).disconnectCancelHandler = leaving
    at noSeries left ⊢
  -- there is no login, so no series goes on
  have ends : leaving.reusable device.framework.cancelled = false := by
    simp [Context.reusable, noSeries]
  rw [ends, if_neg Bool.false_ne_true]
  exact BusAgrees.setTerminalFence left rfl (needsBus_of_all rfl)

theorem BusAgrees.deactivateFenced (agrees : BusAgrees bus false context) :
    EpochStep bus (device.deactivateFenced context) := by
  have stopped : BusAgrees bus false { context with
      generation := 0
      deactivationNonquiescent := device.framework.cancelled } :=
    { agrees with
      live := fun unfenced => (agrees.live unfenced).imp id fun untouched =>
        ⟨untouched.1, untouched.2.1, untouched.2.2.1, rfl, untouched.2.2.2.2⟩
      current := by simp }
  unfold Device.deactivateFenced
  dsimp only
  split
  · exact stopped.completeDeactivation
  · exact .put stopped rfl rfl

theorem DeviceAgrees.usbDrained (holds : DeviceAgrees reception bus device)
    (present : device.context = some context) : EpochStep bus (device.usbDrained context) := by
  have agrees := holds.agrees context present
  unfold Device.usbDrained
  split
  · exact .idle (fun _ same => by cases same; exact { agrees with })
      (fun absent => by cases absent) rfl (needsBus_of_all rfl)
  split
  · exact agrees.completeDeactivation
  · exact holds.still rfl rfl

/-- What the matcher says of a capture. -/
theorem BusAgrees.recordCaptureResult (agrees : BusAgrees bus false context)
    (production success isMatch : Bool) :
    BusAgrees bus false (context.recordCaptureResult production success isMatch) := by
  unfold Context.recordCaptureResult
  split
  · exact agrees
  · exact { agrees with }

theorem DeviceAgrees.captureResult (holds : DeviceAgrees reception bus device)
    (present : device.context = some context) (action : DeviceAction) (success isMatch : Bool) :
    EpochStep bus (device.captureResult context action success isMatch) := by
  have agrees := holds.agrees context present
  unfold Device.captureResult
  split
  · exact holds.still rfl rfl
  dsimp only
  refine .put (BusAgrees.recordCaptureResult ?_ ..) rfl rfl
  split <;> exact { agrees with }

theorem DeviceAgrees.captureResultKnown (holds : DeviceAgrees reception bus device)
    (present : device.context = some context) :
    EpochStep bus (device.captureResultKnown context) := by
  unfold Device.captureResultKnown
  split
  · exact (holds.agrees context present).completeDeactivation
  · exact holds.still rfl rfl

/-! ## Opening and closing -/

theorem DeviceAgrees.imgOpenContext (holds : DeviceAgrees reception bus device)
    (present : device.context = some context) :
    EpochStep bus (device.imgOpenContext context) := by
  have couples := holds.couples context present
  have agrees := holds.agrees context present
  unfold Device.imgOpenContext
  split
  · exact holds.still rfl rfl
  rename_i opening
  have unconsumed := agrees.opening (Decidable.not_not.mp opening)
  split
  · rename_i other
    rw [holds.production] at other
    cases other
  split
  · have unclaimed := (couples.not_busy (by simp [Context.isBusy, unconsumed])).2
    have vacated : DeviceAgrees reception bus { device with context := none } := {
      production := holds.production
      couples := by simp
      agrees := by simp
      gone := fun _ => ⟨agrees.claim.symm.trans unclaimed, agrees.silent (agrees.idle unconsumed)⟩ }
    exact vacated.openComplete _
  · refine (holds.put ?_ ?_).openComplete none
    · exact { couples with }
    · exact { agrees with opening := by simp }

theorem busAgrees_new : BusAgrees Bus.idle false (Context.new .opening) where
  claim := rfl
  receiving := by decide
  sending := by decide
  present := by decide
  live := fun _ => .inr ⟨⟨rfl, rfl, rfl⟩, rfl, rfl, rfl, by simp [Bus.idle]⟩
  router := by simp [Context.new, Stack.new, Backend.new]
  current := by simp [Context.new]
  shut := by simp [Bus.idle]
  leaves := by simp [Context.new]
  halted := by simp [Bus.idle]
  idle := fun _ => rfl
  synchronised := by simp [Context.new, RxSync.zero]
  opening := fun _ => rfl

theorem DeviceAgrees.imgOpen (holds : DeviceAgrees reception bus device) :
    BusStep bus device.imgOpen := by
  unfold Device.imgOpen
  split
  · rename_i context present
    exact (holds.imgOpenContext present).toBusStep
  · rename_i absent
    have fresh := busAgrees_new.deviceAgrees holds.production (couples_new reception .opening)
    have opened := fresh.imgOpenContext rfl
    exact @BusStep.behind bus _ [.created] opened.toBusStep ⟨holds.gone absent, trivial⟩

theorem DeviceAgrees.imgClose (holds : DeviceAgrees reception bus device)
    (present : device.context = some context) : EpochStep bus (device.imgClose context) := by
  have couples := holds.couples context present
  unfold Device.imgClose
  split
  · rename_i login
    cases login with
    | inl preparing => exact absurd (couples.noLogin.1.symm.trans preparing) Bool.false_ne_true
    | inr series => exact absurd (couples.noLogin.2.1.symm.trans series) Bool.false_ne_true
  · exact holds.still rfl rfl

theorem DeviceAgrees.imgCloseLogin (holds : DeviceAgrees reception bus device)
    (present : device.context = some context) : EpochStep bus (device.imgCloseLogin context) := by
  unfold Device.imgCloseLogin
  split
  · exact .put { holds.agrees context present with } rfl rfl
  · exact holds.still rfl rfl

theorem DeviceAgrees.imgCloseFence (holds : DeviceAgrees reception bus device)
    (agrees : BusAgrees bus false context) : EpochStep bus (device.imgCloseFence context) := by
  unfold Device.imgCloseFence
  split
  · exact holds.still rfl rfl
  · refine agrees.fence.setTerminalFence rfl fun piece inside => ?_
    cases List.mem_singleton.mp inside
    rfl

/-- The device is closed and has no context. -/
theorem EpochStep.closeComplete (absent : device.context = none) (fenced : bus.fenced = true)
    (error : Option GError) : EpochStep bus (device.closeComplete error) := by
  have shown (changed : Device) (absent : changed.context = none) :
      EpochStep bus (changed, [.closed error], []) := by
    refine ⟨⟨⟨fenced, trivial⟩, fun _ present => ?_, fun _ => ⟨rfl, rfl, rfl⟩, needsBus_of_all rfl⟩,
      ⟨id, id⟩⟩
    cases absent.symm.trans present
  unfold Device.closeComplete
  dsimp only
  split
  · exact shown _ absent
  · exact shown _ absent

theorem BusAgrees.imgClosed (agrees : BusAgrees bus false context) (fenced : bus.fenced = true) :
    EpochStep bus (device.imgClosed context) := by
  have shut := agrees.shut fenced
  have halts := agrees.halts fenced
  have closing : BusAgrees bus false { context with state := .closing } :=
    { agrees with opening := by simp }
  obtain ⟨admits, -, -⟩ := closing.releaseClaim (.inl fenced) (fun _ => shut)
    (fun unfenced => absurd (unfenced.symm.trans halts) Bool.false_ne_true) device.outside.release
  have same := releaseClaim_note { context with state := .closing } device.outside.release bus
  unfold Device.imgClosed
  split
  rename_i found
  rw [found] at admits same
  refine EpochStep.closing (EpochStep.closeComplete rfl ?_ _) admits same
  rw [same]
  exact fenced

/-! ## The pieces and the calls -/

section

variable (holds : DeviceAgrees reception bus device)

include holds

/-- Every piece but the start of an activation and of an opening. -/
theorem DeviceAgrees.perform {piece : Piece} (needs : piece.NeedsBus bus) :
    EpochStep bus (perform device piece) := by
  cases piece with
  | component | starting | cancelling => exact holds.still rfl rfl
  | abort => exact holds.still rfl rfl
  | usb work => exact holds.withContext fun _ _ _ agrees => agrees.turnUsb work
  | usbDrained => exact holds.withContext fun _ present _ _ => holds.usbDrained present
  | usbFrame | usbInCompleted =>
    refine holds.withContext fun _ _ _ _ => ?_
    split <;> exact holds.still rfl rfl
  | usbOutCompleted => exact holds.still rfl rfl
  | syncCompleted generation completion =>
    exact holds.withContext fun _ _ couples agrees => agrees.syncCompleted couples _ _
  | startProtocol => exact holds.withContext fun _ _ _ agrees => agrees.startProtocol needs
  | cancelBackend =>
    exact holds.withContext fun _ _ _ agrees => agrees.callUsb agrees.backendAgrees.cancel
  | protocolFailure error =>
    exact holds.withContext fun _ _ _ agrees => agrees.protocolFailure error
  | protocolFailed error =>
    exact holds.withContext fun _ _ _ agrees => agrees.protocolFailed error
  | emittedTerminal error =>
    exact holds.withContext fun _ _ couples agrees => holds.emittedTerminal couples agrees error
  | activationCancelled =>
    refine holds.withContext fun context _ _ agrees => ?_
    refine .idle (fun _ same => ?_) (fun absent => by cases absent) rfl (needsBus_of_all rfl)
    cases same
    exact { agrees with
      live := fun unfenced => (agrees.live unfenced).imp id fun untouched =>
        ⟨untouched.1, untouched.2.1, untouched.2.2.1, rfl, untouched.2.2.2.2⟩
      current := by simp [Context.setPoisoned]
      opening := by simp }
  | syncBegun error =>
    refine holds.withContext fun _ _ _ agrees => ?_
    split
    · exact agrees.protocolFailure _
    · exact holds.still rfl rfl
  | startSecureGraph => exact holds.withContext fun _ _ _ agrees => agrees.startSecureGraph needs
  | secureSessionStarted =>
    exact holds.withContext fun _ present _ _ => holds.secureSessionStarted present
  | emitArmComplete =>
    exact holds.withContext fun _ present _ _ => holds.emitArmComplete present
  | emitFingerStatus finger =>
    exact holds.withContext fun _ present _ _ => holds.emitFingerStatus present finger
  | loginMaybeReportRelease =>
    refine holds.withContext fun _ present _ _ => ?_
    split
    · exact holds.emitFingerStatus present _
    · exact holds.still rfl rfl
  | nextLogin | imgOpen | activate | finishDeactivationFenced => exact needs.elim
  | armReceive =>
    exact holds.withContext fun _ present _ _ => holds.armReceive present (fun _ => rfl) rfl
  | captureResult action success isMatch =>
    exact holds.withContext fun _ present _ _ => holds.captureResult present _ _ _
  | captureResultKnown =>
    exact holds.withContext fun _ present _ _ => holds.captureResultKnown present
  | deactivate => exact holds.withContext fun _ present _ _ => holds.deactivate present
  | deactivateFenced => exact holds.withContext fun _ _ _ agrees => agrees.deactivateFenced
  | finishDeactivation =>
    exact holds.withContext fun _ present _ _ => holds.finishDeactivation present
  | imgClose => exact holds.withContext fun _ present _ _ => holds.imgClose present
  | imgCloseLogin => exact holds.withContext fun _ present _ _ => holds.imgCloseLogin present
  | imgCloseFence => exact holds.withContext fun _ _ _ agrees => holds.imgCloseFence agrees
  | imgClosed => exact holds.withContext fun _ _ _ agrees => agrees.imgClosed needs
  | changeState state => exact holds.changeState state
  | frameworkDeactivate cancelling => exact holds.frameworkDeactivate cancelling
  | maybeCompleteAction error => exact holds.maybeCompleteAction error
  | enrollMaybeAwaitFingerOn => exact holds.enrollMaybeAwaitFingerOn

theorem DeviceAgrees.loginReady (couples : Couples reception context) :
    EpochStep bus (device.loginReady context) := by
  unfold Device.loginReady
  split
  · exact holds.still rfl rfl
  · rename_i ready
    simp [couples.noLogin.1] at ready

/-- The calls of a component that is there. -/
theorem DeviceAgrees.componentCall (present : device.context = some context) {call : Call}
    (permitted : innerPermits context call = true) :
    EpochStep bus (Goodix.DeviceContext.call device call) := by
  have couples := holds.couples context present
  have agrees := holds.agrees context present
  have component := hasComponent_of_permits permitted
  have live : ¬Untouched bus context := not_untouched component
  have only : ∀ other, device.context = some other → other = context := fun other same =>
    Option.some.inj (same.symm.trans present)
  cases call with
  | outside outside => exact .idle holds.agrees holds.gone rfl (needsBus_of_all rfl)
  | submitOut owner bytes =>
    refine holds.withContext fun other same _ _ => ?_
    cases only other same
    split
    · exact holds.still rfl rfl
    · exact agrees.submitOut couples component _ _
  | setOutCompletedCallback callback =>
    exact holds.withContext fun _ _ _ agrees =>
      agrees.callUsb (agrees.backendAgrees.setOutCompletedCallback callback)
  | armReceive =>
    exact holds.withContext fun _ present _ _ => holds.armReceive present (fun _ => rfl) rfl
  | protocolFailure error => exact holds.still rfl rfl
  | fingerDown => exact holds.still rfl rfl
  | releaseTail =>
    exact holds.withContext fun _ _ _ agrees => .put { agrees with } rfl rfl
  | fingerUp =>
    refine holds.withContext fun _ _ _ _ => holds.still rfl ?_
    split <;> rfl
  | enrollmentFingerUp =>
    refine holds.withContext fun _ _ _ agrees => ?_
    split
    · exact holds.still rfl rfl
    · exact .put { agrees with } rfl rfl
  | imageCaptured => exact holds.imageCaptured
  | rawImageCaptured scan =>
    refine holds.withContext fun _ _ _ _ => ?_
    split
    · exact holds.still rfl rfl
    · exact holds.rawImageCaptured scan
  | retryScan =>
    refine holds.withContext fun _ _ _ _ => ?_
    split
    · exact holds.still rfl rfl
    · exact holds.retryScan
  | holdEnrollCompletion =>
    refine holds.withContext fun _ _ _ agrees => ?_
    split
    · exact holds.still rfl rfl
    · exact agrees.holdEnrollCompletion
  | releaseEnrollCompletion =>
    exact holds.withContext fun _ _ _ agrees => holds.releaseEnrollCompletion agrees
  | loginReady => exact holds.withContext fun _ _ couples _ => holds.loginReady couples
  | livePreflightFinished =>
    refine holds.withContext fun other same _ _ => ?_
    cases only other same
    refine holds.finishLivePreflight present ?_
    simpa [innerPermits, componentPermits, startingPermits, cancellingPermits] using permitted
  | pairingReady =>
    refine holds.withContext fun other same _ _ => ?_
    cases only other same
    refine agrees.pairingReady ?_
    simpa [innerPermits, componentPermits, startingPermits, cancellingPermits] using permitted
  | lifecyclePhase phase =>
    refine holds.withContext fun other same _ _ => ?_
    cases only other same
    exact .put { agrees with
      present := fun _ => agrees.present component
      live := fun unfenced => .inl ((agrees.live unfenced).resolve_right live) } rfl rfl
  | bindEnrollment =>
    refine holds.withContext fun other same _ _ => ?_
    cases only other same
    split
    · exact holds.still rfl rfl
    · exact .put { agrees with
        present := fun _ => agrees.present component
        live := fun unfenced => .inl ((agrees.live unfenced).resolve_right live) } rfl rfl
  | _ => cases permitted

/-- The calls of the main loop but those that begin something. -/
theorem DeviceAgrees.mainLoopCall (openIdles : device.openIdles = 0) {call : Call}
    (permitted : mainLoopPermits device call = true)
    (starts : ∀ action cancelled, call ≠ .start action cancelled)
    (opens : ∀ cancelled, call ≠ .openDevice cancelled) :
    EpochStep bus (Goodix.DeviceContext.call device call) := by
  cases call with
  | outside outside => exact .idle holds.agrees holds.gone rfl (needsBus_of_all rfl)
  | tick now => exact .idle holds.agrees holds.gone rfl (needsBus_of_all rfl)
  | openDevice cancelled => exact absurd rfl (opens cancelled)
  | closeDevice =>
    refine holds.framework rfl ?_
    split <;> rfl
  | start action cancelled => exact absurd rfl (starts action cancelled)
  | cancel =>
    have cancelled := holds.withFramework { device.framework with
      cancelled := true
      cancelIdle := !device.framework.returning }
    refine cancelled.withContext fun context _ _ agrees => ?_
    split
    · unfold Device.activationCancellableCancelled
      split
      · exact cancelled.still rfl rfl
      · refine BusAgrees.setTerminalFence ?_ rfl (needsBus_of_all rfl)
        exact { agrees.fence with }
    · exact cancelled.still rfl rfl
  | loginPrepare =>
    refine holds.withContext fun _ _ couples _ => ?_
    rw [couples.loginPrepare]
    exact holds.still rfl rfl
  | openCompleteIdle => simp [mainLoopPermits, openIdles] at permitted
  | cancelIdle =>
    refine holds.framework rfl ?_
    split <;> rfl
  | returnTask => exact holds.framework rfl rfl
  | activationCancelIdle =>
    have idle := holds.around { device with
      activationCancelIdles := device.activationCancelIdles - 1 } holds.production rfl
    refine idle.withContext fun _ _ _ _ => ?_
    split
    · exact idle.activateComplete (by simp)
    · exact idle.still rfl rfl
  | deactivationIdle =>
    have idle := holds.around { device with
      deactivationIdles := device.deactivationIdles - 1 } holds.production rfl
    refine idle.withContext fun _ _ _ agrees => ?_
    dsimp only
    split <;> exact .put { agrees with } rfl rfl
  | loginCloseIdle => exact .idle holds.agrees holds.gone rfl (needsBus_of_all rfl)
  | loginDeadline => exact holds.withContext fun _ _ _ agrees => .put { agrees with } rfl rfl
  | timer => exact holds.still rfl rfl
  | minutiaeDetected scan => exact holds.minutiaeDetected scan
  | completeReceive generation completion =>
    exact holds.withContext fun _ _ _ agrees =>
      agrees.callUsb (agrees.backendAgrees.completeReceive generation completion)
  | completeOut generation error =>
    exact holds.withContext fun _ _ _ agrees =>
      agrees.callUsb (agrees.backendAgrees.completeOut generation error)
  | completeAbandoned => exact .idle holds.agrees holds.gone rfl (needsBus_of_all rfl)
  | testLoginPostTls => simp [mainLoopPermits, holds.production] at permitted
  | testArmComplete => simp [mainLoopPermits, holds.production] at permitted
  | _ => cases permitted

end

/-! ## A fence that is not complete yet -/

theorem fencing_append {pieces : List Piece} (fences : fencing pieces = true)
    (owed : List Piece) : fencing (pieces ++ owed) = true := by
  induction pieces with
  | nil => cases fences
  | cons piece pieces ih =>
    cases piece with
    | cancelBackend => rfl
    | cancelling | protocolFailure => exact ih fences
    | _ => cases fences

/-- Only a fence of the interface has to be completed. -/
theorem BusAgrees.settle {soon : Bool} (agrees : BusAgrees bus soon context)
    (unfenced : bus.fenced = false) : BusAgrees bus false context :=
  { agrees with halted := fun fenced => absurd (unfenced.symm.trans fenced) Bool.false_ne_true }

theorem BusAgrees.cancel {soon : Bool} (agrees : BusAgrees bus soon context) :
    EpochStep bus (device.callUsb context .cancel) := by
  unfold Device.callUsb
  simp only [Stack.call]
  split
  · rename_i fenced
    exact .put { agrees with halted := fun _ => .inl fenced } rfl rfl
  · exact .put { agrees with
      live := by simp [Backend.fence]
      router := fun _ => rfl
      halted := fun _ => .inl rfl
      idle := agrees.idle } rfl rfl

/-- A step, with what is owed behind it. -/
structure OwedStep (bus : Bus) (outcome : Outcome) (owed : List Piece) : Prop where
  admits : interface.Admits bus outcome.2.1
  agrees : ∀ context, outcome.1.context = some context →
    BusAgrees (outcome.2.1.foldl Bus.note bus) (fencing (outcome.2.2 ++ owed)) context
  gone : outcome.1.context = none → (outcome.2.1.foldl Bus.note bus).claimed = false ∧
    (outcome.2.1.foldl Bus.note bus).IsSilent
  needs : ∀ piece ∈ outcome.2.2, piece.NeedsBus (outcome.2.1.foldl Bus.note bus)
  grows : bus.Grows (outcome.2.1.foldl Bus.note bus)

theorem EpochStep.owedStep {outcome : Outcome} (step : EpochStep bus outcome) (owed : List Piece) :
    OwedStep bus outcome owed where
  admits := step.admits
  agrees := fun context present => by
    have agrees := step.agrees context present
    by_cases fences : fencing outcome.2.2 = true
    · rw [fencing_append fences]
      rwa [fences] at agrees
    · rw [Bool.eq_false_iff.mpr fences] at agrees
      exact agrees.fencing _
  gone := step.gone
  needs := step.needs
  grows := step.grows

/-- A step that shows nothing while a fence is to be completed. -/
theorem OwedStep.fencing {outcome : Outcome} {owed : List Piece}
    (agrees : ∀ context, outcome.1.context = some context → BusAgrees bus true context)
    (gone : outcome.1.context = none → bus.claimed = false ∧ bus.IsSilent)
    (shows : outcome.2.1 = []) (fences : fencing (outcome.2.2 ++ owed) = true)
    (loose : outcome.2.2.all Piece.isLoose = true) : OwedStep bus outcome owed where
  admits := by
    rw [shows]
    trivial
  agrees := by
    rw [shows, fences]
    exact agrees
  gone := by
    rw [shows]
    exact gone
  needs := needsBus_of_all loose
  grows := by
    rw [shows]
    exact .rfl _

section

variable (agrees : ∀ context, device.context = some context → BusAgrees bus true context)
  (gone : device.context = none → bus.claimed = false ∧ bus.IsSilent)

include agrees gone

theorem OwedStep.withContext {function : Context → Outcome} {owed : List Piece}
    (fences : Goodix.DeviceContext.fencing owed = true)
    (step : ∀ context, device.context = some context → BusAgrees bus true context →
      OwedStep bus (function context) owed) : OwedStep bus (device.withContext function) owed := by
  unfold Device.withContext
  split
  · exact .fencing agrees gone rfl fences rfl
  · rename_i context present
    exact step context present (agrees context present)

/-- The fence comes to the backend. -/
theorem OwedStep.performed {piece : Piece} {owed : List Piece}
    (fences : Goodix.DeviceContext.fencing (piece :: owed) = true) :
    OwedStep bus (perform device piece) owed := by
  cases piece with
  | cancelBackend =>
    show OwedStep bus (device.withContext fun context => device.callUsb context .cancel) owed
    unfold Device.withContext
    split
    · rename_i absent
      exact EpochStep.owedStep
        (.idle (by simp [absent, Device.nothing]) gone rfl (needsBus_of_all rfl)) owed
    · rename_i context present
      exact (agrees context present).cancel.owedStep owed
  | cancelling => exact .fencing agrees gone rfl fences rfl
  | protocolFailure error =>
    refine .withContext agrees gone fences fun context present riding => ?_
    by_cases fenced : bus.fenced = true
    · have shut := riding.shut fenced
      have poisoned : BusAgrees bus true (context.setPoisoned error) := { riding with }
      show OwedStep bus (device.protocolFailure context error) owed
      unfold Device.protocolFailure
      rw [if_pos shut]
      exact .fencing (fun _ same => by cases same; exact poisoned) (fun absent => by cases absent)
        rfl fences rfl
    · exact ((riding.settle (Bool.eq_false_iff.mpr fenced)).protocolFailure error).owedStep owed
  | _ => cases fences

/-- What a component does that is cancelled. -/
theorem OwedStep.called {call : Call} {piece : Piece} {owed : List Piece}
    (fences : Goodix.DeviceContext.fencing (piece :: owed) = true)
    (permitted : piecePermits device piece call = true) :
    OwedStep bus (Goodix.DeviceContext.call device call) (piece :: owed) := by
  cases piece with
  | cancelling =>
    obtain ⟨context, present, permitted⟩ := (Option.any_eq_true ..).mp permitted
    have only : ∀ other, device.context = some other → other = context := fun other same =>
      Option.some.inj (same.symm.trans present)
    cases call with
    | outside outside => exact .fencing agrees gone rfl fences rfl
    | setOutCompletedCallback callback =>
      refine .withContext agrees gone fences fun context present riding => ?_
      have changed : BusAgrees bus true { context with
          usb := { context.usb with
            backend := { context.usb.backend with outCompletedCallback := callback } } } :=
        riding.backend rfl rfl rfl
      exact .fencing (fun _ same => by cases same; exact changed) (fun absent => by cases absent)
        rfl fences rfl
    | protocolFailure error => exact .fencing agrees gone rfl fences rfl
    | lifecyclePhase phase =>
      refine .withContext agrees gone fences fun other same riding => ?_
      cases only other same
      have component : context.hasComponent = true := by
        refine @hasComponent_of_permits _ (.lifecyclePhase phase) ?_
        simp [innerPermits, permitted]
      have changed : BusAgrees bus true { context with
          postTls := context.postTls.map fun lifecycle => { lifecycle with phase } } :=
        { riding with
          present := fun _ => riding.present component
          live := fun unfenced =>
            .inl ((riding.live unfenced).resolve_right (not_untouched component)) }
      exact .fencing (fun _ same => by cases same; exact changed) (fun absent => by cases absent)
        rfl fences rfl
    | _ => cases permitted
  | cancelBackend | protocolFailure => cases permitted
  | _ => cases fences

end

end

/-! ## Runs -/

/-- What is owed.  An activation begins alone, and so does an opening. -/
inductive Queued (bus : Bus) : List Piece → Prop where
  | pieces {owed : List Piece} (needs : ∀ piece ∈ owed, piece.NeedsBus bus) : Queued bus owed
  | starts : Queued bus [.changeState .activating, .activate]
  | activates : Queued bus [.activate]
  | opens : Queued bus [.imgOpen]

/-- What holds between any two steps of a production device. -/
structure InterfaceInvariant (log : List Noted) (device : Device) (owed : List Piece) : Prop where
  answered : Answered log device owed
  lawful : interface.Lawful log
  agrees : ∀ context, device.context = some context →
    BusAgrees (interface.after log) (fencing owed) context
  gone : device.context = none → (interface.after log).claimed = false ∧
    (interface.after log).IsSilent
  queued : Queued (interface.after log) owed

theorem interfaceInvariant_new : InterfaceInvariant [] (Device.new true) [] where
  answered := answered_new
  lawful := Traces.justified_nil _
  agrees := fun _ same => by cases same; exact busAgrees_new
  gone := fun _ => ⟨rfl, rfl, rfl⟩
  queued := .pieces (by simp)

theorem InterfaceInvariant.deviceAgrees {log : List Noted} {device : Device} {owed : List Piece}
    (invariant : InterfaceInvariant log device owed) (plain : fencing owed = false) :
    DeviceAgrees (receiver.after log) (interface.after log) device where
  production := invariant.answered.synchronised.production
  couples := invariant.answered.synchronised.couples
  agrees := by
    rw [← plain]
    exact invariant.agrees
  gone := invariant.gone

theorem OwedStep.invariant {log : List Noted} {outcome : Outcome} {owed : List Piece}
    (answered : Answered (log ++ outcome.2.1) outcome.1 (outcome.2.2 ++ owed))
    (lawful : interface.Lawful log) (step : OwedStep (interface.after log) outcome owed)
    (needs : ∀ piece ∈ owed, piece.NeedsBus (interface.after log)) :
    InterfaceInvariant (log ++ outcome.2.1) outcome.1 (outcome.2.2 ++ owed) where
  answered := answered
  lawful := lawful.append _ step.admits
  agrees := by
    rw [Monitor.after_append]
    exact step.agrees
  gone := by
    rw [Monitor.after_append]
    exact step.gone
  queued := by
    rw [Monitor.after_append]
    refine .pieces fun piece inside => ?_
    cases List.mem_append.mp inside with
    | inl new => exact step.needs piece new
    | inr old => exact (needs piece old).carry step.grows

/-- A step that leaves nothing behind it. -/
theorem BusStep.invariant {log : List Noted} {outcome : Outcome}
    (answered : Answered (log ++ outcome.2.1) outcome.1 outcome.2.2)
    (lawful : interface.Lawful log) (step : BusStep (interface.after log) outcome) :
    InterfaceInvariant (log ++ outcome.2.1) outcome.1 outcome.2.2 where
  answered := answered
  lawful := lawful.append _ step.admits
  agrees := by
    rw [Monitor.after_append]
    exact step.agrees
  gone := by
    rw [Monitor.after_append]
    exact step.gone
  queued := by
    rw [Monitor.after_append]
    exact .pieces step.needs

/-- A client cancels from inside a callback. -/
theorem InterfaceInvariant.cancelled {log : List Noted} {device : Device} {owed : List Piece}
    (invariant : InterfaceInvariant log device owed) {call : Call}
    (answered : Answered (log ++ (Goodix.DeviceContext.call device call).2.1)
      (Goodix.DeviceContext.call device call).1
      ((Goodix.DeviceContext.call device call).2.2 ++ owed))
    (permitted : clientPermits device call = true) :
    InterfaceInvariant (log ++ (Goodix.DeviceContext.call device call).2.1)
      (Goodix.DeviceContext.call device call).1
      ((Goodix.DeviceContext.call device call).2.2 ++ owed) := by
  obtain ⟨rfl, settled⟩ := cancel_of_clientPermits permitted
  rw [cancel_eq settled] at answered ⊢
  simp only [List.append_nil, List.nil_append] at answered ⊢
  exact { invariant with answered }

theorem InterfaceInvariant.called {log : List Noted} {device : Device} {owed : List Piece}
    (invariant : InterfaceInvariant log device owed) {call : Call}
    (permitted : permits device owed.head? call = true) :
    InterfaceInvariant (log ++ (Goodix.DeviceContext.call device call).2.1)
      (Goodix.DeviceContext.call device call).1
      ((Goodix.DeviceContext.call device call).2.2 ++ owed) := by
  have answered := invariant.answered.called permitted
  cases owed with
  | nil =>
    have holds := invariant.deviceAgrees rfl
    rw [List.append_nil] at answered ⊢
    by_cases starts : ∃ action cancelled, call = .start action cancelled
    · obtain ⟨action, cancelled, rfl⟩ := starts
      revert answered
      show Answered (log ++ (device.start action cancelled).2.1) _ _ →
        InterfaceInvariant (log ++ (device.start action cancelled).2.1) _ _
      unfold Goodix.DeviceContext.call Device.start
      dsimp only
      split
      · intro answered
        exact BusStep.invariant answered invariant.lawful (holds.framework rfl rfl).toBusStep
      · intro answered
        have quiet : interface.after (log ++ [.activates action]) = interface.after log :=
          Monitor.after_append ..
        exact ⟨answered, invariant.lawful.append _ ⟨trivial, trivial⟩,
          by rw [quiet]; exact holds.agrees, by rw [quiet]; exact holds.gone, .starts⟩
    by_cases opens : ∃ cancelled, call = .openDevice cancelled
    · obtain ⟨cancelled, rfl⟩ := opens
      have same : log ++ (Goodix.DeviceContext.call device (.openDevice cancelled)).2.1 = log :=
        List.append_nil log
      rw [same] at answered ⊢
      exact ⟨answered, invariant.lawful, holds.agrees, holds.gone, .opens⟩
    have step := holds.mainLoopCall invariant.answered.follows.openIdles permitted
      (fun action cancelled same => starts ⟨action, cancelled, same⟩)
      (fun cancelled same => opens ⟨cancelled, same⟩)
    exact BusStep.invariant answered invariant.lawful step.toBusStep
  | cons piece owed =>
    cases (Bool.or_eq_true ..).mp permitted with
    | inl client => exact invariant.cancelled answered client
    | inr inside =>
      have needs : ∀ later ∈ piece :: owed, later.NeedsBus (interface.after log) := by
        cases invariant.queued with
        | pieces needs => exact needs
        | starts | activates | opens => cases inside
      by_cases fences : fencing (piece :: owed) = true
      · have agrees := invariant.agrees
        rw [fences] at agrees
        exact OwedStep.invariant answered invariant.lawful
          (.called agrees invariant.gone fences inside) needs
      · obtain ⟨context, present, inner⟩ := inner_of_permits inside
        have holds := invariant.deviceAgrees (Bool.eq_false_iff.mpr fences)
        exact OwedStep.invariant answered invariant.lawful
          ((holds.componentCall present inner).owedStep _) needs

theorem InterfaceInvariant.performed {log : List Noted} {device : Device} {piece : Piece}
    {owed : List Piece}
    (invariant : InterfaceInvariant log device (piece :: owed)) :
    InterfaceInvariant (log ++ (perform device piece).2.1) (perform device piece).1
      ((perform device piece).2.2 ++ owed) := by
  have answered := invariant.answered.performed
  obtain ⟨before, lawful, agrees, gone, queued⟩ := invariant
  cases queued with
  | pieces needs =>
    have later : ∀ other ∈ owed, other.NeedsBus (interface.after log) :=
      fun other inside => needs other (List.mem_cons_of_mem _ inside)
    by_cases fences : fencing (piece :: owed) = true
    · rw [fences] at agrees
      exact OwedStep.invariant answered lawful (.performed agrees gone fences) later
    · rw [Bool.eq_false_iff.mpr fences] at agrees
      have holds : DeviceAgrees (receiver.after log) (interface.after log) device :=
        ⟨before.synchronised.production, before.synchronised.couples, agrees, gone⟩
      exact OwedStep.invariant answered lawful
        ((holds.perform (needs piece (List.mem_cons_self ..))).owedStep owed) later
  | starts =>
    have holds : DeviceAgrees (receiver.after log) (interface.after log) device :=
      ⟨before.synchronised.production, before.synchronised.couples, agrees, gone⟩
    have step := holds.changeState .activating
    have none : (perform device (.changeState .activating)).2.2 = [] :=
      changeState_activating device
    have step := step.owedStep [.activate]
    refine ⟨answered, lawful.append _ step.admits, ?_, ?_, ?_⟩
    · rw [Monitor.after_append]
      exact step.agrees
    · rw [Monitor.after_append]
      exact step.gone
    · rw [none]
      exact .activates
  | activates =>
    have holds : DeviceAgrees (receiver.after log) (interface.after log) device :=
      ⟨before.synchronised.production, before.synchronised.couples, agrees, gone⟩
    rw [List.append_nil] at answered ⊢
    refine BusStep.invariant answered lawful ?_
    show BusStep _ (device.withContext device.activate)
    unfold Device.withContext
    split
    · exact (holds.still rfl rfl).toBusStep
    · rename_i context present
      exact holds.activate present fun other => before.follows.idle present other
  | opens =>
    have holds : DeviceAgrees (receiver.after log) (interface.after log) device :=
      ⟨before.synchronised.production, before.synchronised.couples, agrees, gone⟩
    rw [List.append_nil] at answered ⊢
    exact BusStep.invariant answered lawful holds.imgOpen

/-- In every run of a production device the interface is claimed before a generation begins, and
every claim serves one generation; nothing is submitted, heard or reported to the framework as a
finger or as armed but while the claim is held, its generation has begun and is not fenced; a
deactivation is answered, and an epoch closed, only behind the fence and with nothing in flight; and
the claim is given back only behind the fence, or with nothing in flight. -/
theorem interface_lawful (actions : List (Pieces.Action Call)) :
    interface.Lawful (Machines.run program.step ⟨Device.new true, []⟩ actions).2 :=
  (Pieces.Program.run_invariant (fun _ _ _ _ invariant permitted => invariant.called permitted)
    (fun _ _ _ _ invariant => invariant.performed) interfaceInvariant_new actions).lawful

end Goodix.DeviceContext
