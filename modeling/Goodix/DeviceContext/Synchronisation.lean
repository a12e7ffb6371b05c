import Goodix.DeviceContext.Reception

/-! # The synchronisation of the receiver

What every piece of the device and every call does to the receiver, and from that what holds
of it in every run.
-/

namespace Goodix.DeviceContext

open Usb Monitors

section

variable {reception : Reception} {device : Device} {context : Context}

/-! ## Failures -/

theorem Couples.setPoisoned (couples : Couples reception context) (error : Option GError) :
    Couples reception (context.setPoisoned error) := { couples with }

theorem Couples.disconnect (couples : Couples reception context) :
    Couples reception context.disconnectCancelHandler := by
  unfold Context.disconnectCancelHandler
  split
  · exact { couples with }
  · exact couples

theorem Keeps.setTerminalFence (production : device.production = true)
    (couples : Couples reception context) (noted : List Noted) (next : List Piece)
    (quiet : noted.all Noted.isQuiet = true) (free : next.all Piece.isFree = true) :
    Keeps reception (device.setTerminalFence context noted next) :=
  .put production { couples with } (by simp [quiet, Noted.isQuiet])
    (by simpa [Piece.isFree] using free)

theorem Keeps.protocolFailure (production : device.production = true)
    (couples : Couples reception context) (error : Option GError) :
    Keeps reception (device.protocolFailure context error) := by
  unfold Device.protocolFailure
  split
  · exact .put production (couples.setPoisoned error) rfl rfl
  · exact .setTerminalFence production couples _ _ rfl rfl

theorem Keeps.protocolFailed (production : device.production = true)
    (couples : Couples reception context) (error : GError) :
    Keeps reception (device.protocolFailed context error) := by
  have poisoned := couples.setPoisoned (some error)
  unfold Device.protocolFailed
  dsimp only
  split
  · exact .put production { poisoned with } rfl rfl
  split
  · exact .setTerminalFence production poisoned.disconnect _ _ rfl rfl
  · exact .put production poisoned rfl rfl

theorem Keeps.emittedTerminal (production : device.production = true)
    (couples : Couples reception context) (error : GError) :
    Keeps reception (device.emittedTerminal context error) := by
  have poisoned (state : ContextState) : Couples reception
      { context.setPoisoned (some error) with generation := 0, state } :=
    { couples.setPoisoned (some error) with }
  unfold Device.emittedTerminal
  dsimp only
  split
  · exact Couples.activateComplete production (poisoned .inactive)
  · exact Couples.sessionError production (poisoned .poisoned)

/-! ## The synchronisation -/

/-- A receive of the synchronisation that is armed hears nothing for the router. -/
theorem Hears.sync {usb : Stack Owner} (hears : Hears reception usb) {backend : Backend Owner}
    (quiet : backend.inPurpose ≠ .protocolRx ∨
      (backend.inOutstanding = usb.backend.inOutstanding ∧
        backend.inPurpose = usb.backend.inPurpose)) :
    Hears reception { usb with backend } where
  receives := by
    intro outstanding purpose
    rcases quiet with other | ⟨same, samePurpose⟩
    · exact absurd purpose other
    · exact hears.receives (same ▸ outstanding) (samePurpose ▸ purpose)
  pending := hears.pending

theorem endPreSessionSync_quiet {backend ended : Backend Owner} {generation : Nat}
    (ends : backend.endPreSessionSync generation = .ok ended) : ended.inPurpose ≠ .protocolRx := by
  unfold Backend.endPreSessionSync at ends
  split at ends
  · cases ends
  · cases ends
    simp

theorem armPreSessionSyncReceive_quiet {backend armed : Backend Owner} {generation timeoutMs : Nat}
    (arms : backend.armPreSessionSyncReceive generation timeoutMs = .ok armed) :
    armed.inPurpose ≠ .protocolRx := by
  unfold Backend.armPreSessionSyncReceive at arms
  split at arms
  · cases arms
  · cases arms
    simp [Backend.submitReceive]

theorem Hears.syncEnded (hears : Hears reception context.usb) :
    Hears reception { context.usb with backend := Device.syncEnded context } := by
  refine hears.sync ?_
  unfold Device.syncEnded
  dsimp only
  split
  · split
    · exact .inr ⟨rfl, rfl⟩
    · rename_i ends
      exact .inl (endPreSessionSync_quiet ends)
  · exact .inr ⟨rfl, rfl⟩

/-- The synchronisation of a context that has taken up its epoch fails, whatever it counted. -/
theorem Keeps.syncFail (production : device.production = true) (couples : Couples reception context)
    (consumed : context.productionActionConsumed = true) (sync : RxSync) (error : GError) :
    Keeps reception (device.syncFail { context with sync } error) := by
  unfold Device.syncFail
  refine ⟨⟨⟨trivial, trivial⟩, fun _ same => ?_, needs_of_all rfl, production⟩, ⟨id, fun _ => id⟩⟩
  cases same
  have ended := couples.hears.syncEnded
  exact { couples with
    synchronised := fun _ => consumed
    hears := ⟨ended.receives, ended.pending⟩
    counts := nofun }

/-- The clock of a synchronisation in microseconds. -/
theorem elapsed_lt (now started : Int) {limit : Nat}
    (within : (now - started).toNat / 1000 ≤ limit) :
    now - started < 1000 * (limit + 1) := by
  omega

theorem within_of_not_exceeds {sync : RxSync} (within : ¬ sync.exceeds = true) :
    sync.discardedCompletionCount ≤ maxCompletions ∧ sync.discardedByteCount ≤ maxBytes ∧
      sync.elapsedMs ≤ maxTotalMs - quietTimeoutMs := by
  simp only [RxSync.exceeds, decide_eq_true_eq, not_or, Nat.not_lt] at within
  exact ⟨within.1, within.2.1, Nat.le_sub_of_add_le within.2.2.2⟩

theorem Keeps.syncCompleted (production : device.production = true)
    (couples : Couples reception context) (generation : Nat) {completion : Completion}
    (heard : completion ∈ reception.heard) :
    Keeps reception (device.syncCompleted context generation completion) := by
  have elapsed : Couples reception
      { context with sync := context.sync.updateElapsed device.now } := { couples with }
  unfold Device.syncCompleted
  dsimp only
  split
  · exact .put production elapsed rfl rfl
  rename_i current
  simp only [not_or, Decidable.not_not] at current
  have active : context.sync.result = .active := current.2
  have consumed := couples.synchronised (by rw [active]; nofun)
  obtain ⟨isOpen, completions, bytes, started⟩ := couples.counts active
  split
  · exact .syncFail production couples consumed _ _
  rename_i within
  have within : (device.now - context.sync.startedUs).toNat / 1000 ≤ maxTotalMs := by
    simpa [RxSync.updateElapsed] using within
  split
  · rename_i error errs
    split
    · rename_i quiet
      have timedOut : completion.error.any isTimedOut = true := by simpa [errs] using quiet.1
      split
      · exact .syncFail production couples consumed _ _
      · have time := elapsed_lt _ _ within
        refine ⟨⟨⟨⟨isOpen, heard, timedOut, quiet.2.1, quiet.2.2, ?_⟩, trivial⟩, fun _ same => ?_,
          ?_, production⟩, ⟨fun _ => rfl, fun _ => id⟩⟩
        · rw [started]
          exact time
        · cases same
          exact { couples with
            present := fun present => ⟨rfl, (couples.present present).2⟩
            synchronised := fun _ => consumed
            hears := ⟨fun _ _ => rfl, couples.hears.pending⟩
            counts := nofun }
        · intro piece inside
          cases List.mem_singleton.mp inside
          rfl
    · exact .syncFail production couples consumed _ _
  · rename_i noError
    have same : completion = ⟨completion.octets, none⟩ := by rw [← noError]
    split
    · exact .syncFail production couples consumed _ _
    split
    · exact .syncFail production couples consumed _ _
    · rename_i bounds
      split
      · exact .syncFail production couples consumed _ _
      · rename_i backend arms
        rw [same] at heard
        have armed := couples.hears.sync (.inl (armPreSessionSyncReceive_quiet arms))
        refine ⟨⟨⟨⟨isOpen, heard, ?_⟩, trivial, trivial⟩, fun _ same => ?_, needs_of_all rfl,
          production⟩, ⟨id, fun _ => id⟩⟩
        · obtain ⟨count, size, time⟩ := within_of_not_exceeds bounds
          rw [started, completions, bytes]
          exact ⟨count, size, elapsed_lt _ _ (time.trans (Nat.sub_le ..))⟩
        · cases same
          exact { couples with
            synchronised := fun _ => consumed
            hears := ⟨armed.receives, armed.pending⟩
            counts := fun _ => ⟨isOpen, congrArg (· + 1) completions,
              congrArg (· + completion.octets.length) bytes, started⟩ }

theorem beginPreSessionSync_quiet {backend begun : Backend Owner} {generation : Nat}
    (begins : backend.beginPreSessionSync generation = .ok begun) :
    begun.inOutstanding = backend.inOutstanding ∧ begun.inPurpose = backend.inPurpose := by
  unfold Backend.beginPreSessionSync at begins
  split at begins
  · cases begins
  · cases begins
    exact ⟨rfl, rfl⟩

/-- One entry more in front. -/
theorem Keeps.cons {outcome : Outcome} {entry : Noted} (allows : receiver.Allows reception entry)
    (grows : reception.Grows (Reception.note reception entry))
    (kept : Keeps (Reception.note reception entry) outcome) :
    Keeps reception (outcome.behind [entry]) where
  admits := ⟨allows, kept.admits⟩
  couples := kept.couples
  needs := kept.needs
  production := kept.production
  grows := ⟨fun passed => kept.grows.passed (grows.passed passed),
    fun completion heard => kept.grows.heard completion (grows.heard completion heard)⟩

/-- The synchronisation begins in a generation that has heard nothing. -/
theorem Keeps.beginPreSessionRxSync {refused : GError → List Piece}
    (production : device.production = true) (couples : Couples reception context)
    (consumed : context.productionActionConsumed = true) (isOpen : reception.IsOpen)
    (completions : reception.completions = 0) (bytes : reception.bytes = 0)
    (free : ∀ error, (refused error).all Piece.isFree = true) :
    Keeps reception (device.beginPreSessionRxSync context refused) := by
  unfold Device.beginPreSessionRxSync
  split
  · exact .put production couples rfl (free _)
  rename_i begins
  simp only [not_or, Decidable.not_not] at begins
  have unstarted : context.sync.result = .notStarted := begins.2.2.2.2
  have started : Couples { reception with startedUs := device.now } context :=
    { couples with
      hears := ⟨couples.hears.receives, couples.hears.pending⟩
      counts := fun active => by rw [unstarted] at active; cases active }
  dsimp only
  split
  · exact .cons trivial ⟨id, fun _ => id⟩
      ((Keeps.syncFail production started consumed _ _).andThen (free _))
  rename_i backend begun
  have idle := couples.hears.sync (.inr (beginPreSessionSync_quiet begun))
  have begun : Couples { reception with startedUs := device.now }
      { context with usb := { context.usb with backend } } :=
    { started with hears := ⟨idle.receives, idle.pending⟩ }
  split
  · exact .cons trivial ⟨id, fun _ => id⟩
      ((Keeps.syncFail production begun consumed _ _).andThen (free _))
  rename_i backend arms
  have armed := idle.sync (.inl (armPreSessionSyncReceive_quiet arms))
  refine ⟨⟨⟨trivial, trivial, trivial⟩, fun _ same => ?_, needs_of_all rfl, production⟩,
    ⟨id, fun _ => id⟩⟩
  cases same
  exact { started with
    synchronised := fun _ => consumed
    hears := ⟨armed.receives, armed.pending⟩
    counts := fun _ => ⟨isOpen, completions, bytes, rfl⟩ }

/-! ## The secure graph -/

theorem Keeps.startLivePreflight (production : device.production = true)
    (couples : Couples reception context) (passed : reception.passed = true) :
    Keeps reception (device.startLivePreflight context) := by
  unfold Device.startLivePreflight
  split
  · exact .put production couples rfl rfl
  · rename_i starts
    simp only [not_or, Bool.not_eq_false] at starts
    exact .put production { couples with
      present := fun _ => ⟨passed, couples.claimed starts.2.2.1⟩
      hears := ⟨couples.hears.receives, couples.hears.pending⟩ } rfl rfl

section

variable (couples : Couples reception context) (passed : reception.passed = true)
  (busy : context.isBusy = true)

include couples passed busy

theorem Couples.configurePostTlsLifecycle {made : Context}
    (makes : device.configurePostTlsLifecycle context = .ok made) :
    Couples reception made ∧ made.isBusy = true := by
  unfold Device.configurePostTlsLifecycle at makes
  split at makes
  · cases makes
  split at makes
  · cases makes
  · cases makes
    exact ⟨{ couples with present := fun _ => ⟨passed, busy⟩ }, busy⟩

theorem Couples.configureEnrollmentGraph {made : Context}
    (makes : device.configureEnrollmentGraph context = .ok made) :
    Couples reception made ∧ made.isBusy = true := by
  unfold Device.configureEnrollmentGraph at makes
  split at makes
  · cases makes
  split at makes
  · cases makes
  · cases makes
    exact ⟨{ couples with present := fun _ => ⟨passed, busy⟩ }, busy⟩

theorem Couples.newSecureSession {made : Context}
    (makes : device.newSecureSession context = .ok made) :
    Couples reception made ∧ made.isBusy = true := by
  unfold Device.newSecureSession at makes
  split at makes
  · cases makes
  split at makes
  · cases makes
  · cases makes
    exact ⟨{ couples with present := fun _ => ⟨passed, busy⟩ }, busy⟩

theorem Couples.makeSecureGraph (device : Device) :
    Couples reception (device.makeSecureGraph context).1 := by
  unfold Device.makeSecureGraph
  split
  · exact couples
  rename_i first lifecycle
  have first := couples.configurePostTlsLifecycle passed busy lifecycle
  split
  · exact first.1
  rename_i second enrolled
  have second : Couples reception second ∧ second.isBusy = true := by
    split at enrolled
    · exact first.1.configureEnrollmentGraph passed first.2 enrolled
    · cases enrolled
      exact first
  split
  · exact second.1
  · rename_i third session
    exact (second.1.newSecureSession passed second.2 session).1

end

theorem Keeps.startSecureGraph (production : device.production = true)
    (couples : Couples reception context) (passed : reception.passed = true) :
    Keeps reception (device.startSecureGraph context) := by
  unfold Device.startSecureGraph
  split
  · exact .put production couples rfl rfl
  rename_i starts
  simp only [not_or, Bool.not_eq_false] at starts
  have graph := couples.makeSecureGraph passed (couples.claimed starts.2.2.2) device
  split
  · exact .put production couples rfl rfl
  split
  · rename_i made
    rw [made] at graph
    exact .put production graph rfl rfl
  · rename_i made
    rw [made] at graph
    refine .quiet production (fun _ same => by cases same; exact graph) rfl fun piece inside => ?_
    rcases List.mem_pair.mp inside with rfl | rfl
    · trivial
    · exact passed

theorem Keeps.secureSessionStarted (production : device.production = true)
    (couples : ∀ context, device.context = some context → Couples reception context)
    (present : device.context = some context) (passed : reception.passed = true) :
    Keeps reception (device.secureSessionStarted context) := by
  unfold Device.secureSessionStarted
  split
  · exact .still production couples rfl rfl
  · refine .armReceive production couples present passed (fun _ => rfl) ?_
    split <;> rfl

theorem Keeps.startProtocol (production : device.production = true)
    (couples : Couples reception context) (passed : reception.passed = true) :
    Keeps reception (device.startProtocol context) := by
  unfold Device.startProtocol
  split
  · exact .startLivePreflight production couples passed
  · exact .startSecureGraph production couples passed

/-- The OUT callback changes hands. -/
theorem Couples.callback (couples : Couples reception context) (callback : Option Owner) :
    Couples reception { context with
      usb := { context.usb with
        backend := { context.usb.backend with outCompletedCallback := callback } } } :=
  { couples with hears := ⟨couples.hears.receives, couples.hears.pending⟩ }

theorem Keeps.finishLivePreflight (production : device.production = true)
    (couples : ∀ context, device.context = some context → Couples reception context)
    (present : device.context = some context) (live : context.livePreflight = true) :
    Keeps reception (device.finishLivePreflight context) := by
  have kept := couples context present
  have busy : context.hasComponent = true := by simp [Context.hasComponent, live]
  have finished : Couples reception { context with
      livePreflight := false
      usb := { context.usb with
        backend := { context.usb.backend with outCompletedCallback := none } } } :=
    { kept.callback none with present := fun _ => kept.present busy }
  unfold Device.finishLivePreflight
  split
  · exact .still production couples rfl rfl
  dsimp only
  split
  · exact .put production finished rfl rfl
  · unfold Device.startPairingActivation
    split
    · exact .put production { finished with } rfl rfl
    split
    · exact .put production { finished with } rfl rfl
    · exact .put production { finished with
        present := fun _ => kept.present busy
        hears := ⟨finished.hears.receives, finished.hears.pending⟩ } rfl rfl
  · exact .put production finished rfl rfl
  · refine .quiet production (fun _ same => by cases same; exact { finished with }) rfl
      fun piece inside => ?_
    cases List.mem_singleton.mp inside
    exact (kept.present busy).1

theorem Keeps.pairingReady (production : device.production = true)
    (couples : Couples reception context) (pairing : context.pairingActivation = true) :
    Keeps reception (device.pairingReady context) := by
  have busy : context.hasComponent = true := by simp [Context.hasComponent, pairing]
  unfold Device.pairingReady
  dsimp only
  split
  · exact .put production (couples.callback none) rfl rfl
  · refine .quiet production (fun _ same => by cases same; exact couples.callback none) rfl
      fun piece inside => ?_
    cases List.mem_singleton.mp inside
    exact (couples.present busy).1

theorem Keeps.emitArmComplete (production : device.production = true)
    (couples : ∀ context, device.context = some context → Couples reception context)
    (present : device.context = some context) :
    Keeps reception (device.emitArmComplete context) := by
  unfold Device.emitArmComplete
  split
  · exact .still production couples rfl rfl
  · refine Couples.activateComplete production ?_
    exact { (couples context present).disconnect with }

/-! ## The capture epochs -/

/-- What an epoch leaves behind fits together. -/
theorem Couples.releaseEpochObjects (couples : Couples reception context) :
    Couples reception context.releaseEpochObjects :=
  { couples with
    present := nofun
    hears := ⟨couples.hears.receives, couples.hears.pending⟩ }

theorem Couples.releaseClaim (couples : Couples reception context) (answer : Option GError) :
    Couples reception (Device.releaseClaim context answer).1 := by
  unfold Device.releaseClaim
  split
  · exact couples
  split
  · exact couples
  · exact { couples with claimed := nofun }

theorem releaseClaim_quiet (context : Context) (answer : Option GError) :
    (Device.releaseClaim context answer).2.1.all Noted.isQuiet = true := by
  unfold Device.releaseClaim
  split
  · rfl
  split <;> rfl

theorem Couples.not_busy (couples : Couples reception context) (idle : context.isBusy = false) :
    context.hasComponent = false ∧ context.usbInterfaceClaimed = false := by
  constructor
  · by_contra component
    rw [(couples.present (Bool.not_eq_false _ ▸ component)).2] at idle
    cases idle
  · by_contra claim
    rw [couples.claimed (Bool.not_eq_false _ ▸ claim)] at idle
    cases idle

theorem Couples.not_started (couples : Couples reception context)
    (fresh : context.productionActionConsumed = false) : context.sync.result = .notStarted := by
  by_contra started
  rw [couples.synchronised started] at fresh
  cases fresh

/-- A context that has just taken up an epoch. -/
structure Taken (reception : Reception) (context : Context) : Prop
    extends Couples reception context where
  busy : context.isBusy = true
  absent : context.hasComponent = false
  unstarted : context.sync.result = .notStarted

/-- A part of an activation that goes on with such a context, or ends with it. -/
def Takes (reception : Reception) (taken : Context × List Noted × Except GError Unit) : Prop :=
  Taken reception taken.1 ∧ taken.2.1.all Noted.isQuiet = true

theorem Taken.consumed (taken : Taken reception context) :
    context.productionActionConsumed = true := by
  have busy := taken.busy
  simp only [Context.isBusy, Bool.and_eq_true] at busy
  exact busy.1.1

theorem Taken.releaseClaim (taken : Taken reception context) (answer : Option GError) :
    Taken reception (Device.releaseClaim context answer).1 := by
  have couples := taken.toCouples.releaseClaim answer
  revert couples
  unfold Device.releaseClaim
  split
  · exact fun _ => taken
  split
  · exact fun _ => taken
  · exact fun couples => ⟨couples, taken.busy, taken.absent, taken.unstarted⟩

theorem Taken.claim (taken : Taken reception context) :
    Taken reception { context with usbInterfaceClaimed := true } :=
  ⟨{ taken.toCouples with claimed := fun _ => taken.busy }, taken.busy, taken.absent,
    taken.unstarted⟩

theorem Taken.acquisitionFailed (taken : Taken reception context) {noted : List Noted}
    (quiet : noted.all Noted.isQuiet = true) (error : GError) :
    Takes reception (device.acquisitionFailed context noted error) := by
  have released := taken.releaseClaim device.outside.releaseAgain
  refine ⟨⟨released.toCouples.releaseEpochObjects, released.busy, rfl, released.unstarted⟩, ?_⟩
  show (noted ++ (Device.releaseClaim context device.outside.releaseAgain).2.1).all _ = true
  rw [List.all_append, quiet, releaseClaim_quiet]
  rfl

theorem Taken.claimInterface (taken : Taken reception context) :
    Takes reception (device.claimInterface context) := by
  unfold Device.claimInterface
  split
  · exact taken.acquisitionFailed rfl _
  split
  · exact taken.acquisitionFailed rfl _
  dsimp only
  split
  · have released := taken.claim.releaseClaim device.outside.releaseAtFailure
    refine released.acquisitionFailed ?_ cancelledError
    rw [List.all_cons, releaseClaim_quiet]
    rfl
  · exact ⟨taken.claim, rfl⟩

theorem Taken.acquireActionResources (taken : Taken reception context) (device : Device) :
    Takes reception (device.acquireActionResources context) := by
  unfold Device.acquireActionResources
  split
  · exact ⟨taken, rfl⟩
  split
  · exact ⟨taken, rfl⟩
  split
  · split
    · exact taken.claimInterface
    · exact taken.acquisitionFailed rfl _
  · exact Taken.claimInterface ⟨{ taken.toCouples with }, taken.busy, taken.absent, taken.unstarted⟩

/-- A context that may take up an epoch: its last one is closed and left nothing. -/
structure Vacant (reception : Reception) (context : Context) : Prop where
  consumes : Couples reception { context with productionActionConsumed := true }
  verify : context.verify.closed = false
  identify : context.identify.closed = false
  absent : context.hasComponent = false
  unstarted : context.sync.result = .notStarted

theorem Couples.vacant (couples : Couples reception context)
    (unconsumed : context.productionActionConsumed = false) (verify : context.verify.closed = false)
    (identify : context.identify.closed = false) : Vacant reception context := by
  have idle := couples.not_busy (by simp [Context.isBusy, unconsumed])
  refine ⟨{ couples with
    present := fun present => ?_
    claimed := fun claimed => ?_
    synchronised := fun _ => rfl }, verify, identify, idle.1, couples.not_started unconsumed⟩
  · exact absurd (idle.1.symm.trans present) Bool.false_ne_true
  · exact absurd (idle.2.symm.trans claimed) Bool.false_ne_true

theorem Vacant.consumeEpoch (vacant : Vacant reception context) (device : Device) :
    Takes reception (device.consumeEpoch context) := by
  have taken : Taken reception { context with
      productionActionConsumed := true
      productionAction := device.framework.action } :=
    ⟨{ vacant.consumes with }, by simp [Context.isBusy, vacant.verify, vacant.identify],
      vacant.absent, vacant.unstarted⟩
  have acquired := taken.acquireActionResources device
  revert acquired
  unfold Device.consumeEpoch
  dsimp only
  split
  · exact fun _ => ⟨taken, rfl⟩
  split
  · rename_i found
    rw [found]
    exact id
  · rename_i found
    rw [found]
    exact fun acquired => ⟨⟨{ acquired.1.toCouples with }, acquired.1.busy, acquired.1.absent,
      acquired.1.unstarted⟩, acquired.2⟩

/-- How a completed epoch is reopened. -/
structure Reopens {ε : Type} (reception : Reception)
    (reopened : Context × List Noted × Except ε Unit) : Prop where
  quiet : reopened.2.1.all Noted.isQuiet = true
  failed : ∀ error, reopened.2.2 = .error error → Couples reception reopened.1
  succeeded : reopened.2.2 = .ok () → Vacant reception reopened.1 ∨
    Couples reception reopened.1 ∧ reopened.1.productionActionConsumed = true

/-- The failure of a reopening leaves nothing. -/
theorem Couples.reopenFailed (couples : Couples reception context)
    (unclaimed : context.usbInterfaceClaimed = false) (error : Option GError) :
    Reopens reception (Device.reopenFailed context error) where
  quiet := rfl
  failed := fun _ _ => { couples with
    present := nofun
    claimed := fun claimed => absurd (unclaimed.symm.trans claimed) Bool.false_ne_true
    hears := ⟨couples.hears.receives, couples.hears.pending⟩ }
  succeeded := nofun

theorem Couples.claimAgain (couples : Couples reception context) (vacant : Vacant reception context)
    (unclaimed : context.usbInterfaceClaimed = false) (action : DeviceAction) :
    Reopens reception (device.claimAgain context action) := by
  unfold Device.claimAgain
  split
  · exact couples.reopenFailed unclaimed _
  · refine ⟨rfl, nofun, fun _ => .inl ⟨{ vacant.consumes with claimed := fun _ => ?_ },
      vacant.verify, vacant.identify, vacant.absent, vacant.unstarted⟩⟩
    simp [Context.isBusy, vacant.verify, vacant.identify]

theorem resetEpochAudit_quiet {backend reset : Backend Owner}
    (resets : backend.resetEpochAudit = .ok reset) : reset.inPurpose ≠ .protocolRx := by
  unfold Backend.resetEpochAudit at resets
  split at resets
  · cases resets
  · cases resets
    simp

theorem Couples.reopenForCaptureAction (couples : Couples reception context)
    (closed : context.verify.closed = true ∨ context.identify.closed = true) (device : Device)
    (action : DeviceAction) :
    Reopens reception (device.reopenForCaptureAction context action) := by
  have idle := couples.not_busy (by
    rcases closed with verify | identify
    · simp [Context.isBusy, verify]
    · simp [Context.isBusy, identify])
  unfold Device.reopenForCaptureAction
  split
  · exact ⟨rfl, fun _ _ => couples, nofun⟩
  split
  · exact ⟨rfl, fun _ _ => couples, nofun⟩
  rename_i backend resets
  have hears := couples.hears.sync (.inl (resetEpochAudit_quiet resets))
  have reset : Couples reception
      { context with usb := { context.usb with backend } }.resetForCaptureReopen :=
    { couples with
      present := fun present => absurd (idle.1.symm.trans present) Bool.false_ne_true
      claimed := fun claimed => absurd (idle.2.symm.trans claimed) Bool.false_ne_true
      synchronised := fun started => absurd rfl started
      hears := ⟨hears.receives, hears.pending⟩
      counts := nofun }
  dsimp only
  split
  · split
    · exact reset.claimAgain (reset.vacant rfl rfl rfl) idle.2 action
    · exact reset.reopenFailed idle.2 _
  · have material : Couples reception
        { { context with usb := { context.usb with backend } }.resetForCaptureReopen with
          runtimeMaterial := true } := { reset with }
    exact material.claimAgain (material.vacant rfl rfl rfl) idle.2 action

/-- What is left of the epochs before is reopened, or there is nothing to reopen. -/
theorem Couples.reopenCompleted (couples : Couples reception context) (device : Device) :
    Reopens reception (device.reopenCompleted context) := by
  unfold Device.reopenCompleted
  dsimp only
  split
  · rename_i closed
    split
    · exact ⟨rfl, fun _ _ => { couples with }, nofun⟩
    have reopens := couples.reopenForCaptureAction (.inr closed) device device.framework.action
    split
    · rename_i found
      rw [found] at reopens
      exact ⟨reopens.quiet, fun _ _ => reopens.failed _ rfl, nofun⟩
    · rename_i found
      rw [found] at reopens
      exact ⟨reopens.quiet, nofun, fun _ => reopens.succeeded rfl⟩
  rename_i identify
  split
  · rename_i closed
    split
    · exact ⟨rfl, fun _ _ => couples, nofun⟩
    have reopens := couples.reopenForCaptureAction (.inl closed) device .verify
    split
    · rename_i found
      rw [found] at reopens
      exact ⟨reopens.quiet, fun _ _ => reopens.failed _ rfl, nofun⟩
    · rename_i found
      rw [found] at reopens
      exact ⟨reopens.quiet, nofun, fun _ => reopens.succeeded rfl⟩
  · rename_i verify
    refine ⟨rfl, nofun, fun _ => ?_⟩
    by_cases consumed : context.productionActionConsumed = true
    · exact .inr ⟨couples, consumed⟩
    · exact .inl (couples.vacant (Bool.eq_false_iff.mpr consumed) (Bool.eq_false_iff.mpr verify)
        (Bool.eq_false_iff.mpr identify))

theorem Vacant.couples (vacant : Vacant reception context)
    (consumed : context.productionActionConsumed = true) : Couples reception context := by
  have same : { context with productionActionConsumed := true } = context := by rw [← consumed]
  rw [← same]
  exact vacant.consumes

/-- The activation of a production device either ends with the context as it was in what matters,
or goes on with one that has just taken up an epoch. -/
theorem Couples.prepareActivation (couples : Couples reception context) (device : Device) :
    (device.prepareActivation context).2.1.all Noted.isQuiet = true ∧
      Couples reception (device.prepareActivation context).1 ∧
      ((device.prepareActivation context).2.2 = .ok () →
        Taken reception (device.prepareActivation context).1) := by
  unfold Device.prepareActivation
  dsimp only
  split
  · exact ⟨rfl, couples, nofun⟩
  split
  · exact ⟨rfl, couples, nofun⟩
  have reopens := couples.reopenCompleted device
  split
  · rename_i found
    rw [found] at reopens
    exact ⟨reopens.quiet, reopens.failed _ rfl, nofun⟩
  rename_i reopened noted found
  rw [found] at reopens
  split
  · rename_i consumed
    rcases reopens.succeeded rfl with vacant | kept
    · exact ⟨reopens.quiet, vacant.couples consumed, nofun⟩
    · exact ⟨reopens.quiet, kept.1, nofun⟩
  · rename_i unconsumed
    rcases reopens.succeeded rfl with vacant | kept
    · obtain ⟨taken, quiet⟩ := vacant.consumeEpoch device
      refine ⟨?_, taken.toCouples, fun _ => taken⟩
      show (noted ++ (device.consumeEpoch reopened).2.1).all _ = true
      rw [List.all_append, reopens.quiet, quiet]
      rfl
    · exact absurd kept.2 unconsumed

/-! ## Activation -/

/-- A generation begins with a receiver that has heard nothing. -/
theorem hears_fresh {usb : Stack Owner} {backend : Backend Owner} {generation : Nat}
    (positive : generation ≠ 0) (begins : usb.backend.beginGeneration generation = .ok backend) :
    Hears .fresh { backend, router := usb.router.beginGeneration generation } := by
  unfold Backend.beginGeneration at begins
  split at begins
  · cases begins
  rename_i drained
  simp only [not_or, Bool.not_eq_false, Backend.isDrained, decide_eq_true_eq] at drained
  cases begins
  refine ⟨fun outstanding => absurd drained.2.1 outstanding, ?_⟩
  simp only [Router.beginGeneration, if_neg positive]
  exact List.nil_suffix

/-- Quiet entries in front. -/
theorem Leads.behind {outcome : Outcome} (leads : Leads reception outcome) {noted : List Noted}
    (quiet : noted.all Noted.isQuiet = true) : Leads reception (outcome.behind noted) := by
  obtain ⟨admits, same⟩ := quiet_foldl quiet reception
  refine ⟨Monitor.admits_append.mpr ⟨admits, ?_⟩, ?_, ?_, leads.production⟩
  · rw [show noted.foldl receiver.note reception = reception from same]
    exact leads.admits
  · rw [Outcome.behind, List.foldl_append, same]
    exact leads.couples
  · rw [Outcome.behind, List.foldl_append, same]
    exact leads.needs

/-- The generation of an activation begins. -/
theorem Taken.beginActivation (production : device.production = true)
    (taken : Taken reception context) : Leads reception (device.beginActivation context) := by
  unfold Device.beginActivation
  dsimp only
  split
  · have failed : Couples reception { context with
        generationSeq := context.generationSeq + 1
        generation := 0
        releaseTailComplete := false
        freshDownTable := false
        terminalFence := true
        poisoned := true
        activationCompleted := false
        activationCancellable := true
        state := .inactive } := { taken.toCouples with }
    exact (Couples.activateComplete production failed).toLeads
  rename_i backend begins
  have fresh := hears_fresh (Nat.succ_ne_zero _) begins
  have begun : ∀ (state : ContextState) (handler : Bool), Couples .fresh { context with
      generationSeq := context.generationSeq + 1
      generation := context.generationSeq + 1
      releaseTailComplete := false
      freshDownTable := false
      terminalFence := false
      activationCompleted := false
      activationCancellable := true
      usb := { backend, router := context.usb.router.beginGeneration (context.generationSeq + 1) }
      cancelHandler := handler
      state } := fun state handler =>
    { present := fun present => absurd (taken.absent.symm.trans present) Bool.false_ne_true
      claimed := fun _ => taken.busy
      synchronised := fun _ => taken.consumed
      hears := fresh
      counts := fun active => absurd (taken.unstarted.symm.trans active) nofun
      noLogin := taken.noLogin }
  split
  · rename_i other
    rw [production] at other
    cases other
  split
  · exact ⟨⟨trivial, trivial⟩, fun _ same => by cases same; exact begun _ _, needs_of_all rfl,
      production⟩
  · have kept := Keeps.beginPreSessionRxSync production
      (begun .activating !device.framework.cancelled) taken.consumed ⟨rfl, rfl⟩ rfl rfl
      fun error => show [Piece.syncBegun error].all Piece.isFree = true from rfl
    exact ⟨⟨trivial, kept.admits⟩, kept.couples, kept.needs, kept.production⟩

/-- `activate` of the driver in a production device. -/
theorem Leads.activate (production : device.production = true)
    (couples : ∀ context, device.context = some context → Couples reception context)
    (present : device.context = some context) : Leads reception (device.activate context) := by
  have kept := couples context present
  unfold Device.activate
  split
  · exact (Keeps.still production couples rfl rfl).toLeads
  split
  · exact (Keeps.activateComplete production couples _).toLeads
  split
  · rename_i login
    rcases login with preparing | series
    · exact absurd (kept.noLogin.1.symm.trans preparing) Bool.false_ne_true
    · exact absurd (kept.noLogin.2.1.symm.trans series) Bool.false_ne_true
  split
  · exact (Keeps.activateComplete production couples _).toLeads
  split
  · rename_i other
    rw [production] at other
    cases other
  obtain ⟨quiet, prepared, goesOn⟩ := kept.prepareActivation device
  split
  · rename_i found
    rw [found] at quiet prepared
    exact ((Couples.activateComplete production prepared).behind quiet).toLeads
  · rename_i found
    rw [found] at quiet goesOn
    exact ((goesOn rfl).beginActivation production).behind quiet

/-! ## Deactivation -/

theorem Couples.closeCompletedCaptureEpoch (couples : Couples reception context)
    (action : DeviceAction) :
    Couples reception (device.closeCompletedCaptureEpoch context action).1 ∧
      (device.closeCompletedCaptureEpoch context action).2.1.all Noted.isQuiet = true := by
  have released := couples.releaseClaim device.outside.release
  have quiet := releaseClaim_quiet context device.outside.release
  have unclaims : (Device.releaseClaim context device.outside.release).2.2 = none →
      (Device.releaseClaim context device.outside.release).1.usbInterfaceClaimed = false := by
    unfold Device.releaseClaim
    split
    · exact fun _ => ‹_›
    split
    · nofun
    · exact fun _ => rfl
  unfold Device.closeCompletedCaptureEpoch
  split
  · exact ⟨couples, rfl⟩
  split
  · rename_i found
    rw [found] at released quiet
    exact ⟨released, quiet⟩
  · rename_i found
    rw [found] at released quiet unclaims
    refine ⟨{ released.releaseEpochObjects with
      present := nofun
      claimed := fun claimed => absurd ((unclaims rfl).symm.trans claimed) Bool.false_ne_true }, ?_⟩
    rw [List.all_append, quiet]
    rfl

theorem Couples.closeEpoch (couples : Couples reception context) (device : Device) :
    Couples reception (device.closeEpoch context).1 ∧
      (device.closeEpoch context).2.1.all Noted.isQuiet = true := by
  unfold Device.closeEpoch
  split
  · exact couples.closeCompletedCaptureEpoch _
  · exact ⟨couples, rfl⟩

theorem Couples.disarmHandoff (couples : Couples reception context) :
    Couples reception (Device.disarmHandoff context) := by
  unfold Device.disarmHandoff
  split
  · exact { couples with }
  · exact couples

theorem Keeps.finishedDeactivation (production : device.production = true)
    (couples : Couples reception context) :
    Keeps reception (device.finishedDeactivation context) := by
  unfold Device.finishedDeactivation
  dsimp only
  split
  · refine Couples.deactivateComplete production ?_
    exact { couples with }
  split
  · refine Couples.deactivateComplete production ?_
    exact { couples with }
  have inactive : Couples reception
      { context with deactivationPending := false, state := .inactive } := { couples with }
  obtain ⟨closed, quiet⟩ := inactive.closeEpoch device
  split
  · rename_i error found
    rw [found] at closed quiet
    refine (Couples.deactivateComplete production ?_).behind quiet
    exact { closed.setPoisoned (some error) with }
  · rename_i found
    rw [found] at closed quiet
    split
    · refine (Couples.deactivateComplete production ?_).behind quiet
      exact { closed.disarmHandoff with }
    · exact (Couples.deactivateComplete production closed.disarmHandoff).behind quiet

theorem Keeps.finishDeactivation (production : device.production = true)
    (couples : ∀ context, device.context = some context → Couples reception context)
    (present : device.context = some context) :
    Keeps reception (device.finishDeactivation context) := by
  unfold Device.finishDeactivation
  split
  · exact .still production couples rfl rfl
  split
  · have kept := couples context present
    refine .setTerminalFence production ?_ _ _ rfl rfl
    exact { kept with noLogin := ⟨kept.noLogin.1, kept.noLogin.2.1, rfl⟩ }
  · exact .finishedDeactivation production (couples context present)

theorem Keeps.completeDeactivation (production : device.production = true)
    (couples : Couples reception context) :
    Keeps reception (device.completeDeactivation context) := by
  unfold Device.completeDeactivation
  split
  · exact .put production couples rfl rfl
  split
  · split
    · exact .put production couples rfl rfl
    · exact .quiet production (fun _ same => by cases same; exact { couples with }) rfl
        (needs_of_all rfl)
  · exact .put production couples rfl rfl

theorem Keeps.deactivate (production : device.production = true)
    (couples : ∀ context, device.context = some context → Couples reception context)
    (present : device.context = some context) :
    Keeps reception (device.deactivate context) := by
  have kept := couples context present
  have deactivating : Couples reception ({ context with
      terminalEnrollCompletionHeld := false
      state := .deactivating
      deactivationPending := true } : Context).disconnectCancelHandler :=
    Couples.disconnect { kept with }
  unfold Device.deactivate
  split
  · exact .still production couples rfl rfl
  dsimp only
  generalize ({ context with
      terminalEnrollCompletionHeld := false
      state := .deactivating
      deactivationPending := true } : Context).disconnectCancelHandler = left at deactivating ⊢
  -- there is no login, so no series goes on
  have ends : left.reusable device.framework.cancelled = false := by
    simp [Context.reusable, deactivating.noLogin.2.1]
  rw [ends, if_neg Bool.false_ne_true]
  refine .setTerminalFence production ?_ _ _ rfl rfl
  exact { deactivating with
    noLogin := ⟨deactivating.noLogin.1, deactivating.noLogin.2.1, rfl⟩ }

theorem Keeps.deactivateFenced (production : device.production = true)
    (couples : Couples reception context) : Keeps reception (device.deactivateFenced context) := by
  unfold Device.deactivateFenced
  dsimp only
  split
  · exact .completeDeactivation production { couples with }
  · exact .put production { couples with } rfl rfl

theorem Keeps.usbDrained (production : device.production = true)
    (couples : ∀ context, device.context = some context → Couples reception context)
    (present : device.context = some context) :
    Keeps reception (device.usbDrained context) := by
  unfold Device.usbDrained
  split
  · exact .quiet production (fun _ same => by cases same; exact { couples context present with })
      rfl (needs_of_all rfl)
  split
  · exact .completeDeactivation production (couples context present)
  · exact .still production couples rfl rfl

/-- What the matcher says of a capture. -/
theorem Couples.recordCaptureResult (couples : Couples reception context)
    (production success isMatch : Bool) :
    Couples reception (context.recordCaptureResult production success isMatch) := by
  unfold Context.recordCaptureResult
  split
  · exact couples
  · exact { couples with }

theorem Keeps.captureResult (production : device.production = true)
    (couples : ∀ context, device.context = some context → Couples reception context)
    (present : device.context = some context) (action : DeviceAction) (success isMatch : Bool) :
    Keeps reception (device.captureResult context action success isMatch) := by
  unfold Device.captureResult
  split
  · exact .still production couples rfl rfl
  dsimp only
  refine .put production (Couples.recordCaptureResult ?_ ..) rfl rfl
  split <;> exact { couples context present with }

theorem Keeps.captureResultKnown (production : device.production = true)
    (couples : ∀ context, device.context = some context → Couples reception context)
    (present : device.context = some context) :
    Keeps reception (device.captureResultKnown context) := by
  unfold Device.captureResultKnown
  split
  · exact .completeDeactivation production (couples context present)
  · exact .still production couples rfl rfl

/-! ## Opening and closing -/

theorem Keeps.imgOpenContext (production : device.production = true)
    (couples : ∀ context, device.context = some context → Couples reception context)
    (kept : Couples reception context) : Keeps reception (device.imgOpenContext context) := by
  unfold Device.imgOpenContext
  split
  · exact .still production couples rfl rfl
  split
  · exact .quiet production (kept.put device) rfl (needs_of_all rfl)
  split
  · exact @Keeps.openComplete _ { device with context := none } production
      (fun _ same => nomatch same) _
  · refine Couples.openComplete production ?_
    exact { kept with }

theorem Keeps.imgOpen (production : device.production = true)
    (couples : ∀ context, device.context = some context → Couples reception context) :
    Keeps reception device.imgOpen := by
  unfold Device.imgOpen
  split
  · rename_i context present
    exact .imgOpenContext production couples (couples context present)
  · have fresh := couples_new reception .opening
    exact (@Keeps.imgOpenContext _ (device.put _) _ production (fresh.put device) fresh).behind rfl

theorem Keeps.imgClose (production : device.production = true)
    (couples : ∀ context, device.context = some context → Couples reception context)
    (present : device.context = some context) :
    Keeps reception (device.imgClose context) := by
  unfold Device.imgClose
  split
  · refine .setTerminalFence production ?_ _ _ rfl rfl
    exact { couples context present with }
  · exact .still production couples rfl rfl

theorem Keeps.imgCloseLogin (production : device.production = true)
    (couples : ∀ context, device.context = some context → Couples reception context)
    (present : device.context = some context) :
    Keeps reception (device.imgCloseLogin context) := by
  unfold Device.imgCloseLogin
  split
  · exact .put production { couples context present with } rfl rfl
  · exact .still production couples rfl rfl

theorem Keeps.imgCloseFence (production : device.production = true)
    (couples : ∀ context, device.context = some context → Couples reception context)
    (kept : Couples reception context) : Keeps reception (device.imgCloseFence context) := by
  unfold Device.imgCloseFence
  split
  · exact .still production couples rfl rfl
  · exact .setTerminalFence production kept _ _ rfl rfl

/-- A login never begins: whoever has the claim has taken up an epoch. -/
theorem Couples.loginPrepare (couples : Couples reception context) (device : Device) :
    device.loginPrepare context = device.nothing := by
  unfold Device.loginPrepare
  refine if_pos ?_
  by_contra begins
  simp only [not_or, Bool.not_eq_false] at begins
  have busy := couples.claimed begins.2.2.2.2.2.2.1
  simp only [Context.isBusy, Bool.and_eq_true] at busy
  exact begins.2.2.2.2.1 busy.1.1

theorem Keeps.imgClosed (production : device.production = true) :
    Keeps reception (device.imgClosed context) := by
  have quiet := releaseClaim_quiet { context with state := .closing } device.outside.release
  unfold Device.imgClosed
  split
  rename_i found
  rw [found] at quiet
  exact (@Keeps.closeComplete _ (device.discardContext _) production
    (fun _ same => nomatch same) _).behind quiet

/-! ## The pieces and the calls -/

section

variable (production : device.production = true)
  (couples : ∀ context, device.context = some context → Couples reception context)

include production couples

/-- Every piece but the start of an activation keeps within the generation. -/
theorem Keeps.perform {piece : Piece} (needs : piece.Needs reception) :
    Keeps reception (perform device piece) := by
  cases piece with
  | component | starting | cancelling => exact .still production couples rfl rfl
  | abort => exact .still production couples rfl rfl
  | usb work =>
    refine .withContext production couples fun context _ kept => ?_
    exact .turnUsb production kept fun parses => by rwa [parses] at needs
  | usbDrained =>
    exact .withContext production couples fun _ present _ => .usbDrained production couples present
  | usbFrame | usbInCompleted =>
    refine .withContext production couples fun _ _ _ => ?_
    split <;> exact .still production couples rfl rfl
  | usbOutCompleted => exact .still production couples rfl rfl
  | syncCompleted generation completion =>
    exact .withContext production couples fun _ _ kept => .syncCompleted production kept _ needs
  | startProtocol =>
    exact .withContext production couples fun _ _ kept => .startProtocol production kept needs
  | cancelBackend =>
    refine .withContext production couples fun _ _ kept =>
      .callUsb production kept kept.hears.cancel fun parses => ?_
    simp only [Stack.call] at parses
    split at parses <;> simp at parses
  | protocolFailure error =>
    exact .withContext production couples fun _ _ kept => .protocolFailure production kept error
  | protocolFailed error =>
    exact .withContext production couples fun _ _ kept => .protocolFailed production kept error
  | emittedTerminal error =>
    exact .withContext production couples fun _ _ kept => .emittedTerminal production kept error
  | activationCancelled =>
    exact .withContext production couples fun _ _ kept =>
      .quiet production (fun _ same => by cases same; exact { kept with }) rfl (needs_of_all rfl)
  | syncBegun error =>
    refine .withContext production couples fun _ _ kept => ?_
    split
    · exact .protocolFailure production kept _
    · exact .still production couples rfl rfl
  | startSecureGraph =>
    exact .withContext production couples fun _ _ kept => .startSecureGraph production kept needs
  | secureSessionStarted =>
    exact .withContext production couples fun _ present _ =>
      .secureSessionStarted production couples present needs
  | emitArmComplete =>
    exact .withContext production couples fun _ present _ =>
      .emitArmComplete production couples present
  | emitFingerStatus finger =>
    exact .withContext production couples fun _ _ _ => .emitFingerStatus production couples _ finger
  | loginMaybeReportRelease =>
    refine .withContext production couples fun _ _ _ => ?_
    split
    · exact .emitFingerStatus production couples _ _
    · exact .still production couples rfl rfl
  | nextLogin => exact needs.elim
  | armReceive =>
    exact .withContext production couples fun _ present _ =>
      .armReceive production couples present needs (fun _ => rfl) rfl
  | captureResult action success isMatch =>
    exact .withContext production couples fun _ present _ =>
      .captureResult production couples present _ _ _
  | captureResultKnown =>
    exact .withContext production couples fun _ present _ =>
      .captureResultKnown production couples present
  | imgOpen => exact .imgOpen production couples
  | activate => exact needs.elim
  | deactivate =>
    exact .withContext production couples fun _ present _ => .deactivate production couples present
  | deactivateFenced =>
    exact .withContext production couples fun _ _ kept => .deactivateFenced production kept
  | finishDeactivation =>
    exact .withContext production couples fun _ present _ =>
      .finishDeactivation production couples present
  | finishDeactivationFenced =>
    exact .withContext production couples fun _ _ kept =>
      .finishedDeactivation production { kept with }
  | imgClose =>
    exact .withContext production couples fun _ present _ => .imgClose production couples present
  | imgCloseLogin =>
    exact .withContext production couples fun _ present _ =>
      .imgCloseLogin production couples present
  | imgCloseFence =>
    exact .withContext production couples fun _ _ kept => .imgCloseFence production couples kept
  | imgClosed => exact .withContext production couples fun _ _ _ => .imgClosed production
  | changeState state => exact .changeState production couples state
  | frameworkDeactivate cancelling => exact .frameworkDeactivate production couples cancelling
  | maybeCompleteAction error => exact .maybeCompleteAction production couples error
  | enrollMaybeAwaitFingerOn => exact .enrollMaybeAwaitFingerOn production couples

theorem Keeps.loginReady (kept : Couples reception context) :
    Keeps reception (device.loginReady context) := by
  unfold Device.loginReady
  split
  · exact .still production couples rfl rfl
  · rename_i ready
    simp [kept.noLogin.1] at ready

/-- The calls of a component that is there. -/
theorem Keeps.componentCall (present : device.context = some context) {call : Call}
    (permitted : innerPermits context call = true) :
    Keeps reception (Goodix.DeviceContext.call device call) := by
  have kept := couples context present
  have component := hasComponent_of_permits permitted
  have only : ∀ other, device.context = some other → other = context := fun other same =>
    Option.some.inj (same.symm.trans present)
  cases call with
  | outside outside => exact .quiet production couples rfl (needs_of_all rfl)
  | submitOut owner bytes =>
    refine .withContext production couples fun other same _ => ?_
    cases only other same
    split
    · exact .still production couples rfl rfl
    · refine .callUsb production kept (kept.hears.submitOut (kept.present component).1 _ _) ?_
      simp only [Stack.call, Stack.settle]
      split <;> simp
  | setOutCompletedCallback callback =>
    exact .withContext production couples fun _ _ kept =>
      .callUsb production kept (kept.hears.setOutCompletedCallback callback) (by simp [Stack.call])
  | armReceive =>
    refine .withContext production couples fun other same _ => ?_
    cases only other same
    exact .armReceive production couples present (kept.present component).1 (fun _ => rfl) rfl
  | protocolFailure error => exact .still production couples rfl rfl
  | fingerDown => exact .still production couples rfl rfl
  | releaseTail =>
    exact .withContext production couples fun _ _ kept => .put production { kept with } rfl rfl
  | fingerUp =>
    refine .withContext production couples fun _ _ _ => .still production couples rfl ?_
    split <;> rfl
  | enrollmentFingerUp =>
    refine .withContext production couples fun _ _ kept => ?_
    split
    · exact .still production couples rfl rfl
    · exact .put production { kept with } rfl rfl
  | imageCaptured => exact .imageCaptured production couples
  | rawImageCaptured scan =>
    refine .withContext production couples fun _ _ _ => ?_
    split
    · exact .still production couples rfl rfl
    · exact .rawImageCaptured production couples scan
  | retryScan =>
    refine .withContext production couples fun _ _ _ => ?_
    split
    · exact .still production couples rfl rfl
    · exact .retryScan production couples
  | holdEnrollCompletion =>
    refine .withContext production couples fun _ _ kept => ?_
    split
    · exact .still production couples rfl rfl
    · exact .holdEnrollCompletion production kept
  | releaseEnrollCompletion =>
    exact .withContext production couples fun _ _ kept =>
      .releaseEnrollCompletion production couples kept
  | loginReady =>
    exact .withContext production couples fun _ _ kept => .loginReady production couples kept
  | livePreflightFinished =>
    refine .withContext production couples fun other same _ => ?_
    cases only other same
    refine .finishLivePreflight production couples present ?_
    simpa [innerPermits, componentPermits, startingPermits, cancellingPermits] using permitted
  | pairingReady =>
    refine .withContext production couples fun other same _ => ?_
    cases only other same
    refine .pairingReady production kept ?_
    simpa [innerPermits, componentPermits, startingPermits, cancellingPermits] using permitted
  | lifecyclePhase phase =>
    refine .withContext production couples fun other same _ => .put production ?_ rfl rfl
    cases only other same
    exact { kept with present := fun _ => kept.present component }
  | bindEnrollment =>
    refine .withContext production couples fun other same _ => ?_
    cases only other same
    split
    · exact .still production couples rfl rfl
    · exact .put production { kept with present := fun _ => kept.present component } rfl rfl
  | _ => cases permitted

/-- The calls of the main loop but the start of an action. -/
theorem Keeps.mainLoopCall {call : Call} (permitted : mainLoopPermits device call = true)
    (other : ∀ action cancelled, call ≠ .start action cancelled) :
    Keeps reception (Goodix.DeviceContext.call device call) := by
  cases call with
  | outside outside => exact .quiet production couples rfl (needs_of_all rfl)
  | tick now => exact .quiet production couples rfl (needs_of_all rfl)
  | openDevice cancelled => exact .framework production couples rfl rfl
  | closeDevice =>
    refine .framework production couples rfl ?_
    split <;> rfl
  | start action cancelled => exact absurd rfl (other action cancelled)
  | cancel =>
    refine @Keeps.withContext _ (device.withFramework { device.framework with
      cancelled := true
      cancelIdle := !device.framework.returning }) _ production couples fun context _ kept => ?_
    split
    · unfold Device.activationCancellableCancelled
      split
      · exact .framework production couples rfl rfl
      · exact .quiet production (fun _ same => by cases same; exact { kept with }) rfl
          (needs_of_all rfl)
    · exact .framework production couples rfl rfl
  | loginPrepare =>
    refine .withContext production couples fun context _ kept => ?_
    rw [kept.loginPrepare]
    exact .still production couples rfl rfl
  | openCompleteIdle =>
    unfold Goodix.DeviceContext.call
    dsimp only
    split
    · exact @Keeps.openComplete _ { device with openIdles := device.openIdles - 1, context := none }
        production (fun _ same => nomatch same) _
    · refine @Keeps.withContext _ { device with openIdles := device.openIdles - 1 } _ production
        couples fun _ _ kept => ?_
      refine @Couples.openComplete _ { device with openIdles := device.openIdles - 1 } _ production
        ?_ none
      exact { kept with }
  | cancelIdle =>
    refine .framework production couples rfl ?_
    split <;> rfl
  | returnTask => exact .framework production couples rfl rfl
  | activationCancelIdle =>
    refine @Keeps.withContext _ { device with
      activationCancelIdles := device.activationCancelIdles - 1 } _ production couples
      fun _ _ _ => ?_
    split
    · exact @Keeps.activateComplete _ { device with
        activationCancelIdles := device.activationCancelIdles - 1 } production couples
        (some cancelledError)
    · exact .quiet production couples rfl (needs_of_all rfl)
  | deactivationIdle =>
    refine @Keeps.withContext _ { device with deactivationIdles := device.deactivationIdles - 1 } _
      production couples fun _ _ kept => ?_
    dsimp only
    split <;> exact .quiet production (fun _ same => by cases same; exact { kept with }) rfl
      (needs_of_all rfl)
  | loginCloseIdle => exact .quiet production couples rfl (needs_of_all rfl)
  | loginDeadline =>
    exact .withContext production couples fun _ _ kept => .put production { kept with } rfl rfl
  | timer => exact .still production couples rfl rfl
  | minutiaeDetected scan => exact .minutiaeDetected production couples scan
  | completeReceive generation completion =>
    exact .withContext production couples fun _ _ kept =>
      .callUsb production kept (kept.hears.completeReceive generation completion).1
        (kept.hears.completeReceive generation completion).2
  | completeOut generation error =>
    refine .withContext production couples fun _ _ kept =>
      .callUsb production kept (kept.hears.completeOut generation error) ?_
    simp only [Stack.call]
    split <;> simp
  | completeAbandoned =>
    exact .quiet production couples rfl (needs_of_all rfl)
  | testLoginPostTls => simp [mainLoopPermits, production] at permitted
  | testArmComplete => simp [mainLoopPermits, production] at permitted
  | _ => cases permitted

end

end

/-! ## Runs -/

/-- What is owed.  An activation is the only thing that is owed while its generation begins. -/
inductive Owes (reception : Reception) : List Piece → Prop where
  | pieces {owed : List Piece} (needs : ∀ piece ∈ owed, piece.Needs reception) :
    Owes reception owed
  | starts : Owes reception [.changeState .activating, .activate]
  | activates : Owes reception [.activate]

/-- What holds between any two steps of a production device. -/
structure Synchronised (log : List Noted) (device : Device) (owed : List Piece) : Prop where
  lawful : receiver.Lawful log
  production : device.production = true
  couples : ∀ context, device.context = some context → Couples (receiver.after log) context
  owes : Owes (receiver.after log) owed

theorem synchronised_new : Synchronised [] (Device.new true) [] where
  lawful := Traces.justified_nil _
  production := rfl
  couples := fun _ same => by cases same; exact couples_new _ _
  owes := .pieces nofun

theorem Leads.synchronised {log : List Noted} {outcome : Outcome}
    (lawful : receiver.Lawful log) (leads : Leads (receiver.after log) outcome) :
    Synchronised (log ++ outcome.2.1) outcome.1 outcome.2.2 where
  lawful := lawful.append _ leads.admits
  production := leads.production
  couples := by
    rw [Monitor.after_append]
    exact leads.couples
  owes := by
    rw [Monitor.after_append]
    exact .pieces leads.needs

theorem Keeps.synchronised {log : List Noted} {outcome : Outcome} {owed : List Piece}
    (lawful : receiver.Lawful log) (kept : Keeps (receiver.after log) outcome)
    (needs : ∀ piece ∈ owed, piece.Needs (receiver.after log)) :
    Synchronised (log ++ outcome.2.1) outcome.1 (outcome.2.2 ++ owed) where
  lawful := lawful.append _ kept.admits
  production := kept.production
  couples := by
    rw [Monitor.after_append]
    exact kept.couples
  owes := by
    rw [Monitor.after_append]
    refine .pieces fun piece inside => ?_
    rcases List.mem_append.mp inside with new | old
    · exact kept.needs piece new
    · exact (needs piece old).carry kept.grows

/-- A client starts an action. -/
theorem Synchronised.start {log : List Noted} {device : Device}
    (holds : Synchronised log device []) (action : DeviceAction) (cancelled : Bool) :
    Synchronised (log ++ (device.start action cancelled).2.1) (device.start action cancelled).1
      (device.start action cancelled).2.2 := by
  unfold Device.start
  dsimp only
  split
  · exact Leads.synchronised holds.lawful
      (Keeps.framework holds.production holds.couples rfl rfl).toLeads
  · have quiet : receiver.after (log ++ [.activates action]) = receiver.after log :=
      Monitor.after_append ..
    exact ⟨holds.lawful.append _ ⟨trivial, trivial⟩, holds.production,
      by rw [quiet]; exact holds.couples, .starts⟩

/-- A client cancels from inside a callback. -/
theorem Synchronised.cancelled {log : List Noted} {device : Device} {owed : List Piece}
    (holds : Synchronised log device owed) {call : Call}
    (permitted : clientPermits device call = true) :
    Synchronised (log ++ (Goodix.DeviceContext.call device call).2.1)
      (Goodix.DeviceContext.call device call).1
      ((Goodix.DeviceContext.call device call).2.2 ++ owed) := by
  obtain ⟨rfl, settled⟩ := cancel_of_clientPermits permitted
  rw [cancel_eq settled]
  simp only [List.append_nil, List.nil_append]
  exact { holds with }

theorem Synchronised.called {log : List Noted} {device : Device} {owed : List Piece}
    (holds : Synchronised log device owed) {call : Call}
    (permitted : permits device owed.head? call = true) :
    Synchronised (log ++ (Goodix.DeviceContext.call device call).2.1)
      (Goodix.DeviceContext.call device call).1
      ((Goodix.DeviceContext.call device call).2.2 ++ owed) := by
  cases owed with
  | nil =>
    rw [List.append_nil]
    by_cases starts : ∃ action cancelled, call = .start action cancelled
    · obtain ⟨action, cancelled, rfl⟩ := starts
      exact holds.start action cancelled
    · refine Leads.synchronised holds.lawful (Keeps.mainLoopCall holds.production holds.couples
        permitted fun action cancelled same => starts ⟨action, cancelled, same⟩).toLeads
  | cons piece owed =>
    cases (Bool.or_eq_true ..).mp permitted with
    | inl client => exact holds.cancelled client
    | inr inside =>
      obtain ⟨context, present, inner⟩ := inner_of_permits inside
      have needs : ∀ later ∈ piece :: owed, later.Needs (receiver.after log) := by
        cases holds.owes with
        | pieces needs => exact needs
        | starts | activates => cases inside
      exact Keeps.synchronised holds.lawful
        (Keeps.componentCall holds.production holds.couples present inner) needs

/-- The driver has nothing to do yet when the framework says that it activates. -/
theorem changeState_activating (device : Device) : (device.changeState .activating).2.2 = [] := by
  unfold Device.changeState Device.withContext
  dsimp only
  split
  · rfl
  · rw [if_neg fun both => nomatch both.1]

theorem Synchronised.performed {log : List Noted} {device : Device} {piece : Piece}
    {owed : List Piece} (holds : Synchronised log device (piece :: owed)) :
    Synchronised (log ++ (perform device piece).2.1) (perform device piece).1
      ((perform device piece).2.2 ++ owed) := by
  obtain ⟨lawful, production, couples, owes⟩ := holds
  cases owes with
  | pieces needs =>
    exact Keeps.synchronised lawful
      (Keeps.perform production couples (needs piece (List.mem_cons_self ..)))
      fun piece inside => needs piece (List.mem_cons_of_mem _ inside)
  | starts =>
    have kept := Keeps.changeState production couples .activating
    have shown := Leads.synchronised lawful kept.toLeads
    refine ⟨shown.lawful, shown.production, shown.couples, ?_⟩
    show Owes _ ((device.changeState .activating).2.2 ++ [.activate])
    rw [changeState_activating]
    exact .activates
  | activates =>
    rw [List.append_nil]
    refine Leads.synchronised lawful ?_
    show Leads _ (device.withContext device.activate)
    unfold Device.withContext
    split
    · exact Keeps.toLeads (.still production couples rfl rfl)
    · rename_i context present
      exact .activate production couples present

theorem synchronised_run (actions : List (Pieces.Action Call)) :
    Synchronised (Machines.run program.step ⟨Device.new true, []⟩ actions).2
      (Machines.run program.step ⟨Device.new true, []⟩ actions).1.state
      (Machines.run program.step ⟨Device.new true, []⟩ actions).1.owed :=
  Pieces.Program.run_invariant (fun _ _ _ _ holds permitted => holds.called permitted)
    (fun _ _ _ _ holds => holds.performed) synchronised_new actions

/-- In every run of a production device nothing is sent and nothing is heard before the receiver of
the generation is synchronised, and the synchronisation keeps its bounds. -/
theorem receiver_lawful (actions : List (Pieces.Action Call)) :
    receiver.Lawful (Machines.run program.step ⟨Device.new true, []⟩ actions).2 :=
  (synchronised_run actions).lawful

/-- Whoever asks a production device to prepare a login, and whenever he asks, the device does
nothing: the interface is only claimed within an action.  No login is ever under way. -/
theorem login_never_begins (actions : List (Pieces.Action Call)) :
    program.step (Machines.run program.step ⟨Device.new true, []⟩ actions).1
        (.call .loginPrepare) =
      ((Machines.run program.step ⟨Device.new true, []⟩ actions).1, []) ∧
    ∀ context,
      (Machines.run program.step ⟨Device.new true, []⟩ actions).1.state.context = some context →
      context.loginPreparing = false ∧ context.loginSeries = false ∧
        context.loginReusable = false ∧
        (Machines.run program.step ⟨Device.new true, []⟩ actions).1.state.loginPrepare context =
          (Machines.run program.step ⟨Device.new true, []⟩ actions).1.state.nothing := by
  have holds := synchronised_run actions
  generalize (Machines.run program.step ⟨Device.new true, []⟩ actions).1 = control at holds ⊢
  refine ⟨?_, fun context present => ?_⟩
  rotate_left
  · have couples := holds.couples context present
    exact ⟨couples.noLogin.1, couples.noLogin.2.1, couples.noLogin.2.2,
      couples.loginPrepare control.state⟩
  obtain ⟨device, owed⟩ := control
  cases owed with
  | nil =>
    have nothing : device.withContext device.loginPrepare = device.nothing := by
      unfold Device.withContext
      split
      · rfl
      · rename_i context present
        exact (holds.couples context present).loginPrepare device
    simp [program, Pieces.Program.step, permits, mainLoopPermits, Goodix.DeviceContext.call,
      nothing, Device.nothing]
  -- no component prepares a login
  | cons piece owed => cases piece <;> simp [program, Pieces.Program.step, permits,
      clientPermits, piecePermits, componentPermits, startingPermits, cancellingPermits]

end Goodix.DeviceContext
