import Goodix.DeviceContext.Answering

/-! # The interface of the device

The device holds its USB interface from one activation to the end of its epoch.  A monitor reads
the log: it knows whether the interface is claimed, whether a generation has begun since, whether
the generation is fenced, and what is in flight.
-/

namespace Goodix.DeviceContext

open Usb Monitors

/-- What a log shows of the interface. -/
structure Bus where
  claimed : Bool
  /-- A generation has begun since the interface was claimed last. -/
  begun : Bool
  fenced : Bool
  receiving : Bool
  sending : Bool

namespace Bus

def idle : Bus where
  claimed := false
  begun := false
  fenced := false
  receiving := false
  sending := false

def note (bus : Bus) : Noted → Bus
  | .created => idle
  | .claimed => { bus with claimed := true, begun := false }
  | .released none => { bus with claimed := false }
  | .usb (.begun _) => { bus with begun := true, fenced := false }
  | .usb (.submittedIn ..) => { bus with receiving := true }
  | .usb (.submittedOut ..) => { bus with sending := true }
  | .usb (.acceptedIn _) => { bus with receiving := false }
  | .usb (.acceptedOut _) => { bus with sending := false }
  | .fenced => { bus with fenced := true }
  -- what is still in flight goes on without the device
  | .closed _ => { bus with claimed := false, receiving := false, sending := false }
  | _ => bus

/-- Nothing is in flight. -/
def IsSilent (bus : Bus) : Prop := bus.receiving = false ∧ bus.sending = false

/-- The interface is claimed, and its generation is under way. -/
def IsLive (bus : Bus) : Prop := bus.claimed = true ∧ bus.begun = true ∧ bus.fenced = false

/-- What may happen to the interface. -/
def Allows (bus : Bus) : Noted → Prop
  | .created => bus.claimed = false ∧ bus.IsSilent
  | .claimed => bus.claimed = false ∧ bus.IsSilent
  | .released _ => bus.claimed = true ∧ (bus.fenced = true ∨ bus.IsSilent)
  | .usb (.begun _) => bus.claimed = true ∧ bus.begun = false ∧ bus.IsSilent
  | .usb (.submittedIn ..) => bus.IsLive ∧ bus.receiving = false
  | .usb (.submittedOut ..) => bus.IsLive ∧ bus.sending = false
  | .usb (.acceptedIn _) => bus.receiving = true
  | .usb (.acceptedOut _) => bus.sending = true
  | .usb (.routed _) | .usb (.frame ..) => bus.IsLive
  | .activateComplete none | .fingerStatus _ => bus.IsLive
  | .deactivateComplete _ => bus.fenced = true ∧ bus.IsSilent
  | .epochClosed _ => bus.claimed = false ∧ bus.fenced = true ∧ bus.IsSilent
  | .closed _ => bus.fenced = true
  | _ => True

end Bus

def interface : Monitor Bus Noted := ⟨Bus.idle, Bus.note, Bus.Allows⟩

/-! ## What the context keeps -/

/-- Nothing has ever been submitted. -/
def Dormant (usb : Stack Owner) : Prop :=
  usb.router.pending = [] ∧ usb.router.generation = 0 ∧ usb.backend.isDrained = true

/-- No generation has begun in the context. -/
def Untouched (bus : Bus) (context : Context) : Prop :=
  Dormant context.usb ∧ context.hasComponent = false ∧ context.sync.result = .notStarted ∧
    context.generation = 0 ∧ (bus.claimed = true → bus.begun = false)

/-- The interface and the context of a production device fit together; while it is `fencing`, the
backend is going to be cancelled. -/
structure BusAgrees (bus : Bus) (fencing : Bool) (context : Context) : Prop where
  claim : context.usbInterfaceClaimed = bus.claimed
  receiving : bus.receiving = decide (context.usb.backend.inOutstanding ≠ 0)
  sending : bus.sending = decide (context.usb.backend.outOutstanding ≠ 0)
  present : context.hasComponent = true → bus.begun = true
  live : context.usb.backend.terminalFence = false →
    (bus.claimed = true ∧ bus.begun = true) ∨ Untouched bus context
  router : context.usb.backend.terminalFence = true → context.usb.router.terminalFence = true
  current : context.generation ≠ 0 → context.terminalFence = false →
    bus.claimed = true ∧ bus.begun = true
  shut : bus.fenced = true → context.terminalFence = true
  leaves : context.deactivationPending = true → bus.fenced = true
  halted : bus.fenced = true → context.usb.backend.terminalFence = true ∨ fencing = true
  idle : context.productionActionConsumed = false → context.usb.backend.isDrained = true
  synchronised : context.sync.result ≠ .notStarted → bus.begun = true
  opening : context.state = .opening → context.productionActionConsumed = false

/-- The backend is going to be cancelled before anything else can happen. -/
def fencing : List Piece → Bool
  | .cancelBackend :: _ => true
  | .cancelling :: owed | .protocolFailure _ :: owed => fencing owed
  | _ => false

/-- What a piece takes for granted.  An activation begins alone, and so does an opening. -/
def Piece.NeedsBus (bus : Bus) : Piece → Prop
  | .startProtocol | .startSecureGraph => bus.begun = true
  | .imgClosed => bus.fenced = true
  | .activate | .nextLogin | .imgOpen | .finishDeactivationFenced => False
  | _ => True

def Piece.isLoose : Piece → Bool
  | .startProtocol | .startSecureGraph | .imgClosed | .activate | .nextLogin | .imgOpen
  | .finishDeactivationFenced => false
  | _ => true

theorem Piece.needsBus_of_isLoose {piece : Piece} (loose : piece.isLoose = true) (bus : Bus) :
    piece.NeedsBus bus := by
  cases piece <;> trivial

/-- Entries that say nothing about the interface. -/
def Noted.isIdle : Noted → Bool
  | .created | .claimed | .released _ | .usb (.begun _) | .usb (.submittedIn ..)
  | .usb (.submittedOut ..) | .usb (.acceptedIn _) | .usb (.acceptedOut _) | .usb (.routed _)
  | .usb (.frame ..) | .activateComplete none | .fingerStatus _ | .deactivateComplete _
  | .epochClosed _ | .closed _ | .fenced => false
  | _ => true

theorem Noted.ignores_of_isIdle {entry : Noted} (idle : entry.isIdle = true) :
    interface.Ignores entry := by
  intro bus
  cases entry with
  | usb noted => cases noted <;> first | exact ⟨trivial, rfl⟩ | cases idle
  | activateComplete error => cases error <;> first | exact ⟨trivial, rfl⟩ | cases idle
  | _ => first | exact ⟨trivial, rfl⟩ | cases idle

theorem idle_foldl {noted : List Noted} (idle : noted.all Noted.isIdle = true) (bus : Bus) :
    interface.Admits bus noted ∧ noted.foldl Bus.note bus = bus :=
  Monitor.admits_of_ignores fun entry inside =>
    Noted.ignores_of_isIdle (List.all_eq_true.mp idle entry inside)

/-- The interface behind a step within the epoch. -/
structure Bus.Grows (bus later : Bus) : Prop where
  begun : bus.begun = true → later.begun = true
  fenced : bus.fenced = true → later.fenced = true

theorem Bus.Grows.rfl (bus : Bus) : bus.Grows bus := ⟨id, id⟩

theorem Piece.NeedsBus.carry {piece : Piece} {bus later : Bus} (agrees : piece.NeedsBus bus)
    (grows : bus.Grows later) : piece.NeedsBus later := by
  cases piece with
  | startProtocol | startSecureGraph => exact grows.begun agrees
  | imgClosed => exact grows.fenced agrees
  | activate | nextLogin | imgOpen | finishDeactivationFenced => exact agrees
  | _ => trivial

/-- What a step leaves is lawful and fits together. -/
structure BusStep (bus : Bus) (outcome : Outcome) : Prop where
  admits : interface.Admits bus outcome.2.1
  agrees : ∀ context, outcome.1.context = some context →
    BusAgrees (outcome.2.1.foldl Bus.note bus) (fencing outcome.2.2) context
  gone : outcome.1.context = none → (outcome.2.1.foldl Bus.note bus).claimed = false ∧
    (outcome.2.1.foldl Bus.note bus).IsSilent
  needs : ∀ piece ∈ outcome.2.2, piece.NeedsBus (outcome.2.1.foldl Bus.note bus)

/-- A step within an epoch. -/
structure EpochStep (bus : Bus) (outcome : Outcome) : Prop extends BusStep bus outcome where
  grows : bus.Grows (outcome.2.1.foldl Bus.note bus)

/-- A production device that is not about to cancel its backend. -/
structure DeviceAgrees (reception : Reception) (bus : Bus) (device : Device) : Prop where
  production : device.production = true
  couples : ∀ context, device.context = some context → Couples reception context
  agrees : ∀ context, device.context = some context → BusAgrees bus false context
  gone : device.context = none → bus.claimed = false ∧ bus.IsSilent

section

variable {reception : Reception} {bus : Bus} {device : Device} {context : Context}

theorem BusAgrees.fencing (agrees : BusAgrees bus false context) (fencing : Bool) :
    BusAgrees bus fencing context :=
  { agrees with
    halted := fun fenced => .inl ((agrees.halted fenced).resolve_right Bool.false_ne_true) }

theorem BusAgrees.halts (agrees : BusAgrees bus false context) (fenced : bus.fenced = true) :
    context.usb.backend.terminalFence = true :=
  (agrees.halted fenced).resolve_right Bool.false_ne_true

theorem needsBus_of_all {pieces : List Piece} (loose : pieces.all Piece.isLoose = true) :
    ∀ piece ∈ pieces, piece.NeedsBus bus :=
  fun piece inside => Piece.needsBus_of_isLoose (List.all_eq_true.mp loose piece inside) bus

/-- A step that says nothing about the interface. -/
theorem EpochStep.idle {outcome : Outcome}
    (agrees : ∀ context, outcome.1.context = some context → BusAgrees bus false context)
    (gone : outcome.1.context = none → bus.claimed = false ∧ bus.IsSilent)
    (idle : outcome.2.1.all Noted.isIdle = true)
    (needs : ∀ piece ∈ outcome.2.2, piece.NeedsBus bus) : EpochStep bus outcome := by
  obtain ⟨admits, same⟩ := idle_foldl idle bus
  exact ⟨⟨admits, by rw [same]; exact fun context present => (agrees context present).fencing _,
    by rwa [same], by rwa [same]⟩, by rw [same]; exact .rfl _⟩

/-- A step that changes the context and says nothing about the interface. -/
theorem EpochStep.put {changed : Context} {noted : List Noted} {pieces : List Piece}
    (agrees : BusAgrees bus false changed) (idle : noted.all Noted.isIdle = true)
    (loose : pieces.all Piece.isLoose = true) :
    EpochStep bus (device.put changed, noted, pieces) :=
  .idle (fun _ same => by cases same; exact agrees) (fun absent => by cases absent) idle
    (needsBus_of_all loose)

variable (holds : DeviceAgrees reception bus device)

include holds

/-- A step that leaves the context as it is. -/
theorem DeviceAgrees.still {noted : List Noted} {pieces : List Piece}
    (idle : noted.all Noted.isIdle = true) (loose : pieces.all Piece.isLoose = true) :
    EpochStep bus (device, noted, pieces) :=
  .idle holds.agrees holds.gone idle (needsBus_of_all loose)

/-- The framework changes, and nothing else. -/
theorem DeviceAgrees.framework {framework : Framework} {noted : List Noted} {pieces : List Piece}
    (idle : noted.all Noted.isIdle = true) (loose : pieces.all Piece.isLoose = true) :
    EpochStep bus (device.withFramework framework, noted, pieces) :=
  .idle holds.agrees holds.gone idle (needsBus_of_all loose)

theorem DeviceAgrees.withContext {function : Context → Outcome}
    (step : ∀ context, device.context = some context → Couples reception context →
      BusAgrees bus false context → EpochStep bus (function context)) :
    EpochStep bus (device.withContext function) := by
  unfold Device.withContext
  split
  · exact holds.still rfl rfl
  · rename_i context present
    exact step context present (holds.couples context present) (holds.agrees context present)

omit holds in
/-- A step with something in front of it. -/
theorem EpochStep.behind {outcome : Outcome} (step : EpochStep bus outcome) {noted : List Noted}
    (idle : noted.all Noted.isIdle = true) : EpochStep bus (outcome.behind noted) := by
  obtain ⟨admits, same⟩ := idle_foldl idle bus
  have after : (outcome.behind noted).2.1.foldl Bus.note bus = outcome.2.1.foldl Bus.note bus := by
    simp [Outcome.behind, List.foldl_append, same]
  refine ⟨⟨Monitor.admits_append.mpr ⟨admits, ?_⟩, ?_, ?_, ?_⟩, ?_⟩
  · rw [show noted.foldl interface.note bus = bus from same]
    exact step.admits
  · rw [after]
    exact step.agrees
  · rw [after]
    exact step.gone
  · rw [after]
    exact step.needs
  · rw [after]
    exact step.grows

omit holds in
/-- A step with loose pieces behind it. -/
theorem EpochStep.andThen {outcome : Outcome} (step : EpochStep bus outcome) {pieces : List Piece}
    (plain : fencing outcome.2.2 = false) (loose : pieces.all Piece.isLoose = true) :
    EpochStep bus (outcome.andThen pieces) := by
  refine ⟨⟨step.admits, fun context present => ?_, step.gone, fun piece inside => ?_⟩,
    step.grows⟩
  · have agrees := step.agrees context present
    rw [plain] at agrees
    exact agrees.fencing _
  · rcases List.mem_append.mp inside with left | right
    · exact step.needs piece left
    · exact needsBus_of_all loose piece right

end

/-! ## The backend -/

section

variable {bus : Bus} {usb : Stack Owner}

/-- The interface and a backend that is not about to be cancelled fit together. -/
structure BackendAgrees (bus : Bus) (usb : Stack Owner) : Prop where
  receiving : bus.receiving = decide (usb.backend.inOutstanding ≠ 0)
  sending : bus.sending = decide (usb.backend.outOutstanding ≠ 0)
  live : usb.backend.terminalFence = false → bus.IsLive ∨ Dormant usb
  router : usb.backend.terminalFence = true → usb.router.terminalFence = true

/-- The interface when the backend is this one. -/
def Bus.with (bus : Bus) (usb : Stack Owner) : Bus :=
  { bus with
    receiving := decide (usb.backend.inOutstanding ≠ 0)
    sending := decide (usb.backend.outOutstanding ≠ 0) }

theorem BackendAgrees.with (agrees : BackendAgrees bus usb) : bus.with usb = bus := by
  unfold Bus.with
  rw [← agrees.receiving, ← agrees.sending]

/-- What the log gains from the backend, and the backend behind it. -/
structure Submits (bus : Bus) (noted : List (Usb.Noted Owner))
    (usb after : Stack Owner) : Prop where
  admits : interface.Admits bus (noted.map .usb)
  same : (noted.map Noted.usb).foldl Bus.note bus = bus.with after
  fence : usb.backend.terminalFence = true → after.backend.terminalFence = true
  router : after.backend.terminalFence = true → after.router.terminalFence = true

/-- It has submitted nothing. -/
structure Serves (bus : Bus) (noted : List (Usb.Noted Owner)) (usb after : Stack Owner) : Prop
    extends Submits bus noted usb after where
  dormant : Dormant usb → Dormant after
  drained : usb.backend.isDrained = true → after.backend.isDrained = true

variable (agrees : BackendAgrees bus usb)

include agrees

theorem BackendAgrees.unchanged : Serves bus [] usb usb :=
  ⟨⟨trivial, agrees.with.symm, id, agrees.router⟩, id, id⟩

theorem BackendAgrees.cancel : Serves bus (usb.call .cancel).2.1 usb (usb.call .cancel).1 := by
  simp only [Stack.call]
  split
  · exact agrees.unchanged
  · exact ⟨⟨⟨trivial, trivial⟩, agrees.with.symm, fun _ => rfl, fun _ => rfl⟩,
      fun dormant => ⟨rfl, dormant.2.1, dormant.2.2⟩, id⟩

theorem BackendAgrees.completeReceive (generation : Nat) (completion : Completion) :
    Serves bus (usb.call (.completeReceive generation completion)).2.1 usb
      (usb.call (.completeReceive generation completion)).1 := by
  simp only [Stack.call]
  split
  · exact agrees.unchanged
  rename_i backend purpose taken
  unfold Backend.takeReceive at taken
  split at taken
  · cases taken
  rename_i accepted
  rw [not_or, Decidable.not_not] at accepted
  cases taken
  have receives : bus.receiving = true := by simp [agrees.receiving, accepted.1]
  have awake : ¬Dormant usb := fun dormant => by
    simp [Dormant, Backend.isDrained, accepted.1] at dormant
  have undrained : ¬usb.backend.isDrained = true := by simp [Backend.isDrained, accepted.1]
  have after (noted : Bus) (same : noted = { bus with receiving := false }) (router : Router) :
      noted = bus.with { backend := { usb.backend with
        inOutstanding := 0
        inGeneration := 0
        inPurpose := .none
        inTimeoutMs := 0 }, router } := by
    rw [same, Bus.with, agrees.sending]
    simp
  split
  · rename_i routes
    simp only [Backend.routes, decide_eq_true_eq] at routes
    have unfenced : usb.backend.terminalFence = false := routes.1
    have live := (agrees.live unfenced).resolve_right awake
    split
    · exact ⟨⟨⟨receives, trivial⟩, after _ rfl _, id, fun fenced =>
        absurd (unfenced.symm.trans fenced) Bool.false_ne_true⟩, (absurd · awake),
        (absurd · undrained)⟩
    · exact ⟨⟨⟨receives, ⟨live, trivial⟩⟩, after _ rfl _, id, fun fenced =>
        absurd (unfenced.symm.trans fenced) Bool.false_ne_true⟩, (absurd · awake),
        (absurd · undrained)⟩
  · exact ⟨⟨⟨receives, trivial⟩, after _ rfl _, id, agrees.router⟩, (absurd · awake),
      (absurd · undrained)⟩

theorem BackendAgrees.completeOut (generation : Nat) (error : Option GError) :
    Serves bus (usb.call (.completeOut generation error)).2.1 usb
      (usb.call (.completeOut generation error)).1 := by
  simp only [Stack.call]
  split
  · exact agrees.unchanged
  rename_i backend taken
  unfold Backend.takeOut at taken
  split at taken
  · cases taken
  rename_i accepted
  rw [not_or, Decidable.not_not] at accepted
  cases taken
  have sends : bus.sending = true := by simp [agrees.sending, accepted.1]
  refine ⟨⟨⟨sends, trivial⟩, ?_, id, agrees.router⟩, fun dormant => ?_, fun drained => ?_⟩
  · show { bus with sending := false } = _
    rw [Bus.with, agrees.receiving]
    simp
  · simp [Dormant, Backend.isDrained, accepted.1] at dormant
  · simp [Backend.isDrained, accepted.1] at drained

theorem BackendAgrees.setOutCompletedCallback (callback : Option Owner) :
    Serves bus (usb.call (.setOutCompletedCallback callback)).2.1 usb
      (usb.call (.setOutCompletedCallback callback)).1 :=
  ⟨⟨trivial, agrees.with.symm, id, agrees.router⟩, id, id⟩

theorem BackendAgrees.submitOut (live : usb.backend.terminalFence = false → bus.IsLive)
    (generation : Nat) (bytes : List UInt8) :
    Submits bus (usb.call (.submitOut generation bytes)).2.1 usb
      (usb.call (.submitOut generation bytes)).1 := by
  simp only [Stack.call, Backend.submitOut, Stack.settle]
  split
  · rename_i result
    split at result
    · cases result
    rename_i current
    split at result
    · cases result
    rename_i free
    simp only [not_or, Bool.not_eq_true] at current
    cases result
    refine ⟨⟨⟨live current.1, ?_⟩, trivial⟩, ?_, id, agrees.router⟩
    · simpa [agrees.sending] using free
    · show { bus with sending := true } = _
      rw [Bus.with, agrees.receiving]
      simp
  · exact ⟨⟨trivial, trivial⟩, agrees.with.symm, id, agrees.router⟩

/-- A receive that is armed. -/
theorem BackendAgrees.armReceive {generation : Nat} {after : Stack Owner}
    (arms : usb.armReceive generation = .ok after) :
    ¬Dormant usb ∧ usb.backend.terminalFence = false ∧
      Submits bus [.submittedIn generation .protocolRx] usb after := by
  unfold Stack.armReceive at arms
  split at arms
  · cases arms
  rename_i accepts
  simp only [Backend.refusesReceive, decide_eq_true_eq, not_or, Bool.not_eq_true,
    Decidable.not_not] at accepts
  split at arms
  · cases arms
  rename_i router requested
  unfold Router.requestReceive at requested
  split at requested
  · cases requested
  rename_i requests
  have awake : ¬Dormant usb := fun dormant => requests (.inr dormant.2.1)
  have live := (agrees.live accepts.1).resolve_right awake
  split at requested
  · cases requested
  cases requested
  cases arms
  refine ⟨awake, accepts.1, ⟨⟨live, ?_⟩, trivial⟩, ?_, id, agrees.router⟩
  · simpa [agrees.receiving] using accepts.2.2.2
  · show { bus with receiving := true } = _
    rw [Bus.with, agrees.sending]
    rfl

theorem BackendAgrees.turn (work : Work) : Serves bus (usb.turn work).2.1 usb
    (usb.turn work).1 := by
  cases work with
  | parse =>
    simp only [Stack.turn]
    split
    · exact agrees.unchanged
    rename_i unfenced
    have open' : usb.backend.terminalFence = false := by
      by_contra fenced
      exact unfenced (agrees.router (Bool.not_eq_false _ ▸ fenced))
    split
    · exact agrees.unchanged
    · rename_i malformed
      refine ⟨⟨trivial, agrees.with.symm, id, fun _ => rfl⟩, fun dormant => ?_, id⟩
      exact ⟨dormant.1, dormant.2.1, dormant.2.2⟩
    · rename_i frameLength item
      have awake : ¬Dormant usb := fun dormant => by
        rw [dormant.1] at item
        simp [Router.front] at item
      have live := (agrees.live open').resolve_right awake
      exact ⟨⟨⟨live, trivial⟩, agrees.with.symm, id, agrees.router⟩, (absurd · awake), id⟩
  | receiveCompleted purpose generation completion =>
    cases purpose with
    | none => exact agrees.unchanged
    | protocolRx | preSessionSyncRx =>
      exact ⟨⟨⟨trivial, trivial⟩, agrees.with.symm, id, agrees.router⟩, id, id⟩
  | outCompleted generation error =>
    simp only [Stack.turn]
    split
    · exact agrees.unchanged
    · exact ⟨⟨⟨trivial, trivial⟩, agrees.with.symm, id, agrees.router⟩, id, id⟩
  | notifyDrained =>
    simp only [Stack.turn]
    split
    · exact ⟨⟨⟨trivial, trivial⟩, agrees.with.symm, id, agrees.router⟩, id, id⟩
    · exact agrees.unchanged

end

section

variable {reception : Reception} {bus : Bus} {device : Device} {context : Context}

theorem BusAgrees.backendAgrees (agrees : BusAgrees bus false context) :
    BackendAgrees bus context.usb where
  receiving := agrees.receiving
  sending := agrees.sending
  live := fun unfenced => by
    have open' : bus.fenced = false := by
      by_contra fenced
      have halts := agrees.halts (Bool.not_eq_false _ ▸ fenced)
      rw [unfenced] at halts
      cases halts
    cases agrees.live unfenced with
    | inl live => exact .inl ⟨live.1, live.2, open'⟩
    | inr untouched => exact .inr untouched.1
  router := agrees.router

/-- The backend has done something, and the rest of the context is as it was. -/
theorem BusAgrees.served {noted : List (Usb.Noted Owner)} {usb : Stack Owner}
    (agrees : BusAgrees bus false context) (serves : Serves bus noted context.usb usb) :
    BusAgrees ((noted.map Noted.usb).foldl Bus.note bus) false { context with usb } := by
  rw [serves.same]
  exact { agrees with
    receiving := rfl
    sending := rfl
    live := fun unfenced => by
      have before : context.usb.backend.terminalFence = false := by
        by_contra fenced
        have still := serves.fence (Bool.not_eq_false _ ▸ fenced)
        exact absurd (unfenced.symm.trans still) Bool.false_ne_true
      cases agrees.live before with
      | inl live => exact .inl live
      | inr untouched => exact .inr ⟨serves.dormant untouched.1, untouched.2⟩
    router := serves.router
    halted := fun fenced => .inl (serves.fence (agrees.halts fenced))
    idle := fun unconsumed => serves.drained (agrees.idle unconsumed) }

/-- What is submitted is submitted in a generation of the epoch. -/
theorem BusAgrees.submitted {noted : List (Usb.Noted Owner)} {usb : Stack Owner}
    (agrees : BusAgrees bus false context) (submits : Submits bus noted context.usb usb)
    (consumed : context.productionActionConsumed = true)
    (live : context.usb.backend.terminalFence = false → bus.IsLive) :
    BusAgrees ((noted.map Noted.usb).foldl Bus.note bus) false { context with usb } := by
  rw [submits.same]
  exact { agrees with
    receiving := rfl
    sending := rfl
    live := fun unfenced => by
      have before : context.usb.backend.terminalFence = false := by
        by_contra fenced
        have still := submits.fence (Bool.not_eq_false _ ▸ fenced)
        exact absurd (unfenced.symm.trans still) Bool.false_ne_true
      exact .inl ⟨(live before).1, (live before).2.1⟩
    router := submits.router
    halted := fun fenced => .inl (submits.fence (agrees.halts fenced))
    idle := fun unconsumed => absurd (unconsumed.symm.trans consumed) Bool.false_ne_true }

/-- The log of the backend reaches the device's. -/
theorem Submits.epochStep {noted : List (Usb.Noted Owner)} {before usb : Stack Owner}
    {pieces : List Piece} (submits : Submits bus noted before usb)
    (agrees : BusAgrees ((noted.map Noted.usb).foldl Bus.note bus) false { context with usb })
    (loose : pieces.all Piece.isLoose = true) :
    EpochStep bus (device.put { context with usb }, noted.map .usb, pieces) where
  admits := submits.admits
  agrees := fun _ same => by
    cases same
    exact agrees.fencing _
  gone := fun absent => by cases absent
  needs := needsBus_of_all loose
  grows := by
    rw [submits.same]
    exact ⟨id, id⟩

theorem loose_of_turn (usb : Stack Owner) (work : Work) :
    ((usb.turn work).2.1.flatMap Device.callbackOf ++
      ((usb.turn work).2.2.getD []).map Piece.usb).all Piece.isLoose = true := by
  cases work with
  | parse =>
    simp only [Stack.turn]
    split
    · rfl
    split <;> rfl
  | receiveCompleted purpose generation completion => cases purpose <;> rfl
  | outCompleted generation error =>
    simp only [Stack.turn]
    split <;> rfl
  | notifyDrained =>
    simp only [Stack.turn]
    split <;> rfl

theorem BusAgrees.turnUsb (agrees : BusAgrees bus false context) (work : Work) :
    EpochStep bus (device.turnUsb context work) :=
  (agrees.backendAgrees.turn work).toSubmits.epochStep
    (agrees.served (agrees.backendAgrees.turn work))
    (loose_of_turn ..)

theorem loose_works (works : List Work) :
    (works.map Piece.usb).all Piece.isLoose = true := by
  simp [Function.comp_def, Piece.isLoose]

theorem BusAgrees.callUsb (agrees : BusAgrees bus false context) {call : Usb.Call Owner}
    (serves : Serves bus (context.usb.call call).2.1 context.usb (context.usb.call call).1) :
    EpochStep bus (device.callUsb context call) :=
  serves.toSubmits.epochStep (agrees.served serves) (loose_works _)

theorem Couples.consumed (couples : Couples reception context)
    (component : context.hasComponent = true) : context.productionActionConsumed = true := by
  have busy := (couples.present component).2
  simp only [Context.isBusy, Bool.and_eq_true] at busy
  exact busy.1.1

/-- A generation is under way while the backend takes what a component submits. -/
theorem BusAgrees.isLive (agrees : BusAgrees bus false context)
    (touched : ¬Untouched bus context)
    (unfenced : context.usb.backend.terminalFence = false) : bus.IsLive := by
  have live := (agrees.live unfenced).resolve_right touched
  refine ⟨live.1, live.2, ?_⟩
  by_contra fenced
  have halts := agrees.halts (Bool.not_eq_false _ ▸ fenced)
  exact absurd (unfenced.symm.trans halts) Bool.false_ne_true

theorem not_untouched (component : context.hasComponent = true) : ¬Untouched bus context :=
  fun untouched => Bool.false_ne_true (untouched.2.1.symm.trans component)

/-- An OUT of a component. -/
theorem BusAgrees.submitOut (agrees : BusAgrees bus false context)
    (couples : Couples reception context)
    (component : context.hasComponent = true) (generation : Nat) (bytes : List UInt8) :
    EpochStep bus (device.callUsb context (.submitOut generation bytes)) := by
  have live := agrees.isLive (not_untouched component)
  have submits := agrees.backendAgrees.submitOut live generation bytes
  exact submits.epochStep (agrees.submitted submits (couples.consumed component) live)
    (loose_works _)

theorem DeviceAgrees.armReceive (holds : DeviceAgrees reception bus device)
    (present : device.context = some context) {refused : GError → List Piece}
    {armed : List Piece} (looseRefused : ∀ error, (refused error).all Piece.isLoose = true)
    (looseArmed : armed.all Piece.isLoose = true) :
    EpochStep bus (device.armReceive context refused armed) := by
  have agrees := holds.agrees context present
  unfold Device.armReceive
  split
  · exact holds.still rfl (looseRefused _)
  · rename_i usb arms
    obtain ⟨awake, unfenced, submits⟩ := agrees.backendAgrees.armReceive arms
    have touched : ¬Untouched bus context := fun untouched => awake untouched.1
    have live := agrees.isLive touched
    have claim := (live unfenced).1
    have busy := (holds.couples context present).claimed (agrees.claim.trans claim)
    simp only [Context.isBusy, Bool.and_eq_true] at busy
    exact submits.epochStep (agrees.submitted submits busy.1.1 live) looseArmed

end

end Goodix.DeviceContext
