import Goodix.DeviceContext.Program
import Goodix.Library.Monitors
import Goodix.Usb.Fence

/-! # What the device receives

What an earlier session left in the endpoint is read away before a generation sends
anything.  A monitor reads the log of the device: it knows whether the synchronisation of
the current generation has passed, and what has been read so far.
-/

namespace Goodix.DeviceContext

open Usb Monitors

/-- What a log shows of the receiver in the current generation. -/
structure Reception where
  passed : Bool
  failed : Bool
  completions : Nat
  bytes : Nat
  startedUs : Int
  /-- What the context was given while it synchronises. -/
  heard : List Completion
  /-- What the router was given. -/
  routed : List UInt8

namespace Reception

/-- The receiver of a generation that begins. -/
def fresh : Reception where
  passed := false
  failed := false
  completions := 0
  bytes := 0
  startedUs := 0
  heard := []
  routed := []

def note (reception : Reception) : Noted → Reception
  | .usb (.begun _) => fresh
  | .usb (.routed octets) => { reception with routed := reception.routed ++ octets }
  | .usb (.syncCompleted _ completion) =>
    { reception with heard := reception.heard ++ [completion] }
  | .syncStarted now => { reception with startedUs := now }
  | .syncDiscarded octets _ =>
    { reception with
      completions := reception.completions + 1
      bytes := reception.bytes + octets.length }
  | .syncPassed .. => { reception with passed := true }
  | .syncFailed => { reception with failed := true }
  | _ => reception

/-- The synchronisation is neither passed nor failed. -/
def IsOpen (reception : Reception) : Prop := reception.passed = false ∧ reception.failed = false

/-- The time that a synchronisation has, in microseconds; the code compares whole milliseconds. -/
def limitUs : Int := 1000 * (maxTotalMs + 1)

/-- What may happen to a receiver. -/
def Allows (reception : Reception) : Noted → Prop
  | .usb (.submittedOut ..) | .usb (.submittedIn _ .protocolRx) => reception.passed = true
  | .usb (.routed _) => reception.passed = true
  | .usb (.frame _ frame) => reception.passed = true ∧ frame <:+: reception.routed
  | .syncDiscarded octets now =>
    reception.IsOpen ∧ ⟨octets, none⟩ ∈ reception.heard ∧ reception.completions < maxCompletions ∧
      reception.bytes + octets.length ≤ maxBytes ∧ now - reception.startedUs < limitUs
  | .syncPassed completion drained now =>
    reception.IsOpen ∧ completion ∈ reception.heard ∧ completion.error.any isTimedOut = true ∧
      completion.octets = [] ∧ drained = true ∧ now - reception.startedUs < limitUs
  | _ => True

end Reception

def receiver : Monitor Reception Noted := ⟨Reception.fresh, Reception.note, Reception.Allows⟩

/-! ## What the backend hears -/

/-- The receiver and the backend fit together. -/
structure Hears (reception : Reception) (usb : Stack Owner) : Prop where
  receives : usb.backend.inOutstanding ≠ 0 → usb.backend.inPurpose = .protocolRx →
    reception.passed = true
  pending : usb.router.pending <:+ reception.routed

theorem hears_new (reception : Reception) : Hears reception Stack.new :=
  ⟨fun outstanding => absurd rfl outstanding, List.nil_suffix⟩

/-- A later receiver of the same generation. -/
structure Reception.Grows (reception later : Reception) : Prop where
  passed : reception.passed = true → later.passed = true
  heard : ∀ completion ∈ reception.heard, completion ∈ later.heard

@[simp] theorem Reception.Grows.rfl (reception : Reception) : reception.Grows reception :=
  ⟨id, fun _ => id⟩

/-- What the log gains from the backend, and the receiver behind it. -/
structure HearsAfter (reception : Reception) (noted : List (Usb.Noted Owner)) (usb : Stack Owner) :
    Prop where
  admits : receiver.Admits reception (noted.map .usb)
  hears : Hears ((noted.map Noted.usb).foldl Reception.note reception) usb
  grows : reception.Grows ((noted.map Noted.usb).foldl Reception.note reception)
  same : (noted.map Noted.usb).foldl Reception.note reception =
    { reception with
      heard := ((noted.map Noted.usb).foldl Reception.note reception).heard
      routed := ((noted.map Noted.usb).foldl Reception.note reception).routed }

section

variable {reception : Reception} {usb : Stack Owner} (hears : Hears reception usb)

include hears

theorem Hears.unchanged : HearsAfter reception [] usb := ⟨trivial, hears, .rfl _, rfl⟩

theorem Hears.cancel : HearsAfter reception (usb.call .cancel).2.1 (usb.call .cancel).1 := by
  simp only [Stack.call]
  split
  · exact hears.unchanged
  · exact ⟨⟨trivial, trivial⟩, ⟨hears.receives, List.nil_suffix⟩, .rfl _, rfl⟩

theorem Hears.completeReceive (generation : Nat) (completion : Completion) :
    HearsAfter reception (usb.call (.completeReceive generation completion)).2.1
        (usb.call (.completeReceive generation completion)).1 ∧
      (Work.parse ∈ (usb.call (.completeReceive generation completion)).2.2 →
        reception.passed = true) := by
  simp only [Stack.call]
  split
  · exact ⟨hears.unchanged, by simp⟩
  · rename_i backend purpose taken
    unfold Backend.takeReceive at taken
    split at taken
    · cases taken
    · rename_i accepted
      rw [not_or, Decidable.not_not] at accepted
      cases taken
      split
      · rename_i routes
        simp only [Backend.routes, decide_eq_true_eq] at routes
        have passed := hears.receives accepted.1 routes.2.2
        split
        · rename_i router routed
          have pending := routeReceive_pending routed
          rw [if_neg Bool.false_ne_true, List.append_nil] at pending
          exact ⟨⟨⟨trivial, trivial⟩, ⟨fun outstanding => absurd rfl outstanding,
            by rw [pending]; exact hears.pending⟩, .rfl _, rfl⟩, by simp⟩
        · rename_i router routed
          have pending := routeReceive_pending routed
          rw [if_pos rfl] at pending
          refine ⟨⟨⟨trivial, passed, trivial⟩, ⟨fun outstanding => absurd rfl outstanding, ?_⟩,
            ⟨fun _ => passed, fun _ => id⟩, rfl⟩, fun _ => passed⟩
          obtain ⟨earlier, suffix⟩ := hears.pending
          exact ⟨earlier, by rw [pending, ← List.append_assoc, suffix]; rfl⟩
      · exact ⟨⟨⟨trivial, trivial⟩, ⟨fun outstanding => absurd rfl outstanding, hears.pending⟩,
          .rfl _, rfl⟩, by simp⟩

theorem Hears.completeOut (generation : Nat) (error : Option GError) :
    HearsAfter reception (usb.call (.completeOut generation error)).2.1
      (usb.call (.completeOut generation error)).1 := by
  simp only [Stack.call]
  split
  · exact hears.unchanged
  · rename_i backend taken
    unfold Backend.takeOut at taken
    split at taken
    · cases taken
    · cases taken
      exact ⟨⟨trivial, trivial⟩, ⟨hears.receives, hears.pending⟩, .rfl _, rfl⟩

theorem Hears.submitOut (passed : reception.passed = true) (generation : Nat)
    (bytes : List UInt8) :
    HearsAfter reception (usb.call (.submitOut generation bytes)).2.1
      (usb.call (.submitOut generation bytes)).1 := by
  simp only [Stack.call, Backend.submitOut, Stack.settle]
  split
  · rename_i result
    split at result
    · cases result
    split at result
    · cases result
    · cases result
      exact ⟨⟨passed, trivial⟩, ⟨hears.receives, hears.pending⟩, .rfl _, rfl⟩
  · exact ⟨⟨trivial, trivial⟩, hears, .rfl _, rfl⟩

theorem Hears.setOutCompletedCallback (callback : Option Owner) :
    HearsAfter reception (usb.call (.setOutCompletedCallback callback)).2.1
      (usb.call (.setOutCompletedCallback callback)).1 :=
  ⟨trivial, ⟨hears.receives, hears.pending⟩, .rfl _, rfl⟩

theorem Hears.armReceive (passed : reception.passed = true) {generation : Nat}
    {after : Stack Owner} (armed : usb.armReceive generation = .ok after) :
    Hears reception after := by
  unfold Stack.armReceive at armed
  split at armed
  · cases armed
  split at armed
  · cases armed
  · rename_i router requested
    cases armed
    refine ⟨fun _ _ => passed, ?_⟩
    unfold Router.requestReceive at requested
    split at requested
    · cases requested
    split at requested
    · cases requested
    · cases requested
      exact hears.pending

theorem Hears.turn {work : Work} (parses : work = .parse → reception.passed = true) :
    HearsAfter reception (usb.turn work).2.1 (usb.turn work).1 := by
  cases work with
  | parse =>
    simp only [Stack.turn]
    split
    · exact hears.unchanged
    split
    · exact hears.unchanged
    · exact ⟨trivial, ⟨hears.receives, hears.pending⟩, .rfl _, rfl⟩
    · rename_i frameLength item
      exact ⟨⟨⟨parses rfl, (List.take_prefix ..).isInfix.trans hears.pending.isInfix⟩, trivial⟩,
        ⟨hears.receives, (List.drop_suffix ..).trans hears.pending⟩, .rfl _, rfl⟩
  | receiveCompleted purpose generation completion =>
    cases purpose with
    | none => exact hears.unchanged
    | protocolRx => exact ⟨⟨trivial, trivial⟩, hears, .rfl _, rfl⟩
    | preSessionSyncRx =>
      exact ⟨⟨trivial, trivial⟩, ⟨hears.receives, hears.pending⟩,
        ⟨id, fun _ => List.mem_append_left _⟩, rfl⟩
  | outCompleted generation error =>
    simp only [Stack.turn]
    split
    · exact hears.unchanged
    · exact ⟨⟨trivial, trivial⟩, hears, .rfl _, rfl⟩
  | notifyDrained =>
    simp only [Stack.turn]
    split
    · exact ⟨⟨trivial, trivial⟩, ⟨hears.receives, hears.pending⟩, .rfl _, rfl⟩
    · exact hears.unchanged

end

/-! ## What the context keeps -/

/-- The context has taken up an epoch that it has not closed. -/
def Context.isBusy (context : Context) : Bool :=
  context.productionActionConsumed && !context.verify.closed && !context.identify.closed

/-- The receiver and the context of a production device fit together. -/
structure Couples (reception : Reception) (context : Context) : Prop where
  present : context.hasComponent = true → reception.passed = true ∧ context.isBusy = true
  claimed : context.usbInterfaceClaimed = true → context.isBusy = true
  synchronised : context.sync.result ≠ .notStarted → context.productionActionConsumed = true
  hears : Hears reception context.usb
  counts : context.sync.result = .active → reception.IsOpen ∧
    reception.completions = context.sync.discardedCompletionCount ∧
    reception.bytes = context.sync.discardedByteCount ∧
    reception.startedUs = context.sync.startedUs
  noLogin : context.loginPreparing = false ∧ context.loginSeries = false ∧
    context.loginReusable = false

theorem couples_new (reception : Reception) (state : ContextState) :
    Couples reception (Context.new state) where
  present := nofun
  claimed := nofun
  synchronised := fun started => absurd rfl started
  hears := hears_new reception
  counts := nofun
  noLogin := ⟨rfl, rfl, rfl⟩

/-- What a piece takes for granted.  A login never begins, and an activation begins alone. -/
def Piece.Needs (reception : Reception) : Piece → Prop
  | .usb .parse | .startProtocol | .startSecureGraph | .secureSessionStarted | .armReceive =>
    reception.passed = true
  | .syncCompleted _ completion => completion ∈ reception.heard
  | .nextLogin | .activate => False
  | _ => True

def Piece.isFree : Piece → Bool
  | .usb .parse | .startProtocol | .startSecureGraph | .secureSessionStarted | .armReceive
  | .syncCompleted .. | .nextLogin | .activate => false
  | _ => true

theorem Piece.needs_of_isFree {piece : Piece} (free : piece.isFree = true) (reception : Reception) :
    piece.Needs reception := by
  cases piece with
  | usb work => cases work <;> trivial
  | _ => trivial

theorem Piece.Needs.carry {piece : Piece} {reception later : Reception}
    (needs : piece.Needs reception) (grows : reception.Grows later) : piece.Needs later := by
  cases piece with
  | usb work =>
    cases work with
    | parse => exact grows.passed needs
    | _ => trivial
  | syncCompleted generation completion => exact grows.heard completion needs
  | startProtocol | startSecureGraph | secureSessionStarted | armReceive =>
    exact grows.passed needs
  | nextLogin | activate => exact needs
  | _ => trivial

/-- Entries that say nothing about the receiver. -/
def Noted.isQuiet : Noted → Bool
  | .usb (.begun _) | .usb (.routed _) | .usb (.submittedOut ..)
  | .usb (.submittedIn _ .protocolRx) | .usb (.frame ..) | .usb (.syncCompleted ..)
  | .syncStarted _ | .syncDiscarded .. | .syncPassed .. | .syncFailed => false
  | _ => true

theorem Noted.ignores_of_isQuiet {entry : Noted} (quiet : entry.isQuiet = true) :
    receiver.Ignores entry := by
  intro reception
  cases entry with
  | usb noted =>
    cases noted with
    | submittedIn generation purpose =>
      cases purpose <;> first | exact ⟨trivial, rfl⟩ | cases quiet
    | _ => first | exact ⟨trivial, rfl⟩ | cases quiet
  | _ => first | exact ⟨trivial, rfl⟩ | cases quiet

/-- What a step leaves is lawful and fits together. -/
structure Leads (reception : Reception) (outcome : Outcome) : Prop where
  admits : receiver.Admits reception outcome.2.1
  couples : ∀ context, outcome.1.context = some context →
    Couples (outcome.2.1.foldl Reception.note reception) context
  needs : ∀ piece ∈ outcome.2.2, piece.Needs (outcome.2.1.foldl Reception.note reception)
  production : outcome.1.production = true

/-- A step within a generation. -/
structure Keeps (reception : Reception) (outcome : Outcome) : Prop
    extends Leads reception outcome where
  grows : reception.Grows (outcome.2.1.foldl Reception.note reception)

theorem quiet_foldl {noted : List Noted} (quiet : noted.all Noted.isQuiet = true)
    (reception : Reception) :
    receiver.Admits reception noted ∧ noted.foldl Reception.note reception = reception :=
  Monitor.admits_of_ignores fun entry inside =>
    Noted.ignores_of_isQuiet (List.all_eq_true.mp quiet entry inside)

section

variable {reception : Reception} {device : Device} {context : Context}

/-- A step that says nothing about the receiver. -/
theorem Keeps.quiet {outcome : Outcome} (production : outcome.1.production = true)
    (couples : ∀ context, outcome.1.context = some context → Couples reception context)
    (quiet : outcome.2.1.all Noted.isQuiet = true)
    (needs : ∀ piece ∈ outcome.2.2, piece.Needs reception) : Keeps reception outcome := by
  obtain ⟨admits, same⟩ := quiet_foldl quiet reception
  exact ⟨⟨admits, by rwa [same], by rwa [same], production⟩, by rw [same]; exact .rfl _⟩

theorem needs_of_all {pieces : List Piece} (free : pieces.all Piece.isFree = true) :
    ∀ piece ∈ pieces, piece.Needs reception :=
  fun piece inside => Piece.needs_of_isFree (List.all_eq_true.mp free piece inside) reception

/-- A step that changes the context and says nothing about the receiver. -/
theorem Keeps.put {changed : Context} {noted : List Noted} {pieces : List Piece}
    (production : device.production = true) (couples : Couples reception changed)
    (quiet : noted.all Noted.isQuiet = true) (free : pieces.all Piece.isFree = true) :
    Keeps reception (device.put changed, noted, pieces) :=
  .quiet production (fun _ same => by cases same; exact couples) quiet (needs_of_all free)

/-- A step that leaves the context as it is. -/
theorem Keeps.still {noted : List Noted} {pieces : List Piece}
    (production : device.production = true)
    (couples : ∀ context, device.context = some context → Couples reception context)
    (quiet : noted.all Noted.isQuiet = true) (free : pieces.all Piece.isFree = true) :
    Keeps reception (device, noted, pieces) :=
  .quiet production couples quiet (needs_of_all free)

theorem Keeps.withContext {function : Context → Outcome} (production : device.production = true)
    (couples : ∀ context, device.context = some context → Couples reception context)
    (kept : ∀ context, device.context = some context → Couples reception context →
      Keeps reception (function context)) : Keeps reception (device.withContext function) := by
  unfold Device.withContext
  split
  · exact .still production couples rfl rfl
  · rename_i context present
    exact kept context present (couples context present)

/-! ## The backend -/

/-- The backend has done something, and the rest of the context is as it was. -/
theorem Couples.after {noted : List (Usb.Noted Owner)} {usb : Stack Owner}
    (couples : Couples reception context) (after : HearsAfter reception noted usb) :
    Couples ((noted.map Noted.usb).foldl Reception.note reception) { context with usb } where
  present := fun present =>
    ⟨after.grows.passed (couples.present present).1, (couples.present present).2⟩
  claimed := couples.claimed
  synchronised := couples.synchronised
  hears := after.hears
  counts := by
    rw [after.same]
    exact couples.counts
  noLogin := couples.noLogin

theorem Keeps.backend {noted : List (Usb.Noted Owner)} {usb : Stack Owner} {pieces : List Piece}
    (production : device.production = true) (couples : Couples reception context)
    (after : HearsAfter reception noted usb)
    (needs : ∀ piece ∈ pieces, piece.Needs ((noted.map Noted.usb).foldl Reception.note reception)) :
    Keeps reception (device.put { context with usb }, noted.map .usb, pieces) where
  admits := after.admits
  couples := fun _ same => by
    cases same
    exact couples.after after
  needs := needs
  production := production
  grows := after.grows

/-- Whom a turn of the backend calls, and what it leaves. -/
theorem needs_of_turn (usb : Stack Owner) {work : Work}
    (parses : work = .parse → reception.passed = true) :
    ∀ piece ∈ (usb.turn work).2.1.flatMap Device.callbackOf ++
        ((usb.turn work).2.2.getD []).map .usb,
      piece.Needs (((usb.turn work).2.1.map Noted.usb).foldl Reception.note reception) := by
  cases work with
  | parse =>
    simp only [Stack.turn]
    split
    · exact needs_of_all rfl
    split
    · exact needs_of_all rfl
    · exact needs_of_all rfl
    · intro piece inside
      rcases List.mem_pair.mp inside with rfl | rfl
      · trivial
      · exact parses rfl
  | receiveCompleted purpose generation completion =>
    cases purpose with
    | none => exact needs_of_all rfl
    | protocolRx => exact needs_of_all rfl
    | preSessionSyncRx =>
      intro piece inside
      cases List.mem_singleton.mp inside
      exact List.mem_append_right _ (List.mem_singleton.mpr rfl)
  | outCompleted generation error =>
    simp only [Stack.turn]
    split <;> exact needs_of_all rfl
  | notifyDrained =>
    simp only [Stack.turn]
    split <;> exact needs_of_all rfl

theorem Keeps.turnUsb (production : device.production = true) (couples : Couples reception context)
    {work : Work} (parses : work = .parse → reception.passed = true) :
    Keeps reception (device.turnUsb context work) :=
  .backend production couples (couples.hears.turn parses) (needs_of_turn context.usb parses)

theorem Keeps.callUsb {call : Usb.Call Owner} (production : device.production = true)
    (couples : Couples reception context)
    (after : HearsAfter reception (context.usb.call call).2.1 (context.usb.call call).1)
    (parses : Work.parse ∈ (context.usb.call call).2.2 → reception.passed = true) :
    Keeps reception (device.callUsb context call) := by
  refine .backend production couples after fun piece inside => ?_
  obtain ⟨work, found, rfl⟩ := List.mem_map.mp inside
  cases work with
  | parse => exact after.grows.passed (parses found)
  | _ => trivial

theorem Keeps.armReceive {refused : GError → List Piece} {armed : List Piece}
    (production : device.production = true)
    (couples : ∀ context, device.context = some context → Couples reception context)
    (present : device.context = some context) (passed : reception.passed = true)
    (freeRefused : ∀ error, (refused error).all Piece.isFree = true)
    (freeArmed : armed.all Piece.isFree = true) :
    Keeps reception (device.armReceive context refused armed) := by
  unfold Device.armReceive
  split
  · exact .still production couples rfl (freeRefused _)
  · rename_i usb arms
    have kept := couples context present
    have armed : Couples reception { context with usb } :=
      { kept with hears := kept.hears.armReceive passed arms }
    -- the receive is submitted, which leaves the receiver as it is
    exact ⟨⟨⟨passed, trivial⟩, fun _ same => by cases same; exact armed, needs_of_all freeArmed,
      production⟩, .rfl _⟩

/-- A step with something quiet in front. -/
theorem Keeps.behind {outcome : Outcome} (kept : Keeps reception outcome) {noted : List Noted}
    (quiet : noted.all Noted.isQuiet = true) : Keeps reception (outcome.behind noted) := by
  obtain ⟨admits, same⟩ := quiet_foldl quiet reception
  have after : (outcome.behind noted).2.1.foldl Reception.note reception =
      outcome.2.1.foldl Reception.note reception := by
    simp [Outcome.behind, List.foldl_append, same]
  refine ⟨⟨Monitor.admits_append.mpr ⟨admits, ?_⟩, ?_, ?_, kept.production⟩, ?_⟩
  · rw [show noted.foldl receiver.note reception = reception from same]
    exact kept.admits
  · rw [after]
    exact kept.couples
  · rw [after]
    exact kept.needs
  · rw [after]
    exact kept.grows

/-- A step with free pieces behind it. -/
theorem Keeps.andThen {outcome : Outcome} (kept : Keeps reception outcome) {pieces : List Piece}
    (free : pieces.all Piece.isFree = true) : Keeps reception (outcome.andThen pieces) := by
  refine ⟨⟨kept.admits, kept.couples, fun piece inside => ?_, kept.production⟩, kept.grows⟩
  rcases List.mem_append.mp inside with left | right
  · exact kept.needs piece left
  · exact needs_of_all free piece right

/-- The device has no other context than the one it is given. -/
theorem Couples.put (couples : Couples reception context) (device : Device) :
    ∀ other, (device.put context).context = some other → Couples reception other := fun _ same => by
  cases same
  exact couples

/-! ## The framework -/

theorem enrollmentProcessed_free (device : Device) (error : Option GError) (complete : Bool) :
    (device.enrollmentProcessed error complete).all Piece.isFree = true := by
  unfold Device.enrollmentProcessed
  split
  · rfl
  split
  · split <;> rfl
  · rfl

/-- The framework changes, and nothing else. -/
theorem Keeps.framework {framework : Framework} {noted : List Noted} {pieces : List Piece}
    (production : device.production = true)
    (couples : ∀ context, device.context = some context → Couples reception context)
    (quiet : noted.all Noted.isQuiet = true) (free : pieces.all Piece.isFree = true) :
    Keeps reception (device.withFramework framework, noted, pieces) :=
  .quiet production couples quiet (needs_of_all free)

section

variable (production : device.production = true)
  (couples : ∀ context, device.context = some context → Couples reception context)

include production couples

theorem Keeps.changeState (state : ImageState) : Keeps reception (device.changeState state) := by
  unfold Device.changeState
  refine .withContext production couples fun context _ kept => ?_
  dsimp only
  split
  · exact .put production { kept with } rfl rfl
  · exact .put production { kept with } rfl rfl

theorem Keeps.frameworkDeactivate (cancelling : Bool) :
    Keeps reception (device.frameworkDeactivate cancelling) := by
  unfold Device.frameworkDeactivate
  dsimp only
  split <;> exact .framework production couples rfl rfl

theorem Keeps.maybeCompleteAction (error : Option GError) :
    Keeps reception (device.maybeCompleteAction error) := by
  unfold Device.maybeCompleteAction
  dsimp only
  split
  · exact .framework production couples rfl rfl
  split
  · refine .framework production couples rfl ?_
    repeat' split
    all_goals rfl
  · exact .framework production couples rfl rfl

theorem Keeps.enrollMaybeAwaitFingerOn :
    Keeps reception device.enrollMaybeAwaitFingerOn := by
  unfold Device.enrollMaybeAwaitFingerOn
  dsimp only
  split
  · exact .still production couples rfl rfl
  split <;> exact .still production couples rfl rfl

theorem Keeps.reportFingerStatus (finger : Bool) :
    Keeps reception (device.reportFingerStatus finger) := by
  unfold Device.reportFingerStatus
  dsimp only
  split
  · exact .still production couples rfl rfl
  split
  · exact .still production couples rfl rfl
  split
  · exact .framework production couples rfl rfl
  split
  · refine .framework production couples rfl ?_
    split <;> rfl
  · exact .framework production couples rfl rfl

theorem Keeps.emitFingerStatus (context : Context) (finger : Bool) :
    Keeps reception (device.emitFingerStatus context finger) := by
  unfold Device.emitFingerStatus
  split
  · exact .still production couples rfl rfl
  · exact .reportFingerStatus production couples finger

theorem Keeps.imageCaptured : Keeps reception device.imageCaptured := by
  unfold Device.imageCaptured
  dsimp only
  split
  · exact .still production couples rfl rfl
  · exact .framework production couples rfl rfl

theorem Keeps.minutiaeDetected (scan : Scan) : Keeps reception (device.minutiaeDetected scan) := by
  unfold Device.minutiaeDetected
  dsimp only
  split
  · exact .framework production couples rfl rfl
  split
  · exact .framework production couples rfl rfl
  split
  · refine .framework production couples rfl ?_
    split <;> rfl
  split
  · exact .framework production couples rfl (enrollmentProcessed_free ..)
  · refine .framework production couples rfl ?_
    split <;> rfl

theorem Keeps.rawImageCaptured (scan : Scan) : Keeps reception (device.rawImageCaptured scan) := by
  unfold Device.rawImageCaptured
  dsimp only
  split
  · exact .still production couples rfl rfl
  generalize scan.fatal.or
    (if device.framework.cancelled = true then some cancelledError else none) = error
  split
  · exact .still production couples rfl rfl
  split
  · refine .still production couples rfl ?_
    split
    · rfl
    split
    · split <;> rfl
    · rfl
  split
  · refine .still production couples rfl ?_
    split <;> rfl
  · exact .still production couples rfl rfl

theorem Keeps.retryScan : Keeps reception device.retryScan := by
  unfold Device.retryScan
  split <;> exact .still production couples rfl rfl

omit couples in
theorem Keeps.holdEnrollCompletion (kept : Couples reception context) :
    Keeps reception (device.holdEnrollCompletion context) := by
  unfold Device.holdEnrollCompletion
  dsimp only
  split
  · exact .put production { kept with } rfl rfl
  · exact .quiet production (fun _ same => by cases same; exact { kept with }) rfl
      (needs_of_all rfl)

theorem Keeps.releaseEnrollCompletion (kept : Couples reception context) :
    Keeps reception (device.releaseEnrollCompletion context) := by
  unfold Device.releaseEnrollCompletion
  dsimp only
  split
  · exact .still production couples rfl rfl
  split
  · exact .put production { kept with } rfl rfl
  · refine .quiet production (fun _ same => by cases same; exact { kept with }) rfl
      (needs_of_all ?_)
    split <;> rfl

theorem Keeps.activateComplete (error : Option GError) :
    Keeps reception (device.activateComplete error) := by
  unfold Device.activateComplete
  dsimp only
  split
  · exact .still production couples rfl rfl
  split
  · exact .framework production couples rfl rfl
  · exact .framework production couples rfl rfl

omit couples in
theorem Couples.activateComplete (couples : Couples reception context) {error : Option GError} :
    Keeps reception ((device.put context).activateComplete error) :=
  @Keeps.activateComplete _ (device.put context) production (couples.put device) error

theorem Keeps.deactivateComplete (error : Option GError) :
    Keeps reception (device.deactivateComplete error) := by
  unfold Device.deactivateComplete
  dsimp only
  split
  · exact .still production couples rfl rfl
  · exact .framework production couples rfl rfl

omit couples in
theorem Couples.deactivateComplete (couples : Couples reception context) {error : Option GError} :
    Keeps reception ((device.put context).deactivateComplete error) :=
  @Keeps.deactivateComplete _ (device.put context) production (couples.put device) error

theorem Keeps.sessionError (error : GError) : Keeps reception (device.sessionError error) := by
  unfold Device.sessionError
  dsimp only
  split
  · split
    · exact (Keeps.activateComplete production couples _).behind rfl
    · exact .still production couples rfl rfl
  split
  · exact .still production couples rfl rfl
  split <;> exact .still production couples rfl rfl

omit couples in
theorem Couples.sessionError (couples : Couples reception context) {error : GError} :
    Keeps reception ((device.put context).sessionError error) :=
  @Keeps.sessionError _ (device.put context) production (couples.put device) error

theorem Keeps.openComplete (error : Option GError) :
    Keeps reception (device.openComplete error) := by
  unfold Device.openComplete
  dsimp only
  split
  · exact .still production couples rfl rfl
  · exact .framework production couples rfl rfl

omit couples in
theorem Couples.openComplete (couples : Couples reception context) {error : Option GError} :
    Keeps reception ((device.put context).openComplete error) :=
  @Keeps.openComplete _ (device.put context) production (couples.put device) error

theorem Keeps.closeComplete (error : Option GError) :
    Keeps reception (device.closeComplete error) := by
  unfold Device.closeComplete
  dsimp only
  split
  · exact .still production couples rfl rfl
  · exact .framework production couples rfl rfl

end

end

end Goodix.DeviceContext
