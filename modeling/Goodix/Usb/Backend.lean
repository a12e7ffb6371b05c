import Goodix.Library.Callbacks
import Goodix.Usb.Router

/-! # The USB backend

`goodix_fpi_usb_backend.c`: one physical receive and one physical OUT at a time, each of
the generation it was submitted in.  The terminal fence ends a generation; when nothing
is outstanding any more the drained callback tells so, once.

The OUT callback is set and cleared by the components that take turns owning the
backend; `κ` names them.  The other callbacks are set once.  Transfers are submitted to
libusb and complete later, from the main loop.
-/

namespace Goodix.Usb

open Streams

inductive ReceivePurpose where
  | none
  | protocolRx
  | preSessionSyncRx
  deriving DecidableEq, Repr

/-- The components of the driver that own the OUT callback, one after the other. -/
inductive Owner where
  | livePreflight
  | pairingActivation
  | secureSession
  | postTlsLifecycle
  | enrollmentBinding
  deriving DecidableEq, Repr

structure Backend (κ : Type) where
  generation : Nat
  inGeneration : Nat
  outGeneration : Nat
  inPurpose : ReceivePurpose
  inTimeoutMs : Nat
  inOutstanding : Nat
  outOutstanding : Nat
  terminalFence : Bool
  drainNotified : Bool
  preSessionSyncActive : Bool
  outCompletedCallback : Option κ
  deriving DecidableEq

def backendError (code : Nat) (message : String) : GError :=
  ⟨"goodix-fpi-usb-backend-error", code, message⟩

namespace Backend

variable {κ : Type}

/-- `goodix_fpi_usb_backend_new` -/
def new : Backend κ where
  generation := 0
  inGeneration := 0
  outGeneration := 0
  inPurpose := .none
  inTimeoutMs := 0
  inOutstanding := 0
  outOutstanding := 0
  terminalFence := false
  drainNotified := false
  preSessionSyncActive := false
  outCompletedCallback := none

/-- `backend_is_drained` -/
def isDrained (backend : Backend κ) : Bool :=
  backend.inOutstanding = 0 ∧ backend.outOutstanding = 0

/-- `goodix_fpi_usb_backend_begin_generation` -/
def beginGeneration (backend : Backend κ) (generation : Nat) : Except GError (Backend κ) :=
  if generation = 0 ∨ backend.isDrained = false then
    .error (backendError 3 "cannot begin generation before backend drain")
  else
    .ok { backend with generation, terminalFence := false, drainNotified := false }

/-- The backend's own checks in `goodix_fpi_usb_backend_arm_receive`. -/
def refusesReceive (backend : Backend κ) (generation : Nat) : Bool :=
  backend.terminalFence ∨ backend.preSessionSyncActive ∨ generation ≠ backend.generation ∨
    backend.inOutstanding ≠ 0

/-- A receive that is submitted, `goodix_fpi_usb_backend_arm_receive` and its sibling for the
synchronisation. -/
def submitReceive (backend : Backend κ) (generation : Nat) (purpose : ReceivePurpose)
    (timeoutMs : Nat) : Backend κ :=
  { backend with
    inOutstanding := 1
    inGeneration := generation
    inPurpose := purpose
    inTimeoutMs := timeoutMs }

/-- `goodix_fpi_usb_backend_begin_pre_session_sync` -/
def beginPreSessionSync (backend : Backend κ) (generation : Nat) : Except GError (Backend κ) :=
  if backend.terminalFence ∨ generation ≠ backend.generation ∨ backend.isDrained = false ∨
      backend.preSessionSyncActive then
    .error (backendError 4 "pre-session RX sync cannot begin")
  else .ok { backend with preSessionSyncActive := true }

/-- `goodix_fpi_usb_backend_arm_pre_session_sync_receive` -/
def armPreSessionSyncReceive (backend : Backend κ) (generation timeoutMs : Nat) :
    Except GError (Backend κ) :=
  if backend.terminalFence ∨ backend.preSessionSyncActive = false ∨ timeoutMs = 0 ∨
      generation ≠ backend.generation ∨ backend.inOutstanding ≠ 0 ∨
      backend.outOutstanding ≠ 0 then
    .error (backendError 5 "sync receive stale, fenced, or already pending")
  else .ok (backend.submitReceive generation .preSessionSyncRx timeoutMs)

/-- `goodix_fpi_usb_backend_end_pre_session_sync` -/
def endPreSessionSync (backend : Backend κ) (generation : Nat) : Except GError (Backend κ) :=
  if backend.preSessionSyncActive = false ∨ generation ≠ backend.generation ∨
      backend.isDrained = false then
    .error (backendError 6 "pre-session RX sync cannot end before drain")
  else
    .ok { backend with
      preSessionSyncActive := false
      inPurpose := .none
      inTimeoutMs := 0 }

/-- `goodix_fpi_usb_backend_submit_out` -/
def submitOut (backend : Backend κ) (generation : Nat) : Except GError (Backend κ) :=
  if backend.terminalFence ∨ backend.preSessionSyncActive ∨
      generation ≠ backend.generation then
    .error (backendError 2 "OUT stale or fenced")
  else if backend.outOutstanding ≠ 0 then
    .error (backendError 2 "a physical OUT is already pending")
  else .ok { backend with outOutstanding := 1, outGeneration := generation }

/-- The start of `goodix_fpi_usb_backend_complete_receive`: the receive is taken back, and its
purpose with it. -/
def takeReceive (backend : Backend κ) (submitGeneration : Nat) :
    Option (Backend κ × ReceivePurpose) :=
  if backend.inOutstanding = 0 ∨ submitGeneration ≠ backend.inGeneration then none
  else
    some ({ backend with
      inOutstanding := 0
      inGeneration := 0
      inPurpose := .none
      inTimeoutMs := 0 }, backend.inPurpose)

/-- Whether `goodix_fpi_usb_backend_complete_receive` gives the octets to the router. -/
def routes (backend : Backend κ) (submitGeneration : Nat) (purpose : ReceivePurpose) : Bool :=
  backend.terminalFence = false ∧ submitGeneration = backend.generation ∧
    purpose = .protocolRx

/-- The start of `goodix_fpi_usb_backend_complete_out`. -/
def takeOut (backend : Backend κ) (submitGeneration : Nat) : Option (Backend κ) :=
  if backend.outOutstanding = 0 ∨ submitGeneration ≠ backend.outGeneration then none
  else some { backend with outOutstanding := 0, outGeneration := 0 }

/-- What `goodix_fpi_usb_backend_cancel` does to a backend that is not fenced. -/
def fence (backend : Backend κ) : Backend κ :=
  { backend with terminalFence := true, drainNotified := false }

/-- The check of `maybe_notify_drained`. -/
def mustNotifyDrained (backend : Backend κ) : Bool :=
  backend.terminalFence ∧ backend.isDrained ∧ backend.drainNotified = false

/-- `goodix_fpi_usb_backend_reset_epoch_audit` -/
def resetEpochAudit (backend : Backend κ) : Except GError (Backend κ) :=
  if backend.terminalFence = false ∨ backend.isDrained = false ∨
      backend.preSessionSyncActive then
    .error (backendError 7 "cannot reset USB audit before terminal drain")
  else
    .ok { backend with
      generation := 0
      inGeneration := 0
      outGeneration := 0
      inPurpose := .none
      inTimeoutMs := 0
      drainNotified := false }

end Backend

/-! ## The backend and its router -/

structure Stack (κ : Type) where
  backend : Backend κ
  router : Router
  deriving DecidableEq

/-- What the backend does that its users or the bus can see. -/
inductive Noted (κ : Type) where
  | begun (generation : Nat)
  | submittedIn (generation : Nat) (purpose : ReceivePurpose)
  | submittedOut (generation : Nat) (bytes : List UInt8)
  | refused (error : GError)
  | acceptedIn (generation : Nat)
  /-- Octets go to the router. -/
  | routed (octets : List UInt8)
  | acceptedOut (generation : Nat)
  /-- A consumer is called with a frame. -/
  | frame (outerType : UInt8) (frame : List UInt8)
  | syncCompleted (generation : Nat) (completion : Completion)
  | inCompleted (generation : Nat) (error : Option GError)
  /-- The OUT callback of `owner` is called. -/
  | outCompleted (owner : κ) (generation : Nat) (error : Option GError)
  | fenced
  | drained
  deriving DecidableEq

/-- The calls of the backend's users, its completions among them, and those of the router that
its users make themselves. -/
inductive Call (κ : Type) where
  | beginGeneration (generation : Nat)
  | beginRouterGeneration (generation : Nat)
  | armReceive (generation : Nat)
  | beginPreSessionSync (generation : Nat)
  | armPreSessionSyncReceive (generation timeoutMs : Nat)
  | endPreSessionSync (generation : Nat)
  | submitOut (generation : Nat) (bytes : List UInt8)
  | completeReceive (submitGeneration : Nat) (completion : Completion)
  | completeOut (submitGeneration : Nat) (error : Option GError)
  | cancel
  | setOutCompletedCallback (callback : Option κ)

/-- The pieces of a call, each up to a callback. -/
inductive Work where
  | parse
  | receiveCompleted (purpose : ReceivePurpose) (generation : Nat) (completion : Completion)
  | outCompleted (generation : Nat) (error : Option GError)
  | notifyDrained

namespace Stack

variable {κ : Type}

def new : Stack κ := ⟨Backend.new, Router.new⟩

/-- `goodix_fpi_usb_backend_arm_receive` -/
def armReceive (usb : Stack κ) (generation : Nat) : Except GError (Stack κ) :=
  if usb.backend.refusesReceive generation then
    .error (backendError 1 "receive stale, fenced, or already pending")
  else
    match usb.router.requestReceive with
    | .error error => .error error
    | .ok router =>
      .ok { backend := usb.backend.submitReceive generation .protocolRx 0, router }

/-- `goodix_usb_router_receive_complete` up to its loop; `true` when the loop is reached. -/
def routeReceive (router : Router) (generation : Nat) (completion : Completion) :
    Router × Bool :=
  if router.awaits generation then
    let taken := { router with outstanding := 0, outstandingGeneration := 0 }
    match completion.error with
    | some error => (taken.fail errorTransport error.message, false)
    | none =>
      if completion.octets.length > maxUint then
        (taken.fail errorMalformed "receive completion exceeds host buffer bound", false)
      else ({ taken with pending := taken.pending ++ completion.octets }, true)
  else (router, false)

/-- The result of a call that either succeeds, with something to note, or is refused. -/
def settle (usb : Stack κ) (result : Except GError (Stack κ)) (noted : List (Noted κ)) :
    Stack κ × List (Noted κ) × List Work :=
  match result with
  | .ok after => (after, noted, [])
  | .error error => (usb, [.refused error], [])

/-- A call up to its first callback. -/
def call (usb : Stack κ) : Call κ → Stack κ × List (Noted κ) × List Work
  | .beginGeneration generation =>
    usb.settle ((usb.backend.beginGeneration generation).map fun backend => { usb with backend })
      [.begun generation]
  | .beginRouterGeneration generation =>
    ({ usb with router := usb.router.beginGeneration generation }, [], [])
  | .armReceive generation =>
    usb.settle (usb.armReceive generation) [.submittedIn generation .protocolRx]
  | .beginPreSessionSync generation =>
    usb.settle
      ((usb.backend.beginPreSessionSync generation).map fun backend => { usb with backend }) []
  | .armPreSessionSyncReceive generation timeoutMs =>
    usb.settle ((usb.backend.armPreSessionSyncReceive generation timeoutMs).map
        fun backend => { usb with backend })
      [.submittedIn generation .preSessionSyncRx]
  | .endPreSessionSync generation =>
    usb.settle
      ((usb.backend.endPreSessionSync generation).map fun backend => { usb with backend }) []
  | .submitOut generation bytes =>
    usb.settle ((usb.backend.submitOut generation).map fun backend => { usb with backend })
      [.submittedOut generation bytes]
  | .completeReceive submitGeneration completion =>
    match usb.backend.takeReceive submitGeneration with
    | none => (usb, [], [])
    | some (backend, purpose) =>
      let completed := [.receiveCompleted purpose submitGeneration completion, .notifyDrained]
      if backend.routes submitGeneration purpose then
        match routeReceive usb.router submitGeneration completion with
        | (router, false) => ({ backend, router }, [.acceptedIn submitGeneration], completed)
        | (router, true) =>
          ({ backend, router }, [.acceptedIn submitGeneration, .routed completion.octets],
            .parse :: completed)
      else ({ usb with backend }, [.acceptedIn submitGeneration], completed)
  | .completeOut submitGeneration error =>
    match usb.backend.takeOut submitGeneration with
    | none => (usb, [], [])
    | some backend =>
      ({ usb with backend }, [.acceptedOut submitGeneration],
        [.outCompleted submitGeneration error, .notifyDrained])
  | .cancel =>
    if usb.backend.terminalFence then (usb, [], [])
    else
      ({ backend := usb.backend.fence, router := usb.router.cancel }, [.fenced],
        [.notifyDrained])
  | .setOutCompletedCallback callback =>
    ({ usb with backend := { usb.backend with outCompletedCallback := callback } }, [], [])

/-- One piece of work.  `parse` is one turn of `parse_pending`; a consumer may have fenced the
generation before it. -/
def turn (usb : Stack κ) : Work → Stack κ × List (Noted κ) × Option (List Work)
  | .parse =>
    let pending := usb.router.pending
    if usb.router.terminalFence then (usb, [], none)
    else
      match Router.front pending with
      | .short => (usb, [], none)
      | .malformed (code, message) =>
        ({ usb with router := usb.router.fail code message }, [], none)
      | .item frameLength =>
        ({ usb with router := { usb.router with pending := pending.drop frameLength } },
          [.frame (pending.getD 0 0) (pending.take frameLength)], some [.parse])
  | .receiveCompleted purpose generation completion =>
    match purpose with
    | .none => (usb, [], none)
    | .protocolRx => (usb, [.inCompleted generation completion.error], some [])
    | .preSessionSyncRx => (usb, [.syncCompleted generation completion], some [])
  | .outCompleted generation error =>
    match usb.backend.outCompletedCallback with
    | none => (usb, [], none)
    | some owner => (usb, [.outCompleted owner generation error], some [])
  | .notifyDrained =>
    if usb.backend.mustNotifyDrained then
      ({ usb with backend := { usb.backend with drainNotified := true } }, [.drained], some [])
    else (usb, [], none)

/-- The backend as its users meet it. -/
def program : Callbacks.Program (Stack κ) (Call κ) Work (Noted κ) := ⟨call, turn⟩

end Stack

end Goodix.Usb
