import Goodix.Primitives
import Goodix.Library.Streams

/-! # The receive router

`goodix_usb_router.c`: the one place where the octets of the IN endpoint are put
together to A0 and B0 frames.  A frame has a four-octet outer header: its type, the
payload length in little-endian order, and an octet that is opaque here.

The router's loop calls consumers, and a consumer may call the router again.  The loop
is therefore written over any host that contains a router: what a consumer does is what
it makes of the host.
-/

namespace Goodix.Usb

open Streams

def maxPayload : Nat := 32768

/-- `G_MAXUINT` -/
def maxUint : Nat := 4294967295

def routerError (code : Nat) (message : String) : GError :=
  ⟨"goodix-usb-router-error", code, message⟩

def errorMalformed : Nat := 0
def errorTruncated : Nat := 1
def errorState : Nat := 2
def errorTransport : Nat := 3

structure Router where
  pending : List UInt8
  generation : Nat
  outstandingGeneration : Nat
  outstanding : Nat
  terminalFence : Bool
  terminalError : Option GError
  deriving DecidableEq

/-- How a physical receive ended. -/
structure Completion where
  octets : List UInt8
  error : Option GError
  deriving DecidableEq

namespace Router

/-- `goodix_usb_router_new` -/
def new : Router where
  pending := []
  generation := 0
  outstandingGeneration := 0
  outstanding := 0
  terminalFence := false
  terminalError := none

/-- `router_fail`: the first error stays. -/
def fail (router : Router) (code : Nat) (message : String) : Router :=
  { router with
    terminalError := router.terminalError.or (some (routerError code message))
    terminalFence := true
    outstanding := 0 }

/-- `goodix_usb_router_begin_generation` -/
def beginGeneration (router : Router) (generation : Nat) : Router :=
  if generation = 0 then router
  else
    { router with
      generation
      terminalFence := false
      outstanding := 0
      outstandingGeneration := 0
      pending := []
      terminalError := none }

/-- `goodix_usb_router_request_receive` -/
def requestReceive (router : Router) : Except GError Router :=
  if router.terminalFence ∨ router.generation = 0 then
    .error (routerError errorState "receive submission after terminal fence")
  else if router.outstanding ≠ 0 then
    .error (routerError errorState "second physical receive is forbidden")
  else
    .ok { router with outstanding := 1, outstandingGeneration := router.generation }

/-- `goodix_usb_router_cancel` -/
def cancel (router : Router) : Router :=
  { router with
    terminalFence := true
    outstanding := 0
    outstandingGeneration := 0
    pending := [] }

/-- `goodix_usb_router_finalize`: the router it leaves and the error it reports. -/
def finalize (router : Router) : Router × Option GError :=
  let ended :=
    if router.terminalFence = false ∧ router.pending ≠ [] then
      router.fail errorTruncated "stream ended with a truncated frame"
    else router
  (ended, ended.terminalError)

/-- The checks of one turn of `parse_pending`, on the octets that are held back. -/
def front (pending : List UInt8) : Front (Nat × String) :=
  let octet (index : Nat) := pending.getD index 0
  let payloadLength := (octet 1).toNat ||| ((octet 2).toNat <<< 8)
  if pending.length < 4 then .short
  else if octet 0 ≠ 0xa0 ∧ octet 0 ≠ 0xb0 then
    .malformed (errorMalformed, "outer type is neither A0 nor B0")
  else if payloadLength = 0 ∨ payloadLength > maxPayload then
    .malformed (errorMalformed, "outer payload length is invalid")
  else if pending.length < payloadLength + 4 then .short
  else .item (payloadLength + 4)

/-- What `receive_complete` checks before it takes the receive token. -/
def awaits (router : Router) (generation : Nat) : Bool :=
  generation = router.generation ∧ generation = router.outstandingGeneration ∧
    router.terminalFence = false ∧ router.outstanding = 1

end Router

/-! ## The host of a router -/

/-- A state with a router in it, and what the consumers make of that state. -/
structure Host (σ : Type*) where
  router : σ → Router
  update : (Router → Router) → σ → σ
  /-- What the consumers do with an outer type and a frame. -/
  a0Consumer : UInt8 → List UInt8 → σ → σ
  b0Consumer : UInt8 → List UInt8 → σ → σ

namespace Host

variable {σ : Type*} (host : Host σ)

/-- `parse_pending`.  Every turn takes octets away; `turns` bounds their number. -/
def parsePending : Nat → σ → σ
  | 0, state => state
  | turns + 1, state =>
    let pending := (host.router state).pending
    match Router.front pending with
    | .short => state
    | .malformed (code, message) => host.update (fun router => router.fail code message) state
    | .item frameLength =>
      let taken := host.update (fun router => { router with pending := pending.drop frameLength })
        state
      let outerType := pending.getD 0 0
      let consumer := if outerType = 0xa0 then host.a0Consumer else host.b0Consumer
      let delivered := consumer outerType (pending.take frameLength) taken
      -- a consumer may have cancelled the generation
      if (host.router delivered).terminalFence then delivered
      else parsePending turns delivered

/-- `goodix_usb_router_receive_complete` -/
def receiveComplete (generation : Nat) (completion : Completion) (state : σ) : σ :=
  if (host.router state).awaits generation then
    let taken := host.update
      (fun router => { router with outstanding := 0, outstandingGeneration := 0 }) state
    match completion.error with
    | some error => host.update (fun router => router.fail errorTransport error.message) taken
    | none =>
      if completion.octets.length > maxUint then
        host.update (fun router =>
          router.fail errorMalformed "receive completion exceeds host buffer bound") taken
      else
        let appended := host.update
          (fun router => { router with pending := router.pending ++ completion.octets }) taken
        host.parsePending (host.router appended).pending.length appended
  else state

end Host

end Goodix.Usb
