import Goodix.Bb010002
import Goodix.Config90
import Goodix.SelfState.Record

/-! # Live evidence

What one read-only discovery of the reader records, and `evidence_valid` of
`goodix_pairing_activation.c`, the check that pairing and acquisition make on it.
-/

namespace Goodix.LivePreflight

open Octets SelfState

/-- `GoodixLivePreflightEvidence` -/
structure Evidence where
  chipId : UInt16
  a2Response : Block 3
  chipResponse : Block 4
  otp : Config90.Otp
  bb010002 : Block Bb010002.length
  validator : Validator
  config90 : Config90.Config
  calibration : Config90.Calibration
  identity : Block 32
  identityLength : Nat
  app : CString
  deriving DecidableEq

/-- The record before anything has been read. -/
def Evidence.empty : Evidence :=
  { chipId := 0
    a2Response := Block.zero 3
    chipResponse := Block.zero 4
    otp := Block.zero 64
    bb010002 := Block.zero Bb010002.length
    validator := Block.zero 32
    config90 := Block.zero 224
    calibration := .zero
    identity := Block.zero 32
    identityLength := 0
    app := ⟨[], by simp⟩ }

/-- `GF_ST411SEC_APP_12509` with its terminator. -/
def app12509Identity : List UInt8 :=
  [71, 70, 95, 83, 84, 52, 49, 49, 83, 69, 67, 95, 65, 80, 80, 95, 49, 50, 53, 48, 57, 0]

/-- `GF_ST411SEC_APP_12508` with its terminator. -/
def app12508Identity : List UInt8 :=
  [71, 70, 95, 83, 84, 52, 49, 49, 83, 69, 67, 95, 65, 80, 80, 95, 49, 50, 53, 48, 56, 0]

theorem app12509Identity_fits : app12509Identity.length ≤ 32 := by decide

/-- `APP12509` -/
def app12509 : CString := ⟨[65, 80, 80, 49, 50, 53, 48, 57], by decide⟩

/-- `APP12508` -/
def app12508 : CString := ⟨[65, 80, 80, 49, 50, 53, 48, 56], by decide⟩

/-- `memcpy` to the start of the identity buffer. -/
def Evidence.withIdentity (evidence : Evidence) (identity : List UInt8) (fits : identity.length ≤ 32)
    (app : CString) : Evidence :=
  { evidence with
    identity := ⟨identity ++ evidence.identity.val.drop identity.length, by simp; omega⟩
    identityLength := identity.length
    app }

/-- `evidence_identity_valid` -/
def evidenceIdentityValid (evidence : Evidence) : Bool :=
  if evidence.identityLength = 0 || evidence.identityLength > 32 then false
  else if evidence.app = app12509 then
    evidence.identityLength = app12509Identity.length &&
      evidence.identity.val.take app12509Identity.length = app12509Identity
  else if evidence.app = app12508 then
    evidence.identityLength = app12508Identity.length &&
      evidence.identity.val.take app12508Identity.length = app12508Identity
  else false

/-- `evidence_valid` -/
def evidenceValid (evidence : Evidence) : Bool :=
  Config90.chipSupported evidence.chipId && evidenceIdentityValid evidence

end Goodix.LivePreflight
