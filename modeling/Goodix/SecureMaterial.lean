import Goodix.Primitives

/-! # Material of a secure session

`GoodixSecureSessionMaterial`: what a session is started with, whoever provides it.
-/

namespace Goodix

open Octets

structure SecureMaterial where
  expectedIdentity : List UInt8
  e4Validator : List UInt8
  e4ValidatorSha256 : Digest
  a2ResponseSha256 : Digest
  chip82ResponseSha256 : Digest
  otpA6ResponseSha256 : Digest
  dacValues : Fin 4 → UInt16
  config90 : List UInt8
  config90Sha256 : Digest
  psk : List UInt8
  deriving DecidableEq

end Goodix
