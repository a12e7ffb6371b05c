import Goodix.Library.Octets

/-! # What the driver takes from its libraries

A `GError` is a domain, a code within it and a text.  The driver takes SHA-256,
HMAC-SHA-256 and AES-256-GCM from OpenSSL, and SHA-256 in one place from GLib.  The
model keeps them uninterpreted: each is a function of its inputs that may report a
failure, exactly as the wrappers in the driver return `FALSE`.
-/

namespace Goodix

open Octets

abbrev Digest := Block 32
abbrev Psk := Block 32
abbrev Validator := Block 32

structure GError where
  domain : String
  code : Nat
  message : String
  deriving DecidableEq, Repr

structure Primitives where
  /-- `EVP_Digest` over `EVP_sha256`. -/
  sha256 : List UInt8 → Option Digest
  /-- `GChecksum` for `G_CHECKSUM_SHA256`. -/
  checksumSha256 : List UInt8 → Digest
  /-- `EVP_MAC` HMAC with a 32-byte key. -/
  hmacSha256 : Block 32 → List UInt8 → Option Digest
  /-- AES-256-GCM with a 16-byte nonce: key, nonce, associated data, plaintext to
  ciphertext and tag. -/
  aes256GcmEncrypt : Block 32 → Block 16 → Block 16 → Block 32 → Option (Block 32 × Block 16)

/-- Primitives that never fail and ignore their inputs. -/
def Primitives.constant : Primitives where
  sha256 := fun _ => some (Block.zero 32)
  checksumSha256 := fun _ => Block.zero 32
  hmacSha256 := fun _ _ => some (Block.zero 32)
  aes256GcmEncrypt := fun _ _ _ _ => some (Block.zero 32, Block.zero 16)

end Goodix
