import Goodix.Primitives

/-! # Pairing cryptography

`goodix_pairing_crypto.c`: from a PSK, the envelope the sensor is asked to store and
the validator it will answer with, which is the digest of that envelope.
-/

namespace Goodix.PairingCrypto

open Octets

abbrev Envelope := Block 102

def app12509KdfKey : Block 32 := ⟨[
  0x5c, 0xba, 0x6e, 0x25, 0x81, 0x95, 0x18, 0xde,
  0x2d, 0x53, 0xe9, 0x6d, 0xc0, 0x34, 0x7a, 0xb0,
  0xd4, 0x27, 0xd4, 0x08, 0x4b, 0xda, 0x4f, 0xae,
  0x1b, 0xff, 0x2b, 0x09, 0x11, 0x2a, 0x57, 0xe5], rfl⟩

def app12509Aad : Block 16 := ⟨[
  0x52, 0x2d, 0xc1, 0xf0, 0x99, 0x56, 0x7d, 0x07,
  0xf4, 0x7f, 0x37, 0xa3, 0x2a, 0x84, 0x42, 0x7d], by decide⟩

def app12509Header : Block 6 := ⟨[0x02, 0xff, 0x20, 0x00, 0x00, 0x00], by decide⟩

/-- `kgoodwixg`, a zero octet, `kaelrgnoerlithm` -/
def kdfLabel : List UInt8 :=
  [107, 103, 111, 111, 100, 119, 105, 120, 103, 0,
    107, 97, 101, 108, 114, 103, 110, 111, 101, 114, 108, 105, 116, 104, 109]

def lengthBe : List UInt8 := [0x00, 0x00, 0x01, 0x80]

def wordThree : List UInt8 := [0x03, 0x00, 0x00, 0x00]

def pairingCryptoError (code : Nat) (message : String) : GError :=
  ⟨"goodix-pairing-crypto-error", code, message⟩

def errorCrypto : Nat := 1

/-! The cuts of the digests and of the derived key. -/

theorem nonce_inside : 0 + 16 ≤ 32 := by decide

theorem secretHead_inside : 0 + 8 ≤ 32 := by decide

theorem encryptionKey_inside : 0 + 32 ≤ 48 := by decide

theorem hmacKey_inside : 16 + 32 ≤ 48 := by decide

/-- `derive_profile` -/
def deriveProfile (crypto : Primitives) (psk : Psk) (kdfKey : Block 32) (aad : Block 16)
    (header : Block 6) : Option (Envelope × Validator) := do
  let roundOne ← crypto.hmacSha256 kdfKey ([0, 0, 0, 1] ++ kdfLabel ++ lengthBe)
  let roundTwo ← crypto.hmacSha256 kdfKey ([0, 0, 0, 2] ++ kdfLabel ++ lengthBe)
  let derived : Block 48 := roundOne.append (roundTwo.slice 0 16 nonce_inside)
  let digest ← crypto.sha256
    (header.val ++ (psk.slice 0 8 secretHead_inside).val ++ (List.replicate 16 wordThree).flatten)
  let nonce : Block 16 := digest.slice 0 16 nonce_inside
  let (ciphertext, tag) ← crypto.aes256GcmEncrypt (derived.slice 0 32 encryptionKey_inside) nonce aad psk
  let outer ← crypto.hmacSha256 (derived.slice 16 32 hmacKey_inside)
    (header.val ++ ciphertext.val ++ tag.val)
  let envelope : Envelope :=
    (((outer.append header).append nonce).append ciphertext).append tag
  let validator ← crypto.sha256 envelope.val
  pure (envelope, validator)

/-- `goodix_pairing_crypto_derive` -/
def derive (crypto : Primitives) (psk : Psk) : Except GError (Envelope × Validator) :=
  match deriveProfile crypto psk app12509KdfKey app12509Aad app12509Header with
  | none => .error (pairingCryptoError errorCrypto "APP12509 pairing derivation failed")
  | some derived => .ok derived

end Goodix.PairingCrypto
