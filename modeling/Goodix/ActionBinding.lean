import Goodix.Primitives

/-! # Binding of a factory secret

`goodix_action_binding.c`: the validator a sensor answers with is derived from a secret and
two seeds of the vendor's producer.
-/

namespace Goodix.ActionBinding

open Octets

abbrev Seed := Block 6

/-- `aes_ecb_block` for keys of zeros: the length of the key, whether it decrypts, and one block. -/
abbrev ZeroKeyEcb := Nat → Bool → Block 16 → Option (Block 16)

def errorCrypto : Nat := 1

/-- `ror8` -/
def ror8 (value : UInt8) (count : UInt8) : UInt8 := value >>> count ||| value <<< (8 - count)

/-- `d190_crc` -/
def d190Crc (data : List UInt8) : UInt32 :=
  let shift (value : UInt32) : UInt32 :=
    value <<< 1 ^^^ (if value &&& 0x80000000 ≠ 0 then 0x04c11db7 else 0)
  let absorb (value : UInt32) (octet : UInt8) : UInt32 :=
    (List.range 8).foldl (fun value _ => shift value) (value ^^^ octet.toUInt32 <<< 24)
  data.foldl absorb 0xffffffff

def rotations : List UInt8 := [1, 3, 5, 7]

/-- `expanded`: the seed in four rotations. -/
def expanded (seed : Seed) (index : Nat) : UInt8 :=
  ror8 (seed.val.getD (index % 6) 0) (rotations.getD (index / 6) 0)

/-- Three octets of the expanded seed. -/
def piece (seed : Seed) (offset : Nat) : Block 3 :=
  ⟨[expanded seed offset, expanded seed (offset + 1), expanded seed (offset + 2)], rfl⟩

/-- `123456`, with the zeros HMAC pads a key with. -/
def halfKey : Block 32 := ⟨[0x31, 0x32, 0x33, 0x34, 0x35, 0x36] ++ List.replicate 26 0, rfl⟩

/-- The first two octets of a block of `0xcc` behind three octets, through the cipher. -/
def transformed (ecb : ZeroKeyEcb) (keyLength : Nat) (decrypt : Bool) (start : Block 3) :
    Option (Block 2) := do
  let padding : Block 13 := ⟨List.replicate 13 0xcc, rfl⟩
  let block ← ecb keyLength decrypt (start.append padding)
  pure (block.slice 0 2 (by decide))

/-- `derive_half` -/
def deriveHalf (crypto : Primitives) (ecb : ZeroKeyEcb) (seed : Seed) : Option (Block 16) := do
  let first ← crypto.sha256 (piece seed 0).val
  let second ← transformed ecb 16 true (piece seed 3)
  let third ← transformed ecb 16 false (piece seed 6)
  let fourth ← transformed ecb 32 true (piece seed 9)
  let fifth ← transformed ecb 24 false (piece seed 12)
  let sixth ← crypto.hmacSha256 halfKey (piece seed 15).val
  let crc := d190Crc (piece seed 18).val
  let seventh : Block 2 := ⟨[(crc >>> 24).toUInt8, (crc >>> 16).toUInt8], rfl⟩
  let eighth ← crypto.sha256 (piece seed 21).val
  let head (digest : Digest) : Block 2 := digest.slice 0 2 (by decide)
  pure ((((((((head first).append second).append third).append fourth).append fifth).append
    (head sixth)).append seventh).append (head eighth))

def fixedAad : Block 16 := ⟨[
  0x52, 0x2d, 0xc1, 0xf0, 0x99, 0x56, 0x7d, 0x07,
  0xf4, 0x7f, 0x37, 0xa3, 0x2a, 0x84, 0x42, 0x7d], rfl⟩

def label : List UInt8 :=
  [107, 103, 111, 111, 100, 119, 105, 120, 103, 0,
    107, 97, 101, 108, 114, 103, 110, 111, 101, 114, 108, 105, 116, 104, 109]

def header : Block 6 := ⟨[0x02, 0xff, 0x20, 0, 0, 0], rfl⟩

def lengthBe : List UInt8 := [0, 0, 0x01, 0x80]

/-- `memcpy` into a buffer. -/
def memcpy {n m : Nat} (buffer : Block n) (offset : Nat) (source : Block m)
    (fits : offset + m ≤ n) : Block n :=
  ⟨buffer.val.take offset ++ source.val ++ buffer.val.drop (offset + m), by simp; omega⟩

/-- `inner_input` -/
def innerInput (secret : Block 32) : Block 78 :=
  let start := memcpy (memcpy (Block.zero 78) 0 header (by decide)) 6
    (secret.slice 0 8 (by decide)) (by decide)
  (List.range 16).foldl (fun buffer index => buffer.set (6 + 8 + index * 4) 3) start

/-- `envelope` -/
def envelopeOf (outer : Block 32) (nonce : Block 16) (ciphertext : Block 32) (tag : Block 16) :
    Block 102 :=
  let buffer := memcpy (Block.zero 102) 0 outer (by decide)
  let buffer := memcpy buffer 32 header (by decide)
  let buffer := memcpy buffer 38 nonce (by decide)
  let buffer := memcpy buffer 54 ciphertext (by decide)
  memcpy buffer 86 tag (by decide)

/-- The steps of `goodix_d190_bind_validator` that may fail. -/
def deriveValidator (crypto : Primitives) (ecb : ZeroKeyEcb) (secret : Block 32)
    (seedA seedB : Seed) : Option Validator := do
  let halfA ← deriveHalf crypto ecb seedA
  let halfB ← deriveHalf crypto ecb seedB
  let producerKey := memcpy (memcpy (Block.zero 32) 0 halfA (by decide)) 16 halfB (by decide)
  let first ← crypto.hmacSha256 producerKey ([0, 0, 0, 1] ++ label ++ lengthBe)
  let derived := memcpy (Block.zero 48) 0 first (by decide)
  let second ← crypto.hmacSha256 producerKey ([0, 0, 0, 2] ++ label ++ lengthBe)
  let derived := memcpy derived 32 (second.slice 0 16 (by decide)) (by decide)
  let digest ← crypto.sha256 (innerInput secret).val
  let nonce : Block 16 := digest.slice 0 16 (by decide)
  let (ciphertext, tag) ← crypto.aes256GcmEncrypt (derived.slice 0 32 (by decide)) nonce fixedAad
    secret
  let outer ← crypto.hmacSha256 (derived.slice 16 32 (by decide))
    (header.val ++ ciphertext.val ++ tag.val)
  crypto.sha256 (envelopeOf outer nonce ciphertext tag).val

/-- `goodix_d190_bind_validator` -/
def bindValidator (crypto : Primitives) (ecb : ZeroKeyEcb) (secret : Block 32)
    (seedA seedB : Seed) : Except GError Validator :=
  match deriveValidator crypto ecb secret seedA seedB with
  | none => .error ⟨"goodix-d190-error", errorCrypto, "D190 OpenSSL operation failed"⟩
  | some validator => .ok validator

end Goodix.ActionBinding
