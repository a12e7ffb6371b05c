import Goodix.ActionBinding
import Goodix.PairingCrypto

/-! # The two derivations of the validator

`goodix_d190_bind_validator` and `derive_profile` are written apart, one over buffers that it
fills in, the other over lists of parts.  Here both are read as programs over a library of
primitives in any monad, so that what they hand to the primitives is part of what is compared.
-/

namespace Goodix

open Octets

/-- The primitives, as calls of a monad. -/
structure Library (m : Type → Type) where
  sha256 : List UInt8 → m Digest
  hmacSha256 : Block 32 → List UInt8 → m Digest
  aes256GcmEncrypt : Block 32 → Block 16 → Block 16 → Block 32 → m (Block 32 × Block 16)
  zeroKeyEcb : Nat → Bool → Block 16 → m (Block 16)

/-- The buffers of a call. -/
inductive Request where
  | sha256 (data : List UInt8)
  | hmacSha256 (key : Block 32) (data : List UInt8)
  | aes256GcmEncrypt (key : Block 32) (nonce aad : Block 16) (plaintext : Block 32)
  | zeroKeyEcb (keyLength : Nat) (decrypt : Bool) (input : Block 16)
  deriving DecidableEq

/-- Calls that may fail and are written down. -/
abbrev Recording := OptionT (StateM (List Request))

def record {α : Type} (request : Request) (answer : Option α) : Recording α := do
  modify (· ++ [request])
  OptionT.mk (pure answer)

namespace Library

variable (crypto : Primitives) (ecb : ActionBinding.ZeroKeyEcb)

def plain : Library Option where
  sha256 := crypto.sha256
  hmacSha256 := crypto.hmacSha256
  aes256GcmEncrypt := crypto.aes256GcmEncrypt
  zeroKeyEcb := ecb

def recording : Library Recording where
  sha256 data := record (.sha256 data) (crypto.sha256 data)
  hmacSha256 key data := record (.hmacSha256 key data) (crypto.hmacSha256 key data)
  aes256GcmEncrypt key nonce aad plaintext :=
    record (.aes256GcmEncrypt key nonce aad plaintext)
      (crypto.aes256GcmEncrypt key nonce aad plaintext)
  zeroKeyEcb keyLength decrypt input :=
    record (.zeroKeyEcb keyLength decrypt input) (ecb keyLength decrypt input)

end Library

section Programs

variable {m : Type → Type} [Monad m] (library : Library m)

namespace ActionBinding

theorem blockHead_inside : 0 + 2 ≤ 16 := by decide

theorem digestHead_inside : 0 + 2 ≤ 32 := by decide

theorem secondHalf_inside : 16 + 16 ≤ 32 := by decide

theorem secondRound_inside : 32 + 16 ≤ 48 := by decide

def transformedIn (keyLength : Nat) (decrypt : Bool) (start : Block 3) : m (Block 2) := do
  let padding : Block 13 := ⟨List.replicate 13 0xcc, by decide⟩
  let block ← library.zeroKeyEcb keyLength decrypt (start.append padding)
  pure (block.slice 0 2 blockHead_inside)

/-- `derive_half` -/
def deriveHalfIn (seed : Seed) : m (Block 16) := do
  let first ← library.sha256 (piece seed 0).val
  let second ← transformedIn library 16 true (piece seed 3)
  let third ← transformedIn library 16 false (piece seed 6)
  let fourth ← transformedIn library 32 true (piece seed 9)
  let fifth ← transformedIn library 24 false (piece seed 12)
  let sixth ← library.hmacSha256 halfKey (piece seed 15).val
  let crc := d190Crc (piece seed 18).val
  let seventh : Block 2 := ⟨[(crc >>> 24).toUInt8, (crc >>> 16).toUInt8], by simp⟩
  let eighth ← library.sha256 (piece seed 21).val
  let head (digest : Digest) : Block 2 := digest.slice 0 2 digestHead_inside
  pure ((((((((head first).append second).append third).append fourth).append fifth).append
    (head sixth)).append seventh).append (head eighth))

/-- The steps of `goodix_d190_bind_validator` that may fail. -/
def deriveValidatorIn (secret : Block 32) (seedA seedB : Seed) : m Validator := do
  let halfA ← deriveHalfIn library seedA
  let halfB ← deriveHalfIn library seedB
  let producerKey := memcpy (memcpy (Block.zero 32) 0 halfA PairingCrypto.nonce_inside) 16 halfB secondHalf_inside
  let first ← library.hmacSha256 producerKey ([0, 0, 0, 1] ++ label ++ lengthBe)
  let derived := memcpy (Block.zero 48) 0 first PairingCrypto.encryptionKey_inside
  let second ← library.hmacSha256 producerKey ([0, 0, 0, 2] ++ label ++ lengthBe)
  let derived := memcpy derived 32 (second.slice 0 16 PairingCrypto.nonce_inside) secondRound_inside
  let digest ← library.sha256 (innerInput secret).val
  let nonce : Block 16 := digest.slice 0 16 PairingCrypto.nonce_inside
  let (ciphertext, tag) ← library.aes256GcmEncrypt (derived.slice 0 32 PairingCrypto.encryptionKey_inside) nonce fixedAad
    secret
  let outer ← library.hmacSha256 (derived.slice 16 32 PairingCrypto.hmacKey_inside)
    (header.val ++ ciphertext.val ++ tag.val)
  library.sha256 (envelopeOf outer nonce ciphertext tag).val

end ActionBinding

namespace PairingCrypto

/-- `derive_profile` -/
def deriveProfileIn (psk : Psk) (kdfKey : Block 32) (aad : Block 16) (header : Block 6) :
    m (Envelope × Validator) := do
  let roundOne ← library.hmacSha256 kdfKey ([0, 0, 0, 1] ++ kdfLabel ++ lengthBe)
  let roundTwo ← library.hmacSha256 kdfKey ([0, 0, 0, 2] ++ kdfLabel ++ lengthBe)
  let derived : Block 48 := roundOne.append (roundTwo.slice 0 16 nonce_inside)
  let digest ← library.sha256
    (header.val ++ (psk.slice 0 8 secretHead_inside).val ++ (List.replicate 16 wordThree).flatten)
  let nonce : Block 16 := digest.slice 0 16 nonce_inside
  let (ciphertext, tag) ← library.aes256GcmEncrypt (derived.slice 0 32 encryptionKey_inside) nonce aad psk
  let outer ← library.hmacSha256 (derived.slice 16 32 hmacKey_inside)
    (header.val ++ ciphertext.val ++ tag.val)
  let envelope : Envelope :=
    (((outer.append header).append nonce).append ciphertext).append tag
  let validator ← library.sha256 envelope.val
  pure (envelope, validator)

end PairingCrypto

/-- The validator of the profile whose key is made of the halves of two seeds. -/
def profileValidatorIn (secret : Block 32) (seedA seedB : ActionBinding.Seed) : m Validator := do
  let halfA ← ActionBinding.deriveHalfIn library seedA
  let halfB ← ActionBinding.deriveHalfIn library seedB
  let derived ← PairingCrypto.deriveProfileIn library secret (halfA.append halfB)
    ActionBinding.fixedAad ActionBinding.header
  pure derived.2

end Programs

/-! ## The programs are the functions -/

section Plain

variable (crypto : Primitives) (ecb : ActionBinding.ZeroKeyEcb)

theorem ActionBinding.deriveHalfIn_plain (seed : ActionBinding.Seed) :
    ActionBinding.deriveHalfIn (.plain crypto ecb) seed = ActionBinding.deriveHalf crypto ecb seed :=
  rfl

theorem ActionBinding.deriveValidatorIn_plain (secret : Block 32) (seedA seedB : ActionBinding.Seed) :
    ActionBinding.deriveValidatorIn (.plain crypto ecb) secret seedA seedB =
      ActionBinding.deriveValidator crypto ecb secret seedA seedB :=
  rfl

theorem PairingCrypto.deriveProfileIn_plain (psk : Psk) (kdfKey : Block 32) (aad : Block 16)
    (header : Block 6) :
    PairingCrypto.deriveProfileIn (.plain crypto ecb) psk kdfKey aad header =
      PairingCrypto.deriveProfile crypto psk kdfKey aad header :=
  rfl

end Plain

/-! ## The buffers are the same -/

namespace ActionBinding

/-- A piece copied behind what a buffer already holds. -/
theorem memcpy_behind {n m offset : Nat} {buffer : Block n} {source : Block m}
    {fits : offset + m ≤ n} {held : List UInt8} {unused : Nat}
    (filled : buffer.val = held ++ List.replicate unused 0) (sized : held.length = offset) :
    (memcpy buffer offset source fits).val =
      held ++ source.val ++ List.replicate (unused - m) 0 := by
  subst sized
  simp only [memcpy, filled, List.take_left, List.drop_append, List.drop_replicate]
  rw [List.drop_eq_nil_of_le (by omega), List.nil_append, Nat.add_sub_cancel_left]

theorem memcpy_first {n m : Nat} (source : Block m) {fits : 0 + m ≤ n} :
    (memcpy (Block.zero n) 0 source fits).val = source.val ++ List.replicate (n - m) 0 := by
  simp [memcpy, Block.zero]

theorem memcpy_halves {n m : Nat} (first : Block n) (second : Block m)
    {fits : 0 + n ≤ n + m} {rest : n + m ≤ n + m} :
    memcpy (memcpy (Block.zero (n + m)) 0 first fits) n second rest = first.append second := by
  apply Subtype.ext
  rw [memcpy_behind (memcpy_first first) first.length_val]
  simp [Block.append]

/-- The words of three are written into zeros. -/
theorem innerInput_val (secret : Block 32) :
    (innerInput secret).val = header.val ++ (secret.slice 0 8 (by decide)).val ++
      (List.replicate 16 PairingCrypto.wordThree).flatten := by
  have front : (memcpy (memcpy (Block.zero 78) 0 header (by decide)) 6
      (secret.slice 0 8 (by decide)) (by decide)).val =
      header.val ++ (secret.slice 0 8 (by decide)).val ++ List.replicate 64 0 :=
    memcpy_behind (memcpy_first header) header.length_val
  have written : ∀ (indices : List Nat) (buffer : Block 78) (held rest : List UInt8),
      buffer.val = held ++ rest → held.length = 14 →
      (indices.foldl (fun buffer index => buffer.set (6 + 8 + index * 4) 3) buffer).val =
        held ++ indices.foldl (fun rest index => rest.set (index * 4) 3) rest := by
    intro indices
    induction indices with
    | nil => exact fun buffer held rest filled _ => filled
    | cons index indices inductionHypothesis =>
      intro buffer held rest filled sized
      rw [List.foldl_cons, List.foldl_cons]
      apply inductionHypothesis _ _ _ _ sized
      simp only [Block.set, filled]
      rw [List.set_append_right _ _ (by omega), sized]
      congr 2
      omega
  rw [innerInput, written _ _ _ _ front (by simp)]
  rfl

theorem envelopeOf_eq (outer : Block 32) (nonce : Block 16) (ciphertext : Block 32) (tag : Block 16) :
    envelopeOf outer nonce ciphertext tag =
      (((outer.append header).append nonce).append ciphertext).append tag := by
  apply Subtype.ext
  simp only [envelopeOf]
  rw [memcpy_behind (memcpy_behind (memcpy_behind (memcpy_behind (memcpy_first outer) ?_) ?_) ?_) ?_]
  · simp [Block.append]
  all_goals simp

variable {m : Type → Type} [Monad m] [LawfulMonad m]

/-- Whatever the primitives do, the one derivation asks them for what the other asks them for. -/
theorem deriveValidatorIn_eq (library : Library m) (secret : Block 32) (seedA seedB : Seed) :
    deriveValidatorIn library secret seedA seedB = profileValidatorIn library secret seedA seedB := by
  have key (halfA halfB : Block 16) :
      memcpy (memcpy (Block.zero 32) 0 halfA (by decide)) 16 halfB (by decide) =
        halfA.append halfB := memcpy_halves halfA halfB
  have derived (first : Block 32) (second : Block 16) :
      memcpy (memcpy (Block.zero 48) 0 first (by decide)) 32 second (by decide) =
        first.append second := memcpy_halves first second
  unfold deriveValidatorIn profileValidatorIn PairingCrypto.deriveProfileIn
  simp only [bind_assoc, pure_bind, key, derived, innerInput_val, envelopeOf_eq, bind_pure]
  rfl

end ActionBinding

/-- **The derivations agree**: in what they answer and, call by call, in every buffer that a
primitive is given. -/
theorem validator_derivations_agree (crypto : Primitives) (ecb : ActionBinding.ZeroKeyEcb)
    (secret : Block 32) (seedA seedB : ActionBinding.Seed) :
    (ActionBinding.deriveValidatorIn (.recording crypto ecb) secret seedA seedB).run.run [] =
      (profileValidatorIn (.recording crypto ecb) secret seedA seedB).run.run [] ∧
    ActionBinding.bindValidator crypto ecb secret seedA seedB =
      match (do
        let halfA ← ActionBinding.deriveHalf crypto ecb seedA
        let halfB ← ActionBinding.deriveHalf crypto ecb seedB
        PairingCrypto.deriveProfile crypto secret (halfA.append halfB) ActionBinding.fixedAad
          ActionBinding.header) with
      | none => .error ⟨"goodix-d190-error", ActionBinding.errorCrypto,
          "D190 OpenSSL operation failed"⟩
      | some (_, validator) => .ok validator := by
  constructor
  · rw [ActionBinding.deriveValidatorIn_eq]
  · have same := ActionBinding.deriveValidatorIn_eq (.plain crypto ecb) secret seedA seedB
    rw [ActionBinding.deriveValidatorIn_plain] at same
    rw [ActionBinding.bindValidator, same, profileValidatorIn]
    simp only [ActionBinding.deriveHalfIn_plain, PairingCrypto.deriveProfileIn_plain]
    cases ActionBinding.deriveHalf crypto ecb seedA with
    | none => rfl
    | some halfA =>
      cases ActionBinding.deriveHalf crypto ecb seedB with
      | none => rfl
      | some halfB =>
        simp only [Option.bind_eq_bind, Option.bind_some]
        cases PairingCrypto.deriveProfile crypto secret (halfA.append halfB) ActionBinding.fixedAad
          ActionBinding.header with
        | none => rfl
        | some derived => rfl

end Goodix
