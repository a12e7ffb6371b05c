import Goodix.SelfState.Receipt

/-! # When a receipt is the one its contents encode to

`decode_receipt` checks every reserved octet and the terminator of the application name, but
neither the padding after the terminator nor that the name has no zero octet of its own.
-/

namespace Goodix.SelfState

open Octets

/-! ## Accepted receipts -/

/-- What `decode_receipt` has checked of a receipt that it accepts. -/
structure Accepted (crypto : Primitives) (receipt : Block receiptSize) (psk : Psk)
    (binding : Binding) (record : Record) : Prop where
  magic : receipt.val.take 8 = receiptMagic
  version : receipt.octetAt 8 (by decide) = 2
  reserved : receipt.octetAt 11 (by decide) = 0
  padding : receipt.octetAt 27 (by decide) = 0
  known : receipt.octetAt 10 (by decide) &&& ~~~receiptFlagsAll = 0
  short : (receipt.octetAt 26 (by decide)).toNat < appMax
  authentic : ∃ hmac : Digest,
    crypto.hmacSha256 psk (receipt.val.take receiptPrefixSize) = some hmac ∧
      hmac.val = receipt.val.drop receiptPrefixSize
  phase : Phase.ofByte? (receipt.octetAt 9 (by decide)) = some record.phase
  ofBinding : decodeBinding receipt = binding
  ofRecord : decodeRecord receipt record.phase = record
  bound : bindingValid binding = true
  valid : recordValid record = true

section

variable {crypto : Primitives} {receipt : Block receiptSize} {psk : Psk} {binding : Binding}
  {record : Record}

theorem decodeReceipt_accepted
    (accepted : decodeReceipt crypto receipt psk = some (binding, record)) :
    Accepted crypto receipt psk binding record := by
  simp only [decodeReceipt, Option.bind_eq_bind, Option.bind_eq_some_iff, Option.pure_def,
    Option.some.injEq, Option.guard_eq_some', exists_const, Prod.mk.injEq] at accepted
  obtain ⟨magic, version, reserved, padding, known, -, short, hmac, computed, tag, -, phase, read,
    bound, valid, rfl, rfl⟩ := accepted
  exact ⟨magic, version, reserved, padding, known, short, ⟨hmac, computed, tag⟩, read, rfl, rfl,
    bound, valid⟩

/-! ## Canonical receipts -/

/-- The application name has no zero octet, and only zero octets follow it in its field. -/
def AppCanonical (receipt : Block receiptSize) : Prop :=
  let length := (receipt.octetAt 26 appLength_inside).toNat
  (0 : UInt8) ∉ (receipt.val.drop 28).take length ∧
    (receipt.val.drop (28 + length)).take (appMax - length) = List.replicate (appMax - length) 0

theorem take_one_octetAt (offset : Nat) (bound : offset < receiptSize) :
    (receipt.val.drop offset).take 1 = [receipt.octetAt offset bound] := by
  have inside : offset < receipt.val.length := by simpa using bound
  rw [List.drop_eq_getElem_cons inside, List.take_succ_cons, List.take_zero]
  rfl

theorem Phase.ofByte?_eq_some {octet : UInt8} {phase : Phase}
    (read : Phase.ofByte? octet = some phase) : phase.toByte = octet := by
  unfold Phase.ofByte? at read
  split_ifs at read with prepared active recovery
  · cases read
    exact prepared.symm
  · cases read
    exact active.symm
  · cases read
    exact recovery.symm

theorem flags_of_bits : ∀ flags : Fin 256, UInt8.ofNat flags &&& ~~~receiptFlagsAll = 0 →
    flag (hasFlag (.ofNat flags) receiptFlagPrior) receiptFlagPrior |||
      flag (hasFlag (.ofNat flags) receiptFlagFdt) receiptFlagFdt |||
      flag (hasFlag (.ofNat flags) receiptFlagMigrated) receiptFlagMigrated |||
      flag (hasFlag (.ofNat flags) receiptFlagE0Attempted) receiptFlagE0Attempted |||
      flag (hasFlag (.ofNat flags) receiptFlagTerminalProof) receiptFlagTerminalProof |||
      flag (hasFlag (.ofNat flags) receiptFlagBb010002Sha256) receiptFlagBb010002Sha256 =
        UInt8.ofNat flags := by
  decide +kernel

/-- The six flags are all there is in a flag octet without unknown bits. -/
theorem receiptFlags_decodeRecord {phase : Phase}
    (known : receipt.octetAt 10 (by decide) &&& ~~~receiptFlagsAll = 0) :
    receiptFlags (decodeRecord receipt phase) = receipt.octetAt 10 (by decide) := by
  unfold receiptFlags decodeRecord
  dsimp only
  generalize receipt.octetAt 10 (by decide) = flags at known ⊢
  have bits := flags_of_bits ⟨flags.toNat, flags.toNat_lt⟩
  simp only [UInt8.ofNat_toNat] at bits
  exact bits known

/-- The lengths of the fields of a receipt before its HMAC. -/
def receiptLengths : List Nat := [8, 1, 1, 1, 1, 8, 2, 2, 2, 1, 1, 32, 32, 32, 32, 32, 12, 32]

/-- The field of the application name, as it was and as it is written again. -/
theorem AppCanonical.field (canonical : AppCanonical receipt)
    (short : (receipt.octetAt 26 (by decide)).toNat < appMax) :
    (decodeBinding receipt).app.val.length = (receipt.octetAt 26 (by decide)).toNat ∧
      (decodeBinding receipt).app.val ++
        List.replicate (appMax - (decodeBinding receipt).app.val.length) 0 =
          (receipt.val.drop 28).take 32 := by
  obtain ⟨named, padded⟩ := canonical
  have app : (decodeBinding receipt).app.val =
      (receipt.val.drop 28).take (receipt.octetAt 26 (by decide)).toNat :=
    congrArg Subtype.val (CString.ofBuffer_val ⟨_, named⟩)
  rw [app]
  generalize (receipt.octetAt 26 (by decide)).toNat = length at *
  have sized : ((receipt.val.drop 28).take length).length = length := by
    simp only [List.length_take, List.length_drop, Block.length_val, receiptSize]
    simp only [appMax] at short
    omega
  refine ⟨sized, ?_⟩
  have whole : 32 = length + (appMax - length) := by
    simp only [appMax] at short ⊢
    omega
  rw [sized, ← padded, whole, List.take_add, List.drop_drop]

/-- What is decoded is written to the same octets, up to the HMAC. -/
theorem Accepted.fields (accepted : Accepted crypto receipt psk binding record)
    (canonical : AppCanonical receipt) :
    receiptFields binding record = cut receiptLengths receipt.val := by
  obtain ⟨length, name⟩ := canonical.field accepted.short
  have flags : receiptFlags record = receipt.octetAt 10 (by decide) := by
    rw [← accepted.ofRecord]
    exact receiptFlags_decodeRecord accepted.known
  have digest : (if record.bb010002Sha256Present then record.bb010002Sha256.val
      else record.legacySourceSha256.val) = (receipt.val.drop 200).take 32 := by
    rw [← accepted.ofRecord]
    unfold decodeRecord
    dsimp only
    split <;> rfl
  have octet (offset : Nat) (bound : offset < receiptSize) :=
    @take_one_octetAt receipt offset bound
  unfold receiptFields
  rw [digest, flags, Phase.ofByte?_eq_some accepted.phase, ← accepted.ofBinding, name, length,
    UInt8.ofNat_toNat, ← accepted.ofRecord]
  simp only [decodeBinding, decodeRecord, cut, receiptLengths, List.drop_drop, Nat.reduceAdd,
    putU64Le_getU64Le (Block.length_val _), putU16Le_getU16Le (Block.length_val _)]
  rw [octet 8 (by decide), octet 9 (by decide), octet 10 (by decide), octet 11 (by decide),
    octet 26 (by decide), octet 27 (by decide), accepted.magic, accepted.version,
    accepted.reserved, accepted.padding]
  rfl

/-- A receipt whose name field is canonical is the one that its contents are written to. -/
theorem Accepted.encodes (accepted : Accepted crypto receipt psk binding record)
    (canonical : AppCanonical receipt) : encodeReceipt crypto binding record psk = some receipt := by
  obtain ⟨hmac, computed, tag⟩ := accepted.authentic
  have prefixed : (receiptFields binding record).flatten = receipt.val.take receiptPrefixSize := by
    rw [accepted.fields canonical, flatten_cut]
    rfl
  have whole : receipt.val.take receiptPrefixSize ++ hmac.val = receipt.val := by
    rw [tag, List.take_append_drop]
  simp only [encodeReceipt, prefixed, computed, Option.bind_eq_bind, Option.bind_some, whole,
    Block.ofList?_val]

/-- Octets that a receipt is made of, and only those, are those of a canonical receipt. -/
theorem appCanonical_of_encodes (bound : bindingValid binding = true)
    (encoded : encodeReceipt crypto binding record psk = some receipt) : AppCanonical receipt := by
  obtain ⟨hmac, -, stored⟩ := encodeReceipt_eq_some encoded
  obtain ⟨-, -, length, -⟩ := decodeBinding_encodeReceipt bound stored
  have short := ((bindingValid_iff binding).mp bound).2
  have field : (receipt.val.drop 28).take 32 =
      binding.app.val ++ List.replicate (appMax - binding.app.val.length) 0 :=
    receipt_field stored rfl (fieldOffset_receipt record bound hmac 11 28 (by decide))
      (by simp [appMax]; omega)
  have name : (receipt.val.drop 28).take binding.app.val.length = binding.app.val := by
    have taken := congrArg (List.take binding.app.val.length) field
    rwa [List.take_take, Nat.min_eq_left short.le, List.take_left] at taken
  have rest : (receipt.val.drop (28 + binding.app.val.length)).take
      (appMax - binding.app.val.length) = List.replicate (appMax - binding.app.val.length) 0 := by
    have dropped := congrArg (List.drop binding.app.val.length) field
    rwa [List.drop_take, List.drop_drop, List.drop_left] at dropped
  unfold AppCanonical
  simp only [length, name]
  exact ⟨binding.app.property, rest⟩

/-- Only a failed HMAC keeps a valid binding from being written. -/
theorem encodeReceipt_isSome (bound : bindingValid binding = true) :
    (encodeReceipt crypto binding record psk).isSome ↔
      (crypto.hmacSha256 psk (receiptFields binding record).flatten).isSome := by
  have sized := length_receiptFields record bound
  cases computed : crypto.hmacSha256 psk (receiptFields binding record).flatten with
  | none => simp [encodeReceipt, computed]
  | some hmac =>
    have length : ((receiptFields binding record).flatten ++ hmac.val).length = receiptSize := by
      rw [List.length_append, sized, Block.length_val]
      rfl
    simp only [encodeReceipt, computed, Option.bind_eq_bind, Option.bind_some, Block.ofList?,
      length, dite_true, Option.isSome_some]

/-- Encoding always decodes to what was encoded.  Decoding is undone by encoding exactly for the
receipts whose application name has no zero octet and is followed by zero octets only. -/
theorem receipt_codec (crypto : Primitives) (psk : Psk) :
    (∀ binding record, bindingValid binding = true → recordValid record = true →
      record.canonical = record →
      ((encodeReceipt crypto binding record psk).isSome ↔
        (crypto.hmacSha256 psk (receiptFields binding record).flatten).isSome) ∧
      ∀ receipt, encodeReceipt crypto binding record psk = some receipt →
        decodeReceipt crypto receipt psk = some (binding, record)) ∧
    (∀ receipt binding record, decodeReceipt crypto receipt psk = some (binding, record) →
      (encodeReceipt crypto binding record psk = some receipt ↔ AppCanonical receipt)) := by
  refine ⟨fun binding record bound valid canonical => ⟨encodeReceipt_isSome bound, ?_⟩,
    fun receipt binding record decoded => ?_⟩
  · intro receipt encoded
    rw [decodeReceipt_encodeReceipt bound valid encoded, canonical]
  · have accepted := decodeReceipt_accepted decoded
    exact ⟨appCanonical_of_encodes accepted.bound, accepted.encodes⟩

end

/-! ## A name field that is not canonical -/

def shortBinding : Binding :=
  ⟨0x27c6, 0x5125, 0x2504, ⟨[71], by decide⟩, Block.zero 32, Block.zero 32⟩

def freshRecord : Record where
  phase := .prepared
  generation := 1
  expectedValidator := Block.zero 32
  priorValidatorPresent := false
  priorValidator := Block.zero 32
  fdtPresent := false
  fdtTable := Block.zero 12
  migratedLegacy := false
  legacySourceSha256 := Block.zero 32
  bb010002Sha256Present := false
  bb010002Sha256 := Block.zero 32
  e0Attempted := false
  terminalProof := false

def plainReceipt : Block receiptSize :=
  ⟨(receiptFields shortBinding freshRecord).flatten ++ List.replicate 32 0, by decide +kernel⟩

theorem receipt_codec_plain :
    decodeReceipt .constant plainReceipt (Block.zero 32) = some (shortBinding, freshRecord) ∧
      AppCanonical plainReceipt := by
  have encoded : encodeReceipt .constant shortBinding freshRecord (Block.zero 32) =
      some plainReceipt := by decide +kernel
  have decoded := ((receipt_codec .constant (Block.zero 32)).1 shortBinding freshRecord
    (by decide +kernel) (by decide +kernel) (by decide +kernel)).2 plainReceipt encoded
  exact ⟨decoded, ((receipt_codec .constant (Block.zero 32)).2 _ _ _ decoded).mp encoded⟩

/-- A receipt with an octet in the padding of the name field is accepted, and it is another one
than its contents encode to. -/
theorem padded_receipt_accepted :
    ∃ receipt binding record,
      decodeReceipt .constant receipt (Block.zero 32) = some (binding, record) ∧
        encodeReceipt .constant binding record (Block.zero 32) ≠ some receipt := by
  refine ⟨plainReceipt.set 40 1, shortBinding, freshRecord, ?_, ?_⟩
  · decide +kernel
  · decide +kernel

end Goodix.SelfState
