import Goodix.SelfState.Record

/-! # The state-v2 secret and receipt files

`decode_receipt` and `encode_receipt` of `goodix_self_state.c`, and the 48-octet
secret file.  A receipt is 232 octets of fields followed by their HMAC under the
PSK stored in the secret file beside it.
-/

namespace Goodix.SelfState

open Octets

def secretSize : Nat := 48
def receiptPrefixSize : Nat := 232
def receiptSize : Nat := 264

/-- `GDXPSK2` -/
def secretMagic : List UInt8 := [71, 68, 88, 80, 83, 75, 50, 0]

/-- `GDXSTA2` -/
def receiptMagic : List UInt8 := [71, 68, 88, 83, 84, 65, 50, 0]

def receiptFlagPrior : UInt8 := 1
def receiptFlagFdt : UInt8 := 2
def receiptFlagMigrated : UInt8 := 4
def receiptFlagE0Attempted : UInt8 := 8
def receiptFlagTerminalProof : UInt8 := 16
def receiptFlagBb010002Sha256 : UInt8 := 32
def receiptFlagsAll : UInt8 := 63

def flag (present : Bool) (bit : UInt8) : UInt8 := if present then bit else 0

/-- The flag octet `encode_receipt` accumulates. -/
def receiptFlags (record : Record) : UInt8 :=
  flag record.priorValidatorPresent receiptFlagPrior |||
    flag record.fdtPresent receiptFlagFdt |||
    flag record.migratedLegacy receiptFlagMigrated |||
    flag record.e0Attempted receiptFlagE0Attempted |||
    flag record.terminalProof receiptFlagTerminalProof |||
    flag record.bb010002Sha256Present receiptFlagBb010002Sha256

def hasFlag (flags bit : UInt8) : Bool := flags &&& bit != 0

/-- The fields of a receipt before its HMAC, in file order. -/
def receiptFields (binding : Binding) (record : Record) : List (List UInt8) :=
  [ receiptMagic,
    [2],
    [record.phase.toByte],
    [receiptFlags record],
    [0],
    putU64Le record.generation,
    putU16Le binding.vid,
    putU16Le binding.pid,
    putU16Le binding.chipProfile,
    [UInt8.ofNat binding.app.val.length],
    [0],
    binding.app.val ++ List.replicate (appMax - binding.app.val.length) 0,
    binding.otpSha256.val,
    binding.config90Sha256.val,
    record.expectedValidator.val,
    record.priorValidator.val,
    record.fdtTable.val,
    if record.bb010002Sha256Present then record.bb010002Sha256.val
      else record.legacySourceSha256.val ]

def encodeReceipt (crypto : Primitives) (binding : Binding) (record : Record) (psk : Psk) :
    Option (Block receiptSize) := do
  let authenticated := (receiptFields binding record).flatten
  let hmac ← crypto.hmacSha256 psk authenticated
  Block.ofList? receiptSize (authenticated ++ hmac.val)

theorem generation_inside : 12 + 8 ≤ receiptSize := by decide

theorem appLength_inside : 26 < receiptSize := by decide

/-- The record fields `decode_receipt` copies out of the receipt, for a known phase. -/
def decodeRecord (receipt : Block receiptSize) (phase : Phase) : Record :=
  let flags := receipt.octetAt 10 (by decide)
  let bb010002Sha256Present := hasFlag flags receiptFlagBb010002Sha256
  let digest : Digest := receipt.slice 200 32 (by decide)
  { phase
    generation := getU64Le (receipt.slice 12 8 generation_inside).val
    expectedValidator := receipt.slice 124 32 (by decide)
    priorValidatorPresent := hasFlag flags receiptFlagPrior
    priorValidator := receipt.slice 156 32 (by decide)
    fdtPresent := hasFlag flags receiptFlagFdt
    fdtTable := receipt.slice 188 12 (by decide)
    migratedLegacy := hasFlag flags receiptFlagMigrated
    legacySourceSha256 := if bb010002Sha256Present then Block.zero 32 else digest
    bb010002Sha256Present
    bb010002Sha256 := if bb010002Sha256Present then digest else Block.zero 32
    e0Attempted := hasFlag flags receiptFlagE0Attempted
    terminalProof := hasFlag flags receiptFlagTerminalProof }

def decodeBinding (receipt : Block receiptSize) : Binding :=
  { vid := getU16Le (receipt.slice 20 2 (by decide)).val
    pid := getU16Le (receipt.slice 22 2 (by decide)).val
    chipProfile := getU16Le (receipt.slice 24 2 (by decide)).val
    app := CString.ofBuffer
      ((receipt.val.drop 28).take (receipt.octetAt 26 appLength_inside).toNat)
    otpSha256 := receipt.slice 60 32 (by decide)
    config90Sha256 := receipt.slice 92 32 (by decide) }

def decodeReceipt (crypto : Primitives) (receipt : Block receiptSize) (psk : Psk) :
    Option (Binding × Record) := do
  guard (receipt.val.take 8 = receiptMagic)
  guard (receipt.octetAt 8 (by decide) = 2)
  guard (receipt.octetAt 11 (by decide) = 0)
  guard (receipt.octetAt 27 (by decide) = 0)
  let flags := receipt.octetAt 10 (by decide)
  let appLength := receipt.octetAt 26 appLength_inside
  guard (flags &&& ~~~receiptFlagsAll = 0)
  guard (appLength ≠ 0)
  guard (appLength.toNat < appMax)
  let expectedHmac ← crypto.hmacSha256 psk (receipt.val.take receiptPrefixSize)
  guard (expectedHmac.val = receipt.val.drop receiptPrefixSize)
  let binding := decodeBinding receipt
  guard (receipt.val[28 + appLength.toNat]? = some 0)
  let phase ← Phase.ofByte? (receipt.octetAt 9 (by decide))
  let record := decodeRecord receipt phase
  guard (bindingValid binding)
  guard (recordValid record)
  pure (binding, record)

/-- The 48 octets of a secret file. -/
def encodeSecret (generation : UInt64) (psk : Psk) : Block secretSize :=
  ⟨secretMagic ++ putU64Le generation ++ psk.val, by simp [secretMagic, secretSize]⟩

/-! ## Round trip -/

theorem hasFlag_receiptFlags (record : Record) :
    hasFlag (receiptFlags record) receiptFlagPrior = record.priorValidatorPresent ∧
    hasFlag (receiptFlags record) receiptFlagFdt = record.fdtPresent ∧
    hasFlag (receiptFlags record) receiptFlagMigrated = record.migratedLegacy ∧
    hasFlag (receiptFlags record) receiptFlagE0Attempted = record.e0Attempted ∧
    hasFlag (receiptFlags record) receiptFlagTerminalProof = record.terminalProof ∧
    hasFlag (receiptFlags record) receiptFlagBb010002Sha256 = record.bb010002Sha256Present ∧
    receiptFlags record &&& ~~~receiptFlagsAll = 0 := by
  unfold receiptFlags
  generalize record.priorValidatorPresent = prior
  generalize record.fdtPresent = fdt
  generalize record.migratedLegacy = migrated
  generalize record.e0Attempted = attempted
  generalize record.terminalProof = terminal
  generalize record.bb010002Sha256Present = present
  revert prior fdt migrated attempted terminal present
  decide

section RoundTrip

variable {crypto : Primitives} {binding : Binding} {record : Record} {psk : Psk}
  {receipt : Block receiptSize}

theorem length_receiptFields (record : Record) (valid : bindingValid binding = true) :
    (receiptFields binding record).flatten.length = receiptPrefixSize := by
  rw [bindingValid_iff] at valid
  unfold receiptFields
  split <;> simp [receiptMagic, receiptPrefixSize, appMax] <;> omega

/-- What `encode_receipt` writes: the fields, then their HMAC under the PSK. -/
theorem encodeReceipt_eq_some (encoded : encodeReceipt crypto binding record psk = some receipt) :
    ∃ hmac : Digest, crypto.hmacSha256 psk (receiptFields binding record).flatten = some hmac ∧
      receipt.val = (receiptFields binding record ++ [hmac.val]).flatten := by
  simp only [encodeReceipt, Option.bind_eq_bind, Option.bind_eq_some_iff] at encoded
  obtain ⟨hmac, computed, built⟩ := encoded
  refine ⟨hmac, computed, ?_⟩
  rw [Block.ofList?_eq_some built]
  simp

theorem fieldOffset_receipt (record : Record) (valid : bindingValid binding = true)
    (hmac : Digest) :
    ∀ index offset, (index, offset) ∈
      [(0, 0), (1, 8), (2, 9), (3, 10), (4, 11), (5, 12), (6, 20), (7, 22), (8, 24), (9, 26),
        (10, 27), (11, 28), (12, 60), (13, 92), (14, 124), (15, 156), (16, 188), (17, 200)] →
      fieldOffset (receiptFields binding record ++ [hmac.val]) index = offset := by
  rw [bindingValid_iff] at valid
  have app : binding.app.val.length + (32 - binding.app.val.length) = 32 := by omega
  intro index offset listed
  simp only [List.mem_cons, Prod.mk.injEq, List.not_mem_nil, or_false] at listed
  rcases listed with ⟨rfl, rfl⟩ | ⟨rfl, rfl⟩ | ⟨rfl, rfl⟩ | ⟨rfl, rfl⟩ | ⟨rfl, rfl⟩ |
    ⟨rfl, rfl⟩ | ⟨rfl, rfl⟩ | ⟨rfl, rfl⟩ | ⟨rfl, rfl⟩ | ⟨rfl, rfl⟩ | ⟨rfl, rfl⟩ |
    ⟨rfl, rfl⟩ | ⟨rfl, rfl⟩ | ⟨rfl, rfl⟩ | ⟨rfl, rfl⟩ | ⟨rfl, rfl⟩ | ⟨rfl, rfl⟩ | ⟨rfl, rfl⟩ <;>
  simp [fieldOffset, receiptFields, receiptMagic, appMax, app]

theorem receipt_field {hmac : Digest}
    (stored : receipt.val = (receiptFields binding record ++ [hmac.val]).flatten)
    {index offset length : Nat} {field : List UInt8}
    (listed : (receiptFields binding record ++ [hmac.val])[index]? = some field)
    (starts : fieldOffset (receiptFields binding record ++ [hmac.val]) index = offset)
    (sized : field.length = length) :
    (receipt.val.drop offset).take length = field := by
  rw [stored]
  exact field_of_flatten listed starts sized

theorem receipt_octet {hmac : Digest}
    (stored : receipt.val = (receiptFields binding record ++ [hmac.val]).flatten)
    {index offset : Nat} {octet : UInt8} (bound : offset < receiptSize)
    (listed : (receiptFields binding record ++ [hmac.val])[index]? = some [octet])
    (starts : fieldOffset (receiptFields binding record ++ [hmac.val]) index = offset) :
    receipt.octetAt offset bound = octet :=
  get_of_take_one _ (receipt_field stored listed starts rfl)

/-- The application name sits in a 32-octet field padded with zero octets. -/
theorem decodeBinding_app (valid : bindingValid binding = true) {buffer : List UInt8}
    (field : buffer.take 32 = binding.app.val ++ List.replicate (appMax - binding.app.val.length) 0) :
    CString.ofBuffer (buffer.take binding.app.val.length) = binding.app ∧
      buffer[binding.app.val.length]? = some 0 := by
  rw [bindingValid_iff] at valid
  have short : binding.app.val.length ≤ 32 := by omega
  have name : buffer.take binding.app.val.length = binding.app.val := by
    have := congrArg (List.take binding.app.val.length) field
    rwa [List.take_take, Nat.min_eq_left short, List.take_left] at this
  refine ⟨by rw [name, CString.ofBuffer_val], ?_⟩
  have terminator := congrArg (fun octets => octets[binding.app.val.length]?) field
  have padded : 0 < appMax - binding.app.val.length := by simp only [appMax]; omega
  simp only [List.getElem?_take] at terminator
  rw [if_pos valid.2, List.getElem?_append_right le_rfl] at terminator
  rw [terminator]
  simp [padded]

theorem decodeRecord_encodeReceipt (valid : bindingValid binding = true) {hmac : Digest}
    (stored : receipt.val = (receiptFields binding record ++ [hmac.val]).flatten) :
    decodeRecord receipt record.phase = record.canonical := by
  have offsets := fieldOffset_receipt record valid hmac
  have field {index offset length : Nat} {field : List UInt8} :=
    @receipt_field binding record receipt hmac stored index offset length field
  have flags : receipt.octetAt 10 (by decide) = receiptFlags record :=
    receipt_octet stored _ rfl (offsets 3 10 (by decide))
  obtain ⟨prior, fdt, migrated, attempted, terminal, present, _⟩ := hasFlag_receiptFlags record
  have generation : getU64Le (receipt.slice 12 8 (by decide)).val = record.generation := by
    have : (receipt.slice 12 8 (by decide)).val = putU64Le record.generation :=
      field rfl (offsets 5 12 (by decide)) (length_putU64Le _)
    rw [this, getU64Le_putU64Le]
  have expected : receipt.slice 124 32 (by decide) = record.expectedValidator :=
    Subtype.ext (field rfl (offsets 14 124 (by decide)) (by simp))
  have priorValidator : receipt.slice 156 32 (by decide) = record.priorValidator :=
    Subtype.ext (field rfl (offsets 15 156 (by decide)) (by simp))
  have table : receipt.slice 188 12 (by decide) = record.fdtTable :=
    Subtype.ext (field rfl (offsets 16 188 (by decide)) (by simp))
  have digest : receipt.slice 200 32 (by decide) =
      if record.bb010002Sha256Present then record.bb010002Sha256
      else record.legacySourceSha256 := by
    apply Subtype.ext
    refine field ?_ (offsets 17 200 (by decide)) (by simp)
    simp only [receiptFields]
    split <;> rfl
  unfold decodeRecord Record.canonical
  simp only [flags, prior, fdt, migrated, attempted, terminal, present, generation, expected,
    priorValidator, table, digest]
  cases record.bb010002Sha256Present <;> rfl

theorem decodeBinding_encodeReceipt (valid : bindingValid binding = true) {hmac : Digest}
    (stored : receipt.val = (receiptFields binding record ++ [hmac.val]).flatten) :
    decodeBinding receipt = binding ∧
      receipt.octetAt 26 (by decide) = UInt8.ofNat binding.app.val.length ∧
      (receipt.octetAt 26 (by decide)).toNat = binding.app.val.length ∧
      receipt.val[28 + binding.app.val.length]? = some 0 := by
  have offsets := fieldOffset_receipt record valid hmac
  have field {index offset length : Nat} {field : List UInt8} :=
    @receipt_field binding record receipt hmac stored index offset length field
  have appLength : receipt.octetAt 26 (by decide) = UInt8.ofNat binding.app.val.length :=
    receipt_octet stored _ rfl (offsets 9 26 (by decide))
  have bounds := (bindingValid_iff binding).mp valid
  have appLengthNat : (receipt.octetAt 26 (by decide)).toNat = binding.app.val.length := by
    rw [appLength, UInt8.toNat_ofNat']
    omega
  have vid : (receipt.slice 20 2 (by decide)).val = putU16Le binding.vid :=
    field rfl (offsets 6 20 (by decide)) (length_putU16Le _)
  have pid : (receipt.slice 22 2 (by decide)).val = putU16Le binding.pid :=
    field rfl (offsets 7 22 (by decide)) (length_putU16Le _)
  have chip : (receipt.slice 24 2 (by decide)).val = putU16Le binding.chipProfile :=
    field rfl (offsets 8 24 (by decide)) (length_putU16Le _)
  have otp : receipt.slice 60 32 (by decide) = binding.otpSha256 :=
    Subtype.ext (field rfl (offsets 12 60 (by decide)) (by simp))
  have config90 : receipt.slice 92 32 (by decide) = binding.config90Sha256 :=
    Subtype.ext (field rfl (offsets 13 92 (by decide)) (by simp))
  have padded : (receipt.val.drop 28).take 32 =
      binding.app.val ++ List.replicate (appMax - binding.app.val.length) 0 :=
    field rfl (offsets 11 28 (by decide)) (by simp [appMax]; omega)
  obtain ⟨app, terminator⟩ := decodeBinding_app valid padded
  refine ⟨?_, appLength, appLengthNat, by simpa using terminator⟩
  unfold decodeBinding
  rw [vid, pid, chip, otp, config90, appLengthNat, app]
  simp

/-- **Receipt round trip.**  A receipt made for a valid binding and record under a PSK decodes
under that PSK to the binding and the record. -/
theorem decodeReceipt_encodeReceipt (bound : bindingValid binding = true)
    (valid : recordValid record = true)
    (encoded : encodeReceipt crypto binding record psk = some receipt) :
    decodeReceipt crypto receipt psk = some (binding, record.canonical) := by
  obtain ⟨hmac, computed, stored⟩ := encodeReceipt_eq_some encoded
  have offsets := fieldOffset_receipt record bound hmac
  obtain ⟨decoded, appLength, appLengthNat, terminator⟩ :=
    decodeBinding_encodeReceipt bound stored
  have app := (bindingValid_iff binding).mp bound
  have prefixLength := length_receiptFields record bound
  have authenticated : receipt.val.take receiptPrefixSize =
      (receiptFields binding record).flatten := by
    rw [stored, List.flatten_append, ← prefixLength, List.take_left]
  have tag : receipt.val.drop receiptPrefixSize = hmac.val := by
    rw [stored, List.flatten_append, ← prefixLength, List.drop_left]
    simp
  have magic : receipt.val.take 8 = receiptMagic := by
    have field : (receipt.val.drop 0).take 8 = receiptMagic :=
      receipt_field stored rfl (offsets 0 0 (by decide)) rfl
    simpa using field
  have version : receipt.octetAt 8 (by decide) = 2 :=
    receipt_octet stored _ rfl (offsets 1 8 (by decide))
  have phase : receipt.octetAt 9 (by decide) = record.phase.toByte :=
    receipt_octet stored _ rfl (offsets 2 9 (by decide))
  have flags : receipt.octetAt 10 (by decide) = receiptFlags record :=
    receipt_octet stored _ rfl (offsets 3 10 (by decide))
  have reserved : receipt.octetAt 11 (by decide) = 0 :=
    receipt_octet stored _ rfl (offsets 4 11 (by decide))
  have padding : receipt.octetAt 27 (by decide) = 0 :=
    receipt_octet stored _ rfl (offsets 10 27 (by decide))
  have known := (hasFlag_receiptFlags record).2.2.2.2.2.2
  have nonempty : UInt8.ofNat binding.app.val.length ≠ 0 := by
    intro zero
    have := congrArg UInt8.toNat zero
    rw [← appLength, appLengthNat] at this
    simp at this
    simp [this] at app
  unfold decodeReceipt
  simp only [magic, version, reserved, padding, flags, known, authenticated, computed, tag,
    phase, appLengthNat, terminator, decoded, Phase.ofByte?_toByte, bound]
  simp [appLength, nonempty, appMax, app.2, guard, decodeRecord_encodeReceipt bound stored,
    recordValid_canonical, valid]

/-- A decoded record carries the generation written at offset 12 of its receipt. -/
theorem decodeReceipt_generation {decoded : Binding × Record}
    (accepted : decodeReceipt crypto receipt psk = some decoded) :
    decoded.2.generation = getU64Le (receipt.slice 12 8 (by decide)).val := by
  simp only [decodeReceipt, Option.bind_eq_bind, Option.bind_eq_some_iff,
    Option.pure_def, Option.some.injEq] at accepted
  obtain ⟨-, -, -, -, -, -, -, -, -, -, -, -, -, -, -, -, -, -, -, -, -, phase, -, -, -, -, -, rfl⟩ :=
    accepted
  rfl

theorem encodeReceipt_generation (valid : bindingValid binding = true)
    (encoded : encodeReceipt crypto binding record psk = some receipt) :
    getU64Le (receipt.slice 12 8 (by decide)).val = record.generation := by
  obtain ⟨hmac, -, stored⟩ := encodeReceipt_eq_some encoded
  have : (receipt.slice 12 8 (by decide)).val = putU64Le record.generation :=
    receipt_field stored rfl (fieldOffset_receipt record valid hmac 5 12 (by decide))
      (length_putU64Le _)
  rw [this, getU64Le_putU64Le]

end RoundTrip

end Goodix.SelfState
