import Goodix.Primitives

/-! # State-v2 bindings and records

`goodix_self_state.h`: the reader a pairing belongs to, the record kept about it,
and the loaded state.
-/

namespace Goodix.SelfState

open Octets

inductive Phase where
  | prepared
  | active
  | recoveryRequired
  deriving DecidableEq, Repr

/-- The value of the C enumerator. -/
def Phase.toByte : Phase → UInt8
  | .prepared => 1
  | .active => 2
  | .recoveryRequired => 3

/-- The enumerator a stored octet stands for; `record_valid` refuses every other octet. -/
def Phase.ofByte? (octet : UInt8) : Option Phase :=
  if octet = 1 then some .prepared
  else if octet = 2 then some .active
  else if octet = 3 then some .recoveryRequired
  else none

@[simp] theorem Phase.ofByte?_toByte (phase : Phase) : Phase.ofByte? phase.toByte = some phase := by
  cases phase <;> rfl

/-- The octets of a `gchar` array before its terminator, so without a zero octet. -/
abbrev CString := { octets : List UInt8 // (0 : UInt8) ∉ octets }

/-- The C string at the start of a buffer. -/
def CString.ofBuffer (buffer : List UInt8) : CString :=
  ⟨buffer.takeWhile (· ≠ 0), fun member => by
    have := List.mem_takeWhile_imp member
    simp at this⟩

theorem CString.ofBuffer_val (text : CString) : CString.ofBuffer text.val = text := by
  apply Subtype.ext
  rw [CString.ofBuffer, List.takeWhile_eq_self_iff]
  intro octet member
  have : octet ≠ 0 := fun zero => text.property (zero ▸ member)
  simpa using this

def appMax : Nat := 32

/-- `g_strlcpy` to a buffer of `size` octets. -/
def strlcpy (text : CString) (size : Nat) : CString :=
  ⟨text.val.take (size - 1), fun member => text.property (List.mem_of_mem_take member)⟩

structure Binding where
  vid : UInt16
  pid : UInt16
  chipProfile : UInt16
  app : CString
  otpSha256 : Digest
  config90Sha256 : Digest
  deriving DecidableEq

/-- `strcmp` on the application name and a comparison of every other field. -/
def bindingEqual (left right : Binding) : Bool :=
  left.vid == right.vid && left.pid == right.pid && left.chipProfile == right.chipProfile &&
    left.app == right.app && left.otpSha256 == right.otpSha256 &&
    left.config90Sha256 == right.config90Sha256

@[simp] theorem bindingEqual_iff (left right : Binding) :
    bindingEqual left right = true ↔ left = right := by
  cases left
  cases right
  simp only [bindingEqual, Bool.and_eq_true, beq_iff_eq, Binding.mk.injEq, and_assoc]

def bindingValid (binding : Binding) : Bool :=
  0 < binding.app.val.length && binding.app.val.length < appMax

theorem bindingValid_iff (binding : Binding) :
    bindingValid binding = true ↔
      0 < binding.app.val.length ∧ binding.app.val.length < 32 := by
  simp only [bindingValid, Bool.and_eq_true, decide_eq_true_eq]
  rfl

structure Record where
  phase : Phase
  generation : UInt64
  expectedValidator : Validator
  priorValidatorPresent : Bool
  priorValidator : Validator
  fdtPresent : Bool
  fdtTable : Block 12
  migratedLegacy : Bool
  legacySourceSha256 : Digest
  bb010002Sha256Present : Bool
  bb010002Sha256 : Digest
  e0Attempted : Bool
  terminalProof : Bool
  deriving DecidableEq

def recordValid (record : Record) : Bool :=
  record.generation != 0 &&
    !(record.migratedLegacy && record.bb010002Sha256Present) &&
    (record.terminalProof == (record.phase == .active))

/-- A receipt has one field for the two digests: the half the flag does not select is lost. -/
def Record.canonical (record : Record) : Record :=
  if record.bb010002Sha256Present then { record with legacySourceSha256 := Block.zero 32 }
  else { record with bb010002Sha256 := Block.zero 32 }

@[simp] theorem Record.canonical_generation (record : Record) :
    record.canonical.generation = record.generation := by
  unfold Record.canonical
  split <;> rfl

theorem recordValid_canonical (record : Record) :
    recordValid record.canonical = recordValid record := by
  unfold Record.canonical
  split <;> rfl

/-- `struct _GoodixSelfState`: what a load hands out. -/
structure State where
  binding : Binding
  record : Record
  psk : Psk
  deriving DecidableEq

end Goodix.SelfState
