import Mathlib

/-! # Fixed-width octet blocks and little-endian words

A `Block n` is a byte array of exactly `n` octets: the length is part of the
type, so a field copied out of a larger block never needs a separate length
argument.  `leOctets` and `leValue` are the two directions of a fixed-width
little-endian word.
-/

namespace Octets

/-- An array of exactly `n` octets. -/
abbrev Block (n : Nat) := { octets : List UInt8 // octets.length = n }

namespace Block

variable {n : Nat}

@[simp] theorem length_val (block : Block n) : block.val.length = n := block.property

/-- `n` zero octets. -/
def zero (n : Nat) : Block n := ⟨List.replicate n 0, List.length_replicate⟩

/-- The block made of a list that happens to have the right length. -/
def ofList? (n : Nat) (octets : List UInt8) : Option (Block n) :=
  if length : octets.length = n then some ⟨octets, length⟩ else none

/-- The `length` octets that start at `offset`. -/
def slice (block : Block n) (offset length : Nat) (bound : offset + length ≤ n) : Block length :=
  ⟨(block.val.drop offset).take length, by simp; omega⟩

/-- The block followed by another one. -/
def append {m : Nat} (block : Block n) (other : Block m) : Block (n + m) :=
  ⟨block.val ++ other.val, by simp⟩

/-- The block with the octet at `offset`, if it has one, replaced. -/
def set (block : Block n) (offset : Nat) (octet : UInt8) : Block n :=
  ⟨block.val.set offset octet, by simp⟩

/-- The octet at `offset`. -/
def octetAt (block : Block n) (offset : Nat) (bound : offset < n) : UInt8 :=
  block.val.get ⟨offset, by simpa using bound⟩

@[simp] theorem ofList?_val (block : Block n) : ofList? n block.val = some block := by
  simp [ofList?]

theorem ofList?_eq_some {octets : List UInt8} {block : Block n}
    (built : ofList? n octets = some block) : block.val = octets := by
  unfold ofList? at built
  split at built
  · simp only [Option.some.injEq] at built
    rw [← built]
  · cases built

end Block

/-! ## Little-endian words -/

/-- The low `width` octets of `value`, least significant first. -/
def leOctets : Nat → Nat → List UInt8
  | 0, _ => []
  | width + 1, value => UInt8.ofNat value :: leOctets width (value / 256)

/-- The number whose little-endian octets are `octets`. -/
def leValue : List UInt8 → Nat
  | [] => 0
  | octet :: octets => octet.toNat + 256 * leValue octets

@[simp] theorem length_leOctets (width value : Nat) : (leOctets width value).length = width := by
  induction width generalizing value with
  | zero => rfl
  | succ width ih => simp [leOctets, ih]

theorem leValue_leOctets (width value : Nat) :
    leValue (leOctets width value) = value % 256 ^ width := by
  induction width generalizing value with
  | zero => simp [leOctets, leValue, Nat.mod_one]
  | succ width ih =>
    have split : value % (256 * 256 ^ width) =
        value % 256 + 256 * (value / 256 % 256 ^ width) := Nat.mod_mul
    simp only [leOctets, leValue, ih, UInt8.toNat_ofNat', Nat.pow_succ]
    rw [Nat.mul_comm (256 ^ width) 256, split]

theorem leValue_lt (octets : List UInt8) : leValue octets < 256 ^ octets.length := by
  induction octets with
  | nil => simp [leValue]
  | cons octet octets ih =>
    have := octet.toNat_lt
    simp only [leValue, List.length_cons, Nat.pow_succ]
    omega

theorem leOctets_leValue (octets : List UInt8) :
    leOctets octets.length (leValue octets) = octets := by
  induction octets with
  | nil => rfl
  | cons octet octets ih =>
    have bound := octet.toNat_lt
    have head : UInt8.ofNat (octet.toNat + 256 * leValue octets) = octet := by
      apply UInt8.toNat_inj.mp
      simp only [UInt8.toNat_ofNat']
      omega
    have tail : (octet.toNat + 256 * leValue octets) / 256 = leValue octets := by omega
    simp only [List.length_cons, leValue, leOctets, head, tail, ih]

/-! ## Fields of a concatenation -/

/-- The octets before field `index` when `fields` are written one after the other. -/
def fieldOffset (fields : List (List UInt8)) (index : Nat) : Nat :=
  ((fields.take index).map List.length).sum

/-- Reading a concatenation at the offset of a field gives the field back. -/
theorem field_of_flatten {fields : List (List UInt8)} {index : Nat} {field : List UInt8}
    (listed : fields[index]? = some field) {offset length : Nat}
    (starts : fieldOffset fields index = offset) (sized : field.length = length) :
    (fields.flatten.drop offset).take length = field := by
  subst starts sized
  induction fields generalizing index with
  | nil => simp at listed
  | cons head fields ih =>
    cases index with
    | zero =>
      simp only [List.getElem?_cons_zero, Option.some.injEq] at listed
      simp [fieldOffset, listed]
    | succ index =>
      have rest := ih (by simpa using listed)
      simp only [fieldOffset, List.take_succ_cons, List.map_cons, List.sum_cons,
        List.flatten_cons]
      rw [← List.drop_drop, List.drop_left]
      exact rest

/-- The pieces of these lengths, one after the other. -/
def cut : List Nat → List UInt8 → List (List UInt8)
  | [], _ => []
  | length :: lengths, octets => octets.take length :: cut lengths (octets.drop length)

theorem flatten_cut (lengths : List Nat) (octets : List UInt8) :
    (cut lengths octets).flatten = octets.take lengths.sum := by
  induction lengths generalizing octets with
  | nil => rfl
  | cons length lengths ih =>
    rw [cut, List.flatten_cons, ih, List.sum_cons, List.take_add]

theorem get_of_take_one {octets : List UInt8} {offset : Nat} {octet : UInt8}
    (bound : offset < octets.length) (read : (octets.drop offset).take 1 = [octet]) :
    octets.get ⟨offset, bound⟩ = octet := by
  rw [List.drop_eq_getElem_cons bound] at read
  simp only [List.take_succ_cons, List.take_zero, List.cons.injEq, and_true] at read
  simpa using read

/-! ## Machine words -/

def putU16Le (value : UInt16) : List UInt8 := leOctets 2 value.toNat
def getU16Le (octets : List UInt8) : UInt16 := UInt16.ofNat (leValue octets)
def putU32Le (value : UInt32) : List UInt8 := leOctets 4 value.toNat
def getU32Le (octets : List UInt8) : UInt32 := UInt32.ofNat (leValue octets)
def putU64Le (value : UInt64) : List UInt8 := leOctets 8 value.toNat
def getU64Le (octets : List UInt8) : UInt64 := UInt64.ofNat (leValue octets)

@[simp] theorem getU16Le_putU16Le (value : UInt16) : getU16Le (putU16Le value) = value := by
  apply UInt16.toNat_inj.mp
  have bound := value.toNat_lt
  simp only [getU16Le, putU16Le, leValue_leOctets, UInt16.toNat_ofNat']
  omega

theorem leOctets_toNat {width : Nat} {octets : List UInt8} (sized : octets.length = width)
    {bound : Nat} (fits : 256 ^ width ≤ bound) :
    leOctets width (leValue octets % bound) = octets := by
  subst sized
  rw [Nat.mod_eq_of_lt (Nat.lt_of_lt_of_le (leValue_lt octets) fits), leOctets_leValue]

theorem putU16Le_getU16Le {octets : List UInt8} (sized : octets.length = 2) :
    putU16Le (getU16Le octets) = octets := by
  simpa only [putU16Le, getU16Le, UInt16.toNat_ofNat'] using leOctets_toNat sized (by decide)

theorem putU64Le_getU64Le {octets : List UInt8} (sized : octets.length = 8) :
    putU64Le (getU64Le octets) = octets := by
  simpa only [putU64Le, getU64Le, UInt64.toNat_ofNat'] using leOctets_toNat sized (by decide)

@[simp] theorem getU64Le_putU64Le (value : UInt64) : getU64Le (putU64Le value) = value := by
  apply UInt64.toNat_inj.mp
  have bound := value.toNat_lt
  simp only [getU64Le, putU64Le, leValue_leOctets, UInt64.toNat_ofNat']
  omega

@[simp] theorem length_putU16Le (value : UInt16) : (putU16Le value).length = 2 := by
  simp [putU16Le]

@[simp] theorem length_putU64Le (value : UInt64) : (putU64Le value).length = 8 := by
  simp [putU64Le]

end Octets
