import Goodix.Config90
import Goodix.SecureSession.Contract

/-! # The derived configuration passes its validator

`goodix_config90_derive` patches a template and closes it with a checksum; the secure
session checks the checksum and four registers again, with offsets of its own.  What
both agree on is where the template has its registers: no patch writes there.
-/

namespace Goodix.Config90

open Octets

/-! ## Where a patch writes -/

def octet (config : Config) (index : Nat) : UInt8 := config.val.getD index 0

/-- The entry of a register that `patch_unique` finds. -/
def patchTarget (config : Config) (sectionIndex : Nat) (register : UInt16) : Option Nat :=
  if sectionIndex > 7 then none
  else
    let offset := (config.val.getD (2 * sectionIndex + 1) 0).toNat
    let count := (config.val.getD (2 * sectionIndex + 2) 0).toNat
    if count = 0 || count % 4 ≠ 0 || offset > 224 || count > 224 - offset then none
    else
      match registerMatches config offset count register with
      | [target] => some target
      | _ => none

/-- What `patch_unique` writes there. -/
def writeValue (config : Config) (target : Nat) (value : UInt16) (mode : ByteMode) : Config :=
  let config := if mode = .high then config else config.set target value.toUInt8
  if mode = .low then config else config.set (target + 1) (value >>> 8).toUInt8

theorem patchUnique_eq (config : Config) (sectionIndex : Nat) (register value : UInt16)
    (mode : ByteMode) :
    patchUnique config sectionIndex register value mode =
      (patchTarget config sectionIndex register).map
        fun target => writeValue config target value mode := by
  simp only [patchUnique, patchTarget]
  by_cases beyond : sectionIndex > 7
  · simp [beyond]
  · simp only [beyond, if_false]
    generalize registerMatches config _ _ register = found
    split
    · rfl
    · cases found with
      | nil => rfl
      | cons first others => cases others <;> rfl

/-- The offsets of the template that a derivation patches: the two octets of `tcode` and of each
DAC register, the FDT offset and `delta`. -/
def patchedOffsets : List Nat := [115, 116, 119, 120, 123, 124, 127, 128, 131, 132, 155, 176]

/-- The template, but for the patched octets. -/
def Framed (config : Config) : Prop :=
  ∀ index, index ∉ patchedOffsets → octet config index = octet type12Template index

theorem octet_set {config : Config} {offset : Nat} (bound : offset < 224) (value : UInt8)
    (index : Nat) :
    octet (config.set offset value) index =
      if index = offset then value else octet config index := by
  have length : config.val.length = 224 := by simp
  by_cases same : index = offset
  · subst same
    simp [octet, Block.set, List.getD_eq_getElem?_getD, length, bound]
  · have other : offset ≠ index := fun equal => same equal.symm
    simp [octet, Block.set, List.getD_eq_getElem?_getD, same, other]

theorem octet_writeValue {config : Config} {target : Nat} (bound : target + 1 < 224)
    (value : UInt16) (mode : ByteMode) (index : Nat) :
    octet (writeValue config target value mode) index =
      if index = target ∧ mode ≠ .high then value.toUInt8
      else if index = target + 1 ∧ mode ≠ .low then (value >>> 8).toUInt8
      else octet config index := by
  have before : target < 224 := by omega
  cases mode with
  | both =>
    simp only [writeValue, reduceCtorEq, if_false, octet_set bound, octet_set before, ne_eq,
      not_false_eq_true, and_true]
    by_cases first : index = target
    · simp [first]
    · simp [first]
  | low =>
    simp only [writeValue, reduceCtorEq, if_true, if_false, octet_set before, ne_eq,
      not_false_eq_true, not_true_eq_false, and_true, and_false]
  | high =>
    simp only [writeValue, reduceCtorEq, if_true, if_false, octet_set bound, ne_eq,
      not_false_eq_true, not_true_eq_false, and_true, and_false]

theorem Framed.writeValue {config : Config} (framed : Framed config) (target : Nat)
    (bound : target + 1 < 224) (value : UInt16) (mode : ByteMode)
    (low : mode = .high ∨ target ∈ patchedOffsets)
    (high : mode = .low ∨ target + 1 ∈ patchedOffsets) :
    Framed (Config90.writeValue config target value mode) := by
  intro index outside
  rw [octet_writeValue bound, if_neg, if_neg, framed index outside]
  · rintro ⟨rfl, notLow⟩
    exact high.elim notLow outside
  · rintro ⟨rfl, notHigh⟩
    exact low.elim notHigh outside

/-! ## The registers stay where they are -/

theorem drop_take_two {octets : List UInt8} {offset : Nat} (bound : offset + 1 < octets.length) :
    (octets.drop offset).take 2 = [octets.getD offset 0, octets.getD (offset + 1) 0] := by
  have first : offset < octets.length := by omega
  rw [List.drop_eq_getElem_cons first, List.drop_eq_getElem_cons bound]
  simp only [List.take_succ_cons, List.take_zero, List.getD_eq_getElem?_getD]
  simp [first, bound]

theorem readLe16_eq (config : Config) {offset : Nat} (bound : offset + 1 < 224) :
    readLe16 config offset =
      getU16Le [octet config offset, octet config (offset + 1)] := by
  rw [readLe16, drop_take_two (by simpa using bound), octet, octet]

/-- A section whose entries are named outside the patched offsets. -/
def SectionFramed (sectionIndex : Nat) : Prop :=
  let offset := (octet type12Template (2 * sectionIndex + 1)).toNat
  let count := (octet type12Template (2 * sectionIndex + 2)).toNat
  2 * sectionIndex + 1 ∉ patchedOffsets ∧ 2 * sectionIndex + 2 ∉ patchedOffsets ∧
    ∀ entry < count / 4, offset + 4 * entry ∉ patchedOffsets ∧
      offset + 4 * entry + 1 ∉ patchedOffsets ∧ offset + 4 * entry + 1 < 224

instance (sectionIndex : Nat) : Decidable (SectionFramed sectionIndex) :=
  inferInstanceAs (Decidable (_ ∧ _ ∧ ∀ entry < _, _))

theorem Framed.patchTarget {config : Config} (framed : Framed config) {sectionIndex : Nat}
    (named : SectionFramed sectionIndex) (register : UInt16) :
    Config90.patchTarget config sectionIndex register =
      Config90.patchTarget type12Template sectionIndex register := by
  obtain ⟨offsetFramed, countFramed, entries⟩ := named
  have sameOffset : config.val.getD (2 * sectionIndex + 1) 0 =
      type12Template.val.getD (2 * sectionIndex + 1) 0 := framed _ offsetFramed
  have sameCount : config.val.getD (2 * sectionIndex + 2) 0 =
      type12Template.val.getD (2 * sectionIndex + 2) 0 := framed _ countFramed
  simp only [Config90.patchTarget, sameOffset, sameCount]
  -- the names of the registers are read from the template
  have matched : registerMatches config
      (type12Template.val.getD (2 * sectionIndex + 1) 0).toNat
      (type12Template.val.getD (2 * sectionIndex + 2) 0).toNat register =
    registerMatches type12Template
      (type12Template.val.getD (2 * sectionIndex + 1) 0).toNat
      (type12Template.val.getD (2 * sectionIndex + 2) 0).toNat register := by
    unfold registerMatches
    congr 1
    apply List.filter_congr
    intro entry member
    obtain ⟨first, second, bound⟩ := entries entry (List.mem_range.mp member)
    have same : readLe16 config
        ((type12Template.val.getD (2 * sectionIndex + 1) 0).toNat + 4 * entry) =
      readLe16 type12Template
        ((type12Template.val.getD (2 * sectionIndex + 1) 0).toNat + 4 * entry) := by
      refine (readLe16_eq config bound).trans ?_
      rw [framed _ first, framed _ second]
      exact (readLe16_eq type12Template bound).symm
    rw [same]
  rw [matched]

theorem Framed.patchUnique {config : Config} (framed : Framed config) {sectionIndex target : Nat}
    {register : UInt16} (named : SectionFramed sectionIndex)
    (found : Config90.patchTarget type12Template sectionIndex register = some target)
    (value : UInt16) (mode : ByteMode) :
    Config90.patchUnique config sectionIndex register value mode =
      some (Config90.writeValue config target value mode) := by
  rw [patchUnique_eq, framed.patchTarget named, found]
  rfl

/-! ## The patched template -/

/-- The DAC registers are four. -/
local instance fourRegisters : NeZero 4 := ⟨by decide⟩

/-- The template with every patch in its place. -/
def patched (calibration : Calibration) : Config :=
  let config := writeValue type12Template 119 (calibration.dacRegisters 0) .both
  let config := writeValue config 123 (calibration.dacRegisters 1) .both
  let config := writeValue config 127 (calibration.dacRegisters 2) .both
  let config := writeValue config 131 (calibration.dacRegisters 3) .both
  let config := writeValue config 115 calibration.tcode .both
  let config := writeValue config 175 (calibration.delta.toUInt16 <<< 8) .high
  if calibration.fdtOffset ≠ 0 then
    writeValue config 155 (calibration.fdtOffset.toUInt16 + 4) .low
  else config

/-- No patch of the template can fail. -/
theorem patchTemplate_framed (calibration : Calibration) :
    patchTemplate calibration = some (patched calibration) ∧ Framed (patched calibration) := by
  have first : SectionFramed 0 := by decide +kernel
  have third : SectionFramed 2 := by decide +kernel
  have framed0 : Framed type12Template := fun _ _ => rfl
  have framed1 := framed0.writeValue 119 (by decide) (calibration.dacRegisters 0) .both
    (by decide) (by decide)
  have framed2 := framed1.writeValue 123 (by decide) (calibration.dacRegisters 1) .both
    (by decide) (by decide)
  have framed3 := framed2.writeValue 127 (by decide) (calibration.dacRegisters 2) .both
    (by decide) (by decide)
  have framed4 := framed3.writeValue 131 (by decide) (calibration.dacRegisters 3) .both
    (by decide) (by decide)
  have framed5 := framed4.writeValue 115 (by decide) calibration.tcode .both
    (by decide) (by decide)
  have framed6 := framed5.writeValue 175 (by decide) (calibration.delta.toUInt16 <<< 8) .high
    (by decide) (by decide)
  have found0 : patchTarget type12Template 0 0x0220 = some 119 := by decide +kernel
  have found1 : patchTarget type12Template 0 0x0236 = some 123 := by decide +kernel
  have found2 : patchTarget type12Template 0 0x0238 = some 127 := by decide +kernel
  have found3 : patchTarget type12Template 0 0x023a = some 131 := by decide +kernel
  have found4 : patchTarget type12Template 0 0x005c = some 115 := by decide +kernel
  have found5 : patchTarget type12Template 2 0x0082 = some 175 := by decide +kernel
  have found6 : patchTarget type12Template 2 0x0056 = some 155 := by decide +kernel
  have framed7 := framed6.writeValue 155 (by decide) (calibration.fdtOffset.toUInt16 + 4) .low
    (by decide) (by decide)
  constructor
  · simp only [patchTemplate, patched, framed0.patchUnique first found0,
      framed1.patchUnique first found1, framed2.patchUnique first found2,
      framed3.patchUnique first found3, framed4.patchUnique first found4,
      framed5.patchUnique third found5, framed6.patchUnique third found6,
      Option.bind_eq_bind, Option.bind_some]
    split <;> rfl
  · simp only [patched]
    split
    · exact framed7
    · exact framed6

theorem patched_dac (calibration : Calibration) (index : Fin 4) :
    octet (patched calibration) (119 + 4 * index.val) =
        (calibration.dacRegisters index).toUInt8 ∧
      octet (patched calibration) (119 + 4 * index.val + 1) =
        (calibration.dacRegisters index >>> 8).toUInt8 := by
  simp only [patched]
  fin_cases index <;> split <;> simp [octet_writeValue]

/-! ## The finalizer -/

theorem putU16Le_eq (value : UInt16) :
    putU16Le value = [value.toUInt8, (value >>> 8).toUInt8] := by
  have low : UInt8.ofNat value.toNat = value.toUInt8 := by
    apply UInt8.toNat_inj.mp
    simp
  have high : UInt8.ofNat (value.toNat / 256) = (value >>> 8).toUInt8 := by
    apply UInt8.toNat_inj.mp
    simp [Nat.shiftRight_eq_div_pow]
  simp [putU16Le, leOctets, low, high]

theorem octet_fixFinalizer {config : Config} {index : Nat} (below : index < 222) :
    octet (fixFinalizer config) index = octet config index := by
  have first : index ≠ 222 := by omega
  have second : index ≠ 223 := by omega
  simp only [fixFinalizer, octet_set (by decide : 223 < 224), octet_set (by decide : 222 < 224),
    if_neg first, if_neg second]

/-- The sum of the words, in the width of the checksum or in a wider one. -/
theorem foldl_toUInt16 (words : Nat → UInt16) (indices : List Nat) (start : UInt32) :
    (indices.foldl (fun sum index => sum + (words index).toUInt32) start).toUInt16 =
      indices.foldl (fun sum index => sum + words index) start.toUInt16 := by
  induction indices generalizing start with
  | nil => rfl
  | cons index indices ih =>
    simp only [List.foldl_cons]
    rw [ih]
    simp

theorem foldl_start (words : Nat → UInt16) (indices : List Nat) (start : UInt16) :
    indices.foldl (fun sum index => sum + words index) start =
      start + indices.foldl (fun sum index => sum + words index) 0 := by
  induction indices generalizing start with
  | nil => simp
  | cons index indices ih =>
    simp only [List.foldl_cons]
    rw [ih (start + words index), ih (0 + words index)]
    simp [UInt16.add_assoc]

/-- The checksum that closes a configuration is the one its validator computes. -/
theorem validateConfigFinalizer_fixFinalizer (config : Config) :
    SecureSession.validateConfigFinalizer (fixFinalizer config).val = true := by
  have word (index : Nat) (below : index < 111) :
      getU16Le [(fixFinalizer config).val.getD (2 * index) 0,
        (fixFinalizer config).val.getD (2 * index + 1) 0] = readLe16 config (2 * index) := by
    have low : octet (fixFinalizer config) (2 * index) = octet config (2 * index) :=
      octet_fixFinalizer (by omega)
    have high : octet (fixFinalizer config) (2 * index + 1) = octet config (2 * index + 1) :=
      octet_fixFinalizer (by omega)
    rw [readLe16_eq config (by omega), ← low, ← high]
    rfl
  let sum := (List.range 111).foldl (fun sum word => sum + readLe16 config (2 * word)) 0xa5a5
  have last : getU16Le [(fixFinalizer config).val.getD (2 * 111) 0,
      (fixFinalizer config).val.getD (2 * 111 + 1) 0] = 0 - sum := by
    have low : octet (fixFinalizer config) 222 = (0 - sum).toUInt8 := by
      simp [fixFinalizer, octet_set, sum]
    have high : octet (fixFinalizer config) 223 = ((0 - sum) >>> 8).toUInt8 := by
      simp [fixFinalizer, octet_set, sum]
    rw [← getU16Le_putU16Le (0 - sum), putU16Le_eq, ← low, ← high]
    rfl
  simp only [SecureSession.validateConfigFinalizer, decide_eq_true_eq]
  rw [last]
  have words : (List.range 111).foldl (fun (sum : UInt32) index => sum +
      (getU16Le [(fixFinalizer config).val.getD (2 * index) 0,
        (fixFinalizer config).val.getD (2 * index + 1) 0]).toUInt32) 0 =
      (List.range 111).foldl (fun sum index => sum + (readLe16 config (2 * index)).toUInt32) 0 := by
    apply List.foldl_ext
    intro sum index member
    rw [word index (List.mem_range.mp member)]
  rw [words, UInt32.toUInt16_sub, UInt32.toUInt16_sub, foldl_toUInt16]
  have started := foldl_start (fun index => readLe16 config (2 * index)) (List.range 111) 0xa5a5
  have sums : sum = 0xa5a5 + (List.range 111).foldl
      (fun sum index => sum + readLe16 config (2 * index)) 0 := started
  rw [sums]
  have zero : (0 : UInt32).toUInt16 = 0 := rfl
  have start : (0xa5a5 : UInt32).toUInt16 = 0xa5a5 := rfl
  rw [zero, start]
  grind

/-! ## What the derivation gives -/

/-- The calibration values before they are cut to their widths. -/
def tcodeValue (tcodeDiff : UInt8) : Nat := 16 * ((tcodeDiff.toNat >>> 4) % 16 + 1) + 64

def deltaValue (tcodeDiff : UInt8) : Nat :=
  (((100 * (tcodeDiff.toNat % 16 + 2)) <<< 8) / tcodeValue tcodeDiff / 3) >>> 4

theorem tcodeValue_bounds (tcodeDiff : UInt8) :
    80 ≤ tcodeValue tcodeDiff ∧ tcodeValue tcodeDiff ≤ 320 := by
  unfold tcodeValue
  omega

theorem deltaValue_lt (tcodeDiff : UInt8) : deltaValue tcodeDiff < 256 := by
  have bounds := tcodeValue_bounds tcodeDiff
  have product : (100 * (tcodeDiff.toNat % 16 + 2)) <<< 8 ≤ 435200 := by
    rw [Nat.shiftLeft_eq]
    omega
  have quotient : ((100 * (tcodeDiff.toNat % 16 + 2)) <<< 8) / tcodeValue tcodeDiff ≤ 435200 / 80 :=
    Nat.div_le_div product bounds.1 (by decide)
  rw [deltaValue, Nat.shiftRight_eq_div_pow]
  omega

theorem derive_eq_ok {chipId : UInt16} {otp : Otp} {config : Config} {calibration : Calibration}
    (derived : derive chipId otp = .ok (config, calibration)) :
    config = fixFinalizer (patched calibration) ∧
      ∃ diff offset, tcodeDiff otp = some diff ∧ calibration = calibrationOf otp diff offset := by
  unfold derive at derived
  split at derived
  · cases derived
  · split at derived
    · cases derived
    · split at derived
      · cases derived
      · split at derived
        · cases derived
        · rename_i diff found
          split at derived
          · cases derived
          · rename_i offset decoded
            simp only [(patchTemplate_framed _).1, Except.ok.injEq, Prod.mk.injEq] at derived
            obtain ⟨rfl, rfl⟩ := derived
            exact ⟨rfl, diff, offset, found, rfl⟩

theorem derive_ne_template (chipId : UInt16) (otp : Otp) (message : String) :
    derive chipId otp ≠ .error (config90Error errorTemplate message) := by
  intro failed
  simp only [derive, (patchTemplate_framed _).1] at failed
  split at failed
  · simp [config90Error, errorProfile, errorTemplate] at failed
  · split at failed
    · simp [config90Error, errorOtp, errorTemplate] at failed
    · split at failed
      · simp [config90Error, errorOtp, errorTemplate] at failed
      · split at failed
        · simp [config90Error, errorOtp, errorTemplate] at failed
        · split at failed
          · simp [config90Error, errorOtp, errorTemplate] at failed
          · cases failed

theorem drop_take_four {octets : List UInt8} {offset : Nat} (bound : offset + 3 < octets.length) :
    (octets.drop offset).take 4 = [octets.getD offset 0, octets.getD (offset + 1) 0,
      octets.getD (offset + 2) 0, octets.getD (offset + 3) 0] := by
  have split : (octets.drop offset).take 4 =
      (octets.drop offset).take 2 ++ (octets.drop (offset + 2)).take 2 := by
    rw [← List.drop_drop, ← List.take_add]
  rw [split, drop_take_two (by omega), drop_take_two (by omega)]
  rfl

/-- The registers of a derived configuration are where the session looks for them. -/
theorem dacCorrelated_patched {material : SecureMaterial} {calibration : Calibration}
    (config90 : material.config90 = (fixFinalizer (patched calibration)).val)
    (dacValues : material.dacValues = calibration.dacRegisters) (index : Fin 4) :
    SecureSession.dacCorrelated material index = true := by
  have framed := (patchTemplate_framed calibration).2
  obtain ⟨low, high⟩ := patched_dac calibration index
  have offset : SecureSession.configDacOffsets.getD index.val 0 = 117 + 4 * index.val := by
    fin_cases index <;> rfl
  have named : [octet type12Template (117 + 4 * index.val),
      octet type12Template (117 + 4 * index.val + 1)] =
      putU16Le (SecureSession.dacRegisters.getD index.val 0) := by
    fin_cases index <;> decide +kernel
  have first : 117 + 4 * index.val ∉ patchedOffsets ∧ 117 + 4 * index.val + 1 ∉ patchedOffsets := by
    fin_cases index <;> decide
  have bound : index.val < 4 := index.isLt
  -- neither the finalizer nor a later patch writes the four octets of the entry
  have at0 : octet (fixFinalizer (patched calibration)) (117 + 4 * index.val) =
      octet type12Template (117 + 4 * index.val) :=
    (octet_fixFinalizer (by omega)).trans (framed _ first.1)
  have at1 : octet (fixFinalizer (patched calibration)) (117 + 4 * index.val + 1) =
      octet type12Template (117 + 4 * index.val + 1) :=
    (octet_fixFinalizer (by omega)).trans (framed _ first.2)
  have at2 : octet (fixFinalizer (patched calibration)) (117 + 4 * index.val + 2) =
      (calibration.dacRegisters index).toUInt8 := by
    rw [octet_fixFinalizer (by omega), ← low]
    congr 1
    omega
  have at3 : octet (fixFinalizer (patched calibration)) (117 + 4 * index.val + 3) =
      (calibration.dacRegisters index >>> 8).toUInt8 := by
    rw [octet_fixFinalizer (by omega), ← high]
    congr 1
    omega
  simp only [SecureSession.dacCorrelated, decide_eq_true_eq]
  rw [config90, dacValues, offset, drop_take_four (by simp; omega), ← named, putU16Le_eq]
  change [octet _ _, octet _ _, octet _ _, octet _ _] = _
  rw [at0, at1, at2, at3]
  rfl

/-- Whatever the chip and its OTP, the template is never found wanting; and what is derived is the
template with its patches, in range, and passes the checks of the secure session. -/
theorem derived_configuration_valid (chipId : UInt16) (otp : Otp) :
    (∀ message, derive chipId otp ≠ .error (config90Error errorTemplate message)) ∧
    ∀ config calibration, derive chipId otp = .ok (config, calibration) →
      (80 ≤ calibration.tcode.toNat ∧ calibration.tcode.toNat ≤ 320) ∧
      (∃ diff, tcodeDiff otp = some diff ∧ calibration.tcode.toNat = tcodeValue diff ∧
        calibration.delta.toNat = deltaValue diff) ∧
      (∀ index < 222, index ∉ patchedOffsets →
        config.val.getD index 0 = type12Template.val.getD index 0) ∧
      SecureSession.validateConfigFinalizer config.val = true ∧
      ∀ material : SecureMaterial, material.config90 = config.val →
        material.dacValues = calibration.dacRegisters →
        ∀ index, SecureSession.dacCorrelated material index = true := by
  refine ⟨derive_ne_template chipId otp, ?_⟩
  intro config calibration derived
  obtain ⟨rfl, diff, offset, found, calibrated⟩ := derive_eq_ok derived
  have bounds := tcodeValue_bounds diff
  have tcode : calibration.tcode.toNat = tcodeValue diff := by
    have whole : tcodeValue diff < 65536 := by omega
    rw [calibrated]
    exact (UInt16.toNat_ofNat').trans (Nat.mod_eq_of_lt whole)
  have delta : calibration.delta.toNat = deltaValue diff := by
    rw [calibrated]
    exact (UInt8.toNat_ofNat').trans (Nat.mod_eq_of_lt (deltaValue_lt diff))
  refine ⟨by omega, ⟨diff, found, tcode, delta⟩, ?_, ?_, ?_⟩
  · intro index below outside
    exact (octet_fixFinalizer below).trans ((patchTemplate_framed calibration).2 index outside)
  · exact validateConfigFinalizer_fixFinalizer _
  · intro material config90 dacValues index
    exact dacCorrelated_patched config90 dacValues index

/-- The configuration that an accepted OTP gives, with the registers that the session reads. -/
theorem derived_configuration_valid_plain :
    ∃ config calibration, derive 0x2504 plainOtp = .ok (config, calibration) ∧
      (80 ≤ calibration.tcode.toNat ∧ calibration.tcode.toNat ≤ 320) ∧
      SecureSession.validateConfigFinalizer config.val = true ∧
      ∀ material : SecureMaterial, material.config90 = config.val →
        material.dacValues = calibration.dacRegisters →
        ∀ index, SecureSession.dacCorrelated material index = true := by
  obtain ⟨⟨config, calibration⟩, derived⟩ := derive_plainOtp
  obtain ⟨tcode, -, -, finalizer, correlated⟩ :=
    (derived_configuration_valid 0x2504 plainOtp).2 config calibration derived
  exact ⟨config, calibration, derived, tcode, finalizer, correlated⟩

end Goodix.Config90
