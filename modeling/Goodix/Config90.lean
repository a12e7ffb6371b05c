import Goodix.Primitives

/-! # The type-12 configuration

`goodix_config90.c`: the 224 octets of command 0x90 are a fixed template with a few
registers patched from the one-time-programmable memory of the chip.
-/

namespace Goodix.Config90

open Octets

abbrev Config := Block 224
abbrev Otp := Block 64

structure Calibration where
  dacRegisters : Fin 4 → UInt16
  tcode : UInt16
  delta : UInt8
  fdtOffset : UInt8
  deriving DecidableEq

def Calibration.zero : Calibration := ⟨fun _ => 0, 0, 0, 0⟩

def config90Error (code : Nat) (message : String) : GError :=
  ⟨"goodix-config90-error", code, message⟩

def errorProfile : Nat := 1
def errorOtp : Nat := 2
def errorTemplate : Nat := 3

def type12Template : Config := ⟨[
  0x70, 0x11, 0x74, 0x85, 0x00, 0x85, 0x2c, 0xb1, 0x18, 0xc9, 0x14, 0xdd, 0x00, 0xdd, 0x00, 0xdd,
  0x00, 0xba, 0x00, 0x01, 0x80, 0xca, 0x00, 0x04, 0x00, 0x84, 0x00, 0x15, 0xb3, 0x86, 0x00, 0x00,
  0xc4, 0x88, 0x00, 0x00, 0xba, 0x8a, 0x00, 0x00, 0xb2, 0x8c, 0x00, 0x00, 0xaa, 0x8e, 0x00, 0x00,
  0xc1, 0x90, 0x00, 0xbb, 0xbb, 0x92, 0x00, 0xb1, 0xb1, 0x94, 0x00, 0x00, 0xa8, 0x96, 0x00, 0x00,
  0xb6, 0x98, 0x00, 0x00, 0x00, 0x9a, 0x00, 0x00, 0x00, 0xd2, 0x00, 0x00, 0x00, 0xd4, 0x00, 0x00,
  0x00, 0xd6, 0x00, 0x00, 0x00, 0xd8, 0x00, 0x00, 0x00, 0x50, 0x00, 0x01, 0x05, 0xd0, 0x00, 0x00,
  0x00, 0x70, 0x00, 0x00, 0x00, 0x72, 0x00, 0x78, 0x56, 0x74, 0x00, 0x34, 0x12, 0x20, 0x00, 0x10,
  0x40, 0x5c, 0x00, 0x80, 0x01, 0x20, 0x02, 0x08, 0x08, 0x36, 0x02, 0x80, 0x00, 0x38, 0x02, 0x80,
  0x00, 0x3a, 0x02, 0x80, 0x00, 0x2a, 0x01, 0x82, 0x03, 0x22, 0x00, 0x01, 0x20, 0x24, 0x00, 0x14,
  0x00, 0x80, 0x00, 0x01, 0x00, 0x5c, 0x00, 0x00, 0x01, 0x56, 0x00, 0x04, 0x20, 0x58, 0x00, 0x03,
  0x02, 0x32, 0x00, 0x0c, 0x02, 0x66, 0x00, 0x03, 0x00, 0x7c, 0x00, 0x00, 0x58, 0x82, 0x00, 0x80,
  0x15, 0x2a, 0x01, 0x08, 0x00, 0x54, 0x00, 0x10, 0x01, 0x62, 0x00, 0x04, 0x03, 0x64, 0x00, 0x19,
  0x00, 0x66, 0x00, 0x03, 0x00, 0x7c, 0x00, 0x00, 0x58, 0x2a, 0x01, 0x08, 0x00, 0x52, 0x00, 0x08,
  0x00, 0x54, 0x00, 0x00, 0x01, 0x66, 0x00, 0x03, 0x00, 0x7c, 0x00, 0x00, 0x58, 0x00, 0x00, 0x00],
  by decide +kernel⟩

/-- One bit of the CRC, polynomial 0x07. -/
def crcShift (crc : UInt8) : UInt8 :=
  if crc &&& 0x80 ≠ 0 then (crc <<< 1) ^^^ 0x07 else crc <<< 1

/-- `otp_crc8` -/
def otpCrc8 (data : List UInt8) : UInt8 :=
  ~~~ data.foldl (fun crc octet => Nat.iterate crcShift 8 (crc ^^^ octet)) 0

/-- `length` octets of the OTP from `offset` on, as `memcpy` takes them. -/
def otpRange (otp : Otp) (offset length : Nat) : List UInt8 := (otp.val.drop offset).take length

/-- `validate_group_crcs` -/
def validateGroupCrcs (otp : Otp) : Bool :=
  otpCrc8 (otpRange otp 0 11 ++ otpRange otp 36 4) = otp.octetAt 60 (by decide) &&
    otpCrc8 (otpRange otp 11 9 ++ otpRange otp 28 1 ++ otpRange otp 50 4 ++ otpRange otp 56 4 ++
      otpRange otp 62 1) = otp.octetAt 61 (by decide) &&
    otpCrc8 (otpRange otp 20 8 ++ otpRange otp 29 7 ++ otpRange otp 40 10 ++ otpRange otp 54 2) =
      otp.octetAt 63 (by decide)

def readLe16 (config : Config) (offset : Nat) : UInt16 :=
  getU16Le ((config.val.drop offset).take 2)

/-- Which octets of a register `patch_unique` writes. -/
inductive ByteMode where
  | both
  | low
  | high
  deriving DecidableEq, Repr

/-- The entries of a section that name the register, as offsets of their values. -/
def registerMatches (config : Config) (offset count : Nat) (register : UInt16) : List Nat :=
  ((List.range (count / 4)).filter fun entry => readLe16 config (offset + 4 * entry) = register).map
    fun entry => offset + 4 * entry + 2

/-- `patch_unique` -/
def patchUnique (config : Config) (sectionIndex : Nat) (register value : UInt16)
    (mode : ByteMode) : Option Config :=
  if sectionIndex > 7 then none
  else
    let offset := (config.val.getD (2 * sectionIndex + 1) 0).toNat
    let count := (config.val.getD (2 * sectionIndex + 2) 0).toNat
    if count = 0 || count % 4 ≠ 0 || offset > 224 || count > 224 - offset then none
    else
      match registerMatches config offset count register with
      | [target] =>
        let config := if mode = .high then config else config.set target value.toUInt8
        some (if mode = .low then config else config.set (target + 1) (value >>> 8).toUInt8)
      | _ => none

/-- `fix_finalizer` -/
def fixFinalizer (config : Config) : Config :=
  let sum := (List.range 111).foldl (fun sum word => sum + readLe16 config (2 * word)) 0xa5a5
  let sum := 0 - sum
  (config.set 222 sum.toUInt8).set 223 (sum >>> 8).toUInt8

/-- `decode_fdt_offset` -/
def decodeFdtOffset (encoded : UInt8) : Option UInt8 :=
  if encoded = 0 then some 0
  else
    let low := encoded &&& 3
    let high := (encoded >>> 4) &&& 3
    let inverted := (~~~ encoded >>> 2) &&& 3
    if low = high || low = inverted then some low
    else if high = inverted then some high
    else none

/-- The one of the three stored copies of the tcode octet that `goodix_config90_derive` trusts. -/
def tcodeDiff (otp : Otp) : Option UInt8 :=
  let first := otp.octetAt 42 (by decide)
  let check := otp.octetAt 43 (by decide)
  let second := otp.octetAt 45 (by decide)
  if first ≠ 0 && first = ~~~ check then some first
  else if second ≠ 0 && second = ~~~ check then some second
  else if first ≠ 0 && second = first then some first
  else none

/-- The calibration values read from the OTP. -/
def calibrationOf (otp : Otp) (tcodeDiff fdtOffset : UInt8) : Calibration :=
  let dac (index : Nat) := (otp.val.getD (50 + index) 0).toUInt16
  let tcode := 16 * ((tcodeDiff.toNat >>> 4) % 16 + 1) + 64
  let delta := ((100 * (tcodeDiff.toNat % 16 + 2)) <<< 8) / tcode / 3
  { dacRegisters := fun index => if index = 0 then 16 * dac 0 ||| 8 else dac index
    tcode := UInt16.ofNat tcode
    delta := UInt8.ofNat (delta >>> 4)
    fdtOffset }

/-- The patches of the template, in the order of the source. -/
def patchTemplate (calibration : Calibration) : Option Config := do
  let config ← patchUnique type12Template 0 0x0220 (calibration.dacRegisters 0) .both
  let config ← patchUnique config 0 0x0236 (calibration.dacRegisters 1) .both
  let config ← patchUnique config 0 0x0238 (calibration.dacRegisters 2) .both
  let config ← patchUnique config 0 0x023a (calibration.dacRegisters 3) .both
  let config ← patchUnique config 0 0x005c calibration.tcode .both
  let config ← patchUnique config 2 0x0082 (calibration.delta.toUInt16 <<< 8) .high
  if calibration.fdtOffset ≠ 0 then
    patchUnique config 2 0x0056 (calibration.fdtOffset.toUInt16 + 4) .low
  else some config

def chipSupported (chipId : UInt16) : Bool := chipId = 0x2503 || chipId = 0x2504

/-- `goodix_config90_derive` -/
def derive (chipId : UInt16) (otp : Otp) : Except GError (Config × Calibration) :=
  if !chipSupported chipId then
    .error (config90Error errorProfile "unsupported CONFIG90 chip/profile")
  else if !validateGroupCrcs otp then
    .error (config90Error errorOtp "malformed OTP or group CRC mismatch")
  else if (otpRange otp 50 4).any (· = 0) ||
      otpCrc8 (otpRange otp 50 4) ≠ otp.octetAt 62 (by decide) then
    .error (config90Error errorOtp "invalid factory-test DAC calibration")
  else
    match tcodeDiff otp with
    | none => .error (config90Error errorOtp "ambiguous OTP tcode calibration")
    | some tcodeDiff =>
      match decodeFdtOffset (otp.octetAt 27 (by decide)) with
      | none => .error (config90Error errorOtp "ambiguous OTP FDT offset")
      | some fdtOffset =>
        let calibration := calibrationOf otp tcodeDiff fdtOffset
        match patchTemplate calibration with
        | none => .error (config90Error errorTemplate "type-12 template structure mismatch")
        | some config => .ok (fixFinalizer config, calibration)

/-- An OTP that is accepted. -/
def plainOtp : Otp := ⟨[
  0x00, 0x00, 0x00, 0x00, 0x00, 0x00, 0x00, 0x00, 0x00, 0x00, 0x00, 0x00, 0x00, 0x00, 0x00, 0x00,
  0x00, 0x00, 0x00, 0x00, 0x00, 0x00, 0x00, 0x00, 0x00, 0x00, 0x00, 0x00, 0x00, 0x00, 0x00, 0x00,
  0x00, 0x00, 0x00, 0x00, 0x00, 0x00, 0x00, 0x00, 0x00, 0x00, 0x01, 0xfe, 0x00, 0x00, 0x00, 0x00,
  0x00, 0x00, 0x01, 0x01, 0x01, 0x01, 0x00, 0x00, 0x00, 0x00, 0x00, 0x00, 0xff, 0x9a, 0x90, 0xe1],
  by decide⟩

theorem derive_plainOtp : ∃ derived, derive 0x2504 plainOtp = .ok derived := by
  cases derives : derive 0x2504 plainOtp with
  | ok derived => exact ⟨derived, rfl⟩
  | error error =>
    have succeeds : (derive 0x2504 plainOtp).isOk = true := by decide +kernel
    rw [derives] at succeeds
    cases succeeds

end Goodix.Config90
