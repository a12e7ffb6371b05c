import Goodix.Primitives

/-! # The image decoder

`goodix_image_decoder.c`: a fixed-length plaintext with a class octet, a length, an
additive checksum that the device may leave out, a CRC over the packed samples and the
samples themselves, four in six octets, in an order of their own.
-/

namespace Goodix.ImageDecoder

open Octets

def canonicalImageWidth : Nat := 80
def canonicalImageHeight : Nat := 64
def canonicalImageSampleCount : Nat := canonicalImageWidth * canonicalImageHeight
def imagePlaintextLength : Nat := 7693
def imagePackedLength : Nat := 7680

def imageError (code : Nat) (message : String) : GError :=
  ⟨"goodix-image-decoder-error", code, message⟩

def errorShape : Nat := 0
def errorClass : Nat := 1
def errorChecksum : Nat := 2
def errorCrc : Nat := 3

def crcBit (crc : UInt32) : UInt32 :=
  if crc &&& 0x80000000 ≠ 0 then (crc <<< 1) ^^^ 0x04c11db7 else crc <<< 1

def crcOctet (crc : UInt32) (octet : UInt8) : UInt32 :=
  crcBit^[8] (crc ^^^ (octet.toUInt32 <<< 24))

/-- `crc32_mpeg2` -/
def crc32Mpeg2 (data : List UInt8) : UInt32 := data.foldl crcOctet 0xffffffff

/-- `decode_crc_trailer` -/
def decodeCrcTrailer (trailer : List UInt8) : UInt32 :=
  let octet (index : Nat) := (trailer.getD index 0).toUInt32
  (octet 2 <<< 24) ||| (octet 3 <<< 16) ||| (octet 0 <<< 8) ||| octet 1

/-- `payload_checksum` -/
def payloadChecksum (control : UInt8) (data : List UInt8) : UInt8 :=
  let sum := UInt32.ofNat (control.toNat + data.length + 1)
  (0xaa - data.foldl (fun sum octet => sum + octet.toUInt32) sum).toUInt8

/-- The `item`-th sample of a group of six octets. -/
def groupSample (group : List UInt8) (item : Nat) : UInt16 :=
  let p (index : Nat) := (group.getD index 0).toUInt16
  match item with
  | 0 => ((p 0 &&& 0x0f) <<< 8) ||| p 1
  | 1 => (p 3 <<< 4) ||| (p 0 >>> 4)
  | 2 => ((p 5 &&& 0x0f) <<< 8) ||| p 2
  | _ => (p 4 <<< 4) ||| (p 5 >>> 4)

/-- The sample at a place of the wire order. -/
def wireSample (packed : List UInt8) (wireIndex : Nat) : UInt16 :=
  groupSample ((packed.drop (wireIndex / 4 * 6)).take 6) (wireIndex % 4)

def rasterIndex (wireIndex : Nat) : Nat :=
  wireIndex % canonicalImageHeight * canonicalImageWidth + wireIndex / canonicalImageHeight

/-- The loop that unpacks: the samples in wire order, each written to its place. -/
def unpack (packed : List UInt8) : List UInt16 :=
  (List.range canonicalImageSampleCount).foldl
    (fun decoded wireIndex => decoded.set (rasterIndex wireIndex) (wireSample packed wireIndex))
    (List.replicate canonicalImageSampleCount 0)

/-- `goodix_image_decode_plaintext` -/
def decodePlaintext (plaintext : List UInt8) : Except GError (List UInt16) :=
  let octet (index : Nat) := plaintext.getD index 0
  let declaredLength := getU16Le [octet 1, octet 2]
  let data := plaintext.drop 3
  let packed := (data.drop 5).take imagePackedLength
  if plaintext.length ≠ imagePlaintextLength then
    .error (imageError errorShape "image plaintext shape is invalid")
  else if declaredLength ≠ 7690 ∨ declaredLength.toNat + 3 ≠ plaintext.length then
    .error (imageError errorShape "image plaintext shape is invalid")
  else if octet 0 >>> 4 ≠ 2 then
    .error (imageError errorClass "plaintext is not an image-class payload")
  else if octet 3 = 0xaa then
    .error (imageError errorClass "POV notification is not an image record")
  else if octet (plaintext.length - 1) ≠ 0x88 ∧
      octet (plaintext.length - 1) ≠ payloadChecksum (octet 0) (data.take 7689) then
    .error (imageError errorChecksum "image payload checksum mismatch")
  else if decodeCrcTrailer (data.drop (5 + imagePackedLength)) ≠ crc32Mpeg2 packed then
    .error (imageError errorCrc "image record CRC-32/MPEG-2 mismatch")
  else
    .ok (unpack packed)

/-- Zeros leave a cleared CRC as it is. -/
theorem crc_zeros (count : Nat) : (List.replicate count (0 : UInt8)).foldl crcOctet 0 = 0 := by
  induction count with
  | zero => rfl
  | succ count ih =>
    have still : crcOctet 0 0 = 0 := by decide
    rw [List.replicate_succ, List.foldl_cons, still, ih]

end Goodix.ImageDecoder
