import Goodix.ImageDecoder
import Goodix.Library.Crc

/-! # What the image decoder protects and what it inverts

The CRC of the packed samples sees every change of up to four neighbouring octets, whatever
the final octet says.  The samples of the wire are a permutation of the raster, so unpacking
is the inverse of packing.
-/

namespace Goodix.ImageDecoder

open Octets

def generator : BitVec 32 := 0x04c11db7#32

theorem crcBit_toBitVec (crc : UInt32) : (crcBit crc).toBitVec = Crc.shift generator crc.toBitVec := by
  have top : crc &&& 0x80000000 ≠ 0 ↔ crc.toBitVec.msb = true := by
    rw [ne_eq, ← UInt32.toBitVec_inj, UInt32.toBitVec_and]
    exact Crc.and_top crc.toBitVec
  simp only [crcBit, Crc.shift, top]
  split
  · rfl
  · rfl

theorem crcOctet_toBitVec (crc : UInt32) (octet : UInt8) :
    (crcOctet crc octet).toBitVec = Crc.octet generator crc.toBitVec octet.toBitVec :=
  Crc.view_shifts generator UInt32.toBitVec crcBit_toBitVec 8 _

theorem crc32Mpeg2_toBitVec (data : List UInt8) :
    (crc32Mpeg2 data).toBitVec = Crc.feed generator 0xffffffff#32 (data.map UInt8.toBitVec) :=
  Crc.view_feed generator UInt32.toBitVec crcOctet_toBitVec 0xffffffff data

/-- A change of at most four neighbouring octets changes the CRC. -/
theorem crc32Mpeg2_burst {early late first second : List UInt8}
    (sized : first.length = second.length) (short : first.length ≤ 4) (other : first ≠ second) :
    crc32Mpeg2 (early ++ first ++ late) ≠ crc32Mpeg2 (early ++ second ++ late) := by
  intro same
  have registers := congrArg UInt32.toBitVec same
  simp only [crc32Mpeg2_toBitVec, List.map_append] at registers
  refine Crc.feed_burst (by decide) _ ?_ ?_ ?_ registers
  · simp [sized]
  · simp
    omega
  · intro equal
    exact other (List.map_injective_iff.mpr (fun _ _ => UInt8.toBitVec_inj.mp) equal)

/-! ## The trailer -/

/-- Bits below a multiple of a power of two are added to it. -/
theorem or_eq_add {high low place : Nat} (fits : low < 2 ^ place) :
    high * 2 ^ place ||| low = high * 2 ^ place + low := by
  rw [Nat.mul_comm, Nat.two_pow_add_eq_or_of_lt fits]

theorem decodeCrcTrailer_toNat (trailer : List UInt8) :
    (decodeCrcTrailer trailer).toNat =
      (trailer.getD 2 0).toNat * 2 ^ 24 + (trailer.getD 3 0).toNat * 2 ^ 16 +
        (trailer.getD 0 0).toNat * 2 ^ 8 + (trailer.getD 1 0).toNat := by
  simp only [decodeCrcTrailer]
  generalize trailer.getD 0 0 = a, trailer.getD 1 0 = b, trailer.getD 2 0 = c, trailer.getD 3 0 = d
  have first := a.toNat_lt
  have second := b.toNat_lt
  have third := c.toNat_lt
  have fourth := d.toNat_lt
  simp only [UInt32.toNat_or, UInt32.toNat_shiftLeft, UInt8.toNat_toUInt32, UInt32.reduceToNat,
    Nat.reduceMod, Nat.shiftLeft_eq]
  have high : c.toNat * 2 ^ 24 % 2 ^ 32 = c.toNat * 2 ^ 24 := Nat.mod_eq_of_lt (by omega)
  have next : d.toNat * 2 ^ 16 % 2 ^ 32 = d.toNat * 2 ^ 16 := Nat.mod_eq_of_lt (by omega)
  have lower : a.toNat * 2 ^ 8 % 2 ^ 32 = a.toNat * 2 ^ 8 := Nat.mod_eq_of_lt (by omega)
  have upper : c.toNat * 2 ^ 24 + d.toNat * 2 ^ 16 = (c.toNat * 2 ^ 8 + d.toNat) * 2 ^ 16 := by ring
  have middle : (c.toNat * 2 ^ 8 + d.toNat) * 2 ^ 16 + a.toNat * 2 ^ 8 =
      ((c.toNat * 2 ^ 8 + d.toNat) * 2 ^ 8 + a.toNat) * 2 ^ 8 := by ring
  rw [high, next, lower, or_eq_add (by omega), upper, or_eq_add (by omega), middle,
    or_eq_add (by omega)]

/-- The trailer spells the CRC in one way only. -/
theorem decodeCrcTrailer_injective {trailer other : List UInt8}
    (same : decodeCrcTrailer trailer = decodeCrcTrailer other) {index : Nat} (listed : index < 4) :
    trailer.getD index 0 = other.getD index 0 := by
  have words := congrArg UInt32.toNat same
  rw [decodeCrcTrailer_toNat, decodeCrcTrailer_toNat] at words
  have bound (index : Nat) := (trailer.getD index 0).toNat_lt
  have otherBound (index : Nat) := (other.getD index 0).toNat_lt
  apply UInt8.toNat_inj.mp
  interval_cases index
  all_goals
    have := bound 0
    have := bound 1
    have := bound 2
    have := bound 3
    have := otherBound 0
    have := otherBound 1
    have := otherBound 2
    have := otherBound 3
    omega

/-! ## What is accepted -/

def packedOffset : Nat := 8
def trailerOffset : Nat := packedOffset + imagePackedLength
def finalOffset : Nat := trailerOffset + 4

def packedOf (plaintext : List UInt8) : List UInt8 := (plaintext.drop packedOffset).take imagePackedLength

structure Accepted (plaintext : List UInt8) : Prop where
  sized : plaintext.length = imagePlaintextLength
  declared : getU16Le [plaintext.getD 1 0, plaintext.getD 2 0] = 7690
  image : plaintext.getD 0 0 >>> 4 = 2
  record : plaintext.getD 3 0 ≠ 0xaa
  summed : plaintext.getD finalOffset 0 = 0x88 ∨ plaintext.getD finalOffset 0 =
    payloadChecksum (plaintext.getD 0 0) ((plaintext.drop 3).take 7689)
  trailed : decodeCrcTrailer (plaintext.drop trailerOffset) = crc32Mpeg2 (packedOf plaintext)

theorem decodePlaintext_ok_iff {plaintext : List UInt8} {samples : List UInt16} :
    decodePlaintext plaintext = .ok samples ↔
      Accepted plaintext ∧ samples = unpack (packedOf plaintext) := by
  have packed : ((plaintext.drop 3).drop 5).take imagePackedLength = packedOf plaintext := by
    rw [List.drop_drop]
    rfl
  have trailer : (plaintext.drop 3).drop (5 + imagePackedLength) = plaintext.drop trailerOffset := by
    rw [List.drop_drop]
    rfl
  simp only [decodePlaintext, packed, trailer]
  constructor
  · intro decoded
    by_cases sized : plaintext.length = imagePlaintextLength
    · have last : plaintext.length - 1 = finalOffset := by rw [sized]; rfl
      rw [if_neg (by simp [sized]), last] at decoded
      split at decoded
      · cases decoded
      rename_i declared
      split at decoded
      · cases decoded
      rename_i image
      split at decoded
      · cases decoded
      rename_i record
      split at decoded
      · cases decoded
      rename_i summed
      split at decoded
      · cases decoded
      rename_i trailed
      have unpacked := (Except.ok.inj decoded).symm
      refine ⟨⟨sized, ?_, by simpa using image, record, ?_, by simpa using trailed⟩, unpacked⟩
      · by_contra other
        exact declared (.inl other)
      · by_contra other
        exact summed (not_or.mp other)
    · rw [if_pos sized] at decoded
      cases decoded
  · rintro ⟨accepted, unpacked⟩
    rw [unpacked]
    have last : plaintext.length - 1 = finalOffset := by rw [accepted.sized]; rfl
    rw [last, if_neg (by simp [accepted.sized]), if_neg, if_neg (not_not.mpr accepted.image),
      if_neg accepted.record, if_neg, if_neg (not_not.mpr accepted.trailed)]
    · rintro ⟨unmarked, unsummed⟩
      exact accepted.summed.elim unmarked unsummed
    · rw [accepted.declared, accepted.sized]
      decide

theorem rejected_of_not_accepted {plaintext : List UInt8} (refused : ¬ Accepted plaintext) :
    ∃ error, decodePlaintext plaintext = .error error := by
  cases decoded : decodePlaintext plaintext with
  | error error => exact ⟨error, rfl⟩
  | ok samples => exact absurd (decodePlaintext_ok_iff.mp decoded).1 refused

theorem getD_drop (octets : List UInt8) (offset index : Nat) :
    (octets.drop offset).getD index 0 = octets.getD (offset + index) 0 := by
  simp only [List.getD_eq_getElem?_getD, List.getElem?_drop]

/-! ## Packing -/

/-- Samples of twelve bits, one for each cell of the image. -/
structure Raster where
  samples : List UInt16
  sized : samples.length = canonicalImageSampleCount
  small : ∀ sample ∈ samples, sample ≤ 4095

/-- The sample that goes to a place of the wire order. -/
def Raster.wire (raster : Raster) (wireIndex : Nat) : UInt16 :=
  raster.samples.getD (rasterIndex wireIndex) 0

def packGroup (first second third fourth : UInt16) : List UInt8 :=
  [(((second &&& 0x0f) <<< 4) ||| (first >>> 8)).toUInt8, first.toUInt8, third.toUInt8,
    (second >>> 4).toUInt8, (fourth >>> 4).toUInt8,
    (((fourth &&& 0x0f) <<< 4) ||| (third >>> 8)).toUInt8]

def Raster.group (raster : Raster) (group : Nat) : List UInt8 :=
  packGroup (raster.wire (4 * group)) (raster.wire (4 * group + 1)) (raster.wire (4 * group + 2))
    (raster.wire (4 * group + 3))

def Raster.pack (raster : Raster) : List UInt8 :=
  ((List.range (canonicalImageSampleCount / 4)).map raster.group).flatten

def encodeCrcTrailer (crc : UInt32) : List UInt8 :=
  [(crc >>> 8).toUInt8, crc.toUInt8, (crc >>> 24).toUInt8, (crc >>> 16).toUInt8]

/-- The octets around the samples that the decoder takes; `marked` for the final octet that
stands for no checksum. -/
structure Wrapper where
  control : UInt8
  image : control >>> 4 = 2
  header : Block 5
  record : header.val.getD 0 0 ≠ 0xaa
  marked : Bool

def Wrapper.data (wrapper : Wrapper) (packed : List UInt8) : List UInt8 :=
  wrapper.header.val ++ (packed ++ encodeCrcTrailer (crc32Mpeg2 packed))

def Wrapper.final (wrapper : Wrapper) (packed : List UInt8) : UInt8 :=
  if wrapper.marked then 0x88 else payloadChecksum wrapper.control (wrapper.data packed)

def Wrapper.wrap (wrapper : Wrapper) (packed : List UInt8) : List UInt8 :=
  [wrapper.control, 0x0a, 0x1e] ++ (wrapper.data packed ++ [wrapper.final packed])

theorem low_nibble (octet : Nat) : octet &&& 15 = octet % 16 :=
  Nat.and_two_pow_sub_one_eq_mod octet 4

/-- A sample with a low octet of its own and the low nibble of a shared one. -/
theorem lowSample_toNat (shared low : UInt8) :
    (((shared.toUInt16 &&& 0x0f) <<< 8) ||| low.toUInt16).toNat =
      shared.toNat % 16 * 2 ^ 8 + low.toNat := by
  have bound := low.toNat_lt
  simp only [UInt16.toNat_or, UInt16.toNat_shiftLeft, UInt16.toNat_and, UInt8.toNat_toUInt16,
    UInt16.reduceToNat, Nat.reduceMod, Nat.shiftLeft_eq, low_nibble]
  rw [Nat.mod_eq_of_lt (by omega), or_eq_add (by omega)]

theorem highSample_toNat (high shared : UInt8) :
    ((high.toUInt16 <<< 4) ||| (shared.toUInt16 >>> 4)).toNat =
      high.toNat * 2 ^ 4 + shared.toNat / 16 := by
  have bound := shared.toNat_lt
  have upper := high.toNat_lt
  simp only [UInt16.toNat_or, UInt16.toNat_shiftLeft, UInt16.toNat_shiftRight, UInt8.toNat_toUInt16,
    UInt16.reduceToNat, Nat.reduceMod, Nat.shiftLeft_eq, Nat.shiftRight_eq_div_pow]
  rw [Nat.mod_eq_of_lt (by omega), or_eq_add (by omega)]

theorem sharedOctet_toNat (high : UInt16) {low : UInt16} (small : low ≤ 4095) :
    (((high &&& 0x0f) <<< 4) ||| (low >>> 8)).toUInt8.toNat =
      high.toNat % 16 * 2 ^ 4 + low.toNat / 256 := by
  have bound : low.toNat ≤ 4095 := small
  simp only [UInt16.toNat_toUInt8, UInt16.toNat_or, UInt16.toNat_shiftLeft, UInt16.toNat_and,
    UInt16.toNat_shiftRight, UInt16.reduceToNat, Nat.reduceMod, Nat.shiftLeft_eq, low_nibble,
    Nat.shiftRight_eq_div_pow]
  have shifted : high.toNat % 16 * 2 ^ 4 % 2 ^ 16 = high.toNat % 16 * 2 ^ 4 :=
    Nat.mod_eq_of_lt (by omega)
  rw [shifted, or_eq_add (by omega)]
  exact Nat.mod_eq_of_lt (by omega)

theorem groupSample_packGroup {a b c d : UInt16} (first : a ≤ 4095) (second : b ≤ 4095)
    (third : c ≤ 4095) (fourth : d ≤ 4095) (item : Nat) :
    groupSample (packGroup a b c d) item = [a, b, c].getD item d := by
  have firstBound : a.toNat ≤ 4095 := first
  have secondBound : b.toNat ≤ 4095 := second
  have thirdBound : c.toNat ≤ 4095 := third
  have fourthBound : d.toNat ≤ 4095 := fourth
  apply UInt16.toNat_inj.mp
  match item with
  | 0 | 1 | 2 | _ + 3 =>
    simp only [groupSample, packGroup, List.getD_cons_zero, List.getD_cons_succ, List.getD_nil,
      lowSample_toNat, highSample_toNat, sharedOctet_toNat b first, sharedOctet_toNat d third,
      UInt16.toNat_toUInt8, UInt16.toNat_shiftRight, UInt16.reduceToNat, Nat.reduceMod,
      Nat.shiftRight_eq_div_pow]
    omega

/-- A group yields samples of twelve bits, whatever its octets are. -/
theorem groupSample_le (group : List UInt8) (item : Nat) : groupSample group item ≤ 4095 := by
  change (groupSample group item).toNat ≤ 4095
  have bound (index : Nat) := (group.getD index 0).toNat_lt
  unfold groupSample
  split
  · have := bound 1
    simp only [lowSample_toNat]
    omega
  · have := bound 0
    have := bound 3
    simp only [highSample_toNat]
    omega
  · have := bound 2
    simp only [lowSample_toNat]
    omega
  · have := bound 4
    have := bound 5
    simp only [highSample_toNat]
    omega

/-! ## The places of the raster -/

theorem rasterIndex_lt {wireIndex : Nat} (listed : wireIndex < canonicalImageSampleCount) :
    rasterIndex wireIndex < canonicalImageSampleCount := by
  simp only [rasterIndex, canonicalImageSampleCount, canonicalImageHeight, canonicalImageWidth] at *
  omega

theorem rasterIndex_injOn {first second : Nat} (listed : first < canonicalImageSampleCount)
    (other : second < canonicalImageSampleCount) (same : rasterIndex first = rasterIndex second) :
    first = second := by
  simp only [rasterIndex, canonicalImageSampleCount, canonicalImageHeight, canonicalImageWidth] at *
  omega

theorem rasterIndex_surjOn {cell : Nat} (listed : cell < canonicalImageSampleCount) :
    ∃ wireIndex < canonicalImageSampleCount, rasterIndex wireIndex = cell := by
  simp only [rasterIndex, canonicalImageSampleCount, canonicalImageHeight, canonicalImageWidth] at *
  refine ⟨cell % 80 * 64 + cell / 80, ?_, ?_⟩ <;> omega

theorem rasterIndices_nodup : ((List.range canonicalImageSampleCount).map rasterIndex).Nodup := by
  apply List.Nodup.map_on
  · intro first listed second other same
    exact rasterIndex_injOn (List.mem_range.mp listed) (List.mem_range.mp other) same
  · exact List.nodup_range

/-- Every cell of the raster is written, and none twice. -/
theorem rasterIndices_perm : ((List.range canonicalImageSampleCount).map rasterIndex).Perm
    (List.range canonicalImageSampleCount) := by
  have inside : (List.range canonicalImageSampleCount).map rasterIndex ⊆
      List.range canonicalImageSampleCount := by
    intro cell listed
    obtain ⟨wireIndex, named, rfl⟩ := List.mem_map.mp listed
    exact List.mem_range.mpr (rasterIndex_lt (List.mem_range.mp named))
  exact (rasterIndices_nodup.subperm inside).perm_of_length_le (by simp)

section Writes

variable {Value : Type} (place : Nat → Nat) (value : Nat → Value)

/-- Cells that are not written stay. -/
theorem foldl_set_other {cell : Nat} (indices : List Nat) (cells : List Value)
    (unwritten : cell ∉ indices.map place) :
    (indices.foldl (fun cells index => cells.set (place index) (value index)) cells)[cell]? =
      cells[cell]? := by
  induction indices generalizing cells with
  | nil => rfl
  | cons index indices inductionHypothesis =>
    simp only [List.map_cons, List.mem_cons, not_or] at unwritten
    rw [List.foldl_cons, inductionHypothesis _ unwritten.2,
      List.getElem?_set_ne (Ne.symm unwritten.1)]

/-- Of cells that are written once, each holds what was written. -/
theorem foldl_set_written {indices : List Nat} (distinct : (indices.map place).Nodup)
    {cells : List Value} {index : Nat} (listed : index ∈ indices) (bound : place index < cells.length) :
    (indices.foldl (fun cells index => cells.set (place index) (value index)) cells)[place index]? =
      some (value index) := by
  induction indices generalizing cells with
  | nil => cases listed
  | cons head indices inductionHypothesis =>
    simp only [List.map_cons, List.nodup_cons] at distinct
    rw [List.foldl_cons]
    cases List.mem_cons.mp listed with
    | inl first =>
      rw [first, foldl_set_other place value indices _ distinct.1]
      rw [first] at bound
      simp [bound]
    | inr later => exact inductionHypothesis distinct.2 later (by simpa using bound)

theorem length_foldl_set (indices : List Nat) (cells : List Value) :
    (indices.foldl (fun cells index => cells.set (place index) (value index)) cells).length =
      cells.length := by
  induction indices generalizing cells with
  | nil => rfl
  | cons index indices inductionHypothesis => rw [List.foldl_cons, inductionHypothesis, List.length_set]

end Writes

/-! ## Unpacking -/

/-- The loop that unpacks, from what the local array happens to hold. -/
def unpackInto (decoded : List UInt16) (packed : List UInt8) : List UInt16 :=
  (List.range canonicalImageSampleCount).foldl
    (fun decoded wireIndex => decoded.set (rasterIndex wireIndex) (wireSample packed wireIndex))
    decoded

/-- `goodix_image_decode_plaintext` with its two arrays: `decoded` is the local one, which
nothing initialises, `samples` that of the caller. -/
def decodeInto (decoded samples : List UInt16) (plaintext : List UInt8) :
    Except GError Unit × List UInt16 :=
  let octet (index : Nat) := plaintext.getD index 0
  let declaredLength := getU16Le [octet 1, octet 2]
  let data := plaintext.drop 3
  let packed := (data.drop 5).take imagePackedLength
  if plaintext.length ≠ imagePlaintextLength then
    (.error (imageError errorShape "image plaintext shape is invalid"), samples)
  else if declaredLength ≠ 7690 ∨ declaredLength.toNat + 3 ≠ plaintext.length then
    (.error (imageError errorShape "image plaintext shape is invalid"), samples)
  else if octet 0 >>> 4 ≠ 2 then
    (.error (imageError errorClass "plaintext is not an image-class payload"), samples)
  else if octet 3 = 0xaa then
    (.error (imageError errorClass "POV notification is not an image record"), samples)
  else if octet (plaintext.length - 1) ≠ 0x88 ∧
      octet (plaintext.length - 1) ≠ payloadChecksum (octet 0) (data.take 7689) then
    (.error (imageError errorChecksum "image payload checksum mismatch"), samples)
  else if decodeCrcTrailer (data.drop (5 + imagePackedLength)) ≠ crc32Mpeg2 packed then
    (.error (imageError errorCrc "image record CRC-32/MPEG-2 mismatch"), samples)
  else
    (.ok (), unpackInto decoded packed)

/-- An array with one place for each cell. -/
abbrev Cells := { cells : List UInt16 // cells.length = canonicalImageSampleCount }

theorem length_unpackInto (decoded : Cells) (packed : List UInt8) :
    (unpackInto decoded.val packed).length = canonicalImageSampleCount := by
  rw [unpackInto, length_foldl_set, decoded.property]

theorem getElem?_unpackInto (decoded : Cells) (packed : List UInt8) {wireIndex : Nat}
    (listed : wireIndex < canonicalImageSampleCount) :
    (unpackInto decoded.val packed)[rasterIndex wireIndex]? = some (wireSample packed wireIndex) := by
  have bound : rasterIndex wireIndex < decoded.val.length := by
    rw [decoded.property]
    exact rasterIndex_lt listed
  rw [unpackInto]
  exact foldl_set_written rasterIndex (wireSample packed) rasterIndices_nodup
    (List.mem_range.mpr listed) bound

/-- Two arrays that agree at every place of the wire order are the same. -/
theorem cells_ext {first second : List UInt16} (sized : first.length = canonicalImageSampleCount)
    (otherSized : second.length = canonicalImageSampleCount)
    (same : ∀ wireIndex < canonicalImageSampleCount,
      first[rasterIndex wireIndex]? = second[rasterIndex wireIndex]?) : first = second := by
  apply List.ext_getElem?
  intro cell
  by_cases listed : cell < canonicalImageSampleCount
  · obtain ⟨wireIndex, named, rfl⟩ := rasterIndex_surjOn listed
    exact same wireIndex named
  · rw [List.getElem?_eq_none (by omega), List.getElem?_eq_none (by omega)]

/-- What the local array held does not matter. -/
theorem unpackInto_eq (decoded : Cells) (packed : List UInt8) :
    unpackInto decoded.val packed = unpack packed := by
  have zeros : unpack packed =
      unpackInto (⟨List.replicate canonicalImageSampleCount 0, List.length_replicate⟩ : Cells).val
        packed := rfl
  rw [zeros]
  apply cells_ext (length_unpackInto _ _) (length_unpackInto _ _)
  intro wireIndex listed
  rw [getElem?_unpackInto _ _ listed, getElem?_unpackInto _ _ listed]

theorem unpackInto_small (decoded : Cells) (packed : List UInt8) :
    ∀ sample ∈ unpackInto decoded.val packed, sample ≤ 4095 := by
  intro sample listed
  obtain ⟨cell, found⟩ := List.mem_iff_getElem?.mp listed
  have bound : cell < canonicalImageSampleCount := by
    rw [← length_unpackInto decoded packed]
    exact (List.getElem?_eq_some_iff.mp found).1
  obtain ⟨wireIndex, named, rfl⟩ := rasterIndex_surjOn bound
  rw [getElem?_unpackInto decoded packed named] at found
  rw [← Option.some.inj found]
  exact groupSample_le _ _

/-- The decoder with its arrays decides as the one without them. -/
theorem decodeInto_eq (decoded samples : Cells) (plaintext : List UInt8) :
    decodeInto decoded.val samples.val plaintext =
      match decodePlaintext plaintext with
      | .error error => (.error error, samples.val)
      | .ok unpacked => (.ok (), unpacked) := by
  simp only [decodeInto, decodePlaintext, unpackInto_eq]
  repeat' split
  all_goals simp_all

/-! ## The decoder inverts packing -/

theorem length_group (raster : Raster) (group : Nat) : (raster.group group).length = 6 := rfl

theorem fieldOffset_groups (raster : Raster) {count index : Nat} (listed : index ≤ count) :
    fieldOffset ((List.range count).map raster.group) index = index * 6 := by
  have lengths : List.length ∘ raster.group = fun _ => 6 := funext fun group => length_group raster group
  rw [fieldOffset, ← List.map_take, List.take_range, Nat.min_eq_left listed, List.map_map, lengths]
  simp

theorem length_pack (raster : Raster) : raster.pack.length = imagePackedLength := by
  have lengths : List.length ∘ raster.group = fun _ => 6 := funext fun group => length_group raster group
  rw [Raster.pack, List.length_flatten, List.map_map, lengths, List.map_const', List.sum_replicate,
    List.length_range]
  rfl

theorem Raster.wire_small (raster : Raster) {wireIndex : Nat}
    (listed : wireIndex < canonicalImageSampleCount) : raster.wire wireIndex ≤ 4095 := by
  have bound : rasterIndex wireIndex < raster.samples.length := by
    rw [raster.sized]
    exact rasterIndex_lt listed
  rw [Raster.wire, List.getD_eq_getElem _ _ bound]
  exact raster.small _ (List.getElem_mem bound)

/-- Unpacking a place of the wire order gives the sample that was packed there. -/
theorem wireSample_pack (raster : Raster) {wireIndex : Nat}
    (listed : wireIndex < canonicalImageSampleCount) :
    wireSample raster.pack wireIndex = raster.wire wireIndex := by
  have whole : canonicalImageSampleCount = 4 * (canonicalImageSampleCount / 4) := by decide
  have inside : wireIndex / 4 < canonicalImageSampleCount / 4 := by omega
  have field : (raster.pack.drop (wireIndex / 4 * 6)).take 6 = raster.group (wireIndex / 4) :=
    field_of_flatten (by simp [inside]) (fieldOffset_groups raster (by omega)) (length_group _ _)
  have small (item : Nat) (named : item < 4) : raster.wire (4 * (wireIndex / 4) + item) ≤ 4095 :=
    raster.wire_small (by omega)
  have first : raster.wire (4 * (wireIndex / 4)) ≤ 4095 := small 0 (by decide)
  rw [wireSample, field, Raster.group, groupSample_packGroup first (small 1 (by decide))
    (small 2 (by decide)) (small 3 (by decide))]
  have place : wireIndex = 4 * (wireIndex / 4) + wireIndex % 4 := by omega
  have among : wireIndex % 4 < 4 := Nat.mod_lt _ (by decide)
  conv_rhs => rw [place]
  generalize wireIndex % 4 = item at among
  interval_cases item <;> rfl

theorem unpackInto_pack (decoded : Cells) (raster : Raster) :
    unpackInto decoded.val raster.pack = raster.samples := by
  apply cells_ext (length_unpackInto _ _) raster.sized
  intro wireIndex listed
  have bound : rasterIndex wireIndex < raster.samples.length := by
    rw [raster.sized]
    exact rasterIndex_lt listed
  rw [getElem?_unpackInto _ _ listed, wireSample_pack raster listed, Raster.wire,
    List.getD_eq_getElem _ _ bound, List.getElem?_eq_getElem bound]

theorem decode_encodeCrcTrailer (crc : UInt32) (later : List UInt8) :
    decodeCrcTrailer (encodeCrcTrailer crc ++ later) = crc := by
  have bound := crc.toNat_lt
  apply UInt32.toNat_inj.mp
  simp only [decodeCrcTrailer_toNat, encodeCrcTrailer, List.cons_append, List.getD_cons_zero,
    List.getD_cons_succ, UInt32.toNat_toUInt8, UInt32.toNat_shiftRight, UInt32.reduceToNat,
    Nat.reduceMod, Nat.shiftRight_eq_div_pow]
  omega

section Wrapped

variable (wrapper : Wrapper) {packed : List UInt8}

theorem wrap_drop_packed : (wrapper.wrap packed).drop packedOffset =
    packed ++ (encodeCrcTrailer (crc32Mpeg2 packed) ++ [wrapper.final packed]) := by
  have front : wrapper.wrap packed = ([wrapper.control, 0x0a, 0x1e] ++ wrapper.header.val) ++
      (packed ++ (encodeCrcTrailer (crc32Mpeg2 packed) ++ [wrapper.final packed])) := by
    simp [Wrapper.wrap, Wrapper.data]
  rw [front]
  exact List.drop_left' (by simp [packedOffset])

variable (sized : packed.length = imagePackedLength)
include sized

theorem wrap_drop_trailer : (wrapper.wrap packed).drop trailerOffset =
    encodeCrcTrailer (crc32Mpeg2 packed) ++ [wrapper.final packed] := by
  rw [trailerOffset, ← List.drop_drop, wrap_drop_packed wrapper, List.drop_left' sized]

theorem packedOf_wrap : packedOf (wrapper.wrap packed) = packed := by
  rw [packedOf, wrap_drop_packed wrapper, List.take_left' sized]

/-- What the wrapper makes is accepted. -/
theorem accepted_wrap : Accepted (wrapper.wrap packed) := by
  have final : (wrapper.wrap packed).getD finalOffset 0 = wrapper.final packed := by
    rw [finalOffset, ← getD_drop, wrap_drop_trailer wrapper sized]
    rfl
  have length : (wrapper.data packed).length = 7689 := by
    simp [Wrapper.data, sized, imagePackedLength, encodeCrcTrailer]
  have data : ((wrapper.wrap packed).drop 3).take 7689 = wrapper.data packed := by
    have front : (wrapper.wrap packed).drop 3 = wrapper.data packed ++ [wrapper.final packed] := rfl
    rw [front, List.take_left' length]
  refine ⟨?_, rfl, wrapper.image, ?_, ?_, ?_⟩
  · simp [Wrapper.wrap, length, imagePlaintextLength]
  · have front : (wrapper.wrap packed).getD 3 0 = wrapper.header.val.getD 0 0 := by
      have inside : 0 < wrapper.header.val.length := by simp
      rw [Wrapper.wrap, List.getD_append_right _ _ _ _ (by simp), Wrapper.data]
      simp
    rw [front]
    exact wrapper.record
  · rw [final, data]
    unfold Wrapper.final
    split
    · exact .inl rfl
    · exact .inr rfl
  · rw [wrap_drop_trailer wrapper sized, decode_encodeCrcTrailer, packedOf_wrap wrapper sized]

end Wrapped

theorem decodePlaintext_wrap (wrapper : Wrapper) (raster : Raster) :
    decodePlaintext (wrapper.wrap raster.pack) = .ok raster.samples := by
  have accepted := accepted_wrap wrapper (length_pack raster)
  rw [decodePlaintext_ok_iff.mpr ⟨accepted, rfl⟩, packedOf_wrap wrapper (length_pack raster),
    ← unpackInto_eq ⟨raster.samples, raster.sized⟩, unpackInto_pack]

/-- **Decoding undoes packing.** What is packed and wrapped comes back; what is accepted are samples
of twelve bits, each cell written once; what is refused leaves the samples of the caller. -/
theorem image_decode_inverts :
    (∀ (wrapper : Wrapper) (raster : Raster) (decoded samples : Cells),
      decodeInto decoded.val samples.val (wrapper.wrap raster.pack) = (.ok (), raster.samples)) ∧
    (∀ (decoded samples : Cells) plaintext written,
      decodeInto decoded.val samples.val plaintext = (.ok (), written) →
        written.length = canonicalImageSampleCount ∧ (∀ sample ∈ written, sample ≤ 4095) ∧
        written = unpackInto decoded.val (packedOf plaintext) ∧
        ((List.range canonicalImageSampleCount).map rasterIndex).Perm
          (List.range canonicalImageSampleCount)) ∧
    (∀ (decoded samples : Cells) plaintext error after,
      decodeInto decoded.val samples.val plaintext = (.error error, after) → after = samples.val) := by
  refine ⟨fun wrapper raster decoded samples => ?_, fun decoded samples plaintext written taken => ?_,
    fun decoded samples plaintext error after refused => ?_⟩
  · rw [decodeInto_eq, decodePlaintext_wrap]
  · rw [decodeInto_eq] at taken
    split at taken
    · cases taken
    · rename_i unpacked decodes
      have same : unpacked = unpackInto decoded.val (packedOf plaintext) := by
        rw [unpackInto_eq]
        exact (decodePlaintext_ok_iff.mp decodes).2
      obtain ⟨-, rfl⟩ := Prod.mk.injEq .. ▸ taken
      refine ⟨?_, ?_, same, rasterIndices_perm⟩
      · rw [same, length_unpackInto]
      · rw [same]
        exact unpackInto_small decoded _
  · rw [decodeInto_eq] at refused
    split at refused
    · obtain ⟨-, rfl⟩ := Prod.mk.injEq .. ▸ refused
      rfl
    · cases refused

/-- An image without light. -/
def blackRaster : Raster where
  samples := List.replicate canonicalImageSampleCount 0
  sized := List.length_replicate
  small sample listed := by
    rw [List.eq_of_mem_replicate listed]
    decide

def plainWrapper : Wrapper := ⟨0x20, by decide, Block.zero 5, by decide, true⟩

/-- The plaintext of that image. -/
def blackImage : List UInt8 := plainWrapper.wrap blackRaster.pack

theorem length_blackImage : blackImage.length = imagePlaintextLength :=
  (accepted_wrap plainWrapper (length_pack blackRaster)).sized

def blankCells : Cells := ⟨List.replicate canonicalImageSampleCount 0xffff, List.length_replicate⟩

theorem image_decode_inverts_black :
    decodeInto blankCells.val blankCells.val (plainWrapper.wrap blackRaster.pack) =
      (.ok (), blackRaster.samples) ∧
    blackRaster.samples.length = canonicalImageSampleCount ∧
    (decodeInto blankCells.val blankCells.val []).2 = blankCells.val := by
  have decodes := image_decode_inverts.1 plainWrapper blackRaster blankCells blankCells
  refine ⟨decodes, (image_decode_inverts.2.1 _ _ _ _ decodes).1, ?_⟩
  exact image_decode_inverts.2.2 blankCells blankCells []
    (imageError errorShape "image plaintext shape is invalid") _ rfl

/-! ## Changes that the CRC sees -/

/-- A change somewhere in a window and, the final octet apart, nowhere else. -/
structure ChangedIn (start count : Nat) (plaintext changed : List UInt8) : Prop where
  sized : changed.length = plaintext.length
  elsewhere : ∀ index < finalOffset, ¬ (start ≤ index ∧ index < start + count) →
    changed[index]? = plaintext[index]?
  somewhere : ∃ index, start ≤ index ∧ index < start + count ∧ changed[index]? ≠ plaintext[index]?

theorem getElem?_packedOf (plaintext : List UInt8) {index : Nat} (inside : index < imagePackedLength) :
    (packedOf plaintext)[index]? = plaintext[packedOffset + index]? := by
  rw [packedOf, List.getElem?_take_of_lt inside, List.getElem?_drop]

theorem ChangedIn.trailed {start count : Nat} {plaintext changed : List UInt8}
    (changes : ChangedIn start count plaintext changed) (inside : start + count ≤ trailerOffset) :
    decodeCrcTrailer (changed.drop trailerOffset) = decodeCrcTrailer (plaintext.drop trailerOffset) := by
  have kept (index : Nat) (listed : index < 4) :
      (changed.drop trailerOffset).getD index 0 = (plaintext.drop trailerOffset).getD index 0 := by
    have same := changes.elsewhere (trailerOffset + index) (by unfold finalOffset; omega) (by omega)
    rw [getD_drop, getD_drop, List.getD_eq_getElem?_getD, same, ← List.getD_eq_getElem?_getD]
  simp only [decodeCrcTrailer, kept 0 (by omega), kept 1 (by omega), kept 2 (by omega),
    kept 3 (by omega)]

/-- The octets on both sides of a window within the packed ones, and the window itself. -/
theorem ChangedIn.windows {start count : Nat} {plaintext changed : List UInt8}
    (changes : ChangedIn (packedOffset + start) count plaintext changed)
    (sized : plaintext.length = imagePlaintextLength) (inside : start + count ≤ imagePackedLength) :
    ∃ early late first second, packedOf plaintext = early ++ first ++ late ∧
      packedOf changed = early ++ second ++ late ∧ first.length = count ∧
      second.length = count ∧ first ≠ second := by
  have length : (packedOf plaintext).length = imagePackedLength := by
    simp [packedOf, sized, packedOffset, imagePackedLength, imagePlaintextLength]
  have otherLength : (packedOf changed).length = imagePackedLength := by
    simp [packedOf, changes.sized, sized, packedOffset, imagePackedLength, imagePlaintextLength]
  have kept (index : Nat) (outside : ¬ (start ≤ index ∧ index < start + count)) :
      (packedOf changed)[index]? = (packedOf plaintext)[index]? := by
    by_cases listed : index < imagePackedLength
    · rw [getElem?_packedOf _ listed, getElem?_packedOf _ listed]
      refine changes.elsewhere _ ?_ (by omega)
      unfold finalOffset trailerOffset
      omega
    · rw [List.getElem?_eq_none (by omega), List.getElem?_eq_none (by omega)]
  have pieces (octets : List UInt8) : octets =
      octets.take start ++ (octets.drop start).take count ++ octets.drop (start + count) := by
    rw [List.append_assoc, ← List.drop_drop, List.take_append_drop, List.take_append_drop]
  have early : (packedOf changed).take start = (packedOf plaintext).take start := by
    apply List.ext_getElem?
    intro index
    by_cases before : index < start
    · rw [List.getElem?_take_of_lt before, List.getElem?_take_of_lt before, kept index (by omega)]
    · simp [before]
  have late : (packedOf changed).drop (start + count) =
      (packedOf plaintext).drop (start + count) := by
    apply List.ext_getElem?
    intro index
    rw [List.getElem?_drop, List.getElem?_drop, kept _ (by omega)]
  refine ⟨_, _, _, ((packedOf changed).drop start).take count, pieces _, ?_, ?_, ?_, ?_⟩
  · rw [← early, ← late]
    exact pieces _
  · simp [length]
    omega
  · simp [otherLength]
    omega
  · intro same
    obtain ⟨index, low, high, different⟩ := changes.somewhere
    apply different
    have read (octets : List UInt8) : ((octets.drop start).take count)[index - packedOffset - start]? =
        octets[index - packedOffset]? := by
      rw [List.getElem?_take_of_lt (by omega), List.getElem?_drop]
      congr 1
      omega
    have place : packedOffset + (index - packedOffset) = index := by omega
    rw [← place, ← getElem?_packedOf _ (by omega), ← getElem?_packedOf _ (by omega), ← read,
      ← read, same]

/-- **Error detection.** A change of at most four neighbouring packed octets, or of the trailer,
is noticed, whatever becomes of the final octet. -/
theorem image_changes_detected {plaintext changed : List UInt8} {samples : List UInt16}
    (accepted : decodePlaintext plaintext = .ok samples)
    (changes : (∃ start count, count ≤ 4 ∧ packedOffset ≤ start ∧ start + count ≤ trailerOffset ∧
        ChangedIn start count plaintext changed) ∨
      ChangedIn trailerOffset 4 plaintext changed) :
    ∃ error, decodePlaintext changed = .error error := by
  have before := (decodePlaintext_ok_iff.mp accepted).1
  apply rejected_of_not_accepted
  intro after
  cases changes with
  | inl window =>
    obtain ⟨start, count, short, low, high, changes⟩ := window
    -- The trailer is as it was, so the CRC of the packed octets would have to be, too.
    have crcs : crc32Mpeg2 (packedOf plaintext) = crc32Mpeg2 (packedOf changed) := by
      rw [← before.trailed, ← after.trailed, changes.trailed high]
    obtain ⟨offset, rfl⟩ : ∃ offset, start = packedOffset + offset := ⟨start - packedOffset, by omega⟩
    obtain ⟨early, late, first, second, packed, repacked, firstSized, secondSized, other⟩ :=
      changes.windows before.sized (by unfold trailerOffset at high; omega)
    rw [packed, repacked] at crcs
    exact crc32Mpeg2_burst (by omega) (by omega) other crcs
  | inr changes =>
    have packed : packedOf changed = packedOf plaintext := by
      apply List.ext_getElem?
      intro index
      by_cases listed : index < imagePackedLength
      · rw [getElem?_packedOf _ listed, getElem?_packedOf _ listed]
        refine changes.elsewhere _ ?_ ?_ <;> simp only [finalOffset, trailerOffset] <;> omega
      · simp [packedOf, listed]
    have trailers : decodeCrcTrailer (changed.drop trailerOffset) =
        decodeCrcTrailer (plaintext.drop trailerOffset) := by
      rw [before.trailed, after.trailed, packed]
    obtain ⟨index, low, high, different⟩ := changes.somewhere
    apply different
    have same := @decodeCrcTrailer_injective _ _ trailers (index - trailerOffset) (by omega)
    have place : trailerOffset + (index - trailerOffset) = index := by omega
    rw [getD_drop, getD_drop, place] at same
    have size : index < plaintext.length := by
      rw [before.sized]
      simp only [trailerOffset, packedOffset, imagePackedLength, imagePlaintextLength] at high ⊢
      omega
    rw [List.getElem?_eq_getElem (by rw [changes.sized]; exact size), List.getElem?_eq_getElem size]
    simpa [List.getD_eq_getElem?_getD, size, changes.sized] using same

def blackPlaintext : List UInt8 := plainWrapper.wrap blackRaster.pack

theorem blackPlaintext_accepted : Accepted blackPlaintext :=
  accepted_wrap plainWrapper (length_pack blackRaster)

theorem image_changes_detected_first :
    ∃ error, decodePlaintext (blackPlaintext.set packedOffset 1) = .error error := by
  have sized : packedOffset < blackPlaintext.length := by
    rw [blackPlaintext_accepted.sized]
    decide
  have dark : blackPlaintext[packedOffset]? = some 0 := by decide +kernel
  refine image_changes_detected (decodePlaintext_ok_iff.mpr ⟨blackPlaintext_accepted, rfl⟩)
    (.inl ⟨packedOffset, 1, by decide, by decide, by decide, ?_, ?_, ?_⟩)
  · rw [List.length_set]
  · intro index _ outside
    rw [List.getElem?_set_ne (by omega)]
  · refine ⟨packedOffset, by decide, by decide, ?_⟩
    rw [dark, List.getElem?_set_self sized]
    decide

end Goodix.ImageDecoder
