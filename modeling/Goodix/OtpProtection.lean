import Goodix.Config90
import Goodix.Library.Crc

/-! # What the group checksums of the OTP protect

Three groups of octets, scattered over the OTP, each end in a stored checksum.  Together they
are the whole OTP, and a group in which a single octet has changed is refused.
-/

namespace Goodix.Config90

open Octets

/-- The pieces of a group, in the order in which they are gathered, and where its checksum is. -/
structure OtpGroup where
  pieces : List (Nat × Nat)
  stored : Nat

namespace OtpGroup

def covered (group : OtpGroup) : List Nat :=
  group.pieces.flatMap fun piece => List.range' piece.1 piece.2

def positions (group : OtpGroup) : List Nat := group.covered ++ [group.stored]

def gathered (group : OtpGroup) (otp : Otp) : List UInt8 :=
  group.pieces.flatMap fun piece => otpRange otp piece.1 piece.2

def Sums (group : OtpGroup) (otp : Otp) : Prop :=
  otpCrc8 (group.gathered otp) = otp.val.getD group.stored 0

end OtpGroup

def firstGroup : OtpGroup := ⟨[(0, 11), (36, 4)], 60⟩
def secondGroup : OtpGroup := ⟨[(11, 9), (28, 1), (50, 4), (56, 4), (62, 1)], 61⟩
def thirdGroup : OtpGroup := ⟨[(20, 8), (29, 7), (40, 10), (54, 2)], 63⟩

def otpGroups : List OtpGroup := [firstGroup, secondGroup, thirdGroup]

theorem octetAt_eq_getD (otp : Otp) {offset : Nat} (bound : offset < 64) :
    otp.octetAt offset bound = otp.val.getD offset 0 := by
  have inside : offset < otp.val.length := by simpa using bound
  rw [List.getD_eq_getElem _ _ inside]
  rfl

/-- What `validate_group_crcs` checks are the sums of the groups. -/
theorem validateGroupCrcs_iff (otp : Otp) :
    validateGroupCrcs otp = true ↔ ∀ group ∈ otpGroups, group.Sums otp := by
  simp only [validateGroupCrcs, Bool.and_eq_true, decide_eq_true_eq, octetAt_eq_getD, otpGroups,
    List.forall_mem_cons, List.not_mem_nil, false_imp_iff, implies_true, and_true, and_assoc,
    OtpGroup.Sums, OtpGroup.gathered, firstGroup, secondGroup, thirdGroup, List.flatMap_cons,
    List.flatMap_nil, List.append_nil, List.append_assoc]

/-- The groups share the positions of the OTP out among themselves. -/
theorem positions_perm : (otpGroups.flatMap OtpGroup.positions).Perm (List.range 64) := by
  decide +kernel

theorem positions_nodup {group : OtpGroup} (listed : group ∈ otpGroups) : group.positions.Nodup := by
  have distinct : (otpGroups.flatMap OtpGroup.positions).Nodup :=
    positions_perm.nodup_iff.mpr List.nodup_range
  exact (List.nodup_flatMap.mp distinct).1 group listed

/-! ## The checksum -/

def otpGenerator : BitVec 8 := 0x07#8

theorem crcShift_toBitVec (crc : UInt8) :
    (crcShift crc).toBitVec = Crc.shift otpGenerator crc.toBitVec := by
  have top : crc &&& 0x80 ≠ 0 ↔ crc.toBitVec.msb = true := by
    rw [ne_eq, ← UInt8.toBitVec_inj, UInt8.toBitVec_and]
    exact Crc.and_top crc.toBitVec
  simp only [crcShift, Crc.shift, top]
  split
  · rfl
  · rfl

theorem otpCrc8_toBitVec (data : List UInt8) :
    (otpCrc8 data).toBitVec = ~~~ Crc.feed otpGenerator 0#8 (data.map UInt8.toBitVec) := by
  have absorbs (register octet : UInt8) : (crcShift^[8] (register ^^^ octet)).toBitVec =
      Crc.octet otpGenerator register.toBitVec octet.toBitVec := by
    have placed : Crc.place 8 0 octet.toBitVec = octet.toBitVec := by simp [Crc.place]
    rw [Crc.view_shifts otpGenerator UInt8.toBitVec crcShift_toBitVec, Crc.octet, placed,
      UInt8.toBitVec_xor]
  rw [otpCrc8, UInt8.toBitVec_not, Crc.view_feed otpGenerator UInt8.toBitVec absorbs]
  rfl

/-- A change of one octet changes the checksum. -/
theorem otpCrc8_changed {early late : List UInt8} {octet other : UInt8} (different : octet ≠ other) :
    otpCrc8 (early ++ octet :: late) ≠ otpCrc8 (early ++ other :: late) := by
  intro same
  have registers := congrArg UInt8.toBitVec same
  rw [otpCrc8_toBitVec, otpCrc8_toBitVec, BitVec.not_inj] at registers
  simp only [List.map_append, List.map_cons] at registers
  refine @Crc.feed_burst 8 otpGenerator (by decide) 0#8 (early.map UInt8.toBitVec)
    (late.map UInt8.toBitVec) [octet.toBitVec] [other.toBitVec] rfl (by simp) ?_ ?_
  · intro equal
    exact different (UInt8.toBitVec_inj.mp (List.cons.inj equal).1)
  · simpa using registers

/-! ## Groups in which one octet has changed -/

theorem otpRange_eq_map (otp : Otp) {offset length : Nat} (inside : offset + length ≤ 64) :
    otpRange otp offset length =
      (List.range' offset length).map fun position => otp.val.getD position 0 := by
  apply List.ext_getElem?
  intro index
  by_cases listed : index < length
  · have bound : offset + index < otp.val.length := by simp; omega
    simp only [otpRange, List.getElem?_take_of_lt listed, List.getElem?_drop, List.getElem?_map,
      List.getElem?_range', listed, Option.map_some, Nat.one_mul,
      List.getElem?_eq_getElem bound, List.getD_eq_getElem _ _ bound]
  · simp [otpRange, listed]

theorem gathered_eq_map (otp : Otp) {group : OtpGroup} (listed : group ∈ otpGroups) :
    group.gathered otp = group.covered.map fun position => otp.val.getD position 0 := by
  have inside : ∀ group ∈ otpGroups, ∀ piece ∈ group.pieces, piece.1 + piece.2 ≤ 64 := by decide
  rw [OtpGroup.gathered, OtpGroup.covered, List.map_flatMap]
  apply List.flatMap_congr
  intro piece named
  exact otpRange_eq_map otp (inside group listed piece named)

/-- Exactly one octet of the group differs. -/
def OtpGroup.ChangedOnce (group : OtpGroup) (otp changed : Otp) : Prop :=
  ∃! position, position ∈ group.positions ∧ changed.val.getD position 0 ≠ otp.val.getD position 0

theorem OtpGroup.ChangedOnce.breaks {group : OtpGroup} (listed : group ∈ otpGroups) {otp changed : Otp}
    (once : group.ChangedOnce otp changed) (sums : group.Sums otp) : ¬ group.Sums changed := by
  obtain ⟨position, ⟨named, different⟩, single⟩ := once
  have kept (other : Nat) (covered : other ∈ group.positions) (apart : other ≠ position) :
      changed.val.getD other 0 = otp.val.getD other 0 := by
    by_contra unlike
    exact apart (single other ⟨covered, unlike⟩)
  have distinct := positions_nodup listed
  intro still
  unfold OtpGroup.Sums at sums still
  rw [gathered_eq_map _ listed] at sums still
  cases List.mem_append.mp named with
  | inl data =>
    -- The stored checksum is as it was, the data are not.
    obtain ⟨early, late, split⟩ := List.append_of_mem data
    have apart := List.nodup_append.mp distinct
    have stored : changed.val.getD group.stored 0 = otp.val.getD group.stored 0 :=
      kept _ (by simp [OtpGroup.positions]) fun same =>
        apart.2.2 position data group.stored (by simp) same.symm
    rw [stored, ← sums, split] at still
    simp only [List.map_append, List.map_cons] at still
    rw [OtpGroup.positions, split] at distinct
    have same (other : Nat) (among : other ∈ early ∨ other ∈ late) :
        changed.val.getD other 0 = otp.val.getD other 0 := by
      refine kept other ?_ ?_
      · simp only [OtpGroup.positions, split, List.mem_append, List.mem_cons]
        tauto
      · intro equal
        have once := (List.nodup_append.mp (List.nodup_append.mp distinct).1)
        cases among with
        | inl before => exact once.2.2 other before position (by simp) equal
        | inr after => exact (List.nodup_cons.mp once.2.1).1 (equal ▸ after)
    rw [List.map_congr_left fun other before => same other (.inl before),
      List.map_congr_left fun other after => same other (.inr after)] at still
    exact otpCrc8_changed different still
  | inr stored =>
    -- The data are as they were, the stored checksum is not.
    have place : position = group.stored := by simpa using stored
    subst place
    have data : (group.covered.map fun position => changed.val.getD position 0) =
        group.covered.map fun position => otp.val.getD position 0 := by
      apply List.map_congr_left
      intro other covered
      refine kept other (by simp [OtpGroup.positions, covered]) fun same => ?_
      exact (List.nodup_append.mp distinct).2.2 other covered group.stored (by simp) same
    rw [data, sums] at still
    exact different still.symm

theorem derive_sums {chipId : UInt16} {otp : Otp} {derived : Config × Calibration}
    (succeeds : derive chipId otp = .ok derived) : ∀ group ∈ otpGroups, group.Sums otp := by
  apply (validateGroupCrcs_iff otp).mp
  unfold derive at succeeds
  split at succeeds
  · cases succeeds
  split at succeeds
  · cases succeeds
  · rename_i valid
    simpa using valid

/-- **The OTP is protected.** The groups with their checksums are all of the OTP, each position in
one of them, and an accepted OTP in which some group has changed in one octet is refused. -/
theorem otp_changes_detected :
    (otpGroups.flatMap OtpGroup.positions).Perm (List.range 64) ∧
    ∀ chipId otpOfChip derived otherChip changed, derive chipId otpOfChip = .ok derived →
      (∃ group ∈ otpGroups, group.ChangedOnce otpOfChip changed) →
        ∃ error, derive otherChip changed = .error error := by
  refine ⟨positions_perm, fun chipId otp derived otherChip changed accepted changes => ?_⟩
  obtain ⟨group, listed, once⟩ := changes
  have broken := once.breaks listed (derive_sums accepted group listed)
  cases again : derive otherChip changed with
  | error error => exact ⟨error, rfl⟩
  | ok other => exact absurd (derive_sums again group listed) broken

/-- An accepted OTP with one octet changed in every group. -/
theorem otp_changes_detected_everywhere :
    ∃ error, derive 0x2504 (((plainOtp.set 0 0x80).set 19 0x80).set 63 0x80) = .error error := by
  obtain ⟨derived, accepted⟩ := derive_plainOtp
  refine otp_changes_detected.2 0x2504 plainOtp derived 0x2504 _ accepted
    ⟨firstGroup, by simp [otpGroups], 0, by decide +kernel, ?_⟩
  have others : ∀ position ∈ firstGroup.positions, position ≠ 0 →
      (((plainOtp.set 0 0x80).set 19 0x80).set 63 0x80).val.getD position 0 =
        plainOtp.val.getD position 0 := by decide +kernel
  intro position changed
  by_contra apart
  exact changed.2 (others position changed.1 apart)

end Goodix.Config90
