import Goodix.A0Protocol
import Goodix.ImageDecoder

/-! # The checksum of an image

An image that does not leave its additive checksum out is checked by a rule of the decoder's own.
Here that rule meets the one of the A0 frames, which takes both octets of the length.
-/

namespace Goodix.ImageDecoder

open Octets A0Protocol

/-- The sum of octets, modulo 256. -/
def octetSum (octets : List UInt8) : UInt8 := octets.foldl (· + ·) 0

variable {control final : UInt8} {payload body octets : List UInt8}

theorem foldl_octets (start : UInt8) (octets : List UInt8) :
    octets.foldl (· + ·) start = start + octetSum octets := by
  induction octets generalizing start with
  | nil => simp [octetSum]
  | cons octet octets ih =>
    rw [octetSum, List.foldl_cons, List.foldl_cons, ih, ih (0 + octet)]
    grind

theorem octetSum_cons (octet : UInt8) (octets : List UInt8) :
    octetSum (octet :: octets) = octet + octetSum octets := by
  rw [octetSum, List.foldl_cons, foldl_octets]
  grind

theorem octetSum_append (octets more : List UInt8) :
    octetSum (octets ++ more) = octetSum octets + octetSum more := by
  rw [octetSum, List.foldl_append, foldl_octets]
  rfl

/-- A sum of words ends in the sum of the octets. -/
theorem foldl_words (start : UInt32) (octets : List UInt8) :
    (octets.foldl (fun sum octet => sum + octet.toUInt32) start).toUInt8 =
      start.toUInt8 + octetSum octets := by
  induction octets generalizing start with
  | nil => simp [octetSum]
  | cons octet octets ih =>
    rw [List.foldl_cons, ih, octetSum_cons, UInt32.toUInt8_add, UInt8.toUInt8_toUInt32]
    grind

/-- The length is one number in the sum, of which the low octet is left. -/
theorem payloadChecksum_eq (control : UInt8) (data : List UInt8) :
    payloadChecksum control data =
      (0xaa : UInt8) - (control + UInt8.ofNat (data.length + 1) + octetSum data) := by
  have start : (UInt32.ofNat (control.toNat + data.length + 1)).toUInt8 =
      control + UInt8.ofNat (data.length + 1) := by
    rw [UInt32.toUInt8_ofNat', Nat.add_assoc, UInt8.ofNat_add, UInt8.ofNat_toNat]
  unfold payloadChecksum
  rw [UInt32.toUInt8_sub, foldl_words, start]
  rfl

theorem innerChecksum_eq (control : UInt8) (body : List UInt8) :
    innerChecksum control body =
      (0xaa : UInt8) - (control + UInt8.ofNat (body.length + 1) +
        (UInt16.ofNat (body.length + 1) >>> 8).toUInt8 + octetSum body) := by
  simp only [innerChecksum, foldl_octets, UInt16.toUInt8_ofNat']

/-- The two rules differ by the high octet of the length. -/
theorem payloadChecksum_inner (control : UInt8) (data : List UInt8) :
    payloadChecksum control data =
      innerChecksum control data + (UInt16.ofNat (data.length + 1) >>> 8).toUInt8 := by
  rw [payloadChecksum_eq, innerChecksum_eq]
  grind

/-! ## Images with an additive checksum -/

/-- The plaintext of an image: its class, its length, its payload and its final octet. -/
def imagePlaintext (control : UInt8) (payload : List UInt8) (final : UInt8) : List UInt8 :=
  control :: putU16Le 7690 ++ payload ++ [final]

/-- The decoder accepts the final octet: what it may still find wrong is the CRC of the record. -/
def AcceptsFinal (plaintext : List UInt8) : Prop :=
  ∀ error, decodePlaintext plaintext = .error error →
    error = imageError errorCrc "image record CRC-32/MPEG-2 mismatch"

/-- The final octet is the one that `goodix_a0_build_frame` puts behind the payload. -/
def IsFrameChecksum (control : UInt8) (payload : List UInt8) (final : UInt8) : Prop :=
  ∃ frame, buildFrame control control payload = some frame ∧ frame.getLast? = some final

/-- The class of an image, and no notification in its place. -/
def IsImage (control : UInt8) (payload : List UInt8) : Prop :=
  control >>> 4 = 2 ∧ payload.getD 0 0 ≠ 0xaa

theorem imagePlaintext_eq (control : UInt8) (payload : List UInt8) (final : UInt8) :
    imagePlaintext control payload final = control :: 0x0a :: 0x1e :: (payload ++ [final]) := by
  have length : putU16Le 7690 = [0x0a, 0x1e] := by decide
  rw [imagePlaintext, length]
  rfl

theorem octetSum_plaintext (control : UInt8) (payload : List UInt8) (final : UInt8) :
    octetSum (imagePlaintext control payload final) =
      control + 0x0a + 0x1e + octetSum payload + final := by
  have none : octetSum [] = 0 := rfl
  rw [imagePlaintext_eq, octetSum_cons, octetSum_cons, octetSum_cons, octetSum_append,
    octetSum_cons, none]
  grind

/-- The decoder looks at the final octet of images only, and goes by its own rule. -/
theorem acceptsFinal_iff (sized : payload.length = 7689) (checked : final ≠ 0x88) :
    AcceptsFinal (imagePlaintext control payload final) ↔
      IsImage control payload ∧ final = payloadChecksum control payload := by
  have long : (imagePlaintext control payload final).length = imagePlaintextLength := by
    simp [imagePlaintext_eq, sized, imagePlaintextLength]
  have first : (payload ++ [final]).getD 0 0 = payload.getD 0 0 := by
    cases payload with
    | nil => simp at sized
    | cons octet payload => rfl
  have behind : (payload ++ [final]).take 7689 = payload := by
    rw [← sized, List.take_left]
  have last : (payload ++ [final]).getD 7689 0 = final := by
    simp [← sized]
  have declared : getU16Le [0x0a, 0x1e] = 7690 := by decide
  have shape : (7690 : UInt16).toNat + 3 = imagePlaintextLength := by decide
  unfold AcceptsFinal decodePlaintext
  rw [long]
  simp only [imagePlaintext_eq, List.getD_cons_zero, List.getD_cons_succ, first, declared, shape,
    List.drop_succ_cons, List.drop_zero, behind, ne_eq, not_true_eq_false, or_false, if_false]
  have final_at : (control :: 10 :: 30 :: (payload ++ [final])).getD (imagePlaintextLength - 1) 0 =
      final := last
  rw [final_at]
  by_cases image : control >>> 4 = 2
  · rw [if_neg (not_not.mpr image)]
    by_cases notification : payload.getD 0 0 = 0xaa
    · rw [if_pos notification]
      constructor
      · intro accepts
        cases accepts _ rfl
      · rintro ⟨⟨-, other⟩, -⟩
        exact absurd notification other
    · rw [if_neg notification]
      by_cases agrees : final = payloadChecksum control payload
      · rw [if_neg (fun differs => differs.2 agrees)]
        refine ⟨fun _ => ⟨⟨image, notification⟩, agrees⟩, fun _ error failed => ?_⟩
        -- only the CRC of the record is left to check
        split at failed
        · exact (Except.error.inj failed).symm
        · cases failed
      · rw [if_pos ⟨checked, agrees⟩]
        constructor
        · intro accepts
          cases accepts _ rfl
        · rintro ⟨-, same⟩
          exact absurd same agrees
  · rw [if_pos image]
    constructor
    · intro accepts
      cases accepts _ rfl
    · rintro ⟨⟨other, -⟩, -⟩
      exact absurd other image

theorem isFrameChecksum_iff (sized : payload.length = 7689) :
    IsFrameChecksum control payload final ↔ final = innerChecksum control payload := by
  have short : payload.length ≤ 65531 := by omega
  constructor
  · rintro ⟨frame, built, last⟩
    obtain ⟨-, rfl⟩ := buildFrame_eq_some.mp built
    rw [List.getLast?_append] at last
    simpa using last.symm
  · rintro rfl
    refine ⟨_, buildFrame_eq_some.mpr ⟨short, rfl⟩, ?_⟩
    rw [List.getLast?_append]
    simp

theorem isFrameChecksum_sum (sized : payload.length = 7689) :
    IsFrameChecksum control payload final ↔
      octetSum (imagePlaintext control payload final) = 0xaa := by
  have low : UInt8.ofNat (7689 + 1) = 0x0a := by decide
  have high : (UInt16.ofNat (7689 + 1) >>> 8).toUInt8 = 0x1e := by decide
  rw [isFrameChecksum_iff sized, octetSum_plaintext, innerChecksum_eq, sized, low, high]
  grind

theorem payloadChecksum_sum (sized : payload.length = 7689) :
    final = payloadChecksum control payload ↔
      octetSum (imagePlaintext control payload final) = 0xc8 := by
  have low : UInt8.ofNat (7689 + 1) = 0x0a := by decide
  rw [octetSum_plaintext, payloadChecksum_eq, sized, low]
  grind

/-- The decoder and the frames agree on a final octet that neither of them takes: the octets of an
image add up to `0xaa` where the rule of the frames is met, and to `0xc8` where the decoder's is. -/
theorem image_checksum_rule (control final : UInt8) (payload : List UInt8)
    (sized : payload.length = 7689) (checked : final ≠ 0x88) :
    (AcceptsFinal (imagePlaintext control payload final) ↔ IsFrameChecksum control payload final) ↔
      octetSum (imagePlaintext control payload final) ≠ 0xaa ∧
        (IsImage control payload → octetSum (imagePlaintext control payload final) ≠ 0xc8) := by
  rw [acceptsFinal_iff sized checked, payloadChecksum_sum sized, isFrameChecksum_sum sized]
  constructor
  · intro agree
    have apart : octetSum (imagePlaintext control payload final) ≠ 0xaa := by
      intro frame
      cases frame.symm.trans (agree.mpr frame).2
    exact ⟨apart, fun image decoder => apart (agree.mp ⟨image, decoder⟩)⟩
  · rintro ⟨frame, decoder⟩
    exact ⟨fun accepted => absurd accepted.2 (decoder accepted.1), fun same => absurd same frame⟩

theorem octetSum_zeros (count : Nat) : octetSum (List.replicate count 0) = 0 := by
  induction count with
  | zero => rfl
  | succ count ih => rw [List.replicate_succ, octetSum_cons, ih]; rfl

/-- The image of a black field, with the checksum of the frames at its end. -/
theorem image_checksum_rule_black :
    octetSum (imagePlaintext 0x20 (List.replicate 7689 0) 0x62) = 0xaa ∧
      ((AcceptsFinal (imagePlaintext 0x20 (List.replicate 7689 0) 0x62) ↔
          IsFrameChecksum 0x20 (List.replicate 7689 0) 0x62) ↔
        octetSum (imagePlaintext 0x20 (List.replicate 7689 0) 0x62) ≠ 0xaa ∧
          (IsImage 0x20 (List.replicate 7689 0) →
            octetSum (imagePlaintext 0x20 (List.replicate 7689 0) 0x62) ≠ 0xc8)) := by
  refine ⟨?_, image_checksum_rule 0x20 0x62 _ List.length_replicate (by decide)⟩
  rw [octetSum_plaintext, octetSum_zeros]
  decide

/-- That image is refused for the octet that a frame would have. -/
theorem image_checksum_refused :
    ¬ ∀ (control final : UInt8) (payload : List UInt8), payload.length = 7689 → final ≠ 0x88 →
      IsImage control payload →
        (AcceptsFinal (imagePlaintext control payload final) ↔
          IsFrameChecksum control payload final) := by
  intro agree
  have sized : (List.replicate 7689 (0 : UInt8)).length = 7689 := List.length_replicate
  have image : IsImage 0x20 (List.replicate 7689 0) := by
    refine ⟨by decide, ?_⟩
    rw [List.replicate_succ]
    decide
  have sum : octetSum (imagePlaintext 0x20 (List.replicate 7689 0) 0x62) = 0xaa := by
    rw [octetSum_plaintext, octetSum_zeros]
    decide
  have accepted := (agree 0x20 0x62 _ sized (by decide) image).mpr ((isFrameChecksum_sum sized).mpr sum)
  have decoder := ((acceptsFinal_iff sized (by decide)).mp accepted).2
  cases sum.symm.trans ((payloadChecksum_sum sized).mp decoder)

end Goodix.ImageDecoder
