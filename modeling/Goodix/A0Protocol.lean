import Goodix.Primitives

/-! # The A0 codec

`goodix_a0_protocol.c`: a four-octet outer header with a tag, a three-octet inner
header, the body, and an additive checksum that makes the inner part sum to 0xaa.
-/

namespace Goodix.A0Protocol

open Octets

structure A0Message where
  control : UInt8
  body : List UInt8
  deriving DecidableEq

def a0Error (code : Nat) (message : String) : GError := ⟨"goodix-a0-error", code, message⟩

def errorLength : Nat := 1
def errorTag : Nat := 2
def errorChecksum : Nat := 3

def outerTag (type : UInt8) (payloadLength : UInt16) : UInt8 :=
  type + payloadLength.toUInt8 + (payloadLength >>> 8).toUInt8

def innerChecksum (control : UInt8) (body : List UInt8) : UInt8 :=
  let innerLength := UInt16.ofNat (body.length + 1)
  let sum := control + innerLength.toUInt8 + (innerLength >>> 8).toUInt8
  0xaa - body.foldl (· + ·) sum

/-- `goodix_a0_build_frame`, which refuses only a body that is too large. -/
def buildFrame (wireControl checksumControl : UInt8) (body : List UInt8) : Option (List UInt8) :=
  if body.length > 65535 - 4 then none
  else
    let innerLength := UInt16.ofNat (body.length + 1)
    let payloadLength := UInt16.ofNat (body.length + 4)
    some ([0xa0] ++ putU16Le payloadLength ++ [outerTag 0xa0 payloadLength] ++
      [wireControl] ++ putU16Le innerLength ++ body ++ [innerChecksum checksumControl body])

/-- `goodix_a0_parse_frame` -/
def parseFrame (frame : List UInt8) (checksumControl : UInt8) : Except GError A0Message :=
  let octet (index : Nat) := frame.getD index 0
  let payloadLength := getU16Le [octet 1, octet 2]
  let innerLength := getU16Le [octet 5, octet 6]
  let body := (frame.drop 7).take (innerLength.toNat - 1)
  if frame.length < 8 || octet 0 ≠ 0xa0 then
    .error (a0Error errorLength "A0 outer type or minimum length is invalid")
  else if payloadLength.toNat + 4 ≠ frame.length || payloadLength < 4 then
    .error (a0Error errorLength "A0 outer length is inconsistent")
  else if octet 3 ≠ outerTag (octet 0) payloadLength then
    .error (a0Error errorTag "A0 outer tag mismatch")
  else if innerLength = 0 || innerLength.toNat + 3 ≠ payloadLength.toNat then
    .error (a0Error errorLength "A0 inner length is inconsistent")
  else if octet (frame.length - 1) ≠ innerChecksum checksumControl body then
    .error (a0Error errorChecksum "A0 inner checksum mismatch")
  else
    .ok { control := octet 4, body }

/-- Parsing as every receiver does it: the control octet of the frame is also the one its
checksum was made with. -/
def parseReceived (frame : List UInt8) : Except GError A0Message :=
  parseFrame frame (frame.getD 4 0)

theorem buildFrame_isSome {wireControl checksumControl : UInt8} {body : List UInt8}
    (short : body.length ≤ 65531) : (buildFrame wireControl checksumControl body).isSome := by
  have fits : ¬ body.length > 65535 - 4 := by omega
  simp [buildFrame, fits]

/-! ## Round trip -/

section RoundTrip

variable {wireControl checksumControl : UInt8} {body frame : List UInt8}

/-- What `goodix_a0_build_frame` writes. -/
theorem buildFrame_eq_some :
    buildFrame wireControl checksumControl body = some frame ↔
      body.length ≤ 65531 ∧
        frame = 0xa0 :: putU16Le (UInt16.ofNat (body.length + 4)) ++
          outerTag 0xa0 (UInt16.ofNat (body.length + 4)) :: wireControl ::
            putU16Le (UInt16.ofNat (body.length + 1)) ++ body ++
              [innerChecksum checksumControl body] := by
  unfold buildFrame
  by_cases large : body.length > 65535 - 4
  · simp only [large, if_true]
    refine ⟨nofun, fun built => ?_⟩
    omega
  · simp only [large, if_false, Option.some.injEq]
    constructor
    · rintro rfl
      exact ⟨by omega, by simp⟩
    · rintro ⟨-, rfl⟩
      simp

/-- The two octets of a length. -/
theorem putU16Le_octets (value : UInt16) :
    ∃ low high, putU16Le value = [low, high] ∧ getU16Le [low, high] = value :=
  ⟨_, _, rfl, getU16Le_putU16Le value⟩

theorem toNat_length {length extra : Nat} (fits : length + extra ≤ 65535) :
    (UInt16.ofNat (length + extra)).toNat = length + extra := by
  rw [UInt16.toNat_ofNat']
  omega

theorem parseFrame_buildFrame (built : buildFrame wireControl checksumControl body = some frame) :
    parseFrame frame checksumControl = .ok { control := wireControl, body } := by
  obtain ⟨short, rfl⟩ := buildFrame_eq_some.mp built
  have payload := @toNat_length body.length 4 (by omega)
  have inner := @toNat_length body.length 1 (by omega)
  have check : innerChecksum checksumControl (body.take body.length) =
      innerChecksum checksumControl body := by rw [List.take_length]
  clear built
  generalize UInt16.ofNat (body.length + 4) = payloadLength at *
  generalize UInt16.ofNat (body.length + 1) = innerLength at *
  obtain ⟨payloadLow, payloadHigh, payloadOctets, payloadRead⟩ := putU16Le_octets payloadLength
  obtain ⟨innerLow, innerHigh, innerOctets, innerRead⟩ := putU16Le_octets innerLength
  have enough : ¬ payloadLength < 4 := by
    rw [UInt16.lt_iff_toNat_lt, payload]
    simp
  have nonzero : innerLength ≠ 0 := by
    rintro rfl
    simp at inner
  have long : ¬ body.length + 1 + 1 + 1 + 1 + 1 + 1 + 1 + 1 < 8 := by omega
  unfold parseFrame
  simp [payloadOctets, innerOctets, payloadRead, innerRead, payload, inner, enough, nonzero, long]

/-- A frame long enough is a header of seven octets, a body and a last octet. -/
theorem long_frame (long : 8 ≤ frame.length) :
    ∃ type payloadLow payloadHigh tag control innerLow innerHigh body checksum,
      frame = type :: payloadLow :: payloadHigh :: tag :: control :: innerLow :: innerHigh ::
        (body ++ [checksum]) := by
  match frame, long with
  | type :: payloadLow :: payloadHigh :: tag :: control :: innerLow :: innerHigh :: first :: rest,
    _ =>
    rcases List.eq_nil_or_concat' (first :: rest) with empty | ⟨body, checksum, split⟩
    · cases empty
    · exact ⟨_, _, _, _, _, _, _, body, checksum, by rw [split]⟩

/-- A length is written back as the two octets it was read from. -/
theorem putU16Le_length {low high : UInt8} {length : Nat}
    (read : (getU16Le [low, high]).toNat = length) : putU16Le (UInt16.ofNat length) = [low, high] := by
  have same : UInt16.ofNat length = getU16Le [low, high] := by
    rw [← read, UInt16.ofNat_toNat]
  rw [same]
  exact putU16Le_getU16Le rfl

/-- A frame that parses is what is built of its control and its body. -/
theorem buildFrame_parseFrame {message : A0Message}
    (parsed : parseFrame frame checksumControl = .ok message) :
    buildFrame message.control checksumControl message.body = some frame := by
  unfold parseFrame at parsed
  by_cases long : 8 ≤ frame.length
  · obtain ⟨type, payloadLow, payloadHigh, tag, control, innerLow, innerHigh, body, checksum, rfl⟩ :=
      long_frame long
    simp at parsed
    split_ifs at parsed with start outer tagged inner checked
    obtain ⟨payload, -⟩ := not_or.mp outer
    obtain ⟨-, nested⟩ := not_or.mp inner
    rw [not_not] at payload nested
    -- the two lengths agree on the body
    have read : (getU16Le [innerLow, innerHigh]).toNat = body.length + 1 := by omega
    have whole : (body ++ [checksum]).take ((getU16Le [innerLow, innerHigh]).toNat - 1) = body := by
      rw [read]
      simp
    have bound := (getU16Le [payloadLow, payloadHigh]).toNat_lt
    rw [whole] at parsed checked
    cases parsed
    have short : body.length ≤ 65531 := by omega
    rw [buildFrame_eq_some]
    refine ⟨short, ?_⟩
    have tagIs : type = 0xa0 := not_not.mp (not_or.mp start).2
    rw [putU16Le_length payload, putU16Le_length read, ← payload, UInt16.ofNat_toNat, ← tagIs,
      ← tagged, ← checked]
    simp
  · have short : frame.length < 8 := by omega
    simp [short] at parsed

/-- **Round trip.**  Parsing undoes building and building undoes parsing, so a message has one
frame for each control of its checksum. -/
theorem a0_codec_round_trip :
    (∀ wireControl checksumControl body, body.length ≤ 65531 →
      ∃ frame, buildFrame wireControl checksumControl body = some frame ∧
        parseFrame frame checksumControl = .ok { control := wireControl, body }) ∧
    (∀ frame checksumControl message, parseFrame frame checksumControl = .ok message →
      buildFrame message.control checksumControl message.body = some frame) ∧
    (∀ first second checksumControl message, parseFrame first checksumControl = .ok message →
      parseFrame second checksumControl = .ok message → first = second) := by
  refine ⟨fun wireControl checksumControl body short => ?_,
    fun frame checksumControl message parsed => buildFrame_parseFrame parsed,
    fun first second checksumControl message one other => ?_⟩
  · obtain ⟨frame, built⟩ := Option.isSome_iff_exists.mp (buildFrame_isSome short)
    exact ⟨frame, built, parseFrame_buildFrame built⟩
  · have same := (buildFrame_parseFrame one).symm.trans (buildFrame_parseFrame other)
    exact Option.some.inj same

/-- The request for the firmware version. -/
theorem a0_codec_round_trip_a8 :
    ∃ frame, buildFrame 0xa8 0xa8 [0, 0] = some frame ∧
      parseFrame frame 0xa8 = .ok { control := 0xa8, body := [0, 0] } :=
  a0_codec_round_trip.1 0xa8 0xa8 [0, 0] (by decide)

end RoundTrip

/-- The status octets with which the device accepts a command. -/
def ackStatusAccepted (status : UInt8) : Bool := status = 0x01 || status = 0x07

end Goodix.A0Protocol
