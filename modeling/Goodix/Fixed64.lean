import Goodix.Enrollment.Commands
import Goodix.PostTls.Machine

/-! # The two builders of a packet

`fixed64_command` of the verify path and `goodix_enrollment_outbound_frame_build` each put a
frame into a packet of 64 octets.  Both are the same packet of a control octet and a body.
-/

namespace Goodix

open Octets A0Protocol

/-! ## The packet of the verify path -/

namespace PostTls

variable {control : UInt8} {body packet : List UInt8}

/-- A packet is a frame and zeros, and there is one for every body that fits. -/
theorem fixed64Command_eq_ok :
    fixed64Command control body = .ok packet ↔
      body.length ≤ 56 ∧ ∃ frame, buildFrame control (control &&& 0xfe) body = some frame ∧
        frame.length = body.length + 8 ∧
        packet = frame ++ List.replicate (56 - body.length) 0 := by
  unfold fixed64Command
  constructor
  · intro built
    cases framed : buildFrame control (control &&& 0xfe) body with
    | none => simp [framed] at built
    | some frame =>
      have length : frame.length = body.length + 8 := by
        obtain ⟨-, rfl⟩ := buildFrame_eq_some.mp framed
        simp [putU16Le]
        omega
      simp only [framed] at built
      split at built
      · cases built
      · rename_i fits
        refine ⟨by omega, frame, rfl, length, ?_⟩
        rw [← Except.ok.inj built, length]
        congr 2
        omega
  · rintro ⟨short, frame, framed, length, rfl⟩
    have fits : ¬ frame.length > 64 := by omega
    simp only [framed, if_neg fits]
    rw [length]
    congr 3
    omega

/-- The packet of a body that fits. -/
theorem fixed64Command_of_short (control : UInt8) (short : body.length ≤ 56) :
    ∃ packet, fixed64Command control body = .ok packet := by
  obtain ⟨frame, framed⟩ := Option.isSome_iff_exists.mp
    (@buildFrame_isSome control (control &&& 0xfe) body (by omega))
  have length : frame.length = body.length + 8 := by
    obtain ⟨-, rfl⟩ := buildFrame_eq_some.mp framed
    simp [putU16Le]
    omega
  exact ⟨_, fixed64Command_eq_ok.mpr ⟨short, frame, framed, length, rfl⟩⟩

/-- What a packet holds. -/
theorem fixed64Command_packet (built : fixed64Command control body = .ok packet) :
    packet.length = 64 ∧
      parseFrame (packet.take (body.length + 8)) (control &&& 0xfe) = .ok { control, body } ∧
      packet.drop (body.length + 8) = List.replicate (56 - body.length) 0 := by
  obtain ⟨short, frame, framed, length, rfl⟩ := fixed64Command_eq_ok.mp built
  refine ⟨?_, ?_, ?_⟩
  · simp [length]
    omega
  · rw [← length, List.take_left]
    exact parseFrame_buildFrame framed
  · rw [← length, List.drop_left]

end PostTls

/-! ## The packet of an enrollment -/

namespace Enrollment

/-- A frame of the enrollment is made only of a valid command, and is the packet of its control
octet and its body. -/
theorem outboundFrameBuild_eq {prepared : PreparedCommand} {packet : List UInt8}
    (built : outboundFrameBuild prepared = .ok packet) :
    preparedBodyValid prepared = true ∧
      PostTls.fixed64Command prepared.intent.control prepared.body = .ok packet := by
  unfold outboundFrameBuild at built
  split at built
  · cases built
  rename_i valid
  refine ⟨by simpa using (not_or.mp valid).2, ?_⟩
  unfold PostTls.fixed64Command
  cases framed : buildFrame prepared.intent.control (prepared.intent.control &&& 0xfe)
      prepared.body with
  | none => simp [framed] at built
  | some logical =>
    simp only [framed] at built ⊢
    by_cases long : logical.length > fixed64Length
    · rw [if_pos long] at built
      cases built
    · rw [if_neg long] at built
      rw [if_neg (show ¬ logical.length > 64 from long)]
      exact built

/-- A valid body is one that is built for its intent. -/
theorem built_of_preparedBodyValid {prepared : PreparedCommand}
    (valid : preparedBodyValid prepared = true) :
    ∃ material, commandBodyBuild prepared.intent material = .ok prepared.body := by
  unfold preparedBodyValid at valid
  by_cases simple : prepared.intent.bodyClass = .simple_01_00
  · rw [if_pos simple] at valid
    dsimp only at valid
    split at valid
    · rename_i rebuilt body
      exact ⟨none, by rw [body, of_decide_eq_true valid]⟩
    · cases valid
  · rw [if_neg simple] at valid
    generalize (if decide (prepared.intent.bodyClass = .fdtTimestamp_0801) = true then 16 else 14) =
      required at valid
    by_cases length : prepared.body.length ≠ required
    · rw [if_pos length] at valid
      cases valid
    · rw [if_neg length] at valid
      dsimp only at valid
      split at valid
      · rename_i rebuilt body
        exact ⟨_, by rw [body, of_decide_eq_true valid]⟩
      · cases valid

/-- An intent with the field that says whether its frame may be serialized here, which nothing in
the driver sets. -/
structure MarkedIntent where
  intent : CommandIntent
  wireFrameSerializable : Bool

/-- `goodix_enrollment_command_body_build` of an intent with its field. -/
def MarkedIntent.bodyBuild (marked : MarkedIntent) (material : Option CommandMaterial) :
    Except GError (List UInt8) :=
  if marked.wireFrameSerializable then
    .error (bodyError bodyErrorIntent "command intent is not a valid zero-sender plan item")
  else commandBodyBuild marked.intent material

/-- `goodix_enrollment_outbound_frame_build` of an intent with its field. -/
def MarkedIntent.frameBuild (marked : MarkedIntent) (body : List UInt8) :
    Except GError (List UInt8) :=
  if marked.wireFrameSerializable then
    .error (outboundError outboundErrorContract
      "prepared enrollment command violates its contract")
  else outboundFrameBuild ⟨marked.intent, body⟩

end Enrollment

open Enrollment PostTls in
/-- **One packet.** The verify path makes a packet of every body of at most 56 octets, and it reads
back; the enrollment makes the same packet, of the bodies that are built for their intents. -/
theorem fixed64_builders_agree :
    (∀ control body, (∃ packet, fixed64Command control body = .ok packet) ↔ body.length ≤ 56) ∧
    (∀ control body packet, fixed64Command control body = .ok packet →
      packet.length = 64 ∧
        parseFrame (packet.take (body.length + 8)) (control &&& 0xfe) = .ok { control, body } ∧
        packet.drop (body.length + 8) = List.replicate (56 - body.length) 0) ∧
    (∀ (marked : MarkedIntent) body packet, marked.frameBuild body = .ok packet →
      fixed64Command marked.intent.control body = .ok packet) ∧
    (∀ (marked : MarkedIntent) body, (∃ packet, marked.frameBuild body = .ok packet) ↔
      ∃ material, marked.bodyBuild material = .ok body) := by
  refine ⟨fun control body => ?_, fun control body packet built => fixed64Command_packet built,
    fun marked body packet built => ?_, fun marked body => ?_⟩
  · constructor
    · rintro ⟨packet, built⟩
      exact (fixed64Command_eq_ok.mp built).1
    · exact fixed64Command_of_short control
  · unfold MarkedIntent.frameBuild at built
    split at built
    · cases built
    · exact (outboundFrameBuild_eq built).2
  · unfold MarkedIntent.frameBuild MarkedIntent.bodyBuild
    cases marked.wireFrameSerializable with
    | true => simp
    | false =>
      simp only [Bool.false_eq_true, if_false]
      constructor
      · rintro ⟨packet, built⟩
        exact built_of_preparedBodyValid (outboundFrameBuild_eq built).1
      · rintro ⟨material, built⟩
        exact outboundFrameBuild_built built

/-- The command that asks for the first image of a contact. -/
theorem fixed64_builders_agree_22 :
    ∃ packet, PostTls.fixed64Command 0x22 [0x01, 0x00] = .ok packet ∧ packet.length = 64 ∧
      Enrollment.MarkedIntent.frameBuild
        ⟨⟨.command_22, .primaryAcquire, .simple_01_00, 1, 0x22⟩, false⟩ [0x01, 0x00] =
          .ok packet := by
  have framed := (fixed64_builders_agree.2.2.2
    ⟨⟨.command_22, .primaryAcquire, .simple_01_00, 1, 0x22⟩, false⟩ [0x01, 0x00]).mpr
      ⟨none, by decide⟩
  obtain ⟨packet, framed⟩ := framed
  have same := fixed64_builders_agree.2.2.1 _ _ _ framed
  exact ⟨packet, same, (fixed64_builders_agree.2.1 _ _ _ same).1, framed⟩

end Goodix
