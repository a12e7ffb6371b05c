import Mathlib.Data.List.Basic

/-! # Cutting a message into packets

A message is sent in packets of one fixed size, the last one filled up.  Whoever
keeps an offset into the message cuts the same packets.
-/

namespace Packets

variable {α : Type*}

/-- The packet at the front of what is left. -/
def packet (size : Nat) (fill : α) (left : List α) : List α :=
  left.take size ++ List.replicate (size - left.length) fill

@[simp] theorem length_packet (size : Nat) (fill : α) (left : List α) :
    (packet size fill left).length = size := by
  simp [packet]
  omega

/-- The packets of a message. -/
def packetize (size : Nat) (fill : α) (message : List α) : List (List α) :=
  if _more : size = 0 ∨ message = [] then []
  else packet size fill message :: packetize size fill (message.drop size)
termination_by message.length
decreasing_by
  rw [not_or] at _more
  have nonempty := List.length_pos_iff.mpr _more.2
  simp only [List.length_drop]
  omega

@[simp] theorem packetize_nil (size : Nat) (fill : α) : packetize size fill ([] : List α) = [] := by
  unfold packetize
  simp

theorem packetize_cons {size : Nat} (positive : 0 < size) (fill : α) {left : List α}
    (more : left ≠ []) :
    packetize size fill left = packet size fill left :: packetize size fill (left.drop size) := by
  rw [packetize, dif_neg]
  rintro (zero | empty)
  · omega
  · exact more empty

theorem length_of_mem_packetize {size : Nat} {fill : α} {message cut : List α}
    (cutFrom : cut ∈ packetize size fill message) : cut.length = size := by
  induction message using packetize.induct size with
  | case1 message ended =>
    rw [packetize, dif_pos ended] at cutFrom
    cases cutFrom
  | case2 message more ih =>
    rw [packetize, dif_neg more] at cutFrom
    rcases List.mem_cons.mp cutFrom with rfl | rest
    · exact length_packet size fill message
    · exact ih rest

/-- Nothing but the filling is added: the packets in a row start with the message. -/
theorem flatten_packetize {size : Nat} (positive : 0 < size) (fill : α) (message : List α) :
    ∃ tail, (packetize size fill message).flatten = message ++ tail ∧ tail.length < size ∧
      ∀ octet ∈ tail, octet = fill := by
  induction message using packetize.induct size with
  | case1 message ended =>
    have empty := ended.resolve_left (by omega)
    subst empty
    exact ⟨[], by simp, positive, by simp⟩
  | case2 message more ih =>
    have nonempty := (not_or.mp more).2
    obtain ⟨tail, cut, short, filled⟩ := ih
    rw [packetize_cons positive fill nonempty, List.flatten_cons, cut]
    by_cases whole : size ≤ message.length
    · refine ⟨tail, ?_, short, filled⟩
      simp only [packet, Nat.sub_eq_zero_of_le whole, List.replicate_zero, List.append_nil]
      rw [← List.append_assoc, List.take_append_drop]
    · -- the last packet, filled up
      have ended : message.drop size = [] := List.drop_eq_nil_of_le (by omega)
      rw [ended] at cut ⊢
      have none : tail = [] := by
        rw [packetize_nil] at cut
        simpa using cut.symm
      subst none
      have positiveLength := List.length_pos_iff.mpr nonempty
      refine ⟨List.replicate (size - message.length) fill, ?_, ?_, ?_⟩
      · simp [packet, List.take_of_length_le (by omega : message.length ≤ size)]
      · simp only [List.length_replicate]
        omega
      · intro octet inside
        exact List.eq_of_mem_replicate inside

/-- One packet cut at an offset leaves what the next offset leaves. -/
theorem packetize_drop {size : Nat} (positive : 0 < size) (fill : α) {message : List α}
    {offset : Nat} (inside : offset < message.length) :
    packetize size fill (message.drop offset) =
      packet size fill (message.drop offset) ::
        packetize size fill (message.drop (offset + min (message.length - offset) size)) := by
  have more : message.drop offset ≠ [] := by
    rw [ne_eq, List.drop_eq_nil_iff]
    omega
  rw [packetize_cons positive fill more, List.drop_drop]
  by_cases whole : size ≤ message.length - offset
  · rw [Nat.min_eq_right whole]
  · -- the last packet: neither offset leaves anything
    have ended : message.drop (offset + size) = [] := List.drop_eq_nil_of_le (by omega)
    have reached : message.drop (offset + (message.length - offset)) = [] :=
      List.drop_eq_nil_of_le (by omega)
    rw [Nat.min_eq_left (by omega), ended, reached]

end Packets
