import Mathlib

/-! # Cyclic redundancy codes

A register of `width` bits is shifted left one bit at a time; when a bit leaves it, the
generator polynomial is added.  Octets enter at the top.  The register is linear over
exclusive or, and with an odd polynomial a shift loses nothing: an error that fits into the
register is never forgotten.
-/

namespace Crc

variable {width : Nat} (polynomial : BitVec width)

/-- One bit leaves the register. -/
def shift (register : BitVec width) : BitVec width :=
  if register.msb then (register <<< 1) ^^^ polynomial else register <<< 1

/-- An octet at the `index`-th place from the top of the register. -/
def place (width index : Nat) (octet : BitVec 8) : BitVec width :=
  octet.setWidth width <<< (width - 8 * (index + 1))

def octet (register : BitVec width) (octet : BitVec 8) : BitVec width :=
  (shift polynomial)^[8] (register ^^^ place width 0 octet)

def feed (register : BitVec width) (octets : List (BitVec 8)) : BitVec width :=
  octets.foldl (octet polynomial) register

theorem feed_append (register : BitVec width) (early late : List (BitVec 8)) :
    feed polynomial register (early ++ late) = feed polynomial (feed polynomial register early) late :=
  List.foldl_append

/-- The top bit, as a program masks it. -/
theorem and_top (register : BitVec (width + 1)) :
    register &&& BitVec.twoPow (width + 1) width ≠ 0#(width + 1) ↔ register.msb = true := by
  rw [BitVec.msb_eq_getLsbD_last, BitVec.and_twoPow, Nat.add_sub_cancel]
  cases register.getLsbD width <;> simp

section Registers

variable {ρ : Type} (view : ρ → BitVec width)

/-- A register of another type that is shifted alike. -/
theorem view_shifts {step : ρ → ρ} (shifts : ∀ register, view (step register) =
    shift polynomial (view register)) (count : Nat) (register : ρ) :
    view (step^[count] register) = (shift polynomial)^[count] (view register) :=
  (Function.Semiconj.iterate_right shifts count).eq register

/-- A register of another type that is fed alike. -/
theorem view_feed {absorb : ρ → UInt8 → ρ} (absorbs : ∀ register fresh,
    view (absorb register fresh) = octet polynomial (view register) fresh.toBitVec)
    (register : ρ) (octets : List UInt8) :
    view (octets.foldl absorb register) =
      feed polynomial (view register) (octets.map UInt8.toBitVec) := by
  induction octets generalizing register with
  | nil => rfl
  | cons fresh octets ih => rw [List.foldl_cons, ih, absorbs, List.map_cons, feed, feed, List.foldl_cons]

end Registers

/-! ## The shift is linear and, with an odd polynomial, injective -/

theorem xor_cancel (first second other : BitVec width) :
    first ^^^ other ^^^ (second ^^^ other) = first ^^^ second := by
  rw [BitVec.xor_assoc, BitVec.xor_comm second other, ← BitVec.xor_assoc other,
    BitVec.xor_self, BitVec.zero_xor]

theorem shift_xor (first second : BitVec width) :
    shift polynomial (first ^^^ second) = shift polynomial first ^^^ shift polynomial second := by
  simp only [shift, BitVec.msb_xor, BitVec.shiftLeft_xor_distrib]
  cases first.msb <;> cases second.msb
  · simp
  · simp [BitVec.xor_assoc]
  · simp only [Bool.true_xor, Bool.not_false, if_true, Bool.false_eq_true, if_false]
    ac_rfl
  · simp [xor_cancel]

theorem shifts_xor (count : Nat) (first second : BitVec width) :
    (shift polynomial)^[count] (first ^^^ second) =
      (shift polynomial)^[count] first ^^^ (shift polynomial)^[count] second := by
  induction count generalizing first second with
  | zero => rfl
  | succ count inductionHypothesis =>
    simp only [Function.iterate_succ, Function.comp_apply, shift_xor]
    exact inductionHypothesis _ _

variable {polynomial}

/-- The lowest bit after a shift tells whether a bit left. -/
theorem shift_low (odd : polynomial.getLsbD 0 = true) (positive : 0 < width)
    (register : BitVec width) : (shift polynomial register).getLsbD 0 = register.msb := by
  unfold shift
  cases register.msb <;> simp [odd, positive]

theorem shift_eq_zero (odd : polynomial.getLsbD 0 = true) (positive : 0 < width)
    {register : BitVec width} (cleared : shift polynomial register = 0) : register = 0 := by
  have kept : register.msb = false := by
    rw [← shift_low odd positive, cleared]
    simp
  have moved : register <<< 1 = 0 := by simpa [shift, kept] using cleared
  apply BitVec.eq_of_getLsbD_eq
  intro bit bound
  by_cases last : bit + 1 < width
  · have position := congrArg (fun word => word.getLsbD (bit + 1)) moved
    have clear : register[bit] = false := by simpa [last] using position
    rw [BitVec.getLsbD_eq_getElem bound, clear]
    simp
  · have top : bit = width - 1 := by omega
    rw [BitVec.msb_eq_getLsbD_last] at kept
    simp [top, kept]

theorem shift_injective (odd : polynomial.getLsbD 0 = true) (positive : 0 < width) :
    Function.Injective (shift polynomial) := by
  intro first second same
  have difference : shift polynomial (first ^^^ second) = 0 := by
    rw [shift_xor, same, BitVec.xor_self]
    rfl
  have equal := shift_eq_zero odd positive difference
  exact BitVec.xor_eq_zero_iff.mp equal

theorem octet_injective (odd : polynomial.getLsbD 0 = true) (positive : 0 < width)
    (entering : BitVec 8) : Function.Injective fun register => octet polynomial register entering := by
  intro first second same
  have shifted := (shift_injective odd positive).iterate 8 same
  exact (BitVec.xor_left_inj _).mp shifted

/-- What two different registers are fed afterwards cannot make them equal. -/
theorem feed_injective (odd : polynomial.getLsbD 0 = true) (positive : 0 < width)
    (octets : List (BitVec 8)) : Function.Injective fun register => feed polynomial register octets := by
  induction octets with
  | nil => exact fun _ _ same => same
  | cons entering octets inductionHypothesis =>
    intro first second same
    apply octet_injective odd positive entering
    apply inductionHypothesis
    exact same

/-! ## Octets that fit into the register -/

variable (polynomial)

/-- A register whose highest bits are clear only moves. -/
theorem shifts_of_clear {register : BitVec width} {count : Nat}
    (clear : ∀ bit, width - count ≤ bit → register.getLsbD bit = false) :
    (shift polynomial)^[count] register = register <<< count := by
  induction count with
  | zero => simp
  | succ count inductionHypothesis =>
    rw [Function.iterate_succ_apply', inductionHypothesis fun bit high => clear bit (by omega)]
    have top : (register <<< count).msb = false := by
      rw [BitVec.msb_eq_getLsbD_last, BitVec.getLsbD_shiftLeft]
      by_cases wide : count + 1 ≤ width
      · simp [clear (width - 1 - count) (by omega)]
      · simp
        omega
    rw [shift, top, BitVec.shiftLeft_add]
    rfl

/-- The octets side by side, the first one at the `index`-th place from the top. -/
def word (width : Nat) : Nat → List (BitVec 8) → BitVec width
  | _, [] => 0
  | index, octet :: octets => place width index octet ^^^ word width (index + 1) octets

theorem place_clear (index : Nat) (octet : BitVec 8) {bit : Nat}
    (high : width - 8 * index ≤ bit) (fits : 8 * (index + 1) ≤ width) :
    (place width index octet).getLsbD bit = false := by
  simp only [place, BitVec.getLsbD_shiftLeft, BitVec.getLsbD_setWidth]
  rw [BitVec.getLsbD_of_ge octet _ (by omega)]
  simp

theorem word_clear (index : Nat) (octets : List (BitVec 8)) {bit : Nat}
    (high : width - 8 * index ≤ bit) (fits : 8 * (index + octets.length) ≤ width) :
    (word width index octets).getLsbD bit = false := by
  induction octets generalizing index with
  | nil => simp [word]
  | cons octet octets inductionHypothesis =>
    simp only [List.length_cons] at fits
    simp only [word, BitVec.getLsbD_xor, place_clear index octet high (by omega),
      inductionHypothesis (index + 1) (by omega) (by omega), Bool.xor_false]

theorem shifts_place (index : Nat) (octet : BitVec 8) (fits : 8 * (index + 2) ≤ width) :
    (shift polynomial)^[8] (place width (index + 1) octet) = place width index octet := by
  rw [shifts_of_clear polynomial fun bit high => place_clear (index + 1) octet (by omega) (by omega)]
  rw [place, ← BitVec.shiftLeft_add, place]
  congr 1
  omega

theorem shifts_word (index : Nat) (octets : List (BitVec 8))
    (fits : 8 * (index + 1 + octets.length) ≤ width) :
    (shift polynomial)^[8] (word width (index + 1) octets) = word width index octets := by
  induction octets generalizing index with
  | nil => simpa [word] using @shifts_of_clear width polynomial 0 8 (by simp)
  | cons octet octets inductionHypothesis =>
    simp only [List.length_cons] at fits
    rw [word, word, shifts_xor, shifts_place polynomial index octet (by omega),
      inductionHypothesis (index + 1) (by omega)]

/-- Feeding octets that fit is adding them all at once and shifting them out together. -/
theorem feed_eq_shifts (register : BitVec width) (octets : List (BitVec 8))
    (fits : 8 * octets.length ≤ width) :
    feed polynomial register octets =
      (shift polynomial)^[8 * octets.length] (register ^^^ word width 0 octets) := by
  induction octets generalizing register with
  | nil => simp [feed, word]
  | cons entering octets inductionHypothesis =>
    simp only [List.length_cons] at fits
    have rest : feed polynomial register (entering :: octets) =
        feed polynomial (octet polynomial register entering) octets := rfl
    rw [rest, inductionHypothesis _ (by omega), octet,
      ← shifts_word polynomial 0 octets (by omega), ← shifts_xor, ← Function.iterate_add_apply,
      BitVec.xor_assoc]
    rfl

theorem word_injective {index : Nat} {first second : List (BitVec 8)}
    (sized : first.length = second.length) (fits : 8 * (index + first.length) ≤ width)
    (same : word width index first = word width index second) : first = second := by
  induction first generalizing index second with
  | nil => exact (List.eq_nil_of_length_eq_zero sized.symm).symm
  | cons head first inductionHypothesis =>
    cases second with
    | nil => cases sized
    | cons other second =>
      simp only [List.length_cons, Nat.add_right_cancel_iff] at sized fits
      have heads : head = other := by
        apply BitVec.eq_of_getLsbD_eq
        intro bit bound
        -- The bits of the first octet lie above everything that follows it.
        have position := congrArg
          (fun word => word.getLsbD (width - 8 * (index + 1) + bit)) same
        have above : width - 8 * (index + 1) ≤ width - 8 * (index + 1) + bit := by omega
        simp only [word, BitVec.getLsbD_xor, word_clear (index + 1) first above (by omega),
          word_clear (index + 1) second above (by omega), Bool.xor_false, place,
          BitVec.getLsbD_shiftLeft, BitVec.getLsbD_setWidth, Nat.add_sub_cancel_left] at position
        simpa [show width - 8 * (index + 1) + bit < width by omega,
          show bit < width by omega] using position
      subst heads
      simp only [word, BitVec.xor_right_inj] at same
      rw [inductionHypothesis sized (by omega) same]

variable {polynomial}

/-- **Burst detection.** Two texts that differ in a window that fits into the register, and
nowhere else, leave different registers. -/
theorem feed_burst (odd : polynomial.getLsbD 0 = true) (register : BitVec width)
    {early late first second : List (BitVec 8)} (sized : first.length = second.length)
    (fits : 8 * first.length ≤ width) (other : first ≠ second) :
    feed polynomial register (early ++ first ++ late) ≠
      feed polynomial register (early ++ second ++ late) := by
  intro same
  have positive : 0 < width := by
    cases first with
    | nil => exact absurd (List.eq_nil_of_length_eq_zero sized.symm).symm other
    | cons head first =>
      simp only [List.length_cons] at fits
      omega
  simp only [feed_append] at same
  have windows := feed_injective odd positive late same
  rw [feed_eq_shifts _ _ first fits, feed_eq_shifts _ _ second (by omega), sized] at windows
  have words := (shift_injective odd positive).iterate _ windows
  exact other (word_injective sized (by omega) ((BitVec.xor_right_inj _).mp words))

end Crc
