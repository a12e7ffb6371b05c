import Mathlib.Data.List.Basic
import Mathlib.Data.List.Induction
import Mathlib.Order.Basic

/-! # Decimals in texts

Texts are lists of code points.  A numeral has no leading zero, so it is the decimal of its value;
a dotted version is three numerals, and its order is that of their values.
-/

namespace Decimals

/-- A text: its code points, those included that stand for no character. -/
abbrev Text := List Nat

def text (literal : String) : Text := literal.toList.map Char.toNat

def isDigit (point : Nat) : Bool := 48 ≤ point && point ≤ 57

/-- `[0-9a-f]{count}` -/
def isHexOf (count : Nat) (words : Text) : Bool :=
  words.length == count && words.all fun point => isDigit point || (97 ≤ point && point ≤ 102)

/-- `[1-9][0-9]*` -/
def isPositive : Text → Bool
  | [] => false
  | first :: rest => 49 ≤ first && first ≤ 57 && rest.all isDigit

/-- `0|[1-9][0-9]*` -/
def isNumeral (digits : Text) : Bool := digits == [48] || isPositive digits

/-- The value of a sequence of digits. -/
def value (digits : Text) : Nat := digits.foldl (fun value point => value * 10 + (point - 48)) 0

/-- The decimal of a number. -/
def decimal (number : Nat) : Text :=
  if number < 10 then [48 + number] else decimal (number / 10) ++ [48 + number % 10]

variable {digits more : Text} {point number : Nat}

/-! ## Numerals -/

theorem value_concat (digits : Text) (point : Nat) :
    value (digits ++ [point]) = value digits * 10 + (point - 48) := by
  rw [value, List.foldl_append]
  rfl

theorem value_decimal (number : Nat) : value (decimal number) = number := by
  induction number using Nat.strongRecOn with
  | _ number ih =>
    unfold decimal
    split
    · simp [value]
    · rename_i large
      rw [value_concat, ih (number / 10) (by omega)]
      omega

theorem isPositive_concat (digits : Text) (point : Nat) (some : digits ≠ []) :
    isPositive (digits ++ [point]) = (isPositive digits && isDigit point) := by
  cases digits with
  | nil => exact absurd rfl some
  | cons first rest => simp [isPositive, Bool.and_assoc]

/-- A positive numeral is not empty, and its value is not zero. -/
theorem value_positive (positive : isPositive digits = true) : 0 < value digits := by
  induction digits using List.reverseRecOn with
  | nil => cases positive
  | append_singleton digits point ih =>
    rw [value_concat]
    by_cases first : digits = []
    · subst first
      simp [isPositive] at positive
      omega
    · rw [isPositive_concat digits point first, Bool.and_eq_true] at positive
      have := ih positive.1
      omega

theorem decimal_value (positive : isPositive digits = true) : decimal (value digits) = digits := by
  induction digits using List.reverseRecOn with
  | nil => cases positive
  | append_singleton digits point ih =>
    rw [value_concat]
    by_cases first : digits = []
    · subst first
      simp only [isPositive, List.nil_append, List.all_nil, Bool.and_true, Bool.and_eq_true,
        decide_eq_true_eq] at positive
      unfold decimal
      rw [if_pos (by simp [value]; omega)]
      simp only [value, List.foldl_nil, List.nil_append, List.cons.injEq, and_true]
      omega
    · rw [isPositive_concat digits point first, Bool.and_eq_true] at positive
      obtain ⟨before, digit⟩ := positive
      simp only [isDigit, Bool.and_eq_true, decide_eq_true_eq] at digit
      have large := value_positive before
      have quotient : (value digits * 10 + (point - 48)) / 10 = value digits := by omega
      unfold decimal
      rw [if_neg (by omega), quotient, ih before]
      congr 2
      omega

theorem isPositive_decimal (positive : 0 < number) : isPositive (decimal number) = true := by
  induction number using Nat.strongRecOn with
  | _ number ih =>
    unfold decimal
    split
    · simp [isPositive]
      omega
    · have before := ih (number / 10) (by omega) (by omega)
      have some : decimal (number / 10) ≠ [] := by
        intro none
        rw [none] at before
        cases before
      rw [isPositive_concat _ _ some, before]
      simp [isDigit]
      omega

/-- The numerals are the decimals. -/
theorem isNumeral_iff : isNumeral digits = true ↔ ∃ number, digits = decimal number := by
  simp only [isNumeral, Bool.or_eq_true, beq_iff_eq]
  constructor
  · rintro (rfl | positive)
    · exact ⟨0, by simp [decimal]⟩
    · exact ⟨value digits, (decimal_value positive).symm⟩
  · rintro ⟨number, rfl⟩
    by_cases zero : number = 0
    · subst zero
      exact .inl (by simp [decimal])
    · exact .inr (isPositive_decimal (by omega))

theorem digits_of_positive (positive : isPositive digits = true) : digits.all isDigit = true := by
  cases digits with
  | nil => rfl
  | cons first rest =>
    simp only [isPositive, Bool.and_eq_true, decide_eq_true_eq] at positive
    simp only [List.all_cons, Bool.and_eq_true, isDigit, decide_eq_true_eq]
    exact ⟨⟨by omega, positive.1.2⟩, positive.2⟩

theorem digits_of_numeral (numeral : isNumeral digits = true) : digits.all isDigit = true := by
  simp only [isNumeral, Bool.or_eq_true, beq_iff_eq] at numeral
  obtain rfl | positive := numeral
  · decide
  · exact digits_of_positive positive

/-! ## Versions -/

/-- The full stop. -/
def stop : Nat := 46

/-- Three numerals between full stops. -/
def isVersion (version : Text) : Bool :=
  match version.splitOn stop with
  | [major, minor, patch] => isNumeral major && isNumeral minor && isNumeral patch
  | _ => false

/-- The numbers between the full stops. -/
def components (version : Text) : List Nat := (version.splitOn stop).map value

/-- The text of a version. -/
def dotted (major minor patch : Nat) : Text :=
  decimal major ++ stop :: decimal minor ++ stop :: decimal patch

theorem stop_notin (numeral : isNumeral digits = true) : stop ∉ digits := by
  intro inside
  have digit := List.all_eq_true.mp (digits_of_numeral numeral) stop inside
  cases digit

theorem isNumeral_decimal (number : Nat) : isNumeral (decimal number) = true :=
  isNumeral_iff.mpr ⟨number, rfl⟩

theorem splitOn_dotted (major minor patch : Nat) :
    (dotted major minor patch).splitOn stop = [decimal major, decimal minor, decimal patch] := by
  have free : ∀ part ∈ [decimal major, decimal minor, decimal patch], stop ∉ part := by
    intro part inside
    simp only [List.mem_cons, List.not_mem_nil, or_false] at inside
    obtain rfl | rfl | rfl := inside <;> exact stop_notin (isNumeral_decimal _)
  have apart := List.splitOn_intercalate stop free (by simp)
  simpa [dotted, List.intercalate, List.intersperse] using apart

/-- The versions are the dotted triples. -/
theorem isVersion_iff {version : Text} :
    isVersion version = true ↔ ∃ major minor patch, version = dotted major minor patch := by
  constructor
  · intro holds
    unfold isVersion at holds
    split at holds
    · rename_i major minor patch split
      simp only [Bool.and_eq_true, isNumeral_iff] at holds
      obtain ⟨⟨⟨major, rfl⟩, minor, rfl⟩, patch, rfl⟩ := holds
      refine ⟨major, minor, patch, ?_⟩
      have whole : [stop].intercalate (version.splitOn stop) = version := List.intercalate_splitOn stop
      rw [← whole, split]
      simp [dotted, List.intercalate, List.intersperse]
    · cases holds
  · rintro ⟨major, minor, patch, rfl⟩
    simp [isVersion, splitOn_dotted, isNumeral_decimal]

/-- The order of two triples of numbers, from the first number to the last. -/
def Lower (first second : Nat × Nat × Nat) : Prop :=
  first.1 < second.1 ∨ first.1 = second.1 ∧
    (first.2.1 < second.2.1 ∨ first.2.1 = second.2.1 ∧ first.2.2 < second.2.2)

/-- Lists of three numbers are ordered as the triples. -/
theorem lower_iff {major minor patch major' minor' patch' : Nat} :
    [major, minor, patch] < [major', minor', patch'] ↔
      Lower (major, minor, patch) (major', minor', patch') := by
  simp only [List.cons_lt_cons_iff, List.not_lt_nil, and_false, or_false, Lower]

theorem components_dotted (major minor patch : Nat) :
    components (dotted major minor patch) = [major, minor, patch] := by
  simp [components, splitOn_dotted, value_decimal]

end Decimals
