import Goodix.Library.Decimals
import Mathlib.Data.Rat.Defs

/-! # Values of JSON

The values that a dynamically typed program gets from a JSON text, and what it can do with them
without knowing their types: ask for a field, and compare.  Numbers compare by their value, whatever
their types are.
-/

namespace Values

open Decimals

/-! ## Checks one behind the other -/

section

variable {α β ε : Type}

theorem bind_ok {first : Except ε α} {next : α → Except ε β} {result : β} :
    (first >>= next) = .ok result ↔ ∃ value, first = .ok value ∧ next value = .ok result := by
  cases first with
  | error error => exact ⟨nofun, fun ⟨_, failed, _⟩ => nomatch failed⟩
  | ok value =>
    constructor
    · exact fun passed => ⟨value, rfl, passed⟩
    · rintro ⟨_, same, passed⟩
      cases same
      exact passed

theorem exists_ok {outcome : Except ε α} (passed : outcome.isOk = true) :
    ∃ value, outcome = .ok value := by
  cases outcome with
  | error error => cases passed
  | ok value => exact ⟨value, rfl⟩

end

/-! ## Values -/

/-- A number that was written with a fraction or an exponent, as it was rounded. -/
inductive Real where
  | finite (value : ℚ)
  | infinite (negative : Bool)
  | notANumber

inductive Value where
  | null
  | bool (value : Bool)
  | int (value : Int)
  | real (value : Real)
  | string (value : Text)
  | list (items : List Value)
  | dict (fields : List (Text × Value))

/-- Whether two numbers are equal. -/
def Real.equals : Real → Real → Bool
  | .finite first, .finite second => first = second
  | .infinite first, .infinite second => first = second
  | _, _ => false

namespace Value

/-- The number that a value is, a truth value too. -/
def number? : Value → Option Real
  | .bool value => some (.finite (if value then 1 else 0))
  | .int value => some (.finite value)
  | .real value => some value
  | _ => none

mutual

/-- `==` -/
def equals : Value → Value → Bool
  | .null, .null => true
  | .string first, .string second => first = second
  | .list items, .list others => equalItems items others
  | .dict fields, .dict others =>
    fields.length = others.length && fieldsWithin fields others
  | first, second =>
    match first.number?, second.number? with
    | some first, some second => first.equals second
    | _, _ => false

def equalItems : List Value → List Value → Bool
  | [], [] => true
  | item :: items, other :: others => equals item other && equalItems items others
  | _, _ => false

def fieldsWithin : List (Text × Value) → List (Text × Value) → Bool
  | [], _ => true
  | field :: fields, others => fieldWithin field others && fieldsWithin fields others

def fieldWithin : Text × Value → List (Text × Value) → Bool
  | (key, value), others =>
    match others.lookup key with
    | some other => equals value other
    | none => false

end

/-- The field of a dictionary, if there is one. -/
def field? (key : String) : Value → Option Value
  | .dict fields => fields.lookup (text key)
  | _ => none

/-- `get`, of a dictionary -/
def get (key : String) (value : Value) : Value := (value.field? key).getD .null

/-- `value is None` -/
def isNull : Value → Bool
  | .null => true
  | _ => false

/-- `isinstance(value, dict)` -/
def isDict : Value → Bool
  | .dict _ => true
  | _ => false

/-- `value is True`, or `value is False` -/
def isBool : Value → Bool → Bool
  | .bool value, other => value = other
  | _, _ => false

variable {value : Value} {words : Text}

@[simp] theorem equals_string : value.equals (.string words) = true ↔ value = .string words := by
  cases value <;> simp [equals, number?]

@[simp] theorem string_equals : (Value.string words).equals value = true ↔ value = .string words := by
  cases value <;> simp [equals, number?, eq_comm]

@[simp] theorem isBool_iff {flag : Bool} : value.isBool flag = true ↔ value = .bool flag := by
  cases value <;> simp [isBool]

end Value

end Values
