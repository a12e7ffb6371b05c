import Mathlib.Logic.Function.Basic
import Mathlib.Order.Basic
import Mathlib.Data.Fintype.Basic
import Mathlib.Tactic.FinCases

/-! # Two-slot versioned cells

A cell that keeps its content in one of two slots and replaces it by filling the
other one.  A slot holds a value or nothing usable; values carry a version from
a linear order, and a reader takes the greatest version.  The lemmas say what a
reader sees while the replaced slot is unusable and after it has been filled.
-/

namespace TwoSlot

variable {α V : Type*} [LinearOrder V] (version : α → V)

abbrev Slots (α : Type*) := Fin 2 → Option α

/-- Keep `selected` unless the candidate is usable and strictly newer. -/
def prefer (selected candidate : Option α) : Option α :=
  match candidate, selected with
  | none, _ => selected
  | some value, none => some value
  | some value, some best => if version best < version value then some value else some best

/-- What a reader that scans slot 0 and then slot 1 selects. -/
def newest (slots : Slots α) : Option α :=
  prefer version (prefer version none (slots 0)) (slots 1)

/-- Every stored version is below `bound`. -/
def Below (bound : V) (slots : Slots α) : Prop :=
  ∀ index value, slots index = some value → version value < bound

/-- Replacing slot `target` leaves a value at least as new in the other slot. -/
def Spare (slots : Slots α) (target : Fin 2) : Prop :=
  ∀ value, slots target = some value →
    ∃ index other, index ≠ target ∧ slots index = some other ∧ version value ≤ version other

def Distinct (slots : Slots α) : Prop :=
  ∀ left right, slots 0 = some left → slots 1 = some right → version left ≠ version right

theorem newest_eq_none_iff {slots : Slots α} :
    newest version slots = none ↔ ∀ index, slots index = none := by
  rw [Fin.forall_fin_two]
  unfold newest prefer
  cases slots 0 <;> cases slots 1 <;> simp
  split <;> simp

/-- The selected value is stored and no stored value is newer. -/
theorem newest_eq_some {slots : Slots α} {value : α} (selected : newest version slots = some value) :
    (∃ index, slots index = some value) ∧
      ∀ index other, slots index = some other → version other ≤ version value := by
  rw [Fin.exists_fin_two, Fin.forall_fin_two]
  unfold newest prefer at selected
  cases first : slots 0 with
  | none =>
    cases second : slots 1 with
    | none => simp [first, second] at selected
    | some right =>
      simp only [first, second, Option.some.injEq] at selected
      subst selected
      simp
  | some left =>
    cases second : slots 1 with
    | none =>
      simp only [first, second, Option.some.injEq] at selected
      subst selected
      simp
    | some right =>
      simp only [first, second] at selected
      split at selected
      · rename_i newer
        cases selected
        simpa using newer.le
      · rename_i notNewer
        cases selected
        simpa using notNewer

/-- With distinct versions a greatest stored value is the selected one. -/
theorem newest_of_greatest {slots : Slots α} (distinct : Distinct version slots) {value : α}
    {index : Fin 2} (stored : slots index = some value)
    (greatest : ∀ index other, slots index = some other → version other ≤ version value) :
    newest version slots = some value := by
  have ⟨left, right⟩ := Fin.forall_fin_two.mp greatest
  unfold newest prefer
  fin_cases index
  · simp only [Fin.zero_eta] at stored
    cases second : slots 1 with
    | none => simp [stored]
    | some other => simp [stored, not_lt.mpr (right other second)]
  · simp only [Fin.mk_one] at stored
    cases first : slots 0 with
    | none => simp [stored]
    | some other =>
      have newer : version other < version value :=
        lt_of_le_of_ne (left other first) (distinct other value first stored)
      simp [stored, newer]

section Replace

variable {slots : Slots α} {target : Fin 2}

omit [LinearOrder V] in
theorem distinct_invalidate (slots : Slots α) (target : Fin 2) :
    Distinct version (Function.update slots target none) := by
  intro left right first second
  fin_cases target
  · simp at first
  · simp at second

theorem Below.distinct_publish {value : α} (below : Below version (version value) slots)
    (target : Fin 2) : Distinct version (Function.update slots target (some value)) := by
  intro left right first second
  fin_cases target
  · simp only [Fin.zero_eta, Function.update_self, Option.some.injEq] at first
    subst first
    exact (below 1 right (by simpa using second)).ne'
  · simp only [Fin.mk_one, Function.update_self, Option.some.injEq] at second
    subst second
    exact (below 0 left (by simpa using first)).ne

theorem newest_publish {value : α} (below : Below version (version value) slots)
    (target : Fin 2) : newest version (Function.update slots target (some value)) = some value := by
  refine newest_of_greatest version (below.distinct_publish version target)
    (Function.update_self target (some value) slots) ?_
  intro index other stored
  by_cases same : index = target
  · subst same
    rw [Function.update_self, Option.some.injEq] at stored
    rw [stored]
  · rw [Function.update_of_ne same] at stored
    exact (below index other stored).le

/-- While the spare slot is unusable the reader selects what it selected before. -/
theorem newest_invalidate (distinct : Distinct version slots) (spare : Spare version slots target) :
    newest version (Function.update slots target none) = newest version slots := by
  cases selected : newest version slots with
  | none =>
    rw [newest_eq_none_iff] at selected ⊢
    intro index
    by_cases same : index = target
    · rw [same, Function.update_self]
    · rw [Function.update_of_ne same, selected]
  | some value =>
    obtain ⟨⟨index, stored⟩, greatest⟩ := newest_eq_some version selected
    have kept : index ≠ target := by
      intro same
      subst same
      obtain ⟨second, other, different, held, newer⟩ := spare value stored
      have equal := le_antisymm newer (greatest second other held)
      fin_cases index <;> fin_cases second
      · exact different rfl
      · exact distinct value other stored held equal
      · exact distinct other value held stored equal.symm
      · exact different rfl
    have storedAfter : Function.update slots target none index = some value := by
      rw [Function.update_of_ne kept, stored]
    refine newest_of_greatest version (distinct_invalidate version slots target) storedAfter ?_
    intro other current held
    by_cases same : other = target
    · rw [same, Function.update_self] at held
      cases held
    · rw [Function.update_of_ne same] at held
      exact greatest other current held

/-- Whatever the spare slot ends up with, the selected version does not decrease. -/
theorem newest_replace_le (spare : Spare version slots target) (content : Option α) {value : α}
    (selected : newest version slots = some value) :
    ∃ after, newest version (Function.update slots target content) = some after ∧
      version value ≤ version after := by
  obtain ⟨⟨index, stored⟩, _⟩ := newest_eq_some version selected
  obtain ⟨kept, current, different, held, newer⟩ : ∃ kept current, kept ≠ target ∧
      slots kept = some current ∧ version value ≤ version current := by
    by_cases same : index = target
    · exact spare value (same ▸ stored)
    · exact ⟨index, value, same, stored, le_rfl⟩
  have heldAfter : Function.update slots target content kept = some current := by
    rw [Function.update_of_ne different, held]
  cases after : newest version (Function.update slots target content) with
  | none =>
    rw [newest_eq_none_iff] at after
    rw [after kept] at heldAfter
    cases heldAfter
  | some best =>
    exact ⟨best, rfl, newer.trans ((newest_eq_some version after).2 kept current heldAfter)⟩

/-- The selected value is not in the slot that is about to be replaced. -/
theorem Spare.not_newest (spare : Spare version slots target) (distinct : Distinct version slots)
    {value : α} (selected : newest version slots = some value) : slots target ≠ some value := by
  intro stored
  have unchanged := newest_invalidate version distinct spare
  rw [selected] at unchanged
  obtain ⟨⟨index, held⟩, _⟩ := newest_eq_some version unchanged
  by_cases same : index = target
  · rw [same, Function.update_self] at held
    cases held
  · rw [Function.update_of_ne same] at held
    fin_cases index <;> fin_cases target
    · exact same rfl
    · exact distinct value value held stored rfl
    · exact distinct value value stored held rfl
    · exact same rfl

end Replace

/-! ## The register behind the cell -/

/-- One step of the register the cell implements: the value stays or a newer one replaces it. -/
inductive RegisterStep : Option α → Option α → Prop where
  | keep (current : Option α) : RegisterStep current current
  | publish (current : Option α) (value : α)
      (newer : ∀ held, current = some held → version held < version value) :
      RegisterStep current (some value)

section Register

variable {slots : Slots α} {target : Fin 2} {content : Option α}

/-- Replacing the spare slot by nothing, or by something newer than everything stored, is one step
of the register. -/
theorem newest_registerStep (distinct : Distinct version slots) (spare : Spare version slots target)
    (newer : ∀ value, content = some value → Below version (version value) slots) :
    RegisterStep version (newest version slots)
      (newest version (Function.update slots target content)) := by
  cases content with
  | none =>
    rw [newest_invalidate version distinct spare]
    exact .keep _
  | some value =>
    rw [newest_publish version (newer value rfl)]
    refine .publish _ value ?_
    intro held selected
    obtain ⟨⟨index, stored⟩, _⟩ := newest_eq_some version selected
    exact newer value rfl index held stored

theorem distinct_replace
    (newer : ∀ value, content = some value → Below version (version value) slots) :
    Distinct version (Function.update slots target content) := by
  cases content with
  | none => exact distinct_invalidate version slots target
  | some value => exact (newer value rfl).distinct_publish version target

end Register

end TwoSlot
