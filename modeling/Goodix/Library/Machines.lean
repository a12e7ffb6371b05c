import Mathlib.Data.List.Basic
import Mathlib.Data.List.Infix

/-! # Runs of deterministic machines

A machine takes an event, moves to a new state and emits observations.  A run
collects the observations of its events in one log.  The run rules turn what one
step keeps into what every run keeps.
-/

namespace Machines

variable {σ ε ω : Type*} (step : σ → ε → σ × List ω)

/-- The last state of a run and everything it emitted. -/
def run (state : σ) : List ε → σ × List ω
  | [] => (state, [])
  | event :: events =>
    let moved := step state event
    let rest := run moved.1 events
    (rest.1, moved.2 ++ rest.2)

theorem run_append (state : σ) (events later : List ε) :
    run step state (events ++ later) =
      ((run step (run step state events).1 later).1,
        (run step state events).2 ++ (run step (run step state events).1 later).2) := by
  induction events generalizing state with
  | nil => rfl
  | cons event events ih => simp only [List.cons_append, run, ih, List.append_assoc]

theorem run_concat (state : σ) (events : List ε) (event : ε) :
    run step state (events ++ [event]) =
      ((step (run step state events).1 event).1,
        (run step state events).2 ++ (step (run step state events).1 event).2) := by
  rw [run_append]
  simp only [run, List.append_nil]

/-- What a run emits, one of its steps emits. -/
theorem mem_run {state : σ} {events : List ε} {observed : ω}
    (emitted : observed ∈ (run step state events).2) :
    ∃ earlier event later, events = earlier ++ event :: later ∧
      observed ∈ (step (run step state earlier).1 event).2 := by
  induction events using List.reverseRecOn with
  | nil => cases emitted
  | append_singleton events event ih =>
    rw [run_concat] at emitted
    rcases List.mem_append.mp emitted with before | now
    · obtain ⟨earlier, found, later, rfl, inside⟩ := ih before
      exact ⟨earlier, found, later ++ [event], by simp, inside⟩
    · exact ⟨events, event, [], rfl, now⟩

/-- What holds at the start and is kept by every step holds at the end of every run. -/
theorem run_invariant (invariant : List ω → σ → Prop) {state : σ} (initially : invariant [] state)
    (kept : ∀ log current event, invariant log current →
      invariant (log ++ (step current event).2) (step current event).1)
    (events : List ε) : invariant (run step state events).2 (run step state events).1 := by
  induction events using List.reverseRecOn with
  | nil => exact initially
  | append_singleton events event ih =>
    rw [run_concat]
    exact kept _ _ event ih

/-- An invariant of states alone. -/
theorem run_state_invariant (invariant : σ → Prop) {state : σ} (initially : invariant state)
    (kept : ∀ current event, invariant current → invariant (step current event).1)
    (events : List ε) : invariant (run step state events).1 :=
  run_invariant step (fun _ current => invariant current) initially
    (fun _ current event holds => kept current event holds) events

/-- The run is in a state with `property` at some moment, its end included. -/
def Visits (property : σ → Prop) (state : σ) (events : List ε) : Prop :=
  ∃ earlier, earlier <+: events ∧ property (run step state earlier).1

theorem visits_nil {property : σ → Prop} {state : σ} :
    Visits step property state [] ↔ property state := by
  simp [Visits, run]

theorem visits_concat {property : σ → Prop} {state : σ} {events : List ε} {event : ε} :
    Visits step property state (events ++ [event]) ↔
      Visits step property state events ∨
        property (run step state (events ++ [event])).1 := by
  constructor
  · rintro ⟨earlier, isPrefix, holds⟩
    rcases List.prefix_concat_iff.mp isPrefix with rfl | shorter
    · exact .inr holds
    · exact .inl ⟨earlier, shorter, holds⟩
  · rintro (⟨earlier, isPrefix, holds⟩ | holds)
    · exact ⟨earlier, isPrefix.trans (List.prefix_append _ _), holds⟩
    · exact ⟨events ++ [event], List.prefix_refl _, holds⟩

end Machines
