import Goodix.Library.Machines

/-! # Logs and moves

A call that does several things in a row, or is entered again from inside itself, is
cut into moves small enough to keep an invariant each.  A log says in which order
things happened; what an entry promises about its past is its reason.
-/

namespace Traces

open Machines

variable {σ ε ω : Type*}

/-! ## Reasons -/

/-- Every entry has its reason in what comes before it. -/
def Justified (reason : List ω → ω → Prop) (log : List ω) : Prop :=
  ∀ before entry after, log = before ++ entry :: after → reason before entry

theorem justified_nil (reason : List ω → ω → Prop) : Justified reason [] := by
  intro before entry after split
  cases before <;> cases split

theorem justified_concat {reason : List ω → ω → Prop} {log : List ω} {entry : ω} :
    Justified reason (log ++ [entry]) ↔ Justified reason log ∧ reason log entry := by
  constructor
  · intro justified
    refine ⟨?_, justified log entry [] rfl⟩
    rintro before earlier after rfl
    exact justified before earlier (after ++ [entry]) (by simp)
  · rintro ⟨justified, last⟩ before found after split
    -- the entry is the last one, or it is in the log before
    rcases List.eq_nil_or_concat after with rfl | ⟨init, final, rfl⟩
    · obtain ⟨rfl, same⟩ := List.append_inj' split rfl
      cases same
      exact last
    · refine justified before found init ?_
      have same : log ++ [entry] = (before ++ found :: init) ++ [final] := by simpa using split
      exact (List.append_inj' same rfl).1

/-- What is appended has its reasons in the log and in what is appended before it. -/
theorem Justified.append {reason : List ω → ω → Prop} {log more : List ω}
    (justified : Justified reason log)
    (reasons : ∀ before entry after, more = before ++ entry :: after →
      reason (log ++ before) entry) : Justified reason (log ++ more) := by
  induction more using List.reverseRecOn with
  | nil => simpa using justified
  | append_singleton more entry ih =>
    rw [← List.append_assoc]
    refine justified_concat.mpr ⟨ih fun before found after split => ?_, reasons more entry [] rfl⟩
    exact reasons before found (after ++ [entry]) (by simp [split])

/-- Entries that need no reason. -/
theorem Justified.append_free {reason : List ω → ω → Prop} {log more : List ω}
    (justified : Justified reason log) (free : ∀ entry ∈ more, ∀ before, reason before entry) :
    Justified reason (log ++ more) :=
  justified.append fun before entry after split => free entry (by simp [split]) (log ++ before)

theorem Justified.mono {reason weaker : List ω → ω → Prop} {log : List ω}
    (justified : Justified reason log) (weakens : ∀ before entry, reason before entry →
      weaker before entry) : Justified weaker log :=
  fun before entry after split => weakens before entry (justified before entry after split)

/-! ## Moves -/

variable {move : σ → List ω → σ → Prop}

/-- A sequence of moves and everything it emits. -/
inductive Moves (move : σ → List ω → σ → Prop) : σ → List ω → σ → Prop where
  | refl (state : σ) : Moves move state [] state
  | head {first second last : σ} {emitted rest : List ω} (moved : move first emitted second)
      (moves : Moves move second rest last) : Moves move first (emitted ++ rest) last

theorem Moves.single {first last : σ} {emitted : List ω} (moved : move first emitted last) :
    Moves move first emitted last := by
  have moves := Moves.head moved (Moves.refl last)
  rwa [List.append_nil] at moves

theorem Moves.trans {first second last : σ} {emitted rest : List ω}
    (earlier : Moves move first emitted second) (later : Moves move second rest last) :
    Moves move first (emitted ++ rest) last := by
  induction earlier with
  | refl state => exact later
  | head moved moves ih =>
    rw [List.append_assoc]
    exact .head moved (ih later)

/-- What every move keeps, with the log it adds to, a sequence of moves keeps. -/
theorem Moves.invariant (invariant : List ω → σ → Prop)
    (kept : ∀ log before emitted after, invariant log before → move before emitted after →
      invariant (log ++ emitted) after)
    {first last : σ} {emitted : List ω} (moves : Moves move first emitted last) :
    ∀ log, invariant log first → invariant (log ++ emitted) last := by
  induction moves with
  | refl state =>
    intro log holds
    rwa [List.append_nil]
  | head moved moves ih =>
    intro log holds
    rw [← List.append_assoc]
    exact ih _ (kept log _ _ _ holds moved)

/-- An invariant of states alone. -/
theorem Moves.state_invariant (invariant : σ → Prop)
    (kept : ∀ before emitted after, invariant before → move before emitted after →
      invariant after)
    {first last : σ} {emitted : List ω} (moves : Moves move first emitted last)
    (holds : invariant first) : invariant last :=
  moves.invariant (fun _ state => invariant state)
    (fun _ before emitted after holds moved => kept before emitted after holds moved) [] holds

/-! ## Conditions on a run -/

variable (step : σ → ε → σ × List ω)

/-- Every event of a run finds its condition. -/
def Meets (condition : σ → ε → Prop) (state : σ) : List ε → Prop
  | [] => True
  | event :: events =>
    condition state event ∧ Meets condition (step state event).1 events

instance decidableMeets (condition : σ → ε → Prop) [∀ state event, Decidable (condition state event)] :
    (state : σ) → (events : List ε) → Decidable (Meets step condition state events)
  | _, [] => inferInstanceAs (Decidable True)
  | state, event :: events =>
    have := decidableMeets condition (step state event).1 events
    inferInstanceAs (Decidable (condition state event ∧ _))

theorem meets_append {condition : σ → ε → Prop} {state : σ} {events later : List ε} :
    Meets step condition state (events ++ later) ↔
      Meets step condition state events ∧ Meets step condition (run step state events).1 later := by
  induction events generalizing state with
  | nil => simp [Meets, run]
  | cons event events ih => exact (and_congr_right fun _ => ih).trans and_assoc.symm

/-- A condition that holds of the events in every state. -/
theorem meets_of_forall {condition : σ → ε → Prop} {events : List ε} (state : σ)
    (holds : ∀ event ∈ events, ∀ current, condition current event) :
    Meets step condition state events := by
  induction events generalizing state with
  | nil => trivial
  | cons event events ih =>
    refine ⟨holds event List.mem_cons_self state, ih _ fun other inside => ?_⟩
    exact holds other (List.mem_cons_of_mem _ inside)

/-- What holds at the start and is kept by the steps that meet a condition holds at the end of a
run that meets it throughout. -/
theorem run_invariant_of_meets (condition : σ → ε → Prop) (invariant : List ω → σ → Prop)
    (kept : ∀ log current event, invariant log current → condition current event →
      invariant (log ++ (step current event).2) (step current event).1) (events : List ε) :
    ∀ log state, invariant log state → Meets step condition state events →
      invariant (log ++ (run step state events).2) (run step state events).1 := by
  induction events with
  | nil =>
    intro log state holds meets
    simpa [run] using holds
  | cons event events ih =>
    intro log state holds meets
    have later := ih _ _ (kept log state event holds meets.1) meets.2
    simpa [run] using later

end Traces
