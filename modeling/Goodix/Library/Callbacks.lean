import Mathlib
import Goodix.Library.Machines

/-! # Calls that call back

A call may call back its user before it is done, and the user may call again before he
returns.  A call is cut into pieces of work at its callbacks; what is left of a call
that waits for its user lies on a stack.  Whoever acts, acts by calling or by
returning, so that every nesting of calls is a sequence of actions.
-/

namespace Callbacks

open Machines

/-- Calls `κ` on a state `σ`, cut into pieces of work `γ`, that emit observations `ω`. -/
structure Program (σ κ γ ω : Type*) where
  /-- What a call does up to its first piece of work, and the pieces. -/
  call : σ → κ → σ × List ω × List γ
  /-- One piece of work.  It is done, or it called back: then something may be left of it. -/
  turn : σ → γ → σ × List ω × Option (List γ)

/-- A state, and the calls that wait for a callback to return. -/
structure Waiting (σ γ : Type*) where
  state : σ
  stack : List (List γ)

/-- What its user does: he calls, from outside or from a callback, or he returns from the
innermost callback. -/
inductive Action (κ : Type*) where
  | call (call : κ)
  | returned

namespace Program

variable {σ κ γ ω : Type*} (program : Program σ κ γ ω)

/-- Work is done up to the next callback; what is left then, if there was one. -/
def proceed (state : σ) : List γ → σ × List ω × Option (List γ)
  | [] => (state, [], none)
  | work :: rest =>
    match program.turn state work with
    | (after, emitted, some more) => (after, emitted, some (more ++ rest))
    | (after, emitted, none) =>
      let later := proceed after rest
      (later.1, emitted ++ later.2.1, later.2.2)

theorem proceed_single (state : σ) (work : γ) :
    program.proceed state [work] = program.turn state work := by
  unfold proceed
  split
  · rename_i turn
    rw [turn, List.append_nil]
  · rename_i turn
    rw [turn]
    simp only [proceed, List.append_nil]

/-- A call goes on with its work and waits if it called back. -/
def enter (state : σ) (stack : List (List γ)) (work : List γ) : Waiting σ γ × List ω :=
  match program.proceed state work with
  | (after, emitted, none) => (⟨after, stack⟩, emitted)
  | (after, emitted, some left) => (⟨after, left :: stack⟩, emitted)

def step (waiting : Waiting σ γ) : Action κ → Waiting σ γ × List ω
  | .call call =>
    let called := program.call waiting.state call
    let entered := program.enter called.1 waiting.stack called.2.2
    (entered.1, called.2.1 ++ entered.2)
  | .returned =>
    match waiting.stack with
    | [] => (waiting, [])
    | work :: stack => program.enter waiting.state stack work

/-! ## Invariants

An invariant relates the log, the state and all the work that is still to be done, in the
order in which it will be done if nobody calls again. -/

variable {program} {invariant : List ω → σ → List γ → Prop}
  (turned : ∀ log state work owed, invariant log state (work :: owed) →
    invariant (log ++ (program.turn state work).2.1) (program.turn state work).1
      ((program.turn state work).2.2.getD [] ++ owed))

include turned in
theorem proceed_invariant (work : List γ) : ∀ log state owed, invariant log state (work ++ owed) →
    invariant (log ++ (program.proceed state work).2.1) (program.proceed state work).1
      ((program.proceed state work).2.2.getD [] ++ owed) := by
  induction work with
  | nil =>
    intro log state owed holds
    simpa [proceed] using holds
  | cons work rest ih =>
    intro log state owed holds
    have first := turned log state work (rest ++ owed) holds
    unfold proceed
    split
    · rename_i after emitted more turn
      rw [turn] at first
      simpa using first
    · rename_i after emitted turn
      rw [turn] at first
      have later := ih (log ++ emitted) after owed first
      simpa using later

include turned in
theorem enter_invariant {log : List ω} {state : σ} {stack : List (List γ)} {work : List γ}
    (holds : invariant log state (work ++ stack.flatten)) :
    invariant (log ++ (program.enter state stack work).2) (program.enter state stack work).1.state
      (program.enter state stack work).1.stack.flatten := by
  have after := proceed_invariant turned work log state stack.flatten holds
  unfold enter
  split
  · rename_i proceeded
    rw [proceeded] at after
    simpa using after
  · rename_i proceeded
    rw [proceeded] at after
    simpa using after

include turned in
/-- What every call and every piece of work keeps holds in every run. -/
theorem run_invariant
    (called : ∀ log state call owed, invariant log state owed →
      invariant (log ++ (program.call state call).2.1) (program.call state call).1
        ((program.call state call).2.2 ++ owed))
    {state : σ} (initially : invariant [] state []) (actions : List (Action κ)) :
    invariant (run program.step ⟨state, []⟩ actions).2
      (run program.step ⟨state, []⟩ actions).1.state
      (run program.step ⟨state, []⟩ actions).1.stack.flatten := by
  refine Machines.run_invariant program.step
    (fun log waiting => invariant log waiting.state waiting.stack.flatten) initially ?_ actions
  intro log waiting action holds
  cases action with
  | call call =>
    have entered := enter_invariant turned (called log waiting.state call _ holds)
    simpa [step] using entered
  | returned =>
    cases waits : waiting.stack with
    | nil => simpa [step, waits] using holds
    | cons work stack =>
      rw [waits] at holds
      simp only [step, waits]
      exact enter_invariant turned holds

/-! ## Callbacks that all return -/

variable (program) in
/-- The user acts only while a callback waits, and in the end he has returned from all. -/
def Settles : Waiting σ γ → List (Action κ) → Prop
  | waiting, [] => waiting.stack = []
  | waiting, action :: later => waiting.stack ≠ [] ∧ Settles (program.step waiting action).1 later

instance decidableSettles : ∀ (waiting : Waiting σ γ) (actions : List (Action κ)),
    Decidable (program.Settles waiting actions)
  | waiting, [] => decidable_of_iff (waiting.stack.isEmpty = true) List.isEmpty_iff
  | waiting, action :: later =>
    have := decidableSettles (program.step waiting action).1 later
    decidable_of_iff (waiting.stack.isEmpty = false ∧
        program.Settles (program.step waiting action).1 later)
      (and_congr_left fun _ => List.isEmpty_eq_false_iff)

/-- Who is in no callback has nothing to do. -/
theorem settles_returned {waiting : Waiting σ γ} {actions : List (Action κ)}
    (returned : waiting.stack = []) : program.Settles waiting actions ↔ actions = [] := by
  cases actions with
  | nil => simp [Settles, returned]
  | cons action later => simp [Settles, returned]

theorem settles_run {waiting : Waiting σ γ} {actions : List (Action κ)}
    (settles : program.Settles waiting actions) :
    (run program.step waiting actions).1.stack = [] := by
  induction actions generalizing waiting with
  | nil => exact settles
  | cons action actions ih => exact ih settles.2

section Weights

variable (weight : γ → ℕ)
  (lighter : ∀ state work more, (program.turn state work).2.2 = some more →
    (more.map weight).sum < weight work)

include lighter in
theorem proceed_lighter {state : σ} {works left : List γ}
    (waits : (program.proceed state works).2.2 = some left) :
    (left.map weight).sum < (works.map weight).sum := by
  induction works generalizing state with
  | nil => cases waits
  | cons work rest ih =>
    have turned := lighter state work
    unfold proceed at waits
    rw [List.map_cons, List.sum_cons]
    split at waits
    · rename_i after emitted more turn
      rw [turn] at turned
      have less := turned more rfl
      cases waits
      rw [List.map_append, List.sum_append]
      omega
    · have less := ih waits
      omega

/-- What a stack still weighs, each of its calls included. -/
def burden (stack : List (List γ)) : ℕ := (stack.map fun works => (works.map weight).sum + 1).sum

include lighter in
theorem enter_lighter (state : σ) (stack : List (List γ)) (works : List γ) :
    burden weight (program.enter state stack works).1.stack < burden weight (works :: stack) := by
  have less := @proceed_lighter _ _ _ _ program weight lighter state works
  unfold enter
  split
  · simp only [burden, List.map_cons, List.sum_cons]
    omega
  · rename_i left proceeded
    rw [proceeded] at less
    have lost := less rfl
    simp only [burden, List.map_cons, List.sum_cons]
    omega

include lighter in
/-- A user who only returns comes to the end. -/
theorem exists_settles (waiting : Waiting σ γ) :
    ∃ count, program.Settles waiting (List.replicate count .returned) := by
  obtain ⟨state, stack⟩ := waiting
  induction measured : burden weight stack using Nat.strong_induction_on generalizing state stack with
  | _ total ih =>
    cases stack with
    | nil => exact ⟨0, rfl⟩
    | cons works stack =>
      have less := enter_lighter weight lighter state stack works
      obtain ⟨count, settles⟩ := ih _ (measured ▸ less) _ _ rfl
      exact ⟨count + 1, by simp, settles⟩

end Weights

/-! ## Runs that look alike

Two states act alike under a relation that every call and every piece of work keeps, if what
they emit is related too. -/

variable (program) in
structure Simulates (states : σ → σ → Prop) (works : γ → γ → Prop)
    (logs : List ω → List ω → Prop) : Prop where
  nothing : logs [] []
  append : ∀ {first second third fourth}, logs first second → logs third fourth →
    logs (first ++ third) (second ++ fourth)
  call : ∀ {first second} (call : κ), states first second →
    states (program.call first call).1 (program.call second call).1 ∧
      logs (program.call first call).2.1 (program.call second call).2.1 ∧
      List.Forall₂ works (program.call first call).2.2 (program.call second call).2.2
  turn : ∀ {first second work other}, states first second → works work other →
    states (program.turn first work).1 (program.turn second other).1 ∧
      logs (program.turn first work).2.1 (program.turn second other).2.1 ∧
      Option.Rel (List.Forall₂ works) (program.turn first work).2.2 (program.turn second other).2.2

/-- Two calls that wait alike. -/
structure WaitsAlike (states : σ → σ → Prop) (works : γ → γ → Prop) (first second : Waiting σ γ) :
    Prop where
  states : states first.state second.state
  waitings : List.Forall₂ (List.Forall₂ works) first.stack second.stack

variable {states : σ → σ → Prop} {works : γ → γ → Prop} {logs : List ω → List ω → Prop}
  (simulates : program.Simulates states works logs)

include simulates in
theorem proceed_alike {first second : σ} {one other : List γ} (alike : states first second)
    (same : List.Forall₂ works one other) :
    states (program.proceed first one).1 (program.proceed second other).1 ∧
      logs (program.proceed first one).2.1 (program.proceed second other).2.1 ∧
      Option.Rel (List.Forall₂ works) (program.proceed first one).2.2
        (program.proceed second other).2.2 := by
  induction same generalizing first second with
  | nil => exact ⟨alike, simulates.nothing, .none⟩
  | @cons work twin one other here rest ih =>
    have turned := simulates.turn alike here
    unfold proceed
    cases left : program.turn first work with
    | mk after emitted =>
      cases right : program.turn second twin with
      | mk beside told =>
        obtain ⟨emitted, more⟩ := emitted
        obtain ⟨told, others⟩ := told
        rw [left, right] at turned
        obtain ⟨states, noted, waits⟩ := turned
        cases waits with
        | none =>
          obtain ⟨finally_, heard, waiting⟩ := ih states
          exact ⟨finally_, simulates.append noted heard, waiting⟩
        | some same => exact ⟨states, noted, .some (List.rel_append same rest)⟩

include simulates in
theorem enter_alike {first second : σ} {stack beside : List (List γ)} {one other : List γ}
    (alike : states first second) (waitings : List.Forall₂ (List.Forall₂ works) stack beside)
    (same : List.Forall₂ works one other) :
    WaitsAlike states works (program.enter first stack one).1 (program.enter second beside other).1 ∧
      logs (program.enter first stack one).2 (program.enter second beside other).2 := by
  have proceeded := proceed_alike simulates alike same
  unfold enter
  cases left : program.proceed first one with
  | mk after emitted =>
    cases right : program.proceed second other with
    | mk twin told =>
      obtain ⟨emitted, more⟩ := emitted
      obtain ⟨told, others⟩ := told
      rw [left, right] at proceeded
      obtain ⟨states, noted, waits⟩ := proceeded
      cases waits with
      | none => exact ⟨⟨states, waitings⟩, noted⟩
      | some left => exact ⟨⟨states, .cons ‹_› waitings⟩, noted⟩

include simulates in
theorem step_alike {first second : Waiting σ γ} (alike : WaitsAlike states works first second)
    (action : Action κ) :
    WaitsAlike states works (program.step first action).1 (program.step second action).1 ∧
      logs (program.step first action).2 (program.step second action).2 := by
  cases action with
  | call call =>
    obtain ⟨states, noted, due⟩ := simulates.call call alike.states
    obtain ⟨waits, heard⟩ := enter_alike simulates states alike.waitings due
    exact ⟨waits, simulates.append noted heard⟩
  | returned =>
    obtain ⟨first, stack⟩ := first
    obtain ⟨second, beside⟩ := second
    obtain ⟨states, waitings⟩ := alike
    cases waitings with
    | nil => exact ⟨⟨states, .nil⟩, simulates.nothing⟩
    | cons works waitings => exact enter_alike simulates states waitings works

include simulates in
theorem run_alike {first second : Waiting σ γ} (alike : WaitsAlike states works first second)
    (actions : List (Action κ)) :
    WaitsAlike states works (run program.step first actions).1
        (run program.step second actions).1 ∧
      logs (run program.step first actions).2 (run program.step second actions).2 := by
  induction actions generalizing first second with
  | nil => exact ⟨alike, simulates.nothing⟩
  | cons action actions ih =>
    obtain ⟨stepped, noted⟩ := step_alike simulates alike action
    obtain ⟨waits, heard⟩ := ih stepped
    exact ⟨waits, simulates.append noted heard⟩

include simulates in
theorem settles_alike {first second : Waiting σ γ} (alike : WaitsAlike states works first second)
    {actions : List (Action κ)} (settles : program.Settles first actions) :
    program.Settles second actions := by
  induction actions generalizing first second with
  | nil =>
    have waitings := alike.waitings
    rw [show first.stack = [] from settles] at waitings
    exact List.forall₂_nil_left_iff.mp waitings
  | cons action actions ih =>
    refine ⟨fun returned => settles.1 ?_, ih (step_alike simulates alike action).1 settles.2⟩
    have waitings := alike.waitings
    rw [returned] at waitings
    exact List.forall₂_nil_right_iff.mp waitings

end Program

end Callbacks
