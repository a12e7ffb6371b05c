import Goodix.Library.Machines

/-! # Code in pieces

Code that calls other code and is called back by it is cut into pieces.  What is still to
be done lies on a stack, the next piece on top.  A piece that is performed leaves the
pieces of what it calls in its place.  Some pieces are marks: while a mark is on top,
somebody outside has control, and he calls, or he goes on and so gives control back.
-/

namespace Pieces

open Machines

structure Program (σ κ γ ω : Type*) where
  call : σ → κ → σ × List ω × List γ
  perform : σ → γ → σ × List ω × List γ
  /-- Who may call while a piece is on top, and while there is none. -/
  permits : σ → Option γ → κ → Bool

/-- A state and what is still to be done. -/
structure Control (σ γ : Type*) where
  state : σ
  owed : List γ

inductive Action (κ : Type*) where
  | call (call : κ)
  | goOn

namespace Program

variable {σ κ γ ω : Type*} (program : Program σ κ γ ω)

def step (control : Control σ γ) : Action κ → Control σ γ × List ω
  | .call call =>
    if program.permits control.state control.owed.head? call then
      let called := program.call control.state call
      (⟨called.1, called.2.2 ++ control.owed⟩, called.2.1)
    else (control, [])
  | .goOn =>
    match control.owed with
    | [] => (control, [])
    | piece :: owed =>
      let performed := program.perform control.state piece
      (⟨performed.1, performed.2.2 ++ owed⟩, performed.2.1)

variable {program} {invariant : List ω → σ → List γ → Prop}

/-- What every call and every piece keeps, a step keeps. -/
theorem step_invariant
    (called : ∀ log state owed call, invariant log state owed →
      program.permits state owed.head? call = true →
      invariant (log ++ (program.call state call).2.1) (program.call state call).1
        ((program.call state call).2.2 ++ owed))
    (performed : ∀ log state piece owed, invariant log state (piece :: owed) →
      invariant (log ++ (program.perform state piece).2.1) (program.perform state piece).1
        ((program.perform state piece).2.2 ++ owed))
    {log : List ω} {control : Control σ γ} (action : Action κ)
    (holds : invariant log control.state control.owed) :
    invariant (log ++ (program.step control action).2) (program.step control action).1.state
      (program.step control action).1.owed := by
  obtain ⟨state, owed⟩ := control
  cases action with
  | call call =>
    by_cases permitted : program.permits state owed.head? call = true
    · simpa only [step, permitted, if_true] using called log state owed call holds permitted
    · simpa [step, permitted] using holds
  | goOn =>
    cases owed with
    | nil => simpa [step] using holds
    | cons piece owed => exact performed log state piece owed holds

/-- What every call and every piece keeps holds in every run. -/
theorem run_invariant
    (called : ∀ log state owed call, invariant log state owed →
      program.permits state owed.head? call = true →
      invariant (log ++ (program.call state call).2.1) (program.call state call).1
        ((program.call state call).2.2 ++ owed))
    (performed : ∀ log state piece owed, invariant log state (piece :: owed) →
      invariant (log ++ (program.perform state piece).2.1) (program.perform state piece).1
        ((program.perform state piece).2.2 ++ owed))
    {state : σ} (initially : invariant [] state []) (actions : List (Action κ)) :
    invariant (run program.step ⟨state, []⟩ actions).2
      (run program.step ⟨state, []⟩ actions).1.state
      (run program.step ⟨state, []⟩ actions).1.owed :=
  Machines.run_invariant program.step
    (fun log control => invariant log control.state control.owed) initially
    (fun _ _ action holds => step_invariant called performed action holds) actions

end Program

end Pieces
