import Goodix.Library.Machines

/-! # Events in another order

Two runs over the same events in another order are compared by what they show and by
the states they end in, up to a relation that later events cannot tell apart.  It is
enough to look at each place where the order changes.
-/

namespace Reorderings

open Machines

variable {σ ε ω ν : Type*}

/-- Which events may take the place of which others, in a state. -/
abbrev Rule (σ ε : Type*) := σ → List ε → List ε → Prop

variable (step : σ → ε → σ × List ω) (rule : Rule σ ε)

/-- Events that become others by the rule, applied anywhere and any number of times. -/
inductive Reordered : σ → List ε → List ε → Prop where
  | refl (state : σ) (events : List ε) : Reordered state events events
  | swap {state : σ} {before after : List ε} (ruled : rule state before after) (rest : List ε) :
      Reordered state (before ++ rest) (after ++ rest)
  | cons {state : σ} {events events' : List ε} (event : ε)
      (later : Reordered (step state event).1 events events') :
      Reordered state (event :: events) (event :: events')
  | symm {state : σ} {events events' : List ε} (back : Reordered state events' events) :
      Reordered state events events'
  | trans {state : σ} {events middle events' : List ε} (first : Reordered state events middle)
      (second : Reordered state middle events') : Reordered state events events'

variable (same : σ → σ → Prop) (shown : ω → Option ν)

/-- The same end and the same show. -/
structure Agree (first second : σ × List ω) : Prop where
  state : same first.1 second.1
  log : first.2.filterMap shown = second.2.filterMap shown

/-- What no step can tell apart. -/
structure Indistinct : Prop where
  equivalence : Equivalence same
  step : ∀ first second event, same first second →
    Agree same shown (step first event) (step second event)

variable {step rule same shown}

theorem Agree.refl (indistinct : Indistinct step same shown) (reached : σ × List ω) :
    Agree same shown reached reached :=
  ⟨indistinct.equivalence.refl _, rfl⟩

theorem Agree.symm (indistinct : Indistinct step same shown) {first second : σ × List ω}
    (agree : Agree same shown first second) : Agree same shown second first :=
  ⟨indistinct.equivalence.symm agree.state, agree.log.symm⟩

theorem Agree.trans (indistinct : Indistinct step same shown) {first second third : σ × List ω}
    (agree : Agree same shown first second) (agree' : Agree same shown second third) :
    Agree same shown first third :=
  ⟨indistinct.equivalence.trans agree.state agree'.state, agree.log.trans agree'.log⟩

/-- Indistinct states stay so over any events. -/
theorem Indistinct.run (indistinct : Indistinct step same shown) (events : List ε) :
    ∀ {first second : σ}, same first second →
      Agree same shown (run step first events) (run step second events) := by
  induction events with
  | nil => exact fun alike => ⟨alike, rfl⟩
  | cons event events ih =>
    intro first second alike
    have moved := indistinct.step first second event alike
    have later := ih moved.state
    refine ⟨later.state, ?_⟩
    simp only [Machines.run, List.filterMap_append, moved.log, later.log]

/-- Events that agree still do when the same events follow. -/
theorem Indistinct.append (indistinct : Indistinct step same shown) {state : σ}
    {events events' : List ε}
    (agree : Agree same shown (Machines.run step state events) (Machines.run step state events'))
    (rest : List ε) :
    Agree same shown (Machines.run step state (events ++ rest))
      (Machines.run step state (events' ++ rest)) := by
  have later := indistinct.run rest agree.state
  rw [run_append, run_append]
  refine ⟨later.state, ?_⟩
  simp only [List.filterMap_append, agree.log, later.log]

/-- Where every use of the rule agrees, whole runs do. -/
theorem Reordered.agree (indistinct : Indistinct step same shown) (invariant : σ → Prop)
    (kept : ∀ state event, invariant state → invariant (step state event).1)
    (sound : ∀ state before after, invariant state → rule state before after →
      Agree same shown (run step state before) (run step state after))
    {state : σ} {events events' : List ε} (reordered : Reordered step rule state events events')
    (reached : invariant state) :
    Agree same shown (run step state events) (run step state events') := by
  induction reordered with
  | refl state events => exact .refl indistinct _
  | swap ruled rest => exact indistinct.append (sound _ _ _ reached ruled) rest
  | cons event later ih =>
    have agree := ih (kept _ _ reached)
    refine ⟨agree.state, ?_⟩
    simp only [run, List.filterMap_append, agree.log]
  | symm back ih => exact (ih reached).symm indistinct
  | trans first second ih ih' => exact (ih reached).trans indistinct (ih' reached)

end Reorderings
