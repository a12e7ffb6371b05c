import Goodix.Library.Traces

/-! # Scripts whose steps may fail

A script acts on a world in steps, each of which may be done, or raise an error with or
without its effect, or never be reached because the process stops before it.  Errors are
handled as in a language with exceptions.  A script meets a contract if every step it
takes is allowed by what came before, and it ends as promised; the contract of a script is
put together from those of its parts.
-/

namespace Scripts

open Traces

variable {ι ε σ α β : Type}

/-- A step that was taken: its label, the world before and behind it, and the error it raised. -/
structure Event (ι ε σ : Type) where
  label : ι
  before : σ
  after : σ
  error : Option ε

/-- What becomes of a step. -/
inductive Verdict (ε : Type) where
  | done
  | raises (error : ε) (applied : Bool)

inductive Ending (ε α : Type) where
  | returned (value : α)
  | raised (error : ε)
  /-- The process was stopped. -/
  | stopped
  deriving DecidableEq

structure Outcome (ι ε σ α : Type) where
  ending : Ending ε α
  world : σ
  trace : List (Event ι ε σ)
  /-- What is left for the steps behind. -/
  verdicts : List (Verdict ε)

/-- A script finds the verdicts on its steps as it comes to them, and stops when there are none. -/
def Script (ι ε σ α : Type) := σ → List (Verdict ε) → Outcome ι ε σ α

namespace Script

def run (script : Script ι ε σ α) (world : σ) (verdicts : List (Verdict ε)) : Outcome ι ε σ α :=
  script world verdicts

def andThen (script : Script ι ε σ α) (next : α → Script ι ε σ β) : Script ι ε σ β :=
  fun world verdicts =>
    match script.run world verdicts with
    | ⟨.returned value, world, trace, verdicts⟩ =>
      let later := (next value).run world verdicts
      { later with trace := trace ++ later.trace }
    | ⟨.raised error, world, trace, verdicts⟩ => ⟨.raised error, world, trace, verdicts⟩
    | ⟨.stopped, world, trace, verdicts⟩ => ⟨.stopped, world, trace, verdicts⟩

instance : Monad (Script ι ε σ) where
  pure value := fun world verdicts => ⟨.returned value, world, [], verdicts⟩
  bind := andThen

/-- Raises an error that was raised before. -/
def rethrow (error : ε) : Script ι ε σ α := fun world verdicts =>
  ⟨.raised error, world, [], verdicts⟩

def get : Script ι ε σ σ := fun world verdicts => ⟨.returned world, world, [], verdicts⟩

/-- Goes on behind an error. -/
def handle (script : Script ι ε σ α) (handler : ε → Script ι ε σ α) : Script ι ε σ α :=
  fun world verdicts =>
    match script.run world verdicts with
    | ⟨.raised error, world, trace, verdicts⟩ =>
      let later := (handler error).run world verdicts
      { later with trace := trace ++ later.trace }
    | outcome => outcome

/-- A step: the errors it turns others into, and those that can leave its effect behind. -/
def step (label : ι) (effect : σ → σ) (turns : ε → ε) (leaves : ε → Bool) : Script ι ε σ Unit :=
  fun world verdicts =>
    match verdicts with
    | [] => ⟨.stopped, world, [], []⟩
    | .done :: rest => ⟨.returned (), effect world, [⟨label, world, effect world, none⟩], rest⟩
    | .raises error applied :: rest =>
      let after := if applied && leaves (turns error) then effect world else world
      ⟨.raised (turns error), after, [⟨label, world, after, some (turns error)⟩], rest⟩

/-- An error the script finds itself. -/
def raise (label : ι) (error : ε) : Script ι ε σ α := fun world verdicts =>
  ⟨.raised error, world, [⟨label, world, world, some error⟩], verdicts⟩

def forEach : List β → (β → Script ι ε σ Unit) → Script ι ε σ Unit
  | [], _ => pure ()
  | item :: items, body => do
    body item
    forEach items body

/-! ## Runs without a failure -/

/-- With every step done the script returns a value and leaves the world so. -/
def Does (script : Script ι ε σ α) (world : σ) (value : α) (after : σ) : Prop :=
  ∃ count, ∀ rest, ∃ trace, script.run world (List.replicate count .done ++ rest) =
    ⟨.returned value, after, trace, rest⟩

theorem does_pure (world : σ) (value : α) :
    Does (pure value : Script ι ε σ α) world value world :=
  ⟨0, fun _ => ⟨[], rfl⟩⟩

theorem does_get (world : σ) : Does (get : Script ι ε σ σ) world world world :=
  ⟨0, fun _ => ⟨[], rfl⟩⟩

theorem does_step (label : ι) (effect : σ → σ) (turns : ε → ε) (leaves : ε → Bool) (world : σ) :
    Does (step label effect turns leaves) world () (effect world) :=
  ⟨1, fun _ => ⟨[⟨label, world, effect world, none⟩], rfl⟩⟩

theorem Does.bind {script : Script ι ε σ α} {next : α → Script ι ε σ β} {world after final : σ}
    {value : α} {result : β} (first : Does script world value after)
    (later : Does (next value) after result final) : Does (script >>= next) world result final := by
  obtain ⟨count, first⟩ := first
  obtain ⟨more, later⟩ := later
  refine ⟨count + more, fun rest => ?_⟩
  obtain ⟨trace, ran⟩ := first (List.replicate more .done ++ rest)
  obtain ⟨behind, ended⟩ := later rest
  refine ⟨trace ++ behind, ?_⟩
  rw [List.replicate_add, List.append_assoc]
  show andThen script next world _ = _
  rw [andThen, ran]
  dsimp only
  rw [ended]

/-- Nothing is handled where nothing fails. -/
theorem Does.handle {script : Script ι ε σ α} {handler : ε → Script ι ε σ α} {world after : σ}
    {value : α} (does : Does script world value after) :
    Does (script.handle handler) world value after := by
  obtain ⟨count, does⟩ := does
  refine ⟨count, fun rest => ?_⟩
  obtain ⟨trace, ran⟩ := does rest
  refine ⟨trace, ?_⟩
  show Script.handle script handler world _ = _
  rw [Script.handle, ran]

end Script

/-! ## Contracts -/

/-- A statement about what was done so far, and the world. -/
abbrev Assertion (ι ε σ : Type) := List (Event ι ε σ) → σ → Prop

/-- Every event has its reason, in the events before the trace and those of it. -/
def Lawful (reason : List (Event ι ε σ) → Event ι ε σ → Prop) :
    List (Event ι ε σ) → List (Event ι ε σ) → Prop
  | _, [] => True
  | history, event :: trace => reason history event ∧ Lawful reason (history ++ [event]) trace

/-- The events lead from one world to another. -/
def Linked : σ → List (Event ι ε σ) → σ → Prop
  | first, [], last => first = last
  | first, event :: trace, last => event.before = first ∧ Linked event.after trace last

/-- A script ends as promised, unless the process was stopped. -/
def Ending.Holds (ending : Ending ε α) (post : α → Prop) (fault : ε → Prop) : Prop :=
  match ending with
  | .returned value => post value
  | .raised error => fault error
  | .stopped => True

/-- What an outcome promises, behind a history. -/
structure Outcome.Keeps (outcome : Outcome ι ε σ α) (history : List (Event ι ε σ)) (first : σ)
    (reason : List (Event ι ε σ) → Event ι ε σ → Prop) (post : α → Assertion ι ε σ)
    (fault : ε → Assertion ι ε σ) : Prop where
  linked : Linked first outcome.trace outcome.world
  lawful : Lawful reason history outcome.trace
  ends : outcome.ending.Holds (fun value => post value (history ++ outcome.trace) outcome.world)
    fun error => fault error (history ++ outcome.trace) outcome.world

/-- In every run whose steps are as assumed, each step has its reason, and the script ends as
promised. -/
def Meets (assumed : Event ι ε σ → Prop) (reason : List (Event ι ε σ) → Event ι ε σ → Prop)
    (pre : Assertion ι ε σ) (script : Script ι ε σ α) (post : α → Assertion ι ε σ)
    (fault : ε → Assertion ι ε σ) : Prop :=
  ∀ history world verdicts, pre history world →
    (∀ event ∈ (script.run world verdicts).trace, assumed event) →
    (script.run world verdicts).Keeps history world reason post fault

variable {reason weaker : List (Event ι ε σ) → Event ι ε σ → Prop} {assumed : Event ι ε σ → Prop}
  {pre mid : Assertion ι ε σ} {post : α → Assertion ι ε σ} {fault failed : ε → Assertion ι ε σ}

theorem lawful_append {history first second : List (Event ι ε σ)} :
    Lawful reason history (first ++ second) ↔
      Lawful reason history first ∧ Lawful reason (history ++ first) second := by
  induction first generalizing history with
  | nil => simp [Lawful]
  | cons event first ih =>
    rw [List.cons_append]
    simp only [Lawful, ih, List.append_assoc, List.singleton_append, and_assoc]

theorem linked_append {first middle last : σ} {earlier later : List (Event ι ε σ)}
    (linked : Linked first earlier middle) (further : Linked middle later last) :
    Linked first (earlier ++ later) last := by
  induction earlier generalizing first with
  | nil =>
    cases linked
    exact further
  | cons event earlier ih => exact ⟨linked.1, ih linked.2⟩

/-- The events of a lawful trace have their reasons in the trace. -/
theorem Lawful.justified {trace : List (Event ι ε σ)} (lawful : Lawful reason [] trace) :
    Justified reason trace := by
  rintro before event after rfl
  have later := (lawful_append.mp lawful).2
  simpa using later.1

theorem Lawful.mono {history trace : List (Event ι ε σ)} (lawful : Lawful reason history trace)
    (weakens : ∀ history event, reason history event → weaker history event) :
    Lawful weaker history trace := by
  induction trace generalizing history with
  | nil => trivial
  | cons event trace ih => exact ⟨weakens _ _ lawful.1, ih lawful.2⟩

/-- A trace that is not empty ends in the world of its last event. -/
theorem Linked.last {first final : σ} {trace : List (Event ι ε σ)} (linked : Linked first trace final) :
    (trace = [] ∧ final = first) ∨
      ∃ before event, trace = before ++ [event] ∧ event.after = final := by
  induction trace generalizing first with
  | nil => exact .inl ⟨rfl, linked.symm⟩
  | cons event trace ih =>
    right
    obtain ⟨rfl, same⟩ | ⟨before, last, rfl, same⟩ := ih linked.2
    · exact ⟨[], event, rfl, same.symm⟩
    · exact ⟨event :: before, last, rfl, same⟩

theorem Lawful.both {history trace : List (Event ι ε σ)} (lawful : Lawful reason history trace)
    (further : Lawful weaker history trace) :
    Lawful (fun history event => reason history event ∧ weaker history event) history trace := by
  induction trace generalizing history with
  | nil => trivial
  | cons event trace ih => exact ⟨⟨lawful.1, further.1⟩, ih lawful.2 further.2⟩

theorem lawful_of_forall {history trace : List (Event ι ε σ)} {holds : Event ι ε σ → Prop}
    (each : ∀ event ∈ trace, holds event) : Lawful (fun _ event => holds event) history trace := by
  induction trace generalizing history with
  | nil => trivial
  | cons event trace ih =>
    exact ⟨each event List.mem_cons_self, ih fun event inside => each event (List.mem_cons_of_mem _ inside)⟩

/-- What each event keeps by its reason, the trace keeps. -/
theorem Lawful.invariant (invariant : Assertion ι ε σ)
    (kept : ∀ history event, reason history event → invariant history event.before →
      invariant (history ++ [event]) event.after)
    {history trace : List (Event ι ε σ)} {first last : σ} (lawful : Lawful reason history trace)
    (linked : Linked first trace last) (holds : invariant history first) :
    Lawful (fun history event => reason history event ∧ invariant history event.before ∧
        invariant (history ++ [event]) event.after) history trace ∧
      invariant (history ++ trace) last := by
  induction trace generalizing history first with
  | nil =>
    cases linked
    exact ⟨trivial, by rwa [List.append_nil]⟩
  | cons event trace ih =>
    obtain ⟨rfl, further⟩ := linked
    have after := kept history event lawful.1 holds
    obtain ⟨later, ends⟩ := ih lawful.2 further after
    rw [List.append_assoc] at ends
    exact ⟨⟨⟨lawful.1, holds, after⟩, later⟩, ends⟩

/-! ## Rules -/

theorem Meets.mono {pre' : Assertion ι ε σ} {post' : α → Assertion ι ε σ}
    {fault' : ε → Assertion ι ε σ} {script : Script ι ε σ α}
    (meets : Meets assumed reason pre script post fault)
    (stronger : ∀ history world, pre' history world → pre history world)
    (returns : ∀ value history world, post value history world → post' value history world)
    (raises : ∀ error history world, fault error history world → fault' error history world) :
    Meets assumed reason pre' script post' fault' := by
  intro history world verdicts holds orderly
  obtain ⟨linked, lawful, ends⟩ := meets history world verdicts (stronger _ _ holds) orderly
  refine ⟨linked, lawful, ?_⟩
  revert ends
  unfold Ending.Holds
  split
  · exact returns _ _ _
  · exact raises _ _ _
  · exact id

theorem Meets.weaken {script : Script ι ε σ α}
    (meets : Meets assumed reason pre script post fault)
    (weakens : ∀ history event, reason history event → weaker history event) :
    Meets assumed weaker pre script post fault := by
  intro history world verdicts holds orderly
  obtain ⟨linked, lawful, ends⟩ := meets history world verdicts holds orderly
  exact ⟨linked, lawful.mono weakens, ends⟩

/-- What each step keeps by its reason, the script keeps. -/
theorem Meets.invariant {script : Script ι ε σ α} (invariant : Assertion ι ε σ)
    (kept : ∀ history event, reason history event → invariant history event.before →
      invariant (history ++ [event]) event.after)
    (meets : Meets assumed reason pre script post fault) :
    Meets assumed
      (fun history event => reason history event ∧ invariant history event.before ∧
        invariant (history ++ [event]) event.after)
      (fun history world => pre history world ∧ invariant history world) script
      (fun value history world => post value history world ∧ invariant history world)
      fun error history world => fault error history world ∧ invariant history world := by
  intro history world verdicts holds orderly
  obtain ⟨linked, lawful, ends⟩ := meets history world verdicts holds.1 orderly
  obtain ⟨reasons, last⟩ := lawful.invariant invariant kept linked holds.2
  refine ⟨linked, reasons, ?_⟩
  revert ends
  unfold Ending.Holds
  split
  · exact fun returns => ⟨returns, last⟩
  · exact fun raises => ⟨raises, last⟩
  · exact id

/-- What each step keeps by its reason stays true beside the contract. -/
theorem Meets.frame {script : Script ι ε σ α} (stays : Assertion ι ε σ)
    (kept : ∀ history event, reason history event → stays history event.before →
      stays (history ++ [event]) event.after)
    (meets : Meets assumed reason pre script post fault) :
    Meets assumed reason (fun history world => pre history world ∧ stays history world) script
      (fun value history world => post value history world ∧ stays history world)
      fun error history world => fault error history world ∧ stays history world :=
  (meets.invariant stays kept).weaken fun _ _ holds => holds.1

theorem meets_pure {value : α} (holds : ∀ history world, pre history world →
    post value history world) : Meets assumed reason pre (pure value) post fault := by
  intro history world verdicts given _
  refine ⟨rfl, trivial, ?_⟩
  show post value (history ++ []) world
  rw [List.append_nil]
  exact holds _ _ given

theorem meets_rethrow {error : ε} (holds : ∀ history world, pre history world →
    fault error history world) :
    Meets assumed reason pre (Script.rethrow error : Script ι ε σ α) post fault := by
  intro history world verdicts given _
  refine ⟨rfl, trivial, ?_⟩
  show fault error (history ++ []) world
  rw [List.append_nil]
  exact holds _ _ given

theorem meets_get {post : σ → Assertion ι ε σ} (holds : ∀ history world, pre history world →
    post world history world) : Meets assumed reason pre Script.get post fault := by
  intro history world verdicts given _
  refine ⟨rfl, trivial, ?_⟩
  show post world (history ++ []) world
  rw [List.append_nil]
  exact holds _ _ given

/-- One script behind another. -/
theorem meets_bind {script : Script ι ε σ α} {next : α → Script ι ε σ β}
    (mid : α → Assertion ι ε σ) {post : β → Assertion ι ε σ}
    (first : Meets assumed reason pre script mid fault)
    (second : ∀ value, Meets assumed reason (mid value) (next value) post fault) :
    Meets assumed reason pre (script >>= next) post fault := by
  intro history world verdicts given
  show (∀ event ∈ ((script.andThen next).run world verdicts).trace, _) →
    ((script.andThen next).run world verdicts).Keeps _ _ _ _ _
  unfold Script.run Script.andThen
  have kept := first history world verdicts given
  cases outcome : script.run world verdicts with
  | mk ending middle trace rest =>
    rw [outcome] at kept
    cases ending with
    | returned value =>
      intro orderly
      simp only [List.mem_append] at orderly
      obtain ⟨linked, lawful, ends⟩ := kept fun event inside => orderly event (.inl inside)
      obtain ⟨linked', lawful', ends'⟩ := second value (history ++ trace) middle rest ends
        fun event inside => orderly event (.inr inside)
      refine ⟨linked_append linked linked', lawful_append.mpr ⟨lawful, lawful'⟩, ?_⟩
      simpa only [List.append_assoc] using ends'
    | raised error =>
      intro orderly
      obtain ⟨linked, lawful, ends⟩ := kept orderly
      exact ⟨linked, lawful, ends⟩
    | stopped =>
      intro orderly
      obtain ⟨linked, lawful, -⟩ := kept orderly
      exact ⟨linked, lawful, trivial⟩

theorem meets_handle {script : Script ι ε σ α} {handler : ε → Script ι ε σ α}
    (failed : ε → Assertion ι ε σ)
    (first : Meets assumed reason pre script post failed)
    (second : ∀ error, Meets assumed reason (failed error) (handler error) post fault) :
    Meets assumed reason pre (script.handle handler) post fault := by
  intro history world verdicts given
  unfold Script.run Script.handle
  have kept := first history world verdicts given
  cases outcome : script.run world verdicts with
  | mk ending middle trace rest =>
    rw [outcome] at kept
    cases ending with
    | returned value =>
      intro orderly
      obtain ⟨linked, lawful, ends⟩ := kept orderly
      exact ⟨linked, lawful, ends⟩
    | raised error =>
      intro orderly
      simp only [List.mem_append] at orderly
      obtain ⟨linked, lawful, ends⟩ := kept fun event inside => orderly event (.inl inside)
      obtain ⟨linked', lawful', ends'⟩ := second error (history ++ trace) middle rest ends
        fun event inside => orderly event (.inr inside)
      refine ⟨linked_append linked linked', lawful_append.mpr ⟨lawful, lawful'⟩, ?_⟩
      simpa only [List.append_assoc] using ends'
    | stopped =>
      intro orderly
      obtain ⟨linked, lawful, -⟩ := kept orderly
      exact ⟨linked, lawful, trivial⟩

/-- What a step may leave behind. -/
inductive Occurs (effect : σ → σ) (turns : ε → ε) (leaves : ε → Bool) (world : σ) :
    σ → Option ε → Prop where
  | done : Occurs effect turns leaves world (effect world) none
  | undone (error : ε) : Occurs effect turns leaves world world (some (turns error))
  | left (error : ε) (may : leaves (turns error) = true) :
      Occurs effect turns leaves world (effect world) (some (turns error))

theorem meets_step {label : ι} {effect : σ → σ} {turns : ε → ε} {leaves : ε → Bool}
    {post : Unit → Assertion ι ε σ}
    (occurs : ∀ history world after error, pre history world →
      Occurs effect turns leaves world after error → assumed ⟨label, world, after, error⟩ →
      reason history ⟨label, world, after, error⟩ ∧
        match error with
        | none => post () (history ++ [⟨label, world, after, none⟩]) after
        | some error => fault error (history ++ [⟨label, world, after, some error⟩]) after) :
    Meets assumed reason pre (Script.step label effect turns leaves) post fault := by
  intro history world verdicts given
  unfold Script.run Script.step
  match verdicts with
  | [] =>
    intro _
    exact ⟨rfl, trivial, trivial⟩
  | .done :: rest =>
    intro orderly
    obtain ⟨allowed, ends⟩ := occurs history world _ none given .done (orderly _ (by simp))
    exact ⟨⟨rfl, rfl⟩, ⟨allowed, trivial⟩, ends⟩
  | .raises error applied :: rest =>
    intro orderly
    have happens : Occurs effect turns leaves world
        (if applied && leaves (turns error) then effect world else world) (some (turns error)) := by
      split
      · rename_i both
        simp only [Bool.and_eq_true] at both
        exact .left error both.2
      · exact .undone error
    obtain ⟨allowed, ends⟩ := occurs history world _ _ given happens (orderly _ (by simp))
    exact ⟨⟨rfl, rfl⟩, ⟨allowed, trivial⟩, ends⟩

theorem meets_raise {label : ι} {error : ε}
    (raises : ∀ history world, pre history world → assumed ⟨label, world, world, some error⟩ →
      reason history ⟨label, world, world, some error⟩ ∧
        fault error (history ++ [⟨label, world, world, some error⟩]) world) :
    Meets assumed reason pre (Script.raise label error : Script ι ε σ α) post fault := by
  intro history world verdicts given orderly
  obtain ⟨allowed, ends⟩ := raises history world given (orderly _ (by simp [Script.run, Script.raise]))
  exact ⟨⟨rfl, rfl⟩, ⟨allowed, trivial⟩, ends⟩

/-- A loop over a list, with an invariant of what is left of it. -/
theorem meets_forEach {items : List β} {body : β → Script ι ε σ Unit}
    (invariant : List β → Assertion ι ε σ)
    (turn : ∀ item rest, Meets assumed reason (invariant (item :: rest)) (body item)
      (fun _ => invariant rest) fault) :
    Meets assumed reason (invariant items) (Script.forEach items body)
      (fun _ => invariant []) fault := by
  induction items with
  | nil => exact meets_pure fun _ _ holds => holds
  | cons item items ih => exact meets_bind _ (turn item items) fun _ => ih

/-- What does not depend on the world can be assumed once. -/
theorem meets_when {script : Script ι ε σ α} {condition : Prop}
    (each : condition → Meets assumed reason pre script post fault) :
    Meets assumed reason (fun history world => condition ∧ pre history world) script post fault :=
  fun history world verdicts given => each given.1 history world verdicts given.2

/-- Two contracts of one script. -/
theorem Meets.both {script : Script ι ε σ α} {further : List (Event ι ε σ) → Event ι ε σ → Prop}
    {pre' : Assertion ι ε σ} {post' : α → Assertion ι ε σ} {fault' : ε → Assertion ι ε σ}
    (first : Meets assumed reason pre script post fault)
    (second : Meets assumed further pre' script post' fault') :
    Meets assumed (fun history event => reason history event ∧ further history event)
      (fun history world => pre history world ∧ pre' history world) script
      (fun value history world => post value history world ∧ post' value history world)
      fun error history world => fault error history world ∧ fault' error history world := by
  intro history world verdicts given orderly
  obtain ⟨linked, lawful, ends⟩ := first history world verdicts given.1 orderly
  obtain ⟨-, lawful', ends'⟩ := second history world verdicts given.2 orderly
  refine ⟨linked, lawful.both lawful', ?_⟩
  revert ends ends'
  unfold Ending.Holds
  split
  · exact fun returns returns' => ⟨returns, returns'⟩
  · exact fun raises raises' => ⟨raises, raises'⟩
  · exact fun _ => id

/-- What the assumption says apart from the history and the world holds throughout. -/
theorem meets_given {script : Script ι ε σ α}
    (each : ∀ history world, pre history world → Meets assumed reason pre script post fault) :
    Meets assumed reason pre script post fault :=
  fun history world verdicts given => each history world given history world verdicts given

/-- A contract can be shown for each history and world. -/
theorem meets_at {script : Script ι ε σ α}
    (each : ∀ history world, pre history world → Meets assumed reason
      (fun past here => past = history ∧ here = world) script post fault) :
    Meets assumed reason pre script post fault :=
  fun history world verdicts given =>
    each history world given history world verdicts ⟨rfl, rfl⟩

/-- A contract at one history and world. -/
theorem Meets.pin {script : Script ι ε σ α} {history : List (Event ι ε σ)} {world : σ}
    (meets : Meets assumed reason pre script post fault) (given : pre history world) :
    Meets assumed reason (fun past here => past = history ∧ here = world) script post fault := by
  rintro _ _ verdicts ⟨rfl, rfl⟩
  exact meets _ _ verdicts given

/-- A script adds to the history. -/
theorem Meets.extends {script : Script ι ε σ α} {history : List (Event ι ε σ)} {world : σ}
    (meets : Meets assumed reason (fun past here => past = history ∧ here = world) script post fault) :
    Meets assumed reason (fun past here => past = history ∧ here = world) script
      (fun value past here => (∃ trace, past = history ++ trace) ∧ post value past here)
      fun error past here => (∃ trace, past = history ++ trace) ∧ fault error past here := by
  rintro _ _ verdicts ⟨rfl, rfl⟩ orderly
  obtain ⟨linked, lawful, ends⟩ := meets _ _ verdicts ⟨rfl, rfl⟩ orderly
  refine ⟨linked, lawful, ?_⟩
  revert ends
  unfold Ending.Holds
  split
  · exact fun returns => ⟨⟨_, rfl⟩, returns⟩
  · exact fun raises => ⟨⟨_, rfl⟩, raises⟩
  · exact id

end Scripts
