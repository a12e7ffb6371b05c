import Goodix.Library.Reorderings
import Goodix.Pairing.Steps

/-! # The OUT of a pairing command may complete at any time

The same for the pairing activation: the completion of an E0 or of a readback request
is handled before, between or after the frames that answer it, and the activation ends
in the same phase with the same readbacks.
-/

namespace Goodix.Pairing

open Octets A0Protocol SelfState LivePreflight Machines Reorderings

/-- What `handle_a0` makes of a frame before it tries to advance: a failed activation, or one that
may have its answer. -/
def Activation.taken (activation : Activation) (frame : List UInt8) :
    Except Activation Activation :=
  let invalid := activation.fail errorProof
    "pairing readback failed its exact typed-response contract"
  if !activation.requestSubmitted || activation.phase.pastReadback || frame.length < 5 then
    .error (activation.fail errorState "A0 response is outside the pairing transaction")
  else if activation.phase = .e0 then
    match activation.provision with
    | none => .error (activation.fail errorProtocol "E0 response failed its qualified contract")
    | some provision =>
      match provision.handleA0 frame with
      | (provision, .error _) =>
        .error (Activation.fail { activation with provision := some provision } errorProtocol
          "E0 response failed its qualified contract")
      | (provision, .ok ()) => .ok { activation with provision := some provision }
  else
    match parseReceived frame with
    | .error _ => .error (activation.fail errorProtocol "malformed pairing readback frame")
    | .ok message =>
      if message.control = 0xb0 then
        if activation.ackSeen || message.body.length ≠ 2 || message.body.getD 0 0 ≠ 0xe4 ||
            !ackStatusAccepted (message.body.getD 1 0) then
          .error invalid
        else .ok { activation with ackSeen := true }
      else if !activation.ackSeen || message.control ≠ 0xe4 then .error invalid
      else if activation.phase = .readBb010002 then
        match e4Block dtBb010002 Bb010002.length message.body with
        | none => .error invalid
        | some readbackBb010002 => .ok { activation with readbackBb010002, logicalDone := true }
      else
        match e4Block dtBb020003 32 message.body with
        | none => .error invalid
        | some readbackValidator => .ok { activation with readbackValidator, logicalDone := true }

/-- The command of the phase has not had its last answer. -/
structure Activation.Unanswered (activation : Activation) : Prop where
  e0 : activation.phase = .e0 → activation.provisionTerminal ≠ .accepted
  readback : activation.phase ≠ .e0 → activation.logicalDone = false

variable {activation : Activation}

theorem maybeAdvance_unanswered (unanswered : activation.Unanswered) :
    activation.maybeAdvance = (activation, .ok ()) := by
  unfold Activation.maybeAdvance
  split
  · rfl
  split
  · rename_i phase
    rw [if_pos (unanswered.e0 phase)]
  · rename_i phase
    rw [if_pos (by rw [unanswered.readback phase]; rfl)]

/-- The end of `handle_a0`. -/
def settle : Except Activation Activation → Activation
  | .error failed => failed
  | .ok taken => taken.maybeAdvance.1

theorem handleA0_taken (unanswered : activation.Unanswered) (frame : List UInt8) :
    (activation.handleA0 frame).1 = settle (activation.taken frame) := by
  unfold Activation.handleA0 Activation.taken
  simp only
  split
  · rfl
  rename_i inside
  by_cases phase : activation.phase = .e0
  · rw [if_neg (not_not.mpr phase), if_pos phase]
    unfold Activation.handleE0
    cases activation.provision with
    | none => rfl
    | some provision =>
      simp only
      generalize provision.handleA0 frame = answer
      obtain ⟨provision, result⟩ := answer
      cases result <;> rfl
  · rw [if_pos phase, if_neg phase]
    unfold Activation.handleReadbackA0
    cases parseReceived frame with
    | error error => rfl
    | ok message =>
      simp only
      unfold Activation.handleReadback Activation.invalid
      split
      · split
        · rfl
        · -- the ACK alone does not advance
          have same : Activation.Unanswered { activation with ackSeen := true } :=
            ⟨unanswered.e0, unanswered.readback⟩
          simp only [settle, maybeAdvance_unanswered same]
      split
      · rfl
      split
      · cases e4Block dtBb010002 Bb010002.length message.body <;> rfl
      · cases e4Block dtBb020003 32 message.body <;> rfl

/-! ## The latch of the OUT -/

def Activation.withOut (pending : Bool) (activation : Activation) : Activation :=
  { activation with outPending := pending }

theorem fail_withOut (activation : Activation) (pending : Bool) (code : Nat) (message : String) :
    (activation.withOut pending).fail code message =
      (activation.fail code message).withOut pending := by
  unfold Activation.fail Activation.withOut
  split
  · rfl
  · rfl

theorem taken_withOut (activation : Activation) (pending : Bool) (frame : List UInt8) :
    (activation.withOut pending).taken frame =
      match activation.taken frame with
      | .error failed => .error (failed.withOut pending)
      | .ok taken => .ok (taken.withOut pending) := by
  unfold Activation.taken
  simp only [fail_withOut]
  show (if (!activation.requestSubmitted || activation.phase.pastReadback ||
    decide (frame.length < 5)) = true then _ else _) = _
  split
  · rfl
  show (if activation.phase = .e0 then _ else _) = _
  split
  · show (match activation.provision with | none => _ | some provision => _) = _
    cases activation.provision with
    | none => rfl
    | some provision =>
      simp only
      generalize provision.handleA0 frame = answer
      obtain ⟨provision, result⟩ := answer
      cases result with
      | error error =>
        exact congrArg Except.error (fail_withOut
          { activation with provision := some provision } pending errorProtocol
          "E0 response failed its qualified contract")
      | ok done => rfl
  · cases parseReceived frame with
    | error error => rfl
    | ok message =>
      simp only
      split
      · show (if (activation.ackSeen || _ || _ || _) = true then _ else _) = _
        split <;> rfl
      show (if (!activation.ackSeen || _) = true then _ else _) = _
      split
      · rfl
      show (if activation.phase = .readBb010002 then _ else _) = _
      split
      · cases e4Block dtBb010002 Bb010002.length message.body <;> rfl
      · cases e4Block dtBb020003 32 message.body <;> rfl

/-- A frame that is taken leaves the phase and the OUT. -/
theorem taken_cases (activation : Activation) (frame : List UInt8) :
    (∃ failed, activation.taken frame = .error failed ∧ failed.phase = .terminal) ∨
    ∃ taken, activation.taken frame = .ok taken ∧ taken.phase = activation.phase ∧
      taken.outPending = activation.outPending ∧ activation.phase.pastReadback = false := by
  unfold Activation.taken
  simp only
  split
  · exact .inl ⟨_, rfl, fail_phase _ _ _⟩
  rename_i inside
  have early : activation.phase.pastReadback = false := by
    simp only [Bool.or_eq_true, not_or, Bool.not_eq_true] at inside
    exact inside.1.2
  split
  · cases activation.provision with
    | none => exact .inl ⟨_, rfl, fail_phase _ _ _⟩
    | some provision =>
      simp only
      split
      · exact .inl ⟨_, rfl, fail_phase _ _ _⟩
      · exact .inr ⟨_, rfl, rfl, rfl, early⟩
  split
  · exact .inl ⟨_, rfl, fail_phase _ _ _⟩
  split
  · split
    · exact .inl ⟨_, rfl, fail_phase _ _ _⟩
    · exact .inr ⟨_, rfl, rfl, rfl, early⟩
  split
  · exact .inl ⟨_, rfl, fail_phase _ _ _⟩
  split
  · split
    · exact .inl ⟨_, rfl, fail_phase _ _ _⟩
    · exact .inr ⟨_, rfl, rfl, rfl, early⟩
  · split
    · exact .inl ⟨_, rfl, fail_phase _ _ _⟩
    · exact .inr ⟨_, rfl, rfl, rfl, early⟩

/-! ## Activations that act alike -/

/-- Equal, or both failed with the same proof material and error. -/
structure Alike (first second : System) : Prop where
  path : first.path = second.path
  phase : first.activation.phase = second.activation.phase
  provision : first.activation.provision = second.activation.provision
  readbackBb010002 : first.activation.readbackBb010002 = second.activation.readbackBb010002
  readbackValidator : first.activation.readbackValidator = second.activation.readbackValidator
  error : first.activation.error = second.activation.error
  running : first.activation.phase ≠ .terminal → first.activation = second.activation

theorem Alike.of_eq {first second : System} (same : first = second) : Alike first second := by
  subst same
  exact ⟨rfl, rfl, rfl, rfl, rfl, rfl, fun _ => rfl⟩

theorem alike_equivalence : Equivalence Alike where
  refl := fun _ => .of_eq rfl
  symm := fun alike =>
    ⟨alike.path.symm, alike.phase.symm, alike.provision.symm, alike.readbackBb010002.symm,
      alike.readbackValidator.symm, alike.error.symm,
      fun running => (alike.running (by rwa [alike.phase])).symm⟩
  trans := fun alike later =>
    ⟨alike.path.trans later.path, alike.phase.trans later.phase,
      alike.provision.trans later.provision,
      alike.readbackBb010002.trans later.readbackBb010002,
      alike.readbackValidator.trans later.readbackValidator, alike.error.trans later.error,
      fun running => (alike.running running).trans (later.running (by rwa [← alike.phase]))⟩

/-- The frame of a request. -/
def Observed.request? : Observed → Option (List UInt8)
  | .request _ frame => some frame
  | _ => none

theorem alike_indistinct (crypto : Primitives) :
    Indistinct (step crypto) Alike Observed.request? where
  equivalence := alike_equivalence
  step := fun ⟨first, path⟩ ⟨second, path'⟩ event alike => by
    cases alike.path
    by_cases ended : first.phase = .terminal
    · obtain ⟨same, silent⟩ := step_terminal crypto path ended event
      obtain ⟨same', silent'⟩ := step_terminal crypto path (alike.phase ▸ ended) event
      refine ⟨by rw [same, same']; exact alike, ?_⟩
      rcases silent with silent | silent <;> rcases silent' with silent' | silent' <;>
        rw [silent, silent'] <;> rfl
    · cases alike.running ended
      exact ⟨.of_eq rfl, rfl⟩

/-! ## The order of completion and answer -/

/-- The completion of an OUT comes after a frame that belongs to its command and not before it, or
a request is asked for while one is under way. -/
inductive Late : Rule System Event where
  | out (system : System) (frame : List UInt8) (unanswered : system.activation.Unanswered) :
      Late system [.outComplete none, .handleA0 frame] [.handleA0 frame, .outComplete none]
  | poll (system : System) (submitted : system.activation.requestSubmitted = true) :
      Late system [.nextRequest] []

theorem outComplete_unanswered (unanswered : activation.Unanswered)
    (early : activation.phase.pastReadback = false) :
    activation.outComplete none = activation.withOut false := by
  unfold Activation.outComplete
  cases pending : activation.outPending with
  | false =>
    show activation = activation.withOut false
    unfold Activation.withOut
    rw [← pending]
  | true =>
    rw [early]
    have same : Activation.Unanswered { activation with outPending := false } :=
      ⟨unanswered.e0, unanswered.readback⟩
    show (Activation.maybeAdvance { activation with outPending := false }).1 = _
    rw [maybeAdvance_unanswered same]
    rfl

theorem fail_outPending (activation : Activation) (code : Nat) (message : String) :
    (activation.fail code message).outPending = activation.outPending := by
  unfold Activation.fail
  split <;> rfl

/-- Advancing submits nothing. -/
theorem maybeAdvance_free (free : activation.outPending = false) :
    activation.maybeAdvance.1.outPending = false := by
  unfold Activation.maybeAdvance
  rw [if_neg (by rw [free]; decide)]
  split
  · split
    · exact free
    · rfl
  split
  · exact free
  split
  · rfl
  unfold Activation.finishReadback
  cases activation.provision with
  | none => exact (fail_outPending _ _ _).trans free
  | some provision =>
    simp only
    split
    · exact (fail_outPending _ _ _).trans free
    · rfl

theorem outComplete_late (late : activation.phase.pastReadback = true) :
    activation.outComplete none = activation := by
  simp [Activation.outComplete, late]

theorem alike_withOut (ended : activation.phase = .terminal) (path : PathEntry) (pending : Bool) :
    Alike ⟨activation.withOut pending, path⟩ ⟨activation, path⟩ :=
  ⟨rfl, rfl, rfl, rfl, rfl, rfl, fun running => absurd ended running⟩

/-- A completion after the frame does what a completion before it does. -/
theorem late_out (unanswered : activation.Unanswered) (path : PathEntry) (frame : List UInt8) :
    Alike ⟨((activation.outComplete none).handleA0 frame).1, path⟩
      ⟨(activation.handleA0 frame).1.outComplete none, path⟩ := by
  cases late : activation.phase.pastReadback with
  | true =>
    rw [outComplete_late late, handleA0_outside (by simp [late])]
    refine .of_eq ?_
    rw [outComplete_late]
    rw [fail_phase]
    rfl
  | false =>
    have same : (activation.withOut false).Unanswered := ⟨unanswered.e0, unanswered.readback⟩
    rw [outComplete_unanswered unanswered late, handleA0_taken same, handleA0_taken unanswered,
      taken_withOut]
    rcases taken_cases activation frame with ⟨failed, refused, ended⟩ |
        ⟨taken, accepted, phase, out, -⟩
    · rw [refused]
      simp only [settle]
      rw [outComplete_late (by rw [ended]; rfl)]
      exact alike_withOut ended path false
    · rw [accepted]
      simp only [settle]
      refine .of_eq ?_
      cases pending : activation.outPending with
      | true =>
        -- the answer waits for the completion, and the completion advances
        rw [pending] at out
        rw [maybeAdvance_pending out]
        simp [Activation.outComplete, out, phase, late, Activation.withOut]
      | false =>
        rw [pending] at out
        have free : taken.withOut false = taken := by
          unfold Activation.withOut
          rw [← out]
        rw [free]
        simp [Activation.outComplete, maybeAdvance_free out]

theorem step_outComplete (crypto : Primitives) (system : System) :
    (step crypto system (.outComplete none)).1 =
        { system with activation := system.activation.outComplete none } ∧
      (step crypto system (.outComplete none)).2.filterMap Observed.request? = [] := by
  refine ⟨rfl, ?_⟩
  simp only [step]
  split
  · rfl
  · split <;> rfl

theorem step_handleA0 (crypto : Primitives) (system : System) (frame : List UInt8) :
    (step crypto system (.handleA0 frame)).1 =
        { system with activation := (system.activation.handleA0 frame).1 } ∧
      (step crypto system (.handleA0 frame)).2.filterMap Observed.request? = [] := by
  refine ⟨rfl, ?_⟩
  simp only [step]
  split
  · unfold observeMessage
    split <;> split <;> rfl
  · rfl

theorem late_agrees (crypto : Primitives) (system : System) {before after : List Event}
    (late : Late system before after) :
    Agree Alike Observed.request? (run (step crypto) system before)
      (run (step crypto) system after) := by
  cases late with
  | out _ frame unanswered =>
    obtain ⟨completed, silent⟩ := step_outComplete crypto system
    obtain ⟨handled, unheard⟩ := step_handleA0 crypto system frame
    simp only [run, List.append_nil]
    rw [completed, handled]
    refine ⟨late_out unanswered system.path frame, ?_⟩
    simp only [List.filterMap_append, silent, unheard, (step_handleA0 crypto _ frame).2,
      (step_outComplete crypto _).2]
  | poll _ submitted =>
    have idle : step crypto system .nextRequest = (system, []) := by
      simp [step, Activation.nextRequest, submitted]
    simp only [run, idle]
    exact .refl (alike_indistinct crypto) _

/-- **Confluence of the pairing activation.**  However late completions are handled, the same
requests are sent, in the same phase with the same readbacks at the end. -/
theorem pairing_confluent (crypto : Primitives) {system : System} {events events' : List Event}
    (reordered : Reordered (step crypto) Late system events events') :
    Agree Alike Observed.request? (run (step crypto) system events)
      (run (step crypto) system events') :=
  reordered.agree (alike_indistinct crypto) (fun _ => True) (fun _ _ _ => trivial)
    (fun system _ _ _ late => late_agrees crypto system late) trivial

end Goodix.Pairing
