import Goodix.Library.Reorderings
import Goodix.LivePreflight.Grammar

/-! # The OUT of a preflight command may complete at any time

The completion of a command and the frames that answer it come over two endpoints.
Wherever among the frames the completion is handled, the preflight sends the same
commands and holds the same evidence.
-/

namespace Goodix.LivePreflight

open Octets A0Protocol Machines Reorderings

/-- What `handle_a0` makes of a frame. -/
inductive Verdict where
  | failed (code : Nat) (message : String)
  | ack
  | typed (evidence : Evidence)

/-- The checks of `handle_a0`; none of them looks at the OUT. -/
def Preflight.verdict (preflight : Preflight) (frame : List UInt8) : Verdict :=
  let expected := phaseControl preflight.phase
  let invalid := Verdict.failed errorTarget "live preflight response failed its target boundary"
  if preflight.phase.ended || !preflight.requestSubmitted || preflight.logicalDone ||
      frame.length < 5 then
    .failed errorState "A0 response is outside the live preflight phase"
  else
    match parseReceived frame with
    | .error _ => .failed errorProtocol "malformed live preflight A0 frame"
    | .ok message =>
      if message.control = 0xb0 then
        if preflight.ackSeen || message.body.length ≠ 2 || message.body.getD 0 0 ≠ expected ||
            !ackStatusAccepted (message.body.getD 1 0) then
          invalid
        else .ack
      else if !preflight.ackSeen || message.control ≠ expected then invalid
      else
        match acceptTyped preflight.phase preflight.evidence message.body with
        | none => invalid
        | some evidence => .typed evidence

def Preflight.follow (preflight : Preflight) : Verdict → Preflight
  | .failed code message => preflight.fail code message
  | .ack => { preflight with ackSeen := true }
  | .typed evidence => Preflight.maybeAdvance { preflight with evidence, logicalDone := true }

variable {preflight : Preflight}

theorem handleA0_follow (preflight : Preflight) (frame : List UInt8) :
    (preflight.handleA0 frame).1 = preflight.follow (preflight.verdict frame) := by
  unfold Preflight.handleA0 Preflight.verdict
  simp only
  split
  · rfl
  cases parseReceived frame with
  | error error => rfl
  | ok message =>
    simp only
    unfold Preflight.handleMessage Preflight.invalid
    simp only
    split
    · split <;> rfl
    · split
      · rfl
      · cases acceptTyped preflight.phase preflight.evidence message.body <;> rfl

/-! ## Preflights that act alike -/

/-- Equal, or both failed with the same error and evidence. -/
structure Alike (first second : Preflight) : Prop where
  phase : first.phase = second.phase
  evidence : first.evidence = second.evidence
  error : first.error = second.error
  running : first.phase ≠ .terminal → first = second

theorem Alike.of_eq {first second : Preflight} (same : first = second) : Alike first second :=
  ⟨by rw [same], by rw [same], by rw [same], fun _ => same⟩

theorem alike_equivalence : Equivalence Alike where
  refl := fun _ => .of_eq rfl
  symm := fun alike =>
    ⟨alike.phase.symm, alike.evidence.symm, alike.error.symm,
      fun running => (alike.running (by rwa [alike.phase])).symm⟩
  trans := fun alike later =>
    ⟨alike.phase.trans later.phase, alike.evidence.trans later.evidence,
      alike.error.trans later.error,
      fun running => (alike.running running).trans (later.running (by rwa [← alike.phase]))⟩

/-- The frame of a command. -/
def Accepted.command? : Accepted → Option (List UInt8)
  | .command frame => some frame
  | _ => none

theorem fail_terminal (ended : preflight.phase = .terminal) (code : Nat) (message : String) :
    preflight.fail code message = preflight := by
  simp [Preflight.fail, ended]

/-- A failed preflight does nothing any more. -/
theorem step_terminal (ended : preflight.phase = .terminal) (event : Event) :
    step preflight event = (preflight, []) := by
  cases event with
  | nextRequest => simp [step, Preflight.nextRequest, ended]
  | outComplete error => simp [step, Preflight.outComplete, ended, Phase.ended]
  | handleA0 frame =>
    have refused : ∃ error, preflight.handleA0 frame = (preflight, .error error) := by
      simp [Preflight.handleA0, ended, Phase.ended, fail_terminal ended]
    obtain ⟨error, refused⟩ := refused
    simp [step, refused]

theorem alike_indistinct : Indistinct step Alike Accepted.command? where
  equivalence := alike_equivalence
  step := fun first second event alike => by
    by_cases ended : first.phase = .terminal
    · rw [step_terminal ended, step_terminal (alike.phase ▸ ended)]
      exact ⟨alike, rfl⟩
    · rw [alike.running ended]
      exact ⟨.of_eq rfl, rfl⟩

/-! ## The order of completion and answer -/

/-- The completion of an OUT comes after a frame and not before it, or a request is asked for
while one is under way. -/
inductive Late : Rule Preflight Event where
  | out (preflight : Preflight) (frame : List UInt8) :
      Late preflight [.outComplete none, .handleA0 frame] [.handleA0 frame, .outComplete none]
  | poll (preflight : Preflight) (submitted : preflight.requestSubmitted = true) :
      Late preflight [.nextRequest] []

theorem step_outComplete (preflight : Preflight) :
    (step preflight (.outComplete none)).1 = preflight.outComplete none ∧
      (step preflight (.outComplete none)).2.filterMap Accepted.command? = [] := by
  refine ⟨rfl, ?_⟩
  simp only [step]
  split <;> rfl

theorem step_handleA0 (preflight : Preflight) (frame : List UInt8) :
    (step preflight (.handleA0 frame)).1 = preflight.follow (preflight.verdict frame) ∧
      (step preflight (.handleA0 frame)).2.filterMap Accepted.command? = [] := by
  rw [← handleA0_follow]
  simp only [step]
  generalize preflight.handleA0 frame = handled
  obtain ⟨after, result⟩ := handled
  split
  · rename_i taken _
    cases taken
    refine ⟨rfl, ?_⟩
    unfold acceptedMessage
    split <;> rfl
  · rename_i _ _ same _
    injection same with same
    exact ⟨same.symm, rfl⟩

theorem outComplete_terminal (ended : preflight.phase = .terminal) (error : Option GError) :
    preflight.outComplete error = preflight := by
  simp [Preflight.outComplete, ended, Phase.ended]

/-- A verdict is the same whether the OUT is pending, and so is what follows, but for the latch of
the OUT. -/
theorem follow_out (running : preflight.phase.ended = false) (pending : preflight.outPending = true)
    (undone : preflight.logicalDone = false) (verdict : Verdict) :
    Alike (Preflight.follow { preflight with outPending := false } verdict)
      ((preflight.follow verdict).outComplete none) := by
  have alive : preflight.phase ≠ .terminal := by
    intro ended
    rw [ended] at running
    cases running
  cases verdict with
  | failed code message =>
    simp only [Preflight.follow]
    rw [outComplete_terminal (fail_phase _ _ _)]
    simp only [Preflight.fail, alive, if_false]
    exact ⟨rfl, rfl, rfl, fun running => absurd rfl running⟩
  | ack =>
    refine .of_eq ?_
    simp [Preflight.follow, Preflight.outComplete, Preflight.maybeAdvance, running, pending, undone]
  | typed evidence =>
    refine .of_eq ?_
    simp [Preflight.follow, Preflight.outComplete, Preflight.maybeAdvance, running, pending]

/-- A frame for a phase that is done, or for one without a request, ends the preflight. -/
theorem verdict_outside (outside : preflight.requestSubmitted = false ∨
    preflight.logicalDone = true ∨ preflight.phase.ended = true) (frame : List UInt8) :
    preflight.verdict frame = .failed errorState "A0 response is outside the live preflight phase" := by
  unfold Preflight.verdict
  rcases outside with unsent | done | ended
  · simp [unsent]
  · simp [done]
  · simp [ended]

theorem late_out (preflight : Preflight) (frame : List UInt8) :
    Alike ((preflight.outComplete none).follow ((preflight.outComplete none).verdict frame))
      ((preflight.follow (preflight.verdict frame)).outComplete none) := by
  by_cases idle : preflight.phase.ended = true ∨ preflight.outPending = false
  · -- there is nothing to complete, before the frame or after it
    have same : preflight.outComplete none = preflight := by
      rcases idle with ended | free <;> simp [Preflight.outComplete, *]
    rw [same]
    refine .of_eq (Eq.symm ?_)
    rcases idle with ended | free
    · rw [verdict_outside (.inr (.inr ended))]
      exact outComplete_terminal (fail_phase _ _ _) none
    · have kept : (preflight.follow (preflight.verdict frame)).outPending = false := by
        cases preflight.verdict frame with
        | failed code message =>
          simp only [Preflight.follow, Preflight.fail]
          split <;> exact free
        | ack => exact free
        | typed evidence =>
          simp only [Preflight.follow, Preflight.maybeAdvance]
          split <;> exact free
      simp [Preflight.outComplete, kept]
  · simp only [not_or, Bool.not_eq_true, Bool.not_eq_false] at idle
    obtain ⟨running, pending⟩ := idle
    cases undone : preflight.logicalDone with
    | false =>
      have completed : preflight.outComplete none = { preflight with outPending := false } := by
        simp [Preflight.outComplete, Preflight.maybeAdvance, running, pending, undone]
      rw [completed]
      exact follow_out running pending undone (preflight.verdict frame)
    | true =>
      -- the phase is answered: the frame is one too many in either order
      have advanced : preflight.outComplete none =
          { preflight with
            outPending := false
            phase := preflight.phase.next
            requestSubmitted := false
            ackSeen := false
            logicalDone := false } := by
        simp [Preflight.outComplete, Preflight.maybeAdvance, running, pending, undone]
      have alive : preflight.phase ≠ .terminal := by
        intro ended
        rw [ended] at running
        cases running
      have next : preflight.phase.next ≠ .terminal := by
        cases phase : preflight.phase <;> simp [phase, Phase.ended, Phase.next] at running ⊢
      rw [verdict_outside (.inr (.inl undone)), verdict_outside (.inl (by rw [advanced])),
        advanced]
      simp only [Preflight.follow]
      rw [outComplete_terminal (fail_phase _ _ _)]
      simp only [Preflight.fail, alive, next, if_false]
      exact ⟨rfl, rfl, rfl, fun running => absurd rfl running⟩

theorem late_agrees (preflight : Preflight) {before after : List Event}
    (late : Late preflight before after) :
    Agree Alike Accepted.command? (run step preflight before) (run step preflight after) := by
  cases late with
  | out _ frame =>
    obtain ⟨completed, silent⟩ := step_outComplete preflight
    obtain ⟨handled, unheard⟩ := step_handleA0 preflight frame
    simp only [run, List.append_nil]
    rw [completed, handled]
    refine ⟨?_, ?_⟩
    · show Alike (step _ _).1 (step _ _).1
      rw [(step_handleA0 _ frame).1, (step_outComplete _).1]
      exact late_out preflight frame
    · simp only [List.filterMap_append, silent, unheard, (step_handleA0 _ frame).2,
        (step_outComplete _).2]
  | poll _ submitted =>
    have idle : step preflight .nextRequest = (preflight, []) := by
      by_cases ended : preflight.phase = .terminal
      · exact step_terminal ended _
      · simp [step, Preflight.nextRequest, ended, submitted]
    simp only [run, idle]
    exact .refl alike_indistinct _

/-- **Confluence of the live preflight.**  However late completions are handled, the same commands
are sent, in the same phase with the same evidence at the end. -/
theorem preflight_confluent {events events' : List Event}
    (reordered : Reordered step Late new events events') :
    Agree Alike Accepted.command? (run step new events) (run step new events') :=
  reordered.agree alike_indistinct (fun _ => True) (fun _ _ _ => trivial)
    (fun preflight _ _ _ late => late_agrees preflight late) trivial

end Goodix.LivePreflight
