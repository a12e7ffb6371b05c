import Goodix.Library.Machines
import Goodix.Pairing.Activation

/-! # Steps of a pairing activation

The public calls of an activation as the events of one machine, and for each phase
the list of everything a call can do there.
-/

namespace Goodix.Pairing

open Octets A0Protocol SelfState LivePreflight

/-- An activation and the path its records are written to. -/
structure System where
  activation : Activation
  path : PathEntry

inductive Event where
  | nextRequest
  | outComplete (error : Option GError)
  | handleA0 (frame : List UInt8)
  | getSecureView
  | markTlsAndPromote (fault : Option Fault)

/-- What a call returned, accepted or wrote. -/
inductive Observed where
  | request (phase : Phase) (frame : List UInt8)
  | outComplete (phase : Phase)
  | e0Ack (status : UInt8)
  | e0Completion (control code : UInt8)
  | readbackAck (phase : Phase) (status : UInt8)
  | readback (phase : Phase) (block : List UInt8)
  | secureView (view : SecureMaterial)
  | promotion (phase : Phase) (disposition : Disposition) (result : Except GError Unit)
  | failed

/-- How a message counts that was accepted in a phase. -/
def observeMessage (phase : Phase) (message : A0Message) : Observed :=
  if phase = .e0 then
    if message.control = 0xb0 then .e0Ack (message.body.getD 1 0)
    else .e0Completion message.control (message.body.getD 1 0)
  else if message.control = 0xb0 then .readbackAck phase (message.body.getD 1 0)
  else .readback phase (message.body.drop 9)

def step (crypto : Primitives) (system : System) : Event → System × List Observed
  | .nextRequest =>
    let (after, result) := system.activation.nextRequest
    ({ system with activation := after },
      match result with
      | .ok (some frame) => [.request system.activation.phase frame]
      | .ok none => []
      | .error _ => [.failed])
  | .outComplete error =>
    let after := system.activation.outComplete error
    ({ system with activation := after },
      if !system.activation.outPending || system.activation.phase.pastReadback then []
      else if after.phase = .terminal then [.failed]
      else [.outComplete system.activation.phase])
  | .handleA0 frame =>
    let (after, result) := system.activation.handleA0 frame
    ({ system with activation := after },
      match result, parseReceived frame with
      | .ok (), .ok message => [observeMessage system.activation.phase message]
      | _, _ => [.failed])
  | .getSecureView =>
    let (after, result) := system.activation.getSecureView
    ({ system with activation := after },
      match result with
      | .ok view => [.secureView view]
      | .error _ => [.failed])
  | .markTlsAndPromote fault =>
    let outcome := system.activation.markTlsAndPromote crypto fault system.path
    ({ activation := outcome.activation, path := outcome.path },
      (match outcome.promotion with
        | some result =>
          [.promotion system.activation.phase system.activation.disposition result]
        | none => []) ++
      (match outcome.result with
        | .ok () => []
        | .error _ => [.failed]))

/-! ## Failures -/

variable {crypto : Primitives} {activation : Activation} {path : PathEntry}

@[simp] theorem fail_phase (activation : Activation) (code : Nat) (message : String) :
    (activation.fail code message).phase = .terminal := by
  unfold Activation.fail
  split
  · assumption
  · rfl

theorem fail_terminal (terminal : activation.phase = .terminal) (code : Nat) (message : String) :
    activation.fail code message = activation := by
  simp [Activation.fail, terminal]

/-- In TERMINAL every call fails or does nothing. -/
theorem step_terminal (crypto : Primitives) (path : PathEntry)
    (terminal : activation.phase = .terminal) (event : Event) :
    (step crypto ⟨activation, path⟩ event).1 = ⟨activation, path⟩ ∧
      ((step crypto ⟨activation, path⟩ event).2 = [] ∨
        (step crypto ⟨activation, path⟩ event).2 = [.failed]) := by
  have past : activation.phase.pastReadback = true := by rw [terminal]; rfl
  cases event with
  | nextRequest => simp [step, Activation.nextRequest, past]
  | outComplete error => simp [step, Activation.outComplete, past]
  | handleA0 frame => simp [step, Activation.handleA0, past, fail_terminal terminal]
  | getSecureView => simp [step, Activation.getSecureView, terminal, fail_terminal terminal]
  | markTlsAndPromote fault =>
    simp [step, Activation.markTlsAndPromote, Activation.markFailed, terminal,
      fail_terminal terminal]

theorem handleA0_outside {frame : List UInt8} (outside : (!activation.requestSubmitted ||
      activation.phase.pastReadback || decide (frame.length < 5)) = true) :
    activation.handleA0 frame =
      (activation.fail errorState "A0 response is outside the pairing transaction",
        .error ((activation.fail errorState
          "A0 response is outside the pairing transaction").error.getD
            (activationError errorState ""))) := by
  simp only [Activation.handleA0, outside, if_true]

theorem handleA0_inside {frame : List UInt8}
    (inside : (!activation.requestSubmitted || activation.phase.pastReadback ||
      decide (frame.length < 5)) = false) :
    activation.handleA0 frame =
      if activation.phase ≠ .e0 then activation.handleReadbackA0 frame
      else activation.handleE0 frame := by
  unfold Activation.handleA0
  rw [inside]
  rfl

/-- What no call changes. -/
def SameMaterial (before after : Activation) : Prop :=
  after.disposition = before.disposition ∧ after.statePolicy = before.statePolicy ∧
    after.preparedState = before.preparedState ∧ after.secureView = before.secureView

/-! ## The E0 phase -/

theorem maybeAdvance_pending (pending : activation.outPending = true) :
    activation.maybeAdvance = (activation, .ok ()) := by
  simp [Activation.maybeAdvance, pending]

theorem maybeAdvance_e0_waiting (phase : activation.phase = .e0)
    (waiting : activation.provisionTerminal ≠ .accepted) :
    activation.maybeAdvance = (activation, .ok ()) := by
  simp [Activation.maybeAdvance, phase, waiting]

theorem maybeAdvance_e0_accepted (phase : activation.phase = .e0)
    (notPending : activation.outPending = false)
    (accepted : activation.provisionTerminal = .accepted) :
    activation.maybeAdvance =
      ({ activation.resetForNextPhase with phase := .readBb010002 }, .ok ()) := by
  simp [Activation.maybeAdvance, phase, notPending, accepted]

theorem maybeAdvance_e0_phase (activation : Activation) (phase : activation.phase = .e0) :
    (activation.maybeAdvance).2 = .ok () ∧ (activation.maybeAdvance).1.phase ≠ .terminal := by
  cases pending : activation.outPending with
  | true => simp [maybeAdvance_pending pending, phase]
  | false =>
    by_cases accepted : activation.provisionTerminal = .accepted
    · simp [maybeAdvance_e0_accepted phase pending accepted]
    · simp [maybeAdvance_e0_waiting phase accepted, phase]

/-- Every way a call can go while the E0 is not finished. -/
inductive E0Case (activation : Activation) (provision : Provision) :
    Activation → List Observed → Prop where
  | idle : E0Case activation provision activation []
  | failed {after : Activation} (terminal : after.phase = .terminal) :
      E0Case activation provision after [.failed]
  | begun (frame : List UInt8)
      (built : buildFrame 0xe0 0xe0 (e0Body provision.bb010002 provision.envelope) = some frame)
      (fresh : provision.begun = false ∧ provision.terminal = .waiting)
      (free : activation.requestSubmitted = false ∧ activation.outPending = false) :
      E0Case activation provision
        { activation with
          provision := some { provision with begun := true }
          requestSubmitted := true
          outPending := true }
        [.request .e0 frame]
  | completed (pending : activation.outPending = true) :
      E0Case activation provision (Activation.maybeAdvance { activation with outPending := false }).1
        [.outComplete .e0]
  | acknowledged (status : UInt8) (accepted : ackStatusAccepted status = true)
      (active : provision.begun = true ∧ provision.terminal = .waiting)
      (first : provision.ackSeen = false) :
      E0Case activation provision
        (Activation.maybeAdvance
          { activation with provision := some { provision with ackSeen := true } }).1
        [.e0Ack status]
  | answered (control code : UInt8) (controls : control = 0xe0 ∨ control = 0xe2)
      (codes : code = 0x02 ∨ code = 0x03)
      (active : provision.begun = true ∧ provision.terminal = .waiting)
      (acknowledged : provision.ackSeen = true) :
      E0Case activation provision
        (Activation.maybeAdvance
          { activation with provision := some { provision with terminal := .accepted } }).1
        [.e0Completion control code]

section E0

variable {provision : Provision}

theorem beginE0_cases (provision : Provision) :
    (∃ after error, provision.beginE0 = (after, .error error)) ∨
    ∃ frame, provision.beginE0 = ({ provision with begun := true }, .ok frame) ∧
      buildFrame 0xe0 0xe0 (e0Body provision.bb010002 provision.envelope) = some frame ∧
      provision.begun = false ∧ provision.terminal = .waiting := by
  unfold Provision.beginE0
  split
  · exact .inl ⟨_, _, rfl⟩
  rename_i fresh
  simp only [Bool.or_eq_true, decide_eq_true_eq, not_or, Bool.not_eq_true, ne_eq, not_not] at fresh
  simp only
  split
  · exact .inl ⟨_, _, rfl⟩
  split
  · exact .inl ⟨_, _, rfl⟩
  rename_i frame built
  exact .inr ⟨frame, rfl, built, fresh.1, fresh.2⟩

theorem provision_handleA0_cases (provision : Provision) (frame : List UInt8) :
    (∃ after error, provision.handleA0 frame = (after, .error error)) ∨
    (∃ message status, parseReceived frame = .ok message ∧
      provision.handleA0 frame = ({ provision with ackSeen := true }, .ok ()) ∧
      observeMessage .e0 message = .e0Ack status ∧ ackStatusAccepted status = true ∧
      (provision.begun = true ∧ provision.terminal = .waiting) ∧ provision.ackSeen = false) ∨
    ∃ message control code, parseReceived frame = .ok message ∧
      provision.handleA0 frame = ({ provision with terminal := .accepted }, .ok ()) ∧
      observeMessage .e0 message = .e0Completion control code ∧
      (control = 0xe0 ∨ control = 0xe2) ∧ (code = 0x02 ∨ code = 0x03) ∧
      (provision.begun = true ∧ provision.terminal = .waiting) ∧ provision.ackSeen = true := by
  unfold Provision.handleA0
  split
  · exact .inl ⟨_, _, rfl⟩
  rename_i inside
  simp only [Bool.or_eq_true, decide_eq_true_eq, not_or, Bool.not_eq_true', Bool.not_eq_false,
    ne_eq, not_not] at inside
  split
  · exact .inl ⟨_, _, rfl⟩
  split
  · exact .inl ⟨_, _, rfl⟩
  rename_i message parsed
  unfold Provision.handleMessage
  split
  · rename_i isAck
    split
    · exact .inl ⟨_, _, rfl⟩
    rename_i checked
    simp only [Bool.or_eq_true, decide_eq_true_eq, Bool.not_eq_true', not_or, Bool.not_eq_true,
      Bool.not_eq_false] at checked
    exact .inr (.inl ⟨message, _, parsed, rfl, by simp [observeMessage, isAck], checked.2, inside,
      checked.1.1.1⟩)
  · rename_i isCompletion
    split
    · exact .inl ⟨_, _, rfl⟩
    rename_i checked
    simp only [Bool.or_eq_true, Bool.and_eq_true, decide_eq_true_eq, Bool.not_eq_true', not_or,
      not_and_or, Bool.not_eq_false, ne_eq, not_not] at checked
    obtain ⟨⟨⟨⟨acknowledged, controls⟩, -⟩, -⟩, codes⟩ := checked
    exact .inr (.inr ⟨message, _, _, parsed, rfl, by simp [observeMessage, isCompletion], controls,
      codes, inside, acknowledged⟩)

theorem nextRequest_e0 (phase : activation.phase = .e0)
    (holds : activation.provision = some provision) :
    activation.nextRequest = (activation, .ok none) ∨
    (∃ after error, activation.nextRequest = (after, .error error) ∧ after.phase = .terminal) ∨
    ∃ frame, activation.nextRequest =
        ({ activation with
            provision := some { provision with begun := true }
            requestSubmitted := true
            outPending := true }, .ok (some frame)) ∧
      buildFrame 0xe0 0xe0 (e0Body provision.bb010002 provision.envelope) = some frame ∧
      (provision.begun = false ∧ provision.terminal = .waiting) ∧
      (activation.requestSubmitted = false ∧ activation.outPending = false) := by
  have running : Phase.pastReadback .e0 = false := rfl
  by_cases busy : activation.requestSubmitted = true ∨ activation.outPending = true
  · left
    rcases busy with submitted | pending
    · simp [Activation.nextRequest, submitted]
    · simp [Activation.nextRequest, pending]
  · simp only [not_or, Bool.not_eq_true] at busy
    right
    rcases beginE0_cases provision with ⟨after, error, refused⟩ | ⟨frame, begun, built, fresh⟩
    · left
      refine ⟨Activation.fail { activation with provision := some after } errorState
        "pairing request construction failed", error, ?_, fail_phase _ _ _⟩
      simp [Activation.nextRequest, running, busy, phase, holds, refused]
    · right
      refine ⟨frame, ?_, built, fresh, busy⟩
      simp [Activation.nextRequest, running, busy, phase, holds, begun]

theorem handleA0_e0 (phase : activation.phase = .e0)
    (holds : activation.provision = some provision) (frame : List UInt8) :
    (∃ after error, activation.handleA0 frame = (after, .error error) ∧
      after.phase = .terminal) ∨
    ∃ message after, parseReceived frame = .ok message ∧
      activation.handleA0 frame = (after, .ok ()) ∧
      E0Case activation provision after [observeMessage .e0 message] := by
  cases outside : !activation.requestSubmitted || activation.phase.pastReadback ||
      decide (frame.length < 5) with
  | true => exact .inl ⟨_, _, handleA0_outside outside, fail_phase _ _ _⟩
  | false =>
    have moves (after : Activation) (afterPhase : after.phase = .e0) :
        after.maybeAdvance = (after.maybeAdvance.1, .ok ()) := by
      rw [← (maybeAdvance_e0_phase after afterPhase).1]
    have handled : activation.handleA0 frame = activation.handleE0 frame := by
      rw [handleA0_inside outside]
      simp [phase]
    rw [handled]
    rcases provision_handleA0_cases provision frame with
      ⟨after, error, refused⟩ | ⟨message, status, parsed, acked, observed, accepted, active, first⟩ |
        ⟨message, control, code, parsed, answered, observed, controls, codes, active, acknowledged⟩
    · left
      refine ⟨Activation.fail { activation with provision := some after } errorProtocol
        "E0 response failed its qualified contract", error, ?_, fail_phase _ _ _⟩
      simp only [Activation.handleE0, holds, refused]
    · have moved :=
        moves { activation with provision := some { provision with ackSeen := true } } phase
      right
      refine ⟨message, (Activation.maybeAdvance
        { activation with provision := some { provision with ackSeen := true } }).1, parsed, ?_, ?_⟩
      · simp only [Activation.handleE0, holds, acked]
        exact moved
      · rw [observed]
        exact .acknowledged status accepted active first
    · have moved :=
        moves { activation with provision := some { provision with terminal := .accepted } } phase
      right
      refine ⟨message, (Activation.maybeAdvance
        { activation with provision := some { provision with terminal := .accepted } }).1, parsed,
        ?_, ?_⟩
      · simp only [Activation.handleE0, holds, answered]
        exact moved
      · rw [observed]
        exact .answered control code controls codes active acknowledged

theorem step_mark_early (notTls : activation.phase ≠ .tls) {fault : Option Fault} :
    step crypto ⟨activation, path⟩ (.markTlsAndPromote fault) =
      (⟨activation.fail errorState "pairing state is not awaiting TLS proof", path⟩,
        [.failed]) := by
  simp [step, Activation.markTlsAndPromote, Activation.markFailed, notTls]

/-- The calls of an activation that still waits for its E0. -/
theorem step_e0 (crypto : Primitives) (path : PathEntry) (phase : activation.phase = .e0)
    (holds : activation.provision = some provision) (event : Event) :
    E0Case activation provision (step crypto ⟨activation, path⟩ event).1.activation
        (step crypto ⟨activation, path⟩ event).2 ∧
      (step crypto ⟨activation, path⟩ event).1.path = path := by
  have running : activation.phase.pastReadback = false := by rw [phase]; rfl
  have notTls : activation.phase ≠ .tls := by rw [phase]; decide
  cases event with
  | nextRequest =>
    refine ⟨?_, rfl⟩
    rcases nextRequest_e0 phase holds with idle | ⟨after, error, failed, terminal⟩ |
      ⟨frame, sent, built, fresh, free⟩
    · simp only [step, idle]
      exact .idle
    · simp only [step, failed]
      exact .failed terminal
    · have observed : [Observed.request activation.phase frame] = [.request .e0 frame] := by
        rw [phase]
      simp only [step, sent]
      rw [observed]
      exact .begun frame built fresh free
  | outComplete error =>
    refine ⟨?_, rfl⟩
    cases pending : activation.outPending with
    | false =>
      simp only [step, Activation.outComplete, pending]
      exact .idle
    | true =>
      cases error with
      | some error =>
        have failed : activation.outComplete (some error) =
            Activation.fail { activation with outPending := false } errorProtocol
              "pairing USB OUT failed; do not retry E0" := by
          simp [Activation.outComplete, pending, running]
        simp [step, failed, pending, running]
        exact .failed (fail_phase _ _ _)
      | none =>
        have moved : activation.outComplete none =
            (Activation.maybeAdvance { activation with outPending := false }).1 := by
          simp [Activation.outComplete, pending, running]
        have alive : (activation.outComplete none).phase ≠ .terminal := by
          rw [moved]
          exact (maybeAdvance_e0_phase { activation with outPending := false } phase).2
        have observed : [Observed.outComplete activation.phase] = [.outComplete .e0] := by
          rw [phase]
        simp only [step, pending, running, Bool.not_true, Bool.or_self, Bool.false_eq_true,
          if_false, alive]
        rw [moved, observed]
        exact .completed pending
  | handleA0 frame =>
    refine ⟨?_, rfl⟩
    rcases handleA0_e0 phase holds frame with ⟨after, error, failed, terminal⟩ |
      ⟨message, after, parsed, handled, moved⟩
    · simp only [step, failed]
      exact .failed terminal
    · simp only [step, handled, parsed]
      rw [phase]
      exact moved
  | getSecureView =>
    refine ⟨?_, rfl⟩
    simp only [step, Activation.getSecureView, ne_eq, notTls, not_false_eq_true, if_true]
    exact .failed (fail_phase _ _ _)
  | markTlsAndPromote fault =>
    rw [step_mark_early notTls]
    exact ⟨.failed (fail_phase _ _ _), rfl⟩

end E0

/-! ## The readback phases -/

/-- The phases between the E0 and TLS. -/
def Phase.readsBack (phase : Phase) : Prop := phase = .readBb010002 ∨ phase = .readValidator

/-- What `maybe_advance` makes of an activation in a readback phase when it does not fail. -/
inductive ReadbackAdvance (before : Activation) : Activation → Prop where
  | stays : ReadbackAdvance before before
  | next (phase : before.phase = .readBb010002) (done : before.logicalDone = true) :
      ReadbackAdvance before { before.resetForNextPhase with phase := .readValidator }
  | proven (provision : Provision) (phase : before.phase = .readValidator)
      (done : before.logicalDone = true) (holds : before.provision = some provision)
      (accepted : provision.terminal = .accepted)
      (bb010002 : before.readbackBb010002 = provision.bb010002)
      (validator : before.readbackValidator = provision.validator) :
      ReadbackAdvance before
        { before.resetForNextPhase with
          provision := some { provision with readbackProven := true }
          phase := .tls }

theorem checkReadback_cases (provision : Provision) (bb010002 : Block Bb010002.length)
    (validator : Validator) :
    (∃ after error, provision.checkReadback bb010002 validator = (after, .error error)) ∨
    (provision.checkReadback bb010002 validator =
        ({ provision with readbackProven := true }, .ok ()) ∧
      provision.terminal = .accepted ∧ bb010002 = provision.bb010002 ∧
      validator = provision.validator) := by
  unfold Provision.checkReadback
  split
  · exact .inl ⟨_, _, rfl⟩
  rename_i active
  split
  · exact .inl ⟨_, _, rfl⟩
  rename_i sameBb
  split
  · exact .inl ⟨_, _, rfl⟩
  rename_i sameValidator
  simp only [Bool.or_eq_true, decide_eq_true_eq, not_or, ne_eq, not_not] at active
  exact .inr ⟨rfl, active.1, not_not.mp sameBb, not_not.mp sameValidator⟩

theorem maybeAdvance_readback (activation : Activation) (reads : activation.phase.readsBack) :
    (∃ after, activation.maybeAdvance = (after, .ok ()) ∧ ReadbackAdvance activation after) ∨
    ∃ after error, activation.maybeAdvance = (after, .error error) ∧ after.phase = .terminal := by
  have notE0 : activation.phase ≠ .e0 := by
    rcases reads with phase | phase <;> rw [phase] <;> decide
  unfold Activation.maybeAdvance
  simp only [notE0, if_false]
  split
  · exact .inl ⟨_, rfl, .stays⟩
  split
  · exact .inl ⟨_, rfl, .stays⟩
  rename_i notPending done
  simp only [Bool.not_eq_true', Bool.not_eq_false] at done
  split
  · rename_i phase
    exact .inl ⟨_, rfl, .next phase done⟩
  rename_i notFirst
  have phase : activation.phase = .readValidator := reads.resolve_left notFirst
  unfold Activation.finishReadback
  split
  · exact .inr ⟨_, _, rfl, fail_phase _ _ _⟩
  rename_i provision holds
  rcases checkReadback_cases provision activation.readbackBb010002 activation.readbackValidator with
    ⟨after, error, refused⟩ | ⟨proven, accepted, bb010002, validator⟩
  · rw [refused]
    exact .inr ⟨_, _, rfl, fail_phase _ _ _⟩
  · rw [proven]
    exact .inl ⟨_, rfl, .proven provision phase done holds accepted bb010002 validator⟩

/-- Every way a call can go while the blocks are read back. -/
inductive ReadbackCase (activation : Activation) : Activation → List Observed → Prop where
  | idle : ReadbackCase activation activation []
  | failed {after : Activation} (terminal : after.phase = .terminal) :
      ReadbackCase activation after [.failed]
  | requested (frame : List UInt8) :
      ReadbackCase activation
        { activation with requestSubmitted := true, outPending := true }
        [.request activation.phase frame]
  | completed {after : Activation}
      (advanced : ReadbackAdvance { activation with outPending := false } after) :
      ReadbackCase activation after [.outComplete activation.phase]
  | acknowledged (status : UInt8) :
      ReadbackCase activation { activation with ackSeen := true }
        [.readbackAck activation.phase status]
  | answeredBb010002 {after : Activation} (readbackBb010002 : Block Bb010002.length)
      (phase : activation.phase = .readBb010002)
      (advanced : ReadbackAdvance { activation with readbackBb010002, logicalDone := true } after) :
      ReadbackCase activation after [.readback .readBb010002 readbackBb010002.val]
  | answeredValidator {after : Activation} (readbackValidator : Validator)
      (phase : activation.phase = .readValidator)
      (advanced : ReadbackAdvance { activation with readbackValidator, logicalDone := true } after) :
      ReadbackCase activation after [.readback .readValidator readbackValidator.val]

theorem e4Block_drop {type : UInt32} {length : Nat} {body : List UInt8} {block : Block length}
    (found : e4Block type length body = some block) : body.drop 9 = block.val := by
  unfold e4Block at found
  split at found
  · cases found
  · exact (Block.ofList?_eq_some found).symm

theorem handleReadback_case (reads : activation.phase.readsBack) (message : A0Message) :
    (∃ after error, activation.handleReadback message = (after, .error error) ∧
      after.phase = .terminal) ∨
    ∃ after, activation.handleReadback message = (after, .ok ()) ∧
      ReadbackCase activation after [observeMessage activation.phase message] := by
  have notE0 : activation.phase ≠ .e0 := by
    rcases reads with phase | phase <;> rw [phase] <;> decide
  have invalid : ∃ after error, activation.invalid = (after, .error error) ∧
      after.phase = .terminal := ⟨_, _, rfl, fail_phase _ _ _⟩
  unfold Activation.handleReadback
  split
  · rename_i isAck
    split
    · exact .inl invalid
    · right
      refine ⟨_, rfl, ?_⟩
      simp only [observeMessage, notE0, if_false, isAck, if_true]
      exact .acknowledged _
  rename_i isTyped
  split
  · exact .inl invalid
  split
  · rename_i phase
    split
    · exact .inl invalid
    rename_i readback found
    have observed : observeMessage activation.phase message =
        .readback .readBb010002 readback.val := by
      simp only [observeMessage, notE0, if_false, isTyped]
      rw [phase, e4Block_drop found]
    rcases maybeAdvance_readback
        { activation with readbackBb010002 := readback, logicalDone := true } reads with
      ⟨after, moved, advanced⟩ | ⟨after, error, failed, terminal⟩
    · right
      refine ⟨after, moved, ?_⟩
      rw [observed]
      exact .answeredBb010002 readback phase advanced
    · exact .inl ⟨after, error, failed, terminal⟩
  · rename_i notFirst
    have phase : activation.phase = .readValidator := reads.resolve_left notFirst
    split
    · exact .inl invalid
    rename_i readback found
    have observed : observeMessage activation.phase message =
        .readback .readValidator readback.val := by
      simp only [observeMessage, notE0, if_false, isTyped]
      rw [phase, e4Block_drop found]
    rcases maybeAdvance_readback
        { activation with readbackValidator := readback, logicalDone := true } reads with
      ⟨after, moved, advanced⟩ | ⟨after, error, failed, terminal⟩
    · right
      refine ⟨after, moved, ?_⟩
      rw [observed]
      exact .answeredValidator readback phase advanced
    · exact .inl ⟨after, error, failed, terminal⟩

theorem handleA0_readback (reads : activation.phase.readsBack) (frame : List UInt8) :
    (∃ after error, activation.handleA0 frame = (after, .error error) ∧
      after.phase = .terminal) ∨
    ∃ message after, parseReceived frame = .ok message ∧
      activation.handleA0 frame = (after, .ok ()) ∧
      ReadbackCase activation after [observeMessage activation.phase message] := by
  have notE0 : activation.phase ≠ .e0 := by
    rcases reads with phase | phase <;> rw [phase] <;> decide
  cases outside : !activation.requestSubmitted || activation.phase.pastReadback ||
      decide (frame.length < 5) with
  | true => exact .inl ⟨_, _, handleA0_outside outside, fail_phase _ _ _⟩
  | false =>
    rw [handleA0_inside outside, if_pos notE0, Activation.handleReadbackA0]
    cases parsed : parseReceived frame with
    | error error => exact .inl ⟨_, _, rfl, fail_phase _ _ _⟩
    | ok message =>
      rcases handleReadback_case reads message with failed | ⟨after, handled, moved⟩
      · exact .inl failed
      · exact .inr ⟨message, after, rfl, handled, moved⟩

/-- The calls of an activation that reads a block back. -/
theorem step_readback (crypto : Primitives) (path : PathEntry)
    (reads : activation.phase.readsBack) (event : Event) :
    ReadbackCase activation (step crypto ⟨activation, path⟩ event).1.activation
        (step crypto ⟨activation, path⟩ event).2 ∧
      (step crypto ⟨activation, path⟩ event).1.path = path := by
  have notE0 : activation.phase ≠ .e0 := by
    rcases reads with phase | phase <;> rw [phase] <;> decide
  have notTls : activation.phase ≠ .tls := by
    rcases reads with phase | phase <;> rw [phase] <;> decide
  have running : activation.phase.pastReadback = false := by
    rcases reads with phase | phase <;> rw [phase] <;> rfl
  cases event with
  | nextRequest =>
    refine ⟨?_, rfl⟩
    -- one request for each phase: a second call has nothing to send
    by_cases busy : activation.requestSubmitted = true ∨ activation.outPending = true
    · have idle : activation.nextRequest = (activation, .ok none) := by
        rcases busy with submitted | pending
        · simp [Activation.nextRequest, submitted]
        · simp [Activation.nextRequest, pending]
      simp only [step, idle]
      exact .idle
    · simp only [not_or, Bool.not_eq_true] at busy
      cases built : readbackRequest activation.phase with
      | none =>
        have failed : activation.nextRequest =
            (activation.fail errorState "pairing request construction failed",
              .error (a0Error 0 "A0 body is absent or too large")) := by
          simp [Activation.nextRequest, running, busy, notE0, built]
        simp only [step, failed]
        exact .failed (fail_phase _ _ _)
      | some frame =>
        have sent : activation.nextRequest =
            ({ activation with requestSubmitted := true, outPending := true },
              .ok (some frame)) := by
          simp [Activation.nextRequest, running, busy, notE0, built]
        simp only [step, sent]
        exact .requested frame
  | outComplete error =>
    refine ⟨?_, rfl⟩
    cases pending : activation.outPending with
    | false =>
      simp only [step, Activation.outComplete, pending]
      exact .idle
    | true =>
      simp only [step, pending, running, Bool.not_true, Bool.or_self, Bool.false_eq_true,
        if_false]
      cases error with
      | some error =>
        have failed : activation.outComplete (some error) =
            Activation.fail { activation with outPending := false } errorProtocol
              "pairing USB OUT failed; do not retry E0" := by
          simp [Activation.outComplete, pending, running]
        rw [failed, if_pos (fail_phase _ _ _)]
        exact .failed (fail_phase _ _ _)
      | none =>
        have moved : activation.outComplete none =
            (Activation.maybeAdvance { activation with outPending := false }).1 := by
          simp [Activation.outComplete, pending, running]
        rw [moved]
        rcases maybeAdvance_readback { activation with outPending := false } reads with
          ⟨after, advance, advanced⟩ | ⟨after, error, failed, terminal⟩
        · rw [advance]
          split
          · rename_i terminal
            exact .failed terminal
          · exact .completed advanced
        · rw [failed, if_pos terminal]
          exact .failed terminal
  | handleA0 frame =>
    refine ⟨?_, rfl⟩
    rcases handleA0_readback reads frame with ⟨after, error, failed, terminal⟩ |
      ⟨message, after, parsed, handled, moved⟩
    · simp only [step, failed]
      exact .failed terminal
    · simp only [step, handled, parsed]
      exact moved
  | getSecureView =>
    refine ⟨?_, rfl⟩
    simp only [step, Activation.getSecureView, ne_eq, notTls, not_false_eq_true, if_true]
    exact .failed (fail_phase _ _ _)
  | markTlsAndPromote fault =>
    rw [step_mark_early notTls]
    exact ⟨.failed (fail_phase _ _ _), rfl⟩

/-! ## After the proofs -/

theorem markProvision_same (activation : Activation) :
    SameMaterial activation activation.markProvision.1 ∧
      activation.markProvision.1.phase = activation.phase ∧
      activation.markProvision.1.readbackBb010002 = activation.readbackBb010002 ∧
      activation.markProvision.1.readbackValidator = activation.readbackValidator := by
  unfold Activation.markProvision
  split <;> exact ⟨⟨rfl, rfl, rfl, rfl⟩, rfl, rfl, rfl⟩

/-- Every way a call can go once the material is proven or the promotion is done. -/
inductive LateCase (crypto : Primitives) (activation : Activation) (path : PathEntry) :
    System → List Observed → Prop where
  | idle : LateCase crypto activation path ⟨activation, path⟩ []
  | failed {after : Activation} (terminal : after.phase = .terminal) :
      LateCase crypto activation path ⟨after, path⟩ [.failed]
  | viewed (phase : activation.phase = .tls) :
      LateCase crypto activation path ⟨activation, path⟩ [.secureView activation.secureView]
  | reused {after : Activation} (phase : activation.phase = .tls)
      (reuse : activation.disposition = .reuseActiveTls) (same : SameMaterial activation after)
      (complete : after.phase = .complete)
      (readbacks : after.readbackBb010002 = activation.readbackBb010002 ∧
        after.readbackValidator = activation.readbackValidator) :
      LateCase crypto activation path ⟨after, path⟩ []
  | promoted {after : Activation} (fault : Option Fault) (phase : activation.phase = .tls)
      (promotes : activation.disposition ≠ .reuseActiveTls) (same : SameMaterial activation after)
      (complete : after.phase = .complete)
      (readbacks : after.readbackBb010002 = activation.readbackBb010002 ∧
        after.readbackValidator = activation.readbackValidator)
      (succeeded : (promoteActive crypto activation.statePolicy fault path
        activation.preparedState).1 = .ok ()) :
      LateCase crypto activation path
        ⟨after, (promoteActive crypto activation.statePolicy fault path
          activation.preparedState).2⟩
        [.promotion .tls activation.disposition (.ok ())]
  | promotionFailed {after : Activation} (fault : Option Fault) (error : GError)
      (phase : activation.phase = .tls) (promotes : activation.disposition ≠ .reuseActiveTls)
      (terminal : after.phase = .terminal) :
      LateCase crypto activation path
        ⟨after, (promoteActive crypto activation.statePolicy fault path
          activation.preparedState).2⟩
        [.promotion .tls activation.disposition (.error error), .failed]

/-- The four ways in which a promotion asked for in the TLS phase can end. -/
theorem markTlsAndPromote_cases (crypto : Primitives) (path : PathEntry)
    (phase : activation.phase = .tls) (fault : Option Fault) :
    (∃ after error, after.phase = .terminal ∧
      activation.markTlsAndPromote crypto fault path = ⟨after, path, none, .error error⟩) ∨
    ∃ after, SameMaterial activation after ∧
      (after.readbackBb010002 = activation.readbackBb010002 ∧
        after.readbackValidator = activation.readbackValidator) ∧
      ((activation.disposition = .reuseActiveTls ∧ after.phase = .complete ∧
          activation.markTlsAndPromote crypto fault path = ⟨after, path, none, .ok ()⟩) ∨
        activation.disposition ≠ .reuseActiveTls ∧
        ((after.phase = .complete ∧
            (promoteActive crypto activation.statePolicy fault path
              activation.preparedState).1 = .ok () ∧
            activation.markTlsAndPromote crypto fault path =
              ⟨after, (promoteActive crypto activation.statePolicy fault path
                activation.preparedState).2, some (.ok ()), .ok ()⟩) ∨
          ∃ failed error, failed.phase = .terminal ∧
            activation.markTlsAndPromote crypto fault path =
              ⟨failed, (promoteActive crypto activation.statePolicy fault path
                activation.preparedState).2, some (.error error), .error error⟩)) := by
  obtain ⟨same, -, readbacks⟩ := markProvision_same activation
  obtain ⟨disposition, statePolicy, preparedState, secureView⟩ := same
  unfold Activation.markTlsAndPromote
  rw [if_neg (not_not.mpr phase)]
  generalize activation.markProvision = proven at *
  obtain ⟨marked, result⟩ := proven
  replace disposition : marked.disposition = activation.disposition := disposition
  replace statePolicy : marked.statePolicy = activation.statePolicy := statePolicy
  replace preparedState : marked.preparedState = activation.preparedState := preparedState
  cases result with
  | error error => exact .inl ⟨_, _, fail_phase _ _ _, rfl⟩
  | ok _ =>
    right
    refine ⟨{ marked with phase := .complete },
      ⟨disposition, statePolicy, preparedState, secureView⟩, readbacks, ?_⟩
    by_cases reuse : activation.disposition = .reuseActiveTls
    · refine .inl ⟨reuse, rfl, ?_⟩
      simp only [disposition, if_pos reuse]
    · right
      refine ⟨reuse, ?_⟩
      simp only [disposition, statePolicy, preparedState, if_neg reuse]
      generalize promoteActive crypto activation.statePolicy fault path
        activation.preparedState = written
      obtain ⟨outcome, after⟩ := written
      cases outcome with
      | error error => exact .inr ⟨_, error, fail_phase _ _ _, rfl⟩
      | ok _ => exact .inl ⟨trivial, rfl, rfl⟩

theorem step_mark_tls (phase : activation.phase = .tls) (fault : Option Fault) :
    LateCase crypto activation path (step crypto ⟨activation, path⟩ (.markTlsAndPromote fault)).1
      (step crypto ⟨activation, path⟩ (.markTlsAndPromote fault)).2 := by
  rcases markTlsAndPromote_cases crypto path phase fault with
    ⟨after, error, terminal, outcome⟩ | ⟨after, same, readbacks, ⟨reuse, complete, outcome⟩ |
      ⟨promotes, ⟨complete, succeeded, outcome⟩ | ⟨failed, error, terminal, outcome⟩⟩⟩
  · simp only [step, outcome, List.nil_append]
    exact .failed terminal
  · simp only [step, outcome, List.nil_append]
    exact .reused phase reuse same complete readbacks
  · simp only [step, outcome, List.append_nil]
    rw [phase]
    exact .promoted fault phase promotes same complete readbacks succeeded
  · simp only [step, outcome]
    rw [phase]
    exact .promotionFailed fault error phase promotes terminal

theorem step_late (late : activation.phase = .tls ∨ activation.phase = .complete)
    (event : Event) :
    LateCase crypto activation path (step crypto ⟨activation, path⟩ event).1
      (step crypto ⟨activation, path⟩ event).2 := by
  have past : activation.phase.pastReadback = true := by
    rcases late with phase | phase <;> rw [phase] <;> rfl
  cases event with
  | nextRequest =>
    simp only [step, Activation.nextRequest, past, Bool.true_or, if_true]
    exact .idle
  | outComplete error =>
    simp only [step, Activation.outComplete, past, Bool.or_true, if_true]
    exact .idle
  | handleA0 frame =>
    have outside : (!activation.requestSubmitted || activation.phase.pastReadback ||
        decide (frame.length < 5)) = true := by simp [past]
    simp only [step, handleA0_outside outside]
    exact .failed (fail_phase _ _ _)
  | getSecureView =>
    rcases late with phase | phase
    · simp only [step, Activation.getSecureView, phase, ne_eq, not_true_eq_false, if_false]
      exact .viewed phase
    · simp only [step, Activation.getSecureView, phase, ne_eq, reduceCtorEq, not_false_eq_true,
        if_true]
      exact .failed (fail_phase _ _ _)
  | markTlsAndPromote fault =>
    rcases late with phase | phase
    · exact step_mark_tls phase fault
    · rw [step_mark_early (by rw [phase]; decide)]
      exact .failed (fail_phase _ _ _)

/-! ## All phases -/

/-- Only an activation that provisions starts in the E0 phase. -/
def Activation.CanProvision (activation : Activation) : Prop :=
  activation.phase = .e0 → ∃ provision, activation.provision = some provision

/-- Every way a call can go, by the phase it finds. -/
inductive StepCase (crypto : Primitives) (activation : Activation) (path : PathEntry) :
    System → List Observed → Prop where
  | e0 {after : Activation} {observed : List Observed} (provision : Provision)
      (phase : activation.phase = .e0) (holds : activation.provision = some provision)
      (move : E0Case activation provision after observed) :
      StepCase crypto activation path ⟨after, path⟩ observed
  | readback {after : Activation} {observed : List Observed} (reads : activation.phase.readsBack)
      (move : ReadbackCase activation after observed) :
      StepCase crypto activation path ⟨after, path⟩ observed
  | late {after : System} {observed : List Observed}
      (phase : activation.phase = .tls ∨ activation.phase = .complete)
      (move : LateCase crypto activation path after observed) :
      StepCase crypto activation path after observed
  | terminal {observed : List Observed} (phase : activation.phase = .terminal)
      (quiet : observed = [] ∨ observed = [.failed]) :
      StepCase crypto activation path ⟨activation, path⟩ observed

theorem step_case (crypto : Primitives) (path : PathEntry)
    (canProvision : activation.CanProvision) (event : Event) :
    StepCase crypto activation path (step crypto ⟨activation, path⟩ event).1
      (step crypto ⟨activation, path⟩ event).2 := by
  have whole {after : System} (samePath : after.path = path) :
      after = ⟨after.activation, path⟩ := by
    rw [← samePath]
  cases phase : activation.phase with
  | e0 =>
    obtain ⟨provision, holds⟩ := canProvision phase
    obtain ⟨move, samePath⟩ := step_e0 crypto path phase holds event
    rw [whole samePath]
    exact .e0 provision phase holds move
  | readBb010002 =>
    obtain ⟨move, samePath⟩ := step_readback crypto path (.inl phase) event
    rw [whole samePath]
    exact .readback (.inl phase) move
  | readValidator =>
    obtain ⟨move, samePath⟩ := step_readback crypto path (.inr phase) event
    rw [whole samePath]
    exact .readback (.inr phase) move
  | tls => exact .late (.inl phase) (step_late (.inl phase) event)
  | complete => exact .late (.inr phase) (step_late (.inr phase) event)
  | terminal =>
    obtain ⟨same, quiet⟩ := step_terminal crypto path phase event
    rw [same]
    exact .terminal phase quiet

/-! ## What no call changes -/

theorem SameMaterial.refl (activation : Activation) : SameMaterial activation activation :=
  ⟨rfl, rfl, rfl, rfl⟩

theorem SameMaterial.trans {first second third : Activation} (left : SameMaterial first second)
    (right : SameMaterial second third) : SameMaterial first third :=
  ⟨right.1.trans left.1, right.2.1.trans left.2.1, right.2.2.1.trans left.2.2.1,
    right.2.2.2.trans left.2.2.2⟩

theorem fail_same (activation : Activation) (code : Nat) (message : String) :
    SameMaterial activation (activation.fail code message) := by
  unfold Activation.fail
  split <;> exact ⟨rfl, rfl, rfl, rfl⟩

theorem nextRequest_same (activation : Activation) :
    SameMaterial activation activation.nextRequest.1 := by
  unfold Activation.nextRequest
  simp only
  split
  · exact .refl activation
  split
  · split
    · exact fail_same _ _ _
    · split
      · exact fail_same _ _ _
      · exact ⟨rfl, rfl, rfl, rfl⟩
  · split
    · exact fail_same _ _ _
    · exact ⟨rfl, rfl, rfl, rfl⟩

theorem maybeAdvance_same (activation : Activation) :
    SameMaterial activation activation.maybeAdvance.1 := by
  unfold Activation.maybeAdvance
  split
  · exact .refl activation
  split
  · split
    · exact .refl activation
    · exact ⟨rfl, rfl, rfl, rfl⟩
  split
  · exact .refl activation
  split
  · exact ⟨rfl, rfl, rfl, rfl⟩
  unfold Activation.finishReadback
  split
  · exact fail_same _ _ _
  · split
    · exact fail_same _ _ _
    · exact ⟨rfl, rfl, rfl, rfl⟩

theorem outComplete_same (activation : Activation) (error : Option GError) :
    SameMaterial activation (activation.outComplete error) := by
  unfold Activation.outComplete
  split
  · exact .refl activation
  · cases error with
    | some error => exact fail_same { activation with outPending := false } _ _
    | none => exact maybeAdvance_same { activation with outPending := false }

theorem handleReadback_same (activation : Activation) (message : A0Message) :
    SameMaterial activation (activation.handleReadback message).1 := by
  unfold Activation.handleReadback
  split
  · split
    · exact fail_same _ _ _
    · exact ⟨rfl, rfl, rfl, rfl⟩
  split
  · exact fail_same _ _ _
  split
  · split
    · exact fail_same _ _ _
    · rename_i readback found
      exact maybeAdvance_same
        { activation with readbackBb010002 := readback, logicalDone := true }
  · split
    · exact fail_same _ _ _
    · rename_i readback found
      exact maybeAdvance_same
        { activation with readbackValidator := readback, logicalDone := true }

theorem handleA0_same (activation : Activation) (frame : List UInt8) :
    SameMaterial activation (activation.handleA0 frame).1 := by
  unfold Activation.handleA0
  split
  · exact fail_same _ _ _
  split
  · unfold Activation.handleReadbackA0
    split
    · exact fail_same _ _ _
    · exact handleReadback_same _ _
  · unfold Activation.handleE0
    split
    · exact fail_same _ _ _
    · split
      · rename_i after error handled
        exact fail_same { activation with provision := some after } _ _
      · rename_i after handled
        exact maybeAdvance_same { activation with provision := some after }

theorem markTlsAndPromote_same (activation : Activation) (crypto : Primitives)
    (fault : Option Fault) (path : PathEntry) :
    SameMaterial activation (activation.markTlsAndPromote crypto fault path).activation := by
  have proven := (markProvision_same activation).1
  unfold Activation.markTlsAndPromote
  split
  · exact fail_same _ _ _
  split
  · rename_i marked error result
    rw [result] at proven
    exact proven.trans (fail_same _ _ _)
  · rename_i marked result
    rw [result] at proven
    split
    · exact proven
    · split
      · exact proven.trans (fail_same _ _ _)
      · exact proven

/-- The frame lemma of the machine: disposition, policy, stored state and secure view are those of
the construction for ever. -/
theorem step_same (crypto : Primitives) (system : System) (event : Event) :
    SameMaterial system.activation (step crypto system event).1.activation := by
  cases event with
  | nextRequest => exact nextRequest_same _
  | outComplete error => exact outComplete_same _ _
  | handleA0 frame => exact handleA0_same _ _
  | getSecureView =>
    simp only [step, Activation.getSecureView]
    split
    · exact fail_same _ _ _
    · exact .refl _
  | markTlsAndPromote fault => exact markTlsAndPromote_same _ _ _ _

end Goodix.Pairing
