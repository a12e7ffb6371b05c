import Goodix.LivePreflight.Machine

/-! # The grammar of the live preflight

The accepted events of every run follow one grammar: seven exchanges in a fixed
order, each a command, its OUT completion, an ACK and after it a typed response.
The preflight is at STOP exactly when the grammar has been completed, and the
evidence it then hands out satisfies every check made on evidence later.
-/

namespace Goodix.LivePreflight

open Octets A0Protocol SelfState Machines

/-! ## What one step can do -/

/-- Every way a step can go while the preflight is running. -/
inductive StepCase (before : Preflight) : Preflight → List Accepted → Prop where
  | idle : StepCase before before []
  | failed {after : Preflight} (terminal : after.phase = .terminal) : StepCase before after []
  | submitted (frame : List UInt8)
      (built : buildFrame (phaseControl before.phase) (phaseControl before.phase)
        (requestBody before.phase) = some frame)
      (notSubmitted : before.requestSubmitted = false) (notPending : before.outPending = false) :
      StepCase before { before with requestSubmitted := true, outPending := true }
        [.command frame]
  | completed (pending : before.outPending = true) :
      StepCase before (Preflight.maybeAdvance { before with outPending := false }) [.outComplete]
  | acknowledged (status : UInt8) (accepted : ackStatusAccepted status = true)
      (requested : before.requestSubmitted = true) (open' : before.logicalDone = false)
      (first : before.ackSeen = false) :
      StepCase before { before with ackSeen := true } [.ack (phaseControl before.phase) status]
  | answered (body : List UInt8) (evidence : Evidence)
      (accepted : acceptTyped before.phase before.evidence body = some evidence)
      (requested : before.requestSubmitted = true) (open' : before.logicalDone = false)
      (acknowledged : before.ackSeen = true) :
      StepCase before (Preflight.maybeAdvance { before with evidence, logicalDone := true })
        [.typed (phaseControl before.phase) body]

variable {preflight : Preflight}

theorem fail_phase (preflight : Preflight) (code : Nat) (message : String) :
    (preflight.fail code message).phase = .terminal := by
  unfold Preflight.fail
  split
  · assumption
  · rfl

theorem ended_of_phase (running : preflight.phase.ended = false) :
    preflight.phase ≠ .terminal ∧ preflight.phase ≠ .stop := by
  constructor <;> intro phase <;> simp [phase, Phase.ended] at running

theorem nextRequest_case (running : preflight.phase.ended = false) :
    StepCase preflight (step preflight .nextRequest).1 (step preflight .nextRequest).2 := by
  obtain ⟨notTerminal, notStopped⟩ := ended_of_phase running
  by_cases busy : preflight.requestSubmitted = true ∨ preflight.outPending = true
  · have idle : preflight.nextRequest = (preflight, .ok none) := by
      rcases busy with submitted | pending
      · simp [Preflight.nextRequest, notTerminal, submitted]
      · simp [Preflight.nextRequest, notTerminal, pending]
    simp only [step, idle]
    exact .idle
  · simp only [not_or, Bool.not_eq_true] at busy
    cases built : buildFrame (phaseControl preflight.phase) (phaseControl preflight.phase)
        (requestBody preflight.phase) with
    | none =>
      simp only [step, Preflight.nextRequest, notTerminal, notStopped, busy, built]
      exact .failed (fail_phase _ _ _)
    | some frame =>
      simp only [step, Preflight.nextRequest, notTerminal, notStopped, busy, built]
      exact .submitted frame built busy.1 busy.2

theorem outComplete_case (running : preflight.phase.ended = false) (error : Option GError) :
    StepCase preflight (step preflight (.outComplete error)).1
      (step preflight (.outComplete error)).2 := by
  cases pending : preflight.outPending with
  | false =>
    simp only [step, Preflight.outComplete, running, pending]
    exact .idle
  | true =>
    cases error with
    | some error =>
      simp only [step, Preflight.outComplete, running, pending]
      exact .failed (fail_phase _ _ _)
    | none =>
      simp only [step, Preflight.outComplete, running, pending]
      exact .completed pending

/-- A message either ends the preflight or is the ACK or the typed response of the phase. -/
theorem handleMessage_case (requested : preflight.requestSubmitted = true)
    (open' : preflight.logicalDone = false) (message : A0Message) :
    (∃ after error, preflight.handleMessage message = (after, .error error) ∧
      after.phase = .terminal) ∨
    ∃ after, preflight.handleMessage message = (after, .ok ()) ∧
      StepCase preflight after [acceptedMessage message] := by
  have invalid : ∃ after error, preflight.invalid = (after, .error error) ∧
      after.phase = .terminal := ⟨_, _, rfl, fail_phase _ _ _⟩
  unfold Preflight.handleMessage
  simp only
  split
  · rename_i isAck
    split
    · exact .inl invalid
    · rename_i checked
      right
      simp only [Bool.or_eq_true, decide_eq_true_eq, Bool.not_eq_true', not_or, Bool.not_eq_true,
        Bool.not_eq_false, ne_eq, not_not] at checked
      obtain ⟨⟨⟨first, -⟩, echo⟩, status⟩ := checked
      refine ⟨_, rfl, ?_⟩
      rw [acceptedMessage, if_pos isAck, echo]
      exact .acknowledged _ status requested open' first
  · rename_i isTyped
    split
    · exact .inl invalid
    · rename_i checked
      simp only [Bool.or_eq_true, decide_eq_true_eq, Bool.not_eq_true', not_or, Bool.not_eq_false,
        ne_eq, not_not] at checked
      obtain ⟨acknowledged, control⟩ := checked
      split
      · exact .inl invalid
      · rename_i evidence accepted
        right
        refine ⟨_, rfl, ?_⟩
        rw [acceptedMessage, if_neg isTyped, control]
        exact .answered _ evidence accepted requested open' acknowledged

theorem handleA0_case (frame : List UInt8) :
    StepCase preflight (step preflight (.handleA0 frame)).1 (step preflight (.handleA0 frame)).2 := by
  cases parsed : parseReceived frame with
  | error error =>
    have failed : ∃ after error, preflight.handleA0 frame = (after, .error error) ∧
        after.phase = .terminal := by
      unfold Preflight.handleA0
      split
      · exact ⟨_, _, rfl, fail_phase _ _ _⟩
      · rw [parsed]
        exact ⟨_, _, rfl, fail_phase _ _ _⟩
    obtain ⟨after, refusal, handled, terminal⟩ := failed
    simp only [step, handled]
    exact .failed terminal
  | ok message =>
    by_cases outside : (preflight.phase.ended || !preflight.requestSubmitted ||
        preflight.logicalDone || decide (frame.length < 5)) = true
    · have handled : ∃ after error, preflight.handleA0 frame = (after, .error error) ∧
          after.phase = .terminal := by
        unfold Preflight.handleA0
        rw [if_pos outside]
        exact ⟨_, _, rfl, fail_phase _ _ _⟩
      obtain ⟨after, refusal, handled, terminal⟩ := handled
      simp only [step, handled]
      exact .failed terminal
    · have handled : preflight.handleA0 frame = preflight.handleMessage message := by
        unfold Preflight.handleA0
        rw [if_neg outside, parsed]
      simp only [Bool.or_eq_true, not_or, Bool.not_eq_true, Bool.not_eq_true',
        Bool.not_eq_false] at outside
      obtain ⟨⟨⟨-, requested⟩, open'⟩, -⟩ := outside
      rcases handleMessage_case requested open' message with
        ⟨after, error, result, terminal⟩ | ⟨after, result, stepCase⟩
      · simp only [step, handled, result]
        exact .failed terminal
      · simp only [step, handled, result, parsed]
        exact stepCase

theorem step_case (running : preflight.phase.ended = false) (event : Event) :
    StepCase preflight (step preflight event).1 (step preflight event).2 := by
  cases event with
  | nextRequest => exact nextRequest_case running
  | outComplete error => exact outComplete_case running error
  | handleA0 frame => exact handleA0_case frame

/-- Once STOP or TERMINAL is reached nothing is accepted and no other phase is entered. -/
theorem step_ended (ended : preflight.phase.ended = true) (event : Event) :
    (step preflight event).2 = [] ∧ ((step preflight event).1 = preflight ∨
      (step preflight event).1.phase = .terminal) := by
  cases event with
  | nextRequest =>
    have idle : (preflight.nextRequest).1 = preflight ∧
        ∀ request, (preflight.nextRequest).2 ≠ .ok (some request) := by
      unfold Preflight.nextRequest
      split
      · simp
      · rename_i notTerminal
        have stopped : preflight.phase = .stop := by
          cases phase : preflight.phase <;> simp [phase, Phase.ended] at ended notTerminal ⊢
        simp [stopped]
    cases requested : preflight.nextRequest with
    | mk after result =>
      rw [requested] at idle
      obtain ⟨rfl, noRequest⟩ := idle
      cases result with
      | error error => simp [step, requested]
      | ok request =>
        cases request with
        | some frame => exact absurd rfl (noRequest frame)
        | none => simp [step, requested]
  | outComplete error =>
    simp [step, Preflight.outComplete, ended]
  | handleA0 frame =>
    have refused : preflight.handleA0 frame =
        (preflight.fail errorState "A0 response is outside the live preflight phase",
          .error ((preflight.fail errorState
            "A0 response is outside the live preflight phase").error.getD
              (preflightError errorState ""))) := by
      simp [Preflight.handleA0, ended]
    simp [step, refused, fail_phase]

/-! ## Exchanges -/

/-- The events of one exchange in one of the three orders an OUT completion allows. -/
def IsExchange (phase : Phase) (body : List UInt8) (events : List Accepted) : Prop :=
  ∃ frame status, buildFrame (phaseControl phase) (phaseControl phase) (requestBody phase) =
      some frame ∧ ackStatusAccepted status = true ∧
    let command := Accepted.command frame
    let ack := Accepted.ack (phaseControl phase) status
    let typed := Accepted.typed (phaseControl phase) body
    (events = [command, .outComplete, ack, typed] ∨ events = [command, ack, .outComplete, typed] ∨
      events = [command, ack, typed, .outComplete])

/-- The exchanges of every phase before `phase`, and the evidence they leave. -/
inductive Exchanges : Phase → List Accepted → Evidence → Prop where
  | start : Exchanges .reentryA2 [] .empty
  | next {phase following : Phase} {log events : List Accepted} {before after : Evidence}
      {body : List UInt8} (earlier : Exchanges phase log before)
      (running : phase.ended = false) (successor : phase.next = following)
      (accepted : acceptTyped phase before body = some after)
      (exchange : IsExchange phase body events) : Exchanges following (log ++ events) after

/-- The part of an exchange that has already happened, in terms of the latches. -/
inductive InFlight (preflight : Preflight) (before : Evidence) : List Accepted → Prop where
  | ready (latches : preflight.requestSubmitted = false ∧ preflight.outPending = false ∧
        preflight.ackSeen = false ∧ preflight.logicalDone = false)
      (evidence : preflight.evidence = before) : InFlight preflight before []
  | sent (frame : List UInt8)
      (built : buildFrame (phaseControl preflight.phase) (phaseControl preflight.phase)
        (requestBody preflight.phase) = some frame)
      (latches : preflight.requestSubmitted = true ∧ preflight.outPending = true ∧
        preflight.ackSeen = false ∧ preflight.logicalDone = false)
      (evidence : preflight.evidence = before) : InFlight preflight before [.command frame]
  | completed (frame : List UInt8)
      (built : buildFrame (phaseControl preflight.phase) (phaseControl preflight.phase)
        (requestBody preflight.phase) = some frame)
      (latches : preflight.requestSubmitted = true ∧ preflight.outPending = false ∧
        preflight.ackSeen = false ∧ preflight.logicalDone = false)
      (evidence : preflight.evidence = before) :
      InFlight preflight before [.command frame, .outComplete]
  | acknowledged (frame : List UInt8) (status : UInt8) (events : List Accepted)
      (built : buildFrame (phaseControl preflight.phase) (phaseControl preflight.phase)
        (requestBody preflight.phase) = some frame)
      (accepted : ackStatusAccepted status = true)
      (latches : preflight.requestSubmitted = true ∧ preflight.ackSeen = true ∧
        preflight.logicalDone = false)
      (evidence : preflight.evidence = before)
      (order : (preflight.outPending = true ∧
          events = [.command frame, .ack (phaseControl preflight.phase) status]) ∨
        (preflight.outPending = false ∧
          (events = [.command frame, .outComplete, .ack (phaseControl preflight.phase) status] ∨
            events = [.command frame, .ack (phaseControl preflight.phase) status, .outComplete]))) :
      InFlight preflight before events
  | answered (frame : List UInt8) (status : UInt8) (body : List UInt8)
      (built : buildFrame (phaseControl preflight.phase) (phaseControl preflight.phase)
        (requestBody preflight.phase) = some frame)
      (accepted : ackStatusAccepted status = true)
      (latches : preflight.outPending = true ∧ preflight.logicalDone = true)
      (evidence : acceptTyped preflight.phase before body = some preflight.evidence) :
      InFlight preflight before [.command frame, .ack (phaseControl preflight.phase) status,
        .typed (phaseControl preflight.phase) body]

/-- How the log of a run and the state it has reached belong together. -/
inductive Tracks : List Accepted → Preflight → Prop where
  | running {preflight : Preflight} {log done events : List Accepted} {before : Evidence}
      (parts : log = done ++ events) (earlier : Exchanges preflight.phase done before)
      (running : preflight.phase.ended = false) (inFlight : InFlight preflight before events) :
      Tracks log preflight
  | stopped {preflight : Preflight} {log : List Accepted} (phase : preflight.phase = .stop)
      (complete : Exchanges .stop log preflight.evidence) : Tracks log preflight
  | failed {preflight : Preflight} {log : List Accepted} (phase : preflight.phase = .terminal) :
      Tracks log preflight

theorem tracks_new : Tracks [] new :=
  .running rfl .start rfl (.ready ⟨rfl, rfl, rfl, rfl⟩ rfl)

/-- A finished exchange moves to the next phase with every latch released. -/
theorem tracks_advance {log events : List Accepted} {before : Evidence} {body : List UInt8}
    (earlier : Exchanges preflight.phase log before) (running : preflight.phase.ended = false)
    (accepted : acceptTyped preflight.phase before body = some preflight.evidence)
    (exchange : IsExchange preflight.phase body events) (done : preflight.logicalDone = true)
    (notPending : preflight.outPending = false) :
    Tracks (log ++ events) preflight.maybeAdvance := by
  have advanced : preflight.maybeAdvance =
      { preflight with
        phase := preflight.phase.next
        requestSubmitted := false
        ackSeen := false
        logicalDone := false } := by
    simp [Preflight.maybeAdvance, done, notPending, running]
  have exchanges : Exchanges preflight.phase.next (log ++ events) preflight.evidence :=
    .next earlier running rfl accepted exchange
  rw [advanced]
  by_cases stopped : preflight.phase.next = .stop
  · exact .stopped stopped (stopped ▸ exchanges)
  · have following : preflight.phase.next.ended = false := by
      cases phase : preflight.phase <;> simp [phase, Phase.next, Phase.ended] at running stopped ⊢
    exact .running (List.append_nil _).symm exchanges following
      (.ready ⟨rfl, notPending, rfl, rfl⟩ rfl)

/-- Nothing advances while the typed response or the OUT completion is missing. -/
theorem maybeAdvance_waiting (preflight : Preflight)
    (waiting : preflight.logicalDone = false ∨ preflight.outPending = true) :
    preflight.maybeAdvance = preflight := by
  rcases waiting with open' | pending
  · simp [Preflight.maybeAdvance, open']
  · simp [Preflight.maybeAdvance, pending]

/-- The step lemma of the grammar. -/
theorem tracks_step {log : List Accepted} (tracks : Tracks log preflight) (event : Event) :
    Tracks (log ++ (step preflight event).2) (step preflight event).1 := by
  cases tracks with
  | stopped phase complete =>
    have ended : preflight.phase.ended = true := by rw [phase]; rfl
    obtain ⟨nothing, same | terminal⟩ := step_ended ended event
    · rw [nothing, same, List.append_nil]
      exact .stopped phase complete
    · exact .failed terminal
  | failed phase =>
    have ended : preflight.phase.ended = true := by rw [phase]; rfl
    obtain ⟨nothing, same | terminal⟩ := step_ended ended event
    · rw [nothing, same]
      exact .failed phase
    · exact .failed terminal
  | running parts earlier running inFlight =>
    subst parts
    have move := step_case running event
    revert move
    generalize (step preflight event).1 = after
    generalize (step preflight event).2 = out
    intro move
    -- most moves fit one state of the exchange in flight; the latches rule the others out
    cases move with
    | idle =>
      rw [List.append_nil]
      exact .running rfl earlier running inFlight
    | failed terminal => exact .failed terminal
    | submitted frame built notSubmitted notPending =>
      cases inFlight with
      | ready latches evidence =>
        exact .running (by simp) earlier running (.sent frame built ⟨rfl, rfl, latches.2.2⟩ evidence)
      | sent frame built latches evidence => simp [latches.1] at notSubmitted
      | completed frame built latches evidence => simp [latches.1] at notSubmitted
      | acknowledged frame status events built accepted latches evidence order =>
        simp [latches.1] at notSubmitted
      | answered frame status body built accepted latches evidence =>
        simp [latches.1] at notPending
    | completed pending =>
      cases inFlight with
      | ready latches evidence => simp [latches.2.1] at pending
      | sent frame built latches evidence =>
        rw [maybeAdvance_waiting { preflight with outPending := false } (.inl latches.2.2.2)]
        exact .running (List.append_assoc _ _ _) earlier running
          (.completed frame built ⟨latches.1, rfl, latches.2.2⟩ evidence)
      | completed frame built latches evidence => simp [latches.2.1] at pending
      | acknowledged frame status events built accepted latches evidence order =>
        rcases order with ⟨-, rfl⟩ | ⟨notPending, -⟩
        · rw [maybeAdvance_waiting { preflight with outPending := false } (.inl latches.2.2)]
          exact .running (List.append_assoc _ _ _) earlier running
            (.acknowledged frame status _ built accepted latches evidence (.inr ⟨rfl, .inr rfl⟩))
        · simp [notPending] at pending
      | answered frame status body built accepted latches evidence =>
        rw [List.append_assoc]
        exact tracks_advance earlier running evidence
          ⟨frame, status, built, accepted, .inr (.inr rfl)⟩ latches.2 rfl
    | acknowledged status accepted requested open' first =>
      cases inFlight with
      | ready latches evidence => simp [latches.1] at requested
      | sent frame built latches evidence =>
        exact .running (List.append_assoc _ _ _) earlier running
          (.acknowledged frame status _ built accepted ⟨latches.1, rfl, open'⟩ evidence
            (.inl ⟨latches.2.1, rfl⟩))
      | completed frame built latches evidence =>
        exact .running (List.append_assoc _ _ _) earlier running
          (.acknowledged frame status _ built accepted ⟨latches.1, rfl, open'⟩ evidence
            (.inr ⟨latches.2.1, .inl rfl⟩))
      | acknowledged frame status events built accepted latches evidence order =>
        simp [latches.2.1] at first
      | answered frame status body built accepted latches evidence =>
        simp [latches.2] at open'
    | answered body evidence accepted requested open' acknowledged =>
      cases inFlight with
      | ready latches _ => simp [latches.1] at requested
      | sent frame built latches _ => simp [latches.2.2.1] at acknowledged
      | completed frame built latches _ => simp [latches.2.2.1] at acknowledged
      | acknowledged frame status events built statusAccepted latches same order =>
        rw [same] at accepted
        -- the phase advances with whichever of the OUT completion and the answer comes last
        rcases order with ⟨pending, rfl⟩ | ⟨notPending, order⟩
        · rw [maybeAdvance_waiting { preflight with evidence, logicalDone := true } (.inr pending)]
          exact .running (List.append_assoc _ _ _) earlier running
            (.answered frame status body built statusAccepted ⟨pending, rfl⟩ accepted)
        · rw [List.append_assoc]
          refine tracks_advance earlier running accepted
            ⟨frame, status, built, statusAccepted, ?_⟩ rfl notPending
          rcases order with rfl | rfl
          · exact .inl rfl
          · exact .inr (.inl rfl)
      | answered frame status body' built _ latches _ => simp [latches.2] at open'

/-! ## Complete runs -/

/-- The phases that send a command, in order. -/
def commandPhases : List Phase :=
  [.reentryA2, .appA8, .bb010002E4, .validatorE4, .coldA2, .chip82, .otpA6]

/-- What the typed response of a phase has to be, given the typed responses of all phases. -/
def TypedGrammar (bodies : Phase → List UInt8) : Phase → Prop
  | .reentryA2 => (bodies .reentryA2).length = 3
  | .appA8 => bodies .appA8 = app12509Identity ∨ bodies .appA8 = app12508Identity
  | .bb010002E4 => ∃ blob : Block Bb010002.length,
      bodies .bb010002E4 = e4Header 0xbb010002 332 ++ blob.val ∧
        Bb010002.validate blob.val = .ok ()
  | .validatorE4 => ∃ validator : Validator,
      bodies .validatorE4 = e4Header 0xbb020003 32 ++ validator.val
  | .coldA2 => bodies .coldA2 = bodies .reentryA2
  | .chip82 => (bodies .chip82).length = 4 ∧
      Config90.chipSupported (getU16Le (((bodies .chip82).drop 1).take 2)) = true
  | .otpA6 => ∃ (otp : Config90.Otp) (derived : Config90.Config × Config90.Calibration),
      bodies .otpA6 = otp.val ∧
        Config90.derive (getU16Le (((bodies .chip82).drop 1).take 2)) otp = .ok derived
  | .stop | .terminal => False

/-- The log is the seven exchanges in order, with the given typed responses. -/
def CompleteGrammar (bodies : Phase → List UInt8) (log : List Accepted) : Prop :=
  ∃ exchanges : Phase → List Accepted,
    (∀ phase ∈ commandPhases, TypedGrammar bodies phase ∧
      IsExchange phase (bodies phase) (exchanges phase)) ∧
    log = commandPhases.flatMap exchanges

/-- The evidence is what the typed responses say. -/
structure Reports (bodies : Phase → List UInt8) (evidence : Evidence) : Prop where
  a2Response : evidence.a2Response.val = bodies .reentryA2 ∧
    evidence.a2Response.val = bodies .coldA2
  identity : (evidence.app = app12509 ∧ evidence.identityLength = app12509Identity.length ∧
      evidence.identity.val.take evidence.identityLength = app12509Identity) ∨
    (evidence.app = app12508 ∧ evidence.identityLength = app12508Identity.length ∧
      evidence.identity.val.take evidence.identityLength = app12508Identity)
  bb010002 : Bb010002.validate evidence.bb010002.val = .ok ()
  chip : evidence.chipId = 0x2503 ∨ evidence.chipId = 0x2504
  derived : Config90.derive evidence.chipId evidence.otp =
    .ok (evidence.config90, evidence.calibration)

section Typed

variable {before after : Evidence} {body : List UInt8}

theorem e4Block_eq_some {type : UInt32} {length : Nat} {block : Block length}
    (found : e4Block type length body = some block) :
    body = e4Header type (UInt32.ofNat length) ++ block.val := by
  unfold e4Block at found
  split at found
  · cases found
  · rename_i checked
    simp only [Bool.or_eq_true, decide_eq_true_eq, not_or, ne_eq, not_not] at checked
    rw [Block.ofList?_eq_some found, ← checked.2, List.take_append_drop]

theorem accept_reentryA2 (accepted : acceptTyped .reentryA2 before body = some after) :
    ∃ a2Response : Block 3, body = a2Response.val ∧ after = { before with a2Response } := by
  simp only [acceptTyped, Option.map_eq_some_iff] at accepted
  obtain ⟨a2Response, read, rfl⟩ := accepted
  exact ⟨a2Response, (Block.ofList?_eq_some read).symm, rfl⟩

theorem accept_appA8 (accepted : acceptTyped .appA8 before body = some after) :
    (body = app12509Identity ∧
      after = before.withIdentity app12509Identity (by decide) app12509) ∨
    (body = app12508Identity ∧
      after = before.withIdentity app12508Identity (by decide) app12508) := by
  simp only [acceptTyped] at accepted
  split at accepted
  · exact .inl ⟨‹_›, (Option.some.inj accepted).symm⟩
  · split at accepted
    · exact .inr ⟨‹_›, (Option.some.inj accepted).symm⟩
    · cases accepted

theorem accept_bb010002E4 (accepted : acceptTyped .bb010002E4 before body = some after) :
    ∃ bb010002 : Block Bb010002.length, body = e4Header 0xbb010002 332 ++ bb010002.val ∧
      Bb010002.validate bb010002.val = .ok () ∧ after = { before with bb010002 } := by
  simp only [acceptTyped] at accepted
  split at accepted
  · cases accepted
  · rename_i bb010002 found
    split at accepted
    · cases accepted
    · rename_i valid
      exact ⟨bb010002, e4Block_eq_some found, valid, (Option.some.inj accepted).symm⟩

theorem accept_validatorE4 (accepted : acceptTyped .validatorE4 before body = some after) :
    ∃ validator : Validator, body = e4Header 0xbb020003 32 ++ validator.val ∧
      after = { before with validator } := by
  simp only [acceptTyped, Option.map_eq_some_iff] at accepted
  obtain ⟨validator, found, rfl⟩ := accepted
  exact ⟨validator, e4Block_eq_some found, rfl⟩

theorem accept_coldA2 (accepted : acceptTyped .coldA2 before body = some after) :
    body = before.a2Response.val ∧ after = before := by
  simp only [acceptTyped] at accepted
  split at accepted
  · exact ⟨‹_›, (Option.some.inj accepted).symm⟩
  · cases accepted

theorem accept_chip82 (accepted : acceptTyped .chip82 before body = some after) :
    ∃ chipResponse : Block 4, body = chipResponse.val ∧
      Config90.chipSupported (getU16Le ((body.drop 1).take 2)) = true ∧
      after = { before with chipResponse, chipId := getU16Le ((body.drop 1).take 2) } := by
  simp only [acceptTyped] at accepted
  split at accepted
  · cases accepted
  · rename_i chipResponse read
    have same := Block.ofList?_eq_some read
    split at accepted
    · rename_i supported
      rw [← same]
      exact ⟨chipResponse, rfl, supported, (Option.some.inj accepted).symm⟩
    · cases accepted

theorem accept_otpA6 (accepted : acceptTyped .otpA6 before body = some after) :
    ∃ otp config90 calibration, body = otp.val ∧
      Config90.derive before.chipId otp = .ok (config90, calibration) ∧
      after = { before with otp, config90, calibration } := by
  simp only [acceptTyped] at accepted
  split at accepted
  · cases accepted
  · rename_i otp read
    split at accepted
    · cases accepted
    · rename_i config90 calibration derived
      exact ⟨otp, config90, calibration, (Block.ofList?_eq_some read).symm, derived,
        (Option.some.inj accepted).symm⟩

end Typed

theorem Exchanges.last {following : Phase} {log : List Accepted} {after : Evidence}
    (exchanges : Exchanges following log after) (phase : Phase) (running : phase.ended = false)
    (successor : phase.next = following) :
    ∃ earlier events before body, log = earlier ++ events ∧ Exchanges phase earlier before ∧
      acceptTyped phase before body = some after ∧ IsExchange phase body events := by
  cases exchanges with
  | start => cases phase <;> simp [Phase.next] at successor
  | @next other _ log events before _ body earlier otherRunning otherSuccessor accepted exchange =>
    have same : other = phase := by
      subst successor
      cases other <;> cases phase <;>
        simp [Phase.next, Phase.ended] at otherSuccessor otherRunning running ⊢
    subst same
    exact ⟨log, events, before, body, rfl, earlier, accepted, exchange⟩

theorem Exchanges.complete {log : List Accepted} {evidence : Evidence}
    (exchanges : Exchanges .stop log evidence) :
    ∃ bodies, CompleteGrammar bodies log ∧ Reports bodies evidence := by
  obtain ⟨_, events6, evidence6, body6, rfl, exchanges6, accepted6, exchange6⟩ :=
    exchanges.last .otpA6 rfl rfl
  obtain ⟨_, events5, evidence5, body5, rfl, exchanges5, accepted5, exchange5⟩ :=
    exchanges6.last .chip82 rfl rfl
  obtain ⟨_, events4, evidence4, body4, rfl, exchanges4, accepted4, exchange4⟩ :=
    exchanges5.last .coldA2 rfl rfl
  obtain ⟨_, events3, evidence3, body3, rfl, exchanges3, accepted3, exchange3⟩ :=
    exchanges4.last .validatorE4 rfl rfl
  obtain ⟨_, events2, evidence2, body2, rfl, exchanges2, accepted2, exchange2⟩ :=
    exchanges3.last .bb010002E4 rfl rfl
  obtain ⟨_, events1, evidence1, body1, rfl, exchanges1, accepted1, exchange1⟩ :=
    exchanges2.last .appA8 rfl rfl
  obtain ⟨log0, events0, evidence0, body0, rfl, exchanges0, accepted0, exchange0⟩ :=
    exchanges1.last .reentryA2 rfl rfl
  have started : log0 = [] := by
    cases exchanges0 with
    | start => rfl
    | @next phase _ _ _ _ _ _ earlier running successor accepted exchange =>
      cases phase <;> simp [Phase.next] at successor
  subst started
  obtain ⟨a2Response, rfl, left0⟩ := accept_reentryA2 accepted0
  have identity := accept_appA8 accepted1
  obtain ⟨bb010002, rfl, valid, left2⟩ := accept_bb010002E4 accepted2
  obtain ⟨validator, rfl, left3⟩ := accept_validatorE4 accepted3
  obtain ⟨repeated, left4⟩ := accept_coldA2 accepted4
  obtain ⟨chipResponse, rfl, supported, left5⟩ := accept_chip82 accepted5
  obtain ⟨otp, config90, calibration, rfl, derived, left6⟩ := accept_otpA6 accepted6
  -- nothing between the two A2 commands touches the response that the second must repeat
  have a2Kept : evidence4.a2Response = a2Response := by
    rw [left3, left2]
    rcases identity with ⟨-, left1⟩ | ⟨-, left1⟩ <;> rw [left1, left0] <;> rfl
  rw [a2Kept] at repeated
  subst repeated
  rw [left5] at derived
  let bodies : Phase → List UInt8
    | .reentryA2 => a2Response.val
    | .appA8 => body1
    | .bb010002E4 => e4Header 0xbb010002 332 ++ bb010002.val
    | .validatorE4 => e4Header 0xbb020003 32 ++ validator.val
    | .coldA2 => a2Response.val
    | .chip82 => chipResponse.val
    | .otpA6 => otp.val
    | .stop | .terminal => []
  let exchange : Phase → List Accepted
    | .reentryA2 => events0
    | .appA8 => events1
    | .bb010002E4 => events2
    | .validatorE4 => events3
    | .coldA2 => events4
    | .chip82 => events5
    | .otpA6 => events6
    | .stop | .terminal => []
  refine ⟨bodies, ⟨exchange, ?_, ?_⟩, ?_⟩
  · intro phase member
    simp only [commandPhases, List.mem_cons, List.not_mem_nil, or_false] at member
    rcases member with rfl | rfl | rfl | rfl | rfl | rfl | rfl
    · exact ⟨a2Response.property, exchange0⟩
    · refine ⟨?_, exchange1⟩
      rcases identity with ⟨same, -⟩ | ⟨same, -⟩
      · exact .inl same
      · exact .inr same
    · exact ⟨⟨bb010002, rfl, valid⟩, exchange2⟩
    · exact ⟨⟨validator, rfl⟩, exchange3⟩
    · exact ⟨rfl, exchange4⟩
    · exact ⟨⟨chipResponse.property, supported⟩, exchange5⟩
    · exact ⟨⟨otp, _, rfl, derived⟩, exchange6⟩
  · simp [commandPhases, exchange, List.append_assoc]
  · have chip : evidence.chipId = 0x2503 ∨ evidence.chipId = 0x2504 := by
      have chipId : evidence.chipId = getU16Le ((chipResponse.val.drop 1).take 2) := by
        rw [left6, left5]
      rw [chipId]
      simpa [Config90.chipSupported] using supported
    have a2 : evidence.a2Response = a2Response := by
      rw [left6, left5, left4]
      exact a2Kept
    refine ⟨⟨by rw [a2], by rw [a2]⟩, ?_, ?_, chip, ?_⟩
    · rw [left6, left5, left4, left3, left2]
      rcases identity with ⟨-, left1⟩ | ⟨-, left1⟩
      · rw [left1]
        exact .inl ⟨rfl, rfl, List.take_left⟩
      · rw [left1]
        exact .inr ⟨rfl, rfl, List.take_left⟩
    · rw [left6, left5, left4, left3, left2]
      exact valid
    · rw [left6, left5]
      exact derived

/-! ## The whole run -/

/-- Position of a phase; the enumerator of the source. -/
def Phase.index : Phase → Nat
  | reentryA2 => 0
  | appA8 => 1
  | bb010002E4 => 2
  | validatorE4 => 3
  | coldA2 => 4
  | chip82 => 5
  | otpA6 => 6
  | stop => 7
  | terminal => 8

theorem IsExchange.length {phase : Phase} {body : List UInt8} {events : List Accepted}
    (exchange : IsExchange phase body events) : events.length = 4 := by
  obtain ⟨frame, status, -, -, rfl | rfl | rfl⟩ := exchange <;> rfl

theorem Exchanges.length {phase : Phase} {log : List Accepted} {evidence : Evidence}
    (exchanges : Exchanges phase log evidence) : log.length = 4 * phase.index := by
  induction exchanges with
  | start => rfl
  | @next phase following log events before after body earlier running successor accepted exchange ih =>
    subst successor
    rw [List.length_append, ih, exchange.length]
    cases phase <;> simp [Phase.ended] at running <;> rfl

theorem InFlight.length {before : Evidence} {events : List Accepted}
    (inFlight : InFlight preflight before events) : events.length ≤ 3 := by
  cases inFlight with
  | ready => simp
  | sent => simp
  | completed => simp
  | acknowledged frame status events built accepted latches evidence order =>
    rcases order with ⟨-, rfl⟩ | ⟨-, rfl | rfl⟩ <;> simp
  | answered => simp

theorem CompleteGrammar.length {bodies : Phase → List UInt8} {log : List Accepted}
    (complete : CompleteGrammar bodies log) : log.length = 28 := by
  obtain ⟨exchanges, grammar, rfl⟩ := complete
  have four : ∀ phase ∈ commandPhases, (exchanges phase).length = 4 := fun phase member =>
    (grammar phase member).2.length
  simp only [commandPhases, List.mem_cons, List.not_mem_nil, or_false, forall_eq_or_imp,
    forall_eq] at four
  simp [commandPhases, four]

/-- A preflight that is still running has not completed its grammar. -/
theorem Tracks.running_length {log : List Accepted} (tracks : Tracks log preflight)
    (running : preflight.phase.ended = false) : log.length < 28 := by
  cases tracks with
  | running parts earlier _ inFlight =>
    have early : preflight.phase.index ≤ 6 := by
      cases phase : preflight.phase <;> simp [phase, Phase.ended] at running <;> decide
    have := inFlight.length
    rw [parts, List.length_append, earlier.length]
    omega
  | stopped phase complete =>
    simp [phase, Phase.ended] at running
  | failed phase => simp [phase, Phase.ended] at running

theorem Tracks.stopped_exchanges {log : List Accepted} (tracks : Tracks log preflight)
    (stopped : preflight.phase = .stop) : Exchanges .stop log preflight.evidence := by
  cases tracks with
  | running _ _ running _ => simp [stopped, Phase.ended] at running
  | stopped _ complete => exact complete
  | failed phase => simp [stopped] at phase

theorem tracks_run (events : List Event) :
    Tracks (run step new events).2 (run step new events).1 :=
  run_invariant step Tracks tracks_new (fun _ _ event tracks => tracks_step tracks event) events

theorem maybeAdvance_alive (preflight : Preflight) (running : preflight.phase.ended = false) :
    preflight.maybeAdvance.phase ≠ .terminal := by
  unfold Preflight.maybeAdvance
  split
  · exact (ended_of_phase running).1
  · change preflight.phase.next ≠ .terminal
    cases phase : preflight.phase <;> simp [phase, Phase.ended] at running <;> decide

/-- An accepted event never ends the preflight with a failure. -/
theorem step_accepted {event : Event} (accepted : (step preflight event).2 ≠ []) :
    preflight.phase.ended = false ∧ (step preflight event).1.phase ≠ .terminal := by
  cases running : preflight.phase.ended with
  | true => exact absurd (step_ended running event).1 accepted
  | false =>
    refine ⟨rfl, ?_⟩
    have move := step_case running event
    revert accepted move
    generalize (step preflight event).1 = after
    generalize (step preflight event).2 = out
    intro accepted move
    cases move with
    | idle => exact absurd rfl accepted
    | failed terminal => exact absurd rfl accepted
    | submitted frame built notSubmitted notPending => exact (ended_of_phase running).1
    | completed pending => exact maybeAdvance_alive _ running
    | acknowledged status accepted requested open' first => exact (ended_of_phase running).1
    | answered body evidence accepted requested open' acknowledged =>
      exact maybeAdvance_alive _ running

/-- The log of a run is complete as soon as the run has been at STOP, and only then. -/
theorem visits_stop_iff (events : List Event) :
    Visits step (fun preflight => preflight.phase = .stop) new events ↔
      ∃ bodies, CompleteGrammar bodies (run step new events).2 := by
  induction events using List.reverseRecOn with
  | nil =>
    rw [visits_nil]
    constructor
    · intro stopped
      cases stopped
    · rintro ⟨bodies, complete⟩
      have := complete.length
      simp [run] at this
  | append_singleton events event ih =>
    rw [visits_concat, ih]
    have before := tracks_run events
    have after := tracks_run (events ++ [event])
    rw [run_concat] at after ⊢
    constructor
    · rintro (⟨bodies, complete⟩ | stopped)
      · cases running : (run step new events).1.phase.ended with
        | false =>
          have short := before.running_length running
          rw [complete.length] at short
          omega
        | true =>
          rw [(step_ended running event).1, List.append_nil]
          exact ⟨bodies, complete⟩
      · obtain ⟨bodies, complete, -⟩ := (after.stopped_exchanges stopped).complete
        exact ⟨bodies, complete⟩
    · rintro ⟨bodies, complete⟩
      by_cases accepted : (step (run step new events).1 event).2 = []
      · rw [accepted, List.append_nil] at complete
        exact .inl ⟨bodies, complete⟩
      · obtain ⟨-, alive⟩ := step_accepted accepted
        right
        by_contra notStopped
        have running : (step (run step new events).1 event).1.phase.ended = false := by
          cases phase : (step (run step new events).1 event).1.phase <;>
            simp [phase] at alive notStopped ⊢ <;> rfl
        have short := after.running_length running
        rw [complete.length] at short
        omega

/-- Evidence that reports a complete grammar is accepted by `evidence_valid`. -/
theorem Reports.evidenceValid {bodies : Phase → List UInt8} {evidence : Evidence}
    (reports : Reports bodies evidence) : evidenceValid evidence = true := by
  have chip : Config90.chipSupported evidence.chipId = true := by
    rcases reports.chip with chip | chip <;> rw [chip] <;> rfl
  unfold LivePreflight.evidenceValid
  rw [chip, Bool.true_and]
  unfold evidenceIdentityValid
  rcases reports.identity with ⟨app, length, identity⟩ | ⟨app, length, identity⟩
  · rw [length] at identity
    have size : app12509Identity.length = 22 := rfl
    rw [size] at identity length
    simp [app, length, identity, size]
  · rw [length] at identity
    have other : app12508 ≠ app12509 := by decide
    have size : app12508Identity.length = 22 := rfl
    rw [size] at identity length
    simp [app, other, length, identity, size]

/-- Evidence is handed out at STOP only, with the whole grammar behind it. -/
theorem copyEvidence_reports (events : List Event) {evidence : Evidence}
    (copied : (run step new events).1.copyEvidence = some evidence) :
    ∃ bodies, CompleteGrammar bodies (run step new events).2 ∧ Reports bodies evidence := by
  have tracks := tracks_run events
  generalize run step new events = final at tracks copied ⊢
  unfold Preflight.copyEvidence at copied
  split at copied
  · rename_i stopped
    cases copied
    exact (tracks.stopped_exchanges stopped).complete
  · cases copied

/-- **Live preflight grammar.**  Every run of the preflight has been at STOP exactly when its
accepted events are the seven complete exchanges in order; at STOP it hands out evidence, which
reports their typed responses and passes `evidence_valid`. -/
theorem preflight_grammar (events : List Event) :
    (Visits step (fun preflight => preflight.phase = .stop) new events ↔
      ∃ bodies, CompleteGrammar bodies (run step new events).2) ∧
    ((run step new events).1.phase = .stop →
      (run step new events).1.copyEvidence = some (run step new events).1.evidence) ∧
    ∀ evidence, (run step new events).1.copyEvidence = some evidence →
      (∃ bodies, CompleteGrammar bodies (run step new events).2 ∧ Reports bodies evidence) ∧
        evidenceValid evidence = true := by
  refine ⟨visits_stop_iff events, fun stopped => if_pos stopped, ?_⟩
  intro evidence copied
  obtain ⟨bodies, complete, reports⟩ := copyEvidence_reports events copied
  exact ⟨⟨bodies, complete, reports⟩, reports.evidenceValid⟩

/-! ## A run that reaches STOP -/

/-- An envelope as the sensor stores it. -/
def plainBb010002 : List UInt8 :=
  putU32Le 1 ++ Bb010002.dpapiProviderGuid ++ putU32Le 1 ++ List.replicate 16 1 ++ putU32Le 4 ++
    putU32Le 64 ++ Bb010002.expectedDescription ++ putU32Le 0x6610 ++ putU32Le 256 ++ putU32Le 32 ++
    List.replicate 32 0 ++ putU32Le 0 ++ putU32Le 0x800e ++ putU32Le 512 ++ putU32Le 32 ++
    List.replicate 32 0 ++ putU32Le 48 ++ List.replicate 48 0 ++ putU32Le 64 ++
    List.replicate 72 0

/-- What the sensor answers in each phase. -/
def plainResponse : Phase → List UInt8
  | .reentryA2 | .coldA2 => [0xa2, 0, 0]
  | .appA8 => app12509Identity
  | .bb010002E4 => e4Header 0xbb010002 332 ++ plainBb010002
  | .validatorE4 => e4Header 0xbb020003 32 ++ List.replicate 32 0
  | .chip82 => [0, 0x04, 0x25, 0]
  | .otpA6 => Config90.plainOtp.val
  | .stop | .terminal => []

/-- A request, its completion, its ACK and its response. -/
def plainExchange (phase : Phase) : List Event :=
  let control := phaseControl phase
  [.nextRequest, .outComplete none, .handleA0 ((buildFrame 0xb0 0xb0 [control, 0x01]).getD []),
    .handleA0 ((buildFrame control control (plainResponse phase)).getD [])]

def plainEvents : List Event :=
  [Phase.reentryA2, .appA8, .bb010002E4, .validatorE4, .coldA2, .chip82, .otpA6].flatMap plainExchange

/-- After the seven exchanges the evidence of the sensor is handed out. -/
theorem preflight_grammar_stop :
    ∃ evidence, (run step new plainEvents).1.copyEvidence = some evidence ∧
      evidence.otp = Config90.plainOtp ∧ evidenceValid evidence = true ∧
      ∃ bodies, CompleteGrammar bodies (run step new plainEvents).2 := by
  have stopped : (run step new plainEvents).1.phase = .stop ∧
      (run step new plainEvents).1.evidence.otp = Config90.plainOtp := by decide +kernel
  obtain ⟨-, handed, reported⟩ := preflight_grammar plainEvents
  obtain ⟨⟨bodies, complete, -⟩, valid⟩ := reported _ (handed stopped.1)
  exact ⟨_, handed stopped.1, stopped.2, valid, bodies, complete⟩

end Goodix.LivePreflight
