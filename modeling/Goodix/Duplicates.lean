import Goodix.LivePreflight.Grammar
import Goodix.Pairing.ProofChain
import Goodix.SecureSession.Runs

/-! # A response that comes twice

A typed response that overtakes the completion of its command leaves the phase open: the
response has been taken and the OUT is still under way.  The preflight and the session refuse
every frame there.  The readbacks of a pairing do not look whether they have been answered.
-/

namespace Goodix

open Octets A0Protocol Machines

namespace LivePreflight

/-- The preflight ends on this frame and keeps its evidence. -/
structure Preflight.Refuses (preflight : Preflight) (frame : List UInt8) : Prop where
  refused : ∃ error, (preflight.handleA0 frame).2 = .error error
  ended : (preflight.handleA0 frame).1.phase = .terminal
  evidence : (preflight.handleA0 frame).1.evidence = preflight.evidence

theorem fail_evidence (preflight : Preflight) (code : Nat) (message : String) :
    (preflight.fail code message).evidence = preflight.evidence := by
  unfold Preflight.fail
  split <;> rfl

theorem answered_refuses {preflight : Preflight} (answered : preflight.logicalDone = true)
    (frame : List UInt8) : preflight.Refuses frame := by
  have refused : preflight.handleA0 frame =
      (preflight.fail errorState "A0 response is outside the live preflight phase",
        .error ((preflight.fail errorState
          "A0 response is outside the live preflight phase").error.getD
            (preflightError errorState ""))) := by
    simp only [Preflight.handleA0, answered, Bool.or_true, Bool.true_or, if_true]
  constructor
  · exact ⟨_, congrArg Prod.snd refused⟩
  · rw [refused]
    exact fail_phase _ _ _
  · rw [refused]
    exact fail_evidence _ _ _

end LivePreflight

namespace SecureSession

/-- The session ends on this frame, whatever its backend answers, and takes no response from
it. -/
structure Session.Refuses (crypto : Primitives) (session : Session) (frame : List UInt8)
    (answers : List Answer) : Prop where
  ended : (step crypto session ⟨.handleA0 frame, answers⟩).1.phase = .terminal
  material : (step crypto session ⟨.handleA0 frame, answers⟩).1.material = session.material
  told : ∃ seen error,
    (step crypto session ⟨.handleA0 frame, answers⟩).2 = [.phase seen, .terminal error]

theorem failError_material (call : Call) (error : GError) :
    (call.failError error).session.material = call.session.material := by
  unfold Call.failError
  split <;> rfl

/-- In D1 and later an A0 is refused for its phase, before D1 for the response that was taken. -/
theorem answered_refused {session : Session} (answered : session.logicalDone = true)
    (crypto : Primitives) (frame : List UInt8) :
    ∃ error, session.a0Verdict crypto frame = .refused error := by
  unfold Session.a0Verdict
  by_cases late : Phase.d1 ≤ session.phase
  · rw [if_pos late]
    exact ⟨_, rfl⟩
  · rw [if_neg late, if_pos answered]
    exact ⟨_, rfl⟩

theorem answered_refuses {session : Session} (running : session.phase ≠ .terminal)
    (answered : session.logicalDone = true) (crypto : Primitives) (frame : List UInt8)
    (answers : List Answer) : session.Refuses crypto frame answers := by
  obtain ⟨error, refused⟩ := answered_refused answered crypto frame
  have failed : Call.perform ⟨session, answers, []⟩ crypto (completeInside answers.length)
      (.handleA0 frame) = Call.failError ⟨session, answers, []⟩ error := by
    simp only [Call.perform, Call.handleA0, running, if_false, refused]
  obtain ⟨seen, told, -, logged⟩ := @failError_log
    ⟨session, answers, []⟩ running error
  constructor
  · show (Call.perform _ _ _ _).session.phase = _
    rw [failed]
    exact failError_ends _ _
  · show (Call.perform _ _ _ _).session.material = _
    rw [failed]
    exact failError_material _ _
  · refine ⟨seen, told, ?_⟩
    show (Call.perform _ _ _ _).log = _
    rw [failed, logged]
    rfl

end SecureSession

namespace Pairing

open LivePreflight

variable {crypto : Primitives} {activation after : Activation}

/-- The activation ends on this frame and keeps its readbacks. -/
structure Activation.Refuses (activation : Activation) (frame : List UInt8) : Prop where
  refused : ∃ error, (activation.handleA0 frame).2 = .error error
  ended : (activation.handleA0 frame).1.phase = .terminal
  readbackBb010002 :
    (activation.handleA0 frame).1.readbackBb010002 = activation.readbackBb010002
  readbackValidator :
    (activation.handleA0 frame).1.readbackValidator = activation.readbackValidator

/-- The block a readback phase asks for. -/
def Phase.blockType (phase : Phase) : UInt32 :=
  if phase = .readBb010002 then dtBb010002 else dtBb020003

def Phase.blockLength (phase : Phase) : Nat :=
  if phase = .readBb010002 then Bb010002.length else 32

/-- A frame that is by itself the typed response of a readback phase. -/
def IsReadback (phase : Phase) (frame : List UInt8) : Prop :=
  ∃ message block, parseReceived frame = .ok message ∧ message.control = 0xe4 ∧
    message.body = e4Header phase.blockType (UInt32.ofNat phase.blockLength) ++ block ∧
    block.length = phase.blockLength

theorem e4Block_eq_none {type : UInt32} {length : Nat} {body : List UInt8}
    (other : ¬ ∃ block, body = e4Header type (UInt32.ofNat length) ++ block ∧
      block.length = length) : e4Block type length body = none := by
  cases found : e4Block type length body with
  | none => rfl
  | some block => exact absurd ⟨block.val, e4Block_eq_some found, block.property⟩ other

theorem e4Block_append (type : UInt32) (block : Block length) :
    e4Block type length (e4Header type (UInt32.ofNat length) ++ block.val) = some block := by
  have header : (e4Header type (UInt32.ofNat length)).length = 9 := by simp [e4Header, putU32Le]
  unfold e4Block
  rw [if_neg]
  · rw [List.drop_left' header, Block.ofList?_val]
  · simp [List.take_left' header, header, block.property]

/-- The latches of a readback phase follow one another, and a taken response only waits for its
OUT. -/
structure Latched (activation : Activation) : Prop where
  acknowledged : activation.logicalDone = true → activation.ackSeen = true
  requested : activation.outPending = true → activation.requestSubmitted = true
  waiting : activation.logicalDone = true → activation.outPending = true

/-- A readback phase whose response has been taken, with its OUT still under way. -/
structure Activation.Answered (activation : Activation) : Prop where
  reads : activation.phase.readsBack
  answered : activation.logicalDone = true

theorem fail_readbacks (activation : Activation) (code : Nat) (message : String) :
    (activation.fail code message).readbackBb010002 = activation.readbackBb010002 ∧
      (activation.fail code message).readbackValidator = activation.readbackValidator := by
  unfold Activation.fail
  split
  · exact ⟨rfl, rfl⟩
  · exact ⟨rfl, rfl⟩

theorem refuses_of_fail {frame : List UInt8} {code : Nat} {text : String} {error : GError}
    (failed : activation.handleA0 frame = (activation.fail code text, .error error)) :
    activation.Refuses frame := by
  obtain ⟨bb010002, validator⟩ := fail_readbacks activation code text
  constructor
  · exact ⟨error, congrArg Prod.snd failed⟩
  · rw [failed]
    exact fail_phase _ _ _
  · rw [failed]
    exact bb010002
  · rw [failed]
    exact validator

/-- A readback phase takes no frame but the two it knows. -/
theorem handleA0_reading (reads : activation.phase.readsBack)
    (requested : activation.requestSubmitted = true) {frame : List UInt8} (long : 5 ≤ frame.length) :
    activation.handleA0 frame = activation.handleReadbackA0 frame := by
  have inside : (!activation.requestSubmitted || activation.phase.pastReadback ||
      decide (frame.length < 5)) = false := by
    have early : activation.phase.pastReadback = false := by
      cases reads with
      | inl phase => rw [phase]; rfl
      | inr phase => rw [phase]; rfl
    simp [requested, early, Nat.not_lt.mpr long]
  have notE0 : activation.phase ≠ .e0 := by
    cases reads with
    | inl phase => rw [phase]; decide
    | inr phase => rw [phase]; decide
  rw [handleA0_inside inside, if_pos notE0]

theorem refuses_other (latched : Latched activation) (window : activation.Answered)
    {frame : List UInt8} (other : ¬ IsReadback activation.phase frame) :
    activation.Refuses frame := by
  have seen := latched.acknowledged window.answered
  have requested := latched.requested (latched.waiting window.answered)
  by_cases long : 5 ≤ frame.length
  · have reading := handleA0_reading window.reads requested long
    unfold Activation.handleReadbackA0 at reading
    cases parsed : parseReceived frame with
    | error error =>
      rw [parsed] at reading
      exact refuses_of_fail reading
    | ok message =>
      rw [parsed] at reading
      have invalid : activation.handleReadback message = activation.invalid := by
        unfold Activation.handleReadback
        by_cases isAck : message.control = 0xb0
        · simp [isAck, seen]
        by_cases control : message.control = 0xe4
        · by_cases phase : activation.phase = .readBb010002
          · have none : e4Block dtBb010002 Bb010002.length message.body = none := by
              apply e4Block_eq_none
              rintro ⟨block, body, length⟩
              apply other
              rw [phase]
              exact ⟨message, block, parsed, control, body, length⟩
            simp [seen, control, phase, none]
          · have none : e4Block dtBb020003 32 message.body = none := by
              apply e4Block_eq_none
              rintro ⟨block, body, length⟩
              apply other
              rw [window.reads.resolve_left phase]
              exact ⟨message, block, parsed, control, body, length⟩
            simp [seen, control, phase, none]
        · simp [isAck, control]
      exact refuses_of_fail (reading.trans invalid)
  · have outside : (!activation.requestSubmitted || activation.phase.pastReadback ||
        decide (frame.length < 5)) = true := by
      simp [Nat.lt_of_not_le long]
    exact refuses_of_fail (handleA0_outside outside)

/-- A second response of the phase is taken like the first: nothing looks at the latch. -/
theorem takes_readback (latched : Latched activation) (window : activation.Answered)
    {frame : List UInt8} (readback : IsReadback activation.phase frame) :
    (activation.handleA0 frame).2 = .ok () := by
  obtain ⟨message, block, parsed, control, body, length⟩ := readback
  have seen := latched.acknowledged window.answered
  have pending := latched.waiting window.answered
  have long : 5 ≤ frame.length := by
    by_cases short : frame.length < 8
    · simp [parseReceived, parseFrame, short] at parsed
    · omega
  rw [handleA0_reading window.reads (latched.requested pending) long]
  unfold Activation.handleReadbackA0
  rw [parsed]
  show (activation.handleReadback message).2 = .ok ()
  unfold Activation.handleReadback
  by_cases phase : activation.phase = .readBb010002
  · rw [phase] at body length
    have found : e4Block dtBb010002 Bb010002.length message.body = some ⟨block, length⟩ := by
      rw [body]
      exact e4Block_append _ ⟨block, length⟩
    simp [control, seen, phase, found, maybeAdvance_pending, pending]
  · have second := window.reads.resolve_left phase
    rw [second] at body length
    have found : e4Block dtBb020003 32 message.body = some ⟨block, length⟩ := by
      rw [body]
      exact e4Block_append _ ⟨block, length⟩
    simp [control, seen, phase, found, maybeAdvance_pending, pending]

/-! ## The latches over a run -/

/-- The invariant of a run: only the readback phases are promised anything. -/
def Activation.InOrder (activation : Activation) : Prop :=
  activation.phase.readsBack → Latched activation

theorem inOrder_of_late {activation : Activation} (late : activation.phase.pastReadback = true) :
    activation.InOrder := by
  intro reads
  cases reads with
  | inl phase => rw [phase] at late; cases late
  | inr phase => rw [phase] at late; cases late

theorem fail_inOrder (activation : Activation) (code : Nat) (message : String) :
    (activation.fail code message).InOrder := by
  apply inOrder_of_late
  rw [fail_phase]
  rfl

/-- A phase that starts has nothing latched. -/
theorem reset_inOrder (activation : Activation) (phase : Phase) :
    Activation.InOrder { activation.resetForNextPhase with phase } := by
  intro _
  constructor <;> intro set <;> cases set

theorem finishReadback_inOrder (activation : Activation) : activation.finishReadback.1.InOrder := by
  unfold Activation.finishReadback
  split
  · exact fail_inOrder _ _ _
  split
  · exact fail_inOrder _ _ _
  · exact inOrder_of_late rfl

theorem maybeAdvance_inOrder {activation : Activation}
    (acknowledged : activation.phase.readsBack → activation.logicalDone = true →
      activation.ackSeen = true)
    (requested : activation.phase.readsBack → activation.outPending = true →
      activation.requestSubmitted = true) : activation.maybeAdvance.1.InOrder := by
  unfold Activation.maybeAdvance
  by_cases pending : activation.outPending = true
  · rw [if_pos pending]
    exact fun reads => ⟨acknowledged reads, requested reads, fun _ => pending⟩
  rw [if_neg pending]
  by_cases phase : activation.phase = .e0
  · rw [if_pos phase]
    split
    · intro reads
      simp [Phase.readsBack, phase] at reads
    · exact reset_inOrder _ _
  rw [if_neg phase]
  by_cases done : activation.logicalDone = true
  · rw [if_neg (by simp [done])]
    split
    · exact reset_inOrder _ _
    · exact finishReadback_inOrder _
  · rw [if_pos (by simp [done])]
    exact fun reads => ⟨acknowledged reads, requested reads, fun set => absurd set done⟩

theorem nextRequest_inOrder (inOrder : activation.InOrder) : activation.nextRequest.1.InOrder := by
  have sent (provision : Option Provision) : Activation.InOrder
      { activation with provision, requestSubmitted := true, outPending := true } :=
    fun reads => ⟨(inOrder reads).acknowledged, fun _ => rfl, fun _ => rfl⟩
  unfold Activation.nextRequest
  split
  · exact inOrder
  dsimp only
  split
  · split
    · exact fail_inOrder _ _ _
    split
    · exact fail_inOrder _ _ _
    · exact sent _
  · split
    · exact fail_inOrder _ _ _
    · exact sent _

theorem outComplete_inOrder (inOrder : activation.InOrder) (error : Option GError) :
    (activation.outComplete error).InOrder := by
  unfold Activation.outComplete
  split
  · exact inOrder
  cases error with
  | some error => exact fail_inOrder _ _ _
  | none =>
    apply maybeAdvance_inOrder
    · exact fun reads => (inOrder reads).acknowledged
    · exact fun _ set => by cases set

theorem handleReadback_inOrder (latched : Latched activation) (message : A0Message) :
    (activation.handleReadback message).1.InOrder := by
  unfold Activation.handleReadback
  split
  · split
    · exact fail_inOrder _ _ _
    · exact fun _ => ⟨fun _ => rfl, latched.requested, latched.waiting⟩
  split
  · exact fail_inOrder _ _ _
  rename_i taken
  have seen : activation.ackSeen = true := by
    simp only [Bool.or_eq_true, Bool.not_eq_true', not_or, Bool.not_eq_false] at taken
    exact taken.1
  split
  · split
    · exact fail_inOrder _ _ _
    · exact maybeAdvance_inOrder (fun _ _ => seen) (fun _ => latched.requested)
  · split
    · exact fail_inOrder _ _ _
    · exact maybeAdvance_inOrder (fun _ _ => seen) (fun _ => latched.requested)

theorem handleA0_inOrder (inOrder : activation.InOrder) (frame : List UInt8) :
    (activation.handleA0 frame).1.InOrder := by
  unfold Activation.handleA0
  split
  · exact fail_inOrder _ _ _
  rename_i inside
  simp only [Bool.or_eq_true, not_or, Bool.not_eq_true] at inside
  by_cases phase : activation.phase = .e0
  · rw [if_neg (not_not.mpr phase)]
    unfold Activation.handleE0
    split
    · exact fail_inOrder _ _ _
    split
    · exact fail_inOrder _ _ _
    · have notReads : ¬ activation.phase.readsBack := by simp [Phase.readsBack, phase]
      exact maybeAdvance_inOrder (fun reads => absurd reads notReads)
        (fun reads => absurd reads notReads)
  · rw [if_pos phase]
    have reads : activation.phase.readsBack := by
      have early := inside.1.2
      cases current : activation.phase with
      | readBb010002 => exact .inl rfl
      | readValidator => exact .inr rfl
      | e0 => exact absurd current phase
      | tls => rw [current] at early; cases early
      | complete => rw [current] at early; cases early
      | terminal => rw [current] at early; cases early
    unfold Activation.handleReadbackA0
    split
    · exact fail_inOrder _ _ _
    · exact handleReadback_inOrder (inOrder reads) _

theorem markTlsAndPromote_inOrder (activation : Activation) (fault : Option SelfState.Fault)
    (path : SelfState.PathEntry) :
    (activation.markTlsAndPromote crypto fault path).activation.InOrder := by
  unfold Activation.markTlsAndPromote
  split
  · exact fail_inOrder _ _ _
  split
  · exact fail_inOrder _ _ _
  split
  · exact inOrder_of_late rfl
  split
  · exact fail_inOrder _ _ _
  · exact inOrder_of_late rfl

theorem step_inOrder (crypto : Primitives) (system : System) (event : Event)
    (inOrder : system.activation.InOrder) : (step crypto system event).1.activation.InOrder := by
  cases event with
  | nextRequest => exact nextRequest_inOrder inOrder
  | outComplete error => exact outComplete_inOrder inOrder error
  | handleA0 frame => exact handleA0_inOrder inOrder frame
  | getSecureView =>
    show system.activation.getSecureView.1.InOrder
    unfold Activation.getSecureView
    split
    · exact fail_inOrder _ _ _
    · exact inOrder
  | markTlsAndPromote fault => exact markTlsAndPromote_inOrder _ _ _

theorem make_inOrder (phase : Phase) (disposition : Disposition) (policy : SelfState.Policy)
    (prepared : SelfState.State) (provision : Option Provision) (view : SecureMaterial) :
    (Activation.make phase disposition policy prepared provision view).InOrder := by
  intro _
  constructor <;> intro set <;> cases set

theorem activationNew_inOrder {policy : SelfState.Policy} {generated : Option Psk}
    {fault : Option SelfState.Fault} {path start : SelfState.PathEntry} {evidence : Evidence}
    {built : Activation}
    (constructed : activationNew crypto policy generated fault path evidence = (.ok built, start)) :
    built.InOrder := by
  obtain ⟨-, binding, bb010002Sha256, -, construction⟩ := activationNew_ok constructed
  cases construction with
  | newPsk _ _ _ _ _ reserved =>
    obtain ⟨view, -, rfl⟩ := reserved.made
    exact make_inOrder _ _ _ _ _ _
  | restore _ _ _ _ _ _ _ reserved =>
    obtain ⟨view, -, rfl⟩ := reserved.made
    exact make_inOrder _ _ _ _ _ _
  | recover state _ _ _ _ _ _ view made =>
    subst made
    exact make_inOrder _ _ _ _ _ _
  | reuse state _ _ _ _ _ view made =>
    subst made
    exact make_inOrder _ _ _ _ _ _

theorem run_inOrder {built : Activation} (initially : built.InOrder) (start : SelfState.PathEntry)
    (events : List Event) : (run (step crypto) ⟨built, start⟩ events).1.activation.InOrder :=
  run_state_invariant (step crypto) (fun system => system.activation.InOrder) initially
    (fun system event inOrder => step_inOrder crypto system event inOrder) events

/-- In a readback phase that has been answered, exactly one kind of frame is not refused. -/
theorem answered_refuses_iff (inOrder : activation.InOrder) (window : activation.Answered)
    (frame : List UInt8) :
    activation.Refuses frame ↔ ¬ IsReadback activation.phase frame := by
  have latched := inOrder window.reads
  constructor
  · intro refuses readback
    obtain ⟨error, refused⟩ := refuses.refused
    rw [takes_readback latched window readback] at refused
    cases refused
  · exact refuses_other latched window

end Pairing

/-! ## A pairing that is answered twice -/

namespace Pairing

open LivePreflight

def exampleFrame (control : UInt8) (body : List UInt8) : List UInt8 :=
  (buildFrame control control body).getD []

def exampleReadback (octet : UInt8) : List UInt8 :=
  exampleFrame 0xe4 (e4Header dtBb010002 332 ++ List.replicate 332 octet)

/-- The E0 exchange, and a first readback that overtakes the completion of its command. -/
def answeredEarly : List Event :=
  [.nextRequest, .outComplete none, .handleA0 (exampleFrame 0xb0 [0xe0, 1]),
    .handleA0 (exampleFrame 0xe0 [0, 2]), .nextRequest, .handleA0 (exampleFrame 0xb0 [0xe4, 1]),
    .handleA0 (exampleReadback 1)]

/-- The first pairing of a reader, at that point. -/
theorem answeredEarly_reached : ∃ built start,
    activationNew .constant (SelfState.policyForOwner 0 0) (some (Block.zero 32)) none
      (.directory SelfState.emptyDirectory) exampleEvidence = (.ok built, start) ∧
    let reached := (run (step .constant) ⟨built, start⟩ answeredEarly).1.activation
    reached.phase = .readBb010002 ∧ reached.logicalDone = true ∧
      (reached.handleA0 (exampleReadback 2)).2.isOk = true ∧
      (reached.handleA0 (exampleReadback 2)).1.readbackBb010002 ≠ reached.readbackBb010002 := by
  have computed : constructedWith (fun built start =>
      let reached := (run (step .constant) ⟨built, start⟩ answeredEarly).1.activation
      decide (reached.phase = .readBb010002 ∧ reached.logicalDone = true ∧
        (reached.handleA0 (exampleReadback 2)).2.isOk = true ∧
        (reached.handleA0 (exampleReadback 2)).1.readbackBb010002 ≠ reached.readbackBb010002))
      (activationNew .constant (SelfState.policyForOwner 0 0) (some (Block.zero 32)) none
        (.directory SelfState.emptyDirectory) exampleEvidence) = true := by
    decide +kernel
  obtain ⟨built, start, constructed, holds⟩ := exists_of_constructedWith computed
  exact ⟨built, start, constructed, of_decide_eq_true holds⟩

end Pairing

/-! ## The three components -/

/-- **Responses that come twice.**  In every state that the preflight or the session reaches with
the response of its phase taken, any further frame ends it and leaves what it holds; a pairing that
reads a block back does the same except for a frame that is itself a response of the phase. -/
theorem answered_phase_refuses (crypto : Primitives) :
    (∀ events frame,
      let reached := (run LivePreflight.step LivePreflight.new events).1
      reached.logicalDone = true → reached.Refuses frame) ∧
    (∀ generation material inputs frame answers,
      let reached :=
        (run (SecureSession.step crypto) (SecureSession.initial generation material) inputs).1
      reached.phase ≠ .terminal → reached.logicalDone = true →
        reached.Refuses crypto frame answers) ∧
    ∀ policy generated fault path evidence built start events frame,
      Pairing.activationNew crypto policy generated fault path evidence = (.ok built, start) →
      let reached := (run (Pairing.step crypto) ⟨built, start⟩ events).1.activation
      reached.Answered → (reached.Refuses frame ↔ ¬ Pairing.IsReadback reached.phase frame) := by
  refine ⟨?_, ?_, ?_⟩
  · intro events frame reached answered
    exact LivePreflight.answered_refuses answered frame
  · intro generation material inputs frame answers reached running answered
    exact SecureSession.answered_refuses running answered crypto frame answers
  · intro policy generated fault path evidence built start events frame constructed reached window
    have initially := Pairing.activationNew_inOrder constructed
    exact Pairing.answered_refuses_iff (Pairing.run_inOrder initially start events) window frame

/-- Answers that overtake the completion of their command, and one frame more. -/
theorem answered_phase_refuses_once_more :
    (run LivePreflight.step LivePreflight.new
      [.nextRequest, .handleA0 SecureSession.ackA2, .handleA0 SecureSession.typedA2]).1.Refuses
        SecureSession.typedA2 ∧
    (run (SecureSession.step SecureSession.plainCrypto)
      (SecureSession.initial 1 SecureSession.plainMaterial)
      [⟨.start, [.pending]⟩, ⟨.handleA0 SecureSession.ackA2, []⟩,
        ⟨.handleA0 SecureSession.typedA2, []⟩]).1.Refuses SecureSession.plainCrypto
        SecureSession.typedA2 [] ∧
    ∃ built start, (run (Pairing.step .constant) ⟨built, start⟩
      Pairing.answeredEarly).1.activation.Refuses SecureSession.typedA2 := by
  refine ⟨?_, ?_, ?_⟩
  · exact (answered_phase_refuses .constant).1 _ _ (by decide +kernel)
  · exact (answered_phase_refuses SecureSession.plainCrypto).2.1 1 SecureSession.plainMaterial _ _ []
      (by decide +kernel) (by decide +kernel)
  · obtain ⟨built, start, constructed, phase, answered, -⟩ := Pairing.answeredEarly_reached
    refine ⟨built, start, ((answered_phase_refuses .constant).2.2 _ _ _ _ _ built start
      Pairing.answeredEarly SecureSession.typedA2 constructed ⟨.inl phase, answered⟩).mpr ?_⟩
    rintro ⟨message, block, parsed, control, -⟩
    have other : parseReceived SecureSession.typedA2 = .ok ⟨0xa2, [1, 2, 3]⟩ := by decide +kernel
    rw [other] at parsed
    cases parsed
    cases control

/-- A second BB010002 is taken in place of the first. -/
theorem second_readback_is_taken : ∃ built start,
    Pairing.activationNew .constant (SelfState.policyForOwner 0 0) (some (Block.zero 32)) none
      (.directory SelfState.emptyDirectory) Pairing.exampleEvidence = (.ok built, start) ∧
    let reached := (run (Pairing.step .constant) ⟨built, start⟩ Pairing.answeredEarly).1.activation
    reached.Answered ∧ ¬ reached.Refuses (Pairing.exampleReadback 2) ∧
      (reached.handleA0 (Pairing.exampleReadback 2)).1.readbackBb010002 ≠
        reached.readbackBb010002 := by
  obtain ⟨built, start, constructed, phase, answered, -, changed⟩ := Pairing.answeredEarly_reached
  exact ⟨built, start, constructed, ⟨.inl phase, answered⟩,
    fun refuses => changed refuses.readbackBb010002, changed⟩

end Goodix
