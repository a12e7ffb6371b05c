import Goodix.SecureSession.Order

/-! # Runs of a secure session in order

Every run whose typed responses find the command of their phase submitted keeps the
order.  A run that does not is at the end: the first phase can be left before its
command was ever sent.
-/

namespace Goodix.SecureSession

open Octets A0Protocol Traces Machines

variable {material : SecureMaterial} {log emitted : List Observed} {before after : Session}

/-! ## What moves keep of a run -/

/-- A run so far. -/
structure InOrder (start : Session) (log : List Observed) (session : Session) : Prop where
  coherent : Coherent session
  ordered : Justified (Ordered start.material) log
  running : session.phase ≠ .terminal → Running start.material log session
  ended : session.phase = .terminal → ∃ earlier seen told,
    log = earlier ++ [.phase seen, .terminal told] ∧
      (∀ entry ∈ earlier, entry.isTerminal = false) ∧ commands earlier <+: commandOrder
  shown : session.phase = start.phase ∨
    ∃ seen, .phase seen ∈ log ∧ seen.phase = session.phase

/-- A move either stays in its phase or tells the new one. -/
theorem move_shown {allowed : Session → Observed → Prop} (move : Move allowed before emitted after) :
    after.phase = before.phase ∨ ∃ seen, .phase seen ∈ emitted ∧ seen.phase = after.phase := by
  cases move with
  | advance done free early => exact .inr ⟨_, List.mem_singleton.mpr rfl, rfl⟩
  | finish phase established free idle empty unpaced =>
    exact .inr ⟨_, List.mem_singleton.mpr rfl, rfl⟩
  | failed seen final error running shown ended =>
    exact .inr ⟨seen, List.mem_cons_self, shown.trans ended.symm⟩
  | _ => exact .inl rfl

/-- Phases are never gone back to. -/
theorem move_le {allowed : Session → Observed → Prop} (move : Move allowed before emitted after) :
    before.phase ≤ after.phase := by
  cases move with
  | advance done free early =>
    have index := Phase.index_next (lt_terminal_of_le_d1 early)
    exact Nat.le_of_lt (Nat.lt_of_lt_of_eq (Nat.lt_succ_self _) index.symm)
  | finish phase established free idle empty unpaced =>
    rw [phase]
    show Phase.tls ≤ Phase.stop
    decide
  | failed seen final error running shown ended =>
    rw [ended]
    cases before.phase <;> decide
  | _ => exact Nat.le_refl _

theorem take_prefix_commandOrder (count : Nat) : commandOrder.take count <+: commandOrder :=
  List.take_prefix _ _

theorem move_inOrder {start : Session} (inOrder : InOrder start log before)
    (move : ProperMove before emitted after) : InOrder start (log ++ emitted) after := by
  have shown : after.phase = start.phase ∨
      ∃ seen, .phase seen ∈ log ++ emitted ∧ seen.phase = after.phase := by
    rcases move_shown move with same | ⟨seen, told, phase⟩
    · rw [same]
      rcases inOrder.shown with same | ⟨seen, told, phase⟩
      · exact .inl same
      · exact .inr ⟨seen, List.mem_append_left _ told, phase⟩
    · exact .inr ⟨seen, List.mem_append_right _ told, phase⟩
  by_cases alive : before.phase = .terminal
  · -- nothing comes after the end
    obtain ⟨rfl, ended⟩ := move_terminal alive move
    rw [List.append_nil] at shown ⊢
    exact ⟨coherent_terminal ended, inOrder.ordered, fun running => absurd ended running,
      fun _ => inOrder.ended alive, shown⟩
  have running := inOrder.running alive
  refine ⟨move_coherent inOrder.coherent move, move_ordered running inOrder.ordered move,
    fun alive' => move_running inOrder.coherent alive running move alive', fun ended => ?_, shown⟩
  cases move with
  | failed seen final error running' shown ended =>
    refine ⟨log, seen, error, rfl, running.running, ?_⟩
    rw [running.commands]
    exact take_prefix_commandOrder _
  | advance done free early =>
    exact absurd ended (next_ne_terminal_of_le_d1 early)
  | finish phase established free idle empty unpaced => cases ended
  | _ => exact absurd ended alive

/-! ## Runs -/

/-- A frame with the typed response that a session waits for after an ACK. -/
structure AnswersPhase (crypto : Primitives) (session : Session) (frame : List UInt8) : Prop where
  early : session.phase < .d1
  acknowledged : session.ackSeen = true
  unanswered : session.logicalDone = false
  full : phaseAckOnly session.phase = false
  typed : ∃ message, parseReceived frame = .ok message ∧
    message.control = phaseControl session.phase ∧
      validateTyped crypto session.material session.phase message.body = .ok ()

/-- The condition on an event: the typed response that ends a phase only comes while the command of
the phase is submitted. -/
def Proper (crypto : Primitives) (session : Session) (input : Input) : Prop :=
  ∀ frame, input.event = .handleA0 frame → AnswersPhase crypto session frame →
    session.commandSubmitted = true

theorem answersPhase_of_typed {crypto : Primitives} {session : Session} {frame body : List UInt8}
    (typed : session.a0Verdict crypto frame = .typed body) : AnswersPhase crypto session frame := by
  obtain ⟨early, undone, message, parsed, same⟩ := a0Verdict_early crypto session frame
    (by rw [typed]; exact fun _ refused => by cases refused)
  obtain ⟨acknowledged, full, control, valid⟩ := messageVerdict_typed (same.symm.trans typed)
  exact ⟨early, acknowledged, undone, full, message, parsed, control, valid⟩

theorem initial_inOrder (generation : UInt64) (material : SecureMaterial) :
    InOrder (initial generation material) [] (initial generation material) where
  coherent := initial_coherent generation material
  ordered := justified_nil _
  running := fun _ =>
    { material := rfl
      running := fun earlier inside => by cases inside
      commands := rfl
      left := fun phase _ early => absurd early (Nat.not_lt_zero _)
      acked := fun seen => by cases seen
      answered := fun done => by cases done
      submitted := fun submitted => by cases submitted
      completed := fun submitted => by cases submitted
      flight := fun seen => by cases seen }
  ended := fun ended => by cases ended
  shown := .inl rfl

theorem run_inOrder {crypto : Primitives} {generation : UInt64} {material : SecureMaterial}
    {inputs : List Input}
    (proper : Meets (step crypto) (Proper crypto) (initial generation material) inputs) :
    InOrder (initial generation material)
      (run (step crypto) (initial generation material) inputs).2
      (run (step crypto) (initial generation material) inputs).1 := by
  refine (run_invariant_of_meets (step crypto) (Proper crypto)
    (fun log session => InOrder (initial generation material) log session ∧ Settled session)
    ?_ inputs [] _ ⟨initial_inOrder generation material, initial_settled generation material⟩
    proper).1
  rintro log session input ⟨inOrder, settled⟩ proper
  have produced : Producing Awaited := by
    intro session record phase body same
    cases same
  obtain ⟨moves, settled'⟩ := @step_moves Awaited crypto session input inOrder.coherent settled
    (fun frame body event typed _ _ _ => proper frame event (answersPhase_of_typed typed))
    fun _ _ _ _ => produced
  exact ⟨moves.invariant (InOrder _) (fun _ _ _ _ kept move => move_inOrder kept move) log inOrder,
    settled'⟩

/-- What every event keeps, whatever its typed responses find. -/
theorem step_coherent (crypto : Primitives) {session : Session} (input : Input)
    (coherent : Coherent session) (settled : Settled session) :
    Coherent (step crypto session input).1 ∧ Settled (step crypto session input).1 := by
  obtain ⟨moves, settled'⟩ := @step_moves (fun _ _ => True) crypto session input coherent settled
    (fun _ _ _ _ => trivial) fun _ _ _ _ _ _ => trivial
  exact ⟨moves.state_invariant Coherent (fun _ _ _ holds move => move_coherent holds move) coherent,
    settled'⟩

/-! ## Where a flight comes from -/

theorem move_record {allowed : Session → Observed → Prop} {phase : Phase} {record : List UInt8}
    (move : Move allowed before emitted after) (inside : .record phase record ∈ emitted) :
    phase = before.phase ∧ allowed before (.record phase record) := by
  cases move with
  | record record running unstopped produced =>
    cases List.mem_singleton.mp inside
    exact ⟨rfl, produced⟩
  | pacedBegan _ _ _ _ _ => simp at inside
  | failed _ _ _ _ _ _ => simp at inside
  | _ => first
    | cases List.mem_singleton.mp inside
    | cases inside

/-- Within one event, a record of D1 comes from a B0 frame that is handled in D1. -/
theorem step_flight {crypto : Primitives} {session : Session} {input : Input}
    (coherent : Coherent session) (settled : Settled session) {record : List UInt8}
    (flown : .record .d1 record ∈ (step crypto session input).2) :
    session.phase = .d1 ∧ ∃ frame push, input.event = .handleB0 frame push := by
  let allowed : Session → Observed → Prop := fun _ observed =>
    ∀ phase record, observed = .record phase record →
      .d1 ≤ session.phase ∧ ∃ frame push, input.event = .handleB0 frame push
  obtain ⟨moves, -⟩ := @step_moves allowed crypto session input coherent settled
    (fun _ _ _ _ _ _ same => by cases same)
    (fun frame push event late _ _ _ _ _ => ⟨late, frame, push, event⟩)
  -- phases only grow, and every record was allowed
  have kept := moves.invariant
    (fun log current => session.phase ≤ current.phase ∧
      ∀ record, .record .d1 record ∈ log →
        session.phase ≤ .d1 ∧ .d1 ≤ session.phase ∧
          ∃ frame push, input.event = .handleB0 frame push)
    (fun log before emitted after holds move => by
      refine ⟨Nat.le_trans holds.1 (move_le move), fun record inside => ?_⟩
      rcases List.mem_append.mp inside with old | new
      · exact holds.2 record old
      · obtain ⟨phase, produced⟩ := move_record move new
        have early := holds.1
        rw [← phase] at early
        exact ⟨early, produced _ _ rfl⟩)
    [] ⟨Nat.le_refl _, fun record inside => by cases inside⟩
  obtain ⟨early, late, event⟩ := kept.2 record flown
  exact ⟨Phase.index_injective (Nat.le_antisymm early late), event⟩

theorem run_flights (crypto : Primitives) (generation : UInt64) (material : SecureMaterial)
    (inputs : List Input) (record : List UInt8)
    (flown : .record .d1 record ∈ (run (step crypto) (initial generation material) inputs).2) :
    Flown crypto (initial generation material) inputs record := by
  obtain ⟨earlier, input, later, rfl, inside⟩ := mem_run (step crypto) flown
  have reached := run_state_invariant (step crypto)
    (fun session => Coherent session ∧ Settled session)
    ⟨initial_coherent generation material, initial_settled generation material⟩
    (fun session input ⟨coherent, settled⟩ => step_coherent crypto input coherent settled) earlier
  obtain ⟨phase, frame, push, event⟩ := step_flight reached.1 reached.2 inside
  obtain ⟨event', answers⟩ := input
  cases event
  exact ⟨earlier, frame, push, answers, later, rfl, phase, inside⟩

/-! ## The order of a run -/

theorem filter_isTerminal_nil (running : ∀ entry ∈ log, entry.isTerminal = false) :
    log.filter Observed.isTerminal = [] := by
  rw [List.filter_eq_nil_iff]
  intro entry inside terminal
  rw [running entry inside] at terminal
  cases terminal

/-- The end is told once, when it is reached. -/
theorem InOrder.terminal {start session : Session} (inOrder : InOrder start log session) :
    (log.filter Observed.isTerminal).length = if session.phase = .terminal then 1 else 0 := by
  split
  · rename_i ended
    obtain ⟨earlier, seen, told, rfl, running, -⟩ := inOrder.ended ended
    rw [List.filter_append, filter_isTerminal_nil running]
    rfl
  · rename_i alive
    rw [filter_isTerminal_nil (inOrder.running alive).running]
    rfl

theorem InOrder.commands {start session : Session} (inOrder : InOrder start log session) :
    commands log <+: commandOrder := by
  by_cases ended : session.phase = .terminal
  · obtain ⟨earlier, seen, told, rfl, -, sent⟩ := inOrder.ended ended
    rw [commands_plain earlier (by simp [Observed.commandPhase?])]
    exact sent
  · rw [(inOrder.running ended).commands]
    exact take_prefix_commandOrder _

/-- From D1 on an A0 frame ends the session. -/
theorem step_refuses (crypto : Primitives) {session : Session} (late : .d1 ≤ session.phase)
    (frame : List UInt8) (answers : List Answer) :
    (step crypto session ⟨.handleA0 frame, answers⟩).1.phase = .terminal := by
  simp only [step, Call.perform, Call.handleA0, Session.a0Verdict, if_pos late, protocolError]
  split
  · assumption
  · exact failError_ends _ _

theorem run_absorbing (crypto : Primitives) {session : Session} (coherent : Coherent session)
    (settled : Settled session) (ended : session.phase = .terminal) (inputs : List Input) :
    (run (step crypto) session inputs).1.phase = .terminal := by
  refine (run_state_invariant (step crypto)
    (fun session => (Coherent session ∧ Settled session) ∧ session.phase = .terminal)
    ⟨⟨coherent, settled⟩, ended⟩ ?_ inputs).2
  rintro session input ⟨⟨coherent, settled⟩, ended⟩
  refine ⟨step_coherent crypto input coherent settled, ?_⟩
  obtain ⟨moves, -⟩ := @step_moves (fun _ _ => True) crypto session input coherent settled
    (fun _ _ _ _ => trivial) fun _ _ _ _ _ _ => trivial
  exact moves.state_invariant (fun session => session.phase = .terminal)
    (fun _ _ _ ended move => (move_terminal ended move).2) ended

/-- **The order of a secure session.**  In every run whose typed responses find the command of
their phase submitted, the commands are sent once and in order, every phase is left only when
it is complete, and the end is reached once and for good. -/
theorem session_order_of_proper (crypto : Primitives) (generation : UInt64)
    (material : SecureMaterial) (inputs : List Input)
    (proper : Meets (step crypto) (Proper crypto) (initial generation material) inputs) :
    SessionOrder crypto (initial generation material) inputs := by
  have inOrder := run_inOrder proper
  refine ⟨inOrder.commands, inOrder.ordered, fun alive => (inOrder.running alive).left,
    inOrder.shown, run_flights crypto generation material inputs, inOrder.terminal, ?_,
    fun late => step_refuses crypto late⟩
  rintro ⟨earlier, ⟨later, rfl⟩, ended⟩
  rw [run_append]
  obtain ⟨coherent, settled⟩ := run_state_invariant (step crypto)
    (fun session => Coherent session ∧ Settled session)
    ⟨initial_coherent generation material, initial_settled generation material⟩
    (fun session input ⟨coherent, settled⟩ => step_coherent crypto input coherent settled) earlier
  exact run_absorbing crypto coherent settled ended later

/-! ## Two runs -/

/-- Digests that are all the same, and not missing. -/
def plainCrypto : Primitives :=
  { Primitives.constant with checksumSha256 := fun _ => ⟨List.replicate 32 1, rfl⟩ }

/-- A CONFIG_90 that sets the four DAC registers to 0, with its finalizer. -/
def plainConfig : List UInt8 :=
  List.replicate 117 0 ++ [0x20, 2, 0, 0, 0x36, 2, 0, 0, 0x38, 2, 0, 0, 0x3a, 2, 0, 0] ++
    List.replicate 89 0 ++ [0x53, 0x92]

def plainMaterial : SecureMaterial where
  expectedIdentity := LivePreflight.app12509Identity
  e4Validator := List.replicate 32 0
  e4ValidatorSha256 := ⟨List.replicate 32 1, rfl⟩
  a2ResponseSha256 := ⟨List.replicate 32 1, rfl⟩
  chip82ResponseSha256 := ⟨List.replicate 32 1, rfl⟩
  otpA6ResponseSha256 := ⟨List.replicate 32 1, rfl⟩
  dacValues := fun _ => 0
  config90 := plainConfig
  config90Sha256 := ⟨List.replicate 32 1, rfl⟩
  psk := List.replicate 32 7

/-- The ACK of an A2 command, with status 1. -/
def ackA2 : List UInt8 := [0xa0, 6, 0, 0xa6, 0xb0, 3, 0, 0xa2, 1, 0x54]

/-- A typed response to an A2 command. -/
def typedA2 : List UInt8 := [0xa0, 7, 0, 0xa7, 0xa2, 4, 0, 1, 2, 3, 0xfe]

/-- A session that starts, and whose first command completes between its two answers. -/
theorem session_order_of_first_commands :
    let inputs : List Input :=
      [⟨.start, [.pending]⟩, ⟨.handleA0 ackA2, []⟩, ⟨.outComplete 1 none, []⟩,
        ⟨.handleA0 typedA2, [.pending]⟩]
    SessionOrder plainCrypto (initial 1 plainMaterial) inputs ∧
      commands (run (step plainCrypto) (initial 1 plainMaterial) inputs).2 =
        [.reentryRecoveryA2, .a8] := by
  refine ⟨session_order_of_proper plainCrypto 1 plainMaterial _ ⟨?_, ?_, ?_, ?_, trivial⟩,
    by decide +kernel⟩
  · intro frame event
    cases event
  · intro frame event answers
    rfl
  · intro frame event
    cases event
  · intro frame event answers
    decide +kernel

/-- Before the start, the two answers to a command that was not sent lead to the next one. -/
theorem unsent_command_is_skipped :
    let inputs : List Input := [⟨.handleA0 ackA2, []⟩, ⟨.handleA0 typedA2, [.pending]⟩]
    new plainCrypto 1 plainMaterial = .ok (initial 1 plainMaterial) ∧
      ¬ SessionOrder plainCrypto (initial 1 plainMaterial) inputs := by
  refine ⟨by decide +kernel, fun order => ?_⟩
  have sent : commands (run (step plainCrypto) (initial 1 plainMaterial)
      [⟨.handleA0 ackA2, []⟩, ⟨.handleA0 typedA2, [.pending]⟩]).2 = [.a8] := by decide +kernel
  have prefixed := order.commands
  rw [sent] at prefixed
  exact absurd prefixed (by decide)

end Goodix.SecureSession
