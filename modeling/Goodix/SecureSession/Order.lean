import Goodix.SecureSession.Calls

/-! # The order of a secure session

Commands go out once and in one order, and a phase is left only when its command was
sent and everything it waits for has come.  The one way around this is a typed response
taken while the command of its phase is not submitted: `handle_a0` looks at the ACK and
at the response, and never at `command_submitted`.
-/

namespace Goodix.SecureSession

open Octets A0Protocol Traces Machines

/-! ## What a log has to show -/

/-- The phases that send a command, in their order. -/
def commandOrder : List Phase :=
  [.reentryRecoveryA2, .a8, .e4, .oemColdStartA21, .chip82, .otpA6, .oemColdStartA22, .mode70,
    .dac220, .dac236, .dac238, .dac23A, .config90, .d1]

def Observed.commandPhase? : Observed → Option Phase
  | .command sent _ => some sent
  | _ => none

def Observed.isTerminal : Observed → Bool
  | .terminal _ => true
  | _ => false

/-- The phases whose command was submitted. -/
def commands (log : List Observed) : List Phase := log.filterMap Observed.commandPhase?

theorem commands_plain (log : List Observed) {emitted : List Observed}
    (plain : ∀ observed ∈ emitted, observed.commandPhase? = none) :
    commands (log ++ emitted) = commands log := by
  have none : emitted.filterMap Observed.commandPhase? = [] :=
    List.filterMap_eq_nil_iff.mpr plain
  simp [commands, none]

theorem commands_command (log : List Observed) (phase : Phase) (frame : List UInt8) :
    commands (log ++ [.command phase frame]) = commands log ++ [phase] := by
  simp only [commands, List.filterMap_append]
  rfl

/-- Everything a phase waits for besides its OUT has come. -/
structure Answered (log : List Observed) (phase : Phase) : Prop where
  ack : phase ≠ .d1 → .ack phase ∈ log
  typed : phase ≠ .d1 → phaseAckOnly phase = false → ∃ body, .typed phase body ∈ log
  flight : phase = .d1 → ∃ record, .record .d1 record ∈ log

/-- The phase may be left: its command was sent and completed, and it is answered. -/
structure Completed (log : List Observed) (phase : Phase) : Prop where
  command : ∃ frame, .command phase frame ∈ log
  outComplete : .outComplete .a0 phase ∈ log
  answered : Answered log phase

/-- The handshake is over and nothing of it is left to send. -/
structure Finished (session : Session) : Prop where
  established : session.tls = .established
  free : session.outPending = false
  idle : session.b0Logical = none
  empty : session.tlsRecords = []
  unpaced : session.pacePending = false

/-- What an entry of the log says about the entries before it. -/
structure Ordered (material : SecureMaterial) (before : List Observed) (observed : Observed) :
    Prop where
  -- the terminal callback is the last thing that is seen
  running : ∀ earlier ∈ before, earlier.isTerminal = false
  command : ∀ phase frame, observed = .command phase frame →
    commands before = commandOrder.take phase.index ∧
      buildPhaseFrame material phase = .ok frame
  ack : ∀ phase, observed = .ack phase → phase < .d1
  typed : ∀ phase body, observed = .typed phase body → phase < .d1
  left : ∀ session, observed = .phase session → session.phase ≠ .terminal →
    ∀ phase, phase ≤ .d1 → phase < session.phase → Completed before phase
  stop : ∀ session, observed = .phase session → session.phase = .stop → Finished session

/-- A record of the first flight comes out of a B0 frame that is handled in D1. -/
def Flown (crypto : Primitives) (start : Session) (inputs : List Input)
    (record : List UInt8) : Prop :=
  ∃ earlier frame push answers later,
    inputs = earlier ++ ⟨.handleB0 frame push, answers⟩ :: later ∧
      (run (step crypto) start earlier).1.phase = .d1 ∧
      .record .d1 record ∈
        (step crypto (run (step crypto) start earlier).1 ⟨.handleB0 frame push, answers⟩).2

/-- The order of one run. -/
structure SessionOrder (crypto : Primitives) (start : Session) (inputs : List Input) : Prop where
  commands : commands (run (step crypto) start inputs).2 <+: commandOrder
  ordered : Justified (Ordered start.material) (run (step crypto) start inputs).2
  left : (run (step crypto) start inputs).1.phase ≠ .terminal → ∀ phase, phase ≤ .d1 →
    phase < (run (step crypto) start inputs).1.phase →
      Completed (run (step crypto) start inputs).2 phase
  -- every phase that is entered is told
  shown : (run (step crypto) start inputs).1.phase = start.phase ∨
    ∃ session, .phase session ∈ (run (step crypto) start inputs).2 ∧
      session.phase = (run (step crypto) start inputs).1.phase
  flights : ∀ record, .record .d1 record ∈ (run (step crypto) start inputs).2 →
    Flown crypto start inputs record
  terminal : ((run (step crypto) start inputs).2.filter Observed.isTerminal).length =
    if (run (step crypto) start inputs).1.phase = .terminal then 1 else 0
  absorbing : Visits (step crypto) (fun session => session.phase = .terminal) start inputs →
    (run (step crypto) start inputs).1.phase = .terminal
  refuses : .d1 ≤ (run (step crypto) start inputs).1.phase → ∀ frame answers,
    (step crypto (run (step crypto) start inputs).1 ⟨.handleA0 frame, answers⟩).1.phase = .terminal

/-! ## The log of a running session -/

theorem Answered.grow {log : List Observed} {phase : Phase} (answered : Answered log phase)
    (emitted : List Observed) : Answered (log ++ emitted) phase where
  ack := fun early => List.mem_append_left _ (answered.ack early)
  typed := fun early full =>
    let ⟨body, seen⟩ := answered.typed early full
    ⟨body, List.mem_append_left _ seen⟩
  flight := fun late =>
    let ⟨record, seen⟩ := answered.flight late
    ⟨record, List.mem_append_left _ seen⟩

theorem Completed.grow {log : List Observed} {phase : Phase} (completed : Completed log phase)
    (emitted : List Observed) : Completed (log ++ emitted) phase where
  command :=
    let ⟨frame, sent⟩ := completed.command
    ⟨frame, List.mem_append_left _ sent⟩
  outComplete := List.mem_append_left _ completed.outComplete
  answered := completed.answered.grow emitted

/-- What the latches of a running session say about its log. -/
structure Running (material : SecureMaterial) (log : List Observed) (session : Session) : Prop where
  material : session.material = material
  running : ∀ earlier ∈ log, earlier.isTerminal = false
  commands : commands log =
    commandOrder.take (session.phase.index + if session.commandSubmitted then 1 else 0)
  left : ∀ phase, phase ≤ .d1 → phase < session.phase → Completed log phase
  acked : session.ackSeen = true → .ack session.phase ∈ log
  answered : session.logicalDone = true →
    session.commandSubmitted = true ∧ Answered log session.phase
  submitted : session.commandSubmitted = true → ∃ frame, .command session.phase frame ∈ log
  completed : session.commandSubmitted = true → session.outPending = false →
    .outComplete .a0 session.phase ∈ log
  flight : session.d1ServerFlightSeen = true → ∃ record, .record .d1 record ∈ log

section Running

variable {material : SecureMaterial} {log : List Observed} {session : Session}

/-- A log that grows by nothing of note still shows it. -/
theorem Running.grow (running : Running material log session) {emitted : List Observed}
    (plain : ∀ observed ∈ emitted, observed.isTerminal = false ∧ observed.commandPhase? = none) :
    Running material (log ++ emitted) session where
  material := running.material
  running := fun earlier inside => by
    rcases List.mem_append.mp inside with old | new
    · exact running.running earlier old
    · exact (plain earlier new).1
  commands := by
    rw [commands_plain log fun observed inside => (plain observed inside).2]
    exact running.commands
  left := fun phase early before => (running.left phase early before).grow emitted
  acked := fun seen => List.mem_append_left _ (running.acked seen)
  answered := fun done =>
    let ⟨submitted, answered⟩ := running.answered done
    ⟨submitted, answered.grow emitted⟩
  submitted := fun submitted =>
    let ⟨frame, sent⟩ := running.submitted submitted
    ⟨frame, List.mem_append_left _ sent⟩
  completed := fun submitted free => List.mem_append_left _ (running.completed submitted free)
  flight := fun seen =>
    let ⟨record, flown⟩ := running.flight seen
    ⟨record, List.mem_append_left _ flown⟩

/-- A phase that is done may be left. -/
theorem Running.done (running : Running material log session) (done : session.logicalDone = true)
    (free : session.outPending = false) : Completed log session.phase where
  command := running.submitted (running.answered done).1
  outComplete := running.completed (running.answered done).1 free
  answered := (running.answered done).2

/-- Only the latches of the phase matter. -/
theorem Running.same {after : Session} (running : Running material log session)
    (kept : after.material = session.material) (phase : after.phase = session.phase)
    (submitted : after.commandSubmitted = session.commandSubmitted)
    (ack : after.ackSeen = session.ackSeen) (done : after.logicalDone = session.logicalDone)
    (flight : after.d1ServerFlightSeen = session.d1ServerFlightSeen)
    (completed : after.commandSubmitted = true → after.outPending = false →
      .outComplete .a0 after.phase ∈ log) : Running material log after where
  material := kept.trans running.material
  running := running.running
  commands := by rw [phase, submitted, running.commands]
  left := fun earlier early before => running.left earlier early (by rwa [phase] at before)
  acked := by
    rw [phase, ack]
    exact running.acked
  answered := by
    rw [phase, done, submitted]
    exact running.answered
  submitted := by
    rw [phase, submitted]
    exact running.submitted
  completed := completed
  flight := by
    rw [flight]
    exact running.flight

theorem take_commandOrder {phase : Phase} (early : phase < .tls) :
    commandOrder.take phase.index ++ [phase] = commandOrder.take (phase.index + 1) := by
  cases phase <;> first
    | rfl
    | exact absurd early (by decide)

theorem lt_terminal_of_le_d1 {phase : Phase} (early : phase ≤ .d1) : phase < .terminal :=
  Nat.lt_of_le_of_lt early (show Phase.d1 < Phase.terminal by decide)

end Running

/-! ## What every move keeps -/

/-- Typed responses are only taken while the command of the phase is submitted. -/
def Awaited (session : Session) (observed : Observed) : Prop :=
  ∀ phase body, observed = .typed phase body → session.commandSubmitted = true

abbrev ProperMove : Session → List Observed → Session → Prop := Move Awaited

section Moves

variable {material : SecureMaterial} {log emitted : List Observed} {before after : Session}

/-- A terminal session is silent and stays terminal. -/
theorem move_terminal {allowed : Session → Observed → Prop} (ended : before.phase = .terminal)
    (move : Move allowed before emitted after) : emitted = [] ∧ after.phase = .terminal := by
  have late {phase : Phase} (early : before.phase ≤ phase) : Phase.terminal ≤ phase := by
    rwa [ended] at early
  cases move with
  | started early =>
    rw [ended] at early
    cases early
  | command frame early fresh free built =>
    exact absurd (late (Nat.le_of_lt early)) (by decide)
  | commandDone running pending kind => exact absurd ended running
  | ack early => exact absurd (late (Nat.le_of_lt early)) (by decide)
  | ackDone early seen only submitted => exact absurd (late (Nat.le_of_lt early)) (by decide)
  | typed body early seen proper => exact absurd (late (Nat.le_of_lt early)) (by decide)
  | flight phase seen submitted =>
    rw [ended] at phase
    cases phase
  | advance done free early => exact absurd (late early) (by decide)
  | record record running unstopped produced => exact absurd ended running
  | began record rest phase queued free idle unpaced first =>
    rw [ended] at phase
    cases phase
  | pacedBegan record rest running queued pacing => exact absurd ended running
  | packet logical holds running free more => exact absurd ended running
  | chunkDone logical running pending holds more => exact absurd ended running
  | recordDone logical running pending holds sent => exact absurd ended running
  | scheduled phase free idle =>
    rw [ended] at phase
    cases phase
  | paced running pacing => exact absurd ended running
  | tls state => exact ⟨rfl, ended⟩
  | finish phase established free idle empty unpaced =>
    rw [ended] at phase
    cases phase
  | plaintext octets phase =>
    rw [ended] at phase
    cases phase
  | configured postTlsPlaintext => exact ⟨rfl, ended⟩
  | handedOff => exact ⟨rfl, ended⟩
  | failed seen final error running shown over' => exact absurd ended running

/-- Advancing completes the phase that is left and begins the next one. -/
theorem running_advance (running : Running material log before)
    (done : before.logicalDone = true) (free : before.outPending = false)
    (early : before.phase ≤ .d1) :
    Running material (log ++ [.phase { before with phase := before.phase.next }])
      { before with
        phase := before.phase.next
        ackSeen := false
        logicalDone := false
        commandSubmitted := false } where
  material := running.material
  running := fun earlier inside => by
    rcases List.mem_append.mp inside with old | new
    · exact running.running earlier old
    · rw [List.mem_singleton.mp new]
      rfl
  commands := by
    have index := Phase.index_next (lt_terminal_of_le_d1 early)
    have sent := running.commands
    rw [(running.answered done).1] at sent
    rw [commands_plain log (by simp [Observed.commandPhase?]), sent]
    simp [index]
  left := fun phase early' before' => by
    rw [Phase.lt_iff, show Phase.index _ = _ from Phase.index_next (lt_terminal_of_le_d1 early)]
      at before'
    rcases Nat.lt_succ_iff_lt_or_eq.mp before' with older | same
    · exact (running.left phase early' older).grow _
    · rw [Phase.index_injective same]
      exact (running.done done free).grow _
  acked := nofun
  answered := nofun
  submitted := nofun
  completed := nofun
  flight := fun seen =>
    let ⟨record, flown⟩ := running.flight seen
    ⟨record, List.mem_append_left _ flown⟩

theorem plain_singleton {observed : Observed} (terminal : observed.isTerminal = false)
    (plain : observed.commandPhase? = none) :
    ∀ entry ∈ [observed], entry.isTerminal = false ∧ entry.commandPhase? = none := by
  intro entry inside
  rw [List.mem_singleton.mp inside]
  exact ⟨terminal, plain⟩

/-- Before TLS no command is left over from another phase, and from TLS on there is none. -/
theorem Latches.no_command {session : Session} (latches : Latches session) {logical : List UInt8}
    (holds : session.b0Logical = some logical) : session.commandSubmitted = false := by
  have sending := latches.sending (by rw [holds]; rfl)
  exact (latches.late (by rw [sending.1]; decide)).2.2

section Cases

variable (running : Running material log before)

include running

theorem running_command (frame : List UInt8) (early : before.phase < .tls)
    (fresh : before.commandSubmitted = false) :
    Running material (log ++ [.command before.phase frame])
      { before with outPending := true, outKind := .a0, commandSubmitted := true } where
  material := running.material
  running := fun earlier inside => by
    rcases List.mem_append.mp inside with old | new
    · exact running.running earlier old
    · rw [List.mem_singleton.mp new]
      rfl
  commands := by
    have sent := running.commands
    rw [fresh] at sent
    rw [commands_command, sent]
    exact take_commandOrder early
  left := fun phase early' before' => (running.left phase early' before').grow _
  acked := fun seen => List.mem_append_left _ (running.acked seen)
  answered := fun done => by
    rw [(running.answered done).1] at fresh
    cases fresh
  submitted := fun _ => ⟨frame, by simp⟩
  completed := fun _ pending => by cases pending
  flight := fun seen =>
    let ⟨record, flown⟩ := running.flight seen
    ⟨record, List.mem_append_left _ flown⟩

/-- The log grows by an entry of no note, and the latches of the phase stay. -/
theorem running_plain {observed : Observed} (terminal : observed.isTerminal = false)
    (plain : observed.commandPhase? = none) (same : after.material = before.material)
    (phase : after.phase = before.phase)
    (submitted : after.commandSubmitted = before.commandSubmitted)
    (ack : after.ackSeen = before.ackSeen) (done : after.logicalDone = before.logicalDone)
    (flight : after.d1ServerFlightSeen = before.d1ServerFlightSeen)
    (pending : after.outPending = before.outPending) :
    Running material (log ++ [observed]) after := by
  have kept := running.grow (plain_singleton terminal plain)
  refine kept.same same phase submitted ack done flight ?_
  rw [submitted, pending, phase]
  exact kept.completed

/-- The same where the OUT changes. -/
theorem running_out {observed : Observed} (terminal : observed.isTerminal = false)
    (plain : observed.commandPhase? = none) (same : after.material = before.material)
    (phase : after.phase = before.phase)
    (submitted : after.commandSubmitted = before.commandSubmitted)
    (ack : after.ackSeen = before.ackSeen) (done : after.logicalDone = before.logicalDone)
    (flight : after.d1ServerFlightSeen = before.d1ServerFlightSeen)
    (completed : before.commandSubmitted = true → after.outPending = false →
      .outComplete .a0 before.phase ∈ log ++ [observed]) :
    Running material (log ++ [observed]) after := by
  have kept := running.grow (plain_singleton terminal plain)
  refine kept.same same phase submitted ack done flight ?_
  rw [submitted, phase]
  exact completed

theorem running_ack :
    Running material (log ++ [.ack before.phase]) { before with ackSeen := true } where
  material := running.material
  running := (running.grow (plain_singleton rfl rfl)).running
  commands := (running.grow (plain_singleton rfl rfl)).commands
  left := (running.grow (plain_singleton rfl rfl)).left
  acked := fun _ => List.mem_append_right _ (List.mem_singleton.mpr rfl)
  answered := (running.grow (plain_singleton rfl rfl)).answered
  submitted := (running.grow (plain_singleton rfl rfl)).submitted
  completed := (running.grow (plain_singleton rfl rfl)).completed
  flight := (running.grow (plain_singleton rfl rfl)).flight

/-- A phase that is answered after its command was sent is done. -/
theorem running_logicalDone (submitted : before.commandSubmitted = true)
    (answered : Answered log before.phase) :
    Running material log { before with logicalDone := true } where
  material := running.material
  running := running.running
  commands := running.commands
  left := running.left
  acked := running.acked
  answered := fun _ => ⟨submitted, answered⟩
  submitted := running.submitted
  completed := running.completed
  flight := running.flight

theorem running_record (record : List UInt8) :
    Running material (log ++ [.record before.phase record])
      { before with
        d1ServerFlightSeen := before.d1ServerFlightSeen || before.phase = .d1
        tlsRecords := before.tlsRecords ++ [record] } where
  material := running.material
  running := (running.grow (plain_singleton rfl rfl)).running
  commands := (running.grow (plain_singleton rfl rfl)).commands
  left := (running.grow (plain_singleton rfl rfl)).left
  acked := (running.grow (plain_singleton rfl rfl)).acked
  answered := (running.grow (plain_singleton rfl rfl)).answered
  submitted := (running.grow (plain_singleton rfl rfl)).submitted
  completed := (running.grow (plain_singleton rfl rfl)).completed
  flight := fun seen => by
    rcases Bool.or_eq_true_iff.mp seen with earlier | now
    · obtain ⟨record, flown⟩ := running.flight earlier
      exact ⟨record, List.mem_append_left _ flown⟩
    · rw [decide_eq_true_eq] at now
      exact ⟨record, List.mem_append_right _ (List.mem_singleton.mpr (by rw [now]))⟩

theorem running_finish (latches : Latches before) (phase : before.phase = .tls) :
    Running material (log ++ [.phase { before with phase := .stop }])
      { before with phase := .stop } := by
  obtain ⟨unseen, undone, unsubmitted⟩ := latches.late (by rw [phase]; decide)
  have kept : Running material (log ++ [.phase { before with phase := .stop }]) before :=
    running.grow (plain_singleton rfl rfl)
  refine ⟨kept.material, kept.running, ?_, ?_, ?_, ?_, ?_, ?_, kept.flight⟩
  · rw [kept.commands, phase, unsubmitted]
    rfl
  · intro earlier early _
    refine kept.left earlier early ?_
    rw [phase]
    exact Nat.lt_of_le_of_lt early (show Phase.d1 < Phase.tls by decide)
  · intro seen
    rw [show before.ackSeen = true from seen] at unseen
    cases unseen
  · intro done
    rw [show before.logicalDone = true from done] at undone
    cases undone
  · intro submitted
    rw [show before.commandSubmitted = true from submitted] at unsubmitted
    cases unsubmitted
  · intro submitted
    rw [show before.commandSubmitted = true from submitted] at unsubmitted
    cases unsubmitted

end Cases

/-- A session that is still running after a move has its log and its latches in order. -/
theorem move_running (coherent : Coherent before) (alive : before.phase ≠ .terminal)
    (running : Running material log before) (move : ProperMove before emitted after)
    (alive' : after.phase ≠ .terminal) : Running material (log ++ emitted) after := by
  have latches := coherent alive
  have quiet : Running material (log ++ []) before := by rwa [List.append_nil]
  cases move with
  | started early => exact running_plain running rfl rfl rfl rfl rfl rfl rfl rfl rfl
  | command frame early fresh free built => exact running_command running frame early fresh
  | commandDone running' pending kind =>
    exact running_out running rfl rfl rfl rfl rfl rfl rfl rfl
      fun _ _ => List.mem_append_right _ (List.mem_singleton.mpr rfl)
  | ack early => exact running_ack running
  | ackDone early seen only submitted =>
    refine running_logicalDone quiet submitted ⟨fun _ => quiet.acked seen, fun _ full => ?_, ?_⟩
    · rw [only] at full
      cases full
    · intro late
      rw [late] at early
      exact absurd early (by decide)
  | typed body early seen proper =>
    have kept : Running material (log ++ [.typed before.phase body]) before :=
      running.grow (plain_singleton rfl rfl)
    refine running_logicalDone kept (proper _ _ rfl) ⟨fun _ => kept.acked seen, fun _ _ => ?_, ?_⟩
    · exact ⟨body, List.mem_append_right _ (List.mem_singleton.mpr rfl)⟩
    · intro late
      rw [late] at early
      exact absurd early (by decide)
  | flight phase seen submitted =>
    exact running_logicalDone quiet submitted
      ⟨fun early => absurd phase early, fun early _ => absurd phase early,
        fun _ => quiet.flight seen⟩
  | advance done free early => exact running_advance running done free early
  | record record running' unstopped produced => exact running_record running record
  | began record rest phase queued free idle unpaced first =>
    exact running_plain running rfl rfl rfl rfl rfl rfl rfl rfl rfl
  | pacedBegan record rest running' queued pacing =>
    have kept : Running material (log ++ [.paced, .began record]) before :=
      running.grow (by simp [Observed.isTerminal, Observed.commandPhase?])
    exact kept.same rfl rfl rfl rfl rfl rfl kept.completed
  | packet logical holds running' free more =>
    exact running_out running rfl rfl rfl rfl rfl rfl rfl rfl fun _ pending => by cases pending
  | chunkDone logical running' pending holds more =>
    refine running_out running rfl rfl rfl rfl rfl rfl rfl rfl fun submitted _ => ?_
    rw [latches.no_command holds] at submitted
    cases submitted
  | recordDone logical running' pending holds sent =>
    refine running_out running rfl rfl rfl rfl rfl rfl rfl rfl fun submitted _ => ?_
    rw [latches.no_command holds] at submitted
    cases submitted
  | scheduled phase free idle => exact running_plain running rfl rfl rfl rfl rfl rfl rfl rfl rfl
  | paced running' pacing => exact running_plain running rfl rfl rfl rfl rfl rfl rfl rfl rfl
  | tls state => exact quiet.same rfl rfl rfl rfl rfl rfl quiet.completed
  | finish phase established free idle empty unpaced => exact running_finish running latches phase
  | plaintext octets phase => exact running_plain running rfl rfl rfl rfl rfl rfl rfl rfl rfl
  | configured postTlsPlaintext => exact quiet.same rfl rfl rfl rfl rfl rfl quiet.completed
  | handedOff => exact quiet.same rfl rfl rfl rfl rfl rfl quiet.completed
  | failed seen final error running' shown ended => exact absurd ended alive'

/-- Entries that need no reason but that the session is running. -/
def Observed.isPlain : Observed → Bool
  | .command _ _ | .ack _ | .typed _ _ | .phase _ => false
  | _ => true

theorem Ordered.of_plain {observed : Observed} (plain : observed.isPlain = true)
    (running : ∀ earlier ∈ log, earlier.isTerminal = false) : Ordered material log observed := by
  refine ⟨running, ?_, ?_, ?_, ?_, ?_⟩
  · rintro phase frame rfl
    cases plain
  · rintro phase rfl
    cases plain
  · rintro phase body rfl
    cases plain
  · rintro session rfl
    cases plain
  · rintro session rfl
    cases plain

/-- What is told of a phase. -/
theorem Ordered.of_phase {session : Session}
    (running : ∀ earlier ∈ log, earlier.isTerminal = false)
    (left : session.phase ≠ .terminal → ∀ phase, phase ≤ .d1 → phase < session.phase →
      Completed log phase)
    (stop : session.phase = .stop → Finished session) :
    Ordered material log (.phase session) where
  running := running
  command := fun phase frame same => by cases same
  ack := fun phase same => by cases same
  typed := fun phase body same => by cases same
  left := fun told same => by
    cases same
    exact left
  stop := fun told same => by
    cases same
    exact stop

theorem Ordered.of_command {phase : Phase} {frame : List UInt8}
    (running : ∀ earlier ∈ log, earlier.isTerminal = false)
    (sent : commands log = commandOrder.take phase.index)
    (built : buildPhaseFrame material phase = .ok frame) :
    Ordered material log (.command phase frame) where
  running := running
  command := fun phase frame same => by
    cases same
    exact ⟨sent, built⟩
  ack := fun phase same => by cases same
  typed := fun phase body same => by cases same
  left := fun told same => by cases same
  stop := fun told same => by cases same

theorem Ordered.of_ack {phase : Phase} (running : ∀ earlier ∈ log, earlier.isTerminal = false)
    (early : phase < .d1) : Ordered material log (.ack phase) where
  running := running
  command := fun phase frame same => by cases same
  ack := fun phase same => by
    cases same
    exact early
  typed := fun phase body same => by cases same
  left := fun told same => by cases same
  stop := fun told same => by cases same

theorem Ordered.of_typed {phase : Phase} {body : List UInt8}
    (running : ∀ earlier ∈ log, earlier.isTerminal = false) (early : phase < .d1) :
    Ordered material log (.typed phase body) where
  running := running
  command := fun phase frame same => by cases same
  ack := fun phase same => by cases same
  typed := fun phase body same => by
    cases same
    exact early
  left := fun told same => by cases same
  stop := fun told same => by cases same

/-- Every move has its reason. -/
theorem move_ordered (running : Running material log before)
    (ordered : Justified (Ordered material) log) (move : ProperMove before emitted after) :
    Justified (Ordered material) (log ++ emitted) := by
  have quiet : Justified (Ordered material) (log ++ []) := by rwa [List.append_nil]
  cases move with
  | started early =>
    refine justified_concat.mpr ⟨ordered, .of_phase running.running (fun _ => running.left) ?_⟩
    intro stop
    rw [show before.phase = .stop from stop] at early
    cases early
  | command frame early fresh free built =>
    have sent := running.commands
    rw [fresh] at sent
    rw [running.material] at built
    exact justified_concat.mpr ⟨ordered, .of_command running.running sent built⟩
  | commandDone running' pending kind =>
    exact justified_concat.mpr ⟨ordered, .of_plain rfl running.running⟩
  | ack early =>
    exact justified_concat.mpr ⟨ordered, .of_ack running.running early⟩
  | ackDone early seen only submitted => exact quiet
  | typed body early seen proper =>
    exact justified_concat.mpr ⟨ordered, .of_typed running.running early⟩
  | flight phase seen submitted => exact quiet
  | advance done free early =>
    refine justified_concat.mpr ⟨ordered, .of_phase running.running ?_ ?_⟩
    · intro _ phase early' before'
      rw [Phase.lt_iff, Phase.index_next (lt_terminal_of_le_d1 early)] at before'
      rcases Nat.lt_succ_iff_lt_or_eq.mp before' with older | same
      · exact running.left phase early' older
      · rw [Phase.index_injective same]
        exact running.done done free
    · intro stop
      exact absurd stop (next_ne_stop_of_le_d1 early)
  | record record running' unstopped produced =>
    exact justified_concat.mpr ⟨ordered, .of_plain rfl running.running⟩
  | began record rest phase queued free idle unpaced first =>
    exact justified_concat.mpr ⟨ordered, .of_plain rfl running.running⟩
  | pacedBegan record rest running' queued pacing =>
    have paced : Justified (Ordered material) (log ++ [.paced]) :=
      justified_concat.mpr ⟨ordered, .of_plain rfl running.running⟩
    rw [show log ++ [Observed.paced, .began record] = (log ++ [.paced]) ++ [.began record] by simp]
    exact justified_concat.mpr
      ⟨paced, .of_plain rfl (running.grow (plain_singleton rfl rfl)).running⟩
  | packet logical holds running' free more =>
    exact justified_concat.mpr ⟨ordered, .of_plain rfl running.running⟩
  | chunkDone logical running' pending holds more =>
    exact justified_concat.mpr ⟨ordered, .of_plain rfl running.running⟩
  | recordDone logical running' pending holds sent =>
    exact justified_concat.mpr ⟨ordered, .of_plain rfl running.running⟩
  | scheduled phase free idle =>
    exact justified_concat.mpr ⟨ordered, .of_plain rfl running.running⟩
  | paced running' pacing =>
    exact justified_concat.mpr ⟨ordered, .of_plain rfl running.running⟩
  | tls state => exact quiet
  | finish phase established free idle empty unpaced =>
    refine justified_concat.mpr ⟨ordered, .of_phase running.running ?_ ?_⟩
    · intro _ earlier early _
      refine running.left earlier early ?_
      rw [phase]
      exact Nat.lt_of_le_of_lt early (show Phase.d1 < Phase.tls by decide)
    · intro _
      exact ⟨established, free, idle, empty, unpaced⟩
  | plaintext octets phase =>
    exact justified_concat.mpr ⟨ordered, .of_plain rfl running.running⟩
  | configured postTlsPlaintext => exact quiet
  | handedOff => exact quiet
  | failed seen final error running' shown ended =>
    have told : Justified (Ordered material) (log ++ [.phase seen]) :=
      justified_concat.mpr ⟨ordered, .of_phase running.running
        (fun alive => absurd shown alive) (fun stop => by rw [shown] at stop; cases stop)⟩
    rw [show log ++ [Observed.phase seen, .terminal error] =
      (log ++ [.phase seen]) ++ [.terminal error] by simp]
    exact justified_concat.mpr
      ⟨told, .of_plain rfl (running.grow (plain_singleton rfl rfl)).running⟩

end Moves

end Goodix.SecureSession
