import Goodix.Library.Traces
import Goodix.SecureSession.Machine

/-! # Moves of a secure session

Every public call, with all completions that come inside it, is a sequence of moves.  A
move changes one thing and names what the session was like before; what holds of every
run is proved of the moves alone.
-/

namespace Goodix.SecureSession

open Octets A0Protocol Packets Traces

/-- The single moves.  Typed responses are only taken, and records only queued, where that is
`allowed`. -/
inductive Move (allowed : Session → Observed → Prop) : Session → List Observed → Session → Prop where
  | started (session : Session) (early : session.phase = .reentryRecoveryA2) :
      Move allowed session [.phase { session with started := true }]
        { session with started := true }
  | command (session : Session) (frame : List UInt8) (early : session.phase < .tls)
      (fresh : session.commandSubmitted = false) (free : session.outPending = false)
      (built : buildPhaseFrame session.material session.phase = .ok frame) :
      Move allowed session [.command session.phase frame]
        { session with outPending := true, outKind := .a0, commandSubmitted := true }
  | commandDone (session : Session) (running : session.phase ≠ .terminal)
      (pending : session.outPending = true) (kind : session.outKind = .a0) :
      Move allowed session [.outComplete .a0 session.phase]
        { session with outPending := false, outKind := .none }
  | ack (session : Session) (early : session.phase < .d1) :
      Move allowed session [.ack session.phase] { session with ackSeen := true }
  | ackDone (session : Session) (early : session.phase < .d1) (seen : session.ackSeen = true)
      (only : phaseAckOnly session.phase = true) (submitted : session.commandSubmitted = true) :
      Move allowed session [] { session with logicalDone := true }
  | typed (session : Session) (body : List UInt8) (early : session.phase < .d1)
      (seen : session.ackSeen = true)
      (proper : allowed session (.typed session.phase body)) :
      Move allowed session [.typed session.phase body] { session with logicalDone := true }
  | flight (session : Session) (phase : session.phase = .d1)
      (seen : session.d1ServerFlightSeen = true) (submitted : session.commandSubmitted = true) :
      Move allowed session [] { session with logicalDone := true }
  | advance (session : Session) (done : session.logicalDone = true)
      (free : session.outPending = false) (early : session.phase ≤ .d1) :
      Move allowed session [.phase { session with phase := session.phase.next }]
        { session with
          phase := session.phase.next
          ackSeen := false
          logicalDone := false
          commandSubmitted := false }
  | record (session : Session) (record : List UInt8) (running : session.phase ≠ .terminal)
      (unstopped : session.phase ≠ .stop)
      (produced : allowed session (.record session.phase record)) :
      Move allowed session [.record session.phase record]
        { session with
          d1ServerFlightSeen := session.d1ServerFlightSeen || session.phase = .d1
          tlsRecords := session.tlsRecords ++ [record] }
  | began (session : Session) (record : List UInt8) (rest : List (List UInt8))
      (phase : session.phase = .tls) (queued : session.tlsRecords = record :: rest)
      (free : session.outPending = false) (idle : session.b0Logical = none)
      (unpaced : session.pacePending = false) (first : session.tlsRecordCount = 0) :
      Move allowed session [.began record]
        { session with
          tlsRecords := rest
          b0Logical := some (b0Frame record)
          b0Offset := 0 }
  | pacedBegan (session : Session) (record : List UInt8) (rest : List (List UInt8))
      (running : session.phase ≠ .terminal) (queued : session.tlsRecords = record :: rest)
      (pacing : session.pacePending = true) :
      Move allowed session [.paced, .began record]
        { session with
          pacePending := false
          paceGeneration := 0
          tlsRecords := rest
          b0Logical := some (b0Frame record)
          b0Offset := 0 }
  | packet (session : Session) (logical : List UInt8) (holds : session.b0Logical = some logical)
      (running : session.phase ≠ .terminal) (free : session.outPending = false)
      (more : session.b0Offset < logical.length) :
      Move allowed session [.packet (packet 64 0 (logical.drop session.b0Offset))]
        { session with
          b0Offset := session.b0Offset + min (logical.length - session.b0Offset) 64
          outPending := true
          outKind := .b0 }
  | chunkDone (session : Session) (logical : List UInt8) (running : session.phase ≠ .terminal)
      (pending : session.outPending = true) (holds : session.b0Logical = some logical)
      (more : session.b0Offset < logical.length) :
      Move allowed session [.outComplete .b0 session.phase]
        { session with outPending := false, outKind := .none }
  | recordDone (session : Session) (logical : List UInt8) (running : session.phase ≠ .terminal)
      (pending : session.outPending = true) (holds : session.b0Logical = some logical)
      (sent : ¬ session.b0Offset < logical.length) :
      Move allowed session [.outComplete .b0 session.phase]
        { session with
          outPending := false
          outKind := .none
          b0Logical := none
          b0Offset := 0
          tlsRecordCount := session.tlsRecordCount + 1 }
  | scheduled (session : Session) (phase : session.phase = .tls)
      (free : session.outPending = false) (idle : session.b0Logical = none) :
      Move allowed session [.scheduled]
        { session with pacePending := true, paceGeneration := session.generation }
  | paced (session : Session) (running : session.phase ≠ .terminal)
      (pacing : session.pacePending = true) :
      Move allowed session [.paced] { session with pacePending := false, paceGeneration := 0 }
  | tls (session : Session) (state : TlsState) :
      Move allowed session [] { session with tls := state }
  | finish (session : Session) (phase : session.phase = .tls)
      (established : session.tls = .established) (free : session.outPending = false)
      (idle : session.b0Logical = none) (empty : session.tlsRecords = [])
      (unpaced : session.pacePending = false) :
      Move allowed session [.phase { session with phase := .stop }] { session with phase := .stop }
  | plaintext (session : Session) (octets : List UInt8) (phase : session.phase = .stop) :
      Move allowed session [.plaintext octets] session
  | configured (session : Session) (postTlsPlaintext : Bool) :
      Move allowed session [] { session with postTlsPlaintext }
  | handedOff (session : Session) (phase : session.phase = .stop) :
      Move allowed session [] { session with backendCallbackOwned := false }
  | failed (session seen after : Session) (error : GError) (running : session.phase ≠ .terminal)
      (shown : seen.phase = .terminal) (ended : after.phase = .terminal) :
      Move allowed session [.phase seen, .terminal error] after

/-! ## What every move keeps -/

/-- How the latches of a running session belong together. -/
structure Latches (session : Session) : Prop where
  idle : session.outPending = false → session.outKind = .none
  pending : session.outPending = true →
    (session.outKind = .a0 ∧ session.phase < .tls ∧ session.commandSubmitted = true) ∨
      (session.outKind = .b0 ∧ session.b0Logical.isSome = true)
  sending : session.b0Logical.isSome = true → session.phase = .tls ∧ session.pacePending = false
  pacing : session.pacePending = true → session.phase = .tls ∧ session.outPending = false
  late : .tls ≤ session.phase → session.ackSeen = false ∧ session.logicalDone = false ∧
    session.commandSubmitted = false
  stopped : session.phase = .stop → session.outPending = false ∧ session.tlsRecords = []

def Coherent (session : Session) : Prop := session.phase ≠ .terminal → Latches session

theorem coherent_terminal {session : Session} (ended : session.phase = .terminal) :
    Coherent session := fun running => absurd ended running

theorem initial_coherent (generation : UInt64) (material : SecureMaterial) :
    Coherent (initial generation material) := by
  intro _
  refine ⟨fun _ => rfl, ?_, ?_, ?_, ?_, ?_⟩ <;> intro reached <;> cases reached

theorem tls_le_of_not_lt {phase : Phase} (late : ¬ phase < .tls) : Phase.tls ≤ phase :=
  Nat.le_of_not_lt late

/-- The phases from TLS on, by name. -/
theorem late_cases {phase : Phase} (late : Phase.tls ≤ phase) :
    phase = .tls ∨ phase = .stop ∨ phase = .terminal := by
  cases phase <;> first
    | exact .inl rfl
    | exact .inr (.inl rfl)
    | exact .inr (.inr rfl)
    | exact absurd late (by decide)

variable {allowed : Session → Observed → Prop}

theorem ne_tls_of_le_d1 {phase : Phase} (early : phase ≤ .d1) : phase ≠ .tls := by
  rintro rfl
  exact absurd early (by decide)

theorem next_ne_stop_of_le_d1 {phase : Phase} (early : phase ≤ .d1) : phase.next ≠ .stop := by
  cases phase <;> first
    | exact absurd early (by decide)
    | decide

theorem next_ne_terminal_of_le_d1 {phase : Phase} (early : phase ≤ .d1) :
    phase.next ≠ .terminal := by
  cases phase <;> first
    | exact absurd early (by decide)
    | decide

namespace Latches

variable {session : Session}

/-- No OUT is pending, nothing is being sent or paced in a session before TLS that advances. -/
theorem advance (latches : Latches session) (free : session.outPending = false)
    (early : session.phase ≤ .d1) :
    Latches
      { session with
        phase := session.phase.next
        ackSeen := false
        logicalDone := false
        commandSubmitted := false } where
  idle := latches.idle
  pending := fun pending => by
    rw [free] at pending
    cases pending
  sending := fun holds => absurd (latches.sending holds).1 (ne_tls_of_le_d1 early)
  pacing := fun paces => absurd (latches.pacing paces).1 (ne_tls_of_le_d1 early)
  late := fun _ => ⟨rfl, rfl, rfl⟩
  stopped := fun stop => absurd stop (next_ne_stop_of_le_d1 early)

theorem command (latches : Latches session) (early : session.phase < .tls) :
    Latches { session with outPending := true, outKind := .a0, commandSubmitted := true } where
  idle := fun pending => by cases pending
  pending := fun _ => .inl ⟨rfl, early, rfl⟩
  sending := latches.sending
  pacing := fun paces => by
    rw [(latches.pacing paces).1] at early
    exact absurd early (by decide)
  late := fun late => absurd early (Nat.not_lt_of_le late)
  stopped := fun stop => by
    rw [show session.phase = .stop from stop] at early
    exact absurd early (by decide)

/-- An OUT is complete, a command or a chunk of a record. -/
theorem outDone (latches : Latches session) :
    Latches { session with outPending := false, outKind := .none } where
  idle := fun _ => rfl
  pending := fun pending => by cases pending
  sending := latches.sending
  pacing := fun paces => ⟨(latches.pacing paces).1, rfl⟩
  late := latches.late
  stopped := fun stop => ⟨rfl, (latches.stopped stop).2⟩

/-- The ACK and the answer of a phase are latched before TLS only. -/
theorem answered (latches : Latches session) (early : ¬ Phase.tls ≤ session.phase)
    (ackSeen logicalDone : Bool) : Latches { session with ackSeen, logicalDone } :=
  { latches with late := fun late => absurd late early }

theorem began (latches : Latches session) (record : List UInt8) (rest : List (List UInt8))
    (phase : session.phase = .tls) (free : session.outPending = false)
    (unpaced : session.pacePending = false) :
    Latches { session with
      tlsRecords := rest
      b0Logical := some (b0Frame record)
      b0Offset := 0 } :=
  { latches with
    pending := fun pending => by
      rw [show session.outPending = false from free] at pending
      cases pending
    sending := fun _ => ⟨phase, unpaced⟩
    stopped := fun stop => by
      rw [show session.phase = .tls from phase] at stop
      cases stop }

theorem paced (latches : Latches session) :
    Latches { session with pacePending := false, paceGeneration := 0 } :=
  { latches with
    sending := fun holds => ⟨(latches.sending holds).1, rfl⟩
    pacing := fun paces => by cases paces }

theorem packet (latches : Latches session) {logical : List UInt8}
    (holds : session.b0Logical = some logical) (offset : Nat) :
    Latches { session with b0Offset := offset, outPending := true, outKind := .b0 } := by
  have some : session.b0Logical.isSome = true := by rw [holds]; rfl
  obtain ⟨phase, unpaced⟩ := latches.sending some
  exact
    { latches with
      idle := fun pending => by cases pending
      pending := fun _ => .inr ⟨rfl, some⟩
      pacing := fun paces => by
        rw [show session.pacePending = false from unpaced] at paces
        cases paces
      stopped := fun stop => by
        rw [show session.phase = .tls from phase] at stop
        cases stop }

theorem recordDone (latches : Latches session) (count : UInt32) :
    Latches { session with
      outPending := false
      outKind := .none
      b0Logical := none
      b0Offset := 0
      tlsRecordCount := count } :=
  { latches.outDone with
    pending := fun pending => by cases pending
    sending := fun holds => by cases holds }

theorem scheduled (latches : Latches session) (phase : session.phase = .tls)
    (free : session.outPending = false) (idle : session.b0Logical = none) :
    Latches { session with pacePending := true, paceGeneration := session.generation } :=
  { latches with
    sending := fun holds => by
      rw [show session.b0Logical = none from idle] at holds
      cases holds
    pacing := fun _ => ⟨phase, free⟩ }

theorem finish (latches : Latches session) (phase : session.phase = .tls)
    (free : session.outPending = false) (idle : session.b0Logical = none)
    (empty : session.tlsRecords = []) (unpaced : session.pacePending = false) :
    Latches { session with phase := .stop } where
  idle := latches.idle
  pending := fun pending => by
    rw [show session.outPending = false from free] at pending
    cases pending
  sending := fun holds => by
    rw [show session.b0Logical = none from idle] at holds
    cases holds
  pacing := fun paces => by
    rw [show session.pacePending = false from unpaced] at paces
    cases paces
  late := fun _ => latches.late (by rw [phase]; decide)
  stopped := fun _ => ⟨free, empty⟩

end Latches

theorem not_tls_le_of_lt_d1 {phase : Phase} (early : phase < .d1) : ¬ Phase.tls ≤ phase :=
  fun late => absurd (Nat.le_trans late (Nat.le_of_lt early)) (by decide)

theorem move_coherent {before after : Session} {emitted : List Observed}
    (coherent : Coherent before) (move : Move allowed before emitted after) : Coherent after := by
  intro running
  cases move with
  | started early => exact { coherent running with }
  | command frame early fresh free built => exact (coherent running).command early
  | commandDone running' pending kind => exact (coherent running).outDone
  -- before D1 there is no record in flight that an answer could disturb
  | ack early => exact (coherent running).answered (not_tls_le_of_lt_d1 early) true _
  | ackDone early seen only submitted =>
    exact (coherent running).answered (not_tls_le_of_lt_d1 early) _ true
  | typed body early seen proper =>
    exact (coherent running).answered (not_tls_le_of_lt_d1 early) _ true
  | flight phase seen submitted =>
    exact (coherent running).answered (by rw [phase]; decide) _ true
  | advance done free early =>
    have before_running : before.phase ≠ .terminal := by
      intro ended
      rw [ended] at early
      exact absurd early (by decide)
    exact (coherent before_running).advance free early
  | record record running' unstopped produced =>
    exact { coherent running with stopped := fun stop => absurd stop unstopped }
  | began record rest phase queued free idle unpaced first =>
    exact (coherent running).began record rest phase free unpaced
  -- while a record is paced the OUT is free, so it begins as an unpaced one does
  | pacedBegan record rest running' queued pacing =>
    obtain ⟨phase, free⟩ := (coherent running).pacing pacing
    exact (coherent running).paced.began record rest phase free rfl
  | packet logical holds running' free more => exact (coherent running).packet holds _
  | chunkDone logical running' pending holds more => exact (coherent running).outDone
  | recordDone logical running' pending holds sent => exact (coherent running).recordDone _
  | scheduled phase free idle => exact (coherent running).scheduled phase free idle
  | paced running' pacing => exact (coherent running).paced
  | tls state => exact { coherent running with }
  | finish phase established free idle empty unpaced =>
    exact (coherent (by rw [phase]; decide)).finish phase free idle empty unpaced
  | plaintext octets phase => exact coherent running
  | configured postTlsPlaintext => exact { coherent running with }
  | handedOff => exact { coherent running with }
  | failed seen final error running' shown ended => exact absurd ended running

end Goodix.SecureSession
