import Goodix.SecureSession.Moves

/-! # Calls are sequences of moves

For every function of the session: what it does is a sequence of moves, and at its end
nothing that could be sent waits without something pending that will send it.  A
completion inside a submit is assumed to do so when the function is shown to do so, and
the assumption is discharged by induction on how deep completions are nested.
-/

namespace Goodix.SecureSession

open Octets A0Protocol Packets Traces

variable {allowed : Session → Observed → Prop} {complete : Complete} {call : Call}

/-! ## Going on -/

/-- A call goes on by moves, and they are what it adds to its log. -/
def Follows (allowed : Session → Observed → Prop) (before after : Call) : Prop :=
  ∃ emitted, Moves (Move allowed) before.session emitted after.session ∧
    after.log = before.log ++ emitted

theorem Follows.of_same {before after : Call} (session : after.session = before.session)
    (log : after.log = before.log) : Follows allowed before after := by
  refine ⟨[], ?_, by rw [log, List.append_nil]⟩
  rw [session]
  exact .refl _

theorem Follows.of_move {before after : Call} {emitted : List Observed}
    (move : Move allowed before.session emitted after.session)
    (log : after.log = before.log ++ emitted) : Follows allowed before after :=
  ⟨emitted, .single move, log⟩

theorem Follows.trans {first second last : Call} (earlier : Follows allowed first second)
    (later : Follows allowed second last) : Follows allowed first last := by
  obtain ⟨emitted, moves, log⟩ := earlier
  obtain ⟨rest, moves', log'⟩ := later
  refine ⟨emitted ++ rest, moves.trans moves', ?_⟩
  rw [log', log, List.append_assoc]

theorem Follows.coherent {before after : Call} (follows : Follows allowed before after)
    (coherent : Coherent before.session) : Coherent after.session := by
  obtain ⟨emitted, moves, -⟩ := follows
  exact moves.state_invariant Coherent (fun _ _ _ holds move => move_coherent holds move) coherent

/-- Between two calls, what is being sent has an OUT pending, what waits in TLS has an OUT or the
pacing pending, and every phase after the first has its command submitted. -/
structure Settling (session : Session) : Prop where
  sends : session.b0Logical.isSome = true → session.outPending = true
  flows : session.phase = .tls → session.tlsRecords ≠ [] →
    session.outPending = true ∨ session.pacePending = true
  submitted : session.phase ≠ .reentryRecoveryA2 → session.phase < .tls →
    session.commandSubmitted = true

def Settled (session : Session) : Prop := session.phase ≠ .terminal → Settling session

theorem settled_terminal {session : Session} (ended : session.phase = .terminal) :
    Settled session := fun running => absurd ended running

theorem initial_settled (generation : UInt64) (material : SecureMaterial) :
    Settled (initial generation material) := by
  intro _
  refine ⟨?_, ?_, ?_⟩
  · intro holds
    cases holds
  · intro phase
    cases phase
  · intro other
    exact absurd rfl other

/-- What a function owes its caller. -/
structure Good (allowed : Session → Observed → Prop) (before after : Call) : Prop where
  follows : Follows allowed before after
  settled : Settled after.session

theorem Good.after {first second last : Call} (earlier : Follows allowed first second)
    (later : Good allowed second last) : Good allowed first last :=
  ⟨earlier.trans later.follows, later.settled⟩

theorem Good.refl (settled : Settled call.session) : Good allowed call call :=
  ⟨.of_same rfl rfl, settled⟩

/-- A handler of completions that owes the same. -/
def CompletesWell (allowed : Session → Observed → Prop) (complete : Complete) : Prop :=
  ∀ error call, Coherent call.session → Settled call.session →
    Good allowed call (complete error call)

/-! ## Failing -/

theorem failError_ends (call : Call) (error : GError) :
    (call.failError error).session.phase = .terminal := by
  unfold Call.failError
  split
  · assumption
  · rfl

theorem failError_log (running : call.session.phase ≠ .terminal) (error : GError) :
    ∃ seen told, seen.phase = .terminal ∧
      (call.failError error).log = call.log ++ [.phase seen, .terminal told] := by
  refine ⟨{ call.session with phase := .terminal }, call.session.error.getD error, rfl, ?_⟩
  simp [Call.failError, running, Call.notifyPhase, Call.note]

/-- Failing, from whatever state the moves have reached. -/
theorem failError_after {origin : Call} {middle : Session} {emitted : List Observed}
    (moves : Moves (Move allowed) origin.session emitted middle)
    (running : middle.phase ≠ .terminal) (running' : call.session.phase ≠ .terminal)
    (log : call.log = origin.log ++ emitted) (error : GError) :
    Good allowed origin (call.failError error) := by
  obtain ⟨seen, told, shown, logged⟩ := failError_log running' error
  have ended := failError_ends call error
  refine ⟨⟨emitted ++ [.phase seen, .terminal told], ?_, ?_⟩, settled_terminal ended⟩
  · exact moves.trans (.single (.failed middle seen _ told running shown ended))
  · rw [logged, log, List.append_assoc]

theorem failError_good (call : Call) (error : GError) :
    Good allowed call (call.failError error) := by
  by_cases running : call.session.phase = .terminal
  · have unchanged : call.failError error = call := by
      unfold Call.failError
      rw [if_pos running]
    rw [unchanged]
    exact .refl (settled_terminal running)
  · exact failError_after (.refl _) running running (List.append_nil _).symm error

theorem failLiteral_good (call : Call) (code : Nat) (message : String) :
    Good allowed call (call.failLiteral code message) := failError_good call _

/-! ## Submitting -/

theorem submitOut_cases (call : Call) (complete : Complete) (sent : Observed) :
    (∃ answers, call.submitOut complete sent = (Call.note { call with answers } sent, .ok ())) ∨
    (∃ answers error, call.submitOut complete sent =
      (complete error (Call.note { call with answers } sent), .ok ())) ∨
    ∃ answers error, call.submitOut complete sent = ({ call with answers }, .error error) := by
  unfold Call.submitOut
  split
  · exact .inl ⟨call.answers, rfl⟩
  · exact .inl ⟨_, rfl⟩
  · exact .inr (.inr ⟨_, _, rfl⟩)
  · exact .inr (.inl ⟨_, _, rfl⟩)

/-- A submit that is a move of the session: taken, or refused without effect. -/
theorem submitOut_good {after : Session} {sent : Observed} (well : CompletesWell allowed complete)
    (coherent : Coherent call.session) (move : Move allowed call.session [sent] after)
    (settled : Settled after) :
    (∃ later, Call.submitOut { call with session := after } complete sent = (later, .ok ()) ∧
      Good allowed call later) ∨
    ∃ answers error, Call.submitOut { call with session := after } complete sent =
      ({ call with session := after, answers }, .error error) := by
  have noted (answers : List Answer) :
      Follows allowed call (Call.note { call with session := after, answers } sent) :=
    .of_move move rfl
  rcases submitOut_cases { call with session := after } complete sent with
    ⟨answers, taken⟩ | ⟨answers, error, taken⟩ | ⟨answers, error, refused⟩
  · exact .inl ⟨_, taken, noted answers, settled⟩
  · -- the completion finds the session as the move has left it
    refine .inl ⟨_, taken, .after (noted answers) (well error _ ?_ settled)⟩
    exact move_coherent coherent move
  · exact .inr ⟨answers, error, refused⟩

/-- Between TLS and the end of its records nothing waits for a command. -/
theorem settling_of_pending {session : Session} (phase : session.phase = .tls)
    (pending : session.outPending = true) : Settling session := by
  refine ⟨fun _ => pending, fun _ _ => .inl pending, ?_⟩
  intro _ early
  rw [phase] at early
  exact absurd early (by decide)

/-- A chunk is taken, or the session is as it was. -/
theorem submitB0Chunk_cases {logical : List UInt8} (well : CompletesWell allowed complete)
    (coherent : Coherent call.session) (running : call.session.phase ≠ .terminal)
    (holds : call.session.b0Logical = some logical) (free : call.session.outPending = false)
    (more : call.session.b0Offset < logical.length) :
    (∃ after, call.submitB0Chunk complete = (after, .ok ()) ∧ Good allowed call after) ∨
    ∃ after error, call.submitB0Chunk complete = (after, .error error) ∧
      after.session = call.session ∧ after.log = call.log := by
  have latches := coherent running
  have sending := latches.sending (by rw [holds]; rfl)
  unfold Call.submitB0Chunk
  simp only
  split
  · rename_i none
    rw [holds] at none
    cases none
  rename_i found same
  cases holds.symm.trans same
  rw [if_neg (by rw [free]; decide)]
  rcases submitOut_good well coherent
      (.packet call.session logical holds running free more)
      (fun _ => settling_of_pending sending.1 rfl) with
    ⟨after, taken, good⟩ | ⟨answers, error, refused⟩
  · left
    rw [taken]
    exact ⟨after, rfl, good⟩
  · right
    rw [refused]
    refine ⟨_, error, rfl, ?_, rfl⟩
    -- the offset and the latches are put back
    have kind := latches.idle free
    cases call with
    | mk session answers log =>
      cases session
      simp_all

/-- A phase that has no command submitted and no OUT pending submits its command, or the session is
as it was, or it has failed. -/
theorem trySubmitPhase_cases (well : CompletesWell allowed complete)
    (coherent : Coherent call.session) (early : call.session.phase < .tls)
    (fresh : call.session.commandSubmitted = false) (free : call.session.outPending = false) :
    (∃ after, call.trySubmitPhase complete = (after, .ok ()) ∧ Good allowed call after) ∨
    ∃ after error, call.trySubmitPhase complete = (after, .error error) ∧
      ((after.session = call.session ∧ after.log = call.log) ∨
        (Follows allowed call after ∧ after.session.phase = .terminal)) := by
  have running : call.session.phase ≠ .terminal := by
    intro ended
    rw [ended] at early
    exact absurd early (by decide)
  have latches := coherent running
  have unsent : call.session.b0Logical.isSome ≠ true := by
    intro holds
    rw [(latches.sending holds).1] at early
    exact absurd early (by decide)
  have notTls : ¬ Phase.tls ≤ call.session.phase := Nat.not_le_of_lt early
  unfold Call.trySubmitPhase
  simp only
  rw [if_neg (by simp [notTls, fresh]), if_neg (by rw [free]; decide)]
  split
  · exact .inr ⟨call, _, rfl, .inl ⟨rfl, rfl⟩⟩
  rename_i frame built
  have settled : Settling
      { call.session with outPending := true, outKind := .a0, commandSubmitted := true } :=
    ⟨fun _ => rfl, fun _ _ => .inl rfl, fun _ _ => rfl⟩
  rcases submitOut_good well coherent (.command call.session frame early fresh free built)
      (fun _ => settled) with
    ⟨after, taken, good⟩ | ⟨answers, error, refused⟩
  · rw [taken]
    simp only
    split
    · rename_i ended
      exact .inr ⟨after, _, rfl, .inr ⟨good.follows, ended⟩⟩
    · exact .inl ⟨after, rfl, good⟩
  · rw [refused]
    refine .inr ⟨_, error, rfl, .inl ⟨?_, rfl⟩⟩
    have kind := latches.idle free
    cases call with
    | mk session answers log =>
      cases session
      simp_all

/-! ## Egress -/

/-- A record that is begun is sent at once, or the session fails. -/
theorem beginRecord_good {origin : Call} {record : List UInt8} {emitted : List Observed}
    {middle : Session} (well : CompletesWell allowed complete) (coherent : Coherent origin.session)
    (log : call.log = origin.log ++ emitted) (running : call.session.phase ≠ .terminal)
    (free : call.session.outPending = false)
    (reached : Moves (Move allowed) origin.session emitted middle)
    (running' : middle.phase ≠ .terminal)
    (begins : Moves (Move allowed) origin.session (emitted ++ [.began record])
      { call.session with b0Logical := some (b0Frame record), b0Offset := 0 }) :
    Good allowed origin (call.beginRecord complete record) := by
  unfold Call.beginRecord
  split
  · exact failError_after reached running' running log _
  simp only
  have followed : Follows allowed origin
      (Call.note
        { call with
          session := { call.session with b0Logical := some (b0Frame record), b0Offset := 0 } }
        (.began record)) := by
    refine ⟨emitted ++ [.began record], begins, ?_⟩
    simp only [Call.note, log, List.append_assoc]
  generalize hbegun : Call.note
    { call with
      session := { call.session with b0Logical := some (b0Frame record), b0Offset := 0 } }
    (.began record) = begun at followed ⊢
  have holds : begun.session.b0Logical = some (b0Frame record) := by rw [← hbegun]; rfl
  have more : begun.session.b0Offset < (b0Frame record).length := by
    rw [← hbegun]
    simp [Call.note, b0Frame]
  have begunFree : begun.session.outPending = false := by
    rw [← hbegun]
    exact free
  have begunRunning : begun.session.phase ≠ .terminal := by
    rw [← hbegun]
    exact running
  rcases submitB0Chunk_cases well (followed.coherent coherent) begunRunning holds begunFree more with
    ⟨after, taken, good⟩ | ⟨after, error, refused, session, unlogged⟩
  · rw [taken]
    exact .after followed good
  · rw [refused]
    obtain ⟨logged, moves, grown⟩ := followed
    refine failError_after moves begunRunning ?_ ?_ error
    · rw [session]
      exact begunRunning
    · rw [unlogged, grown]

/-- The parts of `Settling` that hold while a record has just been queued or finished. -/
structure Sending (session : Session) : Prop where
  sends : session.b0Logical.isSome = true → session.outPending = true
  submitted : session.phase ≠ .reentryRecoveryA2 → session.phase < .tls →
    session.commandSubmitted = true

theorem Settling.sending {session : Session} (settling : Settling session) : Sending session :=
  ⟨settling.sends, settling.submitted⟩

theorem not_lt_tls_of_eq {phase : Phase} (same : phase = .tls) : ¬ phase < .tls := by
  rw [same]
  decide

/-- A session that sends and paces nothing begins its next record, if there is one. -/
theorem startNextRecordNow_good {origin : Call} {emitted : List Observed}
    (well : CompletesWell allowed complete) (coherent : Coherent origin.session)
    (log : call.log = origin.log ++ emitted)
    (reached : Moves (Move allowed) origin.session emitted call.session)
    (phase : call.session.phase = .tls) (free : call.session.outPending = false)
    (idle : call.session.b0Logical = none) (unpaced : call.session.pacePending = false)
    (begins : ∀ record tlsRecords, call.session.tlsRecords = record :: tlsRecords →
      Moves (Move allowed) origin.session (emitted ++ [.began record])
        { call.session with tlsRecords, b0Logical := some (b0Frame record), b0Offset := 0 }) :
    Good allowed origin (call.startNextRecordNow complete) := by
  have running : call.session.phase ≠ .terminal := by
    rw [phase]
    decide
  unfold Call.startNextRecordNow
  simp only
  split
  · rename_i waits
    simp [idle, free, unpaced, phase] at waits
  split
  · rename_i empty
    refine ⟨⟨emitted, reached, log⟩, fun _ => ⟨?_, ?_, ?_⟩⟩
    · intro holds
      rw [idle] at holds
      cases holds
    · intro _ queued
      exact absurd empty queued
    · intro _ early
      exact absurd early (not_lt_tls_of_eq phase)
  · rename_i record tlsRecords queued
    exact beginRecord_good well coherent log running free reached running
      (begins record tlsRecords queued)

/-- The pacing is pending after it was asked for. -/
theorem scheduleNextRecord_good (phase : call.session.phase = .tls)
    (free : call.session.outPending = false) (idle : call.session.b0Logical = none) :
    Good allowed call call.scheduleNextRecord := by
  have settled {session : Session} (same : session.phase = .tls)
      (none : session.b0Logical = none) (paces : session.pacePending = true) :
      Settled session := by
    intro _
    refine ⟨?_, fun _ _ => .inr paces, fun _ early => absurd early (not_lt_tls_of_eq same)⟩
    intro holds
    rw [none] at holds
    cases holds
  unfold Call.scheduleNextRecord
  split
  · rename_i already
    rw [phase] at already
    have paces : call.session.pacePending = true := by simpa using already
    exact .refl (settled phase idle paces)
  · exact ⟨.of_move (.scheduled call.session phase free idle) rfl, settled phase idle rfl⟩

theorem maybeStartB0_good (well : CompletesWell allowed complete)
    (coherent : Coherent call.session)
    (sending : call.session.phase ≠ .terminal → Sending call.session) :
    Good allowed call (call.maybeStartB0 complete) := by
  unfold Call.maybeStartB0
  simp only
  split
  · -- nothing to start: it is too early, an OUT is pending or nothing is queued
    rename_i waits
    refine .refl fun running => ⟨(sending running).sends, ?_, (sending running).submitted⟩
    intro phase queued
    have sends := (sending running).sends
    simp only [Bool.or_eq_true, decide_eq_true_eq, phase, List.isEmpty_iff] at waits
    rcases waits with ((early | pending) | holds) | empty
    · exact absurd early (by decide)
    · exact .inl pending
    · exact .inl (sends holds)
    · exact absurd empty queued
  rename_i ready
  simp only [Bool.or_eq_true, decide_eq_true_eq, List.isEmpty_iff, not_or, Bool.not_eq_true] at ready
  obtain ⟨⟨⟨late, free⟩, idle⟩, queued⟩ := ready
  have idle : call.session.b0Logical = none := by simpa using idle
  by_cases running : call.session.phase = .terminal
  · -- a terminal session does nothing
    have unchanged : call.scheduleNextRecord = call ∧ call.startNextRecordNow complete = call := by
      simp [Call.scheduleNextRecord, Call.startNextRecordNow, running]
    rw [unchanged.1, unchanged.2, ite_self]
    exact .refl (settled_terminal running)
  have latches := coherent running
  have phase : call.session.phase = .tls := by
    rcases late_cases (tls_le_of_not_lt late) with tls | stop | terminal
    · exact tls
    · exact absurd (latches.stopped stop).2 queued
    · exact absurd terminal running
  split
  · exact scheduleNextRecord_good phase free idle
  rename_i first
  rw [ne_eq, not_not] at first
  cases paces : call.session.pacePending with
  | true =>
    have unchanged : call.startNextRecordNow complete = call := by
      simp [Call.startNextRecordNow, paces]
    rw [unchanged]
    exact .refl fun running => ⟨(sending running).sends, fun _ _ => .inr paces,
      (sending running).submitted⟩
  | false =>
    refine startNextRecordNow_good well coherent (List.append_nil _).symm (.refl _) phase free idle
      paces ?_
    intro record tlsRecords next
    exact .single (.began call.session record tlsRecords phase next free idle paces first)

theorem maybeFinishTls_good (settled : Settled call.session) :
    Good allowed call call.maybeFinishTls := by
  unfold Call.maybeFinishTls
  simp only
  split
  · exact .refl settled
  rename_i handshaken
  simp only [ne_eq, Bool.or_eq_true, decide_eq_true_eq, not_or, not_not] at handshaken
  obtain ⟨phase, established⟩ := handshaken
  split
  · rename_i quiet
    simp only [Bool.and_eq_true, Bool.not_eq_true', Option.isNone_iff_eq_none,
      List.isEmpty_iff] at quiet
    obtain ⟨⟨⟨free, idle⟩, empty⟩, unpaced⟩ := quiet
    refine ⟨.of_move (.finish call.session phase established free idle empty unpaced) rfl, ?_⟩
    intro _
    refine ⟨?_, ?_, fun _ early => absurd early (show ¬ Phase.stop < Phase.tls by decide)⟩
    · intro holds
      rw [show call.session.b0Logical = none from idle] at holds
      cases holds
    · intro tls
      cases tls
  · exact .refl settled

/-! ## Phases -/

/-- A phase that is left. -/
theorem enterNextPhase_follows (done : call.session.logicalDone = true)
    (free : call.session.outPending = false) (early : call.session.phase ≤ .d1) :
    Follows allowed call call.enterNextPhase :=
  .of_move (.advance call.session done free early) rfl

/-- Nothing is sent before TLS. -/
theorem Latches.unsent {session : Session} (latches : Latches session)
    (early : session.phase ≤ .d1) : session.b0Logical = none := by
  cases holds : session.b0Logical with
  | none => rfl
  | some logical =>
    have sending := latches.sending (by rw [holds]; rfl)
    exact absurd sending.1 (ne_tls_of_le_d1 early)

theorem ne_terminal_of_le_d1 {phase : Phase} (early : phase ≤ .d1) : phase ≠ .terminal := by
  rintro rfl
  exact absurd early (by decide)

theorem advancePhase_good (well : CompletesWell allowed complete)
    (coherent : Coherent call.session) (settled : Settled call.session) :
    Good allowed call (call.advancePhase complete) := by
  unfold Call.advancePhase
  simp only
  split
  · exact .refl settled
  rename_i ready
  simp only [Bool.or_eq_true, Bool.not_eq_true', not_or, Bool.not_eq_false,
    Bool.not_eq_true] at ready
  obtain ⟨done, free⟩ := ready
  split
  · exact .refl settled
  rename_i early
  have early : call.session.phase ≤ .d1 := Nat.le_of_not_lt early
  have unsent := (coherent (ne_terminal_of_le_d1 early)).unsent early
  have followed : Follows allowed call call.enterNextPhase :=
    enterNextPhase_follows done free early
  have entered := followed.coherent coherent
  have latches : call.enterNextPhase.session.commandSubmitted = false ∧
      call.enterNextPhase.session.outPending = false ∧
      call.enterNextPhase.session.b0Logical = none := ⟨rfl, free, unsent⟩
  generalize call.enterNextPhase = next at followed entered latches ⊢
  obtain ⟨fresh, free, unsent⟩ := latches
  have sends : next.session.b0Logical.isSome = true → next.session.outPending = true := by
    rw [unsent]
    intro holds
    cases holds
  split
  · rename_i commands
    rcases trySubmitPhase_cases well entered commands fresh free with
      ⟨after, taken, good⟩ | ⟨after, error, refused, unchanged | ⟨failed, ended⟩⟩
    · rw [taken]
      exact .after followed good
    · rw [refused]
      exact .after (followed.trans (.of_same unchanged.1 unchanged.2)) (failError_good after error)
    · rw [refused]
      exact .after (followed.trans failed) (failError_good after error)
  · rename_i late
    have sending : Sending next.session := ⟨sends, fun _ early => absurd early late⟩
    have good := maybeStartB0_good well entered fun _ => sending
    exact .after (followed.trans good.follows) (maybeFinishTls_good good.settled)

/-! ## Completions -/

/-- After a command's completion the session advances, and starts the egress in TLS. -/
theorem commandDone_good (well : CompletesWell allowed complete) (coherent : Coherent call.session)
    (settled : Settled call.session) :
    Good allowed call
      (if (call.advancePhase complete).session.phase = .tls then
        (call.advancePhase complete).maybeStartB0 complete
      else call.advancePhase complete) := by
  have advanced := advancePhase_good well coherent settled
  split
  · exact .after advanced.follows
      (maybeStartB0_good well (advanced.follows.coherent coherent)
        fun running => (advanced.settled running).sending)
  · exact advanced

/-- After the last packet of a record the next one waits for the pacing, or TLS may be over. -/
theorem recordDone_good (phase : call.session.phase = .tls)
    (free : call.session.outPending = false) (idle : call.session.b0Logical = none) :
    Good allowed call
      (if call.session.tlsRecords.isEmpty then call.maybeFinishTls
      else call.scheduleNextRecord.maybeFinishTls) := by
  by_cases empty : call.session.tlsRecords.isEmpty = true
  · rw [if_pos empty]
    refine maybeFinishTls_good fun _ => ⟨?_, ?_, fun _ early => absurd early (not_lt_tls_of_eq phase)⟩
    · intro holds
      rw [idle] at holds
      cases holds
    · intro _ queued
      exact absurd (List.isEmpty_iff.mp empty) queued
  · rw [if_neg empty]
    have scheduled : Good allowed call call.scheduleNextRecord :=
      scheduleNextRecord_good phase free idle
    exact .after scheduled.follows (maybeFinishTls_good scheduled.settled)

/-- A completion is good when the completions inside it are. -/
theorem backendOutComplete_good (well : CompletesWell allowed complete) :
    CompletesWell allowed (Call.backendOutComplete complete) := by
  intro error call coherent settled
  unfold Call.backendOutComplete
  simp only
  split
  · exact .refl settled
  rename_i expected
  simp only [Bool.or_eq_true, Bool.not_eq_true', decide_eq_true_eq, not_or,
    Bool.not_eq_false] at expected
  obtain ⟨pending, running⟩ := expected
  have latches := coherent running
  have settling := settled running
  split
  · refine failError_after (.refl call.session) running ?_ ?_ _
    · exact running
    · exact (List.append_nil _).symm
  rcases latches.pending pending with ⟨kind, early, submitted⟩ | ⟨kind, holds⟩
  · -- a command is complete
    simp only [kind]
    have followed : Follows allowed call (Call.note
        { call with session := { call.session with outPending := false, outKind := .none } }
        (.outComplete .a0 call.session.phase)) :=
      .of_move (.commandDone call.session running pending kind) rfl
    refine .after followed (commandDone_good well (followed.coherent coherent) fun _ => ⟨?_, ?_, ?_⟩)
    · intro holds
      rw [show call.session.phase = .tls from (latches.sending holds).1] at early
      exact absurd early (by decide)
    · intro tls
      rw [show call.session.phase = .tls from tls] at early
      exact absurd early (by decide)
    · exact settling.submitted
  · -- a packet is complete
    obtain ⟨logical, holds⟩ := Option.isSome_iff_exists.mp holds
    have phase : call.session.phase = .tls := (latches.sending (by rw [holds]; rfl)).1
    simp only [kind]
    split
    · rename_i none
      rw [holds] at none
      cases none
    rename_i found same
    cases holds.symm.trans same
    split
    · rename_i more
      have followed : Follows allowed call (Call.note
          { call with session := { call.session with outPending := false, outKind := .none } }
          (.outComplete .b0 call.session.phase)) :=
        .of_move (.chunkDone call.session logical running pending holds more) rfl
      rcases submitB0Chunk_cases well (followed.coherent coherent) running holds rfl more with
        ⟨after, taken, good⟩ | ⟨after, error, refused, session, log⟩
      · rw [taken]
        exact .after followed good
      · rw [refused]
        exact .after (followed.trans (.of_same session log)) (failError_good after error)
    · rename_i sent
      have followed : Follows allowed call
          { call with
            session :=
              { call.session with
                outPending := false
                outKind := .none
                b0Logical := none
                b0Offset := 0
                tlsRecordCount := call.session.tlsRecordCount + 1 }
            log := call.log ++ [.outComplete .b0 call.session.phase] } :=
        .of_move (.recordDone call.session logical running pending holds sent) rfl
      exact .after followed (recordDone_good phase rfl rfl)

/-- Completions inside a submit are good, however deep they are nested. -/
theorem completeInside_good (depth : Nat) : CompletesWell allowed (completeInside depth) := by
  induction depth with
  | zero => exact fun error call coherent settled => .refl settled
  | succ depth ih => exact backendOutComplete_good ih

/-! ## TLS -/

theorem tlsOutput_good (well : CompletesWell allowed complete) (coherent : Coherent call.session)
    (settled : Settled call.session) (record : List UInt8)
    (produced : allowed call.session (.record call.session.phase record)) :
    Good allowed call (call.tlsOutput complete record) := by
  unfold Call.tlsOutput
  simp only
  split
  · exact .refl settled
  rename_i takes
  simp only [Bool.or_eq_true, decide_eq_true_eq, not_or] at takes
  obtain ⟨running, unstopped⟩ := takes
  have settling := settled running
  have followed : Follows allowed call (Call.note
      { call with
        session :=
          { call.session with
            d1ServerFlightSeen := call.session.d1ServerFlightSeen || call.session.phase = .d1
            tlsRecords := call.session.tlsRecords ++ [record] } }
      (.record call.session.phase record)) :=
    .of_move (.record call.session record running unstopped produced) rfl
  split
  · exact .after followed (maybeStartB0_good well (followed.coherent coherent)
      fun _ => ⟨settling.sends, settling.submitted⟩)
  · -- in D1 the record waits for the end of the push
    rename_i d1
    rw [ne_eq, not_not] at d1
    refine ⟨followed, fun _ => ⟨settling.sends, ?_, settling.submitted⟩⟩
    intro tls
    rw [show call.session.phase = .d1 from d1] at tls
    cases tls

theorem tlsPlaintext_good (settled : Settled call.session) (octets : List UInt8) :
    Good allowed call (call.tlsPlaintext octets) := by
  unfold Call.tlsPlaintext
  split
  · rename_i delivers
    rw [Bool.and_eq_true, decide_eq_true_eq] at delivers
    exact ⟨.of_move (.plaintext call.session octets delivers.1) rfl, settled⟩
  · exact failLiteral_good call _ _

/-- Records are queued wherever they come. -/
def Producing (allowed : Session → Observed → Prop) : Prop :=
  ∀ session record, allowed session (.record session.phase record)

theorem tlsCall_good (well : CompletesWell allowed complete) (coherent : Coherent call.session)
    (settled : Settled call.session) (producing : Producing allowed) (made : TlsCall) :
    Good allowed call (Call.tlsCall complete call made) := by
  cases made with
  | output record => exact tlsOutput_good well coherent settled record (producing _ _)
  | plaintext octets => exact tlsPlaintext_good settled octets
  | established =>
    refine ⟨.of_move (.tls call.session .established) (List.append_nil _).symm, fun running => ?_⟩
    exact ⟨(settled running).sends, (settled running).flows, (settled running).submitted⟩

theorem tlsCalls_good (well : CompletesWell allowed complete) (producing : Producing allowed)
    (calls : List TlsCall) :
    ∀ call : Call, Coherent call.session → Settled call.session →
      Good allowed call (calls.foldl (Call.tlsCall complete) call) := by
  induction calls with
  | nil => exact fun call coherent settled => .refl settled
  | cons made calls ih =>
    intro call coherent settled
    have first := tlsCall_good well coherent settled producing made
    exact .after first.follows (ih _ (first.follows.coherent coherent) first.settled)

theorem tlsServerPush_good (well : CompletesWell allowed complete)
    (coherent : Coherent call.session) (settled : Settled call.session)
    (producing : Producing allowed) (push : Push) :
    Good allowed call (call.tlsServerPush complete push).1 := by
  unfold Call.tlsServerPush
  split
  · exact .refl settled
  simp only
  have calls := tlsCalls_good well producing push.calls call coherent settled
  split
  · exact calls
  · refine ⟨calls.follows.trans (.of_move (.tls _ .terminal) (List.append_nil _).symm), ?_⟩
    intro running
    have settling := calls.settled running
    exact ⟨settling.sends, settling.flows, settling.submitted⟩

/-! ## The public calls -/

theorem start_good (well : CompletesWell allowed complete) (coherent : Coherent call.session)
    (settled : Settled call.session) : Good allowed call (call.start complete).1 := by
  unfold Call.start
  split
  · simp only
    split
    · exact failLiteral_good call _ _
    · exact .refl settled
  rename_i fresh
  simp only [Bool.or_eq_true, decide_eq_true_eq, ne_eq, not_or, not_not] at fresh
  obtain ⟨-, early⟩ := fresh
  have running : call.session.phase ≠ .terminal := by
    rw [early]
    decide
  have settling := settled running
  have followed : Follows allowed call
      (Call.notifyPhase { call with session := { call.session with started := true } }) :=
    .of_move (.started call.session early) rfl
  have resettled : Settled
      (Call.notifyPhase { call with session := { call.session with started := true } }).session :=
    fun _ => ⟨settling.sends, settling.flows, settling.submitted⟩
  have same : (Call.notifyPhase
      { call with session := { call.session with started := true } }).session.phase =
        .reentryRecoveryA2 := early
  generalize Call.notifyPhase { call with session := { call.session with started := true } } = begun
    at followed resettled same ⊢
  have coherent := followed.coherent coherent
  by_cases fresh : begun.session.commandSubmitted = false ∧ begun.session.outPending = false
  · rcases trySubmitPhase_cases well coherent (by rw [same]; decide) fresh.1 fresh.2 with
      ⟨after, taken, good⟩ | ⟨after, error, refused, unchanged | ⟨failed, ended⟩⟩
    · rw [taken]
      exact .after followed good
    · -- a refused start leaves the session where it was
      rw [refused]
      refine ⟨followed.trans (.of_same unchanged.1 unchanged.2), ?_⟩
      simp only [unchanged.1]
      exact resettled
    · rw [refused]
      exact ⟨followed.trans failed, settled_terminal ended⟩
  · have unchanged : begun.trySubmitPhase complete = (begun, .ok ()) := by
      rw [not_and_or, Bool.not_eq_false, Bool.not_eq_false] at fresh
      unfold Call.trySubmitPhase
      rcases fresh with submitted | pending
      · simp [submitted]
      · simp [pending]
    rw [unchanged]
    exact ⟨followed, resettled⟩

/-- An accepted A0 frame comes before D1. -/
theorem a0Verdict_early (crypto : Primitives) (session : Session) (frame : List UInt8)
    (taken : ∀ error, session.a0Verdict crypto frame ≠ .refused error) :
    session.phase < .d1 ∧ session.logicalDone = false ∧
      ∃ message, parseReceived frame = .ok message ∧
        session.a0Verdict crypto frame = session.messageVerdict crypto message := by
  unfold Session.a0Verdict at *
  split at taken
  · exact absurd rfl (taken _)
  rename_i early
  split at taken
  · exact absurd rfl (taken _)
  rename_i fresh
  split at taken
  · exact absurd rfl (taken _)
  rename_i long
  split at taken
  · exact absurd rfl (taken _)
  rename_i message parsed
  refine ⟨Nat.lt_of_not_le early, by simpa using fresh, message, parsed, ?_⟩
  rw [if_neg early, if_neg fresh, if_neg long]

/-- A typed response is only taken after the ACK. -/
theorem messageVerdict_typed {crypto : Primitives} {session : Session} {message : A0Message}
    {body : List UInt8} (typed : session.messageVerdict crypto message = .typed body) :
    session.ackSeen = true ∧ phaseAckOnly session.phase = false ∧
      message.control = phaseControl session.phase ∧
        validateTyped crypto session.material session.phase message.body = .ok () := by
  unfold Session.messageVerdict at typed
  simp only at typed
  split at typed
  · split at typed <;> cases typed
  split at typed
  · cases typed
  rename_i taken
  simp only [Bool.or_eq_true, Bool.not_eq_true', decide_eq_true_eq, not_or, Bool.not_eq_false,
    Bool.not_eq_true, ne_eq, not_not] at taken
  split at typed
  · cases typed
  · rename_i valid
    exact ⟨taken.1.1, taken.1.2, taken.2, valid⟩

theorem settling_done {session : Session} (settling : Settling session) (ackSeen done : Bool) :
    Settling { session with ackSeen := ackSeen, logicalDone := done } :=
  ⟨settling.sends, settling.flows, settling.submitted⟩

theorem ackOnly_ne_first {phase : Phase} (only : phaseAckOnly phase = true) :
    phase ≠ .reentryRecoveryA2 := by
  rintro rfl
  exact absurd only (by decide)

theorem lt_tls_of_lt_d1 {phase : Phase} (early : phase < .d1) : phase < .tls :=
  Nat.lt_trans early (show Phase.d1 < Phase.tls by decide)

theorem handleA0_good {crypto : Primitives} {frame : List UInt8}
    (well : CompletesWell allowed complete) (coherent : Coherent call.session)
    (settled : Settled call.session)
    (proper : ∀ body, call.session.a0Verdict crypto frame = .typed body →
      allowed call.session (.typed call.session.phase body)) :
    Good allowed call (call.handleA0 crypto complete frame) := by
  unfold Call.handleA0
  simp only
  split
  · exact .refl settled
  rename_i running
  have settling := settled running
  split
  · exact failError_good call _
  · rename_i ack
    have early := (a0Verdict_early crypto call.session frame (by rw [ack]; exact fun _ => nofun)).1
    have followed : Follows allowed call (Call.note
        { call with session := { call.session with ackSeen := true } }
        (.ack call.session.phase)) := .of_move (.ack call.session early) rfl
    split
    · rename_i only
      have submitted := settling.submitted (ackOnly_ne_first only) (lt_tls_of_lt_d1 early)
      have done : Follows allowed call
          { call with
            session := { call.session with ackSeen := true, logicalDone := true }
            log := call.log ++ [.ack call.session.phase] } :=
        followed.trans (.of_move (.ackDone _ early rfl only submitted) (List.append_nil _).symm)
      exact .after done (advancePhase_good well (done.coherent coherent)
        fun _ => settling_done settling true true)
    · exact ⟨followed, fun _ => settling_done settling true call.session.logicalDone⟩
  · rename_i body typed
    obtain ⟨early, -, message, -, same⟩ := a0Verdict_early crypto call.session frame
      (by rw [typed]; exact fun _ => nofun)
    obtain ⟨seen, -⟩ := messageVerdict_typed (same.symm.trans typed)
    have followed : Follows allowed call (Call.note
        { call with session := { call.session with logicalDone := true } }
        (.typed call.session.phase body)) :=
      .of_move (.typed call.session body early seen (proper body typed)) rfl
    exact .after followed (advancePhase_good well (followed.coherent coherent)
      fun _ => settling_done settling call.session.ackSeen true)

/-- The end of `goodix_secure_session_handle_b0`: D1 is left once its flight was seen. -/
theorem flightSeen_good (well : CompletesWell allowed complete) (coherent : Coherent call.session)
    (settled : Settled call.session) :
    Good allowed call
      (if call.session.phase = .d1 && call.session.d1ServerFlightSeen then
        Call.advancePhase
          { call with session := { call.session with logicalDone := true } } complete
      else call) := by
  split
  · rename_i flown
    simp only [Bool.and_eq_true, decide_eq_true_eq] at flown
    obtain ⟨phase, seen⟩ := flown
    have running : call.session.phase ≠ .terminal := by
      rw [phase]
      decide
    have settling := settled running
    have submitted := settling.submitted (by rw [phase]; decide) (by rw [phase]; decide)
    have followed : Follows allowed call
        { call with session := { call.session with logicalDone := true } } :=
      .of_move (.flight call.session phase seen submitted) (List.append_nil _).symm
    exact .after followed (advancePhase_good well (followed.coherent coherent)
      fun _ => settling_done settling call.session.ackSeen true)
  · exact .refl settled

theorem handleB0_good (well : CompletesWell allowed complete) (coherent : Coherent call.session)
    (settled : Settled call.session) (frame : List UInt8) (push : Push)
    (producing : .d1 ≤ call.session.phase → Producing allowed) :
    Good allowed call (call.handleB0 complete frame push) := by
  unfold Call.handleB0
  simp only
  split
  · exact .refl settled
  split
  · exact failLiteral_good call _ _
  rename_i late
  have late : Phase.d1 ≤ call.session.phase := by
    rw [Bool.or_eq_true, decide_eq_true_eq, not_or] at late
    exact Nat.le_of_not_lt late.1
  split
  · exact failLiteral_good call _ _
  have pushed := tlsServerPush_good well coherent settled (producing late) push
  generalize call.tlsServerPush complete push = result at pushed ⊢
  obtain ⟨after, outcome⟩ := result
  cases outcome with
  | error error => exact .after pushed.follows (failError_good after error)
  | ok done =>
    have coherent := pushed.follows.coherent coherent
    have flown := flightSeen_good well coherent pushed.settled
    have started := maybeStartB0_good well (flown.follows.coherent coherent)
      fun running => (flown.settled running).sending
    exact .after (pushed.follows.trans (flown.follows.trans started.follows))
      (maybeFinishTls_good started.settled)

theorem pacingReady_good (well : CompletesWell allowed complete) (coherent : Coherent call.session)
    (settled : Settled call.session) (generation : UInt64) :
    Good allowed call (call.pacingReady complete generation) := by
  unfold Call.pacingReady
  simp only
  split
  · exact .refl settled
  rename_i due
  simp only [Bool.or_eq_true, Bool.not_eq_true', decide_eq_true_eq, not_or,
    Bool.not_eq_false] at due
  obtain ⟨⟨⟨pacing, -⟩, -⟩, running⟩ := due
  have latches := coherent running
  obtain ⟨phase, free⟩ := latches.pacing pacing
  have idle : call.session.b0Logical = none := by
    cases holds : call.session.b0Logical with
    | none => rfl
    | some logical =>
      have unpaced := (latches.sending (by rw [holds]; rfl)).2
      rw [pacing] at unpaced
      cases unpaced
  have started : Good allowed call (Call.startNextRecordNow (Call.note
      { call with session := { call.session with pacePending := false, paceGeneration := 0 } }
      .paced) complete) := by
    refine startNextRecordNow_good well coherent rfl (.single (.paced call.session running pacing))
      phase free idle rfl ?_
    intro record tlsRecords queued
    exact .single (.pacedBegan call.session record tlsRecords running queued pacing)
  exact .after started.follows (maybeFinishTls_good started.settled)

theorem handoffBackend_good (settled : Settled call.session) (outstanding : Nat) :
    Good allowed call (call.handoffBackend outstanding).1 := by
  unfold Call.handoffBackend
  simp only
  split
  · exact .refl settled
  · rename_i ready
    simp only [Bool.or_eq_true, decide_eq_true_eq, not_or, ne_eq, not_not] at ready
    have phase : call.session.phase = .stop := ready.1.1.1.1.1.1
    refine ⟨.of_move (.handedOff call.session phase) (List.append_nil _).symm, fun running => ?_⟩
    have settling := settled running
    exact ⟨settling.sends, settling.flows, settling.submitted⟩

/-- Every public call is a sequence of moves and leaves nothing waiting. -/
theorem perform_good {crypto : Primitives} (well : CompletesWell allowed complete)
    (coherent : Coherent call.session) (settled : Settled call.session) (event : Event)
    (proper : ∀ frame body, event = .handleA0 frame →
      call.session.a0Verdict crypto frame = .typed body →
        allowed call.session (.typed call.session.phase body))
    (producing : ∀ frame push, event = .handleB0 frame push → .d1 ≤ call.session.phase →
      Producing allowed) :
    Good allowed call (call.perform crypto complete event) := by
  cases event with
  | start => exact start_good well coherent settled
  | handleA0 frame => exact handleA0_good well coherent settled fun body => proper frame body rfl
  | handleB0 frame push => exact handleB0_good well coherent settled frame push (producing frame push rfl)
  | outComplete generation error =>
    simp only [Call.perform]
    split
    · exact .refl settled
    · exact backendOutComplete_good well error call coherent settled
  | pacingReady generation => exact pacingReady_good well coherent settled generation
  | cancel reason => exact failLiteral_good call _ _
  | setPostTlsPlaintext configured =>
    refine ⟨.of_move (.configured call.session configured) (List.append_nil _).symm, ?_⟩
    intro running
    have settling := settled running
    exact ⟨settling.sends, settling.flows, settling.submitted⟩
  | handoffBackend outstanding => exact handoffBackend_good settled outstanding

/-- **One event.**  It is a sequence of moves that emits what is observed of it. -/
theorem step_moves (crypto : Primitives) (session : Session) (input : Input)
    (coherent : Coherent session) (settled : Settled session)
    (proper : ∀ frame body, input.event = .handleA0 frame →
      session.a0Verdict crypto frame = .typed body →
        allowed session (.typed session.phase body))
    (producing : ∀ frame push, input.event = .handleB0 frame push → .d1 ≤ session.phase →
      Producing allowed) :
    Moves (Move allowed) session (step crypto session input).2 (step crypto session input).1 ∧
      Settled (step crypto session input).1 := by
  have good : Good allowed ({ session, answers := input.answers, log := [] } : Call)
      (Call.perform _ crypto (completeInside input.answers.length) input.event) :=
    perform_good (completeInside_good input.answers.length) coherent settled input.event proper producing
  obtain ⟨emitted, moves, log⟩ := good.follows
  refine ⟨?_, good.settled⟩
  rw [List.nil_append] at log
  rw [show (step crypto session input).2 = emitted from log]
  exact moves

end Goodix.SecureSession
