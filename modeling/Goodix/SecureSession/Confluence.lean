import Goodix.Library.Reorderings
import Goodix.SecureSession.Runs

/-! # The OUT of a secure command may complete at any time

Before TLS the completion of a command is handled before, between or after the frames
that answer it, the server flight of D1 among them, and the session goes on alike.
-/

namespace Goodix.SecureSession

open Octets A0Protocol Packets Traces Machines Reorderings

/-! ## What was logged before does not matter -/

/-- The call with more logged before it. -/
def Call.since (log : List Observed) (call : Call) : Call := { call with log := log ++ call.log }

/-- A handler that goes on in the same way whatever was logged before. -/
def CompletesSince (complete : Complete) : Prop :=
  ∀ log error call, complete error (Call.since log call) = (complete error call).since log

/-- The same for functions with a result. -/
def sinceBoth {α : Type} (log : List Observed) (result : Call × α) : Call × α :=
  (result.1.since log, result.2)

section Since

variable {complete : Complete} (since : CompletesSince complete) (log : List Observed) (call : Call)

@[simp] theorem since_mk (session : Session) (answers : List Answer) (logged : List Observed) :
    Call.since log ⟨session, answers, logged⟩ = ⟨session, answers, log ++ logged⟩ := rfl

theorem note_since (observed : Observed) :
    (call.since log).note observed = (call.note observed).since log := by
  simp [Call.note, Call.since]

theorem failError_since (error : GError) :
    (call.since log).failError error = (call.failError error).since log := by
  obtain ⟨session, answers, logged⟩ := call
  by_cases ended : session.phase = .terminal
  · simp [Call.failError, ended]
  · simp [Call.failError, ended, Call.notifyPhase, Call.note]

theorem scheduleNextRecord_since :
    (call.since log).scheduleNextRecord = call.scheduleNextRecord.since log := by
  obtain ⟨session, answers, logged⟩ := call
  rw [since_mk]
  simp only [Call.scheduleNextRecord, Call.note]
  split <;> simp

theorem maybeFinishTls_since :
    (call.since log).maybeFinishTls = call.maybeFinishTls.since log := by
  obtain ⟨session, answers, logged⟩ := call
  rw [since_mk]
  simp only [Call.maybeFinishTls, Call.notifyPhase, Call.note]
  split
  · rfl
  · split <;> simp

theorem enterNextPhase_since :
    (call.since log).enterNextPhase = call.enterNextPhase.since log := by
  simp [Call.enterNextPhase, Call.notifyPhase, Call.note, Call.since]

include since

theorem submitOut_since (sent : Observed) :
    (call.since log).submitOut complete sent = sinceBoth log (call.submitOut complete sent) := by
  obtain ⟨session, answers, logged⟩ := call
  cases answers with
  | nil => simp [Call.submitOut, sinceBoth, Call.note, Call.since]
  | cons answer answers =>
    cases answer with
    | pending => simp [Call.submitOut, sinceBoth, Call.note, Call.since]
    | rejected error => rfl
    | completed error =>
      simp only [Call.submitOut, sinceBoth, since_mk]
      rw [← since]
      simp [Call.note, Call.since]

theorem submitOut_since_mk (session : Session) (answers : List Answer) (logged : List Observed)
    (sent : Observed) :
    Call.submitOut ⟨session, answers, log ++ logged⟩ complete sent =
      sinceBoth log (Call.submitOut ⟨session, answers, logged⟩ complete sent) :=
  submitOut_since since log ⟨session, answers, logged⟩ sent

theorem submitB0Chunk_since :
    (call.since log).submitB0Chunk complete = sinceBoth log (call.submitB0Chunk complete) := by
  obtain ⟨session, answers, logged⟩ := call
  rw [since_mk]
  simp only [Call.submitB0Chunk]
  cases session.b0Logical with
  | none => rfl
  | some logical =>
    simp only
    split
    · rfl
    rw [submitOut_since_mk since log]
    generalize Call.submitOut _ complete
      (.packet (packet 64 0 (logical.drop session.b0Offset))) = result
    obtain ⟨after, outcome⟩ := result
    cases outcome <;> rfl

theorem beginRecord_since (record : List UInt8) :
    (call.since log).beginRecord complete record = (call.beginRecord complete record).since log := by
  obtain ⟨session, answers, logged⟩ := call
  simp only [Call.beginRecord]
  split
  · exact failError_since log _ _
  have begun := submitB0Chunk_since since log
    (Call.note
      { session := { session with b0Logical := some (b0Frame record), b0Offset := 0 }
        answers, log := logged } (.began record))
  rw [← note_since] at begun
  rw [show ∀ call : Call, (Call.since log call).session = call.session from fun _ => rfl]
  simp only [since_mk] at begun ⊢
  rw [begun]
  generalize Call.submitB0Chunk _ complete = result
  obtain ⟨after, outcome⟩ := result
  cases outcome with
  | error error => exact failError_since log _ _
  | ok done => rfl

theorem startNextRecordNow_since :
    (call.since log).startNextRecordNow complete = (call.startNextRecordNow complete).since log := by
  obtain ⟨session, answers, logged⟩ := call
  rw [since_mk]
  simp only [Call.startNextRecordNow]
  split
  · rfl
  · cases session.tlsRecords with
    | nil => rfl
    | cons record rest =>
      exact beginRecord_since since log
        ⟨{ session with tlsRecords := rest }, answers, logged⟩ record

theorem maybeStartB0_since :
    (call.since log).maybeStartB0 complete = (call.maybeStartB0 complete).since log := by
  simp only [Call.maybeStartB0]
  rw [show (Call.since log call).session = call.session from rfl]
  split
  · rfl
  split
  · exact scheduleNextRecord_since log call
  · exact startNextRecordNow_since since log call

theorem trySubmitPhase_since :
    (call.since log).trySubmitPhase complete = sinceBoth log (call.trySubmitPhase complete) := by
  obtain ⟨session, answers, logged⟩ := call
  rw [since_mk]
  simp only [Call.trySubmitPhase]
  split
  · rfl
  split
  · rfl
  cases buildPhaseFrame session.material session.phase with
  | error error => rfl
  | ok frame =>
    simp only
    rw [submitOut_since_mk since log]
    generalize Call.submitOut _ complete (.command session.phase frame) = result
    obtain ⟨after, outcome⟩ := result
    cases outcome with
    | error error => rfl
    | ok done =>
      simp only [sinceBoth, Call.since]
      split <;> rfl

theorem advancePhase_since :
    (call.since log).advancePhase complete = (call.advancePhase complete).since log := by
  simp only [Call.advancePhase]
  rw [show (Call.since log call).session = call.session from rfl, enterNextPhase_since]
  split
  · rfl
  split
  · rfl
  generalize call.enterNextPhase = entered
  rw [show (Call.since log entered).session = entered.session from rfl]
  split
  · rw [trySubmitPhase_since since]
    generalize entered.trySubmitPhase complete = result
    obtain ⟨after, outcome⟩ := result
    cases outcome with
    | error error => exact failError_since log _ _
    | ok done => rfl
  · rw [maybeStartB0_since since, maybeFinishTls_since]

theorem backendOutComplete_since : CompletesSince (Call.backendOutComplete complete) := by
  intro log error call
  obtain ⟨session, answers, logged⟩ := call
  rw [since_mk]
  simp only [Call.backendOutComplete]
  split
  · rfl
  cases error with
  | some error =>
    exact failError_since log
      ⟨{ session with outPending := false, outKind := .none }, answers, logged⟩ error
  | none =>
    simp only
    have noted := note_since log
      { session := { session with outPending := false, outKind := .none }, answers, log := logged }
      (.outComplete session.outKind session.phase)
    simp only [since_mk] at noted
    rw [noted]
    generalize Call.note _ (.outComplete session.outKind session.phase) = completed
    cases session.outKind with
    | none => rfl
    | a0 =>
      simp only
      rw [advancePhase_since since log completed]
      generalize completed.advancePhase complete = after
      by_cases tls : after.session.phase = .tls
      · rw [if_pos tls, if_pos (show (Call.since log after).session.phase = .tls from tls)]
        exact maybeStartB0_since since log after
      · rw [if_neg tls, if_neg (show ¬ (Call.since log after).session.phase = .tls from tls)]
    | b0 =>
      simp only
      cases session.b0Logical with
      | none => rfl
      | some logical =>
        simp only
        split
        · rw [submitB0Chunk_since since log completed]
          generalize completed.submitB0Chunk complete = result
          obtain ⟨after, outcome⟩ := result
          cases outcome with
          | error error => exact failError_since log _ _
          | ok done => rfl
        · generalize sent : ({ completed with
            session :=
              { completed.session with
                b0Logical := none
                b0Offset := 0
                tlsRecordCount := completed.session.tlsRecordCount + 1 } } : Call) = after
          have sent' : ({ Call.since log completed with
            session :=
              { (Call.since log completed).session with
                b0Logical := none
                b0Offset := 0
                tlsRecordCount := (Call.since log completed).session.tlsRecordCount + 1 } } : Call) =
                  after.since log := by
            rw [← sent]
            rfl
          rw [sent', show (Call.since log completed).session = completed.session from rfl]
          split
          · exact maybeFinishTls_since log after
          · rw [scheduleNextRecord_since]
            exact maybeFinishTls_since log _

end Since

theorem completeInside_since (depth : Nat) : CompletesSince (completeInside depth) := by
  induction depth with
  | zero => exact fun log error call => rfl
  | succ depth ih => exact backendOutComplete_since ih

/-! ## Nothing more to start -/

section Rest

variable {complete : Complete} {call : Call}

/-- What is settled needs no second attempt to start a record. -/
theorem maybeStartB0_settled (coherent : Coherent call.session) (settled : Settled call.session) :
    call.maybeStartB0 complete = call := by
  unfold Call.maybeStartB0
  simp only
  split
  · rfl
  rename_i ready
  simp only [Bool.or_eq_true, decide_eq_true_eq, not_or, Bool.not_eq_true] at ready
  obtain ⟨⟨⟨late, free⟩, -⟩, queued⟩ := ready
  -- either the session has ended, or the queue waits for its pacing
  have waits : call.session.phase = .terminal ∨ call.session.pacePending = true := by
    by_cases ended : call.session.phase = .terminal
    · exact .inl ended
    right
    have settling := settled ended
    have latches := coherent ended
    have more : call.session.tlsRecords ≠ [] := by
      intro empty
      rw [empty] at queued
      cases queued
    rcases late_cases (tls_le_of_not_lt late) with tls | stop | ended'
    · rcases settling.flows tls more with pending | paces
      · rw [free] at pending
        cases pending
      · exact paces
    · exact absurd (latches.stopped stop).2 more
    · exact absurd ended' ended
  split
  · unfold Call.scheduleNextRecord
    rcases waits with ended | paces
    · simp [ended]
    · simp [paces]
  · unfold Call.startNextRecordNow
    rcases waits with ended | paces
    · simp [ended]
    · simp [paces]

theorem maybeFinishTls_idem (call : Call) :
    call.maybeFinishTls.maybeFinishTls = call.maybeFinishTls := by
  by_cases finishes : (call.session.phase ≠ .tls || call.session.tls ≠ .established) = true
  · have same : call.maybeFinishTls = call := by
      unfold Call.maybeFinishTls
      simp only
      rw [if_pos finishes]
    rw [same, same]
  · by_cases empty : (!call.session.outPending && call.session.b0Logical.isNone &&
        call.session.tlsRecords.isEmpty && !call.session.pacePending) = true
    · have stopped : call.maybeFinishTls.session.phase = .stop := by
        unfold Call.maybeFinishTls
        simp only
        rw [if_neg finishes, if_pos empty]
        rfl
      generalize call.maybeFinishTls = after at stopped
      unfold Call.maybeFinishTls
      simp [stopped]
    · have same : call.maybeFinishTls = call := by
        unfold Call.maybeFinishTls
        simp only
        rw [if_neg finishes, if_neg empty]
      rw [same, same]

theorem maybeFinishTls_early (early : call.session.phase ≠ .tls) :
    call.maybeFinishTls = call := by
  simp [Call.maybeFinishTls, early]

/-- D1 is left only through the last check for STOP. -/
theorem advancePhase_finished (d1 : call.session.phase = .d1) :
    (call.advancePhase complete).maybeFinishTls = call.advancePhase complete := by
  have early : call.session.phase ≠ .tls := by
    rw [d1]
    decide
  unfold Call.advancePhase
  simp only
  split
  · exact maybeFinishTls_early early
  split
  · exact maybeFinishTls_early early
  have entered : ¬ call.enterNextPhase.session.phase < .tls := by
    show ¬ call.session.phase.next < .tls
    rw [d1]
    decide
  rw [if_neg entered]
  exact maybeFinishTls_idem _

theorem advancePhase_undone (undone : call.session.logicalDone = false) :
    call.advancePhase complete = call := by
  simp [Call.advancePhase, undone]

theorem advancePhase_pending (pending : call.session.outPending = true) :
    call.advancePhase complete = call := by
  simp [Call.advancePhase, pending]

theorem maybeStartB0_early (early : call.session.phase < .tls) :
    call.maybeStartB0 complete = call := by
  simp [Call.maybeStartB0, early]

end Rest

/-! ## Sessions that act alike -/

/-- Equal, or both failed with the same error. -/
structure Alike (first second : Session) : Prop where
  phase : first.phase = second.phase
  error : first.error = second.error
  material : first.material = second.material
  running : first.phase ≠ .terminal → first = second

theorem Alike.of_eq {first second : Session} (same : first = second) : Alike first second := by
  subst same
  exact ⟨rfl, rfl, rfl, fun _ => rfl⟩

theorem alike_equivalence : Equivalence Alike where
  refl := fun _ => .of_eq rfl
  symm := fun alike =>
    ⟨alike.phase.symm, alike.error.symm, alike.material.symm,
      fun running => (alike.running (by rwa [alike.phase])).symm⟩
  trans := fun alike later =>
    ⟨alike.phase.trans later.phase, alike.error.trans later.error,
      alike.material.trans later.material,
      fun running => (alike.running running).trans (later.running (by rwa [← alike.phase]))⟩

/-- What goes out: a command or a packet. -/
def Observed.submitted? : Observed → Option (List UInt8)
  | .command _ frame => some frame
  | .packet octets => some octets
  | _ => none

theorem failError_terminal {call : Call} (ended : call.session.phase = .terminal) (error : GError) :
    call.failError error = call := by
  simp [Call.failError, ended]

/-- A session that has ended sends nothing and keeps its error. -/
theorem step_ended (crypto : Primitives) {session : Session} (ended : session.phase = .terminal)
    (input : Input) :
    (step crypto session input).2 = [] ∧ Alike (step crypto session input).1 session := by
  obtain ⟨event, answers⟩ := input
  cases event with
  | start => simp [step, Call.perform, Call.start, ended, Alike.of_eq]
  | handleA0 frame => simp [step, Call.perform, Call.handleA0, ended, Alike.of_eq]
  | handleB0 frame push => simp [step, Call.perform, Call.handleB0, ended, Alike.of_eq]
  | outComplete generation error =>
    have idle : ∀ complete, Call.backendOutComplete complete error
        { session, answers, log := [] } = { session, answers, log := [] } := by
      simp [Call.backendOutComplete, ended]
    simp only [step, Call.perform]
    split
    · exact ⟨rfl, .of_eq rfl⟩
    · rw [idle]
      exact ⟨rfl, .of_eq rfl⟩
  | pacingReady generation => simp [step, Call.perform, Call.pacingReady, ended, Alike.of_eq]
  | cancel reason =>
    simp [step, Call.perform, Call.cancel, Call.failLiteral, failError_terminal, ended, Alike.of_eq]
  | setPostTlsPlaintext configured =>
    exact ⟨rfl, rfl, rfl, rfl, fun running => absurd ended running⟩
  | handoffBackend outstanding =>
    simp [step, Call.perform, Call.handoffBackend, ended, Alike.of_eq]

theorem alike_indistinct (crypto : Primitives) :
    Indistinct (step crypto) Alike Observed.submitted? where
  equivalence := alike_equivalence
  step := fun first second input alike => by
    by_cases ended : first.phase = .terminal
    · obtain ⟨silent, same⟩ := step_ended crypto ended input
      obtain ⟨silent', same'⟩ := step_ended crypto (alike.phase ▸ ended) input
      refine ⟨?_, by rw [silent, silent']⟩
      exact alike_equivalence.trans same
        (alike_equivalence.trans alike (alike_equivalence.symm same'))
    · rw [alike.running ended]
      exact ⟨.of_eq rfl, rfl⟩

/-! ## Completion of a command -/

def Session.withoutOut (session : Session) : Session :=
  { session with outPending := false, outKind := .none }

section Completion

variable {complete : Complete} {call : Call} {session : Session}

theorem withoutOut_coherent (coherent : Coherent session) (early : session.phase ≤ .d1) :
    Coherent session.withoutOut := by
  intro running
  have latches := coherent running
  refine ⟨fun _ => rfl, fun pending => (by cases pending), latches.sending, ?_, latches.late, ?_⟩
  · intro paces
    exact absurd (latches.pacing paces).1 (ne_tls_of_le_d1 early)
  · intro stop
    rw [show session.phase = .stop from stop] at early
    exact absurd early (by decide)

theorem withoutOut_settled (coherent : Coherent session) (settled : Settled session)
    (early : session.phase ≤ .d1) : Settled session.withoutOut := by
  intro running
  refine ⟨?_, ?_, (settled running).submitted⟩
  · intro holds
    exact absurd ((coherent running).sending holds).1 (ne_tls_of_le_d1 early)
  · intro tls
    exact absurd tls (ne_tls_of_le_d1 early)

/-- The completion of a command before TLS advances the phase, if it is answered, and that is all. -/
theorem backendOutComplete_command (well : CompletesWell (fun _ _ => True) complete)
    (coherent : Coherent call.session) (settled : Settled call.session)
    (early : call.session.phase ≤ .d1) (pending : call.session.outPending = true) :
    Call.backendOutComplete complete none call =
      (Call.note { call with session := call.session.withoutOut }
        (.outComplete .a0 call.session.phase)).advancePhase complete := by
  have running := ne_terminal_of_le_d1 early
  have latches := coherent running
  have kind : call.session.outKind = .a0 := by
    rcases latches.pending pending with command | chunk
    · exact command.1
    · exact absurd (latches.sending chunk.2).1 (ne_tls_of_le_d1 early)
  have coherent' := withoutOut_coherent coherent early
  have settled' := withoutOut_settled coherent settled early
  unfold Call.backendOutComplete
  simp only [pending, kind, running, Bool.not_true, Bool.false_or, decide_false, Bool.false_eq_true,
    if_false]
  generalize completed : Call.note { call with session := call.session.withoutOut }
    (.outComplete .a0 call.session.phase) = noted
  have same : noted.session = call.session.withoutOut := by
    rw [← completed]
    rfl
  rw [show Call.note { call with
    session := { call.session with outPending := false, outKind := .none } }
      (.outComplete .a0 call.session.phase) = noted from completed]
  rw [← same] at coherent' settled'
  have good := advancePhase_good well coherent' settled'
  rw [maybeStartB0_settled (good.follows.coherent coherent') good.settled]
  split <;> rfl

end Completion

/-! ## Frames that arrive while the OUT is pending -/

/-- The events that bring a frame. -/
def Event.Inbound : Event → Prop
  | .handleA0 _ | .handleB0 _ _ => True
  | _ => False

/-- A session that runs with its OUT pending, and the same session without. -/
structure Open (origin pending completed : Session) : Prop where
  early : pending.phase ≤ .d1
  waits : pending.outPending = true
  undone : pending.logicalDone = false
  same : completed = pending.withoutOut
  generation : pending.generation = origin.generation
  owned : pending.backendCallbackOwned = origin.backendCallbackOwned

/-- Two sessions that failed alike. -/
structure Failed (pending completed : Session) : Prop where
  ended : pending.phase = .terminal
  ended' : completed.phase = .terminal
  error : pending.error = completed.error
  material : pending.material = completed.material

/-- The same call with its OUT pending and without: alike, or both failed with the same error. -/
structure Paired (origin : Session) (answers : List Answer) (pending completed : Call) : Prop where
  log : pending.log.filterMap Observed.submitted? = completed.log.filterMap Observed.submitted?
  answers : completed.answers = answers
  session : Open origin pending.session completed.session ∨
    Failed pending.session completed.session

section Paired

variable {origin : Session} {answers : List Answer} {pending completed : Call}
  {complete complete' : Complete}

theorem failError_submits (call : Call) (error : GError) :
    (call.failError error).log.filterMap Observed.submitted? =
      call.log.filterMap Observed.submitted? ∧ (call.failError error).answers = call.answers := by
  unfold Call.failError
  split
  · exact ⟨rfl, rfl⟩
  · simp [Call.notifyPhase, Call.note, Observed.submitted?, List.filterMap_cons]

theorem failError_error {call : Call} (running : call.session.phase ≠ .terminal) (error : GError) :
    (call.failError error).session.error = some (call.session.error.getD error) ∧
      (call.failError error).session.material = call.session.material := by
  simp [Call.failError, running, Call.notifyPhase, Call.note]

theorem Open.running {origin pending completed : Session} (opened : Open origin pending completed) :
    pending.phase ≠ .terminal ∧ pending.phase ≠ .stop ∧ completed.phase = pending.phase := by
  refine ⟨ne_terminal_of_le_d1 opened.early, ?_, ?_⟩
  · intro stop
    have early := opened.early
    rw [stop] at early
    exact absurd early (by decide)
  · rw [opened.same]
    rfl

theorem Paired.fail (paired : Paired origin answers pending completed) (error : GError) :
    Paired origin answers (pending.failError error) (completed.failError error) := by
  refine ⟨?_, (failError_submits completed error).2.trans paired.answers, .inr ?_⟩
  · rw [(failError_submits pending error).1, (failError_submits completed error).1, paired.log]
  refine ⟨failError_ends _ _, failError_ends _ _, ?_, ?_⟩
  all_goals
    rcases paired.session with opened | failed
    · obtain ⟨running, -, phase⟩ := opened.running
      obtain ⟨error₁, material₁⟩ := failError_error running error
      obtain ⟨error₂, material₂⟩ := failError_error (phase ▸ running) error
      simp only [error₁, error₂, material₁, material₂, opened.same]
      rfl
    · rw [failError_terminal failed.ended, failError_terminal failed.ended']
      first
        | exact failed.error
        | exact failed.material

/-- Before TLS a record is only queued. -/
theorem tlsCall_output {call : Call} (early : call.session.phase ≤ .d1) (record : List UInt8) :
    Call.tlsCall complete call (.output record) =
      Call.note
        { call with
          session :=
            { call.session with
              d1ServerFlightSeen := call.session.d1ServerFlightSeen || call.session.phase = .d1
              tlsRecords := call.session.tlsRecords ++ [record] } }
        (.record call.session.phase record) := by
  have running := ne_terminal_of_le_d1 early
  have unstopped : call.session.phase ≠ .stop := by
    intro stop
    rw [stop] at early
    exact absurd early (by decide)
  simp only [Call.tlsCall, Call.tlsOutput, running, unstopped, decide_false, Bool.or_self,
    Bool.false_eq_true, if_false]
  split
  · refine maybeStartB0_early ?_
    exact Nat.lt_of_le_of_lt early (show Phase.d1 < Phase.tls by decide)
  · rfl

theorem tlsCall_plaintext {call : Call} (unstopped : call.session.phase ≠ .stop)
    (octets : List UInt8) :
    Call.tlsCall complete call (.plaintext octets) =
      call.failLiteral errorTls "TLS application data is outside D278/01" := by
  simp [Call.tlsCall, Call.tlsPlaintext, unstopped]

/-- A failed session takes no records and no plaintext any more. -/
theorem tlsCall_terminal {call : Call} (ended : call.session.phase = .terminal) (made : TlsCall) :
    Call.tlsCall complete call made = call ∨ made = .established := by
  cases made with
  | output record => simp [Call.tlsCall, Call.tlsOutput, ended]
  | plaintext octets =>
    simp [Call.tlsCall, Call.tlsPlaintext, Call.failLiteral, ended, failError_terminal ended]
  | established => exact .inr rfl

theorem Paired.tlsCall (paired : Paired origin answers pending completed) (made : TlsCall) :
    Paired origin answers (Call.tlsCall complete pending made)
      (Call.tlsCall complete' completed made) := by
  rcases paired.session with opened | failed
  · obtain ⟨running, unstopped, phase⟩ := opened.running
    cases made with
    | output record =>
      rw [tlsCall_output opened.early, tlsCall_output (by rw [phase]; exact opened.early)]
      refine ⟨?_, paired.answers, .inl ⟨opened.early, opened.waits, opened.undone, ?_,
        opened.generation, opened.owned⟩⟩
      · simp [Call.note, Observed.submitted?, List.filterMap_cons, paired.log]
      · simp only [Call.note, opened.same]
        rfl
    | plaintext octets =>
      rw [tlsCall_plaintext unstopped, tlsCall_plaintext (by rw [phase]; exact unstopped)]
      exact paired.fail _
    | established =>
      refine ⟨paired.log, paired.answers, .inl ⟨opened.early, opened.waits, opened.undone, ?_,
        opened.generation, opened.owned⟩⟩
      simp only [Call.tlsCall, opened.same]
      rfl
  · rcases tlsCall_terminal failed.ended made with same | rfl
    · rcases tlsCall_terminal failed.ended' made with same' | rfl
      · rw [same, same']
        exact paired
      · exact ⟨paired.log, paired.answers, .inr ⟨failed.ended, failed.ended', failed.error,
          failed.material⟩⟩
    · exact ⟨paired.log, paired.answers, .inr ⟨failed.ended, failed.ended', failed.error,
        failed.material⟩⟩

theorem Paired.tlsCalls (calls : List TlsCall) : ∀ {pending completed : Call},
    Paired origin answers pending completed →
      Paired origin answers (calls.foldl (Call.tlsCall complete) pending)
        (calls.foldl (Call.tlsCall complete') completed) := by
  induction calls with
  | nil => exact fun paired => paired
  | cons made calls ih => exact fun paired => ih (paired.tlsCall made)

theorem Paired.push (paired : Paired origin answers pending completed)
    (state : pending.session.tls = completed.session.tls) (push : Push) :
    Paired origin answers (pending.tlsServerPush complete push).1
        (completed.tlsServerPush complete' push).1 ∧
      (pending.tlsServerPush complete push).2 = (completed.tlsServerPush complete' push).2 := by
  unfold Call.tlsServerPush
  rw [state]
  split
  · exact ⟨paired, rfl⟩
  have made : Paired origin answers (push.calls.foldl (Call.tlsCall complete) pending)
      (push.calls.foldl (Call.tlsCall complete') completed) := paired.tlsCalls push.calls
  simp only
  cases push.result with
  | ok done => exact ⟨made, rfl⟩
  | error error =>
    refine ⟨⟨made.log, made.answers, ?_⟩, rfl⟩
    rcases made.session with opened | failed
    · refine .inl ⟨opened.early, opened.waits, opened.undone, ?_, opened.generation, opened.owned⟩
      simp only [opened.same]
      rfl
    · exact .inr ⟨failed.ended, failed.ended', failed.error, failed.material⟩

/-! ## What a frame does, in two halves -/

/-- The phase is answered, or it is not. -/
def Call.answer (call : Call) (done : Bool) : Call :=
  { call with session := { call.session with logicalDone := call.session.logicalDone || done } }

/-- While the OUT is pending a frame only leaves its answer; without it the phase advances. -/
def Halves (crypto : Primitives) (origin : Session) (answers : List Answer)
    (complete complete' : Complete) (pending completed : Call) (event : Event) : Prop :=
  ∃ before after done, Paired origin answers before after ∧
    pending.perform crypto complete event = before.answer done ∧
    completed.perform crypto complete' event = (after.answer done).advancePhase complete'

theorem answer_false (call : Call) : call.answer false = call := by
  simp [Call.answer]

theorem answer_terminal {call : Call} (ended : call.session.phase = .terminal) (done : Bool) :
    (call.answer done).advancePhase complete = call.answer done := by
  have late : ¬ (call.answer done).session.phase ≤ .d1 := by
    show ¬ call.session.phase ≤ .d1
    rw [ended]
    decide
  have after : Phase.d1 < (call.answer done).session.phase := Nat.lt_of_not_le late
  simp [Call.advancePhase, after]

/-- A call that has not changed but for its failure advances nothing. -/
theorem Paired.halves_unanswered {crypto : Primitives} {event : Event} {call call' : Call}
    (paired : Paired origin answers pending completed)
    (performed : call.perform crypto complete event = pending)
    (performed' : call'.perform crypto complete' event = completed) :
    Halves crypto origin answers complete complete' call call' event := by
  refine ⟨pending, completed, false, paired, by rw [answer_false, performed], ?_⟩
  rw [answer_false, performed']
  rcases paired.session with opened | failed
  · refine (advancePhase_undone ?_).symm
    rw [opened.same]
    exact opened.undone
  · have same := @answer_terminal complete' _ failed.ended' false
    rw [answer_false] at same
    exact same.symm

theorem answer_true (call : Call) :
    call.answer true = { call with session := { call.session with logicalDone := true } } := by
  simp [Call.answer]

/-- The call after an ACK, and after a typed response. -/
def Call.acknowledge (call : Call) : Call :=
  Call.note { call with session := { call.session with ackSeen := true } } (.ack call.session.phase)

theorem perform_ack {crypto : Primitives} {call : Call} {frame : List UInt8}
    (running : call.session.phase ≠ .terminal)
    (taken : call.session.a0Verdict crypto frame = .ack) :
    call.perform crypto complete (.handleA0 frame) =
      if phaseAckOnly call.session.phase then
        (call.acknowledge.answer true).advancePhase complete
      else call.acknowledge := by
  simp only [Call.perform, Call.handleA0, running, taken, if_false, answer_true]
  rfl

theorem perform_typed {crypto : Primitives} {call : Call} {frame body : List UInt8}
    (running : call.session.phase ≠ .terminal)
    (taken : call.session.a0Verdict crypto frame = .typed body) :
    call.perform crypto complete (.handleA0 frame) =
      ((call.note (.typed call.session.phase body)).answer true).advancePhase complete := by
  simp only [Call.perform, Call.handleA0, running, taken, if_false, answer_true]
  rfl

theorem perform_refused {crypto : Primitives} {call : Call} {frame : List UInt8} {error : GError}
    (running : call.session.phase ≠ .terminal)
    (taken : call.session.a0Verdict crypto frame = .refused error) :
    call.perform crypto complete (.handleA0 frame) = call.failError error := by
  simp only [Call.perform, Call.handleA0, running, taken, if_false]

theorem Paired.acknowledge (paired : Paired origin answers pending completed)
    (opened : Open origin pending.session completed.session) :
    Paired origin answers pending.acknowledge completed.acknowledge := by
  refine ⟨?_, paired.answers, .inl ⟨opened.early, opened.waits, opened.undone, ?_,
    opened.generation, opened.owned⟩⟩
  · simp [Call.acknowledge, Call.note, Observed.submitted?, List.filterMap_cons, paired.log]
  · simp only [Call.acknowledge, Call.note, opened.same]
    rfl

theorem handleA0_halves {crypto : Primitives} (paired : Paired origin answers pending completed)
    (opened : Open origin pending.session completed.session) (frame : List UInt8) :
    Halves crypto origin answers complete complete' pending completed (.handleA0 frame) := by
  obtain ⟨running, -, phase⟩ := opened.running
  have running' : completed.session.phase ≠ .terminal := phase ▸ running
  have verdict : completed.session.a0Verdict crypto frame =
      pending.session.a0Verdict crypto frame := by
    rw [opened.same]
    rfl
  cases taken : pending.session.a0Verdict crypto frame with
  | refused error =>
    exact (paired.fail error).halves_unanswered (perform_refused running taken)
      (perform_refused running' (verdict.trans taken))
  | ack =>
    have acknowledged := paired.acknowledge opened
    have performed := @perform_ack complete crypto pending frame running taken
    have performed' := @perform_ack complete' crypto completed frame running' (verdict.trans taken)
    rw [phase] at performed'
    cases only : phaseAckOnly pending.session.phase with
    | false =>
      rw [only, if_neg Bool.false_ne_true] at performed performed'
      exact acknowledged.halves_unanswered performed performed'
    | true =>
      rw [only, if_pos rfl] at performed performed'
      refine ⟨_, _, true, acknowledged, ?_, performed'⟩
      rw [performed]
      exact advancePhase_pending opened.waits
  | typed body =>
    have answered : Paired origin answers
        (pending.note (.typed pending.session.phase body))
        (completed.note (.typed completed.session.phase body)) := by
      refine ⟨?_, paired.answers, .inl opened⟩
      simp [Call.note, Observed.submitted?, List.filterMap_cons, paired.log]
    refine ⟨_, _, true, answered, ?_, perform_typed running' (verdict.trans taken)⟩
    rw [perform_typed running taken]
    exact advancePhase_pending opened.waits

/-- The end of `handle_b0`, on both sides of a push that succeeded. -/
theorem flight_halves {crypto : Primitives} {frame : List UInt8} {push : Push}
    {call call' before after : Call} (well : CompletesWell (fun _ _ => True) complete')
    (coherent : Coherent after.session) (settled : Settled after.session)
    (paired : Paired origin answers before after)
    (performed : call.perform crypto complete (.handleB0 frame push) =
      (Call.maybeStartB0
        (if before.session.phase = .d1 && before.session.d1ServerFlightSeen then
          (before.answer true).advancePhase complete
        else before) complete).maybeFinishTls)
    (performed' : call'.perform crypto complete' (.handleB0 frame push) =
      (Call.maybeStartB0
        (if after.session.phase = .d1 && after.session.d1ServerFlightSeen then
          (after.answer true).advancePhase complete'
        else after) complete').maybeFinishTls) :
    Halves crypto origin answers complete complete' call call' (.handleB0 frame push) := by
  have flown := flightSeen_good well coherent settled
  rw [← answer_true] at flown
  rw [maybeStartB0_settled (flown.follows.coherent coherent) flown.settled] at performed'
  rcases paired.session with opened | failed
  · have below : before.session.phase < .tls :=
      Nat.lt_of_le_of_lt opened.early (show Phase.d1 < Phase.tls by decide)
    have flight : after.session.phase = before.session.phase ∧
        after.session.d1ServerFlightSeen = before.session.d1ServerFlightSeen := by
      rw [opened.same]
      exact ⟨rfl, rfl⟩
    rw [flight.1, flight.2] at performed'
    by_cases seen : (before.session.phase = .d1 && before.session.d1ServerFlightSeen) = true
    · rw [if_pos seen] at performed performed'
      simp only [Bool.and_eq_true, decide_eq_true_eq] at seen
      have waits : (before.answer true).session.outPending = true := opened.waits
      have below' : (before.answer true).session.phase < .tls := below
      have notTls : (before.answer true).session.phase ≠ .tls := ne_tls_of_le_d1 opened.early
      have d1 : (after.answer true).session.phase = .d1 := flight.1.trans seen.1
      rw [advancePhase_pending waits, maybeStartB0_early below', maybeFinishTls_early notTls]
        at performed
      rw [advancePhase_finished d1] at performed'
      exact ⟨before, after, true, paired, performed, performed'⟩
    · rw [if_neg seen] at performed performed'
      rw [maybeStartB0_early below, maybeFinishTls_early (ne_tls_of_le_d1 opened.early)]
        at performed
      rw [maybeFinishTls_early (by rw [flight.1]; exact ne_tls_of_le_d1 opened.early)]
        at performed'
      exact paired.halves_unanswered performed performed'
  · -- the push ended the session on both sides
    have unseen : ¬ (before.session.phase = .d1 && before.session.d1ServerFlightSeen) = true := by
      simp [failed.ended]
    have unseen' : ¬ (after.session.phase = .d1 && after.session.d1ServerFlightSeen) = true := by
      simp [failed.ended']
    rw [if_neg unseen, maybeStartB0_settled (coherent_terminal failed.ended)
      (settled_terminal failed.ended), maybeFinishTls_early (by rw [failed.ended]; decide)]
      at performed
    rw [if_neg unseen', maybeFinishTls_early (by rw [failed.ended']; decide)] at performed'
    exact paired.halves_unanswered performed performed'

/-- What `handle_b0` does once the TLS server took the record. -/
def Call.pushed (complete : Complete) : Call × Except GError Unit → Call
  | (call, .error error) => call.failError error
  | (call, .ok ()) =>
    (Call.maybeStartB0
      (if call.session.phase = .d1 && call.session.d1ServerFlightSeen then
        (call.answer true).advancePhase complete
      else call) complete).maybeFinishTls

theorem handleB0_halves {crypto : Primitives} (well : CompletesWell (fun _ _ => True) complete')
    (coherent : Coherent completed.session) (settled : Settled completed.session)
    (paired : Paired origin answers pending completed)
    (opened : Open origin pending.session completed.session) (frame : List UInt8) (push : Push) :
    Halves crypto origin answers complete complete' pending completed (.handleB0 frame push) := by
  obtain ⟨running, unstopped, phase⟩ := opened.running
  by_cases early : pending.session.phase < .d1
  · refine (paired.fail (secureError errorProtocol
      "B0 is forbidden in the current phase")).halves_unanswered ?_ ?_
    · simp [Call.perform, Call.handleB0, running, early, Call.failLiteral]
    · simp [Call.perform, Call.handleB0, phase, running, early, Call.failLiteral]
  by_cases wrapped : b0WrapperValid frame = true
  · have pushed := @Paired.push _ _ _ _ complete complete' paired (by rw [opened.same]; rfl) push
    have good := tlsServerPush_good well coherent settled (fun _ _ => trivial) push
    have performed : pending.perform crypto complete (.handleB0 frame push) =
        Call.pushed complete (pending.tlsServerPush complete push) := by
      simp only [Call.perform, Call.handleB0, running, unstopped, early, wrapped, if_false,
        decide_false, Bool.false_and, Bool.or_self, Bool.false_eq_true, Bool.not_true]
      obtain ⟨call, error | done⟩ := pending.tlsServerPush complete push <;>
        simp only [Call.pushed, answer_true]
    have performed' : completed.perform crypto complete' (.handleB0 frame push) =
        Call.pushed complete' (completed.tlsServerPush complete' push) := by
      simp only [Call.perform, Call.handleB0, phase, running, unstopped, early, wrapped, if_false,
        decide_false, Bool.false_and, Bool.or_self, Bool.false_eq_true, Bool.not_true]
      obtain ⟨call, error | done⟩ := completed.tlsServerPush complete' push <;>
        simp only [Call.pushed, answer_true]
    generalize pending.tlsServerPush complete push = result at performed pushed
    generalize completed.tlsServerPush complete' push = result' at performed' pushed good
    obtain ⟨before, outcome⟩ := result
    obtain ⟨after, outcome'⟩ := result'
    obtain ⟨made, same⟩ := pushed
    cases same
    cases outcome with
    | error error => exact (made.fail error).halves_unanswered performed performed'
    | ok done =>
      exact flight_halves well (good.follows.coherent coherent) good.settled made performed
        performed'
  · refine (paired.fail (secureError errorProtocol "malformed B0 wrapper")).halves_unanswered ?_ ?_
    · simp [Call.perform, Call.handleB0, running, unstopped, early, wrapped, Call.failLiteral]
    · simp [Call.perform, Call.handleB0, phase, running, unstopped, early, wrapped,
        Call.failLiteral]

end Paired

/-! ## The order of completion and frame -/

/-- The completion of the phase's command comes after a frame and not before it.  The answers of
the backend stay where they are: they belong to the submits in their order. -/
inductive Late : Rule Session Input where
  | out (session : Session) (event : Event) (first second : List Answer) (inbound : event.Inbound)
      (early : session.phase ≤ .d1) (pending : session.outPending = true)
      (undone : session.logicalDone = false) :
      Late session
        [⟨.outComplete session.generation none, first⟩, ⟨event, second⟩]
        [⟨event, first⟩, ⟨.outComplete session.generation none, second⟩]

/-- What every session on its way satisfies. -/
structure Reached (session : Session) : Prop where
  coherent : Coherent session
  settled : Settled session
  owned : session.phase < .stop → session.backendCallbackOwned = true

theorem move_owned {allowed : Session → Observed → Prop} {before after : Session}
    {emitted : List Observed} (owned : before.phase < .stop → before.backendCallbackOwned = true)
    (move : Move allowed before emitted after) (running : after.phase < .stop) :
    after.backendCallbackOwned = true := by
  have earlier : before.phase < .stop := Nat.lt_of_le_of_lt (move_le move) running
  cases move with
  | handedOff phase =>
    rw [phase] at earlier
    exact absurd earlier (by decide)
  | failed seen final error alive shown ended =>
    rw [ended] at running
    exact absurd running (by decide)
  | _ => exact owned earlier

theorem step_reached (crypto : Primitives) (session : Session) (input : Input)
    (reached : Reached session) : Reached (step crypto session input).1 := by
  obtain ⟨coherent, settled⟩ := step_coherent crypto input reached.coherent reached.settled
  obtain ⟨moves, -⟩ := @step_moves (fun _ _ => True) crypto session input reached.coherent
    reached.settled (fun _ _ _ _ => trivial) fun _ _ _ _ _ _ => trivial
  refine ⟨coherent, settled, ?_⟩
  exact moves.state_invariant
    (fun session => session.phase < .stop → session.backendCallbackOwned = true)
    (fun _ _ _ owned move => move_owned owned move) reached.owned

theorem initial_reached (generation : UInt64) (material : SecureMaterial) :
    Reached (initial generation material) :=
  ⟨initial_coherent generation material, initial_settled generation material, fun _ => rfl⟩

section Order

variable {session : Session} (crypto : Primitives)

theorem lt_stop_of_le_d1 {phase : Phase} (early : phase ≤ .d1) : phase < .stop :=
  Nat.lt_of_le_of_lt early (show Phase.d1 < Phase.stop by decide)

/-- The completion of a command, as an event of its own. -/
theorem step_completion (reached : Reached session) (early : session.phase ≤ .d1)
    (pending : session.outPending = true) {generation : UInt64}
    (same : session.generation = generation) (answers : List Answer) :
    let advanced := Call.advancePhase ⟨session.withoutOut, answers, []⟩
      (completeInside answers.length)
    step crypto session ⟨.outComplete generation none, answers⟩ =
      (advanced.session, .outComplete .a0 session.phase :: advanced.log) := by
  subst same
  have owned := reached.owned (lt_stop_of_le_d1 early)
  have advanced := advancePhase_since (completeInside_since answers.length)
    [.outComplete .a0 session.phase] ⟨session.withoutOut, answers, []⟩
  have completed : Call.backendOutComplete (completeInside answers.length) none
      ⟨session, answers, []⟩ =
        Call.since [.outComplete .a0 session.phase]
          (Call.advancePhase ⟨session.withoutOut, answers, []⟩
            (completeInside answers.length)) :=
    (backendOutComplete_command (completeInside_good answers.length) reached.coherent
      reached.settled early pending).trans advanced
  simp only [step, Call.perform, ne_eq, not_true_eq_false, decide_false, owned, Bool.not_true,
    Bool.or_self, Bool.false_eq_true, if_false]
  rw [completed]
  rfl

/-- Both sides of one completion and one frame. -/
theorem late_agrees (reached : Reached session) {before after : List Input}
    (late : Late session before after) :
    Agree Alike Observed.submitted? (run (step crypto) session before)
      (run (step crypto) session after) := by
  cases late with
  | out _ event first second inbound early pending undone =>
  -- the completion first: nothing is answered yet
  have completion := step_completion crypto reached early pending rfl first
  have idle : Call.advancePhase ⟨session.withoutOut, first, []⟩ (completeInside first.length) =
      ⟨session.withoutOut, first, []⟩ := advancePhase_undone undone
  simp only [idle] at completion
  have coherent := withoutOut_coherent reached.coherent early
  have settled := withoutOut_settled reached.coherent reached.settled early
  have opened : Open session session session.withoutOut :=
    ⟨early, pending, undone, rfl, rfl, rfl⟩
  have paired : Paired session second ⟨session, first, []⟩ ⟨session.withoutOut, second, []⟩ :=
    ⟨rfl, rfl, .inl opened⟩
  have halves : Halves crypto session second (completeInside first.length)
      (completeInside second.length) ⟨session, first, []⟩ ⟨session.withoutOut, second, []⟩
      event := by
    cases event with
    | handleA0 frame => exact handleA0_halves paired opened frame
    | handleB0 frame push =>
      exact handleB0_halves (completeInside_good _) coherent settled paired opened frame push
    | _ => exact inbound.elim
  obtain ⟨before, after, done, paired, waited, went⟩ := halves
  have frameFirst : step crypto session ⟨event, first⟩ =
      ((before.answer done).session, (before.answer done).log) := by
    simp only [step, waited]
  have frameSecond : step crypto session.withoutOut ⟨event, second⟩ =
      (((after.answer done).advancePhase (completeInside second.length)).session,
        ((after.answer done).advancePhase (completeInside second.length)).log) := by
    simp only [step, went]
  have reached' := step_reached crypto session ⟨event, first⟩ reached
  rw [frameFirst] at reached'
  have logs := paired.log
  simp only [run, completion, frameSecond, frameFirst, List.append_nil]
  rcases paired.session with opened | failed
  · -- the completion finds the phase as the frame left it
    have completion := step_completion crypto reached' opened.early opened.waits
      (show (before.answer done).session.generation = session.generation from opened.generation)
      second
    have same : after.answer done =
        Call.since after.log ⟨(before.answer done).session.withoutOut, second, []⟩ := by
      obtain ⟨afterSession, afterAnswers, afterLog⟩ := after
      have sessions := opened.same
      have given := paired.answers
      simp only at sessions given
      subst sessions given
      simp [Call.answer, Call.since, Session.withoutOut]
    rw [completion, same, advancePhase_since (completeInside_since second.length)]
    refine ⟨.of_eq rfl, ?_⟩
    simp only [Call.since, List.filterMap_append, List.filterMap_cons, Observed.submitted?,
      List.filterMap_nil, List.nil_append]
    rw [← logs]
    rfl
  · -- both have failed: nothing more happens
    obtain ⟨silent, alike⟩ := step_ended crypto
      (show (before.answer done).session.phase = .terminal from failed.ended)
      ⟨.outComplete session.generation none, second⟩
    rw [answer_terminal failed.ended', silent]
    refine ⟨?_, ?_⟩
    · refine alike_equivalence.trans ?_ (alike_equivalence.symm alike)
      exact ⟨failed.ended'.trans failed.ended.symm, failed.error.symm, failed.material.symm,
        fun running => absurd failed.ended' running⟩
    · simp only [List.filterMap_append, List.filterMap_cons, Observed.submitted?,
        List.filterMap_nil, List.nil_append, List.append_nil]
      exact logs.symm

/-- **Confluence of the secure session before TLS.**  However late the completions of its commands
are handled, D1 included, the same commands and packets are sent and the sessions go on alike. -/
theorem session_confluent {generation : UInt64} {material : SecureMaterial}
    {inputs inputs' : List Input}
    (reordered : Reordered (step crypto) Late (initial generation material) inputs inputs') :
    Agree Alike Observed.submitted? (run (step crypto) (initial generation material) inputs)
      (run (step crypto) (initial generation material) inputs') :=
  reordered.agree (alike_indistinct crypto) Reached (step_reached crypto)
    (fun _ _ _ reached late => late_agrees crypto reached late)
    (initial_reached generation material)

end Order

end Goodix.SecureSession
