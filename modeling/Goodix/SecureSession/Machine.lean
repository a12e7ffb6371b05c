import Goodix.Library.Machines
import Goodix.Library.Packets
import Goodix.SecureSession.Contract

/-! # The secure session

`goodix_secure_session.c`: the commands before TLS, the handshake in B0 frames, and the
egress of its records.  The backend may complete an OUT inside the very call that
submits it, so every function that submits takes the handler of such a completion.
What OpenSSL makes of an input arrives with the event: the callbacks of one
`goodix_tls_server_push` in their order, and its result.
-/

namespace Goodix.SecureSession

open Octets A0Protocol Packets

inductive OutKind where
  | none
  | a0
  | b0
  deriving DecidableEq, Repr

inductive TlsState where
  | handshake
  | established
  | terminal
  deriving DecidableEq, Repr

/-- `tlsRecordCount` is a `guint` and wraps. -/
structure Session where
  generation : UInt64
  phase : Phase
  material : SecureMaterial
  tls : TlsState
  postTlsPlaintext : Bool
  error : Option GError
  started : Bool
  ackSeen : Bool
  logicalDone : Bool
  commandSubmitted : Bool
  outPending : Bool
  outKind : OutKind
  tlsRecords : List (List UInt8)
  tlsRecordCount : UInt32
  b0Logical : Option (List UInt8)
  b0Offset : Nat
  pacePending : Bool
  d1ServerFlightSeen : Bool
  backendCallbackOwned : Bool
  paceGeneration : UInt64
  deriving DecidableEq

/-- The object as `goodix_secure_session_new` leaves it.  The PSK has gone to the TLS server. -/
def initial (generation : UInt64) (material : SecureMaterial) : Session :=
  { generation
    phase := .reentryRecoveryA2
    material := { material with psk := [] }
    tls := .handshake
    postTlsPlaintext := false
    error := none
    started := false
    ackSeen := false
    logicalDone := false
    commandSubmitted := false
    outPending := false
    outKind := .none
    tlsRecords := []
    tlsRecordCount := 0
    b0Logical := none
    b0Offset := 0
    pacePending := false
    d1ServerFlightSeen := false
    backendCallbackOwned := true
    paceGeneration := 0 }

/-- `goodix_secure_session_new`; a missing generation leaves no error. -/
def new (crypto : Primitives) (generation : UInt64) (material : SecureMaterial) :
    Except (Option GError) Session :=
  if generation = 0 then .error none
  else
    match validateMaterial crypto material with
    | .error error => .error (some error)
    | .ok () => .ok (initial generation material)

/-- What `goodix_fpi_usb_backend_submit_out` does with a submit: refuse it, take it, or take it and
complete it before it returns. -/
inductive Answer where
  | rejected (error : GError)
  | pending
  | completed (error : Option GError)

/-- What a session does that others can see.  The callback of a phase sees the session. -/
inductive Observed where
  | phase (session : Session)
  | command (phase : Phase) (frame : List UInt8)
  | packet (octets : List UInt8)
  | outComplete (kind : OutKind) (phase : Phase)
  | ack (phase : Phase)
  | typed (phase : Phase) (body : List UInt8)
  | record (phase : Phase) (record : List UInt8)
  | began (record : List UInt8)
  | scheduled
  | paced
  | plaintext (octets : List UInt8)
  | terminal (error : GError)
  deriving DecidableEq

/-- A public call under way: the session, the answers the backend has for its next submits, and
what was seen so far. -/
structure Call where
  session : Session
  answers : List Answer
  log : List Observed

def Call.note (call : Call) (observed : Observed) : Call :=
  { call with log := call.log ++ [observed] }

/-- What is done with a completion that comes inside a submit. -/
abbrev Complete := Option GError → Call → Call

/-- `goodix_fpi_usb_backend_submit_out` -/
def Call.submitOut (call : Call) (complete : Complete) (sent : Observed) :
    Call × Except GError Unit :=
  match call.answers with
  | [] => (call.note sent, .ok ())
  | .pending :: answers => (Call.note { call with answers } sent, .ok ())
  | .rejected error :: answers => ({ call with answers }, .error error)
  | .completed error :: answers => (complete error (Call.note { call with answers } sent), .ok ())

/-- `notify_phase` -/
def Call.notifyPhase (call : Call) : Call := call.note (.phase call.session)

/-- `session_fail_error`, with `clear_record_queue` -/
def Call.failError (call : Call) (error : GError) : Call :=
  if call.session.phase = .terminal then call
  else
    let call := Call.notifyPhase { call with session := { call.session with phase := .terminal } }
    let session :=
      { call.session with
        error := some (call.session.error.getD error)
        pacePending := false
        tlsRecords := []
        b0Logical := none
        b0Offset := 0
        tls := .terminal }
    Call.note { call with session } (.terminal (call.session.error.getD error))

/-- `session_fail_literal` -/
def Call.failLiteral (call : Call) (code : Nat) (message : String) : Call :=
  call.failError (secureError code message)

/-! ## Egress -/

/-- The B0 frame of a TLS record: the octet 0xb0, a little-endian length and a sum. -/
def b0Frame (record : List UInt8) : List UInt8 :=
  let length := UInt16.ofNat record.length
  [0xb0, length.toUInt8, (length >>> 8).toUInt8,
    (0xb0 : UInt8) + length.toUInt8 + (length >>> 8).toUInt8] ++ record

/-- `schedule_next_record` -/
def Call.scheduleNextRecord (call : Call) : Call :=
  if call.session.pacePending || call.session.phase = .terminal then call
  else
    Call.note
      { call with
        session :=
          { call.session with pacePending := true, paceGeneration := call.session.generation } }
      .scheduled

/-- `submit_b0_chunk` -/
def Call.submitB0Chunk (call : Call) (complete : Complete) : Call × Except GError Unit :=
  let session := call.session
  match session.b0Logical with
  | none => (call, .ok ())
  | some logical =>
    if session.outPending then (call, .ok ())
    else
      let left := logical.drop session.b0Offset
      let copied := min (logical.length - session.b0Offset) 64
      let submitted :=
        { call with
          session :=
            { session with
              b0Offset := session.b0Offset + copied
              outPending := true
              outKind := .b0 } }
      match submitted.submitOut complete (.packet (packet 64 0 left)) with
      | (call, .error error) =>
        ({ call with
            session :=
              { call.session with
                b0Offset := call.session.b0Offset - copied
                outPending := false
                outKind := .none } }, .error error)
      | (call, .ok ()) => (call, .ok ())

/-- The end of `start_next_record_now`: the record is the one to send now. -/
def Call.beginRecord (call : Call) (complete : Complete) (record : List UInt8) : Call :=
  if record.length = 0 || record.length > 65535 then
    call.failLiteral errorTls "TLS record length cannot be wrapped in B0"
  else
    let call :=
      Call.note
        { call with
          session := { call.session with b0Logical := some (b0Frame record), b0Offset := 0 } }
        (.began record)
    match call.submitB0Chunk complete with
    | (call, .error error) => call.failError error
    | (call, .ok ()) => call

/-- `start_next_record_now` -/
def Call.startNextRecordNow (call : Call) (complete : Complete) : Call :=
  let session := call.session
  if session.b0Logical.isSome || session.outPending || session.pacePending ||
      session.phase = .terminal then call
  else
    match session.tlsRecords with
    | [] => call
    | record :: tlsRecords =>
      Call.beginRecord { call with session := { session with tlsRecords } } complete record

/-- `maybe_start_b0` -/
def Call.maybeStartB0 (call : Call) (complete : Complete) : Call :=
  let session := call.session
  if session.phase < .tls || session.outPending || session.b0Logical.isSome ||
      session.tlsRecords.isEmpty then call
  else if session.tlsRecordCount ≠ 0 then call.scheduleNextRecord
  else call.startNextRecordNow complete

/-- `maybe_finish_tls` -/
def Call.maybeFinishTls (call : Call) : Call :=
  let session := call.session
  if session.phase ≠ .tls || session.tls ≠ .established then call
  else if !session.outPending && session.b0Logical.isNone && session.tlsRecords.isEmpty &&
      !session.pacePending then
    Call.notifyPhase { call with session := { session with phase := .stop } }
  else call

/-! ## Phases -/

/-- `try_submit_phase` -/
def Call.trySubmitPhase (call : Call) (complete : Complete) : Call × Except GError Unit :=
  let session := call.session
  if .tls ≤ session.phase || session.commandSubmitted then (call, .ok ())
  else if session.outPending then (call, .ok ())
  else
    match buildPhaseFrame session.material session.phase with
    | .error error => (call, .error error)
    | .ok frame =>
      let submitted :=
        { call with
          session :=
            { session with outPending := true, outKind := .a0, commandSubmitted := true } }
      match submitted.submitOut complete (.command session.phase frame) with
      | (call, .error error) =>
        ({ call with
            session :=
              { call.session with outPending := false, outKind := .none, commandSubmitted := false } },
          .error error)
      | (call, .ok ()) =>
        if call.session.phase = .terminal then
          (call, .error (call.session.error.getD (secureError errorState "")))
        else (call, .ok ())

/-- The middle of `advance_phase`: the phase is told before its latches are reset. -/
def Call.enterNextPhase (call : Call) : Call :=
  let call :=
    Call.notifyPhase
      { call with session := { call.session with phase := call.session.phase.next } }
  { call with
    session :=
      { call.session with ackSeen := false, logicalDone := false, commandSubmitted := false } }

/-- `advance_phase` -/
def Call.advancePhase (call : Call) (complete : Complete) : Call :=
  let session := call.session
  if !session.logicalDone || session.outPending then call
  else if .d1 < session.phase then call
  else
    let call := call.enterNextPhase
    if call.session.phase < .tls then
      match call.trySubmitPhase complete with
      | (call, .error error) => call.failError error
      | (call, .ok ()) => call
    else (call.maybeStartB0 complete).maybeFinishTls

/-- `backend_out_complete` for a completion of the session's own generation. -/
def Call.backendOutComplete (complete : Complete) : Complete := fun error call =>
  let session := call.session
  if !session.outPending || session.phase = .terminal then call
  else
    let completed := { session with outPending := false, outKind := .none }
    match error with
    | some error => Call.failError { call with session := completed } error
    | none =>
      let call :=
        Call.note { call with session := completed } (.outComplete session.outKind session.phase)
      match session.outKind with
      | .none => call
      | .a0 =>
        let call := call.advancePhase complete
        if call.session.phase = .tls then call.maybeStartB0 complete else call
      | .b0 =>
        match completed.b0Logical with
        | none => call
        | some logical =>
          if completed.b0Offset < logical.length then
            match call.submitB0Chunk complete with
            | (call, .error error) => call.failError error
            | (call, .ok ()) => call
          else
            let call :=
              { call with
                session :=
                  { call.session with
                    b0Logical := none
                    b0Offset := 0
                    tlsRecordCount := call.session.tlsRecordCount + 1 } }
            if call.session.tlsRecords.isEmpty then call.maybeFinishTls
            else call.scheduleNextRecord.maybeFinishTls

/-- Completions inside a submit, nested at most `depth` times.  Each uses up an answer, so the
number of answers is depth enough. -/
def completeInside : Nat → Complete
  | 0 => fun _ call => call
  | depth + 1 => Call.backendOutComplete (completeInside depth)

/-! ## TLS -/

/-- `tls_output` -/
def Call.tlsOutput (call : Call) (complete : Complete) (record : List UInt8) : Call :=
  let session := call.session
  if session.phase = .terminal || session.phase = .stop then call
  else
    let queued :=
      Call.note
        { call with
          session :=
            { session with
              d1ServerFlightSeen := session.d1ServerFlightSeen || session.phase = .d1
              tlsRecords := session.tlsRecords ++ [record] } }
        (.record session.phase record)
    if session.phase ≠ .d1 then queued.maybeStartB0 complete else queued

/-- `tls_plaintext` -/
def Call.tlsPlaintext (call : Call) (octets : List UInt8) : Call :=
  if call.session.phase = .stop && call.session.postTlsPlaintext then call.note (.plaintext octets)
  else call.failLiteral errorTls "TLS application data is outside D278/01"

/-- What `goodix_tls_server_push` does on the way: its two callbacks, and the end of the
handshake. -/
inductive TlsCall where
  | output (record : List UInt8)
  | plaintext (octets : List UInt8)
  | established

structure Push where
  calls : List TlsCall
  result : Except GError Unit

def Call.tlsCall (complete : Complete) (call : Call) : TlsCall → Call
  | .output record => call.tlsOutput complete record
  | .plaintext octets => call.tlsPlaintext octets
  | .established => { call with session := { call.session with tls := .established } }

def tlsFence : GError := ⟨"goodix-tls-error", 1, "TLS input rejected by fence"⟩

/-- `goodix_tls_server_push`, as far as the session can see it. -/
def Call.tlsServerPush (call : Call) (complete : Complete) (push : Push) :
    Call × Except GError Unit :=
  if call.session.tls = .terminal then (call, .error tlsFence)
  else
    let call := push.calls.foldl (Call.tlsCall complete) call
    match push.result with
    | .ok () => (call, .ok ())
    | .error error => ({ call with session := { call.session with tls := .terminal } }, .error error)

/-! ## The public calls -/

/-- `goodix_secure_session_start` -/
def Call.start (call : Call) (complete : Complete) : Call × Except GError Unit :=
  if call.session.started || call.session.phase ≠ .reentryRecoveryA2 then
    let call :=
      if call.session.phase ≠ .terminal then
        call.failLiteral errorState "second reentry recovery attempt rejected"
      else call
    (call, .error (secureError errorState "secure session cannot start recovery twice"))
  else
    Call.trySubmitPhase
      (Call.notifyPhase { call with session := { call.session with started := true } }) complete

/-- How an A0 frame is taken in a phase before D1. -/
inductive A0Verdict where
  | refused (error : GError)
  | ack
  | typed (body : List UInt8)

def protocolError (message : String) : A0Verdict := .refused (secureError errorProtocol message)

/-- The checks `goodix_secure_session_handle_a0` makes on a message. -/
def Session.messageVerdict (crypto : Primitives) (session : Session) (message : A0Message) :
    A0Verdict :=
  let expected := phaseControl session.phase
  if message.control = 0xb0 then
    if session.ackSeen || message.body.length ≠ 2 || message.body.getD 0 0 ≠ expected ||
        !phaseAckStatusAllowed session.phase (message.body.getD 1 0) then
      protocolError contractFailed
    else .ack
  else if !session.ackSeen || phaseAckOnly session.phase || message.control ≠ expected then
    protocolError contractFailed
  else
    match validateTyped crypto session.material session.phase message.body with
    | .error refused => protocolError refused
    | .ok () => .typed message.body

/-- The checks `goodix_secure_session_handle_a0` makes on a frame. -/
def Session.a0Verdict (crypto : Primitives) (session : Session) (frame : List UInt8) : A0Verdict :=
  if .d1 ≤ session.phase then protocolError "A0 is forbidden after D1"
  else if session.logicalDone then protocolError "duplicate A0 response for completed phase"
  else if frame.length < 5 then protocolError "truncated A0 response"
  else
    match parseReceived frame with
    | .error error => .refused error
    | .ok message => session.messageVerdict crypto message

/-- `goodix_secure_session_handle_a0` -/
def Call.handleA0 (call : Call) (crypto : Primitives) (complete : Complete) (frame : List UInt8) :
    Call :=
  let session := call.session
  if session.phase = .terminal then call
  else
    match session.a0Verdict crypto frame with
    | .refused error => call.failError error
    | .ack =>
      let acknowledged :=
        Call.note { call with session := { session with ackSeen := true } } (.ack session.phase)
      if phaseAckOnly session.phase then
        Call.advancePhase
          { acknowledged with session := { acknowledged.session with logicalDone := true } } complete
      else acknowledged
    | .typed body =>
      Call.advancePhase
        (Call.note { call with session := { session with logicalDone := true } }
          (.typed session.phase body)) complete

/-- The wrapper `goodix_secure_session_handle_b0` checks. -/
def b0WrapperValid (frame : List UInt8) : Bool :=
  let octet (index : Nat) := frame.getD index 0
  9 ≤ frame.length && octet 0 = 0xb0 &&
    (getU16Le [octet 1, octet 2]).toNat + 4 = frame.length &&
    octet 3 = octet 0 + octet 1 + octet 2

/-- `goodix_secure_session_handle_b0` -/
def Call.handleB0 (call : Call) (complete : Complete) (frame : List UInt8) (push : Push) : Call :=
  let session := call.session
  if session.phase = .terminal then call
  else if session.phase < .d1 || (session.phase = .stop && !session.postTlsPlaintext) then
    call.failLiteral errorProtocol "B0 is forbidden in the current phase"
  else if !b0WrapperValid frame then call.failLiteral errorProtocol "malformed B0 wrapper"
  else
    match call.tlsServerPush complete push with
    | (call, .error error) => call.failError error
    | (call, .ok ()) =>
      let call :=
        if call.session.phase = .d1 && call.session.d1ServerFlightSeen then
          Call.advancePhase
            { call with session := { call.session with logicalDone := true } } complete
        else call
      (call.maybeStartB0 complete).maybeFinishTls

/-- `goodix_secure_session_pacing_ready` -/
def Call.pacingReady (call : Call) (complete : Complete) (generation : UInt64) : Call :=
  let session := call.session
  if !session.pacePending || generation ≠ session.generation ||
      generation ≠ session.paceGeneration || session.phase = .terminal then call
  else
    let paced :=
      Call.note
        { call with session := { session with pacePending := false, paceGeneration := 0 } } .paced
    (paced.startNextRecordNow complete).maybeFinishTls

/-- `goodix_secure_session_cancel` -/
def Call.cancel (call : Call) (reason : Option String) : Call :=
  call.failLiteral errorState (reason.getD "secure session cancelled")

/-- `goodix_secure_session_handoff_backend`; `outstanding` is what the backend has pending. -/
def Call.handoffBackend (call : Call) (outstanding : Nat) : Call × Except GError Unit :=
  let session := call.session
  if session.phase ≠ .stop || session.outPending || session.b0Logical.isSome ||
      !session.tlsRecords.isEmpty || session.pacePending || !session.backendCallbackOwned ||
      outstanding ≠ 0 then
    (call, .error (secureError errorState "secure-session backend is not ready for handoff"))
  else ({ call with session := { session with backendCallbackOwned := false } }, .ok ())

/-- `goodix_secure_session_needs_receive` -/
def Session.needsReceive (session : Session) : Bool :=
  session.started && session.phase ≠ .stop && session.phase ≠ .terminal

/-! ## Runs -/

inductive Event where
  | start
  | handleA0 (frame : List UInt8)
  | handleB0 (frame : List UInt8) (push : Push)
  | outComplete (generation : UInt64) (error : Option GError)
  | pacingReady (generation : UInt64)
  | cancel (reason : Option String)
  | setPostTlsPlaintext (configured : Bool)
  | handoffBackend (outstanding : Nat)

/-- A call from outside, and what the backend answers to the submits made in it. -/
structure Input where
  event : Event
  answers : List Answer

/-- A completion from outside reaches the session while it owns the callback of the backend. -/
def Call.perform (call : Call) (crypto : Primitives) (complete : Complete) : Event → Call
  | .start => (call.start complete).1
  | .handleA0 frame => call.handleA0 crypto complete frame
  | .handleB0 frame push => call.handleB0 complete frame push
  | .outComplete generation error =>
    if generation ≠ call.session.generation || !call.session.backendCallbackOwned then call
    else Call.backendOutComplete complete error call
  | .pacingReady generation => call.pacingReady complete generation
  | .cancel reason => call.cancel reason
  | .setPostTlsPlaintext configured =>
    { call with session := { call.session with postTlsPlaintext := configured } }
  | .handoffBackend outstanding => (call.handoffBackend outstanding).1

def step (crypto : Primitives) (session : Session) (input : Input) : Session × List Observed :=
  let call := Call.perform { session, answers := input.answers, log := [] } crypto
    (completeInside input.answers.length) input.event
  (call.session, call.log)

end Goodix.SecureSession
