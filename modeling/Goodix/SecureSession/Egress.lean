import Goodix.SecureSession.Runs

/-! # The egress of TLS records

What leaves a session as 64-octet packets is what the TLS server queued as records, in
the same order and nothing else: each record in a B0 frame, each frame cut into
packets.  The records wait for each other, and for the pacing between them.
-/

namespace Goodix.SecureSession

open Octets A0Protocol Packets Traces Machines

/-! ## What a log shows of the egress -/

/-- The packets of one record. -/
def recordPackets (record : List UInt8) : List (List UInt8) := packetize 64 0 (b0Frame record)

def Observed.packet? : Observed → Option (List UInt8)
  | .packet octets => some octets
  | _ => none

def Observed.record? : Observed → Option (List UInt8)
  | .record _ octets => some octets
  | _ => none

def Observed.isSubmit : Observed → Bool
  | .command _ _ | .packet _ => true
  | _ => false

def Observed.isOutComplete : Observed → Bool
  | .outComplete _ _ => true
  | _ => false

def Observed.isBegan : Observed → Bool
  | .began _ => true
  | _ => false

/-- The packets that were submitted, and the records that were queued. -/
def packets (log : List Observed) : List (List UInt8) := log.filterMap Observed.packet?

def records (log : List Observed) : List (List UInt8) := log.filterMap Observed.record?

/-- The packets still to come: the rest of the frame that is being sent, and the queue. -/
def Session.unsent (session : Session) : List (List UInt8) :=
  (match session.b0Logical with
    | none => []
    | some logical => packetize 64 0 (logical.drop session.b0Offset)) ++
    session.tlsRecords.flatMap recordPackets

/-- What a submit, a completion and the begin of a record find. -/
structure Sent (before : List Observed) (observed : Observed) : Prop where
  -- at most one OUT is outstanding
  submit : observed.isSubmit = true →
    before.countP Observed.isSubmit = before.countP Observed.isOutComplete
  complete : observed.isOutComplete = true →
    before.countP Observed.isSubmit = before.countP Observed.isOutComplete + 1
  -- the number of records sent so far is kept in 32 bits
  began : observed.isBegan = true →
    2 ^ 32 ∣ before.countP Observed.isBegan ∨ before.getLast? = some .paced

/-- The egress of one run. -/
structure Egress (start : Session) (log : List Observed) (session : Session) : Prop where
  sent : Justified Sent log
  inOrder : packets log <+: (records log).flatMap recordPackets
  flowing : session.phase ≠ .terminal →
    packets log ++ session.unsent = (records log).flatMap recordPackets
  whole : session.phase = .stop ∨
      (session.phase = .tls ∧ session.outPending = false ∧ session.pacePending = false) →
    packets log = (records log).flatMap recordPackets

/-! ## What every move keeps -/

def Session.pendingCount (session : Session) : Nat := if session.outPending then 1 else 0

def Session.sendingCount (session : Session) : Nat := if session.b0Logical.isSome then 1 else 0

/-- The egress of a session that is running. -/
structure Flowing (log : List Observed) (session : Session) : Prop where
  cut : packets log ++ session.unsent = (records log).flatMap recordPackets
  outs : log.countP Observed.isSubmit =
    log.countP Observed.isOutComplete + session.pendingCount
  count : UInt32.ofNat (log.countP Observed.isBegan) =
    session.tlsRecordCount + UInt32.ofNat session.sendingCount

section Moves

variable {allowed : Session → Observed → Prop} {log emitted : List Observed}
  {before after : Session}

theorem packets_append (log emitted : List Observed) :
    packets (log ++ emitted) = packets log ++ packets emitted := List.filterMap_append

theorem records_append (log emitted : List Observed) :
    records (log ++ emitted) = records log ++ records emitted := List.filterMap_append

/-- The log and what is unsent change together. -/
theorem Flowing.grow (flowing : Flowing log before)
    (cut : packets emitted ++ after.unsent =
      before.unsent ++ (records emitted).flatMap recordPackets)
    (outs : before.pendingCount + emitted.countP Observed.isSubmit =
      emitted.countP Observed.isOutComplete + after.pendingCount)
    (count : before.tlsRecordCount + UInt32.ofNat before.sendingCount +
        UInt32.ofNat (emitted.countP Observed.isBegan) =
      after.tlsRecordCount + UInt32.ofNat after.sendingCount) :
    Flowing (log ++ emitted) after where
  cut := by
    rw [packets_append, records_append, List.append_assoc, cut, ← List.append_assoc,
      flowing.cut, List.flatMap_append]
  outs := by
    have sent := flowing.outs
    simp only [List.countP_append]
    omega
  count := by
    rw [List.countP_append, UInt32.ofNat_add, flowing.count, count]

/-- A move that sends nothing, completes nothing and begins no record. -/
theorem Flowing.quiet {observed : Observed} (flowing : Flowing log before)
    (packet : observed.packet? = none) (record : observed.record? = none)
    (submit : observed.isSubmit = false) (complete : observed.isOutComplete = false)
    (began : observed.isBegan = false) (unsent : after.unsent = before.unsent)
    (pending : after.outPending = before.outPending)
    (count : after.tlsRecordCount = before.tlsRecordCount)
    (sending : after.b0Logical = before.b0Logical) : Flowing (log ++ [observed]) after := by
  refine flowing.grow ?_ ?_ ?_
  · simp [packets, records, packet, record, unsent]
  · simp [submit, complete, Session.pendingCount, pending]
  · simp [began, count, Session.sendingCount, sending]

theorem Flowing.same (flowing : Flowing log before) (unsent : after.unsent = before.unsent)
    (pending : after.outPending = before.outPending)
    (count : after.tlsRecordCount = before.tlsRecordCount)
    (sending : after.b0Logical = before.b0Logical) : Flowing (log ++ []) after := by
  refine flowing.grow ?_ ?_ ?_
  · simp [packets, records, unsent]
  · simp [Session.pendingCount, pending]
  · simp [count, Session.sendingCount, sending]

theorem unsent_began {session : Session} {record : List UInt8} {rest : List (List UInt8)}
    (queued : session.tlsRecords = record :: rest) (idle : session.b0Logical = none) :
    session.unsent = packetize 64 0 (b0Frame record) ++ rest.flatMap recordPackets := by
  simp [Session.unsent, queued, idle, recordPackets]

theorem pendingCount_free {session : Session} (free : session.outPending = false) :
    session.pendingCount = 0 := by
  simp [Session.pendingCount, free]

theorem pendingCount_pending {session : Session} (pending : session.outPending = true) :
    session.pendingCount = 1 := by
  simp [Session.pendingCount, pending]

theorem Latches.idle_of_pacing {session : Session} (latches : Latches session)
    (pacing : session.pacePending = true) : session.b0Logical = none := by
  cases holds : session.b0Logical with
  | none => rfl
  | some logical =>
    have unpaced := (latches.sending (by rw [holds]; rfl)).2
    rw [pacing] at unpaced
    cases unpaced

theorem move_flowing (coherent : Coherent before) (alive : before.phase ≠ .terminal)
    (flowing : Flowing log before) (move : Move allowed before emitted after)
    (alive' : after.phase ≠ .terminal) : Flowing (log ++ emitted) after := by
  have latches := coherent alive
  cases move with
  | started early => exact flowing.quiet rfl rfl rfl rfl rfl rfl rfl rfl rfl
  | command frame early fresh free built =>
    refine flowing.grow ?_ ?_ ?_
    · simp [packets, records, List.filterMap_cons, Observed.packet?, Observed.record?, Session.unsent]
    · rw [pendingCount_free free]
      rfl
    · simp [Observed.isBegan, Session.sendingCount]
  | commandDone running pending kind =>
    refine flowing.grow ?_ ?_ ?_
    · simp [packets, records, List.filterMap_cons, Observed.packet?, Observed.record?, Session.unsent]
    · rw [pendingCount_pending pending]
      rfl
    · simp [Observed.isBegan, Session.sendingCount]
  | ack early => exact flowing.quiet rfl rfl rfl rfl rfl rfl rfl rfl rfl
  | ackDone early seen only submitted => exact flowing.same rfl rfl rfl rfl
  | typed body early seen proper => exact flowing.quiet rfl rfl rfl rfl rfl rfl rfl rfl rfl
  | flight phase seen submitted => exact flowing.same rfl rfl rfl rfl
  | advance done free early => exact flowing.quiet rfl rfl rfl rfl rfl rfl rfl rfl rfl
  | record record running unstopped produced =>
    refine flowing.grow ?_ ?_ ?_
    · simp [packets, records, List.filterMap_cons, Observed.packet?, Observed.record?, Session.unsent]
    · simp [Observed.isSubmit, Observed.isOutComplete, Session.pendingCount]
    · simp [Observed.isBegan, Session.sendingCount]
  | began record rest phase queued free idle unpaced first =>
    refine flowing.grow ?_ ?_ ?_
    · rw [unsent_began queued idle]
      simp [packets, records, List.filterMap_cons, Observed.packet?, Observed.record?, Session.unsent]
    · simp [Observed.isSubmit, Observed.isOutComplete, Session.pendingCount]
    · simp [Observed.isBegan, Session.sendingCount, idle]
  | pacedBegan record rest running queued pacing =>
    have idle := latches.idle_of_pacing pacing
    refine flowing.grow ?_ ?_ ?_
    · rw [unsent_began queued idle]
      simp [packets, records, List.filterMap_cons, Observed.packet?, Observed.record?, Session.unsent]
    · simp [Observed.isSubmit, Observed.isOutComplete, Session.pendingCount]
    · simp [Observed.isBegan, Session.sendingCount, idle]
  | packet logical holds running free more =>
    refine flowing.grow ?_ ?_ ?_
    · simp only [Session.unsent, holds]
      rw [packetize_drop (by decide) 0 more]
      simp [packets, records, List.filterMap_cons, Observed.packet?, Observed.record?]
    · rw [pendingCount_free free]
      rfl
    · simp [Observed.isBegan, Session.sendingCount]
  | chunkDone logical running pending holds more =>
    refine flowing.grow ?_ ?_ ?_
    · simp [packets, records, List.filterMap_cons, Observed.packet?, Observed.record?, Session.unsent]
    · rw [pendingCount_pending pending]
      rfl
    · simp [Observed.isBegan, Session.sendingCount]
  | recordDone logical running pending holds sent =>
    refine flowing.grow ?_ ?_ ?_
    · -- nothing of the frame is left
      have ended : logical.drop before.b0Offset = [] := List.drop_eq_nil_of_le (by omega)
      simp [packets, records, List.filterMap_cons, Observed.packet?, Observed.record?, Session.unsent, holds, ended]
    · rw [pendingCount_pending pending]
      rfl
    · simp [Observed.isBegan, Session.sendingCount, holds]
  | scheduled phase free idle => exact flowing.quiet rfl rfl rfl rfl rfl rfl rfl rfl rfl
  | paced running pacing => exact flowing.quiet rfl rfl rfl rfl rfl rfl rfl rfl rfl
  | tls state => exact flowing.same rfl rfl rfl rfl
  | finish phase established free idle empty unpaced =>
    exact flowing.quiet rfl rfl rfl rfl rfl rfl rfl rfl rfl
  | plaintext octets phase => exact flowing.quiet rfl rfl rfl rfl rfl rfl rfl rfl rfl
  | configured postTlsPlaintext => exact flowing.same rfl rfl rfl rfl
  | handedOff => exact flowing.same rfl rfl rfl rfl
  | failed seen final error running shown ended => exact absurd ended alive'

theorem Sent.of_plain {observed : Observed} (submit : observed.isSubmit = false)
    (complete : observed.isOutComplete = false) (began : observed.isBegan = false) :
    Sent log observed := by
  refine ⟨fun sends => ?_, fun completes => ?_, fun begins => ?_⟩
  · rw [submit] at sends
    cases sends
  · rw [complete] at completes
    cases completes
  · rw [began] at begins
    cases begins

/-- A submit finds no OUT pending. -/
theorem Flowing.submit {observed : Observed} (flowing : Flowing log before)
    (free : before.outPending = false) (complete : observed.isOutComplete = false)
    (began : observed.isBegan = false) : Sent log observed := by
  refine ⟨fun _ => ?_, fun completes => ?_, fun begins => ?_⟩
  · have outs := flowing.outs
    rwa [pendingCount_free free] at outs
  · rw [complete] at completes
    cases completes
  · rw [began] at begins
    cases begins

/-- A completion finds its OUT pending. -/
theorem Flowing.complete {kind : OutKind} {phase : Phase} (flowing : Flowing log before)
    (pending : before.outPending = true) : Sent log (.outComplete kind phase) := by
  refine ⟨fun sends => (by cases sends), fun _ => ?_, fun begins => (by cases begins)⟩
  have outs := flowing.outs
  rwa [pendingCount_pending pending] at outs

theorem Flowing.begun {record : List UInt8} (flowing : Flowing log before)
    (idle : before.b0Logical = none) (first : before.tlsRecordCount = 0) :
    Sent log (.began record) := by
  refine ⟨fun sends => (by cases sends), fun completes => (by cases completes), fun _ => .inl ?_⟩
  have count := flowing.count
  rw [first, Session.sendingCount, idle] at count
  have zero := congrArg UInt32.toNat count
  simp only [UInt32.toNat_ofNat'] at zero
  exact Nat.dvd_of_mod_eq_zero zero

theorem move_sent (flowing : Flowing log before) (sent : Justified Sent log)
    (move : Move allowed before emitted after) : Justified Sent (log ++ emitted) := by
  have quiet : Justified Sent (log ++ []) := by rwa [List.append_nil]
  cases move with
  | started early => exact justified_concat.mpr ⟨sent, .of_plain rfl rfl rfl⟩
  | command frame early fresh free built =>
    exact justified_concat.mpr ⟨sent, flowing.submit free rfl rfl⟩
  | commandDone running pending kind =>
    exact justified_concat.mpr ⟨sent, flowing.complete pending⟩
  | ack early => exact justified_concat.mpr ⟨sent, .of_plain rfl rfl rfl⟩
  | ackDone early seen only submitted => exact quiet
  | typed body early seen proper => exact justified_concat.mpr ⟨sent, .of_plain rfl rfl rfl⟩
  | flight phase seen submitted => exact quiet
  | advance done free early => exact justified_concat.mpr ⟨sent, .of_plain rfl rfl rfl⟩
  | record record running unstopped produced =>
    exact justified_concat.mpr ⟨sent, .of_plain rfl rfl rfl⟩
  | began record rest phase queued free idle unpaced first =>
    exact justified_concat.mpr ⟨sent, flowing.begun idle first⟩
  | pacedBegan record rest running queued pacing =>
    have paced : Justified Sent (log ++ [.paced]) :=
      justified_concat.mpr ⟨sent, .of_plain rfl rfl rfl⟩
    rw [show log ++ [Observed.paced, .began record] = (log ++ [.paced]) ++ [.began record] by simp]
    refine justified_concat.mpr ⟨paced, fun sends => (by cases sends),
      fun completes => (by cases completes), fun _ => .inr ?_⟩
    rw [List.getLast?_concat]
  | packet logical holds running free more =>
    exact justified_concat.mpr ⟨sent, flowing.submit free rfl rfl⟩
  | chunkDone logical running pending holds more =>
    exact justified_concat.mpr ⟨sent, flowing.complete pending⟩
  | recordDone logical running pending holds ended =>
    exact justified_concat.mpr ⟨sent, flowing.complete pending⟩
  | scheduled phase free idle => exact justified_concat.mpr ⟨sent, .of_plain rfl rfl rfl⟩
  | paced running pacing => exact justified_concat.mpr ⟨sent, .of_plain rfl rfl rfl⟩
  | tls state => exact quiet
  | finish phase established free idle empty unpaced =>
    exact justified_concat.mpr ⟨sent, .of_plain rfl rfl rfl⟩
  | plaintext octets phase => exact justified_concat.mpr ⟨sent, .of_plain rfl rfl rfl⟩
  | configured postTlsPlaintext => exact quiet
  | handedOff => exact quiet
  | failed seen final error running shown ended =>
    have told : Justified Sent (log ++ [.phase seen]) :=
      justified_concat.mpr ⟨sent, .of_plain rfl rfl rfl⟩
    rw [show log ++ [Observed.phase seen, .terminal error] =
      (log ++ [.phase seen]) ++ [.terminal error] by simp]
    exact justified_concat.mpr ⟨told, .of_plain rfl rfl rfl⟩

/-! ## Runs -/

/-- A run so far, seen from its egress. -/
structure Leaving (log : List Observed) (session : Session) : Prop where
  coherent : Coherent session
  sent : Justified Sent log
  flowing : session.phase ≠ .terminal → Flowing log session
  inOrder : packets log <+: (records log).flatMap recordPackets

theorem move_leaving (leaving : Leaving log before) (move : Move allowed before emitted after) :
    Leaving (log ++ emitted) after := by
  by_cases alive : before.phase = .terminal
  · obtain ⟨rfl, ended⟩ := move_terminal alive move
    rw [List.append_nil]
    exact ⟨coherent_terminal ended, leaving.sent, fun running => absurd ended running,
      leaving.inOrder⟩
  have flowing := leaving.flowing alive
  refine ⟨move_coherent leaving.coherent move, move_sent flowing leaving.sent move,
    fun alive' => move_flowing leaving.coherent alive flowing move alive', ?_⟩
  by_cases alive' : after.phase = .terminal
  · -- the failing move sends and queues nothing
    have same : packets emitted = [] ∧ records emitted = [] := by
      cases move with
      | failed seen final error running shown ended => exact ⟨rfl, rfl⟩
      | advance done free early => exact absurd alive' (next_ne_terminal_of_le_d1 early)
      | finish phase established free idle empty unpaced => cases alive'
      | _ => exact absurd alive' alive
    rw [packets_append, records_append, same.1, same.2, List.append_nil, List.append_nil]
    exact leaving.inOrder
  · have later := move_flowing leaving.coherent alive flowing move alive'
    rw [← later.cut]
    exact List.prefix_append _ _

end Moves

theorem initial_leaving (generation : UInt64) (material : SecureMaterial) :
    Leaving [] (initial generation material) where
  coherent := initial_coherent generation material
  sent := justified_nil _
  flowing := fun _ => ⟨rfl, rfl, rfl⟩
  inOrder := List.prefix_refl _

/-- A session at STOP has sent everything; one in TLS with no OUT and no pacing pending too. -/
theorem unsent_nil {session : Session} (coherent : Coherent session) (settled : Settled session)
    (idle : session.phase = .stop ∨
      (session.phase = .tls ∧ session.outPending = false ∧ session.pacePending = false)) :
    session.unsent = [] := by
  have alive : session.phase ≠ .terminal := by
    rcases idle with stop | ⟨tls, -⟩ <;> intro ended
    · rw [stop] at ended
      cases ended
    · rw [tls] at ended
      cases ended
  have latches := coherent alive
  have settling := settled alive
  have free : session.outPending = false := by
    rcases idle with stop | ⟨-, free, -⟩
    · exact (latches.stopped stop).1
    · exact free
  have none : session.b0Logical = none := by
    cases holds : session.b0Logical with
    | none => rfl
    | some logical =>
      have pending := settling.sends (by rw [holds]; rfl)
      rw [free] at pending
      cases pending
  have empty : session.tlsRecords = [] := by
    rcases idle with stop | ⟨tls, -, unpaced⟩
    · exact (latches.stopped stop).2
    · by_contra queued
      rcases settling.flows tls queued with pending | pacing
      · rw [free] at pending
        cases pending
      · rw [unpaced] at pacing
        cases pacing
  simp [Session.unsent, none, empty]

/-- **The egress of a session.**  In every run the packets are those of the records in order. -/
theorem run_egress (crypto : Primitives) (generation : UInt64) (material : SecureMaterial)
    (inputs : List Input) :
    Egress (initial generation material)
      (run (step crypto) (initial generation material) inputs).2
      (run (step crypto) (initial generation material) inputs).1 := by
  obtain ⟨leaving, settled⟩ := run_invariant (step crypto)
    (fun log session => Leaving log session ∧ Settled session)
    ⟨initial_leaving generation material, initial_settled generation material⟩
    (fun log session input ⟨leaving, settled⟩ => by
      obtain ⟨moves, settled'⟩ := @step_moves (fun _ _ => True) crypto session input
        leaving.coherent settled (fun _ _ _ _ => trivial) fun _ _ _ _ _ _ => trivial
      exact ⟨moves.invariant Leaving (fun _ _ _ _ kept move => move_leaving kept move) log leaving,
        settled'⟩) inputs
  refine ⟨leaving.sent, leaving.inOrder, fun alive => (leaving.flowing alive).cut, fun idle => ?_⟩
  have alive : (run (step crypto) (initial generation material) inputs).1.phase ≠ .terminal := by
    rcases idle with stop | ⟨tls, -⟩ <;> intro ended
    · rw [stop] at ended
      cases ended
    · rw [tls] at ended
      cases ended
  have cut := (leaving.flowing alive).cut
  rwa [unsent_nil leaving.coherent settled idle, List.append_nil] at cut

/-- A refused submit leaves the offset. -/
theorem submitB0Chunk_refused {call after : Call} {complete : Complete} {error : GError}
    (refused : call.submitB0Chunk complete = (after, .error error)) :
    after.session.b0Offset = call.session.b0Offset ∧ after.log = call.log := by
  unfold Call.submitB0Chunk at refused
  simp only at refused
  split at refused
  · cases refused
  split at refused
  · cases refused
  unfold Call.submitOut at refused
  simp only at refused
  cases answers : call.answers with
  | nil =>
    rw [answers] at refused
    cases refused
  | cons answer answers' =>
    rw [answers] at refused
    cases answer with
    | pending => cases refused
    | completed error => cases refused
    | rejected error =>
      cases refused
      exact ⟨Nat.add_sub_cancel _ _, rfl⟩

/-- How one record is cut: whole packets with its frame in a row, the last one filled with zeros. -/
structure Framed (record : List UInt8) : Prop where
  sizes : ∀ cut ∈ recordPackets record, cut.length = 64
  frame : ∃ tail, (recordPackets record).flatten = b0Frame record ++ tail ∧ tail.length < 64 ∧
    ∀ octet ∈ tail, octet = 0

theorem framed (record : List UInt8) : Framed record :=
  ⟨fun _ inside => length_of_mem_packetize inside, flatten_packetize (by decide) 0 _⟩

/-- **Complete egress.**  The packets of every run are those of its records, in order and whole; an
OUT is only submitted when none is outstanding; every record but each 2^32nd begins right after
a pacing event; and a refused submit leaves the offset. -/
theorem complete_egress (crypto : Primitives) (generation : UInt64) (material : SecureMaterial)
    (inputs : List Input) :
    Egress (initial generation material)
        (run (step crypto) (initial generation material) inputs).2
        (run (step crypto) (initial generation material) inputs).1 ∧
      (∀ record, Framed record) ∧
      ∀ call complete after error, Call.submitB0Chunk call complete = (after, .error error) →
        after.session.b0Offset = call.session.b0Offset ∧ after.log = call.log :=
  ⟨run_egress crypto generation material inputs, framed,
    fun _ _ _ _ refused => submitB0Chunk_refused refused⟩

/-! ## The record counter wraps -/

/-- Between two records there is a pacing event. -/
def Separated (log : List Observed) : Prop :=
  ∀ first record second other third,
    log = first ++ .began record :: (second ++ .began other :: third) → .paced ∈ second

/-- The frames that answer the commands of a session with plain material. -/
def answerFrame (control : UInt8) (body : List UInt8) : List UInt8 :=
  (buildFrame control control body).getD []

def ackInput (control : UInt8) : Input :=
  ⟨.handleA0 (answerFrame 0xb0 [control, 1]), [.completed none]⟩

def typedInput (control : UInt8) (body : List UInt8) : Input :=
  ⟨.handleA0 (answerFrame control body), [.completed none]⟩

/-- A B0 frame for which the TLS server has one record of one octet to send. -/
def flightInput (answers : List Answer) : Input :=
  ⟨.handleB0 [0xb0, 5, 0, 0xb5, 0, 0, 0, 0, 0] ⟨[.output [1]], .ok ()⟩, answers⟩

/-- Everything up to the first record. -/
def opening : List Input :=
  [⟨.start, [.completed none]⟩,
    ackInput 0xa2, typedInput 0xa2 [1, 2, 3],
    ackInput 0xa8, typedInput 0xa8 LivePreflight.app12509Identity,
    ackInput 0xe4,
    typedInput 0xe4 ([0, 3, 0, 2, 0xbb, 0x20, 0, 0, 0] ++ List.replicate 32 0),
    ackInput 0xa2, typedInput 0xa2 [1, 2, 3],
    ackInput 0x82, typedInput 0x82 [1, 2, 3, 4],
    ackInput 0xa6, typedInput 0xa6 (List.replicate 64 0),
    ackInput 0xa2, typedInput 0xa2 [1, 2, 3],
    ackInput 0x70, ackInput 0x80, ackInput 0x80, ackInput 0x80, ackInput 0x80,
    ackInput 0x90, typedInput 0x90 [1, 0],
    flightInput [.completed none]]

/-- One more record, sent after its pacing. -/
def pacedRecord : List Input := [flightInput [], ⟨.pacingReady 1, [.completed none]⟩]

/-- The session after so many records. -/
def handshaking (count : UInt32) : Session :=
  { initial 1 plainMaterial with
    phase := .tls
    started := true
    d1ServerFlightSeen := true
    tlsRecordCount := count }

theorem run_opening :
    (run (step plainCrypto) (initial 1 plainMaterial) opening).1 = handshaking 1 := by
  decide +kernel

/-- The packet of a record of one octet. -/
def smallPacket : List UInt8 := packet 64 0 [0xb0, 1, 0, 0xb1, 1]

theorem step_flight_paced {count : UInt32} (later : count ≠ 0) :
    step plainCrypto (handshaking count) (flightInput []) =
      ({ handshaking count with
          tlsRecords := [[1]]
          pacePending := true
          paceGeneration := 1 },
        [.record .tls [1], .scheduled]) := by
  simp +decide [step, flightInput, handshaking, initial, Call.perform, Call.handleB0,
    Call.tlsServerPush, Call.tlsCall, Call.tlsOutput, Call.maybeStartB0,
    Call.scheduleNextRecord, Call.note, Call.maybeFinishTls, later]

theorem step_pacing (count : UInt32) :
    step plainCrypto
        { handshaking count with
          tlsRecords := [[1]]
          pacePending := true
          paceGeneration := 1 } ⟨.pacingReady 1, [.completed none]⟩ =
      (handshaking (count + 1),
        [.paced, .began [1], .packet smallPacket, .outComplete .b0 .tls]) := by
  have framed : b0Frame [1] = [0xb0, 1, 0, 0xb1, 1] := by decide
  simp +decide [step, handshaking, initial, Call.perform, Call.pacingReady, Call.note,
    Call.startNextRecordNow, Call.beginRecord, framed, Call.submitB0Chunk, Call.submitOut,
    completeInside, Call.backendOutComplete, Call.maybeFinishTls, smallPacket]

/-- With the counter at 0 a record is sent at once. -/
theorem step_flight_unpaced :
    (step plainCrypto (handshaking 0) (flightInput [.completed none])).2 =
      [.record .tls [1], .began [1], .packet smallPacket, .outComplete .b0 .tls] := by
  decide +kernel

/-- What one more record shows. -/
def pacedLog : List Observed :=
  [.record .tls [1], .scheduled, .paced, .began [1], .packet smallPacket, .outComplete .b0 .tls]

theorem run_pacedRecord {count : UInt32} (later : count ≠ 0) :
    run (step plainCrypto) (handshaking count) pacedRecord = (handshaking (count + 1), pacedLog) := by
  simp only [pacedRecord, run, step_flight_paced later, step_pacing]
  rfl

theorem run_pacedRecords (number : Nat) (short : number < 2 ^ 32) :
    run (step plainCrypto) (handshaking 1) (List.replicate number pacedRecord).flatten =
      (handshaking (UInt32.ofNat number + 1), (List.replicate number pacedLog).flatten) := by
  induction number with
  | zero => rfl
  | succ number ih =>
    have later : UInt32.ofNat number + 1 ≠ 0 := by
      intro zero
      have wrapped := congrArg UInt32.toNat zero
      simp [UInt32.toNat_add] at wrapped
      omega
    rw [List.replicate_succ', List.flatten_append, run_append, ih (by omega)]
    simp only [List.flatten_cons, List.flatten_nil, List.append_nil, run_pacedRecord later]
    rw [List.replicate_succ', List.flatten_append, List.flatten_cons, List.flatten_nil,
      List.append_nil, UInt32.ofNat_add]
    rfl

/-- A counter that has wrapped lets a record follow without pacing. -/
theorem not_separated_of_wrapped {number : Nat} (short : number + 1 < 2 ^ 32)
    (wrapped : UInt32.ofNat (number + 1) + 1 = 0) :
    ¬ Separated (run (step plainCrypto) (initial 1 plainMaterial)
      (opening ++ ((List.replicate (number + 1) pacedRecord).flatten ++
        [flightInput [.completed none]]))).2 := by
  intro separated
  rw [run_append, run_opening, run_append, run_pacedRecords (number + 1) short] at separated
  simp only [wrapped, run, step_flight_unpaced, List.append_nil] at separated
  rw [List.replicate_succ', List.flatten_append, List.flatten_cons, List.flatten_nil,
    List.append_nil] at separated
  have paced := separated
    ((run (step plainCrypto) (initial 1 plainMaterial) opening).2 ++
      ((List.replicate number pacedLog).flatten ++ [.record .tls [1], .scheduled, .paced]))
    [1] [.packet smallPacket, .outComplete .b0 .tls, .record .tls [1]] [1]
    [.packet smallPacket, .outComplete .b0 .tls] (by simp [pacedLog])
  simp at paced

/-- After 2^32 records the next one follows without pacing. -/
theorem wrapped_counter_skips_pacing :
    ¬ Separated (run (step plainCrypto) (initial 1 plainMaterial)
      (opening ++ ((List.replicate (4294967294 + 1) pacedRecord).flatten ++
        [flightInput [.completed none]]))).2 :=
  not_separated_of_wrapped (by omega) (by decide +kernel)

end Goodix.SecureSession
