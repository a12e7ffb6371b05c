import Goodix.Library.Streams
import Goodix.Primitives

/-! # The TLS server and its output

`goodix_tls_server.c`: what OpenSSL writes is read from a memory BIO in pieces, collected, and
handed on record by record.  OpenSSL itself is what each push is answered with: the octets it
writes, the plaintexts it yields and how it ends.
-/

namespace Goodix.TlsServer

open Octets Streams

inductive State where
  | handshake
  | established
  | terminal
  deriving DecidableEq, Repr

/-- `SSL_get_error` of a call that did not succeed. -/
inductive SslError where
  | want
  | zeroReturn
  | failed
  deriving DecidableEq, Repr

structure Server where
  state : State
  /-- What OpenSSL has written and nobody has read. -/
  wbio : List UInt8
  outputPending : List UInt8
  deriving DecidableEq, Repr

/-- `goodix_tls_server_new` -/
def Server.new : Server := ⟨.handshake, [], []⟩

def tlsError (message : String) : GError := ⟨"goodix-tls-error", 1, message⟩

inductive Event where
  | output (record : List UInt8)
  | plaintext (octets : List UInt8)
  deriving DecidableEq, Repr

/-- What a call hands to the callbacks, leaves and returns. -/
structure Called where
  events : List Event
  server : Server
  result : Except GError Unit

/-- `terminal` -/
def Server.terminal (server : Server) (message : String) : Called :=
  ⟨[], { server with state := .terminal }, .error (tlsError message)⟩

/-! ## `drain_output` -/

def readSize : Nat := 4096

/-- The loop that empties the BIO. -/
def readOutput (pending bio : List UInt8) : List UInt8 :=
  if _more : bio = [] then pending
  else readOutput (pending ++ bio.take readSize) (bio.drop readSize)
termination_by bio.length
decreasing_by
  have nonempty := List.length_pos_iff.mpr _more
  simp only [List.length_drop, readSize]
  omega

def recordLength (pending : List UInt8) : Nat :=
  5 + (pending.getD 3 0).toNat * 256 + (pending.getD 4 0).toNat

/-- What the loop over the records passes on and leaves, and whether a record is oversized. -/
structure Split where
  records : List (List UInt8)
  pending : List UInt8
  oversized : Bool
  deriving DecidableEq, Repr

/-- The loop over the records. -/
def splitOutput (pending : List UInt8) : Split :=
  if _header : 5 ≤ pending.length then
    if recordLength pending > 65535 + 5 then ⟨[], pending, true⟩
    else if pending.length < recordLength pending then ⟨[], pending, false⟩
    else
      let later := splitOutput (pending.drop (recordLength pending))
      { later with records := pending.take (recordLength pending) :: later.records }
  else ⟨[], pending, false⟩
termination_by pending.length
decreasing_by
  simp only [List.length_drop, recordLength]
  omega

/-- `drain_output` -/
def Server.drainOutput (server : Server) : Called :=
  let split := splitOutput (readOutput server.outputPending server.wbio)
  let drained := { server with wbio := [], outputPending := split.pending }
  let outputs := split.records.map Event.output
  if split.oversized then
    { drained.terminal "TLS output record oversized" with events := outputs }
  else ⟨outputs, drained, .ok ()⟩

/-! ## Pushing -/

/-- What OpenSSL does in a push: whether it takes the input; what it writes in the handshake and
how that ends; the plaintexts it yields, what it writes meanwhile and how reading ends. -/
structure Answer where
  accepts : Bool
  shaken : List UInt8
  shakes : Option SslError
  reads : List (List UInt8)
  written : List UInt8
  ends : SslError
  deriving DecidableEq, Repr

/-- OpenSSL writes. -/
def Server.write (server : Server) (octets : List UInt8) : Server :=
  { server with wbio := server.wbio ++ octets }

/-- `read_plaintext` -/
def Server.readPlaintext (server : Server) (answer : Answer) : Called :=
  let server := server.write answer.written
  let plaintext := answer.reads.flatten
  match answer.ends with
  | .zeroReturn => server.terminal "TLS peer closed"
  | .failed => server.terminal "TLS application record failed closed"
  | .want =>
    let drained := server.drainOutput
    if plaintext = [] then drained
    else { drained with events := .plaintext plaintext :: drained.events }

/-- `goodix_tls_server_push` -/
def Server.push (server : Server) (data : List UInt8) (answer : Answer) : Called :=
  if server.state = .terminal ∨ data = [] ∨ data.length > 2147483647 ∨ answer.accepts = false then
    server.terminal "TLS input rejected by fence"
  else if server.state = .established then server.readPlaintext answer
  else
    let drained := (server.write answer.shaken).drainOutput
    match drained.result with
    | .error _ => drained
    | .ok () =>
      match answer.shakes with
      | none =>
        let called := { drained.server with state := .established }.readPlaintext answer
        { called with events := drained.events ++ called.events }
      | some .want => drained
      | some _ =>
        { drained.server.terminal "TLS handshake failed closed" with events := drained.events }

/-- What OpenSSL writes in a push. -/
def Server.written (server : Server) (data : List UInt8) (answer : Answer) : List UInt8 :=
  if server.state = .terminal ∨ data = [] ∨ data.length > 2147483647 ∨ answer.accepts = false then []
  else if server.state = .established then answer.written
  else
    match (server.write answer.shaken).drainOutput.result, answer.shakes with
    | .ok (), none => answer.shaken ++ answer.written
    | _, _ => answer.shaken

/-- A server after some pushes, with what OpenSSL has written and what was handed on. -/
structure Story where
  server : Server
  written : List UInt8
  events : List Event

def Story.push (story : Story) (pushed : List UInt8 × Answer) : Story :=
  let called := story.server.push pushed.1 pushed.2
  { server := called.server
    written := story.written ++ story.server.written pushed.1 pushed.2
    events := story.events ++ called.events }

def run (pushes : List (List UInt8 × Answer)) : Story :=
  pushes.foldl Story.push ⟨.new, [], []⟩

/-- The records among what was handed on. -/
def outputs (events : List Event) : List (List UInt8) :=
  events.filterMap fun
    | .output record => some record
    | .plaintext _ => none

/-! ## The grammar of records -/

/-- A record: a header of five octets and as many as its last two say. -/
structure Record where
  header : Block 5
  payload : List UInt8
  sized : payload.length = (header.val.getD 3 0).toNat * 256 + (header.val.getD 4 0).toNat

def Record.octets (record : Record) : List UInt8 := record.header.val ++ record.payload

def recordFront (stream : List UInt8) : Front Unit :=
  if stream.length < 5 ∨ stream.length < recordLength stream then .short
  else .item (recordLength stream)

/-- A longer stream has the same length in its header. -/
theorem recordLength_append {stream : List UInt8} (header : 5 ≤ stream.length) (more : List UInt8) :
    recordLength (stream ++ more) = recordLength stream := by
  unfold recordLength
  rw [List.getD_append _ _ _ _ (by omega), List.getD_append _ _ _ _ (by omega)]

def records : Grammar UInt8 Unit where
  front := recordFront
  item_inside := by
    intro stream length item
    unfold recordFront at item
    split at item
    · cases item
    · cases item
      unfold recordLength at *
      omega
  extend_malformed := by
    intro stream error more malformed
    unfold recordFront at malformed
    split at malformed <;> cases malformed
  extend_item := by
    intro stream length more item
    unfold recordFront at item ⊢
    split at item
    · cases item
    · rename_i whole
      cases item
      rw [recordLength_append (by omega), if_neg]
      simp only [List.length_append]
      omega

theorem front_records (stream : List UInt8) : records.front stream = recordFront stream := rfl

theorem Record.front (record : Record) (more : List UInt8) :
    records.front (record.octets ++ more) = .item record.octets.length := by
  have header : recordLength (record.octets ++ more) = record.octets.length := by
    have sized := record.sized
    unfold recordLength Record.octets
    rw [List.append_assoc, List.getD_append _ _ _ _ (by simp), List.getD_append _ _ _ _ (by simp)]
    simp only [List.length_append, Block.length_val]
    omega
  have long : 5 ≤ record.octets.length := by simp [Record.octets]
  rw [front_records, recordFront, header, if_neg]
  simp only [List.length_append]
  omega

/-! ## Draining is parsing -/

theorem readOutput_eq (pending bio : List UInt8) : readOutput pending bio = pending ++ bio := by
  induction pending, bio using readOutput.induct with
  | case1 pending => simp [readOutput]
  | case2 pending bio more ih =>
    rw [readOutput, dif_neg more, ih, List.append_assoc, List.take_append_drop]

/-- The lengths of two octets are never oversized. -/
theorem recordLength_le (pending : List UInt8) : recordLength pending ≤ 65535 + 5 := by
  have high := (pending.getD 3 0).toNat_lt
  have low := (pending.getD 4 0).toNat_lt
  unfold recordLength
  omega

theorem splitOutput_eq (pending : List UInt8) :
    splitOutput pending = ⟨(records.parse pending).items, (records.parse pending).rest, false⟩ := by
  induction pending using splitOutput.induct with
  | case1 pending header oversized =>
    have bound := recordLength_le pending
    omega
  | case2 pending header _ partial_ =>
    have short : records.front pending = .short := by
      rw [front_records, recordFront, if_pos (.inr partial_)]
    rw [splitOutput, dif_pos header, if_neg (by omega), if_pos partial_, Grammar.parse_short short]
  | case3 pending header _ whole ih =>
    have item : records.front pending = .item (recordLength pending) := by
      rw [front_records, recordFront, if_neg (by omega)]
    rw [splitOutput, dif_pos header, if_neg (by omega), if_neg whole, Grammar.parse_item item, ih]
  | case4 pending header =>
    have short : records.front pending = .short := by
      rw [front_records, recordFront, if_pos (.inl (by omega))]
    rw [splitOutput, dif_neg header, Grammar.parse_short short]

theorem outputs_map (split : List (List UInt8)) : outputs (split.map Event.output) = split := by
  induction split with
  | nil => rfl
  | cons record split ih =>
    rw [List.map_cons]
    exact congrArg (record :: ·) ih

theorem outputs_append (early late : List Event) :
    outputs (early ++ late) = outputs early ++ outputs late := List.filterMap_append

theorem drainOutput_eq (server : Server) :
    server.drainOutput =
      ⟨((records.parse (server.outputPending ++ server.wbio)).items.map Event.output),
        { server with
          wbio := [], outputPending := (records.parse (server.outputPending ++ server.wbio)).rest },
        .ok ()⟩ := by
  simp only [Server.drainOutput, readOutput_eq, splitOutput_eq, Bool.false_eq_true, if_false]

/-- What a server has handed on and holds, beside what OpenSSL has written: of the octets read so
far, the whole records and the rest. -/
def Keeps (written : List UInt8) (handed : List (List UInt8)) (server : Server) : Prop :=
  ∃ read, written = read ++ server.wbio ∧
    records.parse read = ⟨handed, server.outputPending, none⟩

section Keeps

variable {written : List UInt8} {handed : List (List UInt8)} {server : Server}

theorem Keeps.new : Keeps [] [] .new := by
  refine ⟨[], rfl, Grammar.parse_short ?_⟩
  rw [front_records, recordFront, if_pos (.inl (by simp))]

theorem Keeps.of_state (keeps : Keeps written handed server) (state : State) :
    Keeps written handed { server with state } := keeps

theorem Keeps.write (keeps : Keeps written handed server) (octets : List UInt8) :
    Keeps (written ++ octets) handed (server.write octets) := by
  obtain ⟨read, rfl, parsed⟩ := keeps
  exact ⟨read, List.append_assoc _ _ _, parsed⟩

/-- Records never fail to parse. -/
theorem parse_failure (stream : List UInt8) : (records.parse stream).failure = none := by
  have rest := records.front_rest stream
  cases failure : (records.parse stream).failure with
  | none => rfl
  | some error =>
    rw [failure, front_records] at rest
    unfold recordFront at rest
    split at rest <;> cases rest

/-- Draining reads everything and hands on what has become whole. -/
theorem Keeps.drain (keeps : Keeps written handed server) :
    Keeps written (handed ++ outputs server.drainOutput.events) server.drainOutput.server ∧
      server.drainOutput.result = .ok () := by
  obtain ⟨read, rfl, parsed⟩ := keeps
  rw [drainOutput_eq]
  refine ⟨⟨read ++ server.wbio, by simp, ?_⟩, rfl⟩
  rw [Grammar.parse_append, parsed]
  simp only [Parsed.behind, outputs_map]
  rw [parse_failure]

theorem Keeps.readPlaintext (keeps : Keeps written handed server) (answer : Answer) :
    Keeps (written ++ answer.written)
      (handed ++ outputs (server.readPlaintext answer).events)
      (server.readPlaintext answer).server := by
  have wrote := keeps.write answer.written
  unfold Server.readPlaintext
  simp only
  cases answer.ends with
  | zeroReturn => simpa [Server.terminal, outputs] using wrote.of_state .terminal
  | failed => simpa [Server.terminal, outputs] using wrote.of_state .terminal
  | want =>
    simp only
    split
    · exact wrote.drain.1
    · exact wrote.drain.1

/-- A push keeps the records in order. -/
theorem Keeps.push (keeps : Keeps written handed server) (data : List UInt8) (answer : Answer) :
    Keeps (written ++ server.written data answer)
      (handed ++ outputs (server.push data answer).events) (server.push data answer).server := by
  unfold Server.push Server.written
  by_cases refused : server.state = .terminal ∨ data = [] ∨ data.length > 2147483647 ∨
      answer.accepts = false
  · rw [if_pos refused, if_pos refused]
    simpa [Server.terminal, outputs] using keeps.of_state .terminal
  rw [if_neg refused, if_neg refused]
  by_cases established : server.state = .established
  · rw [if_pos established, if_pos established]
    exact keeps.readPlaintext answer
  rw [if_neg established, if_neg established]
  obtain ⟨drained, fine⟩ := (keeps.write answer.shaken).drain
  simp only [fine]
  cases answer.shakes with
  | none =>
    have called := (drained.of_state .established).readPlaintext answer
    simpa [outputs_append] using called
  | some error =>
    cases error with
    | want => exact drained
    | zeroReturn => exact drained.of_state .terminal
    | failed => exact drained.of_state .terminal

end Keeps

/-- Every run keeps the records in order. -/
theorem run_keeps (pushes : List (List UInt8 × Answer)) :
    Keeps (run pushes).written (outputs (run pushes).events) (run pushes).server := by
  have keeps : ∀ (pushes : List (List UInt8 × Answer)) (story : Story),
      Keeps story.written (outputs story.events) story.server →
        Keeps (pushes.foldl Story.push story).written (outputs (pushes.foldl Story.push story).events)
          (pushes.foldl Story.push story).server := by
    intro pushes
    induction pushes with
    | nil => exact fun _ keeps => keeps
    | cons pushed pushes ih =>
      intro story keeps
      apply ih
      simpa [Story.push, outputs_append] using keeps.push pushed.1 pushed.2
  exact keeps pushes ⟨.new, [], []⟩ .new

/-! ## Draining leaves nothing behind -/

/-- A server that has not come to its end has read everything that OpenSSL wrote. -/
def Drained (server : Server) : Prop := server.state ≠ .terminal → server.wbio = []

theorem drained_drainOutput (server : Server) : server.drainOutput.server.wbio = [] := by
  rw [drainOutput_eq]

theorem drained_readPlaintext (server : Server) (answer : Answer) :
    Drained (server.readPlaintext answer).server := by
  unfold Server.readPlaintext
  simp only
  cases answer.ends with
  | zeroReturn => simp [Drained, Server.terminal]
  | failed => simp [Drained, Server.terminal]
  | want =>
    simp only
    -- the output is drained whether or not there is plaintext
    split
    · exact fun _ => drained_drainOutput _
    · exact fun _ => drained_drainOutput _

theorem drained_push (server : Server) (data : List UInt8) (answer : Answer) :
    Drained (server.push data answer).server := by
  unfold Server.push
  split
  · simp [Drained, Server.terminal]
  split
  · exact drained_readPlaintext server answer
  simp only
  split
  · exact fun _ => drained_drainOutput _
  cases answer.shakes with
  | none => exact drained_readPlaintext _ answer
  | some error =>
    cases error with
    | want => exact fun _ => drained_drainOutput _
    | zeroReturn => simp [Drained, Server.terminal]
    | failed => simp [Drained, Server.terminal]

theorem run_drained (pushes : List (List UInt8 × Answer)) : Drained (run pushes).server := by
  cases pushes using List.reverseRecOn with
  | nil => exact fun _ => rfl
  | append_singleton pushes pushed =>
    rw [run, List.foldl_concat]
    exact drained_push _ _ _

/-! ## The records of a stream -/

def streamOf (stream : List Record) : List UInt8 := (stream.map Record.octets).flatten

theorem parse_streamOf (stream : List Record) :
    records.parse (streamOf stream) = ⟨stream.map Record.octets, [], none⟩ := by
  have whole : ∀ item ∈ stream.map Record.octets, ∀ more,
      records.front (item ++ more) = .item item.length := by
    intro item listed more
    obtain ⟨record, -, rfl⟩ := List.mem_map.mp listed
    exact record.front more
  have empty : records.parse [] = ⟨[], [], none⟩ := Grammar.parse_short (by
    rw [front_records, recordFront, if_pos (.inl (by simp))])
  have parsed := records.parse_flatten whole []
  rw [List.append_nil, empty] at parsed
  simpa [Parsed.behind, streamOf] using parsed

theorem streamOf_append (early late : List Record) :
    streamOf (early ++ late) = streamOf early ++ streamOf late := by
  simp [streamOf]

/-- The start of the records that follow: nothing, or less than the next one. -/
def Begins (pending : List UInt8) (later : List Record) : Prop :=
  pending = [] ∨ ∃ record, later.head? = some record ∧ pending <+: record.octets ∧
    pending.length < record.octets.length

/-- Octets that are not yet a record begin the record they are the start of. -/
theorem begins_of_short {pending following : List UInt8} {later : List Record}
    (short : records.front pending = .short) (whole : pending ++ following = streamOf later) :
    Begins pending later := by
  by_cases empty : pending = []
  · exact .inl empty
  · right
    cases later with
    | nil => simp [streamOf, empty] at whole
    | cons record later =>
      have front : record.octets <+: pending ++ following := by
        rw [whole]
        exact List.prefix_append _ _
      have length : pending.length < record.octets.length := by
        by_contra long
        obtain ⟨tail, kept⟩ := List.prefix_of_prefix_length_le front (List.prefix_append _ _)
          (by omega)
        rw [← kept, record.front tail] at short
        cases short
      exact ⟨record, rfl, List.prefix_of_prefix_length_le (List.prefix_append _ _) front (by omega),
        length⟩

/-- A whole stream leaves nothing behind its records. -/
theorem nothing_begun {later : List Record} (begins : Begins (streamOf later) later) : later = [] := by
  cases later with
  | nil => rfl
  | cons record later =>
    have long : record.octets.length ≤ (streamOf (record :: later)).length := by
      simp [streamOf]
    have positive : 5 ≤ record.octets.length := by simp [Record.octets]
    cases begins with
    | inl empty =>
      rw [empty] at long
      simp only [List.length_nil] at long
      omega
    | inr next =>
      obtain ⟨other, named, -, short⟩ := next
      obtain rfl : record = other := Option.some.inj named
      omega

/-- **The splitter.** Of a stream of records, however its octets become available, the records that
have been read are handed on, in order and as they are, and what is kept is the start of the next.
A push that does not end the server has read everything that was written, so that all whole records
have been handed on; and of a stream that has been read to its end, all records have been. -/
theorem output_is_split (stream : List Record) (pushes : List (List UInt8 × Answer))
    (writes : (run pushes).written <+: streamOf stream) :
    ∃ done later, stream = done ++ later ∧
      outputs (run pushes).events = done.map Record.octets ∧
      (run pushes).written = streamOf done ++ (run pushes).server.outputPending ++
        (run pushes).server.wbio ∧
      Begins (run pushes).server.outputPending later ∧
      ((run pushes).server.state ≠ .terminal → (run pushes).server.wbio = []) ∧
      ((run pushes).written = streamOf stream → (run pushes).server.wbio = [] →
        later = [] ∧ (run pushes).server.outputPending = []) := by
  obtain ⟨read, written, parsed⟩ := run_keeps pushes
  obtain ⟨more, whole⟩ := writes
  have drains := run_drained pushes
  unfold Drained at drains
  generalize (run pushes).server.state = state at *
  generalize (run pushes).server.outputPending = pending at *
  generalize (run pushes).server.wbio = unread at *
  generalize outputs (run pushes).events = handed at *
  -- The rest of the stream is parsed behind what has been read.
  have split := records.parse_append read (unread ++ more)
  rw [← List.append_assoc, ← written, whole, parse_streamOf, parsed] at split
  simp only [Parsed.behind, Parsed.mk.injEq] at split
  obtain ⟨items, rest, -⟩ := split
  obtain ⟨done, later, rfl, rfl, remaining⟩ := List.map_eq_append_iff.mp items
  have conserved := records.parse_conserves read
  have following := records.parse_conserves (pending ++ (unread ++ more))
  have short := records.front_rest read
  rw [parsed] at conserved short
  rw [← remaining, ← rest, List.append_nil] at following
  have begins : Begins pending later := begins_of_short short following.symm
  refine ⟨done, later, rfl, rfl, ?_, begins, drains, ?_⟩
  · rw [written, ← conserved]
    rfl
  · intro complete drained
    have ended : pending = streamOf later := by
      rw [drained, List.append_nil] at written
      rw [complete, streamOf_append, ← conserved] at written
      exact (List.append_cancel_left written).symm
    have last : later = [] := nothing_begun (ended ▸ begins)
    refine ⟨last, ?_⟩
    rw [ended, last]
    simp [streamOf]

/-- An alert of two octets that becomes available in two pieces. -/
theorem output_is_split_alert :
    outputs (run [([0], ⟨true, [0x15, 3, 3], some .want, [], [], .want⟩),
      ([0], ⟨true, [0, 2, 1, 0x28], some .want, [], [], .want⟩)]).events =
        [[0x15, 3, 3, 0, 2, 1, 0x28]] := by
  let alert : Record := ⟨⟨[0x15, 3, 3, 0, 2], rfl⟩, [1, 0x28], rfl⟩
  have written : (run [([0], ⟨true, [0x15, 3, 3], some .want, [], [], .want⟩),
      ([0], ⟨true, [0, 2, 1, 0x28], some .want, [], [], .want⟩)]).written = streamOf [alert] := by
    decide +kernel
  obtain ⟨done, later, split, handed, -, -, drained, complete⟩ := output_is_split [alert] _
    (by rw [written])
  obtain ⟨rfl, -⟩ := complete written (drained (by decide +kernel))
  rw [List.append_nil] at split
  rw [handed, ← split]
  rfl

end Goodix.TlsServer
