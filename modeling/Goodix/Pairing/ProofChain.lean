import Goodix.Pairing.Construction
import Goodix.Pairing.Steps
import Goodix.SelfState.Durability

/-! # The proof chain of a pairing

What an activation has seen when it reaches TLS: one whole E0 exchange, then the two
blocks read back as they have to be.  Promotion is asked of the store from there
only, at most once, and a failure is final.
-/

namespace Goodix.Pairing

open Octets A0Protocol SelfState LivePreflight Machines

variable {crypto : Primitives} {activation : Activation} {path : PathEntry}
  {bb010002 : Block Bb010002.length} {envelope : PairingCrypto.Envelope} {validator : Validator}

/-! ## What a log proves -/

/-- The phase an observation belongs to; a failure belongs to none. -/
def Observed.phase : Observed → Option Phase
  | .request phase _ => some phase
  | .outComplete phase => some phase
  | .e0Ack _ => some .e0
  | .e0Completion _ _ => some .e0
  | .readbackAck phase _ => some phase
  | .readback phase _ => some phase
  | .secureView _ => some .tls
  | .promotion phase _ _ => some phase
  | .failed => none

/-- One E0 frame, its OUT completion, one ACK and after that one completion; the OUT may
complete before, between or after the two answers. -/
def IsE0Exchange (bb010002 : Block Bb010002.length) (envelope : PairingCrypto.Envelope)
    (events : List Observed) : Prop :=
  ∃ frame status control code, buildFrame 0xe0 0xe0 (e0Body bb010002 envelope) = some frame ∧
    ackStatusAccepted status = true ∧ (control = 0xe0 ∨ control = 0xe2) ∧
    (code = 0x02 ∨ code = 0x03) ∧
    let request := Observed.request .e0 frame
    let ack := Observed.e0Ack status
    let completion := Observed.e0Completion control code
    (events = [request, .outComplete .e0, ack, completion] ∨
      events = [request, ack, .outComplete .e0, completion] ∨
      events = [request, ack, completion, .outComplete .e0])

def Observed.block : Observed → Option (List UInt8)
  | .readback _ block => some block
  | _ => none

/-- The block that counts is the one of the last accepted response. -/
def lastReadback (events : List Observed) : Option (List UInt8) :=
  (events.filterMap Observed.block).getLast?

/-- Every event belongs to `phase`, and `block` is what was read back in it. -/
structure ReadsBack (phase : Phase) (block : List UInt8) (events : List Observed) : Prop where
  during : ∀ observed ∈ events, observed.phase = some phase
  reads : lastReadback events = some block

/-- The three proofs in their order, and nothing but TLS after them. -/
def ProofChain (bb010002 : Block Bb010002.length) (envelope : PairingCrypto.Envelope)
    (validator : Validator) (log : List Observed) : Prop :=
  ∃ exchange first second late, log = exchange ++ first ++ second ++ late ∧
    IsE0Exchange bb010002 envelope exchange ∧ ReadsBack .readBb010002 bb010002.val first ∧
    ReadsBack .readValidator validator.val second ∧
    ∀ observed ∈ late, observed.phase = some .tls

theorem lastReadback_concat_readback (events : List Observed) (phase : Phase)
    (block : List UInt8) : lastReadback (events ++ [.readback phase block]) = some block := by
  simp [lastReadback, Observed.block]

theorem lastReadback_concat_other {events : List Observed} {observed : Observed}
    (other : observed.block = none) :
    lastReadback (events ++ [observed]) = lastReadback events := by
  simp [lastReadback, other]

/-! ## The E0 on its way -/

/-- The nested write at the moments an exchange can be seen at. -/
def begunProvision (bb010002 : Block Bb010002.length) (envelope : PairingCrypto.Envelope)
    (validator : Validator) : Provision :=
  { freshProvision bb010002 envelope validator with begun := true }

def acknowledgedProvision (bb010002 : Block Bb010002.length) (envelope : PairingCrypto.Envelope)
    (validator : Validator) : Provision :=
  { begunProvision bb010002 envelope validator with ackSeen := true }

def acceptedProvision (bb010002 : Block Bb010002.length) (envelope : PairingCrypto.Envelope)
    (validator : Validator) : Provision :=
  { acknowledgedProvision bb010002 envelope validator with terminal := .accepted }

/-- The part of the exchange that has already happened. -/
inductive E0Progress (bb010002 : Block Bb010002.length) (envelope : PairingCrypto.Envelope)
    (validator : Validator) (activation : Activation) : List Observed → Prop where
  | ready (holds : activation.provision = some (freshProvision bb010002 envelope validator))
      (free : activation.outPending = false) :
      E0Progress bb010002 envelope validator activation []
  | sent (frame : List UInt8) (events : List Observed)
      (built : buildFrame 0xe0 0xe0 (e0Body bb010002 envelope) = some frame)
      (holds : activation.provision = some (begunProvision bb010002 envelope validator))
      (order : (activation.outPending = true ∧ events = [.request .e0 frame]) ∨
        (activation.outPending = false ∧ events = [.request .e0 frame, .outComplete .e0])) :
      E0Progress bb010002 envelope validator activation events
  | acknowledged (frame : List UInt8) (status : UInt8) (events : List Observed)
      (built : buildFrame 0xe0 0xe0 (e0Body bb010002 envelope) = some frame)
      (accepted : ackStatusAccepted status = true)
      (holds : activation.provision = some (acknowledgedProvision bb010002 envelope validator))
      (order : (activation.outPending = true ∧ events = [.request .e0 frame, .e0Ack status]) ∨
        (activation.outPending = false ∧
          (events = [.request .e0 frame, .outComplete .e0, .e0Ack status] ∨
            events = [.request .e0 frame, .e0Ack status, .outComplete .e0]))) :
      E0Progress bb010002 envelope validator activation events
  | answered (frame : List UInt8) (status control code : UInt8)
      (built : buildFrame 0xe0 0xe0 (e0Body bb010002 envelope) = some frame)
      (accepted : ackStatusAccepted status = true) (controls : control = 0xe0 ∨ control = 0xe2)
      (codes : code = 0x02 ∨ code = 0x03)
      (holds : activation.provision = some (acceptedProvision bb010002 envelope validator))
      (pending : activation.outPending = true) :
      E0Progress bb010002 envelope validator activation
        [.request .e0 frame, .e0Ack status, .e0Completion control code]

/-- How the log of a provisioning run and the activation it has reached belong together. -/
inductive Chain (bb010002 : Block Bb010002.length) (envelope : PairingCrypto.Envelope)
    (validator : Validator) : List Observed → Activation → Prop where
  | e0 {log : List Observed} {activation : Activation} (phase : activation.phase = .e0)
      (progress : E0Progress bb010002 envelope validator activation log) :
      Chain bb010002 envelope validator log activation
  | firstRead {log : List Observed} {activation : Activation} (exchange reads : List Observed)
      (parts : log = exchange ++ reads) (phase : activation.phase = .readBb010002)
      (holds : activation.provision = some (acceptedProvision bb010002 envelope validator))
      (done : IsE0Exchange bb010002 envelope exchange)
      (during : ∀ observed ∈ reads, observed.phase = some .readBb010002)
      (answered : activation.logicalDone = true →
        lastReadback reads = some activation.readbackBb010002.val) :
      Chain bb010002 envelope validator log activation
  | secondRead {log : List Observed} {activation : Activation}
      (exchange first reads : List Observed)
      (parts : log = exchange ++ first ++ reads) (phase : activation.phase = .readValidator)
      (holds : activation.provision = some (acceptedProvision bb010002 envelope validator))
      (done : IsE0Exchange bb010002 envelope exchange)
      (firstRead : ReadsBack .readBb010002 activation.readbackBb010002.val first)
      (during : ∀ observed ∈ reads, observed.phase = some .readValidator)
      (answered : activation.logicalDone = true →
        lastReadback reads = some activation.readbackValidator.val) :
      Chain bb010002 envelope validator log activation
  | proven {log : List Observed} {activation : Activation}
      (phase : activation.phase = .tls ∨ activation.phase = .complete)
      (chain : ProofChain bb010002 envelope validator log) :
      Chain bb010002 envelope validator log activation
  | failed {log : List Observed} {activation : Activation}
      (phase : activation.phase = .terminal) : Chain bb010002 envelope validator log activation

/-- A finished exchange opens the first readback. -/
theorem chain_exchange_done {log : List Observed} (phase : activation.phase = .e0)
    (holds : activation.provision = some (acceptedProvision bb010002 envelope validator))
    (free : activation.outPending = false) (done : IsE0Exchange bb010002 envelope log) :
    Chain bb010002 envelope validator log activation.maybeAdvance.1 := by
  have accepted : activation.provisionTerminal = .accepted := by
    simp [Activation.provisionTerminal, holds, acceptedProvision]
  rw [maybeAdvance_e0_accepted phase free accepted]
  refine .firstRead log [] (List.append_nil log).symm rfl holds done (by simp) ?_
  intro answered
  cases answered

/-- While the write waits for an answer, `maybe_advance` leaves the activation alone. -/
theorem chain_e0_waiting {log : List Observed} {provision : Provision}
    (phase : activation.phase = .e0) (holds : activation.provision = some provision)
    (waiting : provision.terminal = .waiting)
    (progress : E0Progress bb010002 envelope validator activation log) :
    Chain bb010002 envelope validator log activation.maybeAdvance.1 := by
  have notAccepted : activation.provisionTerminal ≠ .accepted := by
    simp [Activation.provisionTerminal, holds, waiting]
  rw [maybeAdvance_e0_waiting phase notAccepted]
  exact .e0 phase progress

section E0Steps

variable {log : List Observed}

theorem chain_completed (phase : activation.phase = .e0)
    (progress : E0Progress bb010002 envelope validator activation log)
    (pending : activation.outPending = true) :
    Chain bb010002 envelope validator (log ++ [.outComplete .e0])
      (Activation.maybeAdvance { activation with outPending := false }).1 := by
  cases progress with
  | ready holds free =>
    rw [pending] at free
    cases free
  | sent frame events built holds order =>
    obtain ⟨-, rfl⟩ | ⟨free, -⟩ := order
    · exact chain_e0_waiting phase holds rfl (.sent frame _ built holds (.inr ⟨rfl, rfl⟩))
    · rw [pending] at free
      cases free
  | acknowledged frame status events built accepted holds order =>
    obtain ⟨-, rfl⟩ | ⟨free, -⟩ := order
    · exact chain_e0_waiting phase holds rfl
        (.acknowledged frame status _ built accepted holds (.inr ⟨rfl, .inr rfl⟩))
    · rw [pending] at free
      cases free
  | answered frame status control code built accepted controls codes holds pending =>
    exact chain_exchange_done phase holds rfl
      ⟨frame, status, control, code, built, accepted, controls, codes, .inr (.inr rfl)⟩

theorem chain_acknowledged {provision : Provision} {status : UInt8}
    (phase : activation.phase = .e0) (holds : activation.provision = some provision)
    (progress : E0Progress bb010002 envelope validator activation log)
    (accepted : ackStatusAccepted status = true) (begun : provision.begun = true)
    (first : provision.ackSeen = false) :
    Chain bb010002 envelope validator (log ++ [.e0Ack status])
      (Activation.maybeAdvance
        { activation with provision := some { provision with ackSeen := true } }).1 := by
  cases progress with
  | ready fresh free =>
    rw [fresh, Option.some.injEq] at holds
    subst holds
    cases begun
  | sent frame events built sentHolds order =>
    rw [sentHolds, Option.some.injEq] at holds
    subst holds
    refine chain_e0_waiting phase rfl rfl (.acknowledged frame status _ built accepted rfl ?_)
    obtain ⟨pending, rfl⟩ | ⟨free, rfl⟩ := order
    · exact .inl ⟨pending, rfl⟩
    · exact .inr ⟨free, .inl rfl⟩
  | acknowledged frame status events built accepted ackHolds order =>
    rw [ackHolds, Option.some.injEq] at holds
    subst holds
    cases first
  | answered frame status control code built accepted controls codes ansHolds pending =>
    rw [ansHolds, Option.some.injEq] at holds
    subst holds
    cases first

theorem chain_answered {provision : Provision} {control code : UInt8}
    (phase : activation.phase = .e0) (holds : activation.provision = some provision)
    (progress : E0Progress bb010002 envelope validator activation log)
    (controls : control = 0xe0 ∨ control = 0xe2) (codes : code = 0x02 ∨ code = 0x03)
    (waiting : provision.terminal = .waiting) (acknowledged : provision.ackSeen = true) :
    Chain bb010002 envelope validator (log ++ [.e0Completion control code])
      (Activation.maybeAdvance
        { activation with provision := some { provision with terminal := .accepted } }).1 := by
  cases progress with
  | ready fresh free =>
    rw [fresh, Option.some.injEq] at holds
    subst holds
    cases acknowledged
  | sent frame events built sentHolds order =>
    rw [sentHolds, Option.some.injEq] at holds
    subst holds
    cases acknowledged
  | acknowledged frame status events built accepted ackHolds order =>
    rw [ackHolds, Option.some.injEq] at holds
    subst holds
    obtain ⟨pending, rfl⟩ | ⟨free, rfl | rfl⟩ := order
    · -- the OUT is still on its way, so the activation waits for it with its answer
      have stays : Activation.maybeAdvance
            { activation with
              provision := some (acceptedProvision bb010002 envelope validator) } =
          ({ activation with
              provision := some (acceptedProvision bb010002 envelope validator) }, .ok ()) :=
        maybeAdvance_pending pending
      change Chain _ _ _ _ (Activation.maybeAdvance
        { activation with provision := some (acceptedProvision bb010002 envelope validator) }).1
      rw [stays]
      exact .e0 phase
        (.answered frame status control code built accepted controls codes rfl pending)
    · exact chain_exchange_done phase rfl free
        ⟨frame, status, control, code, built, accepted, controls, codes, .inl rfl⟩
    · exact chain_exchange_done phase rfl free
        ⟨frame, status, control, code, built, accepted, controls, codes, .inr (.inl rfl)⟩
  | answered frame status control code built accepted controls codes ansHolds pending =>
    rw [ansHolds, Option.some.injEq] at holds
    subst holds
    cases waiting

/-- The step lemma of the E0 phase. -/
theorem chain_e0 {provision : Provision} {after : Activation} {observed : List Observed}
    (phase : activation.phase = .e0) (holds : activation.provision = some provision)
    (progress : E0Progress bb010002 envelope validator activation log)
    (move : E0Case activation provision after observed) :
    Chain bb010002 envelope validator (log ++ observed) after := by
  cases move with
  | idle =>
    rw [List.append_nil]
    exact .e0 phase progress
  | failed terminal => exact .failed terminal
  | begun frame built fresh free =>
    cases progress with
    | ready readyHolds _ =>
      rw [readyHolds, Option.some.injEq] at holds
      subst holds
      exact .e0 phase (.sent frame _ built rfl (.inl ⟨rfl, rfl⟩))
    | sent frame events built sentHolds order =>
      rw [sentHolds, Option.some.injEq] at holds
      subst holds
      cases fresh.1
    | acknowledged frame status events built accepted ackHolds order =>
      rw [ackHolds, Option.some.injEq] at holds
      subst holds
      cases fresh.1
    | answered frame status control code built accepted controls codes ansHolds pending =>
      rw [ansHolds, Option.some.injEq] at holds
      subst holds
      cases fresh.1
  | completed pending => exact chain_completed phase progress pending
  | acknowledged status accepted active first =>
    exact chain_acknowledged phase holds progress accepted active.1 first
  | answered control code controls codes active acknowledged =>
    exact chain_answered phase holds progress controls codes active.2 acknowledged

end E0Steps

/-! ## The readbacks -/

section ReadbackSteps

variable {log : List Observed}

theorem chain_firstRead_advance {after : Activation} {exchange reads : List Observed}
    (advance : ReadbackAdvance activation after) (phase : activation.phase = .readBb010002)
    (holds : activation.provision = some (acceptedProvision bb010002 envelope validator))
    (done : IsE0Exchange bb010002 envelope exchange)
    (during : ∀ observed ∈ reads, observed.phase = some .readBb010002)
    (answered : activation.logicalDone = true →
      lastReadback reads = some activation.readbackBb010002.val) :
    Chain bb010002 envelope validator (exchange ++ reads) after := by
  cases advance with
  | stays => exact .firstRead exchange reads rfl phase holds done during answered
  | next _ finished =>
    refine .secondRead exchange reads [] (List.append_nil _).symm rfl holds done
      ⟨during, answered finished⟩ (by simp) ?_
    intro answered
    cases answered
  | proven provision otherPhase =>
    rw [phase] at otherPhase
    cases otherPhase

theorem chain_secondRead_advance {after : Activation} {exchange first reads : List Observed}
    (advance : ReadbackAdvance activation after) (phase : activation.phase = .readValidator)
    (holds : activation.provision = some (acceptedProvision bb010002 envelope validator))
    (done : IsE0Exchange bb010002 envelope exchange)
    (firstRead : ReadsBack .readBb010002 activation.readbackBb010002.val first)
    (during : ∀ observed ∈ reads, observed.phase = some .readValidator)
    (answered : activation.logicalDone = true →
      lastReadback reads = some activation.readbackValidator.val) :
    Chain bb010002 envelope validator (exchange ++ first ++ reads) after := by
  cases advance with
  | stays => exact .secondRead exchange first reads rfl phase holds done firstRead during answered
  | next otherPhase =>
    rw [phase] at otherPhase
    cases otherPhase
  | proven provision _ finished proven accepted sameBb010002 sameValidator =>
    rw [holds, Option.some.injEq] at proven
    subst proven
    rw [sameBb010002] at firstRead
    have secondRead := answered finished
    rw [sameValidator] at secondRead
    exact .proven (.inl rfl) ⟨exchange, first, reads, [], (List.append_nil _).symm, done,
      firstRead, ⟨during, secondRead⟩, by simp⟩

theorem during_concat {reads : List Observed} {observed : Observed} {phase : Phase}
    (during : ∀ observed ∈ reads, observed.phase = some phase)
    (belongs : observed.phase = some phase) :
    ∀ each ∈ reads ++ [observed], each.phase = some phase := by
  intro each member
  rcases List.mem_append.mp member with earlier | last
  · exact during each earlier
  · rw [List.mem_singleton.mp last]
    exact belongs

theorem chain_firstRead {after : Activation} {exchange reads observed : List Observed}
    (phase : activation.phase = .readBb010002)
    (holds : activation.provision = some (acceptedProvision bb010002 envelope validator))
    (done : IsE0Exchange bb010002 envelope exchange)
    (during : ∀ observed ∈ reads, observed.phase = some .readBb010002)
    (answered : activation.logicalDone = true →
      lastReadback reads = some activation.readbackBb010002.val)
    (move : ReadbackCase activation after observed) :
    Chain bb010002 envelope validator (exchange ++ reads ++ observed) after := by
  cases move with
  | idle =>
    rw [List.append_nil]
    exact .firstRead exchange reads rfl phase holds done during answered
  | failed terminal => exact .failed terminal
  | requested frame =>
    have belongs : (Observed.request activation.phase frame).phase = some .readBb010002 := by
      rw [phase]
      rfl
    refine .firstRead exchange _ (List.append_assoc _ _ _) phase holds done
      (during_concat during belongs) ?_
    intro finished
    rw [lastReadback_concat_other rfl]
    exact answered finished
  | completed advance =>
    have belongs : (Observed.outComplete activation.phase).phase = some .readBb010002 := by
      rw [phase]
      rfl
    rw [List.append_assoc]
    refine chain_firstRead_advance advance phase holds done (during_concat during belongs) ?_
    intro finished
    rw [lastReadback_concat_other rfl]
    exact answered finished
  | acknowledged status =>
    have belongs : (Observed.readbackAck activation.phase status).phase = some .readBb010002 := by
      rw [phase]
      rfl
    refine .firstRead exchange _ (List.append_assoc _ _ _) phase holds done
      (during_concat during belongs) ?_
    intro finished
    rw [lastReadback_concat_other rfl]
    exact answered finished
  | answeredBb010002 readback _ advance =>
    rw [List.append_assoc]
    refine chain_firstRead_advance advance phase holds done (during_concat during rfl) ?_
    intro _
    exact lastReadback_concat_readback _ _ _
  | answeredValidator readback otherPhase =>
    rw [phase] at otherPhase
    cases otherPhase

theorem chain_secondRead {after : Activation} {exchange first reads observed : List Observed}
    (phase : activation.phase = .readValidator)
    (holds : activation.provision = some (acceptedProvision bb010002 envelope validator))
    (done : IsE0Exchange bb010002 envelope exchange)
    (firstRead : ReadsBack .readBb010002 activation.readbackBb010002.val first)
    (during : ∀ observed ∈ reads, observed.phase = some .readValidator)
    (answered : activation.logicalDone = true →
      lastReadback reads = some activation.readbackValidator.val)
    (move : ReadbackCase activation after observed) :
    Chain bb010002 envelope validator (exchange ++ first ++ reads ++ observed) after := by
  cases move with
  | idle =>
    rw [List.append_nil]
    exact .secondRead exchange first reads rfl phase holds done firstRead during answered
  | failed terminal => exact .failed terminal
  | requested frame =>
    have belongs : (Observed.request activation.phase frame).phase = some .readValidator := by
      rw [phase]
      rfl
    refine .secondRead exchange first _ (List.append_assoc _ _ _) phase holds done firstRead
      (during_concat during belongs) ?_
    intro finished
    rw [lastReadback_concat_other rfl]
    exact answered finished
  | completed advance =>
    have belongs : (Observed.outComplete activation.phase).phase = some .readValidator := by
      rw [phase]
      rfl
    rw [List.append_assoc]
    refine chain_secondRead_advance advance phase holds done firstRead
      (during_concat during belongs) ?_
    intro finished
    rw [lastReadback_concat_other rfl]
    exact answered finished
  | acknowledged status =>
    have belongs : (Observed.readbackAck activation.phase status).phase = some .readValidator := by
      rw [phase]
      rfl
    refine .secondRead exchange first _ (List.append_assoc _ _ _) phase holds done firstRead
      (during_concat during belongs) ?_
    intro finished
    rw [lastReadback_concat_other rfl]
    exact answered finished
  | answeredBb010002 readback otherPhase =>
    rw [phase] at otherPhase
    cases otherPhase
  | answeredValidator readback _ advance =>
    rw [List.append_assoc]
    refine chain_secondRead_advance advance phase holds done firstRead (during_concat during rfl) ?_
    intro _
    exact lastReadback_concat_readback _ _ _

end ReadbackSteps

/-! ## The whole run -/

section Run

variable {log : List Observed}

theorem ProofChain.concat {observed : Observed}
    (chain : ProofChain bb010002 envelope validator log) (tls : observed.phase = some .tls) :
    ProofChain bb010002 envelope validator (log ++ [observed]) := by
  obtain ⟨exchange, first, second, late, parts, done, firstRead, secondRead, after⟩ := chain
  refine ⟨exchange, first, second, late ++ [observed], ?_, done, firstRead, secondRead,
    during_concat after tls⟩
  rw [parts, List.append_assoc]

theorem chain_late {after : System} {observed : List Observed}
    (phase : activation.phase = .tls ∨ activation.phase = .complete)
    (chain : ProofChain bb010002 envelope validator log)
    (move : LateCase crypto activation path after observed) :
    Chain bb010002 envelope validator (log ++ observed) after.activation := by
  cases move with
  | idle =>
    rw [List.append_nil]
    exact .proven phase chain
  | failed terminal => exact .failed terminal
  | viewed => exact .proven phase (chain.concat rfl)
  | reused _ _ _ complete =>
    rw [List.append_nil]
    exact .proven (.inr complete) chain
  | promoted fault _ _ _ complete => exact .proven (.inr complete) (chain.concat rfl)
  | promotionFailed fault error _ _ terminal => exact .failed terminal

theorem Chain.canProvision (chain : Chain bb010002 envelope validator log activation) :
    activation.CanProvision := by
  intro e0
  cases chain with
  | e0 phase progress =>
    cases progress with
    | ready holds => exact ⟨_, holds⟩
    | sent frame events built holds => exact ⟨_, holds⟩
    | acknowledged frame status events built accepted holds => exact ⟨_, holds⟩
    | answered frame status control code built accepted controls codes holds => exact ⟨_, holds⟩
  | firstRead exchange reads parts phase holds => exact ⟨_, holds⟩
  | secondRead exchange first reads parts phase holds => exact ⟨_, holds⟩
  | proven phase =>
    rw [e0] at phase
    rcases phase with phase | phase <;> cases phase
  | failed phase =>
    rw [e0] at phase
    cases phase

theorem Chain.proofChain (chain : Chain bb010002 envelope validator log activation)
    (late : activation.phase = .tls ∨ activation.phase = .complete) :
    ProofChain bb010002 envelope validator log := by
  cases chain with
  | e0 phase => rcases late with late | late <;> rw [phase] at late <;> cases late
  | firstRead exchange reads parts phase =>
    rcases late with late | late <;> rw [phase] at late <;> cases late
  | secondRead exchange first reads parts phase =>
    rcases late with late | late <;> rw [phase] at late <;> cases late
  | proven _ chain => exact chain
  | failed phase => rcases late with late | late <;> rw [phase] at late <;> cases late

/-- The step lemma of the proof chain. -/
theorem chain_step (chain : Chain bb010002 envelope validator log activation) (event : Event) :
    Chain bb010002 envelope validator (log ++ (step crypto ⟨activation, path⟩ event).2)
      (step crypto ⟨activation, path⟩ event).1.activation := by
  have move := step_case crypto path chain.canProvision event
  generalize (step crypto ⟨activation, path⟩ event).1 = after at move ⊢
  generalize (step crypto ⟨activation, path⟩ event).2 = observed at move ⊢
  cases chain with
  | e0 phase progress =>
    cases move with
    | e0 provision _ holds move => exact chain_e0 phase holds progress move
    | readback reads =>
      rcases reads with reads | reads <;> rw [phase] at reads <;> cases reads
    | late other => rcases other with other | other <;> rw [phase] at other <;> cases other
    | terminal other => rw [phase] at other; cases other
  | firstRead exchange reads parts phase holds done during answered =>
    subst parts
    cases move with
    | e0 provision other => rw [phase] at other; cases other
    | readback _ move => exact chain_firstRead phase holds done during answered move
    | late other => rcases other with other | other <;> rw [phase] at other <;> cases other
    | terminal other => rw [phase] at other; cases other
  | secondRead exchange first reads parts phase holds done firstRead during answered =>
    subst parts
    cases move with
    | e0 provision other => rw [phase] at other; cases other
    | readback _ move => exact chain_secondRead phase holds done firstRead during answered move
    | late other => rcases other with other | other <;> rw [phase] at other <;> cases other
    | terminal other => rw [phase] at other; cases other
  | proven phase chain =>
    cases move with
    | e0 provision other => rw [other] at phase; rcases phase with phase | phase <;> cases phase
    | readback reads =>
      rcases phase with phase | phase <;> rcases reads with reads | reads <;>
        rw [phase] at reads <;> cases reads
    | late _ move => exact chain_late phase chain move
    | terminal other => rw [other] at phase; rcases phase with phase | phase <;> cases phase
  | failed phase =>
    cases move with
    | e0 provision other => rw [phase] at other; cases other
    | readback reads => rcases reads with reads | reads <;> rw [phase] at reads <;> cases reads
    | late other => rcases other with other | other <;> rw [phase] at other <;> cases other
    | terminal _ _ => exact .failed phase

end Run

/-! ## Promotion and failure -/

def Observed.isPromotion : Observed → Bool
  | .promotion _ _ _ => true
  | _ => false

/-- The calls of `goodix_self_state_promote_active` in a log. -/
def promotions (log : List Observed) : List Observed := log.filter Observed.isPromotion

/-- What every log keeps about promotion and failure, whichever disposition it is. -/
structure Disciplined (disposition : Disposition) (log : List Observed)
    (activation : Activation) : Prop where
  canProvision : activation.CanProvision
  sameDisposition : activation.disposition = disposition
  fromTls : ∀ observed ∈ promotions log, disposition ≠ .reuseActiveTls ∧
    ∃ result, observed = .promotion .tls disposition result
  once : promotions log = [] ∨ (promotions log).length = 1 ∧
    (activation.phase = .complete ∨ activation.phase = .terminal)
  final : .failed ∈ log → activation.phase = .terminal

/-- Phases after which no promotion can be asked for. -/
def Phase.settled (phase : Phase) : Prop := phase = .complete ∨ phase = .terminal

theorem maybeAdvance_canProvision {provision : Provision} (phase : activation.phase = .e0)
    (holds : activation.provision = some provision) : activation.maybeAdvance.1.CanProvision := by
  cases pending : activation.outPending with
  | true =>
    rw [maybeAdvance_pending pending]
    exact fun _ => ⟨provision, holds⟩
  | false =>
    by_cases accepted : activation.provisionTerminal = .accepted
    · rw [maybeAdvance_e0_accepted phase pending accepted]
      exact fun _ => ⟨provision, holds⟩
    · rw [maybeAdvance_e0_waiting phase accepted]
      exact fun _ => ⟨provision, holds⟩

theorem ReadbackAdvance.phase_ne_e0 {after : Activation}
    (advance : ReadbackAdvance activation after) (reads : activation.phase.readsBack) :
    after.phase ≠ .e0 := by
  cases advance with
  | stays => rcases reads with phase | phase <;> rw [phase] <;> decide
  | next => simp
  | proven => simp

section Step

variable {after : System} {observed : List Observed}

theorem StepCase.canProvision (move : StepCase crypto activation path after observed) :
    after.activation.CanProvision := by
  have vacuous {phase : Phase} (other : phase ≠ .e0) {reached : Activation}
      (same : reached.phase = phase) : reached.CanProvision := fun e0 => absurd (same ▸ e0) other
  cases move with
  | e0 provision phase holds move =>
    cases move with
    | idle => exact fun _ => ⟨provision, holds⟩
    | failed terminal => exact vacuous (by decide) terminal
    | begun => exact fun _ => ⟨_, rfl⟩
    | completed => exact maybeAdvance_canProvision phase holds
    | acknowledged => exact maybeAdvance_canProvision phase rfl
    | answered => exact maybeAdvance_canProvision phase rfl
  | readback reads move =>
    have notE0 : activation.phase ≠ .e0 := by
      rcases reads with phase | phase <;> rw [phase] <;> decide
    cases move with
    | idle => exact vacuous notE0 rfl
    | failed terminal => exact vacuous (by decide) terminal
    | requested => exact vacuous notE0 rfl
    | completed advance => exact vacuous (advance.phase_ne_e0 reads) rfl
    | acknowledged => exact vacuous notE0 rfl
    | answeredBb010002 readback phase advance => exact vacuous (advance.phase_ne_e0 reads) rfl
    | answeredValidator readback phase advance => exact vacuous (advance.phase_ne_e0 reads) rfl
  | late phase move =>
    have notE0 : activation.phase ≠ .e0 := by
      rcases phase with phase | phase <;> rw [phase] <;> decide
    cases move with
    | idle => exact vacuous notE0 rfl
    | failed terminal => exact vacuous (by decide) terminal
    | viewed => exact vacuous notE0 rfl
    | reused _ _ _ complete => exact vacuous (by decide) complete
    | promoted _ _ _ _ complete => exact vacuous (by decide) complete
    | promotionFailed _ _ _ _ terminal => exact vacuous (by decide) terminal
  | terminal phase quiet => exact vacuous (by decide) phase

/-- A failing call ends the activation. -/
theorem StepCase.failed (move : StepCase crypto activation path after observed)
    (failure : .failed ∈ observed) : after.activation.phase = .terminal := by
  cases move with
  | e0 provision phase holds move => cases move <;> simp_all
  | readback reads move => cases move <;> simp_all
  | late phase move => cases move <;> simp_all
  | terminal phase quiet => exact phase

/-- A call asks the store for at most one promotion, from TLS only, and settles the activation
by it. -/
theorem StepCase.promotions (move : StepCase crypto activation path after observed) :
    promotions observed = [] ∨ activation.phase = .tls ∧
      activation.disposition ≠ .reuseActiveTls ∧
      (∃ result, Pairing.promotions observed = [.promotion .tls activation.disposition result]) ∧
      after.activation.phase.settled := by
  cases move with
  | e0 provision phase holds move => left; cases move <;> rfl
  | readback reads move => left; cases move <;> rfl
  | late phase move =>
    cases move with
    | idle => exact .inl rfl
    | failed terminal => exact .inl rfl
    | viewed => exact .inl rfl
    | reused _ _ _ complete => exact .inl rfl
    | promoted fault tls promotes _ complete =>
      exact .inr ⟨tls, promotes, ⟨_, rfl⟩, .inl complete⟩
    | promotionFailed fault error tls promotes terminal =>
      exact .inr ⟨tls, promotes, ⟨_, rfl⟩, .inr terminal⟩
  | terminal phase quiet => left; rcases quiet with rfl | rfl <;> rfl

theorem StepCase.settled (move : StepCase crypto activation path after observed)
    (settled : activation.phase.settled) : after.activation.phase.settled := by
  have notTls : activation.phase ≠ .tls := by
    rcases settled with phase | phase <;> rw [phase] <;> decide
  cases move with
  | e0 provision phase => rw [phase] at settled; rcases settled with other | other <;> cases other
  | readback reads =>
    rcases reads with phase | phase <;> rw [phase] at settled <;>
      rcases settled with other | other <;> cases other
  | late phase move =>
    cases move with
    | idle => exact settled
    | failed terminal => exact .inr terminal
    | viewed tls => exact absurd tls notTls
    | reused tls => exact absurd tls notTls
    | promoted fault tls => exact absurd tls notTls
    | promotionFailed fault error tls => exact absurd tls notTls
  | terminal phase quiet => exact .inr phase

end Step

theorem promotions_append (log later : List Observed) :
    promotions (log ++ later) = promotions log ++ promotions later :=
  List.filter_append _ _

/-- The step lemma of the discipline. -/
theorem disciplined_step {disposition : Disposition} {log : List Observed}
    (disciplined : Disciplined disposition log activation) (event : Event) :
    Disciplined disposition (log ++ (step crypto ⟨activation, path⟩ event).2)
      (step crypto ⟨activation, path⟩ event).1.activation := by
  have move := step_case crypto path disciplined.canProvision event
  have same : (step crypto ⟨activation, path⟩ event).1.activation.disposition = disposition :=
    (step_same crypto ⟨activation, path⟩ event).1.trans disciplined.sameDisposition
  generalize (step crypto ⟨activation, path⟩ event).1 = after at move same ⊢
  generalize (step crypto ⟨activation, path⟩ event).2 = observed at move ⊢
  refine ⟨move.canProvision, same, ?_, ?_, ?_⟩
  · intro each member
    rw [promotions_append, List.mem_append] at member
    rcases member with earlier | now
    · exact disciplined.fromTls each earlier
    rcases move.promotions with none | ⟨-, promotes, ⟨result, one⟩, -⟩
    · rw [none] at now
      cases now
    · rw [one, List.mem_singleton] at now
      rw [disciplined.sameDisposition] at now promotes
      exact ⟨promotes, result, now⟩
  · rw [promotions_append]
    rcases move.promotions with none | ⟨tls, -, ⟨result, one⟩, settled⟩
    · rw [none, List.append_nil]
      rcases disciplined.once with nothing | ⟨once, settled⟩
      · exact .inl nothing
      · exact .inr ⟨once, move.settled settled⟩
    · -- a promotion comes from TLS, where none has been asked for yet
      rcases disciplined.once with nothing | ⟨-, complete | terminal⟩
      · right
        rw [nothing, one]
        exact ⟨rfl, settled⟩
      · rw [tls] at complete
        cases complete
      · rw [tls] at terminal
        cases terminal
  · intro failure
    rcases List.mem_append.mp failure with earlier | now
    · have terminal := disciplined.final earlier
      cases move with
      | e0 provision phase => rw [terminal] at phase; cases phase
      | readback reads => rcases reads with phase | phase <;> rw [terminal] at phase <;> cases phase
      | late phase => rcases phase with phase | phase <;> rw [terminal] at phase <;> cases phase
      | terminal phase quiet => exact phase
    · exact move.failed now

/-- From TERMINAL on a run changes nothing and reports nothing but failures. -/
theorem run_terminal (terminal : activation.phase = .terminal) (events : List Event) :
    (run (step crypto) ⟨activation, path⟩ events).1 = ⟨activation, path⟩ ∧
      ∀ observed ∈ (run (step crypto) ⟨activation, path⟩ events).2, observed = .failed := by
  refine run_invariant (step crypto) (fun log system => system = ⟨activation, path⟩ ∧
    ∀ observed ∈ log, observed = .failed) ⟨rfl, by simp⟩ ?_ events
  rintro log system event ⟨rfl, quiet⟩
  obtain ⟨same, silent⟩ := step_terminal crypto path terminal event
  refine ⟨same, ?_⟩
  intro observed member
  rcases List.mem_append.mp member with earlier | now
  · exact quiet observed earlier
  · rcases silent with silent | silent <;> rw [silent] at now
    · cases now
    · exact List.mem_singleton.mp now

/-! ## The proof chain -/

/-- What every run of one activation keeps, from its construction on. -/
structure ProvenRun (crypto : Primitives) (policy : Policy) (evidence : Evidence)
    (path : PathEntry) (built : Activation) (start : PathEntry) (final : System)
    (log : List Observed) : Prop where
  provisioned : built.disposition.provisions = true →
    (∃ binding, load crypto start binding policy = .valid built.preparedState) ∧
    ∃ envelope validator,
      PairingCrypto.derive crypto built.preparedState.psk = .ok (envelope, validator) ∧
      (final.activation.phase = .tls ∨ final.activation.phase = .complete →
        ProofChain evidence.bb010002 envelope validator log)
  stored : built.disposition.provisions = false →
    (∃ binding, load crypto path binding policy = .valid built.preparedState) ∧
    StoredMaterial crypto evidence built.preparedState
  promoted : ∀ observed ∈ promotions log, built.disposition ≠ .reuseActiveTls ∧
    ∃ result, observed = .promotion .tls built.disposition result
  once : (promotions log).length ≤ 1
  failed : .failed ∈ log → final.activation.phase = .terminal
  final : final.activation.phase = .terminal → ∀ later,
    (run (step crypto) final later).1 = final ∧
      ∀ observed ∈ (run (step crypto) final later).2, observed = .failed

theorem disciplined_new {policy : Policy} {generated : Option Psk} {fault : Option Fault}
    {evidence : Evidence} {built : Activation} {start : PathEntry} {binding : Binding}
    {bb010002Sha256 : Digest}
    (constructed : Construction crypto policy generated fault path evidence binding bb010002Sha256
      built start) : Disciplined built.disposition [] built := by
  refine ⟨?_, rfl, by simp [promotions], .inl rfl, by simp⟩
  cases constructed with
  | newPsk _ _ _ _ _ reserved =>
    obtain ⟨view, -, rfl⟩ := reserved.made
    exact fun _ => ⟨_, rfl⟩
  | restore _ _ _ _ _ _ _ reserved =>
    obtain ⟨view, -, rfl⟩ := reserved.made
    exact fun _ => ⟨_, rfl⟩
  | recover state _ _ _ _ _ _ view made => subst made; intro phase; cases phase
  | reuse state _ _ _ _ _ view made => subst made; intro phase; cases phase

/-- A reservation starts the chain, and its PREPARED record is the stored one. -/
theorem Reserved.chain {policy : Policy} {fault : Option Fault} {evidence : Evidence}
    {binding : Binding} {bb010002Sha256 : Digest} {reservation : Reservation} {built : Activation}
    {start : PathEntry}
    (reserved : Reserved crypto policy fault path evidence binding bb010002Sha256 reservation built
      start envelope validator) :
    (∃ binding, load crypto start binding policy = .valid built.preparedState) ∧
      PairingCrypto.derive crypto built.preparedState.psk = .ok (envelope, validator) ∧
      Chain evidence.bb010002 envelope validator [] built := by
  have durable := reserved.durable
  have derived := reserved.derived
  obtain ⟨view, -, rfl⟩ := reserved.made
  exact ⟨⟨binding, durable⟩, derived, .e0 rfl (.ready rfl rfl)⟩

/-- **Proof chain.**  Whatever is called on an activation in whatever order: one that provisions
is at TLS only with the whole chain behind it, one that does not stands on a stored record that
fits the reader, the store is asked for at most one promotion, from TLS, and never for a record
that is ACTIVE already, and a failure is final. -/
theorem pairing_proof_chain {policy : Policy} {generated : Option Psk} {fault : Option Fault}
    {evidence : Evidence} {built : Activation} {start : PathEntry}
    (constructed : activationNew crypto policy generated fault path evidence = (.ok built, start))
    (events : List Event) :
    ProvenRun crypto policy evidence path built start
      (run (step crypto) ⟨built, start⟩ events).1 (run (step crypto) ⟨built, start⟩ events).2 := by
  obtain ⟨-, binding, bb010002Sha256, -, construction⟩ := activationNew_ok constructed
  have disciplined : Disciplined built.disposition (run (step crypto) ⟨built, start⟩ events).2
      (run (step crypto) ⟨built, start⟩ events).1.activation :=
    run_invariant (step crypto)
      (fun log system => Disciplined built.disposition log system.activation)
      (disciplined_new construction) (fun _ _ event kept => disciplined_step kept event) events
  have chained {envelope : PairingCrypto.Envelope} {validator : Validator}
      (initially : Chain evidence.bb010002 envelope validator [] built) :
      Chain evidence.bb010002 envelope validator (run (step crypto) ⟨built, start⟩ events).2
        (run (step crypto) ⟨built, start⟩ events).1.activation :=
    run_invariant (step crypto)
      (fun log system => Chain evidence.bb010002 envelope validator log system.activation)
      initially (fun _ _ event kept => chain_step kept event) events
  refine ⟨?_, ?_, disciplined.fromTls, ?_, disciplined.final, ?_⟩
  · intro provisions
    have reservedChain {reservation : Reservation} {envelope : PairingCrypto.Envelope}
        {validator : Validator}
        (reserved : Reserved crypto policy fault path evidence binding bb010002Sha256 reservation
          built start envelope validator) :
        (∃ binding, load crypto start binding policy = .valid built.preparedState) ∧
        ∃ envelope validator,
          PairingCrypto.derive crypto built.preparedState.psk = .ok (envelope, validator) ∧
          ((run (step crypto) ⟨built, start⟩ events).1.activation.phase = .tls ∨
              (run (step crypto) ⟨built, start⟩ events).1.activation.phase = .complete →
            ProofChain evidence.bb010002 envelope validator
              (run (step crypto) ⟨built, start⟩ events).2) := by
      obtain ⟨stored, derived, initially⟩ := reserved.chain
      exact ⟨stored, envelope, validator, derived, (chained initially).proofChain⟩
    cases construction with
    | newPsk _ _ _ _ _ reserved => exact reservedChain reserved
    | restore _ _ _ _ _ _ _ reserved => exact reservedChain reserved
    | recover state _ _ _ _ _ _ view made => subst made; cases provisions
    | reuse state _ _ _ _ _ view made => subst made; cases provisions
  · intro stored
    cases construction with
    | newPsk _ _ _ _ _ reserved => obtain ⟨view, -, rfl⟩ := reserved.made; cases stored
    | restore _ _ _ _ _ _ _ reserved => obtain ⟨view, -, rfl⟩ := reserved.made; cases stored
    | recover state valid _ _ _ material _ view made => subst made; exact ⟨⟨binding, valid⟩, material⟩
    | reuse state valid _ _ material _ view made => subst made; exact ⟨⟨binding, valid⟩, material⟩
  · rcases disciplined.once with none | ⟨one, -⟩
    · simp [none]
    · exact one.le
  · exact fun terminal later => run_terminal terminal later

/-- A frame of the reader. -/
def exampleReply (control : UInt8) (body : List UInt8) : Event :=
  .handleA0 ((buildFrame control control body).getD [])

/-- The validator of the PSK that is generated. -/
def exampleValidator : List UInt8 :=
  match PairingCrypto.derive .constant (Block.zero 32) with
  | .ok (_, validator) => validator.val
  | .error _ => []

/-- A pairing from its E0 to the promotion. -/
def examplePairing : List Event :=
  [.nextRequest, .outComplete none, exampleReply 0xb0 [0xe0, 0x01], exampleReply 0xe0 [0x00, 0x02],
    .nextRequest, .outComplete none, exampleReply 0xb0 [0xe4, 0x01],
    exampleReply 0xe4 (e4Header dtBb010002 332 ++ exampleBb010002.val),
    .nextRequest, .outComplete none, exampleReply 0xb0 [0xe4, 0x01],
    exampleReply 0xe4 (e4Header dtBb020003 32 ++ exampleValidator),
    .getSecureView, .markTlsAndPromote none]

/-- An activation is constructed, and passes a check. -/
def constructedWith (check : Activation → PathEntry → Bool)
    (constructed : Except GError Activation × PathEntry) : Bool :=
  match constructed with
  | (.ok built, start) => check built start
  | (.error _, _) => false

theorem exists_of_constructedWith {check : Activation → PathEntry → Bool}
    {constructed : Except GError Activation × PathEntry}
    (holds : constructedWith check constructed = true) :
    ∃ built start, constructed = (.ok built, start) ∧ check built start = true := by
  obtain ⟨result, start⟩ := constructed
  cases result with
  | error error => cases holds
  | ok built => exact ⟨built, start, rfl, holds⟩

/-- A run that gets to its end, by one promotion. -/
def isPaired (built : Activation) (start : PathEntry) : Bool :=
  let ran := run (step .constant) ⟨built, start⟩ examplePairing
  ran.1.activation.phase = .complete && (promotions ran.2).length = 1

/-- The first pairing of a reader is driven to its promotion. -/
theorem first_pairing_proof_chain :
    ∃ built start, activationNew .constant (policyForOwner 0 0) (some (Block.zero 32)) none
        (.directory emptyDirectory) exampleEvidence = (.ok built, start) ∧
      (run (step .constant) ⟨built, start⟩ examplePairing).1.activation.phase = .complete ∧
      (promotions (run (step .constant) ⟨built, start⟩ examplePairing).2).length = 1 ∧
      ProvenRun .constant (policyForOwner 0 0) exampleEvidence (.directory emptyDirectory) built start
        (run (step .constant) ⟨built, start⟩ examplePairing).1
        (run (step .constant) ⟨built, start⟩ examplePairing).2 := by
  have paired : constructedWith isPaired (activationNew .constant (policyForOwner 0 0)
      (some (Block.zero 32)) none (.directory emptyDirectory) exampleEvidence) = true := by
    decide +kernel
  obtain ⟨built, start, constructed, ends⟩ := exists_of_constructedWith paired
  simp only [isPaired, Bool.and_eq_true, decide_eq_true_eq] at ends
  exact ⟨built, start, constructed, ends.1, ends.2,
    pairing_proof_chain constructed examplePairing⟩

end Goodix.Pairing
