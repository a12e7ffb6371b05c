import Goodix.Pairing.ProofChain

/-! # One E0 for each reservation

A process that pairs, is killed anywhere and starts again, over whatever directory it
finds.  An E0 leaves it only under the durable PREPARED record of that very frame,
and the newest generation of the directory, which never falls, counts them.
-/

namespace Goodix.Pairing

open Octets A0Protocol SelfState LivePreflight Machines

variable {crypto : Primitives} {policy : Policy}

/-! ## The process -/

/-- The directory and the activation in memory, if there is one. -/
structure Process where
  path : PathEntry
  activation : Option Activation

inductive ProcessEvent where
  | start (evidence : Evidence) (generated : Option Psk) (fault : Option Fault)
  | call (event : Event)
  | crash

/-- An E0 frame that was returned, and the generation of the record it stands on. -/
structure Sent where
  frame : List UInt8
  generation : UInt64

def Observed.e0Frame : Observed → Option (List UInt8)
  | .request phase frame => if phase = .e0 then some frame else none
  | _ => none

/-- The E0 frames an activation returned. -/
def sentBy (activation : Activation) (observed : List Observed) : List Sent :=
  (observed.filterMap Observed.e0Frame).map
    fun frame => ⟨frame, activation.preparedState.record.generation⟩

def processStep (crypto : Primitives) (policy : Policy) (process : Process) :
    ProcessEvent → Process × List Sent
  | .start evidence generated fault =>
    match process.activation with
    -- a second activation is refused as long as there is one
    | some _ => (process, [])
    | none =>
      match activationNew crypto policy generated fault process.path evidence with
      | (.error _, path) => (⟨path, none⟩, [])
      | (.ok activation, path) => (⟨path, some activation⟩, [])
  | .call event =>
    match process.activation with
    | none => (process, [])
    | some activation =>
      let (after, observed) := step crypto ⟨activation, process.path⟩ event
      (⟨after.path, some after.activation⟩, sentBy activation observed)
  | .crash => ({ process with activation := none }, [])

/-- The newest valid slot of a path. -/
def newestState (crypto : Primitives) (policy : Policy) (path : PathEntry) : Option State :=
  TwoSlot.newest State.generation (path.slots crypto policy)

/-! ## What an E0 stands on -/

/-- The newest record is the PREPARED record of what a nested write would send. -/
structure Reserves (crypto : Primitives) (policy : Policy) (path : PathEntry) (state : State)
    (bb010002 : Block Bb010002.length) (envelope : PairingCrypto.Envelope) : Prop where
  newest : newestState crypto policy path = some state
  prepared : state.record.phase = .prepared
  attempted : state.record.e0Attempted = true
  present : state.record.bb010002Sha256Present = true
  bb010002 : crypto.sha256 bb010002.val = some state.record.bb010002Sha256
  derived : PairingCrypto.derive crypto state.psk = .ok (envelope, state.record.expectedValidator)
  validator : crypto.sha256 envelope.val = some state.record.expectedValidator

theorem derive_validator {psk : Psk} {envelope : PairingCrypto.Envelope} {validator : Validator}
    (derived : PairingCrypto.derive crypto psk = .ok (envelope, validator)) :
    crypto.sha256 envelope.val = some validator := by
  unfold PairingCrypto.derive at derived
  split at derived
  · cases derived
  rename_i result profile
  cases derived
  simp only [PairingCrypto.deriveProfile, Option.bind_eq_bind, Option.bind_eq_some_iff,
    Option.pure_def, Option.some.injEq, Prod.mk.injEq] at profile
  obtain ⟨roundOne, -, roundTwo, -, digest, -, sealed, -, outer, -, hash, hashed, rfl, rfl⟩ := profile
  exact hashed

/-- What is true of the activation in memory as long as its E0 is not finished. -/
def Reserving (crypto : Primitives) (policy : Policy) (path : PathEntry) (log : List Sent)
    (activation : Activation) : Prop :=
  activation.phase = .e0 → ∃ provision, activation.provision = some provision ∧
    Reserves crypto policy path activation.preparedState provision.bb010002 provision.envelope ∧
    (provision.begun = false →
      ∀ sent ∈ log, sent.generation.toNat < activation.preparedState.generation)

structure ProcessInvariant (crypto : Primitives) (policy : Policy) (log : List Sent)
    (process : Process) : Prop where
  ordered : (log.map (·.generation.toNat)).Pairwise (· < ·)
  bounded : ∀ sent ∈ log, ∃ state, newestState crypto policy process.path = some state ∧
    sent.generation.toNat ≤ state.generation
  policyKept : ∀ activation, process.activation = some activation →
    activation.statePolicy = policy
  reserving : ∀ activation, process.activation = some activation →
    Reserving crypto policy process.path log activation

theorem processInvariant_new (path : PathEntry) :
    ProcessInvariant crypto policy [] ⟨path, none⟩ :=
  ⟨.nil, by simp, by simp, by simp⟩

/-! ## Construction -/

section Construct

variable {fault : Option Fault} {path start : PathEntry} {evidence : Evidence} {log : List Sent}
  {binding : Binding} {bb010002Sha256 : Digest} {activation : Activation}

/-- Nothing of a reservation is lost in its receipt. -/
theorem storedState_reservation (binding : Binding) (reservation : Reservation)
    (validator : Validator) (evidence : Evidence) (bb010002Sha256 : Digest) (psk : Psk) :
    storedState binding (reservation.record validator evidence bb010002Sha256) psk =
      ⟨binding, reservation.record validator evidence bb010002Sha256, psk⟩ := by
  simp [storedState, Record.canonical, reservationRecord]

/-- A reservation has made its record the newest, above everything there was. -/
theorem Reserved.reserves {reservation : Reservation} {envelope : PairingCrypto.Envelope}
    {validator : Validator}
    (digest : crypto.sha256 evidence.bb010002.val = some bb010002Sha256)
    (reserved : Reserved crypto policy fault path evidence binding bb010002Sha256 reservation
      activation start envelope validator) :
    activation.statePolicy = policy ∧
    (∃ provision, activation.provision = some provision ∧
      Reserves crypto policy start activation.preparedState provision.bb010002
        provision.envelope) ∧
    ∀ state, newestState crypto policy path = some state →
      state.generation < activation.preparedState.generation := by
  obtain ⟨newest, below, -⟩ := newest_written reserved.wrote
  have derived := reserved.derived
  obtain ⟨view, -, rfl⟩ := reserved.made
  have stored := storedState_reservation binding reservation validator evidence bb010002Sha256
    reservation.psk
  refine ⟨rfl, ⟨_, rfl, ?_⟩, ?_⟩
  · change Reserves crypto policy start (storedState binding _ reservation.psk) evidence.bb010002
      envelope
    rw [stored] at newest ⊢
    exact ⟨newest, rfl, rfl, rfl, digest, derived, derive_validator derived⟩
  · intro state selected
    obtain ⟨⟨index, stored⟩, -⟩ := TwoSlot.newest_eq_some _ selected
    have older := below index state stored
    simpa [Activation.make] using older

/-- The newest state of a path after a construction is at least as new as before. -/
theorem newest_activationNew_le (generated : Option Psk) (fault : Option Fault)
    (evidence : Evidence) {state : State}
    (newest : newestState crypto policy path = some state) :
    ∃ later, newestState crypto policy
        (activationNew crypto policy generated fault path evidence).2 = some later ∧
      state.generation ≤ later.generation := by
  rcases activationNew_path crypto policy generated fault path evidence with
    unchanged | ⟨binding, record, psk, written⟩
  · exact ⟨state, by rw [unchanged, newest], le_rfl⟩
  · rw [written]
    exact newest_write_le crypto policy fault path binding record psk newest

end Construct

/-! ## Calls -/

section Call

variable {activation : Activation} {path : PathEntry}

theorem maybeAdvance_e0_provision (activation : Activation) (phase : activation.phase = .e0) :
    activation.maybeAdvance.1.provision = activation.provision := by
  cases pending : activation.outPending with
  | true => rw [maybeAdvance_pending pending]
  | false =>
    by_cases accepted : activation.provisionTerminal = .accepted
    · rw [maybeAdvance_e0_accepted phase pending accepted]
      rfl
    · rw [maybeAdvance_e0_waiting phase accepted]

/-- The blocks of a nested write do not change, and once it has begun it stays begun. -/
def SameWrite (before after : Provision) : Prop :=
  after.bb010002 = before.bb010002 ∧ after.envelope = before.envelope ∧
    (after.begun = false → before.begun = false)

theorem E0Case.sameWrite {provision : Provision} {after : Activation} {observed : List Observed}
    (phase : activation.phase = .e0) (holds : activation.provision = some provision)
    (move : E0Case activation provision after observed) (e0 : after.phase = .e0) :
    ∃ later, after.provision = some later ∧ SameWrite provision later := by
  cases move with
  | idle => exact ⟨provision, holds, rfl, rfl, id⟩
  | failed terminal =>
    rw [e0] at terminal
    cases terminal
  | begun frame built fresh free => exact ⟨_, rfl, rfl, rfl, fun begun => by cases begun⟩
  | completed pending =>
    exact ⟨provision,
      (maybeAdvance_e0_provision { activation with outPending := false } phase).trans holds, rfl, rfl,
      id⟩
  | acknowledged => exact ⟨_, maybeAdvance_e0_provision _ phase, rfl, rfl, id⟩
  | answered => exact ⟨_, maybeAdvance_e0_provision _ phase, rfl, rfl, id⟩

/-- An E0 is returned once, by a write that had not begun. -/
theorem E0Case.frames {provision : Provision} {after : Activation} {observed : List Observed}
    (move : E0Case activation provision after observed) :
    observed.filterMap Observed.e0Frame = [] ∨
    ∃ frame, observed.filterMap Observed.e0Frame = [frame] ∧
      buildFrame 0xe0 0xe0 (e0Body provision.bb010002 provision.envelope) = some frame ∧
      provision.begun = false ∧
      after.provision = some { provision with begun := true } := by
  cases move with
  | begun frame built fresh free => exact .inr ⟨frame, rfl, built, fresh.1, rfl⟩
  | idle => exact .inl rfl
  | failed => exact .inl rfl
  | completed => exact .inl rfl
  | acknowledged => exact .inl rfl
  | answered => exact .inl rfl

theorem ReadbackCase.frames {after : Activation} {observed : List Observed}
    (reads : activation.phase.readsBack) (move : ReadbackCase activation after observed) :
    observed.filterMap Observed.e0Frame = [] := by
  have notE0 : activation.phase ≠ .e0 := by
    rcases reads with phase | phase <;> rw [phase] <;> decide
  cases move with
  | requested frame => simp [Observed.e0Frame, notE0]
  | idle => rfl
  | failed => rfl
  | completed => rfl
  | acknowledged => rfl
  | answeredBb010002 => rfl
  | answeredValidator => rfl

theorem LateCase.frames {after : System} {observed : List Observed}
    (move : LateCase crypto activation path after observed) :
    observed.filterMap Observed.e0Frame = [] := by
  cases move <;> rfl

/-- An activation comes from the E0 phase only, and no call changes the path there. -/
theorem StepCase.before_e0 {after : System} {observed : List Observed}
    (move : StepCase crypto activation path after observed) (e0 : after.activation.phase = .e0) :
    ∃ provision, activation.phase = .e0 ∧ activation.provision = some provision ∧
      after.path = path ∧ E0Case activation provision after.activation observed := by
  cases move with
  | e0 provision phase holds move => exact ⟨provision, phase, holds, rfl, move⟩
  | readback reads move =>
    have notE0 : activation.phase ≠ .e0 := by
      rcases reads with phase | phase <;> rw [phase] <;> decide
    cases move with
    | idle => exact absurd e0 notE0
    | failed terminal => rw [e0] at terminal; cases terminal
    | requested => exact absurd e0 notE0
    | completed advance => exact absurd e0 (advance.phase_ne_e0 reads)
    | acknowledged => exact absurd e0 notE0
    | answeredBb010002 readback phase advance => exact absurd e0 (advance.phase_ne_e0 reads)
    | answeredValidator readback phase advance => exact absurd e0 (advance.phase_ne_e0 reads)
  | late phase move =>
    have notE0 : activation.phase ≠ .e0 := by
      rcases phase with phase | phase <;> rw [phase] <;> decide
    cases move with
    | idle => exact absurd e0 notE0
    | failed terminal => rw [e0] at terminal; cases terminal
    | viewed => exact absurd e0 notE0
    | reused _ _ _ complete => rw [e0] at complete; cases complete
    | promoted _ _ _ _ complete => rw [e0] at complete; cases complete
    | promotionFailed _ _ _ _ terminal => rw [e0] at terminal; cases terminal
  | terminal phase quiet => rw [e0] at phase; cases phase

theorem StepCase.frames {after : System} {observed : List Observed}
    (move : StepCase crypto activation path after observed) :
    observed.filterMap Observed.e0Frame = [] ∨
    ∃ provision frame, activation.phase = .e0 ∧ activation.provision = some provision ∧
      observed.filterMap Observed.e0Frame = [frame] ∧
      buildFrame 0xe0 0xe0 (e0Body provision.bb010002 provision.envelope) = some frame ∧
      provision.begun = false ∧ after.path = path ∧
      after.activation.provision = some { provision with begun := true } := by
  cases move with
  | e0 provision phase holds move =>
    rcases move.frames with none | ⟨frame, one, built, fresh, begun⟩
    · exact .inl none
    · exact .inr ⟨provision, frame, phase, holds, one, built, fresh, rfl, begun⟩
  | readback reads move => exact .inl (move.frames reads)
  | late phase move => exact .inl move.frames
  | terminal phase quiet => left; rcases quiet with rfl | rfl <;> rfl

/-- A promotion is one write or none. -/
theorem promoteActive_path (crypto : Primitives) (policy : Policy) (fault : Option Fault)
    (path : PathEntry) (prepared : State) :
    (promoteActive crypto policy fault path prepared).2 = path ∨
    (promoteActive crypto policy fault path prepared).2 =
      (writeState crypto policy fault path prepared.binding prepared.record.promoted
        prepared.psk).2 := by
  unfold promoteActive
  split
  · exact .inl rfl
  · exact .inr rfl

/-- A call writes nothing, or the record promoted from the prepared one. -/
theorem StepCase.writes {after : System} {observed : List Observed}
    (move : StepCase crypto activation path after observed) :
    after.path = path ∨ ∃ fault, after.path =
      (writeState crypto activation.statePolicy fault path activation.preparedState.binding
        activation.preparedState.record.promoted activation.preparedState.psk).2 := by
  have promotes (fault : Option Fault) : (promoteActive crypto activation.statePolicy fault path
        activation.preparedState).2 = path ∨
      ∃ other, (promoteActive crypto activation.statePolicy fault path
        activation.preparedState).2 =
          (writeState crypto activation.statePolicy other path activation.preparedState.binding
            activation.preparedState.record.promoted activation.preparedState.psk).2 := by
    rcases promoteActive_path crypto activation.statePolicy fault path activation.preparedState with
      unchanged | written
    · exact .inl unchanged
    · exact .inr ⟨fault, written⟩
  cases move with
  | e0 => exact .inl rfl
  | readback => exact .inl rfl
  | late phase move =>
    cases move with
    | idle => exact .inl rfl
    | failed => exact .inl rfl
    | viewed => exact .inl rfl
    | reused => exact .inl rfl
    | promoted fault => exact promotes fault
    | promotionFailed fault => exact promotes fault
  | terminal => exact .inl rfl

end Call

/-! ## The invariant -/

/-- A frame is backed by the newest record of the directory. -/
def Backed (crypto : Primitives) (policy : Policy) (path : PathEntry) (sent : Sent) : Prop :=
  ∃ state bb010002 envelope, Reserves crypto policy path state bb010002 envelope ∧
    sent.generation = state.record.generation ∧
    buildFrame 0xe0 0xe0 (e0Body bb010002 envelope) = some sent.frame

section Invariant

variable {log : List Sent} {path : PathEntry} {activation : Activation}

theorem bounded_path {after : PathEntry}
    (grows : ∀ state, newestState crypto policy path = some state →
      ∃ later, newestState crypto policy after = some later ∧ state.generation ≤ later.generation)
    (bounded : ∀ sent ∈ log, ∃ state, newestState crypto policy path = some state ∧
      sent.generation.toNat ≤ state.generation) :
    ∀ sent ∈ log, ∃ state, newestState crypto policy after = some state ∧
      sent.generation.toNat ≤ state.generation := by
  intro sent member
  obtain ⟨state, newest, bound⟩ := bounded sent member
  obtain ⟨later, newestLater, grown⟩ := grows state newest
  exact ⟨later, newestLater, bound.trans grown⟩

theorem Construction.reserving {generated : Option Psk} {fault : Option Fault}
    {evidence : Evidence} {binding : Binding} {bb010002Sha256 : Digest} {start : PathEntry}
    (digest : crypto.sha256 evidence.bb010002.val = some bb010002Sha256)
    (construction : Construction crypto policy generated fault path evidence binding
      bb010002Sha256 activation start)
    (bounded : ∀ sent ∈ log, ∃ state, newestState crypto policy path = some state ∧
      sent.generation.toNat ≤ state.generation) :
    activation.statePolicy = policy ∧ Reserving crypto policy start log activation := by
  have reserves {reservation : Reservation} {envelope : PairingCrypto.Envelope}
      {validator : Validator}
      (reserved : Reserved crypto policy fault path evidence binding bb010002Sha256 reservation
        activation start envelope validator) :
      activation.statePolicy = policy ∧ Reserving crypto policy start log activation := by
    obtain ⟨samePolicy, ⟨provision, holds, reserves⟩, above⟩ := reserved.reserves digest
    refine ⟨samePolicy, fun _ => ⟨provision, holds, reserves, ?_⟩⟩
    intro _ sent member
    obtain ⟨state, newest, bound⟩ := bounded sent member
    exact bound.trans_lt (above state newest)
  cases construction with
  | newPsk _ _ _ _ _ reserved => exact reserves reserved
  | restore _ _ _ _ _ _ _ reserved => exact reserves reserved
  | recover state _ _ _ _ _ _ view made =>
    subst made
    exact ⟨rfl, fun e0 => by cases e0⟩
  | reuse state _ _ _ _ _ view made =>
    subst made
    exact ⟨rfl, fun e0 => by cases e0⟩

theorem invariant_start (invariant : ProcessInvariant crypto policy log ⟨path, none⟩)
    (evidence : Evidence) (generated : Option Psk) (fault : Option Fault) :
    ProcessInvariant crypto policy log
      (processStep crypto policy ⟨path, none⟩ (.start evidence generated fault)).1 := by
  have grows (state : State) (newest : newestState crypto policy path = some state) :=
    newest_activationNew_le generated fault evidence newest
  simp only [processStep]
  cases constructed : activationNew crypto policy generated fault path evidence with
  | mk result start =>
    rw [constructed] at grows
    have bounded := bounded_path grows invariant.bounded
    cases result with
    | error error => exact ⟨invariant.ordered, bounded, by simp, by simp⟩
    | ok built =>
      obtain ⟨-, binding, bb010002Sha256, bound, construction⟩ := activationNew_ok constructed
      obtain ⟨samePolicy, reserving⟩ :=
        construction.reserving (evidenceBinding_digest bound) invariant.bounded
      refine ⟨invariant.ordered, bounded, ?_, ?_⟩
      · rintro activation ⟨⟩
        exact samePolicy
      · rintro activation ⟨⟩
        exact reserving

/-- A call sends nothing, or the one frame that the newest record was written for. -/
theorem call_sent (reserving : Reserving crypto policy path log activation)
    {after : System} {observed : List Observed}
    (move : StepCase crypto activation path after observed) :
    sentBy activation observed = [] ∨
    ∃ sent, sentBy activation observed = [sent] ∧ Backed crypto policy path sent ∧
      sent.generation = activation.preparedState.record.generation ∧
      (∀ earlier ∈ log, earlier.generation.toNat < sent.generation.toNat) ∧
      after.path = path ∧
      newestState crypto policy path = some activation.preparedState ∧
      ∃ provision, after.activation.provision = some provision ∧ provision.begun = true := by
  rcases move.frames with none | ⟨provision, frame, e0, holds, one, built, fresh, samePath, begun⟩
  · left
    rw [sentBy, none, List.map_nil]
  · obtain ⟨reserved, same, reserves, newer⟩ := reserving e0
    rw [holds, Option.some.injEq] at same
    subst same
    refine .inr ⟨⟨frame, activation.preparedState.record.generation⟩, ?_, ?_, rfl, newer fresh,
      samePath, reserves.newest, _, begun, rfl⟩
    · rw [sentBy, one, List.map_singleton]
    · exact ⟨_, _, _, reserves, rfl, built⟩

theorem invariant_call
    (invariant : ProcessInvariant crypto policy log ⟨path, some activation⟩) (event : Event) :
    ProcessInvariant crypto policy
      (log ++ (processStep crypto policy ⟨path, some activation⟩ (.call event)).2)
      (processStep crypto policy ⟨path, some activation⟩ (.call event)).1 := by
  have reserving := invariant.reserving activation rfl
  have samePolicy := invariant.policyKept activation rfl
  have canProvision : activation.CanProvision := fun e0 =>
    ⟨_, (reserving e0).choose_spec.1⟩
  have move := step_case crypto path canProvision event
  have same := step_same crypto ⟨activation, path⟩ event
  simp only [processStep]
  generalize (step crypto ⟨activation, path⟩ event).1 = after at move same ⊢
  generalize (step crypto ⟨activation, path⟩ event).2 = observed at move ⊢
  have grows : ∀ state, newestState crypto policy path = some state →
      ∃ later, newestState crypto policy after.path = some later ∧
        state.generation ≤ later.generation := by
    intro state newest
    rcases move.writes with unchanged | ⟨fault, written⟩
    · exact ⟨state, by rw [unchanged, newest], le_rfl⟩
    · rw [written, samePolicy]
      exact newest_write_le crypto policy fault path _ _ _ newest
  have bounded := bounded_path grows invariant.bounded
  have sends := call_sent reserving move
  refine ⟨?_, ?_, ?_, ?_⟩
  · rcases sends with none | ⟨sent, one, -, -, newer, -⟩
    · rw [none, List.append_nil]
      exact invariant.ordered
    · rw [one, List.map_append, List.pairwise_append]
      refine ⟨invariant.ordered, List.pairwise_singleton _ _, ?_⟩
      intro earlier member last lastMember
      obtain ⟨source, logged, rfl⟩ := List.mem_map.mp member
      rw [List.map_singleton, List.mem_singleton] at lastMember
      rw [lastMember]
      exact newer source logged
  · intro each member
    rcases List.mem_append.mp member with earlier | now
    · exact bounded each earlier
    rcases sends with none | ⟨sent, one, -, generation, -, samePath, newest, -⟩
    · rw [none] at now
      cases now
    · rw [one, List.mem_singleton] at now
      refine ⟨activation.preparedState, by rw [samePath, newest], ?_⟩
      rw [now, generation]
      exact le_rfl
  · rintro reached ⟨⟩
    exact same.2.1.trans samePolicy
  · rintro reached ⟨⟩ e0
    obtain ⟨provision, phase, holds, samePath, e0Move⟩ := move.before_e0 e0
    obtain ⟨reserved, sameProvision, reserves, newer⟩ := reserving phase
    rw [holds, Option.some.injEq] at sameProvision
    subst sameProvision
    obtain ⟨later, laterHolds, sameBb010002, sameEnvelope, stillFresh⟩ :=
      e0Move.sameWrite phase holds e0
    refine ⟨later, laterHolds, ?_, ?_⟩
    · rw [same.2.2.1, sameBb010002, sameEnvelope, samePath]
      exact reserves
    · intro fresh each member
      rw [same.2.2.1]
      rcases List.mem_append.mp member with earlier | now
      · exact newer (stillFresh fresh) each earlier
      -- a call that sends leaves the write begun
      rcases sends with none | ⟨sent, one, -, -, -, -, -, begunProvision, begunHolds, begun⟩
      · rw [none] at now
        cases now
      · rw [laterHolds, Option.some.injEq] at begunHolds
        rw [begunHolds, begun] at fresh
        cases fresh

/-- The step lemma of the process. -/
theorem processInvariant_step (log : List Sent) (process : Process) (event : ProcessEvent)
    (invariant : ProcessInvariant crypto policy log process) :
    ProcessInvariant crypto policy (log ++ (processStep crypto policy process event).2)
      (processStep crypto policy process event).1 := by
  obtain ⟨path, activation⟩ := process
  cases event with
  | start evidence generated fault =>
    cases activation with
    | some activation =>
      simp only [processStep, List.append_nil]
      exact invariant
    | none =>
      have quiet : (processStep crypto policy ⟨path, none⟩ (.start evidence generated fault)).2 =
          [] := by
        simp only [processStep]
        split <;> rfl
      rw [quiet, List.append_nil]
      exact invariant_start invariant evidence generated fault
  | call event =>
    cases activation with
    | none =>
      simp only [processStep, List.append_nil]
      exact invariant
    | some activation => exact invariant_call invariant event
  | crash =>
    simp only [processStep, List.append_nil]
    exact ⟨invariant.ordered, invariant.bounded, by simp, by simp⟩

theorem processInvariant_run (crypto : Primitives) (policy : Policy) (path : PathEntry) (events : List ProcessEvent) :
    ProcessInvariant crypto policy (run (processStep crypto policy) ⟨path, none⟩ events).2
      (run (processStep crypto policy) ⟨path, none⟩ events).1 :=
  run_invariant (processStep crypto policy) (ProcessInvariant crypto policy)
    (processInvariant_new path) processInvariant_step events

end Invariant

/-! ## After a reservation -/

/-- One of `events` is a restart that found an ACTIVE record newest, whose validator the reader no
longer has. -/
def Reauthorised (crypto : Primitives) (policy : Policy) (process : Process) (prepared : State)
    (events : List ProcessEvent) : Prop :=
  ∃ before evidence generated fault after active,
    events = before ++ .start evidence generated fault :: after ∧
    newestState crypto policy (run (processStep crypto policy) process before).1.path =
      some active ∧
    active.record.phase = .active ∧ active.record.expectedValidator ≠ evidence.validator ∧
    prepared.generation ≤ active.generation ∧
    (TwoSlot.Distinct State.generation (process.path.slots crypto policy) →
      prepared.generation < active.generation)

theorem Reauthorised.concat {process : Process} {prepared : State} {events : List ProcessEvent}
    (event : ProcessEvent) (earlier : Reauthorised crypto policy process prepared events) :
    Reauthorised crypto policy process prepared (events ++ [event]) := by
  obtain ⟨before, evidence, generated, fault, after, active, parts, rest⟩ := earlier
  refine ⟨before, evidence, generated, fault, after ++ [event], active, ?_, rest⟩
  rw [parts, List.append_assoc]
  rfl

/-- The newest state of a path against one that was newest before; `distinct` says whether two
slots of the earlier path could share a generation. -/
def NewerThan (crypto : Primitives) (policy : Policy) (prepared : State) (distinct : Prop)
    (path : PathEntry) : Prop :=
  ∃ state, newestState crypto policy path = some state ∧
    prepared.generation ≤ state.generation ∧
    (distinct → TwoSlot.Distinct State.generation (path.slots crypto policy) ∧
      (state = prepared ∨ prepared.generation < state.generation))

section Later

variable {prepared : State} {distinct : Prop} {path : PathEntry}

theorem NewerThan.write (newer : NewerThan crypto policy prepared distinct path)
    (fault : Option Fault) (binding : Binding) (record : Record) (psk : Psk) :
    NewerThan crypto policy prepared distinct
      (writeState crypto policy fault path binding record psk).2 := by
  obtain ⟨state, newest, bound, separate⟩ := newer
  obtain ⟨later, newestLater, grown⟩ :=
    newest_write_le crypto policy fault path binding record psk newest
  refine ⟨later, newestLater, bound.trans grown, ?_⟩
  intro holds
  obtain ⟨distinctSlots, order⟩ := separate holds
  obtain ⟨distinctAfter, register⟩ :=
    write_registerStep crypto policy fault path binding record psk distinctSlots
  refine ⟨distinctAfter, ?_⟩
  have before : TwoSlot.newest State.generation (path.slots crypto policy) = some state := newest
  rw [before, newestLater] at register
  cases register with
  | keep => exact order
  | publish _ newer =>
    right
    exact bound.trans_lt (newer state rfl)

/-- An ACTIVE record that is newest later is not the PREPARED one that was. -/
theorem NewerThan.active (newer : NewerThan crypto policy prepared distinct path)
    (phase : prepared.record.phase = .prepared) {active : State}
    (newest : newestState crypto policy path = some active)
    (activePhase : active.record.phase = .active) :
    prepared.generation ≤ active.generation ∧
      (distinct → prepared.generation < active.generation) := by
  obtain ⟨state, sameNewest, bound, separate⟩ := newer
  rw [newest, Option.some.injEq] at sameNewest
  subst sameNewest
  refine ⟨bound, ?_⟩
  intro holds
  rcases (separate holds).2 with same | newer
  · rw [same, phase] at activePhase
    cases activePhase
  · exact newer

/-- What holds from the moment on at which a PREPARED record is the newest. -/
structure SinceReserved (crypto : Primitives) (policy : Policy) (process : Process)
    (prepared : State) (events : List ProcessEvent) (log : List Sent) (current : Process) :
    Prop where
  newer : NewerThan crypto policy prepared
    (TwoSlot.Distinct State.generation (process.path.slots crypto policy)) current.path
  sent : ∀ sent ∈ log, sent.generation = prepared.record.generation ∨
    Reauthorised crypto policy process prepared events
  alive : ∀ activation, current.activation = some activation → activation.phase = .e0 →
    activation.preparedState.record.generation = prepared.record.generation ∨
      Reauthorised crypto policy process prepared events

theorem sinceReserved_start {process current : Process} {events : List ProcessEvent}
    {log : List Sent} (phase : prepared.record.phase = .prepared)
    (reached : (run (processStep crypto policy) process events).1 = current)
    (since : SinceReserved crypto policy process prepared events log current)
    (free : current.activation = none) (evidence : Evidence) (generated : Option Psk)
    (fault : Option Fault) :
    SinceReserved crypto policy process prepared (events ++ [.start evidence generated fault]) log
      (processStep crypto policy current (.start evidence generated fault)).1 := by
  have later : ∀ sent ∈ log, sent.generation = prepared.record.generation ∨
      Reauthorised crypto policy process prepared
        (events ++ [.start evidence generated fault]) := fun sent member =>
    (since.sent sent member).imp_right (Reauthorised.concat _)
  have newerAfter : NewerThan crypto policy prepared
      (TwoSlot.Distinct State.generation (process.path.slots crypto policy))
      (activationNew crypto policy generated fault current.path evidence).2 := by
    rcases activationNew_path crypto policy generated fault current.path evidence with
      unchanged | ⟨binding, record, psk, written⟩
    · rw [unchanged]
      exact since.newer
    · rw [written]
      exact since.newer.write fault binding record psk
  obtain ⟨path, activation⟩ := current
  subst free
  simp only [processStep]
  cases constructed : activationNew crypto policy generated fault path evidence with
  | mk result start =>
    rw [constructed] at newerAfter
    cases result with
    | error error => exact ⟨newerAfter, later, by simp⟩
    | ok built =>
      refine ⟨newerAfter, later, ?_⟩
      rintro activation ⟨⟩ e0
      obtain ⟨-, binding, bb010002Sha256, -, construction⟩ := activationNew_ok constructed
      cases construction with
      | newPsk _ _ absent =>
        -- a store that has a PREPARED record never loads as absent again
        obtain ⟨state, newest, -⟩ := since.newer
        rw [newestState, load_absent_newest absent] at newest
        cases newest
      | restore state stored active replaced =>
        have newest : newestState crypto policy path = some state := load_valid_newest stored
        obtain ⟨bound, strict⟩ := since.newer.active phase newest active
        right
        refine ⟨events, evidence, generated, fault, [], state, rfl, ?_, active, replaced, bound,
          strict⟩
        rw [reached]
        exact newest
      | recover state _ _ _ _ _ _ view made => subst made; cases e0
      | reuse state _ _ _ _ _ view made => subst made; cases e0

theorem sinceReserved_call {process : Process} {activation : Activation}
    {events : List ProcessEvent} {log all : List Sent}
    (invariant : ProcessInvariant crypto policy all ⟨path, some activation⟩)
    (since : SinceReserved crypto policy process prepared events log ⟨path, some activation⟩)
    (event : Event) :
    SinceReserved crypto policy process prepared (events ++ [.call event])
      (log ++ (processStep crypto policy ⟨path, some activation⟩ (.call event)).2)
      (processStep crypto policy ⟨path, some activation⟩ (.call event)).1 := by
  have reserving := invariant.reserving activation rfl
  have samePolicy := invariant.policyKept activation rfl
  have canProvision : activation.CanProvision := fun e0 =>
    ⟨_, (reserving e0).choose_spec.1⟩
  have move := step_case crypto path canProvision event
  have same := step_same crypto ⟨activation, path⟩ event
  simp only [processStep]
  generalize (step crypto ⟨activation, path⟩ event).1 = after at move same ⊢
  generalize (step crypto ⟨activation, path⟩ event).2 = observed at move ⊢
  refine ⟨?_, ?_, ?_⟩
  · rcases move.writes with unchanged | ⟨fault, written⟩
    · rw [unchanged]
      exact since.newer
    · rw [written, samePolicy]
      exact since.newer.write fault _ _ _
  · intro each member
    rcases List.mem_append.mp member with earlier | now
    · exact (since.sent each earlier).imp_right (Reauthorised.concat _)
    rcases move.frames with none | ⟨provision, frame, e0, -, one, -⟩
    · rw [sentBy, none] at now
      cases now
    · rw [sentBy, one, List.map_singleton, List.mem_singleton] at now
      rw [now]
      exact (since.alive activation rfl e0).imp_right (Reauthorised.concat _)
  · rintro reached ⟨⟩ e0
    obtain ⟨-, phase, -⟩ := move.before_e0 e0
    rw [same.2.2.1]
    exact (since.alive activation rfl phase).imp_right (Reauthorised.concat _)

/-- The run lemma: from a durable PREPARED record on, another E0 needs a restart that finds an
ACTIVE record the reader does not fit. -/
theorem sinceReserved_run {process : Process} {log : List Sent}
    (invariant : ProcessInvariant crypto policy log process)
    (newest : newestState crypto policy process.path = some prepared)
    (phase : prepared.record.phase = .prepared) (later : List ProcessEvent) :
    SinceReserved crypto policy process prepared later
      (run (processStep crypto policy) process later).2
      (run (processStep crypto policy) process later).1 := by
  induction later using List.reverseRecOn with
  | nil =>
    refine ⟨⟨prepared, newest, le_rfl, fun distinct => ⟨distinct, .inl rfl⟩⟩, by simp [run], ?_⟩
    intro activation alive e0
    obtain ⟨provision, -, reserves, -⟩ := invariant.reserving activation alive e0
    have same := reserves.newest.symm.trans newest
    rw [Option.some.injEq] at same
    exact .inl (by rw [same])
  | append_singleton events event ih =>
    have current : ProcessInvariant crypto policy
        (log ++ (run (processStep crypto policy) process events).2)
        (run (processStep crypto policy) process events).1 :=
      run_invariant (processStep crypto policy)
        (fun sent process => ProcessInvariant crypto policy (log ++ sent) process)
        (by rw [List.append_nil]; exact invariant)
        (fun sent process event kept => by
          rw [← List.append_assoc]
          exact processInvariant_step _ process event kept) events
    rw [run_concat]
    cases reached : (run (processStep crypto policy) process events).1 with
    | mk path activation =>
      rw [reached] at current ih
      cases event with
      | start evidence generated fault =>
        cases activation with
        | some activation =>
          simp only [processStep, List.append_nil]
          exact ⟨ih.newer, fun sent member => (ih.sent sent member).imp_right
            (Reauthorised.concat _), fun activation alive e0 =>
              (ih.alive activation alive e0).imp_right (Reauthorised.concat _)⟩
        | none =>
          have quiet :
              (processStep crypto policy ⟨path, none⟩ (.start evidence generated fault)).2 = [] := by
            simp only [processStep]
            split <;> rfl
          rw [quiet, List.append_nil]
          exact sinceReserved_start phase reached ih rfl evidence generated fault
      | call event =>
        cases activation with
        | some activation => exact sinceReserved_call current ih event
        | none =>
          simp only [processStep, List.append_nil]
          exact ⟨ih.newer, fun sent member => (ih.sent sent member).imp_right
            (Reauthorised.concat _), by simp⟩
      | crash =>
        simp only [processStep, List.append_nil]
        exact ⟨ih.newer, fun sent member => (ih.sent sent member).imp_right
          (Reauthorised.concat _), by simp⟩

end Later

/-! ## At most one E0 for each reservation -/

theorem backed_step {log : List Sent} {process : Process} {event : ProcessEvent} {sent : Sent}
    (invariant : ProcessInvariant crypto policy log process)
    (returned : sent ∈ (processStep crypto policy process event).2) :
    Backed crypto policy process.path sent := by
  obtain ⟨path, activation⟩ := process
  cases event with
  | start evidence generated fault =>
    have quiet : (processStep crypto policy ⟨path, activation⟩
        (.start evidence generated fault)).2 = [] := by
      simp only [processStep]
      split
      · rfl
      · split <;> rfl
    rw [quiet] at returned
    cases returned
  | crash => cases returned
  | call event =>
    cases activation with
    | none => cases returned
    | some activation =>
      have reserving := invariant.reserving activation rfl
      have canProvision : activation.CanProvision := fun e0 =>
        ⟨_, (reserving e0).choose_spec.1⟩
      have move := step_case crypto path canProvision event
      rcases call_sent reserving move with none | ⟨one, sends, backed, -⟩
      · simp only [processStep] at returned
        rw [none] at returned
        cases returned
      · simp only [processStep] at returned
        rw [sends, List.mem_singleton] at returned
        rw [returned]
        exact backed

/-- **One E0 for each reservation.**  From whatever directory, through any calls, crashes and
restarts: an E0 is only returned under the newest, PREPARED record of its very frame, no
generation gives a second one, and from a PREPARED record on another E0 needs a restart that finds
an ACTIVE record newest and the reader with a different validator. -/
theorem one_e0_per_reservation (crypto : Primitives) (policy : Policy) (path : PathEntry)
    (events : List ProcessEvent) :
    let reached := run (processStep crypto policy) ⟨path, none⟩ events
    (∀ event sent, sent ∈ (processStep crypto policy reached.1 event).2 →
      Backed crypto policy reached.1.path sent) ∧
    (reached.2.map (·.generation)).Nodup ∧
    ∀ prepared, newestState crypto policy reached.1.path = some prepared →
      prepared.record.phase = .prepared → ∀ later sent,
        sent ∈ (run (processStep crypto policy) reached.1 later).2 →
        sent.generation = prepared.record.generation ∨
          Reauthorised crypto policy reached.1 prepared later := by
  intro reached
  have invariant := processInvariant_run crypto policy path events
  refine ⟨fun event sent returned => backed_step invariant returned, ?_, ?_⟩
  · have apart : ((reached.2.map (·.generation)).map UInt64.toNat).Nodup := by
      rw [List.map_map]
      exact invariant.ordered.imp fun less => less.ne
    exact apart.of_map _
  · intro prepared newest phase later
    exact (sinceReserved_run invariant newest phase later).sent

/-- A first pairing sends its E0 once, however often a request is asked for. -/
example : (run (processStep .constant (policyForOwner 0 0)) ⟨.directory emptyDirectory, none⟩
    [.start exampleEvidence (some (Block.zero 32)) none, .call .nextRequest,
      .call .nextRequest]).2.length = 1 := by
  decide +kernel

end Goodix.Pairing
