import Goodix.Pairing.Activation
import Goodix.SelfState.WriteOutcome

/-! # What construction has established

An activation exists only if the store and the live evidence allowed it.  The cases
below name everything `activation_new_internal` has checked or written by then.
-/

namespace Goodix.Pairing

open Octets A0Protocol SelfState LivePreflight

variable {crypto : Primitives} {policy : Policy} {fault : Option Fault} {path after : PathEntry}
  {evidence : Evidence} {activation : Activation}

/-! ## Reserving an E0 -/

/-- The write an activation may still make, before anything of it has been used. -/
def freshProvision (bb010002 : Block Bb010002.length) (envelope : PairingCrypto.Envelope)
    (validator : Validator) : Provision :=
  { bb010002
    envelope
    validator
    terminal := .waiting
    begun := false
    ackSeen := false
    readbackProven := false
    tlsProven := false }

theorem provision_new_ok {bb010002 : Block Bb010002.length} {envelope : PairingCrypto.Envelope}
    {validator : Validator} {provision : Provision}
    (made : Provision.new bb010002 envelope validator = .ok provision) :
    provision = freshProvision bb010002 envelope validator := by
  unfold Provision.new at made
  split at made
  · cases made
  · cases made
    rfl

/-- The record a reservation writes for the envelope it derived. -/
abbrev Reservation.record (reservation : Reservation) (validator : Validator) (evidence : Evidence)
    (bb010002Sha256 : Digest) : Record :=
  reservationRecord reservation.generation reservation.fdtPresent reservation.fdtTable validator
    evidence bb010002Sha256

/-- Everything that holds once a reservation has given an activation: the PREPARED record of this
very envelope is what the store now loads. -/
structure Reserved (crypto : Primitives) (policy : Policy) (fault : Option Fault)
    (path : PathEntry) (evidence : Evidence) (binding : Binding) (bb010002Sha256 : Digest)
    (reservation : Reservation) (activation : Activation) (after : PathEntry)
    (envelope : PairingCrypto.Envelope) (validator : Validator) : Prop where
  derived : PairingCrypto.derive crypto reservation.psk = .ok (envelope, validator)
  wrote : writeState crypto policy fault path binding
    (reservation.record validator evidence bb010002Sha256) reservation.psk = (.ok (), after)
  durable : load crypto after binding policy = .valid
    (storedState binding (reservation.record validator evidence bb010002Sha256) reservation.psk)
  made : ∃ view, prepareSecureView crypto evidence validator reservation.psk = .ok view ∧
    activation = .make .e0 reservation.disposition policy
      (storedState binding (reservation.record validator evidence bb010002Sha256) reservation.psk)
      (some (freshProvision evidence.bb010002 envelope validator)) view

section Reserve

variable {binding : Binding} {bb010002Sha256 : Digest} {reservation : Reservation}

theorem writePrepared_reservation (crypto : Primitives) (policy : Policy) (fault : Option Fault)
    (path : PathEntry) (binding : Binding) (reservation : Reservation) (validator : Validator)
    (evidence : Evidence) (bb010002Sha256 : Digest) (psk : Psk) :
    writePrepared crypto policy fault path binding
        (reservation.record validator evidence bb010002Sha256) psk =
      writeState crypto policy fault path binding
        (reservation.record validator evidence bb010002Sha256) psk := by
  simp [writePrepared, reservationRecord]

theorem reserve_ok (reserved : reserve crypto policy fault path evidence binding bb010002Sha256
      reservation = (.ok activation, after)) :
    ∃ envelope validator, Reserved crypto policy fault path evidence binding bb010002Sha256
      reservation activation after envelope validator := by
  unfold reserve at reserved
  split at reserved
  · cases reserved
  rename_i envelope validator derived
  simp only [writePrepared_reservation] at reserved
  split at reserved
  · cases reserved
  rename_i written wrote
  have loaded := load_written wrote
  rw [loaded] at reserved
  simp only at reserved
  split at reserved
  · cases reserved
  split at reserved
  · cases reserved
  rename_i provision made
  split at reserved
  · cases reserved
  rename_i view viewed
  cases reserved
  refine ⟨envelope, validator, derived, wrote, loaded, view, viewed, ?_⟩
  rw [provision_new_ok made]

/-- Whatever a reservation gives, the path is as it was or as the reserving write left it. -/
theorem reserve_path (crypto : Primitives) :
    (reserve crypto policy fault path evidence binding bb010002Sha256 reservation).2 = path ∨
    ∃ record, (reserve crypto policy fault path evidence binding bb010002Sha256 reservation).2 =
      (writeState crypto policy fault path binding record reservation.psk).2 := by
  unfold reserve
  split
  · exact .inl rfl
  rename_i envelope validator derived
  right
  refine ⟨reservation.record validator evidence bb010002Sha256, ?_⟩
  simp only [writePrepared_reservation]
  split
  · rename_i error written wrote
    rw [wrote]
  · rename_i written wrote
    rw [wrote]
    split <;> (try split) <;> (try split) <;> (try split) <;> rfl

end Reserve

/-! ## The four dispositions -/

/-- The stored record fits the reader: it was written for its BB010002, and its PSK derives to the
validator it expects. -/
structure StoredMaterial (crypto : Primitives) (evidence : Evidence) (state : State) : Prop where
  present : state.record.bb010002Sha256Present = true
  bb010002 : crypto.sha256 evidence.bb010002.val = some state.record.bb010002Sha256
  derived : ∃ envelope,
    PairingCrypto.derive crypto state.psk = .ok (envelope, state.record.expectedValidator)

/-- Why an activation was constructed, as `activation_new_internal` decides it. -/
inductive Construction (crypto : Primitives) (policy : Policy) (generated : Option Psk)
    (fault : Option Fault) (path : PathEntry) (evidence : Evidence) (binding : Binding)
    (bb010002Sha256 : Digest) (activation : Activation) (after : PathEntry) : Prop where
  | newPsk (psk : Psk) (drawn : generated = some psk) (absent : load crypto path binding policy = .absent)
      (envelope : PairingCrypto.Envelope) (validator : Validator)
      (reserved : Reserved crypto policy fault path evidence binding bb010002Sha256
        { disposition := .newPsk, psk, generation := 1, fdtPresent := false,
          fdtTable := Block.zero 12 } activation after envelope validator)
  | restore (state : State) (stored : load crypto path binding policy = .valid state)
      (active : state.record.phase = .active)
      (replaced : state.record.expectedValidator ≠ evidence.validator)
      (room : state.record.generation ≠ maxGeneration)
      (envelope : PairingCrypto.Envelope) (validator : Validator)
      (reserved : Reserved crypto policy fault path evidence binding bb010002Sha256
        { disposition := .restoreActivePsk, psk := state.psk,
          generation := state.record.generation + 1, fdtPresent := state.record.fdtPresent,
          fdtTable := state.record.fdtTable } activation after envelope validator)
  | recover (state : State) (stored : load crypto path binding policy = .valid state)
      (prepared : state.record.phase = .prepared) (attempted : state.record.e0Attempted = true)
      (expected : state.record.expectedValidator = evidence.validator)
      (material : StoredMaterial crypto evidence state) (unchanged : after = path)
      (view : SecureMaterial)
      (made : activation = .make .tls .recoverPreparedTls policy state none view)
  | reuse (state : State) (stored : load crypto path binding policy = .valid state)
      (active : state.record.phase = .active)
      (expected : state.record.expectedValidator = evidence.validator)
      (material : StoredMaterial crypto evidence state) (unchanged : after = path)
      (view : SecureMaterial)
      (made : activation = .make .tls .reuseActiveTls policy state none view)

theorem checkStoredMaterial_ok {state : State} {bb010002Sha256 : Digest} {validator : Validator}
    (digest : crypto.sha256 evidence.bb010002.val = some bb010002Sha256)
    (checked : checkStoredMaterial crypto state bb010002Sha256 = .ok validator) :
    StoredMaterial crypto evidence state ∧ validator = state.record.expectedValidator := by
  unfold checkStoredMaterial at checked
  split at checked
  · cases checked
  rename_i sameDigest
  simp only [Bool.or_eq_true, Bool.not_eq_true', decide_eq_true_eq, not_or, Bool.not_eq_false,
    ne_eq, not_not] at sameDigest
  obtain ⟨present, same⟩ := sameDigest
  split at checked
  · cases checked
  rename_i envelope derivedValidator derived
  split at checked
  · rename_i expected
    cases checked
    exact ⟨⟨present, same ▸ digest, envelope, expected ▸ derived⟩, expected⟩
  · cases checked

theorem reuseState_ok {state : State} {validator : Validator} {disposition : Disposition}
    (reused : reuseState crypto policy evidence state validator disposition = .ok activation) :
    ∃ view, activation = .make .tls disposition policy state none view := by
  unfold reuseState at reused
  split at reused
  · cases reused
  · rename_i view viewed
    cases reused
    exact ⟨view, rfl⟩

theorem reconcile_activeMatch {state : State} {live : Validator}
    (decision : reconcile state live false = .activeMatch) :
    state.record.phase = .active ∧ state.record.expectedValidator = live := by
  unfold reconcile at decision
  simp only at decision
  split at decision
  · rename_i active
    split at decision
    · rename_i expected
      exact ⟨active, expected⟩
    · cases decision
  · split at decision <;> (try split at decision) <;> (try split at decision) <;> cases decision

theorem reconcile_externalReplacement {state : State} {live : Validator}
    (decision : reconcile state live false = .externalReplacement) :
    state.record.phase = .active ∧ state.record.expectedValidator ≠ live := by
  unfold reconcile at decision
  simp only at decision
  split at decision
  · rename_i active
    split at decision
    · cases decision
    · rename_i replaced
      exact ⟨active, replaced⟩
  · split at decision <;> (try split at decision) <;> (try split at decision) <;> cases decision

theorem reconcile_retryTls {state : State} {live : Validator}
    (decision : reconcile state live false = .retryTls) :
    state.record.phase = .prepared ∧ state.record.expectedValidator = live := by
  unfold reconcile at decision
  simp only at decision
  split at decision
  · split at decision <;> cases decision
  split at decision
  · cases decision
  rename_i prepared
  split at decision
  · rename_i expected
    exact ⟨not_not.mp prepared, expected⟩
  · split at decision <;> cases decision

section Loaded

variable {binding : Binding} {bb010002Sha256 : Digest} {state : State}

/-- The decision on a state that was loaded, case by case of `goodix_self_state_reconcile`. -/
theorem activateLoaded_ok {generated : Option Psk}
    (digest : crypto.sha256 evidence.bb010002.val = some bb010002Sha256)
    (stored : load crypto path binding policy = .valid state)
    (activated : activateLoaded crypto policy fault path evidence binding bb010002Sha256 state =
      (.ok activation, after)) :
    Construction crypto policy generated fault path evidence binding bb010002Sha256 activation
      after := by
  unfold activateLoaded at activated
  simp only at activated
  split at activated
  · rename_i decision
    obtain ⟨active, expected⟩ := reconcile_activeMatch decision
    split at activated
    · cases activated
    rename_i validator checked
    obtain ⟨reused, rfl⟩ := Prod.mk.inj activated
    obtain ⟨view, made⟩ := reuseState_ok reused
    exact .reuse state stored active expected (checkStoredMaterial_ok digest checked).1 rfl view made
  · rename_i decision
    obtain ⟨prepared, expected⟩ := reconcile_retryTls decision
    split at activated
    · cases activated
    rename_i attempted
    split at activated
    · cases activated
    rename_i validator checked
    obtain ⟨reused, rfl⟩ := Prod.mk.inj activated
    obtain ⟨view, made⟩ := reuseState_ok reused
    rw [Bool.not_eq_true', Bool.not_eq_false] at attempted
    exact .recover state stored prepared attempted expected
      (checkStoredMaterial_ok digest checked).1 rfl view made
  · rename_i decision
    obtain ⟨active, replaced⟩ := reconcile_externalReplacement decision
    split at activated
    · cases activated
    rename_i restorable
    simp only [Bool.or_eq_true, decide_eq_true_eq, not_or] at restorable
    obtain ⟨envelope, validator, reserved⟩ := reserve_ok activated
    exact .restore state stored active replaced restorable.2 envelope validator reserved
  · cases activated

/-- Whatever is decided on a loaded state, the path stays or one write was made to it. -/
theorem activateLoaded_path (crypto : Primitives) :
    (activateLoaded crypto policy fault path evidence binding bb010002Sha256 state).2 = path ∨
    ∃ record psk,
      (activateLoaded crypto policy fault path evidence binding bb010002Sha256 state).2 =
        (writeState crypto policy fault path binding record psk).2 := by
  unfold activateLoaded
  simp only
  split
  · split <;> exact .inl rfl
  · split
    · exact .inl rfl
    · split <;> exact .inl rfl
  · split
    · exact .inl rfl
    rcases reserve_path crypto with unchanged | ⟨record, written⟩
    · exact .inl unchanged
    · exact .inr ⟨record, _, written⟩
  · exact .inl rfl

end Loaded

theorem evidenceBinding_digest {binding : Binding} {bb010002Sha256 : Digest}
    (bound : evidenceBinding crypto evidence = some (binding, bb010002Sha256)) :
    crypto.sha256 evidence.bb010002.val = some bb010002Sha256 := by
  simp only [evidenceBinding, Option.bind_eq_bind, Option.bind_eq_some_iff, Option.pure_def,
    Option.some.injEq, Prod.mk.injEq] at bound
  obtain ⟨-, -, -, -, digest, hashed, -, rfl⟩ := bound
  exact hashed

/-- The inversion of a construction that gave an activation. -/
theorem activationNew_ok {generated : Option Psk}
    (built : activationNew crypto policy generated fault path evidence = (.ok activation, after)) :
    evidenceValid evidence = true ∧
    ∃ binding bb010002Sha256, evidenceBinding crypto evidence = some (binding, bb010002Sha256) ∧
      Construction crypto policy generated fault path evidence binding bb010002Sha256 activation
        after := by
  unfold activationNew at built
  split at built
  · cases built
  rename_i valid
  rw [Bool.not_eq_true', Bool.not_eq_false] at valid
  split at built
  · cases built
  rename_i binding bb010002Sha256 bound
  refine ⟨valid, binding, bb010002Sha256, bound, ?_⟩
  split at built
  · rename_i absent
    split at built
    · cases built
    rename_i psk
    obtain ⟨envelope, validator, reserved⟩ := reserve_ok built
    exact .newPsk psk rfl absent envelope validator reserved
  · rename_i state stored
    exact activateLoaded_ok (evidenceBinding_digest bound) stored built
  · cases built
  · cases built

/-- Construction makes at most one write, whatever it returns. -/
theorem activationNew_path (crypto : Primitives) (policy : Policy) (generated : Option Psk)
    (fault : Option Fault) (path : PathEntry) (evidence : Evidence) :
    (activationNew crypto policy generated fault path evidence).2 = path ∨
    ∃ binding record psk, (activationNew crypto policy generated fault path evidence).2 =
      (writeState crypto policy fault path binding record psk).2 := by
  unfold activationNew
  split
  · exact .inl rfl
  split
  · exact .inl rfl
  rename_i binding bb010002Sha256 bound
  split
  · split
    · exact .inl rfl
    rcases reserve_path crypto with unchanged | ⟨record, written⟩
    · exact .inl unchanged
    · exact .inr ⟨binding, record, _, written⟩
  · rcases activateLoaded_path crypto with unchanged | ⟨record, psk, written⟩
    · exact .inl unchanged
    · exact .inr ⟨binding, record, psk, written⟩
  · exact .inl rfl
  · exact .inl rfl

/-! ## Evidence of a reader that was never paired -/

/-- A blob of the fixed structure whose free octets are all one. -/
def exampleBb010002 : Block Bb010002.length :=
  ⟨putU32Le 1 ++ Bb010002.dpapiProviderGuid ++ putU32Le 1 ++ List.replicate 16 1 ++ putU32Le 4 ++
      putU32Le 64 ++ Bb010002.expectedDescription ++ putU32Le 0x6610 ++ putU32Le 256 ++
      putU32Le 32 ++ List.replicate 32 1 ++ putU32Le 0 ++ putU32Le 0x800e ++ putU32Le 512 ++
      putU32Le 32 ++ List.replicate 32 1 ++ putU32Le 48 ++ List.replicate 48 1 ++ putU32Le 64 ++
      List.replicate 64 1 ++ List.replicate 8 0, by decide +kernel⟩

def exampleEvidence : Evidence :=
  { Evidence.empty.withIdentity app12509Identity app12509Identity_fits app12509 with
    chipId := 0x2504
    bb010002 := exampleBb010002 }

example : evidenceValid exampleEvidence = true := by decide +kernel

end Goodix.Pairing
