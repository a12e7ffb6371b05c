import Goodix.DeviceContext.Material
import Goodix.LivePreflight.Grammar
import Goodix.Pairing.Construction
import Goodix.Pairing.Steps
import Goodix.RuntimeCoordinator.Authority

/-! # The coordinator and the activation agree

Both classify the same store and the same evidence, with their own derivations and in
their own order.  A state the coordinator uses is one the activation goes to TLS on,
and a pairing write is authorised by the load of the activation alone.
-/

namespace Goodix.DeviceContext

open Octets SelfState LivePreflight RuntimeCoordinator Pairing Machines

variable {crypto : Primitives} {policy : Policy} {path : PathEntry} {live : LiveEvidence}
  {evidence : Evidence}

/-! ## Ready decisions -/

/-- The decisions under which a loaded state is used. -/
def ready : Decision → Bool
  | .readyActive | .readyRetryTls => true
  | _ => false

/-- What a call decided, as the coordinator it made or the audit it wrote says. -/
def Decides {ε : Type} (result : Except ε Coordinator) (audit : Option Audit)
    (decision : Decision) : Prop :=
  (∃ coordinator, result = .ok coordinator ∧ coordinator.decision = decision) ∨
    ∃ written, audit = some written ∧ written.decision = decision

/-- A call that failed decided what its audit says. -/
theorem decides_error {ε : Type} {error : ε} {audit : Option Audit} {given decision : Decision}
    (decides : Decides (.error error) (audit.map fun audit => { audit with decision := given })
      decision) : decision = given := by
  rcases decides with ⟨coordinator, made, -⟩ | ⟨written, found, same⟩
  · cases made
  · cases audit with
    | none => cases found
    | some audit =>
      cases found
      exact same.symm

theorem reconciled_ok {state : State} {checked : CheckedEvidence} {decision : Decision}
    (decided : reconciled crypto state checked = .ok decision) :
    reconcile state checked.liveValidator checked.tlsProven = .activeMatch ∨
      reconcile state checked.liveValidator checked.tlsProven = .retryTls := by
  unfold reconciled at decided
  split at decided
  · rename_i found
    exact .inl found
  · rename_i found
    exact .inr found
  · cases decided
  · cases decided
  · cases decided
  · cases decided

theorem reconciled_error {state : State} {checked : CheckedEvidence} {decision : Decision}
    {message : String} (refused : reconciled crypto state checked = .error (decision, message)) :
    ready decision = false := by
  unfold reconciled at refused
  split at refused
  · split at refused <;> cases refused
    rfl
  · split at refused <;> cases refused
    rfl
  · cases refused
    rfl
  · cases refused
    rfl
  · cases refused
    rfl
  · cases refused
    rfl

theorem acquireLoaded_ready {checked : CheckedEvidence} {derived : Derived} {state : State}
    {audit : Option Audit} {decision : Decision} (isReady : ready decision = true)
    (decides : Decides (acquireLoaded crypto policy checked derived state audit).result
      (acquireLoaded crypto policy checked derived state audit).audit decision) :
    reconcile state checked.liveValidator checked.tlsProven = .activeMatch ∨
      reconcile state checked.liveValidator checked.tlsProven = .retryTls := by
  unfold acquireLoaded at decides
  simp only at decides
  split at decides
  · rename_i other message refused
    cases decides_error decides
    rw [reconciled_error refused] at isReady
    cases isReady
  · rename_i used decided
    exact reconciled_ok decided

/-- A ready decision on the store comes from a valid load and one of the two reconciliations that
use the state. -/
theorem acquireState_ready {before after : Option Audit} {result : Except GError Coordinator}
    {decision : Decision} (made : (acquireState crypto policy path live before).result = result)
    (wrote : (acquireState crypto policy path live before).audit = after)
    (isReady : ready decision = true) (decides : Decides result after decision) :
    ∃ checked derived state, live.check = some checked ∧ derive crypto checked = .ok derived ∧
      load crypto path derived.binding policy = .valid state ∧
      (reconcile state checked.liveValidator checked.tlsProven = .activeMatch ∨
        reconcile state checked.liveValidator checked.tlsProven = .retryTls) := by
  -- a refusal decides FAIL_CLOSED
  have notRefused {before : Option Audit} {error : GError}
      (refused : Decides (.error error) (before.map fun audit =>
        { audit with decision := .failClosed }) decision) : False := by
    cases decides_error refused
    cases isReady
  subst made wrote
  unfold acquireState at decides
  simp only at decides
  split at decides
  · exact (notRefused decides).elim
  rename_i checked complete
  split at decides
  · exact (notRefused decides).elim
  rename_i derived derives
  split at decides
  · rename_i state loaded
    exact ⟨checked, derived, state, complete, derives, loaded, acquireLoaded_ready isReady decides⟩
  · exact (notRefused decides).elim
  · exact (notRefused decides).elim
  · exact (notRefused decides).elim

theorem acquireLegacy_not_ready {legacyAcquire : LegacyAcquire} {audit : Option Audit}
    {load : Option Load} {decision : Decision}
    (decides : Decides (acquireLegacy legacyAcquire audit load).result
      (acquireLegacy legacyAcquire audit load).audit decision) : ready decision = false := by
  unfold acquireLegacy at decides
  simp only at decides
  split at decides
  · cases decides_error decides
    rfl
  · cases decides_error decides
    rfl
  · rcases decides with ⟨coordinator, made, same⟩ | ⟨written, found, same⟩
    · cases made
      cases same
      rfl
    · cases audit with
      | none => cases found
      | some audit =>
        cases found
        cases same
        rfl

theorem acquireFallback_not_ready {request : Request} {legacyAcquire : LegacyAcquire}
    {audit : Option Audit} {load : Option Load} {decision : Decision}
    (decides : Decides (acquireFallback request legacyAcquire audit load).result
      (acquireFallback request legacyAcquire audit load).audit decision) :
    ready decision = false := by
  unfold acquireFallback at decides
  simp only at decides
  split at decides
  · exact acquireLegacy_not_ready decides
  split at decides
  · cases decides_error decides
    rfl
  · cases decides_error decides
    rfl

/-- A ready decision of the whole call is one of its attempt on the store. -/
theorem acquire_ready {request : Request} {legacyAcquire : LegacyAcquire} {audited : Bool}
    {decision : Decision} (given : request.live = some live) (isReady : ready decision = true)
    (decides : Decides (acquire crypto request legacyAcquire audited).result
      (acquire crypto request legacyAcquire audited).audit decision) :
    ∃ checked derived state, live.check = some checked ∧ derive crypto checked = .ok derived ∧
      load crypto request.statePath derived.binding request.policy = .valid state ∧
      (reconcile state checked.liveValidator checked.tlsProven = .activeMatch ∨
        reconcile state checked.liveValidator checked.tlsProven = .retryTls) := by
  unfold acquire at decides
  simp only at decides
  split at decides
  · cases decides_error decides
    cases isReady
  split at decides
  · rename_i found present
    cases given.symm.trans found
    split at decides
    · rename_i coordinator made
      rcases decides with ⟨other, same, decided⟩ | decided
      · cases same
        exact acquireState_ready made rfl isReady (.inl ⟨coordinator, rfl, decided⟩)
      · exact acquireState_ready made rfl isReady (.inr decided)
    · rename_i error result silent
      rcases decides with ⟨coordinator, made, -⟩ | ⟨written, found, -⟩
      · cases made
      · cases found
    · rename_i error audit result written
      split at decides
      · rcases decides with ⟨coordinator, made, -⟩ | same
        · cases made
        · exact acquireState_ready result written isReady (.inr same)
      · rw [acquireFallback_not_ready decides] at isReady
        cases isReady
  · rw [acquireFallback_not_ready decides] at isReady
    cases isReady

/-! ## One binding -/

theorem liveEvidence_check {checked : CheckedEvidence}
    (complete : (liveEvidence evidence).check = some checked) :
    checked.chipId = evidence.chipId ∧ checked.app = evidence.app ∧ checked.otp = evidence.otp ∧
      checked.liveValidator = evidence.validator ∧ checked.tlsProven = false := by
  simp only [LiveEvidence.check, liveEvidence, Option.bind_eq_bind, Option.bind_some,
    Option.bind_eq_some_iff, Option.pure_def, Option.some.injEq, Block.ofList?_val] at complete
  obtain ⟨-, -, -, -, -, -, -, -, otp, rfl, validator, rfl, rfl⟩ := complete
  exact ⟨rfl, rfl, rfl, rfl, rfl⟩

/-- With the CONFIG90 of its chip and OTP in the evidence, both sides ask the store for the same
binding. -/
theorem binding_agrees {checked : CheckedEvidence} {derived : Derived} {binding : Binding}
    {bb010002Sha256 : Digest}
    (stop : Config90.derive evidence.chipId evidence.otp =
      .ok (evidence.config90, evidence.calibration))
    (complete : (liveEvidence evidence).check = some checked)
    (derives : derive crypto checked = .ok derived)
    (bound : evidenceBinding crypto evidence = some (binding, bb010002Sha256)) :
    derived.binding = binding := by
  obtain ⟨chipId, app, otp, -, -⟩ := liveEvidence_check complete
  simp only [evidenceBinding, Option.bind_eq_bind, Option.bind_eq_some_iff, Option.pure_def,
    Option.some.injEq, Prod.mk.injEq] at bound
  obtain ⟨otpSha256, otpHashed, config90Sha256, configHashed, -, -, rfl, -⟩ := bound
  unfold derive at derives
  rw [chipId, app, otp, stop] at derives
  simp only [otpHashed, configHashed] at derives
  cases derives
  rfl

/-! ## What authorises a pairing write -/

/-- The load of the activation itself allows a write to the reader: the store is absent, or its
ACTIVE record names a validator the reader no longer has. -/
def WriteAuthorised (crypto : Primitives) (policy : Policy) (path : PathEntry)
    (evidence : Evidence) : Prop :=
  ∃ binding bb010002Sha256, evidenceBinding crypto evidence = some (binding, bb010002Sha256) ∧
    (load crypto path binding policy = .absent ∨
      ∃ state, load crypto path binding policy = .valid state ∧ state.record.phase = .active ∧
        reconcile state evidence.validator false = .externalReplacement)

theorem reconcile_replaced {state : State} {validator : Validator}
    (active : state.record.phase = .active)
    (replaced : state.record.expectedValidator ≠ validator) :
    reconcile state validator false = .externalReplacement := by
  simp [reconcile, active, replaced]

section Construct

variable {generated : Option Psk} {fault : Option Fault} {activation : Activation}
  {after : PathEntry}

/-- An activation starts in E0 by its own load, or it goes to TLS. -/
theorem activationNew_phase
    (built : activationNew crypto policy generated fault path evidence = (.ok activation, after)) :
    (activation.phase = .e0 ∧ WriteAuthorised crypto policy path evidence) ∨
      activation.phase = .tls := by
  obtain ⟨-, binding, bb010002Sha256, bound, construction⟩ := activationNew_ok built
  cases construction with
  | newPsk psk drawn absent envelope validator reserved =>
    obtain ⟨view, -, rfl⟩ := reserved.made
    exact .inl ⟨rfl, binding, bb010002Sha256, bound, .inl absent⟩
  | restore state stored active replaced room envelope validator reserved =>
    obtain ⟨view, -, rfl⟩ := reserved.made
    exact .inl ⟨rfl, binding, bb010002Sha256, bound,
      .inr ⟨state, stored, active, reconcile_replaced active replaced⟩⟩
  | recover state stored prepared attempted expected material unchanged view made =>
    subst made
    exact .inr rfl
  | reuse state stored active expected material unchanged view made =>
    subst made
    exact .inr rfl

/-- A loaded state is written over only when its ACTIVE record was replaced. -/
theorem activateLoaded_writes {binding : Binding} {bb010002Sha256 : Digest} {state : State}
    (writes : (activateLoaded crypto policy fault path evidence binding bb010002Sha256 state).2 ≠
      path) : reconcile state evidence.validator false = .externalReplacement := by
  unfold activateLoaded at writes
  simp only at writes
  split at writes
  · split at writes <;> exact absurd rfl writes
  · split at writes
    · exact absurd rfl writes
    · split at writes <;> exact absurd rfl writes
  · assumption
  · exact absurd rfl writes

/-- A construction that writes, even one that fails after its write, is authorised. -/
theorem activationNew_writes (generated : Option Psk) (fault : Option Fault)
    (writes : (activationNew crypto policy generated fault path evidence).2 ≠ path) :
    WriteAuthorised crypto policy path evidence := by
  unfold activationNew at writes
  split at writes
  · exact absurd rfl writes
  split at writes
  · exact absurd rfl writes
  rename_i binding bb010002Sha256 bound
  refine ⟨binding, bb010002Sha256, bound, ?_⟩
  split at writes
  · rename_i absent
    exact .inl absent
  · rename_i state stored
    have replaced := activateLoaded_writes writes
    exact .inr ⟨state, stored, (reconcile_externalReplacement replaced).1, replaced⟩
  · exact absurd rfl writes
  · exact absurd rfl writes

end Construct

theorem readbackAdvance_not_e0 {before after : Activation} (advanced : ReadbackAdvance before after)
    (past : before.phase ≠ .e0) : after.phase ≠ .e0 := by
  cases advanced with
  | stays => exact past
  | next phase done => exact Phase.noConfusion
  | proven provision phase done holds accepted bb010002 validator => exact Phase.noConfusion

theorem readbackCase_not_e0 {before after : Activation} {observed : List Observed}
    (move : ReadbackCase before after observed) (past : before.phase ≠ .e0) :
    after.phase ≠ .e0 := by
  cases move with
  | idle => exact past
  | failed terminal =>
    rw [terminal]
    exact Phase.noConfusion
  | requested frame => exact past
  | completed advanced => exact readbackAdvance_not_e0 advanced past
  | acknowledged status => exact past
  | answeredBb010002 block phase advanced => exact readbackAdvance_not_e0 advanced past
  | answeredValidator block phase advanced => exact readbackAdvance_not_e0 advanced past

theorem lateCase_not_e0 {before : Activation} {after : System} {observed : List Observed}
    (move : LateCase crypto before path after observed) (past : before.phase ≠ .e0) :
    after.activation.phase ≠ .e0 := by
  cases move with
  | idle => exact past
  | failed terminal =>
    rw [terminal]
    exact Phase.noConfusion
  | viewed phase => exact past
  | reused phase reuse same complete readbacks =>
    rw [complete]
    exact Phase.noConfusion
  | promoted fault phase promotes same complete readbacks succeeded =>
    rw [complete]
    exact Phase.noConfusion
  | promotionFailed fault error phase promotes terminal =>
    rw [terminal]
    exact Phase.noConfusion

/-- No call brings an activation into E0. -/
theorem step_not_e0 (crypto : Primitives) (system : System) (event : Pairing.Event)
    (past : system.activation.phase ≠ .e0) :
    (Pairing.step crypto system event).1.activation.phase ≠ .e0 := by
  have canProvision : system.activation.CanProvision := fun phase => absurd phase past
  have move := step_case crypto system.path canProvision event
  generalize (Pairing.step crypto system event).1 = after at move ⊢
  generalize (Pairing.step crypto system event).2 = observed at move
  cases move with
  | e0 provision phase holds move => exact absurd phase past
  | readback reads move => exact readbackCase_not_e0 move past
  | late phase move => exact lateCase_not_e0 move past
  | terminal phase quiet => exact past

theorem run_not_e0 (crypto : Primitives) (system : System) (events : List Pairing.Event)
    (past : system.activation.phase ≠ .e0) :
    (run (Pairing.step crypto) system events).1.activation.phase ≠ .e0 :=
  run_state_invariant (Pairing.step crypto) (fun current => current.activation.phase ≠ .e0) past
    (step_not_e0 crypto) events

/-- In some run of its calls the activation is in its E0 phase. -/
def EntersE0 (crypto : Primitives) (activation : Activation) (path : PathEntry) : Prop :=
  ∃ calls, (run (Pairing.step crypto) ⟨activation, path⟩ calls).1.activation.phase = .e0

theorem enters_e0_authorised {generated : Option Psk} {fault : Option Fault}
    {activation : Activation} {after : PathEntry}
    (built : activationNew crypto policy generated fault path evidence = (.ok activation, after))
    (enters : EntersE0 crypto activation after) : WriteAuthorised crypto policy path evidence := by
  obtain ⟨calls, phase⟩ := enters
  rcases activationNew_phase built with ⟨-, authorised⟩ | tls
  · exact authorised
  · refine absurd phase (run_not_e0 crypto ⟨activation, after⟩ calls ?_)
    show activation.phase ≠ .e0
    rw [tls]
    exact Phase.noConfusion

/-- A state the coordinator uses authorises no pairing write. -/
theorem ready_not_authorised {request : Request} {legacyAcquire : LegacyAcquire} {audited : Bool}
    {decision : Decision}
    (stop : Config90.derive evidence.chipId evidence.otp =
      .ok (evidence.config90, evidence.calibration))
    (given : request.live = some (liveEvidence evidence)) (isReady : ready decision = true)
    (decides : Decides (acquire crypto request legacyAcquire audited).result
      (acquire crypto request legacyAcquire audited).audit decision) :
    ¬ WriteAuthorised crypto request.policy request.statePath evidence := by
  obtain ⟨checked, derived, state, complete, derives, loaded, used⟩ :=
    acquire_ready given isReady decides
  obtain ⟨-, -, -, validator, unproven⟩ := liveEvidence_check complete
  rw [validator, unproven] at used
  rintro ⟨binding, bb010002Sha256, bound, authorised⟩
  -- both sides have loaded the same state
  rw [binding_agrees stop complete derives bound] at loaded
  rcases authorised with absent | ⟨replaced, stored, -, replacement⟩
  · rw [loaded] at absent
    cases absent
  · rw [loaded] at stored
    cases stored
    rcases used with active | retry
    · rw [replacement] at active
      cases active
    · rw [replacement] at retry
      cases retry

/-! ## After the live preflight -/

theorem acquireState_audited (crypto : Primitives) (policy : Policy) (path : PathEntry)
    (live : LiveEvidence) (before : Audit) :
    ∃ after, (acquireState crypto policy path live (some before)).audit = some after := by
  have written : ((acquireState crypto policy path live (some before)).audit.map
      (·.stateLoadResult)).isSome = true := by
    cases reaches : reachesLoad crypto live with
    | true =>
      obtain ⟨binding, -, result⟩ := acquireState_loads policy path reaches (some before)
      rw [result]
      rfl
    | false =>
      rw [(acquireState_early policy path reaches (some before)).2.2]
      rfl
  rw [Option.isSome_map] at written
  exact Option.isSome_iff_exists.mp written

theorem acquireFallback_audited {request : Request} {legacyAcquire : LegacyAcquire} {before : Audit}
    {load : Option Load} :
    ∃ after, (acquireFallback request legacyAcquire (some before) load).audit = some after := by
  unfold acquireFallback acquireLegacy
  simp only
  split
  · split <;> exact ⟨_, rfl⟩
  · split <;> exact ⟨_, rfl⟩

/-- An audit that was passed is written. -/
theorem acquire_audited (crypto : Primitives) (request : Request) (legacyAcquire : LegacyAcquire) :
    ∃ after, (acquire crypto request legacyAcquire true).audit = some after := by
  unfold acquire
  simp only [if_true, Option.map_some]
  split
  · exact ⟨_, rfl⟩
  split
  · split
    · exact acquireState_audited _ _ _ _ _
    · rename_i error result silent
      obtain ⟨after, written⟩ := acquireState_audited crypto request.policy request.statePath _ _
      rw [written] at silent
      cases silent
    · split
      · exact ⟨_, rfl⟩
      · exact acquireFallback_audited
  · exact acquireFallback_audited

/-- A coordinator always has a source. -/
theorem acquire_source {request : Request} {legacyAcquire : LegacyAcquire} {audited : Bool}
    {coordinator : Coordinator}
    (made : (acquire crypto request legacyAcquire audited).result = .ok coordinator) :
    coordinator.source ≠ .none := by
  have fallback {audit : Option Audit} {load : Option Load}
      (made : (acquireFallback request legacyAcquire audit load).result = .ok coordinator) :
      coordinator.source ≠ .none := by
    unfold acquireFallback acquireLegacy at made
    simp only at made
    split at made
    · split at made
      · cases made
      · cases made
      · cases made
        exact Source.noConfusion
    · split at made <;> cases made
  unfold acquire at made
  simp only at made
  split at made
  · cases made
  split at made
  · split at made
    · rename_i attempted result
      cases made
      rw [acquireState_source _ result]
      exact Source.noConfusion
    · cases made
    · split at made
      · cases made
      · exact fallback made
  · exact fallback made

/-- Why a pairing is started once the live preflight is over. -/
inductive PairingReason (material : Material) (host : Host) (path : PathEntry)
    (evidence : Evidence) : Prop where
  | validatorDiffers (coordinator : Coordinator)
      (held : material.runtimeMaterial = some coordinator)
      (qualified : material.validateLegacyTarget host.crypto evidence = .ok ())
      (differs : material.legacyValidatorMatches evidence = false)
  | outcome (unheld : material.runtimeMaterial = none) (error : Option GError) (audit : Audit)
      (failed : (acquire host.crypto (host.request path (some (liveEvidence evidence)))
        host.legacyAcquire true).result = .error error)
      (written : (acquire host.crypto (host.request path (some (liveEvidence evidence)))
        host.legacyAcquire true).audit = some audit)
      (named : audit.stateLoadResult = .absent ∨ audit.decision = .externalReplacement)

/-- When the context gets no material, the coordinator gave none, and its audit is the one kept. -/
theorem material_acquire_error {material after : Material} {host : Host} {live : LiveEvidence}
    {error : Option GError}
    (failed : material.acquire host path (some live) = (after, .error error)) :
    (∃ error, (acquire host.crypto (host.request path (some live)) host.legacyAcquire true).result =
      .error error) ∧
    (acquire host.crypto (host.request path (some live)) host.legacyAcquire true).audit =
      some after.audit := by
  obtain ⟨audit, written⟩ :=
    acquire_audited host.crypto (host.request path (some live)) host.legacyAcquire
  unfold Material.acquire at failed
  simp only [written, Option.getD_some] at failed
  split at failed
  · rename_i refused result
    cases failed
    exact ⟨⟨_, result⟩, written⟩
  · rename_i coordinator result
    have source := acquire_source result
    simp only [Coordinator.getSecureView, Coordinator.getFdtSeed, source, if_false] at failed
    cases failed

theorem finish_startPairing {material after : Material} {host : Host} {bound : Bool}
    (finished : material.finishLivePreflight host path bound = (after, .startPairing evidence)) :
    material.livePreflight.bind Preflight.copyEvidence = some evidence ∧
      PairingReason material host path evidence := by
  unfold Material.finishLivePreflight at finished
  split at finished
  · cases finished
  rename_i found copied
  simp only at finished
  split at finished
  · cases finished
  split at finished
  · rename_i held
    obtain ⟨coordinator, held⟩ := Option.isSome_iff_exists.mp held
    split at finished
    · cases finished
    rename_i qualified
    split at finished
    · cases finished
    rename_i differs
    cases finished
    exact ⟨copied, .validatorDiffers coordinator held qualified (Bool.not_eq_true _ ▸ differs)⟩
  · rename_i unheld
    rw [Option.not_isSome_iff_eq_none] at unheld
    split at finished
    · cases finished
    rename_i acquired error failed
    split at finished
    · rename_i named
      cases finished
      obtain ⟨⟨reported, result⟩, written⟩ := material_acquire_error failed
      rw [Bool.or_eq_true, decide_eq_true_eq, decide_eq_true_eq] at named
      exact ⟨copied, .outcome unheld reported acquired.audit result written named⟩
    · cases finished

/-- Starting a pairing writes, or enters E0, by the activation's own load alone. -/
theorem startPairing_authorised {material final : Material} {host : Host}
    {generated : Option Psk} {fault : Option Fault} {result : Except GError Unit}
    {written : PathEntry}
    (started : material.startPairing host generated fault path evidence = (final, result, written))
    (acts : written ≠ path ∨ (result = .ok () ∧ ∃ activation,
      final.pairingActivation = some activation ∧ EntersE0 host.crypto activation written)) :
    WriteAuthorised host.crypto host.policy path evidence := by
  unfold Material.startPairing at started
  split at started
  · cases started
    rcases acts with writes | ⟨succeeded, -⟩
    · exact absurd rfl writes
    · cases succeeded
  split at started
  · rename_i error after built
    cases started
    rcases acts with writes | ⟨succeeded, -⟩
    · refine activationNew_writes generated fault ?_
      rw [built]
      exact writes
    · cases succeeded
  · rename_i activation after built
    cases started
    rcases acts with writes | ⟨-, held, same, enters⟩
    · refine activationNew_writes generated fault ?_
      rw [built]
      exact writes
    · cases same
      exact enters_e0_authorised built enters

/-- **Agreement.**  Evidence taken at STOP on which the coordinator decides to use the stored state
never brings an activation into E0, nor makes its construction write; an activation enters E0 only
by its own load; and after the live preflight a pairing is started only for the outcomes named
there, with that load deciding on the write. -/
theorem coordinator_and_activation_agree (host : Host) (generated : Option Psk)
    (fault : Option Fault) (path : PathEntry) :
    (∀ events evidence audited decision,
      (run LivePreflight.step new events).1.copyEvidence = some evidence →
      ready decision = true →
      Decides
        (acquire host.crypto (host.request path (some (liveEvidence evidence))) host.legacyAcquire
          audited).result
        (acquire host.crypto (host.request path (some (liveEvidence evidence))) host.legacyAcquire
          audited).audit decision →
      (activationNew host.crypto host.policy generated fault path evidence).2 = path ∧
        ∀ activation after,
          activationNew host.crypto host.policy generated fault path evidence =
            (.ok activation, after) → ¬ EntersE0 host.crypto activation after) ∧
    (∀ evidence activation after,
      activationNew host.crypto host.policy generated fault path evidence = (.ok activation, after) →
      EntersE0 host.crypto activation after →
      WriteAuthorised host.crypto host.policy path evidence) ∧
    ∀ (material after : Material) bound evidence,
      material.finishLivePreflight host path bound = (after, .startPairing evidence) →
      PairingReason material host path evidence ∧
        ∀ later final result written,
          after.startPairing host generated fault later evidence = (final, result, written) →
          (written ≠ later ∨ (result = .ok () ∧ ∃ activation,
            final.pairingActivation = some activation ∧
              EntersE0 host.crypto activation written)) →
          WriteAuthorised host.crypto host.policy later evidence := by
  refine ⟨?_, fun evidence activation after => enters_e0_authorised, ?_⟩
  · intro events evidence audited decision copied isReady decides
    obtain ⟨bodies, -, reports⟩ := copyEvidence_reports events copied
    have unauthorised := ready_not_authorised reports.derived rfl isReady decides
    refine ⟨by_contra fun writes => unauthorised (activationNew_writes generated fault writes), ?_⟩
    intro activation after built enters
    exact unauthorised (enters_e0_authorised built enters)
  · intro material after bound evidence finished
    refine ⟨(finish_startPairing finished).2, ?_⟩
    intro later final result written started acts
    exact startPairing_authorised started acts

end Goodix.DeviceContext
