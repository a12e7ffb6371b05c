import Goodix.RuntimeCoordinator.Acquire
import Goodix.SelfState.WriteOutcome

/-! # Authority of the state-v2 store

With live evidence the legacy files may only stand in for a store that was loaded and
found absent.  The audit carries the load result from the attempt to the fallback and
says "absent" until a load has been made, so an attempt that ends before its load is
taken for an absent store.
-/

namespace Goodix.RuntimeCoordinator

open Octets SelfState LivePreflight

variable {crypto : Primitives} {policy : Policy} {path : PathEntry} {live : LiveEvidence}
  {request : Request}

/-- The evidence is complete, and CONFIG90 and both digests of the binding can be derived. -/
def reachesLoad (crypto : Primitives) (live : LiveEvidence) : Bool :=
  match live.check with
  | none => false
  | some checked => (derive crypto checked).isOk

/-! ## One attempt on the store -/

theorem acquireLoaded_load (crypto : Primitives) (policy : Policy) (live : CheckedEvidence)
    (derived : Derived) (state : State) (audit : Option Audit) :
    (acquireLoaded crypto policy live derived state audit).load = some (.valid state) ∧
      ((acquireLoaded crypto policy live derived state audit).audit.map (·.stateLoadResult)) =
        audit.map (·.stateLoadResult) := by
  unfold acquireLoaded
  simp only
  split
  · cases audit <;> exact ⟨rfl, rfl⟩
  · split <;> cases audit <;> exact ⟨rfl, rfl⟩

/-- An attempt that loads the store hands on the result of that load. -/
theorem acquireState_loads (policy : Policy) (path : PathEntry)
    (reaches : reachesLoad crypto live = true) (audit : Option Audit) :
    ∃ binding, (acquireState crypto policy path live audit).load =
        some (SelfState.load crypto path binding policy) ∧
      (acquireState crypto policy path live audit).audit.map (·.stateLoadResult) =
        audit.map fun _ => (SelfState.load crypto path binding policy).result := by
  unfold reachesLoad at reaches
  unfold acquireState
  simp only
  split
  · rename_i incomplete
    rw [incomplete] at reaches
    cases reaches
  rename_i checked complete
  rw [complete] at reaches
  simp only at reaches
  split
  · rename_i error failed
    rw [failed] at reaches
    cases reaches
  rename_i derived derives
  refine ⟨derived.binding, ?_⟩
  split
  · rename_i state loaded
    rw [loaded]
    obtain ⟨load, result⟩ := acquireLoaded_load crypto policy checked derived state
      ((audit.map fun audit => { audit with stateLoadAttempted := true }).map
        fun audit => { audit with stateLoadResult := (Load.valid state).result })
    refine ⟨load, result.trans ?_⟩
    cases audit <;> rfl
  · rename_i error loaded
    rw [loaded]
    exact ⟨rfl, by cases audit <;> rfl⟩
  · rename_i loaded
    rw [loaded]
    exact ⟨rfl, by cases audit <;> rfl⟩
  · rename_i loaded
    rw [loaded]
    exact ⟨rfl, by cases audit <;> rfl⟩

/-- An attempt that ends before the load leaves the load result as it was. -/
theorem acquireState_early (policy : Policy) (path : PathEntry)
    (early : reachesLoad crypto live = false) (audit : Option Audit) :
    (acquireState crypto policy path live audit).load = none ∧
      (∃ error, (acquireState crypto policy path live audit).result = .error error) ∧
      (acquireState crypto policy path live audit).audit.map (·.stateLoadResult) =
        audit.map (·.stateLoadResult) := by
  unfold reachesLoad at early
  unfold acquireState
  simp only
  split
  · exact ⟨rfl, ⟨_, rfl⟩, by cases audit <;> rfl⟩
  rename_i checked complete
  rw [complete] at early
  simp only at early
  split
  · exact ⟨rfl, ⟨_, rfl⟩, by cases audit <;> rfl⟩
  · rename_i derived derives
    rw [derives] at early
    cases early

/-- A coordinator made from the store is not a legacy one. -/
theorem acquireState_source (audit : Option Audit) {coordinator : Coordinator}
    (acquired : (acquireState crypto policy path live audit).result = .ok coordinator) :
    coordinator.source = .stateV2 := by
  unfold acquireState at acquired
  simp only at acquired
  split at acquired
  · cases acquired
  split at acquired
  · cases acquired
  split at acquired
  · unfold acquireLoaded at acquired
    simp only at acquired
    split at acquired
    · cases acquired
    · split at acquired
      · cases acquired
      · cases acquired
        rfl
  · cases acquired
  · cases acquired
  · cases acquired

/-! ## The fallback -/

/-- Something of a slot, final or temporary, is in the state directory. -/
def Request.hasArtifact (crypto : Primitives) (request : Request) : Prop :=
  ∃ index, (loadSlot crypto request.statePath.files request.policy index).hasArtifact = true

/-- The store is authoritative: no legacy material beside anything it has left, and no look at the
legacy files unless a load has found it absent. -/
def StateAuthoritative (crypto : Primitives) (request : Request) (acquired : Acquired) : Prop :=
  (request.hasArtifact crypto → ∀ coordinator, acquired.result = .ok coordinator →
    coordinator.source ≠ .legacy) ∧
  (acquired.legacyCalled = true → acquired.load = some .absent)

/-- A call that does not ask for legacy material gives none. -/
theorem stateAuthoritative_of_uncalled {acquired : Acquired}
    (uncalled : acquired.legacyCalled = false)
    (source : ∀ coordinator, acquired.result = .ok coordinator → coordinator.source ≠ .legacy) :
    StateAuthoritative crypto request acquired := by
  refine ⟨fun _ => source, ?_⟩
  rw [uncalled]
  intro called
  cases called

/-- The fallback keeps the load it was given, and asks for legacy material exactly where the legacy
directory is in order. -/
theorem acquireFallback_calls (request : Request) (legacyAcquire : LegacyAcquire) (audit : Option Audit)
    (load : Option Load) :
    (acquireFallback request legacyAcquire audit load).load = load ∧
      ((acquireFallback request legacyAcquire audit load).legacyCalled = true ↔
        request.legacyEntry = .directory) := by
  unfold acquireFallback
  simp only
  split
  · rename_i present
    unfold acquireLegacy
    simp only
    split <;> exact ⟨rfl, by simp [present]⟩
  · rename_i missing
    split <;> exact ⟨rfl, by simp [missing]⟩

theorem load_of_result_absent {load : Load} (absent : load.result = .absent) : load = .absent := by
  cases load with
  | absent => rfl
  | valid state => cases absent
  | incomplete error => cases absent
  | bindingMismatch => cases absent

section Acquire

variable {legacyAcquire : LegacyAcquire} {audited : Bool}

/-- Beside a policy-correct state directory and with evidence, a call ends in one of three ways. -/
theorem acquire_live_cases (crypto : Primitives) (legacyAcquire : LegacyAcquire) (audited : Bool)
    (evidence : request.live = some live)
    (present : request.stateEntry = .directory) :
    (∃ acquired, acquire crypto request legacyAcquire audited = acquired ∧
      acquired.legacyCalled = false ∧
      ∀ coordinator, acquired.result = .ok coordinator → coordinator.source ≠ .legacy) ∨
    ∃ before audit, audited = true ∧ request.legacyEntry = .directory ∧
      before.stateLoadResult = .absent ∧
      (acquireState crypto request.policy request.statePath live (some before)).audit =
        some audit ∧ audit.stateLoadResult = .absent ∧
      acquire crypto request legacyAcquire audited =
        acquireFallback request legacyAcquire (some { audit with decision := .none })
          (acquireState crypto request.policy request.statePath live (some before)).load := by
  unfold acquire
  simp only [present, evidence]
  split
  · exact .inl ⟨_, rfl, rfl, fun _ acquired => by cases acquired⟩
  split
  · rename_i attempted result
    refine .inl ⟨_, rfl, rfl, ?_⟩
    intro coordinator acquired
    cases acquired
    rw [acquireState_source _ result]
    decide
  · exact .inl ⟨_, rfl, rfl, fun _ acquired => by cases acquired⟩
  · rename_i error audit result attemptAudit
    split
    · exact .inl ⟨_, rfl, rfl, fun _ acquired => by cases acquired⟩
    rename_i fallsBack
    simp only [Bool.or_eq_true, decide_eq_true_eq, ne_eq, not_or, not_not] at fallsBack
    cases audited with
    | false =>
      -- without an audit there is none to read the load result from
      have missing : (acquireState crypto request.policy request.statePath live none).audit =
          none := by
        cases reaches : reachesLoad crypto live with
        | true =>
          obtain ⟨binding, -, result⟩ := acquireState_loads request.policy
            request.statePath reaches none
          simpa using result
        | false =>
          have result := (acquireState_early request.policy
            request.statePath reaches none).2.2
          simpa using result
      simp [missing] at attemptAudit
    | true => exact .inr ⟨_, audit, rfl, fallsBack.2, rfl, attemptAudit, fallsBack.1, rfl⟩

/-- An audited attempt that ends before its load goes to the legacy files if they are there. -/
theorem acquire_early (legacyAcquire : LegacyAcquire) (evidence : request.live = some live)
    (present : request.stateEntry = .directory) (legacy : request.legacyEntry = .directory)
    (early : reachesLoad crypto live = false) :
    ∃ audit, acquire crypto request legacyAcquire true =
      acquireFallback request legacyAcquire audit none := by
  unfold acquire
  simp only [present, legacy, evidence, if_true, reduceCtorEq, decide_false, decide_true,
    Bool.or_self, Bool.and_self, Bool.false_eq_true, if_false, Option.map_some]
  generalize hreset : some { Audit.reset with
    statePresent := true, legacyPresent := true, coexistenceObserved := true } = before
  obtain ⟨load, ⟨error, result⟩, absent⟩ :=
    acquireState_early request.policy request.statePath early before
  cases attemptAudit :
      (acquireState crypto request.policy request.statePath live before).audit with
  | none =>
    rw [attemptAudit, ← hreset] at absent
    cases absent
  | some audit =>
    rw [attemptAudit, ← hreset] at absent
    have found : audit.stateLoadResult = .absent := Option.some.inj absent
    simp only [result, load, found]
    exact ⟨_, rfl⟩

/-- **Authority of the store.**  With evidence, beside a policy-correct state directory, the store
is authoritative exactly if no audit was passed, or the legacy directory is not in order, or the
evidence gets as far as the load. -/
theorem state_authoritative_iff (crypto : Primitives) (request : Request) (live : LiveEvidence)
    (legacyAcquire : LegacyAcquire) (audited : Bool) (evidence : request.live = some live)
    (present : request.stateEntry = .directory) :
    StateAuthoritative crypto request (acquire crypto request legacyAcquire audited) ↔
      audited = false ∨ request.legacyEntry ≠ .directory ∨ reachesLoad crypto live = true := by
  constructor
  · intro authoritative
    by_contra condition
    simp only [not_or, Bool.not_eq_false, ne_eq, not_not, Bool.not_eq_true] at condition
    obtain ⟨rfl, legacy, early⟩ := condition
    obtain ⟨audit, falls⟩ := acquire_early legacyAcquire evidence present
      legacy early
    obtain ⟨load, calls⟩ := acquireFallback_calls request legacyAcquire audit none
    have loaded := authoritative.2 (by rw [falls]; exact calls.mpr legacy)
    rw [falls, load] at loaded
    cases loaded
  · intro condition
    rcases acquire_live_cases crypto legacyAcquire audited evidence present with
      ⟨acquired, same, uncalled, source⟩ |
        ⟨before, audit, rfl, legacy, -, attemptAudit, absent, falls⟩
    · rw [same]
      exact stateAuthoritative_of_uncalled uncalled source
    · have reaches : reachesLoad crypto live = true := by
        rcases condition with unaudited | otherEntry | reaches
        · cases unaudited
        · exact absurd legacy otherEntry
        · exact reaches
      obtain ⟨binding, load, result⟩ := acquireState_loads request.policy
        request.statePath reaches (some before)
      rw [attemptAudit] at result
      have loadResult : audit.stateLoadResult =
          (SelfState.load crypto request.statePath binding request.policy).result :=
        Option.some.inj result
      rw [absent] at loadResult
      have loaded := load_of_result_absent loadResult.symm
      rw [falls, load, loaded]
      refine ⟨?_, fun _ => (acquireFallback_calls request legacyAcquire _ _).1⟩
      rintro ⟨index, artifact⟩
      rw [load_absent_unused loaded index] at artifact
      cases artifact

end Acquire

/-! ## A leftover and an unknown chip -/

/-- The slots are two. -/
local instance twoSlots : NeZero 2 := ⟨by decide⟩

/-- A state directory with one file of an interrupted write, beside a legacy directory in order. -/
def leftoverRequest : Request :=
  { statePath := .directory
      { uid := 0, gid := 0, mode := 0o700,
        files := fun name =>
          if name = .temp .secret 0 then some (createdFile (policyForOwner 0 0) 0o600 []) else none }
    legacyPath := .directory { uid := 0, gid := 0, mode := 0o700, files := fun _ => none }
    policy := policyForOwner 0 0
    legacyOwnerUid := 0
    legacyOwnerGid := 0
    legacyMode := 0o700
    live := some
      { vid := 0x27c6
        pid := 0x5125
        chipId := 0x2502
        app := some app12509
        a2Response := some [0xa2, 0, 0]
        chipResponse := some [0, 0x02, 0x25, 0]
        otp := some (List.replicate 64 0)
        liveValidator := some (List.replicate 32 0)
        bb010002 := none
        tlsProven := false } }

def exampleView : SecureMaterial :=
  { expectedIdentity := app12509Identity
    e4Validator := List.replicate 32 0
    e4ValidatorSha256 := Block.zero 32
    a2ResponseSha256 := Block.zero 32
    chip82ResponseSha256 := Block.zero 32
    otpA6ResponseSha256 := Block.zero 32
    dacValues := fun _ => 0
    config90 := List.replicate 224 0
    config90Sha256 := Block.zero 32
    psk := List.replicate 32 0 }

/-- No CONFIG90 can be derived for an unknown chip, so the store is never loaded, and its default
load result lets the legacy files in beside the leftover. -/
theorem unknown_chip_is_given_legacy_material :
    leftoverRequest.stateEntry = .directory ∧ leftoverRequest.hasArtifact .constant ∧
      ¬ StateAuthoritative .constant leftoverRequest
        (acquire .constant leftoverRequest (.ok (some ⟨exampleView, Block.zero 12⟩)) true) := by
  have present : leftoverRequest.stateEntry = .directory := by decide
  have artifact : leftoverRequest.hasArtifact .constant := ⟨0, by decide⟩
  have acquired : ((acquire .constant leftoverRequest
      (.ok (some ⟨exampleView, Block.zero 12⟩)) true).result.map (·.source)) = .ok .legacy := by
    decide +kernel
  refine ⟨present, artifact, ?_⟩
  intro authoritative
  have source := authoritative.1 artifact
  cases result : (acquire .constant leftoverRequest
      (.ok (some ⟨exampleView, Block.zero 12⟩)) true).result with
  | error error =>
    rw [result] at acquired
    cases acquired
  | ok coordinator =>
    rw [result] at acquired
    exact source coordinator result (Except.ok.inj acquired)

theorem leftover_unaudited_authority :
    StateAuthoritative .constant leftoverRequest
      (acquire .constant leftoverRequest (.ok (some ⟨exampleView, Block.zero 12⟩)) false) :=
  (state_authoritative_iff .constant leftoverRequest _ (.ok (some ⟨exampleView, Block.zero 12⟩))
    false rfl (by decide)).mpr (.inl rfl)

end Goodix.RuntimeCoordinator
