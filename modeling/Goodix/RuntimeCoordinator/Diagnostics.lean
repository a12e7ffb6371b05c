import Goodix.RuntimeCoordinator.Authority
import Goodix.OtpProtection

/-! # What the audit changes

The audit is where a caller reads about an acquisition, and `NULL` is a caller who does not.
The acquisition itself reads one thing back from it: that the store was found absent.  Two
calls that differ in nothing but the audit part there.
-/

namespace Goodix.RuntimeCoordinator

open Octets SelfState LivePreflight

variable {crypto : Primitives} {policy : Policy} {path : PathEntry} {live : LiveEvidence}
  {request : Request}

/-- What a caller sees of a coordinator. -/
structure Outcome where
  source : Source
  decision : Decision
  secureView : SecureMaterial
  fdtSeed : Block 12
  deriving DecidableEq

/-- What a caller sees of a call; `none` for a failure. -/
def Acquired.outcome (acquired : Acquired) : Option Outcome :=
  match acquired.result with
  | .error _ => none
  | .ok coordinator =>
    some ⟨coordinator.source, coordinator.decision, coordinator.secureView, coordinator.fdtSeed⟩

/-- No state is read: the evidence does not get as far as the load, or the store is absent. -/
def findsNoState (crypto : Primitives) (policy : Policy) (path : PathEntry) (live : LiveEvidence) :
    Bool :=
  match live.check with
  | none => true
  | some checked =>
    match derive crypto checked with
    | .error _ => true
    | .ok derived => (SelfState.load crypto path derived.binding policy).result = .absent

/-- Both directories are in order, there is evidence with which no state is read, and the legacy
files can be acquired. -/
def Request.migrates (crypto : Primitives) (request : Request) (legacyAcquire : LegacyAcquire) : Prop :=
  request.stateEntry = .directory ∧ request.legacyEntry = .directory ∧
    (∃ live, request.live = some live ∧
      findsNoState crypto request.policy request.statePath live = true) ∧
    ∃ material, legacyAcquire = .ok (some material)

/-! ## One attempt on the store -/

theorem acquireLoaded_result (live : CheckedEvidence) (derived : Derived) (state : State)
    (first second : Option Audit) :
    (acquireLoaded crypto policy live derived state first).result =
      (acquireLoaded crypto policy live derived state second).result := by
  unfold acquireLoaded
  simp only
  split
  · rfl
  · split
    · rfl
    · rfl

/-- What an attempt gives does not depend on the audit. -/
theorem acquireState_result (policy : Policy) (path : PathEntry) (live : LiveEvidence)
    (first second : Option Audit) :
    (acquireState crypto policy path live first).result =
      (acquireState crypto policy path live second).result := by
  unfold acquireState
  simp only
  split
  · rfl
  split
  · rfl
  split
  · exact acquireLoaded_result _ _ _ _ _
  · rfl
  · rfl
  · rfl

/-- An attempt that reads no state fails, and its audit says that the store is absent. -/
theorem acquireState_unread (unread : findsNoState crypto policy path live = true) (before : Audit)
    (initial : before.stateLoadResult = .absent) :
    (∃ error, (acquireState crypto policy path live (some before)).result = .error error) ∧
      (acquireState crypto policy path live (some before)).audit.map (·.stateLoadResult) =
        some .absent := by
  unfold findsNoState at unread
  unfold acquireState
  simp only
  split
  · exact ⟨⟨_, rfl⟩, by simp [refuse, initial]⟩
  rename_i checked complete
  simp only [complete] at unread
  split
  · exact ⟨⟨_, rfl⟩, by simp [refuse, initial]⟩
  rename_i derived derives
  simp only [derives, decide_eq_true_eq] at unread
  rw [load_of_result_absent unread]
  exact ⟨⟨_, rfl⟩, rfl⟩

/-- An attempt that reads a state does not leave the store absent in the audit. -/
theorem acquireState_read (read : findsNoState crypto policy path live = false) (before : Audit) :
    (acquireState crypto policy path live (some before)).audit.map (·.stateLoadResult) ≠
      some .absent := by
  unfold findsNoState at read
  unfold acquireState
  simp only
  split
  · rename_i incomplete
    simp [incomplete] at read
  rename_i checked complete
  simp only [complete] at read
  split
  · rename_i error failed
    simp [failed] at read
  rename_i derived derives
  simp only [derives, decide_eq_false_iff_not] at read
  split
  · rename_i state loaded
    rw [(acquireLoaded_load crypto policy checked derived state _).2]
    simpa [loaded] using read
  · rename_i error loaded
    simp [refuse, loaded, Load.result]
  · rename_i loaded
    exact absurd (congrArg Load.result loaded) read
  · rename_i loaded
    simp [refuse, loaded, Load.result]

/-! ## The whole call -/

/-- Where the legacy files are asked, the audit says nothing about the answer. -/
theorem acquireFallback_outcome (request : Request) (legacyAcquire : LegacyAcquire)
    (first second : Option Audit) (load otherLoad : Option Load) :
    (acquireFallback request legacyAcquire first load).outcome =
      (acquireFallback request legacyAcquire second otherLoad).outcome := by
  unfold acquireFallback
  simp only
  split
  · unfold acquireLegacy
    split
    · rfl
    · rfl
    · rfl
  · split
    · rfl
    · rfl

/-- Asking the legacy files gives something exactly if they can be acquired. -/
theorem acquireFallback_legacy {legacyAcquire : LegacyAcquire}
    (legacy : request.legacyEntry = .directory) (audit : Option Audit) (load : Option Load) :
    (acquireFallback request legacyAcquire audit load).outcome = none ↔
      ¬ ∃ material, legacyAcquire = .ok (some material) := by
  unfold acquireFallback
  rw [if_pos legacy]
  unfold acquireLegacy
  split
  · simp [Acquired.outcome]
  · simp [Acquired.outcome]
  · simp [Acquired.outcome]

/-- The audit of a call that goes on to its sources. -/
def Request.audit (request : Request) : Audit :=
  { Audit.reset with
    statePresent := request.stateEntry = .directory
    legacyPresent := request.legacyEntry = .directory
    coexistenceObserved := request.stateEntry = .directory && request.legacyEntry = .directory }

/-- Without a state directory or without evidence no attempt is made on the store. -/
theorem acquire_unattempted (crypto : Primitives) (legacyAcquire : LegacyAcquire) (audited : Bool)
    (valid : ¬ (request.stateEntry = .invalid ∨ request.legacyEntry = .invalid))
    (unattempted : request.live = none ∨ request.stateEntry ≠ .directory) :
    ∃ audit, acquire crypto request legacyAcquire audited =
      acquireFallback request legacyAcquire audit none := by
  unfold acquire
  simp only [Bool.or_eq_true, decide_eq_true_eq, if_neg valid]
  split
  · rename_i live evidence present
    cases unattempted with
    | inl missing => rw [missing] at evidence; cases evidence
    | inr absent => exact absurd present absent
  · exact ⟨_, rfl⟩

section Attempted

variable (legacyAcquire : LegacyAcquire) (present : request.stateEntry = .directory)
  (valid : request.legacyEntry ≠ .invalid) (evidence : request.live = some live)
include present valid evidence

/-- A state that is read and used is what the call gives, with an audit and without. -/
theorem acquire_of_state {coordinator : Coordinator}
    (used : (acquireState crypto request.policy request.statePath live none).result = .ok coordinator)
    (audited : Bool) :
    (acquire crypto request legacyAcquire audited).result = .ok coordinator := by
  unfold acquire
  simp only [present, evidence, valid, reduceCtorEq, decide_false, Bool.or_self, Bool.false_eq_true,
    if_false]
  rw [acquireState_result _ _ _ _ none, used]

/-- Without an audit a failing attempt ends the call. -/
theorem acquire_unaudited {error : GError}
    (fails : (acquireState crypto request.policy request.statePath live none).result = .error error) :
    (acquire crypto request legacyAcquire false).outcome = none := by
  have unread : (acquireState crypto request.policy request.statePath live none).audit = none := by
    cases reaches : reachesLoad crypto live with
    | true =>
      obtain ⟨binding, -, result⟩ := acquireState_loads request.policy request.statePath reaches none
      simpa using result
    | false =>
      have result := (acquireState_early request.policy request.statePath reaches none).2.2
      simpa using result
  unfold acquire
  simp only [present, evidence, valid, reduceCtorEq, decide_false, Bool.or_self, Bool.false_eq_true,
    if_false, Option.map_none, unread, fails]
  rfl

/-- With an audit it does so unless the audit has the store absent and there are legacy files. -/
theorem acquire_audited {error : GError}
    (fails : (acquireState crypto request.policy request.statePath live none).result = .error error) :
    if findsNoState crypto request.policy request.statePath live = true ∧
        request.legacyEntry = .directory then
      ∃ audit load, acquire crypto request legacyAcquire true =
        acquireFallback request legacyAcquire audit load
    else (acquire crypto request legacyAcquire true).outcome = none := by
  rw [acquireState_result _ _ _ _ (some request.audit)] at fails
  have reset : request.audit.stateLoadResult = .absent := rfl
  have whole : acquire crypto request legacyAcquire true =
      match (acquireState crypto request.policy request.statePath live (some request.audit)).audit with
      | none =>
        { result := .error (some error)
          audit := none
          load := (acquireState crypto request.policy request.statePath live (some request.audit)).load
          legacyCalled := false }
      | some audit =>
        if audit.stateLoadResult ≠ .absent || request.legacyEntry ≠ .directory then
          { result := .error (some error)
            audit := some audit
            load :=
              (acquireState crypto request.policy request.statePath live (some request.audit)).load
            legacyCalled := false }
        else
          acquireFallback request legacyAcquire (some { audit with decision := .none })
            (acquireState crypto request.policy request.statePath live (some request.audit)).load := by
    rw [Request.audit] at fails ⊢
    unfold acquire
    simp only [present, evidence, valid, reduceCtorEq, decide_false, Bool.or_self,
      Bool.false_eq_true, if_false, if_true, Option.map_some] at fails ⊢
    rw [fails]
    split <;> simp_all
  rw [whole]
  cases unread : findsNoState crypto request.policy request.statePath live with
  | true =>
    have absent := (acquireState_unread unread request.audit reset).2
    cases after : (acquireState crypto request.policy request.statePath live
        (some request.audit)).audit with
    | none => rw [after] at absent; cases absent
    | some audit =>
      rw [after] at absent
      have found : audit.stateLoadResult = .absent := Option.some.inj absent
      by_cases legacy : request.legacyEntry = .directory
      · rw [if_pos ⟨rfl, legacy⟩]
        simp only [found, legacy, ne_eq, not_true, decide_false, Bool.or_self, Bool.false_eq_true,
          if_false]
        exact ⟨_, _, rfl⟩
      · rw [if_neg (by simp [legacy])]
        simp [legacy, Acquired.outcome]
  | false =>
    have kept := acquireState_read unread request.audit
    rw [if_neg (by simp)]
    cases after : (acquireState crypto request.policy request.statePath live
        (some request.audit)).audit with
    | none => rfl
    | some audit =>
      rw [after] at kept
      have other : audit.stateLoadResult ≠ .absent := fun found => kept (congrArg some found)
      simp [other, Acquired.outcome]

end Attempted

/-- **Diagnostics change no decision, except for one.** A call without an audit ends as one with an
audit exactly if it is not a call that has to fall back on the legacy files. -/
theorem audit_changes_nothing_iff (crypto : Primitives) (request : Request)
    (legacyAcquire : LegacyAcquire) :
    (acquire crypto request legacyAcquire false).outcome =
        (acquire crypto request legacyAcquire true).outcome ↔
      ¬ request.migrates crypto legacyAcquire := by
  by_cases invalid : request.stateEntry = .invalid ∨ request.legacyEntry = .invalid
  · refine iff_of_true ?_ ?_
    · unfold acquire
      simp only [Bool.or_eq_true, decide_eq_true_eq, if_pos invalid]
      rfl
    · rintro ⟨state, legacy, -⟩
      simp [state, legacy] at invalid
  by_cases unattempted : request.live = none ∨ request.stateEntry ≠ .directory
  · refine iff_of_true ?_ ?_
    · obtain ⟨first, unaudited⟩ := acquire_unattempted crypto legacyAcquire false invalid unattempted
      obtain ⟨second, audited⟩ := acquire_unattempted crypto legacyAcquire true invalid unattempted
      rw [unaudited, audited]
      exact acquireFallback_outcome _ _ _ _ _ _
    · rintro ⟨state, -, ⟨live, evidence, -⟩, -⟩
      simp [state, evidence] at unattempted
  simp only [not_or, ne_eq, not_not] at invalid unattempted
  obtain ⟨live, evidence⟩ := Option.ne_none_iff_exists'.mp unattempted.1
  have present := unattempted.2
  cases result : (acquireState crypto request.policy request.statePath live none).result with
  | ok coordinator =>
    have unaudited := acquire_of_state legacyAcquire present invalid.2 evidence result false
    have audited := acquire_of_state legacyAcquire present invalid.2 evidence result true
    refine iff_of_true ?_ ?_
    · simp only [Acquired.outcome, unaudited, audited]
    · rintro ⟨-, -, ⟨other, named, unread⟩, -⟩
      obtain rfl : live = other := Option.some.inj (evidence.symm.trans named)
      obtain ⟨⟨error, fails⟩, -⟩ := acquireState_unread unread Audit.reset rfl
      rw [acquireState_result _ _ _ _ none, result] at fails
      cases fails
  | error error =>
    rw [acquire_unaudited legacyAcquire present invalid.2 evidence result]
    have audited := acquire_audited legacyAcquire present invalid.2 evidence result
    split at audited
    · rename_i falls
      obtain ⟨audit, load, same⟩ := audited
      rw [same, eq_comm, acquireFallback_legacy falls.2]
      exact not_congr ⟨fun acquires => ⟨present, falls.2, ⟨live, evidence, falls.1⟩, acquires⟩,
        fun migrates => migrates.2.2.2⟩
    · rename_i ends
      refine iff_of_true audited.symm ?_
      rintro ⟨-, legacy, ⟨other, named, unread⟩, -⟩
      obtain rfl : live = other := Option.some.inj (evidence.symm.trans named)
      exact ends ⟨unread, legacy⟩

/-- An empty state directory beside a legacy directory, and complete evidence. -/
def emptyRequest : Request :=
  { statePath := .directory { uid := 0, gid := 0, mode := 0o700, files := fun _ => none }
    legacyPath := .directory { uid := 0, gid := 0, mode := 0o700, files := fun _ => none }
    policy := policyForOwner 0 0
    legacyOwnerUid := 0
    legacyOwnerGid := 0
    legacyMode := 0o700
    live := some
      { vid := 0x27c6
        pid := 0x5125
        chipId := 0x2504
        app := some app12509
        a2Response := some [0xa2, 0, 0]
        chipResponse := some [0, 0x04, 0x25, 0]
        otp := some Config90.plainOtp.val
        liveValidator := some (List.replicate 32 0)
        bb010002 := none
        tlsProven := false } }

/-- The installed legacy files are found by a caller with an audit only. -/
theorem legacy_set_needs_audit :
    (acquire .constant emptyRequest (.ok (some ⟨exampleView, Block.zero 12⟩)) false).outcome = none ∧
      (acquire .constant emptyRequest (.ok (some ⟨exampleView, Block.zero 12⟩)) true).outcome =
        some ⟨.legacy, .none, exampleView, Block.zero 12⟩ := by
  constructor
  · decide +kernel
  · decide +kernel

end Goodix.RuntimeCoordinator
