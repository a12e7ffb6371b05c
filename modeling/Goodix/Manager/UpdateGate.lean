import Goodix.Manager.Helper
import Goodix.Deployment.Expected

/-! # The gate of an update

The backend is called for an update only where the runtime is known to be older than the payload,
and what the helper answers behind the call is what a second inspection has found.
-/

namespace Goodix.Manager.Helper

open Decimals Values

variable {sight : Sight} {metadata : Metadata} {receipt provenance matcher record runtime : Value}
  {identity words : Text} {current : Response} {sourceId expected : Option Text}
  {surroundings : Surroundings} {answer : Response} {code : Code} {operation : Operation}

/-! ## Checks -/

theorem demand_ok {condition : Prop} [Decidable condition] {result : Unit} :
    demand condition code = .ok result ↔ condition := by
  unfold demand
  split
  · rename_i holds
    exact ⟨fun _ => holds, fun _ => rfl⟩
  · rename_i fails
    exact ⟨nofun, fun holds => absurd holds fails⟩

theorem agrees_string {field : String} (consistent : agrees field record (.string words) = true)
    {other : Value} (recorded : record.field? field = some other) : other = .string words := by
  rw [agrees, recorded] at consistent
  exact Value.equals_string.mp consistent

/-- A version is three numbers between full stops. -/
theorem version_ok {value : Value} {numbers : List Nat} (known : version value = .ok numbers) :
    ∃ major minor patch, value = .string (dotted major minor patch) ∧ numbers = [major, minor, patch] := by
  unfold version at known
  split at known
  · split at known
    · cases known
    · split at known
      · cases known
      · rename_i words stable _
        cases known
        obtain ⟨major, minor, patch, rfl⟩ := isVersion_iff.mp (Bool.not_eq_false _ ▸ stable)
        exact ⟨major, minor, patch, rfl, components_dotted major minor patch⟩
  · cases known

/-- Two versions, of which the first is the lower one as numbers. -/
def Older (runtime payload : Value) : Prop :=
  ∃ major minor patch major' minor' patch', runtime = .string (dotted major minor patch) ∧
    payload = .string (dotted major' minor' patch') ∧
    Lower (major, minor, patch) (major', minor', patch')

theorem older_of_version {payload : Value} {old new : List Nat} (known : version runtime = .ok old)
    (ready : version payload = .ok new) (below : old < new) : Older runtime payload := by
  obtain ⟨major, minor, patch, rfl, rfl⟩ := version_ok known
  obtain ⟨major', minor', patch', rfl, rfl⟩ := version_ok ready
  exact ⟨_, _, _, _, _, _, rfl, rfl, lower_iff.mp below⟩

/-! ## What identifies a runtime -/

/-- How the version of a runtime is known: the registry has it for the inventory that is there, or
the records of the installation say it. -/
inductive Source (sight : Sight) (identity matcher version : Text) (receipt provenance : Value) : Prop where
  | registered (known : historical.lookup identity = some (version, matcher))
      (inventory : sight.sources = .ok identity)
  | recorded (unknown : historical.lookup identity = none)
      (record : Value) (among : record = receipt ∨ record = provenance)
      (states : record.field? "version" = some (.string version))

/-- A runtime whose records agree on what it is. -/
structure Identified (sight : Sight) (identity matcher version : Text) (receipt provenance : Value) :
    Prop where
  received : sight.receipt = .ok receipt
  proven : sight.provenance = .ok provenance
  identified : Deployment.receiptIdentity receipt = .ok identity
  matched : (receipt.field? "matcher").getD (.string sigfm) = .string matcher
  sources : (provenance.get "source_id").equals (receipt.get "source_id") = true
  matchers : ∀ other, provenance.field? "matcher" = some other → other = .string matcher
  versions : ∀ record, record = receipt ∨ record = provenance →
    ∀ other, record.field? "version" = some other → other = .string version
  source : Source sight identity matcher version receipt provenance

/-- A matcher that can be updated from: the present one, or a registered earlier one. -/
def Supported (identity matcher version : Text) : Prop :=
  matcher = chicago ∨ matcher = sigfm ∧ historical.lookup identity = some (version, sigfm)

theorem unqualified_false (qualified : unqualified identity matcher = false) :
    matcher = .string chicago ∨
      matcher = .string sigfm ∧ ∃ version, historical.lookup identity = some (version, sigfm) := by
  unfold unqualified at qualified
  by_cases present : matcher = .string chicago
  · exact .inl present
  · have other : matcher.equals (.string chicago) = false := by
      rw [← Bool.not_eq_true, Value.equals_string]
      exact present
    rw [other, Bool.not_false, Bool.true_and] at qualified
    split at qualified
    · rename_i version knownMatcher known
      simp only [Bool.or_eq_false_iff, bne_eq_false_iff_eq, Bool.not_eq_false',
        Value.equals_string] at qualified
      obtain ⟨rfl, same⟩ := qualified
      exact .inr ⟨same, version, known⟩
    · cases qualified

/-- The version that the records of an installation state. -/
def recordedVersion (receipt provenance : Value) : Value :=
  (receipt.field? "version").getD (provenance.get "version")

theorem checkVersion_ok (checked : checkVersion record = .ok ()) {other : Value}
    (recorded : record.field? "version" = some other) : other.isNull = false := by
  unfold checkVersion at checked
  simp only [recorded, bind_ok] at checked
  obtain ⟨numbers, known, -⟩ := checked
  obtain ⟨-, -, -, rfl, -⟩ := version_ok known
  rfl

/-- Where the version of a runtime can come from. -/
inductive Origin (sight : Sight) (metadata : Metadata) (receipt provenance matcher : Value)
    (identity : Text) (runtime : Value) : Prop where
  | registered {version knownMatcher : Text}
      (known : historical.lookup identity = some (version, knownMatcher))
      (named : matcher = .string knownMatcher) (inventory : sight.sources = .ok identity)
      (recorded : (recordedVersion receipt provenance).isNull = true ∨
        recordedVersion receipt provenance = .string version)
      (same : runtime = .string version)
  | payload (unknown : historical.lookup identity = none) (same : runtime = metadata.version)
  | recorded (unknown : historical.lookup identity = none)
      (same : runtime = recordedVersion receipt provenance)

theorem runtimeVersion_ok
    (found : runtimeVersion sight metadata receipt provenance matcher identity = .ok runtime) :
    (provenance.get "source_id").equals (receipt.get "source_id") = true ∧
      agrees "matcher" provenance matcher = true ∧
      checkVersion receipt = .ok () ∧
      Origin sight metadata receipt provenance matcher identity runtime := by
  unfold runtimeVersion at found
  simp only [bind_ok, demand_ok] at found
  obtain ⟨-, sources, -, matchers, found⟩ := found
  refine ⟨sources, matchers, ?_⟩
  cases known : historical.lookup identity with
  | none =>
    simp only [known, bind_ok] at found
    obtain ⟨⟨⟩, checked, ⟨⟩, -, found⟩ := found
    refine ⟨checked, ?_⟩
    split at found
    · simp only [bind_ok, demand_ok] at found
      obtain ⟨digest, -, -, -, found⟩ := found
      cases found
      exact .payload known rfl
    · cases found
      exact .recorded known rfl
  | some entry =>
    obtain ⟨version, knownMatcher⟩ := entry
    simp only [known, bind_ok, demand_ok, Value.string_equals, Bool.or_eq_true,
      Value.equals_string] at found
    obtain ⟨-, same, digest, inventory, -, rfl, ⟨⟩, checked, ⟨⟩, -, -, recorded, found⟩ := found
    cases found
    exact ⟨checked, .registered known same inventory recorded rfl⟩

/-- An inspection that an update may follow. -/
def Ready (current : Response) : Prop :=
  current.state = .installed ∨
    current.state = .legacy ∧ current.messageCode = .legacyUpgradeAvailable

theorem judge_ok (judged : judge metadata provenance matcher identity runtime = .ok (current, sourceId))
    (ready : Ready current) :
    sourceId = some identity ∧ current.runtimeVersion = runtime ∧
      agrees "version" provenance runtime = true ∧ ∃ numbers, version runtime = .ok numbers := by
  have unready {blocked : Response} (state : blocked.state = .blocked) : ¬ Ready blocked := by
    rintro (installed | ⟨legacy, -⟩)
    · cases state.symm.trans installed
    · cases state.symm.trans legacy
  unfold judge at judged
  split at judged
  · cases judged
    exact absurd ready (unready rfl)
  · simp only [bind_ok, demand_ok] at judged
    obtain ⟨-, consistent, judged⟩ := judged
    split at judged
    · simp only [bind_ok, demand_ok] at judged
      obtain ⟨old, known, new, -, -, -, judged⟩ := judged
      cases judged
      exact ⟨rfl, rfl, consistent, old, known⟩
    · split at judged
      · cases judged
        exact absurd ready (unready rfl)
      · simp only [bind_ok] at judged
        obtain ⟨other, -, judged⟩ := judged
        split at judged
        · cases judged
          exact absurd ready (unready rfl)
        · simp only [bind_ok] at judged
          obtain ⟨old, known, new, -, judged⟩ := judged
          cases judged
          exact ⟨rfl, rfl, consistent, old, known⟩

/-- What an inspection has seen that an update may follow. -/
structure Seen (sight : Sight) (metadata : Metadata) (current : Response) (sourceId : Option Text)
    (receipt provenance matcher : Value) (identity : Text) : Prop where
  source : sourceId = some identity
  received : sight.receipt = .ok receipt
  proven : sight.provenance = .ok provenance
  identified : identify receipt = .ok identity
  matched : (receipt.field? "matcher").getD (.string sigfm) = matcher
  qualified : unqualified identity matcher = false
  found : runtimeVersion sight metadata receipt provenance matcher identity =
    .ok current.runtimeVersion
  consistent : agrees "version" provenance current.runtimeVersion = true
  known : ∃ numbers, version current.runtimeVersion = .ok numbers

theorem inspectRuntime_ok (inspected : inspectRuntime sight metadata = .ok (current, sourceId))
    (ready : Ready current) : ∃ receipt provenance matcher identity,
      Seen sight metadata current sourceId receipt provenance matcher identity := by
  have unready {other : Response} (absent : other.state ≠ .installed)
      (unqualified : other.messageCode ≠ .legacyUpgradeAvailable) : ¬ Ready other := by
    rintro (installed | ⟨-, upgrade⟩)
    · exact absent installed
    · exact unqualified upgrade
  unfold inspectRuntime at inspected
  simp only [bind_ok] at inspected
  obtain ⟨-, -, inspected⟩ := inspected
  split at inspected
  · cases inspected
    exact absurd ready (unready nofun nofun)
  · simp only [bind_ok, demand_ok] at inspected
    obtain ⟨-, -, -, -, receipt, received, identity, identified, inspected⟩ := inspected
    split at inspected
    · cases inspected
      exact absurd ready (unready nofun nofun)
    · rename_i qualified
      simp only [bind_ok] at inspected
      obtain ⟨provenance, proven, inspected⟩ := inspected
      split at inspected
      · cases inspected
      · simp only [bind_ok] at inspected
        obtain ⟨runtime, found, judged⟩ := inspected
        obtain ⟨source, rfl, consistent, known⟩ := judge_ok judged ready
        exact ⟨receipt, provenance, _, identity, source, received, proven, identified, rfl,
          Bool.not_eq_true _ ▸ qualified, found, consistent, known⟩

theorem field_of_get {field : String} (states : record.get field = .string words) :
    record.field? field = some (.string words) := by
  unfold Value.get at states
  cases found : record.field? field with
  | none =>
    rw [found] at states
    cases states
  | some other =>
    rw [found] at states
    exact congrArg some states

/-- A runtime that is older than the payload is one that the registry or the records identify. -/
theorem identified_of_seen {old new : List Nat}
    (seen : Seen sight metadata current sourceId receipt provenance matcher identity)
    (known : version current.runtimeVersion = .ok old) (ready : version metadata.version = .ok new)
    (below : old < new) : ∃ matcher words, current.runtimeVersion = .string words ∧
      Identified sight identity matcher words receipt provenance ∧ Supported identity matcher words := by
  obtain ⟨-, received, proven, identified, matched, qualified, found, consistent, -⟩ := seen
  obtain ⟨sources, matchers, checked, origin⟩ := runtimeVersion_ok found
  obtain ⟨major, minor, patch, stated, -⟩ := version_ok known
  generalize current.runtimeVersion = runtime at *
  generalize dotted major minor patch = words at stated
  have named : Deployment.receiptIdentity receipt = .ok identity := by
    unfold identify at identified
    split at identified
    · rename_i other found
      cases identified
      exact found
    · cases identified
  have supported : ∃ name, matcher = .string name ∧
      (name = chicago ∨ name = sigfm ∧ ∃ version, historical.lookup identity = some (version, sigfm)) := by
    obtain same | ⟨same, registered⟩ := unqualified_false qualified
    · exact ⟨chicago, same, .inl rfl⟩
    · exact ⟨sigfm, same, .inr ⟨rfl, registered⟩⟩
  obtain ⟨name, rfl, supports⟩ := supported
  subst stated
  -- what the records state is the version of the runtime
  have versions (agrees_ : (recordedVersion receipt provenance).isNull = true ∨
      recordedVersion receipt provenance = .string words) : ∀ record,
      record = receipt ∨ record = provenance →
        ∀ other, record.field? "version" = some other → other = .string words := by
    rintro record (rfl | rfl) other states
    · have recorded : recordedVersion record provenance = other := by
        rw [recordedVersion, states]
        rfl
      have proper := checkVersion_ok checked states
      rw [recorded, proper] at agrees_
      exact agrees_.resolve_left nofun
    · exact agrees_string consistent states
  have agreeing : ∀ other, provenance.field? "matcher" = some other → other = .string name :=
    fun other states => agrees_string matchers states
  refine ⟨name, words, rfl, ?_⟩
  cases origin with
  | registered registry named_ inventory recorded same =>
    cases named_
    cases same
    refine ⟨⟨received, proven, named, matched, sources, agreeing, versions recorded,
      .registered registry inventory⟩, ?_⟩
    obtain present | ⟨rfl, version, other⟩ := supports
    · exact .inl present
    · cases registry.symm.trans other
      exact .inr ⟨rfl, registry⟩
  | payload unknown same =>
    -- such a runtime has the version of the payload, and is no older
    rw [same, ready] at known
    cases known
    exact absurd below (List.lt_irrefl old)
  | recorded unknown same =>
    have present : name = chicago := by
      obtain present | ⟨-, version, other⟩ := supports
      · exact present
      · cases unknown.symm.trans other
    refine ⟨⟨received, proven, named, matched, sources, agreeing, versions (.inr same.symm), ?_⟩,
      .inl present⟩
    unfold recordedVersion at same
    cases states : receipt.field? "version" with
    | some other =>
      rw [states] at same
      exact .recorded unknown receipt (.inl rfl) (states.trans (congrArg some same.symm))
    | none =>
      rw [states] at same
      exact .recorded unknown provenance (.inr rfl) (field_of_get same.symm)

/-! ## The execution -/

theorem judge_result (judged : judge metadata provenance matcher identity runtime =
    .ok (current, sourceId)) : current.result ≠ .rolledBack := by
  unfold judge at judged
  split at judged
  · cases judged
    nofun
  · simp only [bind_ok] at judged
    obtain ⟨-, -, judged⟩ := judged
    split at judged
    · simp only [bind_ok] at judged
      obtain ⟨old, -, new, -, -, -, judged⟩ := judged
      cases judged
      nofun
    · split at judged
      · cases judged
        nofun
      · simp only [bind_ok] at judged
        obtain ⟨other, -, judged⟩ := judged
        split at judged
        · cases judged
          nofun
        · simp only [bind_ok] at judged
          obtain ⟨old, -, new, -, judged⟩ := judged
          cases judged
          nofun

/-- No inspection finds a rollback. -/
theorem inspectRuntime_result (inspected : inspectRuntime sight metadata = .ok (current, sourceId)) :
    current.result ≠ .rolledBack := by
  unfold inspectRuntime at inspected
  simp only [bind_ok] at inspected
  obtain ⟨-, -, inspected⟩ := inspected
  split at inspected
  · cases inspected
    nofun
  · simp only [bind_ok] at inspected
    obtain ⟨-, -, -, -, receipt, -, identity, -, inspected⟩ := inspected
    split at inspected
    · cases inspected
      nofun
    · simp only [bind_ok] at inspected
      obtain ⟨provenance, -, inspected⟩ := inspected
      split at inspected
      · cases inspected
      · simp only [bind_ok] at inspected
        obtain ⟨runtime, -, judged⟩ := inspected
        exact judge_result judged

/-- An update is prepared from an inspection that has found an older version. -/
theorem prepare_ok (prepared : prepare .update surroundings metadata current = .ok ()) :
    Ready current ∧ ∃ old new, version current.runtimeVersion = .ok old ∧
      version metadata.version = .ok new ∧ old < new := by
  unfold prepare at prepared
  simp only [reduceCtorEq, if_false, bind_ok, demand_ok, false_and, true_and, false_or, if_true]
    at prepared
  obtain ⟨-, -, -, -, -, ready, old, known, new, offered, -, below, -⟩ := prepared
  exact ⟨ready, old, new, known, offered, below⟩

/-- An update that comes to call the backend. -/
structure Called (surroundings : Surroundings) (metadata : Metadata) (current : Response)
    (sourceId : Option Text) : Prop where
  inspected : inspectRuntime surroundings.before metadata = .ok (current, sourceId)
  ready : Ready current
  older : ∃ old new, version current.runtimeVersion = .ok old ∧
    version metadata.version = .ok new ∧ old < new
  execution : execute .update surroundings metadata = ⟨[.apply sourceId],
    conclude .update surroundings metadata { current with sensorPresent := surroundings.sensor }
      sourceId (surroundings.backend (.apply sourceId))⟩

theorem execute_cases (surroundings : Surroundings) (metadata : Metadata) :
    (∃ error, execute .update surroundings metadata = ⟨[], .error error⟩) ∨
      ∃ current sourceId, Called surroundings metadata current sourceId := by
  cases inspected : inspectRuntime surroundings.before metadata with
  | error error =>
    left
    exact ⟨error, by simp only [execute, inspected]⟩
  | ok found =>
    obtain ⟨current, sourceId⟩ := found
    cases prepared : prepare .update surroundings metadata
        { current with sensorPresent := surroundings.sensor } with
    | error error =>
      left
      exact ⟨error, by simp [execute, inspected, prepared]⟩
    | ok _ =>
      right
      obtain ⟨ready, older⟩ := prepare_ok prepared
      exact ⟨current, sourceId, inspected, ready, older, by simp [execute, inspected, prepared]⟩

/-- What the inspection behind an update has found, where success is reported. -/
structure Succeeded (surroundings : Surroundings) (metadata : Metadata) (after : Response)
    (identity words : Text) : Prop where
  inspected : inspectRuntime surroundings.after metadata = .ok (after, some identity)
  installed : after.state = .installed
  version : after.runtimeVersion = .string words ∧ metadata.version = .string words
  source : metadata.sourceId = .string identity

/-- What a reported rollback rests on. -/
structure RolledBack (surroundings : Surroundings) (metadata : Metadata) (current : Response)
    (sourceId : Option Text) (error : Raised) (errors : Text) : Prop where
  marked : text restorationMarker <:+: errors
  clean : ¬ text incompleteCleanup <+: error.message
  restored : ∃ after, inspectRuntime surroundings.after metadata = .ok (after, sourceId) ∧
    after.state = current.state

theorem recover_cases {error : Raised} {errors : Text}
    (recovered : recover surroundings metadata current sourceId error errors = .ok answer) :
    answer.result ≠ .success ∧ (answer.result = .rolledBack →
      RolledBack surroundings metadata current sourceId error errors) := by
  unfold recover at recovered
  simp only [bind_ok] at recovered
  obtain ⟨restored, inspected, recovered⟩ := recovered
  split at recovered
  · rename_i both
    cases recovered
    refine ⟨nofun, fun _ => ⟨both.1.1, both.1.2, ?_⟩⟩
    unfold isRestored at inspected
    split at inspected
    · rename_i after afterSource found
      have same := (Except.ok.inj inspected).trans both.2
      simp only [Bool.and_eq_true, decide_eq_true_eq] at same
      exact ⟨after, same.2 ▸ found, same.1⟩
    · split at inspected
      · cases inspected
        cases both.2
      · cases inspected
  · cases recovered
    exact ⟨nofun, nofun⟩

theorem finish_ok (finished : finish .update surroundings metadata current = .ok answer) :
    answer.result ≠ .rolledBack ∧
      ∃ after identity words, Succeeded surroundings metadata after identity words := by
  unfold finish at finished
  simp only [bind_ok, demand_ok, reduceCtorEq, if_false, ne_eq, not_false_eq_true, if_true] at finished
  obtain ⟨⟨after, afterSource⟩, inspected, -, installed, -, ⟨version, source⟩, finished⟩ := finished
  cases finished
  refine ⟨show after.result ≠ .rolledBack from inspectRuntime_result inspected, ?_⟩
  obtain ⟨receipt, provenance, matcher, identity, seen⟩ := inspectRuntime_ok inspected (.inl installed)
  obtain ⟨numbers, known⟩ := seen.known
  obtain ⟨major, minor, patch, words, -⟩ := version_ok known
  rw [words, Value.string_equals] at version
  rw [seen.source, Option.map_some, Option.getD_some, Value.string_equals] at source
  exact ⟨after, identity, _, seen.source ▸ inspected, installed, ⟨words, version⟩, source⟩

/-- What an update reports. -/
theorem conclude_cases {ending : Ending}
    (concluded : conclude .update surroundings metadata current sourceId ending = .ok answer) :
    (answer.result = .success →
      ∃ after identity words, Succeeded surroundings metadata after identity words) ∧
    (answer.result = .rolledBack → ∃ error errors, ending = .raised error errors ∧
      RolledBack surroundings metadata current sourceId error errors) := by
  cases ending with
  | raised error errors =>
    simp only [conclude] at concluded
    by_cases caught : error.isCaught = true
    · rw [if_pos caught] at concluded
      obtain ⟨failed, rolled⟩ := recover_cases concluded
      exact ⟨fun success => absurd success failed, fun back => ⟨error, errors, rfl, rolled back⟩⟩
    · rw [if_neg caught] at concluded
      cases concluded
  | returned code errors =>
    unfold conclude at concluded
    simp only [reduceCtorEq, false_and, if_false] at concluded
    obtain ⟨forward, succeeded⟩ := finish_ok concluded
    exact ⟨fun _ => succeeded, fun back => absurd back forward⟩

/-- The backend is called for an update only where the runtime is identified with a version that is
older than the payload's, and its call replaces software only where the identity is still the one
that was inspected.  Success is reported only where the second inspection has found the payload
installed, and a rollback only behind the marker, where it has found the runtime of before. -/
theorem update_gate (surroundings : Surroundings) (metadata : Metadata) :
    (∀ call ∈ (execute .update surroundings metadata).calls,
      ∃ current receipt provenance identity matcher words, call = .apply (some identity) ∧
        inspectRuntime surroundings.before metadata = .ok (current, some identity) ∧
        Identified surroundings.before identity matcher words receipt provenance ∧
        Supported identity matcher words ∧ Older (.string words) metadata.version ∧
        ∀ plan reread first verdicts,
          (∃ event ∈ ((Deployment.applyExpecting plan reread (some (some identity))).run first
            verdicts).trace, ¬ Deployment.Untouched event) →
          Deployment.currentSource reread first = .ok (some identity)) ∧
    (∀ answer, (execute .update surroundings metadata).answer = .ok answer →
      (answer.result = .success →
        ∃ after identity words, Succeeded surroundings metadata after identity words) ∧
      (answer.result = .rolledBack → ∃ current sourceId error errors,
        inspectRuntime surroundings.before metadata = .ok (current, sourceId) ∧
        surroundings.backend (.apply sourceId) = .raised error errors ∧
        RolledBack surroundings metadata current sourceId error errors)) := by
  obtain ⟨error, refused⟩ | ⟨current, sourceId, called⟩ := execute_cases surroundings metadata
  · rw [refused]
    exact ⟨nofun, nofun⟩
  rw [called.execution]
  constructor
  · intro call inside
    obtain ⟨receipt, provenance, matcher, identity, seen⟩ := inspectRuntime_ok called.inspected called.ready
    obtain ⟨old, new, known, offered, below⟩ := called.older
    obtain ⟨matcher, words, stated, identified, supported⟩ :=
      identified_of_seen seen known offered below
    obtain rfl := seen.source
    refine ⟨current, receipt, provenance, identity, matcher, words, List.mem_singleton.mp inside,
      called.inspected, identified, supported, stated ▸ older_of_version known offered below, ?_⟩
    rintro plan reread first verdicts ⟨event, happened, touched⟩
    by_contra differs
    exact touched (Deployment.applyExpecting_untouched plan differs event happened)
  · intro answer concluded
    obtain ⟨succeeded, rolled⟩ := conclude_cases concluded
    refine ⟨succeeded, fun back => ?_⟩
    obtain ⟨error, errors, ended, rolledBack⟩ := rolled back
    exact ⟨current, sourceId, error, errors, called.inspected, ended,
      ⟨rolledBack.marked, rolledBack.clean, rolledBack.restored⟩⟩

-- the marker is the line that the backend prints behind its rollback
example : restorationMarker = Deployment.rollbackMarker := rfl

def payload301 : Metadata where
  version := .string (text "3.0.1")
  release := .int 1
  fedora := .int 44
  sourceId := .string (List.replicate 64 97)

/-- A runtime whose records state its sources, and maybe its version. -/
def recordedRuntime (sourceId : Text) (stated : List (Text × Value)) : Sight where
  lock := .ok ()
  software := true
  preflight := .ok ()
  runtime := true
  receipt := .ok (.dict ([(text "schema", .int 2), (text "source_id", .string sourceId),
    (text "matcher", .string chicago)] ++ stated))
  provenance := .ok (.dict [(text "source_id", .string sourceId)])
  sources := .ok sourceId

/-- The update of the registered 3.0.0, whose receipt states no version. -/
def upgrade300 : Surroundings where
  before := recordedRuntime
    (text "bdc3729d6467636d06045190f08e3eb3852dcc84181e080f9182984c3f0cc5a4") []
  sensor := some true
  prerequisites := .ok ()
  manifest := .ok payload301.sourceId
  provenance := .ok (.dict [(text "version", payload301.version)])
  backend _ := .returned 0 []
  after := recordedRuntime (List.replicate 64 97) [(text "version", payload301.version)]

theorem update_gate_300 :
    ∃ identity matcher words receipt provenance,
      .apply (some identity) ∈ (execute .update upgrade300 payload301).calls ∧
      Identified upgrade300.before identity matcher words receipt provenance ∧
      Supported identity matcher words ∧ Older (.string words) payload301.version := by
  have called : Call.apply (some (text
      "bdc3729d6467636d06045190f08e3eb3852dcc84181e080f9182984c3f0cc5a4")) ∈
        (execute .update upgrade300 payload301).calls := by decide +kernel
  obtain ⟨current, receipt, provenance, identity, matcher, words, same, -, identified, supported, older, -⟩ :=
    (update_gate upgrade300 payload301).1 _ called
  exact ⟨identity, matcher, words, receipt, provenance, same ▸ called, identified, supported, older⟩

end Goodix.Manager.Helper
