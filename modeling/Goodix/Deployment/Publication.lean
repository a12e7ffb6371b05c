import Goodix.Deployment.Materials

/-! # Materials appear complete or not at all

Whatever fails in an import of materials and wherever it is stopped, the destination changes in one
step only, from nothing to what was validated; what is there stays there.
-/

namespace Goodix.Deployment.Materials

open Json Octets Traces Scripts Scripts.Script

variable {α : Type} {sha256 : List UInt8 → List UInt8} {bundle files : Files} {vault : Vault}
  {op : Op} {held : Held} {assumed : Step → Prop}

/-! ## Dictionaries -/

theorem lookup_eq_none {files : Files} {name : String} :
    files.lookup name = none ↔ name ∉ files.map Prod.fst := by
  rw [List.lookup_eq_none_iff]
  simp only [List.mem_map, not_exists, not_and]
  constructor
  · rintro absent entry inside rfl
    simpa using absent entry inside
  · intro absent entry inside
    simpa using fun same : name = entry.1 => absent entry inside same.symm

/-- Two dictionaries with the same contents under the same names. -/
def SameContent (first second : Files) : Prop := ∀ name, first.lookup name = second.lookup name

theorem sameContent_of_sameFiles {first second : Files} (same : sameFiles first second = true) :
    SameContent first second := by
  simp only [sameFiles, Bool.and_eq_true, List.all_eq_true, decide_eq_true_eq] at same
  intro name
  by_cases inFirst : name ∈ first.map Prod.fst
  · obtain ⟨entry, inside, rfl⟩ := List.mem_map.mp inFirst
    exact same.1 entry inside
  · by_cases inSecond : name ∈ second.map Prod.fst
    · obtain ⟨entry, inside, rfl⟩ := List.mem_map.mp inSecond
      exact same.2 entry inside
    · rw [lookup_eq_none.mpr inFirst, lookup_eq_none.mpr inSecond]

theorem mem_of_namesExactly (exactly : namesExactly files = true) (name : String) :
    name ∈ files.map Prod.fst ↔ name ∈ names := by
  simp only [namesExactly, Bool.and_eq_true, List.all_eq_true, List.contains_iff_mem] at exactly
  constructor
  · intro inside
    obtain ⟨entry, listed, rfl⟩ := List.mem_map.mp inside
    exact exactly.1 entry listed
  · exact exactly.2 name

/-- The five files under their names. -/
def written (bundle : Files) (listed : List String) : Files :=
  listed.map fun name => (name, content bundle name)

theorem lookup_written {listed : List String} {name : String} (inside : name ∈ listed) :
    (written bundle listed).lookup name = some (content bundle name) := by
  induction listed with
  | nil => cases inside
  | cons first listed ih =>
    unfold written
    rw [List.map_cons, List.lookup_cons]
    by_cases same : name = first
    · subst same
      simp
    · rw [beq_false_of_ne same]
      exact ih ((List.mem_cons.mp inside).resolve_left same)

/-- All that a validated bundle has is written. -/
theorem written_names (exactly : namesExactly bundle = true) :
    SameContent (written bundle names) bundle := by
  have keys : (written bundle names).map Prod.fst = names := by
    simp [written, Function.comp_def]
  intro name
  by_cases inside : name ∈ names
  · rw [lookup_written inside]
    have there : bundle.lookup name ≠ none := fun absent =>
      lookup_eq_none.mp absent ((mem_of_namesExactly exactly name).mpr inside)
    obtain ⟨data, found⟩ := Option.ne_none_iff_exists'.mp there
    simp [content, found]
  · have out : name ∉ bundle.map Prod.fst := fun listed => inside ((mem_of_namesExactly exactly name).mp listed)
    rw [lookup_eq_none.mpr out, lookup_eq_none.mpr (by rwa [keys])]

/-! ## What a step may do -/

/-- The destination is a directory with the files of the bundle and no others. -/
def Holds (held : Option Held) (bundle : Files) : Prop :=
  ∃ files, held = some (.directory files) ∧ SameContent files bundle

/-- The native check has accepted these files in the staging. -/
def AcceptedIn (history : List Step) (bundle : Files) : Prop :=
  ∃ event ∈ history, event.label = .nativeCheck ∧ event.error = none ∧
    ∃ stage, event.before.stage = some stage ∧ SameContent stage.files bundle

theorem AcceptedIn.append {history later : List Step} (accepted : AcceptedIn history bundle) :
    AcceptedIn (history ++ later) bundle := by
  obtain ⟨event, inside, accepts⟩ := accepted
  exact ⟨event, List.mem_append_left _ inside, accepts⟩

/-- What is at the destination stays there; where nothing is, another process may publish, or the
bundle appears whole, behind its acceptance. -/
structure Publishes (bundle : Files) (history : List Step) (event : Step) : Prop where
  kept : event.before.destination ≠ none → event.after.destination = event.before.destination
  appears : event.before.destination = none → event.after.destination = none ∨
    event.after.destination ∈ event.before.rivals ∨
      (Holds event.after.destination bundle ∧ AcceptedIn history bundle)
  rivals : event.after.rivals ⊆ event.before.rivals

theorem publishes_same {history : List Step} {label : Op} {error : Option Error} :
    Publishes bundle history ⟨label, vault, vault, error⟩ :=
  ⟨fun _ => rfl, .inl, fun _ inside => inside⟩

@[simp] theorem rival_stage (vault : Vault) : vault.rival.stage = vault.stage := by
  unfold Vault.rival
  split <;> rfl

theorem rival_rivals (vault : Vault) : vault.rival.rivals ⊆ vault.rivals := by
  unfold Vault.rival
  split
  · exact fun _ inside => inside
  · rename_i found rivals same
    rw [same]
    exact List.subset_cons_self found rivals

theorem rival_kept (there : vault.destination ≠ none) : vault.rival.destination = vault.destination := by
  unfold Vault.rival
  split
  · rfl
  · obtain ⟨held, found⟩ := Option.ne_none_iff_exists'.mp there
    simp [found]

theorem rival_appears (absent : vault.destination = none) :
    vault.rival.destination = none ∨ vault.rival.destination ∈ vault.rivals := by
  unfold Vault.rival
  split
  · exact .inl absent
  · rename_i found rivals same
    right
    rw [same]
    simp [absent]

theorem perform_destination (other : op ≠ .rename) (vault : Vault) :
    (op.perform vault).destination = vault.destination := by
  cases op <;> first | rfl | exact absurd rfl other

theorem perform_rivals (op : Op) (vault : Vault) : (op.perform vault).rivals = vault.rivals := by
  cases op with
  | rename =>
    simp only [Op.perform]
    split <;> rfl
  | _ => rfl

/-- Every step but the rename leaves the destination to the others. -/
theorem effect_publishes (other : op ≠ .rename) {history : List Step} {error : Option Error} :
    Publishes bundle history ⟨op, vault, op.effect vault, error⟩ := by
  constructor
  · intro there
    exact (perform_destination other vault.rival).trans (rival_kept there)
  · intro absent
    have same : (op.effect vault).destination = vault.rival.destination :=
      perform_destination other vault.rival
    dsimp only
    rw [same]
    exact (rival_appears absent).imp_right .inl
  · dsimp only
    rw [Op.effect, perform_rivals]
    exact rival_rivals vault

/-- The rename publishes the staging where the destination is absent. -/
theorem rename_publishes {history : List Step} {error : Option Error} {stage : Stage}
    (staged : vault.stage = some stage) (whole : SameContent stage.files bundle)
    (accepted : AcceptedIn history bundle) :
    Publishes bundle history ⟨.rename, vault, Op.rename.effect vault, error⟩ := by
  constructor
  · intro there
    obtain ⟨held, found⟩ := Option.ne_none_iff_exists'.mp there
    have stays : vault.rival.destination = some held := (rival_kept there).trans found
    have same : (Op.rename.effect vault).destination = some held := by
      simp [Op.effect, Op.perform, stays]
    exact same.trans found.symm
  · intro absent
    dsimp only
    cases raced : vault.rival.destination with
    | none =>
      refine .inr (.inr ⟨⟨stage.files, ?_, whole⟩, accepted⟩)
      simp [Op.effect, Op.perform, raced, staged]
    | some held =>
      have same : (Op.rename.effect vault).destination = vault.rival.destination := by
        simp [Op.effect, Op.perform, raced]
      rw [same]
      exact (rival_appears absent).imp_right .inl
  · dsimp only
    rw [Op.effect, perform_rivals]
    exact rival_rivals vault

/-! ## Rules -/

/-- A part of the import: its steps publish nothing, or all. -/
abbrev Imports (bundle : Files) (pre : Assertion Op Error Vault) (script : Import α)
    (post : α → Assertion Op Error Vault) : Prop :=
  Meets (fun _ => True) (Publishes bundle) pre script post fun _ _ _ => True

theorem act_imports (other : op ≠ .rename) {pre post : Assertion Op Error Vault}
    (holds : ∀ history vault, pre history vault →
      post (history ++ [⟨op, vault, op.effect vault, none⟩]) (op.effect vault)) :
    Imports bundle pre (act op) fun _ => post := by
  apply meets_step
  intro history vault after error given happens _
  cases happens with
  | done => exact ⟨effect_publishes other, holds history vault given⟩
  | undone error => exact ⟨publishes_same, trivial⟩
  | left error _ => exact ⟨effect_publishes other, trivial⟩

theorem refuse_imports {pre : Assertion Op Error Vault} {post : α → Assertion Op Error Vault}
    (message : String) : Imports bundle pre (refuse message : Import α) post :=
  meets_raise fun _ _ _ _ => ⟨publishes_same, trivial⟩

/-- What a call that changes no content leaves true. -/
def Stable (facts : Assertion Op Error Vault) : Prop :=
  ∀ history vault, facts history vault →
    facts (history ++ [⟨.inspect, vault, Op.inspect.effect vault, none⟩]) (Op.inspect.effect vault)

theorem inspect_imports {facts : Assertion Op Error Vault} (stable : Stable facts) :
    Imports bundle facts (act .inspect) fun _ => facts :=
  act_imports (by simp) stable

theorem finallyDo_imports {pre : Assertion Op Error Vault} {script : Import α} {cleanup : Import Unit}
    {post : α → Assertion Op Error Vault} (first : Imports bundle pre script post)
    (second : Imports bundle (fun _ _ => True) cleanup fun _ _ _ => True) :
    Imports bundle pre (finallyDo cleanup script) post := by
  apply meets_handle _ first
  intro error
  exact meets_bind _ second fun _ => meets_rethrow fun _ _ _ => trivial

/-- The staging has these files. -/
def Staged (files : Files) : Assertion Op Error Vault := fun _ vault =>
  ∃ inode, vault.stage = some ⟨inode, files⟩

theorem staged_stable (files : Files) : Stable (Staged files) := by
  rintro _ vault ⟨inode, staged⟩
  exact ⟨inode, by simp [Op.effect, Op.perform, staged]⟩

theorem destination_of_files (found : Place.files vault .destination = some files) :
    vault.destination = some (.directory files) := by
  simp only [Place.files] at found
  split at found
  · rename_i there
    cases found
    exact there
  · cases found

theorem inspect_anyway : Imports bundle (fun _ _ => True) (act .inspect) fun _ _ _ => True :=
  inspect_imports fun _ _ _ => trivial

theorem demand_imports {facts : Assertion Op Error Vault} (checked : Except String α) :
    Imports bundle facts (demand checked) fun value history vault =>
      checked = .ok value ∧ facts history vault := by
  unfold demand
  split
  · exact meets_pure fun _ _ given => ⟨rfl, given⟩
  · exact refuse_imports _

/-- What is validated is what is there. -/
theorem validateBundle_imports {facts : Assertion Op Error Vault} (stable : Stable facts) (place : Place) :
    Imports bundle facts (validateBundle sha256 place) fun found history vault =>
      place.files vault = some found ∧ facts history vault := by
  apply meets_bind _ (inspect_imports stable)
  intro _
  apply meets_bind fun seen history vault => vault = seen ∧ facts history vault
  · exact meets_get fun _ _ given => ⟨rfl, given⟩
  intro seen
  split
  · exact meets_raise fun _ _ _ _ => ⟨publishes_same, trivial⟩
  · rename_i files found
    apply meets_bind _ (demand_imports _)
    intro _
    apply meets_pure
    rintro _ vault ⟨-, rfl, given⟩
    exact ⟨found, given⟩

/-! ## The parts -/

theorem removeTree_imports (files : Files) :
    Imports bundle (fun _ _ => True) (removeTree files) fun _ _ _ => True := by
  induction files with
  | nil => exact act_imports (by simp) fun _ _ _ => trivial
  | cons entry rest ih =>
    apply meets_bind fun _ _ _ => True
    · exact act_imports (by simp) fun _ _ _ => trivial
    · exact fun _ => ih

theorem discard_imports (identity : Option Nat) :
    Imports bundle (fun _ _ => True) (discard identity) fun _ _ _ => True := by
  apply meets_bind _ inspect_anyway
  intro _
  apply meets_bind _ inspect_anyway
  intro _
  apply meets_bind fun _ _ _ => True
  · exact meets_get fun _ _ _ => trivial
  intro seen
  split
  · exact meets_raise fun _ _ _ _ => ⟨publishes_same, trivial⟩
  · split
    · exact removeTree_imports _
    · exact refuse_imports _

theorem writeFiles_imports :
    Imports bundle (Staged []) (writeFiles bundle) fun _ => Staged (written bundle names) := by
  -- what is not left is written
  refine (meets_forEach (fun rest history vault => ∃ listed, names = listed ++ rest ∧
    Staged (written bundle listed) history vault) ?_).mono
      (fun _ _ staged => ⟨[], rfl, staged⟩) ?_ fun _ _ _ given => given
  · intro name rest
    apply meets_bind fun _ history vault => ∃ listed, names = listed ++ name :: rest ∧
      Staged (written bundle listed ++ [(name, [])]) history vault
    · apply act_imports (by simp)
      rintro history vault ⟨listed, all, inode, staged⟩
      exact ⟨listed, all, inode, by simp [Op.effect, Op.perform, Vault.restage, staged]⟩
    intro _
    apply meets_bind fun _ history vault => ∃ listed, names = listed ++ name :: rest ∧
      Staged (written bundle listed ++ [(name, [])]) history vault
    · apply inspect_imports
      rintro history vault ⟨listed, all, staged⟩
      exact ⟨listed, all, staged_stable _ _ _ staged⟩
    intro _
    apply meets_bind fun _ history vault => ∃ listed, names = listed ++ rest ∧
      Staged (written bundle listed) history vault
    · apply act_imports (by simp)
      rintro history vault ⟨listed, all, inode, staged⟩
      refine ⟨listed ++ [name], by simp [all], inode, ?_⟩
      simp [Op.effect, Op.perform, Vault.restage, staged, written]
    intro _
    apply inspect_imports
    rintro history vault ⟨listed, all, staged⟩
    exact ⟨listed, all, staged_stable _ _ _ staged⟩
  · rintro _ history vault ⟨listed, all, staged⟩
    rw [List.append_nil] at all
    exact all ▸ staged

/-- The staging is ready for its publication. -/
def Ready (bundle : Files) : Assertion Op Error Vault := fun history vault =>
  (∃ stage, vault.stage = some stage ∧ SameContent stage.files bundle) ∧ AcceptedIn history bundle

theorem ready_stable : Stable (Ready bundle) := by
  rintro history vault ⟨⟨stage, staged, whole⟩, accepted⟩
  exact ⟨⟨stage, by simp [Op.effect, Op.perform, staged], whole⟩, accepted.append⟩

/-- The destination is the bundle. -/
def Published (bundle : Files) : Assertion Op Error Vault := fun _ vault => Holds vault.destination bundle

theorem published_stable : Stable (Published bundle) := by
  rintro _ vault ⟨files, found, whole⟩
  have there : vault.destination ≠ none := by simp [found]
  exact ⟨files, (rival_kept there).trans found, whole⟩

theorem publishWithoutReplace_imports :
    Imports bundle (Ready bundle) publishWithoutReplace fun _ => Published bundle := by
  apply meets_bind fun _ history vault => vault.stage = none → Holds vault.destination bundle
  · apply meets_step
    rintro history vault after error ⟨⟨stage, staged, whole⟩, accepted⟩ happens _
    cases happens with
    | done =>
      refine ⟨rename_publishes staged whole accepted, fun gone => ?_⟩
      cases raced : vault.rival.destination with
      | none => exact ⟨stage.files, by simp [Op.effect, Op.perform, raced, staged], whole⟩
      | some held => simp [Op.effect, Op.perform, raced, staged] at gone
    | undone error => exact ⟨publishes_same, trivial⟩
    | left error _ => exact ⟨rename_publishes staged whole accepted, trivial⟩
  intro _
  apply meets_bind fun seen history vault => vault = seen ∧
    (vault.stage = none → Holds vault.destination bundle)
  · exact meets_get fun _ _ given => ⟨rfl, given⟩
  intro seen
  split
  · exact refuse_imports _
  · rename_i gone
    apply meets_pure
    rintro _ vault ⟨rfl, given⟩
    exact given (by simpa using gone)

theorem fillStage_imports (exactly : namesExactly bundle = true) :
    Imports bundle (Staged []) (fillStage sha256 bundle) fun _ => Published bundle := by
  apply meets_bind _ (inspect_imports (staged_stable []))
  intro _
  apply meets_bind _ writeFiles_imports
  intro _
  apply meets_bind _ (validateBundle_imports (staged_stable _) .stage)
  intro _
  -- the check is given what was written
  apply meets_bind fun _ history _ => AcceptedIn history bundle
  · apply act_imports (by simp)
    rintro history vault ⟨-, inode, staged⟩
    exact ⟨_, List.mem_concat_self, rfl, rfl, _, staged, written_names exactly⟩
  intro _
  apply meets_bind _ (validateBundle_imports (fun _ _ accepted => accepted.append) .stage)
  intro staged
  split
  · exact refuse_imports _
  · rename_i same
    have whole := sameContent_of_sameFiles (by simpa using same)
    apply meets_bind fun _ => Ready bundle
    · refine (inspect_imports ready_stable).mono ?_ (fun _ _ _ given => given) fun _ _ _ given => given
      rintro history vault ⟨found, accepted⟩
      obtain ⟨stage, there, rfl⟩ := Option.map_eq_some_iff.mp found
      exact ⟨⟨stage, there, whole⟩, accepted⟩
    · exact fun _ => publishWithoutReplace_imports

theorem stageMaterials_imports (exactly : namesExactly bundle = true) :
    Imports bundle (fun _ _ => True) (stageMaterials sha256 bundle) fun _ => Published bundle := by
  apply meets_bind _ inspect_anyway
  intro _
  apply meets_bind fun _ => Staged []
  · apply finallyDo_imports _ inspect_anyway
    exact act_imports (by simp) fun _ vault _ => ⟨vault.rival.nextInode, rfl⟩
  intro _
  apply meets_bind fun _ => Staged []
  · exact finallyDo_imports (inspect_imports (staged_stable [])) (discard_imports none)
  intro _
  apply meets_bind fun _ => Staged []
  · exact meets_get fun _ _ given => given
  intro seen
  apply meets_bind fun _ => Published bundle
  · exact finallyDo_imports (fillStage_imports exactly) (discard_imports _)
  intro _
  apply meets_bind fun _ => Published bundle
  · exact finallyDo_imports (inspect_imports published_stable) inspect_anyway
  exact fun _ => inspect_imports published_stable

/-- A bundle that is accepted has the five names. -/
theorem namesExactly_of_valid {manifest : Json.Pairs} (valid : validateBytes sha256 bundle = .ok manifest) :
    namesExactly bundle = true := by
  by_contra other
  unfold validateBytes require at valid
  rw [if_neg other] at valid
  cases valid

theorem installMaterials_imports :
    Imports bundle (fun _ _ => True) (installMaterials sha256 bundle)
      fun _ history vault => Published bundle history vault ∧
        ∃ manifest, validateBytes sha256 bundle = .ok manifest := by
  apply meets_bind _ (demand_imports _)
  intro manifest
  apply meets_when
  intro valid
  apply meets_bind _ inspect_anyway
  intro _
  apply meets_bind _ inspect_anyway
  intro _
  apply meets_bind fun _ _ _ => True
  · exact meets_get fun _ _ _ => trivial
  intro seen
  split
  · apply meets_bind _ (validateBundle_imports (fun _ _ _ => trivial) .destination)
    intro existing
    split
    · exact refuse_imports _
    · rename_i same
      have whole := sameContent_of_sameFiles (by simpa using same)
      apply meets_bind fun _ => Published bundle
      · apply act_imports (by simp)
        rintro history vault ⟨found, -⟩
        have held := destination_of_files found
        have there : vault.destination ≠ none := by simp [held]
        exact ⟨existing, (rival_kept there).trans held, whole⟩
      · exact fun _ => meets_pure fun _ _ published => ⟨published, manifest, valid⟩
  · apply meets_bind _ (stageMaterials_imports (namesExactly_of_valid valid))
    exact fun _ => meets_pure fun _ _ published => ⟨published, manifest, valid⟩

/-! ## An import that publishes -/

/-- A vault that no other process uses, and whose native check changes nothing. -/
def alone (destination : Option Held) (stage : Option Stage) (nextInode : Nat) : Vault :=
  ⟨destination, stage, nextInode, [], id⟩

section

variable {destination : Option Held} {stage : Option Stage} {nextInode inode : Nat}
  {manifest : Json.Pairs}

theorem act_does (op : Op) (vault : Vault) : (act op).Does vault () (op.effect vault) :=
  does_step op _ _ _ vault

theorem inspect_does : (act .inspect).Does (alone destination stage nextInode) ()
    (alone destination stage nextInode) :=
  act_does .inspect _

theorem validateBundle_does {place : Place}
    (found : place.files (alone destination stage nextInode) = some files)
    (valid : validateBytes sha256 files = .ok manifest) :
    (validateBundle sha256 place).Does (alone destination stage nextInode) files
      (alone destination stage nextInode) := by
  apply inspect_does.bind
  apply (does_get _).bind
  rw [found]
  dsimp only
  rw [valid]
  exact (does_pure _ manifest).bind (does_pure _ files)

theorem writeFiles_does (bundle : Files) (listed : List String) (files : Files) :
    (forEach listed fun name => do
      act (.create name)
      act .inspect
      act (.write name (content bundle name))
      act .inspect).Does (alone destination (some ⟨inode, files⟩) nextInode) ()
        (alone destination (some ⟨inode, files ++ written bundle listed⟩) nextInode) := by
  induction listed generalizing files with
  | nil =>
    rw [show written bundle [] = [] from rfl, List.append_nil]
    exact does_pure _ ()
  | cons name listed ih =>
    have writes : (do
        act (.create name)
        act .inspect
        act (.write name (content bundle name))
        act .inspect : Import Unit).Does (alone destination (some ⟨inode, files⟩) nextInode) ()
          (alone destination (some ⟨inode, files ++ [(name, content bundle name)]⟩) nextInode) := by
      apply (act_does (.create name) _).bind
      apply inspect_does.bind
      have write := act_does (.write name (content bundle name))
        (alone destination (some ⟨inode, files ++ [(name, [])]⟩) nextInode)
      apply write.bind
      have last : (files ++ [(name, ([] : List UInt8))]).dropLast = files := List.dropLast_concat
      have effect : Op.effect (.write name (content bundle name))
            (alone destination (some ⟨inode, files ++ [(name, [])]⟩) nextInode) =
          alone destination (some ⟨inode, files ++ [(name, content bundle name)]⟩) nextInode := by
        show alone _ (some ⟨inode, (files ++ [(name, ([] : List UInt8))]).dropLast ++ _⟩) _ = _
        rw [last]
        rfl
      rw [effect]
      exact inspect_does
    have rest := ih (files ++ [(name, content bundle name)])
    rw [List.append_assoc] at rest
    exact writes.bind rest

theorem publishWithoutReplace_does (files : Files) :
    publishWithoutReplace.Does (alone none (some ⟨inode, files⟩) nextInode) ()
      (alone (some (.directory files)) none nextInode) :=
  (act_does .rename _).bind ((does_get _).bind (does_pure _ ()))

variable {bundle : Files} (valid : validateBytes sha256 bundle = .ok manifest)
  (ordered : written bundle names = bundle)

include valid ordered

theorem fillStage_does : (fillStage sha256 bundle).Does (alone none (some ⟨inode, []⟩) nextInode) ()
    (alone (some (.directory bundle)) none nextInode) := by
  have writes := @writeFiles_does none nextInode inode bundle names []
  rw [List.nil_append, ordered] at writes
  have validates : (validateBundle sha256 .stage).Does (alone none (some ⟨inode, bundle⟩) nextInode)
      bundle (alone none (some ⟨inode, bundle⟩) nextInode) := validateBundle_does rfl valid
  have same : sameFiles bundle bundle = true := by simp [sameFiles]
  apply inspect_does.bind
  apply writes.bind
  apply validates.bind
  apply (act_does .nativeCheck _).bind
  apply validates.bind
  rw [same]
  exact inspect_does.bind (publishWithoutReplace_does bundle)

theorem installMaterials_does :
    (installMaterials sha256 bundle).Does (alone none none 0) true
      (alone (some (.directory bundle)) none 1) := by
  have fills := @fillStage_does sha256 1 0 manifest bundle valid ordered
  have stages : (stageMaterials sha256 bundle).Does (alone none none 0) ()
      (alone (some (.directory bundle)) none 1) := by
    apply inspect_does.bind
    apply (act_does .mkdtemp _).handle.bind
    apply inspect_does.handle.bind
    apply (does_get _).bind
    apply fills.handle.bind
    exact inspect_does.handle.bind inspect_does
  unfold installMaterials
  rw [valid]
  apply (does_pure _ manifest).bind
  apply inspect_does.bind
  apply inspect_does.bind
  apply (does_get _).bind
  exact stages.bind (does_pure _ true)

end

/-! ## A bundle that is accepted -/

/-- The instruction that is looked for. -/
def plainInstruction : List UInt8 := [0xc7, 0x45, 0x9f, 1, 2, 3, 4, 0xc7, 0x45, 0xa3, 5, 6, 7, 8]

/-- The headers of a library with two sections, and the instruction. -/
def plainHeader : List UInt8 :=
  ascii "MZ" ++ List.replicate 58 0 ++ leOctets 4 0x40 ++
    ascii "PE" ++ List.replicate 4 0 ++ leOctets 2 2 ++ List.replicate 16 0 ++
    List.replicate 8 0 ++ [14, 0x69d0, 14, 168].flatMap (leOctets 4) ++ List.replicate 16 0 ++
    List.replicate 8 0 ++ [6, 0x56f030, 6, 0].flatMap (leOctets 4) ++ List.replicate 16 0 ++
    plainInstruction

def plainDll : List UInt8 := plainHeader ++ List.replicate 5771314 0

/-- Zeros but for octets that clear the CRC, at the start and behind the seed. -/
def plainCacheFront : List UInt8 :=
  [0xff, 0xff, 0xff, 0xff] ++ List.replicate 67 0 ++ [0x01, 0x04, 0xc1, 0x1d, 0xb7]

def plainCache : List UInt8 := plainCacheFront ++ List.replicate 13444 0

/-- The configuration with its registers, and the word that balances their sum. -/
def plainConfig : List UInt8 :=
  leOctets 2 0x9253 ++ List.replicate 115 0 ++ leOctets 2 0x0220 ++ [0, 0] ++ leOctets 2 0x0236 ++
    [0, 0] ++ leOctets 2 0x0238 ++ [0, 0] ++ leOctets 2 0x023a ++ List.replicate 93 0

/-- The five files. -/
def bundleOf (manifest transport config dll cache : List UInt8) : Files :=
  [("target-material-manifest.json", manifest), ("transport-material.bin", transport),
    ("target-config-90.bin", config), ("gfusb.dll", dll), ("fdt-cache.bin", cache)]

def plainBundle : Files :=
  bundleOf (plainMembers ++ [closeBrace]) (transportHeader ++ List.replicate 64 0) plainConfig plainDll
    plainCache

/-- A digest that names the library, and the digest that the manifest has. -/
def plainDigest (data : List UInt8) : List UInt8 :=
  if data.length = dllSize then dllDigest else List.replicate 64 0x61

theorem length_plainDll : plainDll.length = dllSize := by
  rw [plainDll, List.length_append, List.length_replicate]
  rfl

/-- Nothing that begins otherwise is found among zeros. -/
theorem find_zeros {octet : UInt8} (pattern : List UInt8) (apart : octet ≠ 0) (count : Nat) :
    find (octet :: pattern) (List.replicate count 0) = none := by
  induction count with
  | zero => rfl
  | succ count ih => simp [find, List.replicate_succ, apart, ih]

theorem find_instruction : find (plainInstruction.take 12) plainDll = some 168 ∧
    isOnly (plainInstruction.take 12) plainDll 168 = true := by
  constructor
  · decide +kernel
  · have rest : plainDll.drop 169 =
        [0x45, 0x9f, 1, 2, 3, 4, 0xc7, 0x45, 0xa3, 5, 6, 7, 8] ++ List.replicate 5771314 0 := by
      rw [plainDll, List.drop_append_of_le_length (by decide +kernel)]
      rfl
    have none := @find_zeros 0xc7 [0x45, 0x9f, 1, 2, 3, 4, 0xc7, 0x45, 0xa3, 5, 6] (by decide) 5771314
    unfold isOnly
    rw [rest, show plainInstruction.take 12 = [0xc7, 0x45, 0x9f, 1, 2, 3, 4, 0xc7, 0x45, 0xa3, 5, 6]
      from rfl]
    generalize List.replicate 5771314 (0 : UInt8) = zeros at none ⊢
    simp [find, none]

/-- The sections of the library. -/
def plainSections : List Section := [⟨14, 0x69d0, 14, 168⟩, ⟨6, 0x56f030, 6, 0⟩]

theorem rvaBytes_plainSections {data : List UInt8} (size : data.length = dllSize) :
    rvaBytes data 0x56f030 6 plainSections = .ok (slice data 0 6) ∧
      rvaBytes data 0x69d0 14 plainSections = .ok (slice data 168 14) := by
  constructor <;> simp [rvaBytes, plainSections, require, size, dllSize]

/-- A library whose headers lead to an instruction that stands there once is accepted. -/
theorem validatePe_accepts {data : List UInt8} (size : data.length = dllSize)
    (digest : sha256 data = dllDigest) (dos : data.take 2 = ascii "MZ")
    (pe : leValue (slice data 0x3c 4) = 0x40) (mark : slice data 0x40 4 = ascii "PE" ++ [0, 0])
    (count : leValue (slice data (0x40 + 6) 2) = 2)
    (optional : leValue (slice data (0x40 + 20) 2) = 0)
    (sections : (List.range 2).map (fun index => sectionAt data (0x40 + 24 + 0 + 40 * index + 8)) =
      plainSections)
    (instruction : slice data 168 14 = plainInstruction)
    (found : find (plainInstruction.take 12) data = some 168)
    (only : isOnly (plainInstruction.take 12) data 168 = true) : validatePe sha256 data = .ok () := by
  have sized := rvaBytes_plainSections size
  have known : (decide (plainInstruction.take 3 = [0xc7, 0x45, 0x9f]) &&
      decide (slice plainInstruction 7 3 = [0xc7, 0x45, 0xa3])) = true := by decide
  unfold validatePe
  simp only [size, digest, dos, pe, mark, count, optional, sections, sized.1, sized.2, instruction,
    ok_bind, known, found, only]
  simp [require, dllSize, ok_bind]

theorem validatePe_plainDll : validatePe plainDigest plainDll = .ok () := by
  refine validatePe_accepts length_plainDll (if_pos length_plainDll) (by decide +kernel)
    (by decide +kernel) (by decide +kernel) (by decide +kernel) (by decide +kernel) ?_
    (by decide +kernel) find_instruction.1 find_instruction.2
  have first : sectionAt plainDll (0x40 + 24 + 0 + 40 * 0 + 8) = ⟨14, 0x69d0, 14, 168⟩ := by
    simp only [sectionAt, Section.mk.injEq]
    decide +kernel
  have second : sectionAt plainDll (0x40 + 24 + 0 + 40 * 1 + 8) = ⟨6, 0x56f030, 6, 0⟩ := by
    simp only [sectionAt, Section.mk.injEq]
    decide +kernel
  show [sectionAt plainDll _, sectionAt plainDll _] = _
  rw [first, second]
  rfl

theorem crc_plainCache : ImageDecoder.crc32Mpeg2 (plainCache.take 13516) = 0 := by
  have start : [0xff, 0xff, 0xff, 0xff].foldl ImageDecoder.crcOctet 0xffffffff = 0 := by
    decide +kernel
  have seed : [0x01, 0x04, 0xc1, 0x1d, 0xb7].foldl ImageDecoder.crcOctet 0 = 0 := by decide +kernel
  have covered : plainCache.take 13516 = plainCacheFront ++ List.replicate 13440 0 := by
    have front : plainCacheFront.length = 76 := by decide +kernel
    rw [plainCache, List.take_append, front, List.take_of_length_le (by omega), List.take_replicate]
    rfl
  rw [ImageDecoder.crc32Mpeg2, covered, plainCacheFront, List.foldl_append, List.foldl_append,
    List.foldl_append, start, ImageDecoder.crc_zeros, seed, ImageDecoder.crc_zeros]

theorem plainManifest_accepted : ∃ manifest, parseManifest (plainMembers ++ [closeBrace]) =
      some manifest ∧
    ∀ key ∈ ["transport_sha256", "config90_sha256", "fdt_cache_sha256", "otp_a6_response_sha256"],
      digestOf manifest key = List.replicate 64 0x61 := by
  have accepted : (parseManifest (plainMembers ++ [closeBrace])).any (fun manifest =>
      ["transport_sha256", "config90_sha256", "fdt_cache_sha256", "otp_a6_response_sha256"].all
        fun key => digestOf manifest key = List.replicate 64 0x61) = true := by
    decide +kernel
  cases parsed : parseManifest (plainMembers ++ [closeBrace]) with
  | none =>
    rw [parsed] at accepted
    cases accepted
  | some manifest =>
    rw [parsed] at accepted
    exact ⟨manifest, rfl, fun key inside => by
      simpa using List.all_eq_true.mp accepted key inside⟩

theorem validateBytes_plainBundle :
    ∃ manifest, validateBytes plainDigest plainBundle = .ok manifest := by
  obtain ⟨manifest, parsed, named⟩ := plainManifest_accepted
  have apart {data : List UInt8} (other : data.length ≠ dllSize) :
      plainDigest data = List.replicate 64 0x61 := if_neg other
  have sized : (transportHeader ++ List.replicate 64 0).length = 88 ∧ plainConfig.length = 224 ∧
      plainCache.length = 13520 ∧ (plainCache.take 64).length = 64 := by decide +kernel
  obtain ⟨transport, config, cache, otp⟩ := sized
  have exactly : namesExactly plainBundle = true := by simp [namesExactly, plainBundle, bundleOf, names]
  have isText : content plainBundle "target-material-manifest.json" = plainMembers ++ [closeBrace] := rfl
  have isTransport : content plainBundle "transport-material.bin" =
      transportHeader ++ List.replicate 64 0 := rfl
  have isConfig : content plainBundle "target-config-90.bin" = plainConfig := rfl
  have isDll : content plainBundle "gfusb.dll" = plainDll := rfl
  have isCache : content plainBundle "fdt-cache.bin" = plainCache := rfl
  refine ⟨manifest, validateBytes_accepts exactly isText isTransport isConfig isDll isCache
    (by decide +kernel)
    ⟨transport, config, length_plainDll, cache⟩ parsed named ⟨apart ?_, apart ?_, apart ?_, apart ?_⟩
    (by decide +kernel) (by decide +kernel) (by decide +kernel) ?_ (by decide +kernel)
    validatePe_plainDll⟩
  · rw [transport]
    decide
  · rw [config]
    decide
  · rw [cache]
    decide
  · rw [otp]
    decide
  · rw [crc_plainCache]
    decide +kernel

/-! ## Every run -/

/-- What an import promises, wherever its steps fail and wherever it is stopped. -/
structure AllOrNothing (sha256 : List UInt8 → List UInt8) (bundle : Files) (first : Vault)
    (outcome : Outcome Op Error Vault Bool) : Prop where
  linked : Linked first outcome.trace outcome.world
  /-- What is at the destination stays, whoever put it there. -/
  kept : ∀ event ∈ outcome.trace, event.before.destination ≠ none →
    event.after.destination = event.before.destination
  /-- What appears there is of another process, or is all that was validated and accepted. -/
  appears : Justified (fun before event => event.before.destination = none →
    event.after.destination = none ∨ event.after.destination ∈ first.rivals ∨
      (Holds event.after.destination bundle ∧ AcceptedIn before bundle)) outcome.trace
  preserved : first.destination ≠ none → outcome.world.destination = first.destination
  final : first.destination = none → outcome.world.destination = none ∨
    outcome.world.destination ∈ first.rivals ∨
      (Holds outcome.world.destination bundle ∧ AcceptedIn outcome.trace bundle)
  returns : ∀ value, outcome.ending = .returned value → Holds outcome.world.destination bundle ∧
    ∃ manifest, validateBytes sha256 bundle = .ok manifest

/-- What is at the destination, compared with the start. -/
def Followed (bundle : Files) (first : Vault) : Assertion Op Error Vault := fun history vault =>
  vault.rivals ⊆ first.rivals ∧
    (first.destination ≠ none → vault.destination = first.destination) ∧
    (first.destination = none → vault.destination = none ∨ vault.destination ∈ first.rivals ∨
      (Holds vault.destination bundle ∧ AcceptedIn history bundle))

theorem Followed.step {first : Vault} {history : List Step} {event : Step}
    (publishes : Publishes bundle history event) (followed : Followed bundle first history event.before) :
    Followed bundle first (history ++ [event]) event.after := by
  obtain ⟨rivals, preserved, final⟩ := followed
  refine ⟨fun _ inside => rivals (publishes.rivals inside), fun there => ?_, fun absent => ?_⟩
  · have same := preserved there
    exact (publishes.kept (by rwa [same])).trans same
  · by_cases still : event.before.destination = none
    · obtain none | rival | ⟨holds, accepted⟩ := publishes.appears still
      · exact .inl none
      · exact .inr (.inl (rivals rival))
      · exact .inr (.inr ⟨holds, accepted.append⟩)
    · rw [publishes.kept still]
      obtain none | rival | ⟨holds, accepted⟩ := final absent
      · exact absurd none still
      · exact .inr (.inl rival)
      · exact .inr (.inr ⟨holds, accepted.append⟩)

/-- An import of materials is all or nothing. -/
theorem materials_all_or_nothing (sha256 : List UInt8 → List UInt8) (bundle : Files) (first : Vault)
    (verdicts : List (Verdict Error)) :
    AllOrNothing sha256 bundle first ((installMaterials sha256 bundle).run first verdicts) := by
  obtain ⟨linked, lawful, ends⟩ := installMaterials_imports [] first verdicts trivial
    fun _ _ => trivial
  have start : Followed bundle first [] first := ⟨fun _ inside => inside, fun _ => rfl, .inl⟩
  obtain ⟨steps, last⟩ := lawful.invariant (Followed bundle first) (fun _ _ => Followed.step) linked start
  have justified := steps.justified
  constructor
  · exact linked
  · intro event inside
    obtain ⟨before, after, split⟩ := List.append_of_mem inside
    exact (justified before event after split).1.kept
  · refine justified.mono fun before event ⟨publishes, followed, _⟩ absent => ?_
    obtain none | rival | whole := publishes.appears absent
    · exact .inl none
    · exact .inr (.inl (followed.1 rival))
    · exact .inr (.inr whole)
  · exact last.2.1
  · exact last.2.2
  · intro value returned
    rw [returned] at ends
    exact ends

/-- With no failure the bundle is published whole, behind its acceptance in the staging. -/
theorem materials_all_or_nothing_published : ∃ verdicts,
    let outcome := (installMaterials plainDigest plainBundle).run (alone none none 0) verdicts
    outcome.ending = .returned true ∧
      outcome.world.destination = some (.directory plainBundle) ∧
      Holds outcome.world.destination plainBundle ∧ AcceptedIn outcome.trace plainBundle := by
  obtain ⟨manifest, valid⟩ := validateBytes_plainBundle
  obtain ⟨count, does⟩ := installMaterials_does valid rfl
  obtain ⟨trace, ran⟩ := does []
  refine ⟨List.replicate count .done ++ [], ?_⟩
  have promised := materials_all_or_nothing plainDigest plainBundle (alone none none 0)
    (List.replicate count .done ++ [])
  rw [ran] at promised ⊢
  obtain none | rival | accepted := promised.final rfl
  · cases none
  · cases rival
  · exact ⟨rfl, rfl, accepted⟩

end Goodix.Deployment.Materials
