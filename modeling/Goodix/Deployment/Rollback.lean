import Goodix.Deployment.Lifecycle

/-! # What a rollback restores

A rollback whose steps fail with errors it expects either puts back all software, or says that
it is incomplete before it touches the recovery commands.
-/

namespace Goodix.Deployment

open Traces Scripts Scripts.Script

variable {α β : Type} {actor : Actor} {strict : Bool} {assumed : Step → Prop}
  {reason : List Step → Step → Prop} {allowed : Op → World → Prop} {pre : World → Prop}
  {path : Path} {op : Op} {world : World}

/-! ## Copying back -/

/-- The operations that copy a path back. -/
def Copies (path : Path) (op : Op) : Prop :=
  op = .stat path ∨ op = .mkdir path ∨ op = .create path ∨ (∃ item, op = .fill path item) ∨
    (∃ name, op = .createEntry path name) ∨ ∃ name item, op = .fillEntry path name item

/-- The operations on a path. -/
def Touches (path : Path) (op : Op) : Prop := Removes path op ∨ Copies path op

theorem Touches.rest (touches : Touches path op) (world : World) :
    (op.effect world).rest = world.rest := by
  obtain removes | rfl | rfl | rfl | ⟨item, rfl⟩ | ⟨name, rfl⟩ | ⟨name, item, rfl⟩ := touches
  · exact removes.rest world
  · rfl
  · rfl
  · rfl
  · rfl
  · exact modify_rest world path _
  · exact modify_rest world path _

theorem Touches.other (touches : Touches path op) (world : World) {other : Path}
    (differs : other ≠ path) : (op.effect world).paths other = world.paths other := by
  obtain removes | rfl | rfl | rfl | ⟨item, rfl⟩ | ⟨name, rfl⟩ | ⟨name, item, rfl⟩ := touches
  · exact removes.other world differs
  · rfl
  · exact world.put_other _ differs
  · exact world.put_other _ differs
  · exact world.put_other _ differs
  · exact modify_paths world _ differs
  · exact modify_paths world _ differs

/-- An action behind a failure. -/
theorem Acts.failed {script : Deploy α} {post : α → World → Prop}
    (acts : Acts strict actor allowed pre script post) (since : Nat) :
    Meets assumed (fun _ event => Does actor allowed event)
      (fun history world => since ≤ history.length ∧ ¬ Tidy since history ∧ pre world) script
      (fun value history world => since ≤ history.length ∧ ¬ Tidy since history ∧ post value world)
      fun error history _ =>
        since ≤ history.length ∧ ¬ Tidy since history ∧ Raised actor allowed assumed error :=
  ((acts assumed since False).weaken fun _ _ does => does.1).mono
    (fun _ _ given => ⟨given.1, iff_false_intro given.2.1, given.2.2⟩)
    (fun _ _ _ given => ⟨given.1, given.2.1.mp, given.2.2⟩) fun _ _ _ given => given

/-- The two steps that copy an entry. -/
theorem copyEntry_acts (path : Path) (name : String) (item : Item) (done : List Entry) :
    Acts strict actor (fun op _ => Copies path op)
      (fun world => world.paths path = some (.tree done))
      (do
        act actor (.createEntry path name)
        act actor (.fillEntry path name item))
      fun _ world => world.paths path = some (.tree (done ++ [(name, item)])) := by
  apply acts_bind fun _ world => world.paths path = some (.tree (done ++ [(name, .unfinished)]))
  · apply acts_act
    · exact fun _ _ => .inr (.inr (.inr (.inr (.inl ⟨name, rfl⟩))))
    · intro world there
      simp [Op.effect, World.modify, there]
  · intro _
    apply acts_act
    · exact fun _ _ => .inr (.inr (.inr (.inr (.inr ⟨name, item, rfl⟩))))
    · intro world there
      simp [Op.effect, World.modify, there]

/-- Behind a failed entry the others are copied as well, and the copy fails. -/
theorem copyEntries_fails (path : Path) (entries : List Entry) (since : Nat) :
    Meets assumed (fun _ event => Does actor (fun op _ => Copies path op) event)
      (fun history _ => since ≤ history.length ∧ ¬ Tidy since history)
      (copyEntries actor path entries true) (fun _ _ _ => False)
      fun error history _ => since ≤ history.length ∧ ¬ Tidy since history ∧
        Raised actor (fun op _ => Copies path op) assumed error := by
  have acts {op : Op} (touches : Copies path op) : Acts true actor (fun op _ => Copies path op)
      (fun _ => True) (act actor op) fun _ _ => True :=
    acts_act (fun _ _ => touches) fun _ _ => trivial
  induction entries with
  | nil =>
    apply meets_bind fun _ history _ => since ≤ history.length ∧ ¬ Tidy since history
    · exact ((acts (.inl rfl)).failed since).mono (fun _ _ given => ⟨given.1, given.2, trivial⟩)
        (fun _ _ _ given => ⟨given.1, given.2.1⟩) fun _ _ _ given => given
    · intro _
      have clashes : Acts true actor (fun op _ => Copies path op) (fun _ => True)
          (clash actor path : Deploy Unit) fun _ _ => False := acts_clash fun _ _ => .inl rfl
      exact (clashes.failed since).mono (fun _ _ given => ⟨given.1, given.2, trivial⟩)
        (fun _ _ _ given => given.2.2) fun _ _ _ given => given
  | cons entry rest ih =>
    obtain ⟨name, item⟩ := entry
    apply meets_bind fun _ history _ => since ≤ history.length ∧ ¬ Tidy since history
    · apply meets_handle fun error history _ => since ≤ history.length ∧ ¬ Tidy since history ∧
        Raised actor (fun op _ => Copies path op) assumed error
      · have copies : Acts true actor (fun op _ => Copies path op) (fun _ => True) _ fun _ _ => True :=
          acts_bind _ (acts (.inr (.inr (.inr (.inr (.inl ⟨name, rfl⟩))))))
            fun _ => acts (.inr (.inr (.inr (.inr (.inr ⟨name, item, rfl⟩)))))
        exact (copies.failed since).mono (fun _ _ given => ⟨given.1, given.2, trivial⟩)
          (fun _ _ _ given => ⟨given.1, given.2.1⟩) fun _ _ _ given => given
      · intro error
        split
        · exact ih.mono (fun _ _ given => ⟨given.1, given.2.1⟩) (fun _ _ _ => False.elim)
            fun _ _ _ given => given
        · exact meets_rethrow fun _ _ given => given
    · exact fun _ => ih

theorem copyEntries_acts (path : Path) (entries done : List Entry) :
    Acts false actor (fun op _ => Copies path op)
      (fun world => world.paths path = some (.tree done)) (copyEntries actor path entries false)
      fun _ world => world.paths path = some (.tree (done ++ entries)) := by
  induction entries generalizing done with
  | nil =>
    apply acts_bind fun _ world => world.paths path = some (.tree done)
    · exact acts_act (fun _ _ => .inl rfl) fun _ there => there
    · exact fun _ => acts_pure fun world there => by rw [there, List.append_nil]
  | cons entry rest ih =>
    obtain ⟨name, item⟩ := entry
    apply acts_bind fun _ world => world.paths path = some (.tree (done ++ [(name, item)]))
    · intro assumed since clean
      apply meets_handle _ (copyEntry_acts path name item done assumed since clean)
      intro error
      split
      · exact ((copyEntries_fails path rest since).weaken fun _ _ does => ⟨does, nofun⟩).mono
          (fun _ _ given => ⟨given.1, given.2.1⟩) (fun _ _ _ => False.elim) fun _ _ _ given => given
      · exact meets_rethrow fun _ _ given => given
    · intro _
      have later := ih (done ++ [(name, item)])
      rwa [List.append_assoc, List.singleton_append] at later

theorem copyBack_acts (path : Path) (node : Node) :
    Acts false actor (fun op _ => Copies path op) (fun _ => True) (copyBack actor path node)
      fun _ world => world.paths path = some node := by
  cases node with
  | file item =>
    apply acts_then fun _ _ => .inr (.inr (.inl rfl))
    apply acts_act
    · exact fun _ _ => .inr (.inr (.inr (.inl ⟨item, rfl⟩)))
    · exact fun world _ => world.put_paths path _
  | tree entries =>
    apply acts_bind fun _ world => world.paths path = some (.tree [])
    · apply acts_read
      intro seen _
      split
      · exact acts_clash fun _ _ => .inl rfl
      · apply acts_act
        · exact fun _ _ => .inr (.inl rfl)
        · exact fun world _ => world.put_paths path _
    · exact fun _ => copyEntries_acts path entries []

/-! ## The rule and the module -/

/-- The operations of a rollback that are none on a path. -/
def Resets (op : Op) : Prop :=
  Stops op ∨ Unlabels op ∨ Unloads op ∨ op = .addRule ∨ ∃ data, op = .loadModule data

theorem Resets.paths (resets : Resets op) (world : World) : (op.effect world).paths = world.paths := by
  obtain stops | unlabels | unloads | rfl | ⟨data, rfl⟩ := resets
  · exact (show Attends none op world from .inl stops).paths
  · exact (show Attends none op world from .inr (.inl unlabels)).paths
  · exact (show Attends none op world from .inr (.inr (.inl unloads))).paths
  · rfl
  · rfl

theorem restoreRule_acts (before : Bool) :
    Acts strict .rollback (fun op _ => Resets op) (fun _ => True) (restoreRule before)
      fun _ world => world.rule = before := by
  have reads : Resets .inspect := .inl (.inl rfl)
  apply acts_bind _ (materialRule_acts.among fun _ _ call => .inl (.inr (.inr (.inr call))))
  intro there
  -- the rule is there as before, or is made so
  apply acts_bind fun _ world => world.rule = (before || there)
  · apply acts_onlyIf
    · intro both
      apply acts_act (fun _ _ => .inr (.inr (.inr (.inl rfl))))
      intro world _
      simp only [Bool.and_eq_true] at both
      simp [Op.effect, both.1]
    · rintro neither world rfl
      cases before <;> simp_all
  intro _
  apply acts_bind fun _ world => world.rule = before
  · apply acts_onlyIf
    · intro both
      apply acts_act fun _ _ => .inr (.inl (.inr (.inl rfl)))
      intro world _
      simp only [Bool.and_eq_true, Bool.not_eq_true'] at both
      simp [Op.effect, both.2]
    · intro neither world same
      cases before <;> simp_all
  intro _
  apply acts_inspect fun _ _ => reads
  apply acts_read
  rintro seen rfl
  apply acts_bind fun _ world => world.rule = seen.rule
  · apply acts_onlyIf
    · intro _
      apply acts_act fun _ _ => .inr (.inl (.inr (.inr (.inl rfl))))
      rintro world rfl
      rfl
    · rintro _ world rfl
      rfl
  · intro _
    exact acts_act (fun _ _ => .inl (.inr (.inl rfl))) fun _ same => same

/-- The operations that restore the policy module. -/
def Loads (op : Op) : Prop := Unloads op ∨ ∃ data, op = .loadModule data

theorem Loads.resets (loads : Loads op) : Resets op := by
  obtain unloads | load := loads
  · exact .inr (.inr (.inl unloads))
  · exact .inr (.inr (.inr (.inr load)))

theorem Loads.rule (loads : Loads op) (world : World) : (op.effect world).rule = world.rule := by
  obtain unloads | ⟨data, rfl⟩ := loads
  · obtain rfl | rfl | rfl := unloads <;> rfl
  · rfl

theorem installSelinuxModule_acts (data : List UInt8) :
    Acts strict actor (fun op _ => Loads op) (fun _ => True) (installSelinuxModule actor data)
      fun _ world => world.module_ = some ⟨true, data⟩ := by
  have reads : Acts strict actor (fun op _ => Loads op) (fun _ => True) (selinuxModulePresent actor)
      fun found world => world.module_ = found.map (PolicyModule.mk true) :=
    selinuxModulePresent_acts.among fun _ _ read => .inl (read.imp_right .inl)
  apply acts_bind _ reads
  intro current
  cases current with
  | some found =>
    dsimp only
    split
    · rename_i same
      exact acts_pure fun world there => by rw [there, same, Option.map_some]
    · exact acts_refuse fun _ _ => .inl (.inl rfl)
  | none =>
    apply acts_inspect fun _ _ => .inl (.inl rfl)
    apply acts_then fun _ _ => .inr ⟨data, rfl⟩
    apply acts_bind _ reads
    intro again
    split
    · rename_i same
      exact acts_pure fun world there => by rw [there, same, Option.map_some]
    · exact acts_refuse fun _ _ => .inl (.inl rfl)

theorem restoreSelinuxModule_acts (before : Option (List UInt8)) :
    Acts strict actor (fun op _ => Loads op) (fun _ => True) (restoreSelinuxModule actor before)
      fun _ world => world.module_ = before.map (PolicyModule.mk true) := by
  cases before with
  | some data => exact installSelinuxModule_acts data
  | none => exact removeSelinuxModule_acts.among fun _ _ => .inl

/-! ## Collected errors -/

/-- An action is done, or adds its error to the others, or raises an error that is not caught. -/
theorem collect_meets {action : Deploy Unit} {post : World → Prop} {catches : Error → Bool}
    {errors : List Error} (acts : Acts strict actor allowed (fun _ => True) action fun _ => post)
    (good : World → Prop) (kept : ∀ op world, allowed op world → good world → good (op.effect world)) :
    Meets assumed (fun _ event => Does actor allowed event)
      (fun _ world => errors = [] → good world) (collect catches errors action)
      (fun later _ world => later = [] → good world ∧ post world)
      fun error _ _ => Raised actor allowed assumed error ∧ catches error = false := by
  have keeps : ∀ op world, allowed op world → (errors = [] → good world) →
      errors = [] → good (op.effect world) :=
    fun op world may holds clean => kept op world may (holds clean)
  have acted : Meets assumed _ _ action _ _ := (acts.frame (fun world => errors = [] → good world) keeps).plain
  apply meets_handle _ (meets_bind _ (acted.mono (fun _ _ given => ⟨trivial, given⟩)
    (fun _ _ _ given => given) fun _ _ _ given => given) ?_)
  · intro error
    split
    · exact meets_pure fun _ _ _ clean => absurd clean (by simp)
    · rename_i uncaught
      exact meets_rethrow fun _ _ raised => ⟨raised, by simpa using uncaught⟩
  · intro _
    exact meets_pure fun _ _ given clean => ⟨given.2 clean, given.1⟩

theorem collectEach_meets {items : List β} {body : β → Deploy Unit} {catches : Error → Bool}
    {errors : List Error} {fault : Error → Assertion Label Error World}
    (invariant : List β → World → Prop)
    (turn : ∀ item ∈ items, ∀ rest errors, Meets assumed reason
      (fun _ world => errors = [] → invariant (item :: rest) world)
      (collect catches errors (body item))
      (fun later _ world => later = [] → invariant rest world) fault) :
    Meets assumed reason (fun _ world => errors = [] → invariant items world)
      (collectEach catches errors (items.map body))
      (fun later _ world => later = [] → invariant [] world) fault := by
  induction items generalizing errors with
  | nil => exact meets_pure fun _ _ given => given
  | cons item items ih =>
    apply meets_bind _ (turn item List.mem_cons_self items errors)
    exact fun later => ih fun item inside => turn item (List.mem_cons_of_mem _ inside)

/-- A step of an actor failed. -/
def FailedBy (actor : Actor) (history : List Step) : Prop :=
  ∃ event ∈ history, event.label.actor = actor ∧ event.error ≠ none

theorem FailedBy.append {history : List Step} (failed : FailedBy actor history) (trace : List Step) :
    FailedBy actor (history ++ trace) := by
  obtain ⟨event, inside, known⟩ := failed
  exact ⟨event, List.mem_append_left _ inside, known⟩

/-- An action that raises an error has a step of its own that failed. -/
theorem Acts.blames {script : Deploy α} {post : α → World → Prop}
    (acts : Acts strict actor allowed pre script post) :
    Meets assumed (fun _ event => Does actor allowed event) (fun _ world => pre world) script
      (fun value _ world => post value world) fun _ history _ => FailedBy actor history := by
  apply meets_at
  intro history world given
  -- behind the history there are only steps of the actor, and one of them is untidy
  refine (((acts assumed history.length True).frame (fun later _ => history.length ≤ later.length ∧
    ∀ event ∈ later.drop history.length, event.label.actor = actor) ?_).weaken
      fun _ _ does => does.1).mono ?_ (fun _ _ _ given => given.1.2.2) ?_
  · rintro later event ⟨does, -⟩ ⟨within, actors⟩
    refine ⟨by simp only [List.length_append]; omega, ?_⟩
    rw [List.drop_append_of_le_length within]
    intro found inside
    cases List.mem_append.mp inside with
    | inl earlier => exact actors found earlier
    | inr last =>
      cases List.mem_singleton.mp last
      exact does.actor
  · rintro _ _ ⟨rfl, rfl⟩
    exact ⟨⟨Nat.le_refl _, by simp [Tidy], given⟩, Nat.le_refl _, by simp⟩
  · rintro error later _ ⟨⟨-, untidy, -⟩, -, actors⟩
    simp only [Tidy, not_forall] at untidy
    obtain ⟨event, inside, failed⟩ := untidy
    exact ⟨event, List.mem_of_mem_drop inside, actors event inside, failed⟩

/-- Errors that were collected are those of steps that failed. -/
theorem collect_blames {action : Deploy Unit} {post : World → Prop} {catches : Error → Bool}
    {errors : List Error} (acts : Acts strict actor allowed (fun _ => True) action fun _ => post) :
    Meets assumed (fun _ event => Does actor allowed event)
      (fun history _ => errors ≠ [] → FailedBy actor history) (collect catches errors action)
      (fun later history _ => later ≠ [] → FailedBy actor history) fun _ _ _ => True := by
  have acted : Meets assumed _ _ action _ _ := (acts.blames.frame
    (fun history _ => errors ≠ [] → FailedBy actor history)
      fun _ event _ known unclean => (known unclean).append [event])
  apply meets_handle _ (meets_bind _ (acted.mono (fun _ _ given => ⟨trivial, given⟩)
    (fun _ _ _ given => given) fun _ _ _ given => given) ?_)
  · intro error
    split
    · exact meets_pure fun _ _ given _ => given.1
    · exact meets_rethrow fun _ _ _ => trivial
  · exact fun _ => meets_pure fun _ _ given => given.2

theorem collectEach_blames {items : List β} {body : β → Deploy Unit} {catches : Error → Bool}
    {errors : List Error} {post : β → World → Prop}
    (acts : ∀ item ∈ items, Acts strict actor allowed (fun _ => True) (body item) fun _ => post item) :
    Meets assumed (fun _ event => Does actor allowed event)
      (fun history _ => errors ≠ [] → FailedBy actor history)
      (collectEach catches errors (items.map body))
      (fun later history _ => later ≠ [] → FailedBy actor history) fun _ _ _ => True := by
  induction items generalizing errors with
  | nil => exact meets_pure fun _ _ given => given
  | cons item items ih =>
    apply meets_bind _ (collect_blames (acts item List.mem_cons_self))
    exact fun later => ih fun item inside => acts item (List.mem_cons_of_mem _ inside)

/-! ## A rollback that is not interrupted -/

/-- A rollback meets errors it expects, and reports. -/
structure Scope (event : Step) : Prop where
  rescue : event.label.actor = .rescue → ∀ error ∈ event.error, error.isOs = true
  rollback : event.label.actor = .rollback → event.error ≠ some .other
  reports : event.label.op = .print rollbackMarker → event.error = none

/-- A step was allowed that is not in the scope. -/
def Escapes (assumed : Step → Prop) : Prop := ∃ event, assumed event ∧ ¬ Scope event

/-- The marker was to be printed. -/
def Announced (history : List Step) : Prop := ∃ event ∈ history, event.label.op = .print rollbackMarker

/-- The marker was printed. -/
def Printed (history : List Step) : Prop :=
  ∃ event ∈ history, event.label.op = .print rollbackMarker ∧ event.error = none

/-- The rollback said that it is incomplete. -/
def Incomplete (history : List Step) : Prop :=
  ∃ event ∈ history, event.label.actor = .rollback ∧
    (event.error = some (.runtime unquiesced) ∨ event.error = some (.runtime unrestored))

/-- No step outside the transaction touched the commands. -/
def Retained (history : List Step) : Prop :=
  ∀ event ∈ history, event.label.actor.isTransaction = false →
    event.after.paths .normal = event.before.paths .normal ∧
      event.after.paths .force = event.before.paths .force

/-- The software, the rule and the module are as they were. -/
structure Restored (first world : World) : Prop where
  paths : world.paths = first.paths
  rule : world.rule = first.rule
  module_ : world.module_ = first.module_

/-- Everything but the commands is as it was. -/
structure Reverted (first world : World) : Prop where
  project : ∀ path : Path, path.IsProject → world.paths path = first.paths path
  rule : world.rule = first.rule
  module_ : world.module_ = first.module_

/-- The operations of a rollback before the commands are put back. -/
def Reverts (op : Op) : Prop := (∃ path : Path, path.IsProject ∧ Touches path op) ∨ Resets op

theorem Reverts.commands (reverts : Reverts op) (world : World) :
    (op.effect world).paths .normal = world.paths .normal ∧
      (op.effect world).paths .force = world.paths .force := by
  obtain ⟨path, project, touches⟩ | resets := reverts
  · have spares : .normal ≠ path ∧ .force ≠ path := by
      obtain rfl | rfl | rfl | rfl := project <;> exact ⟨nofun, nofun⟩
    exact ⟨touches.other world spares.1, touches.other world spares.2⟩
  · rw [resets.paths world]
    exact ⟨rfl, rfl⟩

theorem touches_ne_print (touches : Touches path op) (line : String) : op ≠ .print line := by
  rintro rfl
  obtain removes | copies := touches
  · obtain same | same | same | same := removes <;> cases same
  · obtain same | same | same | ⟨_, same⟩ | ⟨_, same⟩ | ⟨_, _, same⟩ := copies <;> cases same

theorem Reverts.ne_print (reverts : Reverts op) (line : String) : op ≠ .print line := by
  obtain ⟨path, -, touches⟩ | resets := reverts
  · exact touches_ne_print touches line
  · rintro rfl
    obtain stops | unlabels | unloads | same | ⟨_, same⟩ := resets
    · obtain same | same | same | same := stops <;> cases same
    · obtain same | same | same | same := unlabels <;> cases same
    · obtain same | same | same := unloads <;> cases same
    · cases same
    · cases same

theorem announced_concat {history : List Step} {event : Step}
    (other : event.label.op ≠ .print rollbackMarker) :
    Announced (history ++ [event]) ↔ Announced history := by
  simp [Announced, or_and_right, exists_or, other]

theorem Printed.announced {history : List Step} (printed : Printed history) : Announced history := by
  obtain ⟨event, inside, marker, -⟩ := printed
  exact ⟨event, inside, marker⟩

theorem retained_concat {history : List Step} {event : Step} :
    Retained (history ++ [event]) ↔ Retained history ∧
      (event.label.actor.isTransaction = false → event.after.paths .normal = event.before.paths .normal ∧
        event.after.paths .force = event.before.paths .force) := by
  simp only [Retained, List.mem_append, List.mem_singleton, or_imp, forall_and, forall_eq]
  tauto

/-- What is known of the history until a rollback is done: the marker is not printed, and the
commands are there unless they could not be put back. -/
def Pending (history : List Step) : Prop :=
  ¬ Announced history ∧ (Retained history ∨ FailedBy .rescue history)

theorem Pending.concat {history : List Step} {event : Step} (pending : Pending history)
    (other : event.label.op ≠ .print rollbackMarker)
    (spares : event.label.actor.isTransaction = false →
      event.after.paths .normal = event.before.paths .normal ∧
        event.after.paths .force = event.before.paths .force) : Pending (history ++ [event]) := by
  obtain ⟨silent, retained | failed⟩ := pending
  · exact ⟨by rwa [announced_concat other], .inl (retained_concat.mpr ⟨retained, spares⟩)⟩
  · exact ⟨by rwa [announced_concat other], .inr (failed.append [event])⟩

theorem Does.commands {event : Step} (does : Does .rollback (fun op _ => Reverts op) event) :
    event.after.paths .normal = event.before.paths .normal ∧
      event.after.paths .force = event.before.paths .force := by
  cases does.effect with
  | inl same => rw [same]; exact ⟨rfl, rfl⟩
  | inr same => rw [same]; exact does.allowed.commands _

theorem Pending.reverts {history : List Step} {event : Step} (pending : Pending history)
    (does : Does .rollback (fun op _ => Reverts op) event) : Pending (history ++ [event]) :=
  pending.concat (does.allowed.ne_print _) fun _ => does.commands

/-- What a step owes to the rollback. -/
structure Follows (first : World) (history : List Step) (event : Step) : Prop where
  /-- The marker says that everything is restored. -/
  announces : event.label.op = .print rollbackMarker → Restored first event.after
  /-- Nothing behind the marker changes that. -/
  stays : Announced history → Restored first event.before → Restored first event.after
  /-- Outside the transaction the commands are touched when all else is as it was. -/
  commands : event.label.actor.isTransaction = false →
    (event.after.paths .normal = event.before.paths .normal ∧
      event.after.paths .force = event.before.paths .force) ∨ Reverted first event.before

theorem Does.follows {first : World} {history : List Step} {event : Step}
    (does : Does .rollback (fun op _ => Reverts op) event) (silent : ¬ Announced history) :
    Follows first history event where
  announces marker := absurd marker (does.allowed.ne_print _)
  stays announced := absurd announced silent
  commands _ := .inl does.commands

/-! ## The errors that leave a rollback -/

theorem escapes_of_raised {error : Error} (raised : Raised .rollback allowed assumed error)
    (uncaught : error.isOrdinary = false) : Escapes assumed := by
  obtain ⟨event, does, -, raises, fits⟩ := raised
  refine ⟨event, fits, fun scope => scope.rollback does.actor ?_⟩
  rw [raises]
  cases error with
  | other => rfl
  | _ => cases uncaught

theorem escapes_of_removal {error : Error}
    (raised : Raised .rollback (fun op _ => Removes path op) assumed error)
    (uncaught : error.isOsOrRuntime = false) : Escapes assumed := by
  apply escapes_of_raised raised
  obtain ⟨event, does, may, -, -⟩ := raised
  obtain same | same | same | same := does.allowed <;> rw [same] at may <;> cases error <;>
    simp_all [Op.raises, Error.isOsOrRuntime, Error.isOrdinary]

theorem escapes_of_copy {error : Error}
    (raised : Raised .rollback (fun op _ => Copies path op) assumed error)
    (uncaught : error.isOs = false) : Escapes assumed := by
  apply escapes_of_raised raised
  obtain ⟨event, does, may, -, -⟩ := raised
  obtain same | same | same | ⟨_, same⟩ | ⟨_, same⟩ | ⟨_, _, same⟩ := does.allowed <;>
    rw [same] at may <;> cases error <;> simp_all [Op.raises, Error.isOs, Error.isOrdinary]

theorem escapes_of_rescue {error : Error} (raised : Raised .rescue allowed assumed error)
    (uncaught : error.isOs = false) : Escapes assumed := by
  obtain ⟨event, does, -, raises, fits⟩ := raised
  refine ⟨event, fits, fun scope => ?_⟩
  have expected := scope.rescue does.actor error raises
  rw [uncaught] at expected
  cases expected

/-! ## The parts of a rollback -/

theorem stops_reverts (stops : Stops op) : Reverts op := .inr (.inl stops)

theorem project_reverts (project : path.IsProject) (touches : Touches path op) : Reverts op :=
  .inl ⟨path, project, touches⟩

/-- A step that says that the rollback is incomplete. -/
theorem refusing {message : String} (known : message = unquiesced ∨ message = unrestored) :
    Meets assumed (fun _ event => Does .rollback (fun op _ => Reverts op) event) (fun _ _ => True)
      (refuse .rollback message : Deploy Unit) (fun _ _ _ => False)
      fun _ history _ => Incomplete history := by
  apply meets_raise
  intro history world _ _
  refine ⟨⟨rfl, stops_reverts (.inl rfl), .inl rfl, fun _ _ _ => rfl⟩, _, List.mem_concat_self, rfl, ?_⟩
  obtain rfl | rfl := known
  · exact .inl rfl
  · exact .inr rfl

theorem quiesce_meets (moduleBefore : Option (List UInt8)) :
    Meets assumed (fun _ event => Does .rollback (fun op _ => Reverts op) event) (fun _ _ => True)
      (quiesce moduleBefore) (fun _ _ _ => True)
      fun _ history _ => Escapes assumed ∨ Incomplete history := by
  have stops : Acts true .rollback _ _ _ _ := stopAndVerify_acts
  have restores : Acts true .rollback _ _ _ _ := restoreSelinuxModule_acts moduleBefore
  apply meets_handle fun error _ _ => Raised .rollback (fun op _ => Stops op) assumed error
  · exact (stops.plain.weaken fun _ _ does => does.among fun _ _ => stops_reverts).mono
      (fun _ _ given => given) (fun _ _ _ _ => trivial) fun _ _ _ raised => raised
  intro error
  split
  · apply meets_bind fun _ _ _ => True
    · apply meets_handle fun error _ _ => Raised .rollback (fun op _ => Loads op) assumed error
      · exact (restores.plain.weaken fun _ _ does => does.among fun _ _ loads => .inr loads.resets).mono
          (fun _ _ _ => trivial) (fun _ _ _ _ => trivial) fun _ _ _ raised => raised
      · intro error
        split
        · exact meets_pure fun _ _ _ => trivial
        · rename_i uncaught
          exact meets_rethrow fun _ _ raised => .inl (escapes_of_raised raised (by simpa using uncaught))
    · exact fun _ => (refusing (.inl rfl)).mono (fun _ _ given => given) (fun _ _ _ => False.elim)
        fun _ _ _ => .inr
  · rename_i uncaught
    exact meets_rethrow fun _ _ raised => .inl (escapes_of_raised raised (by simpa using uncaught))

/-- The software is removed first. -/
theorem removals_meet :
    Meets assumed (fun _ event => Does .rollback (fun op _ => Reverts op) event) (fun _ _ => True)
      (collectEach Error.isOsOrRuntime []
        ((softwarePaths.filter fun path => !toolPaths.contains path).map (removePath .rollback)))
      (fun later _ world => later = [] → ∀ path : Path, path.IsProject → world.paths path = none)
      fun _ _ _ => Escapes assumed := by
  have items : ∀ path ∈ softwarePaths.filter fun path => !toolPaths.contains path, path.IsProject := by
    simp [softwarePaths, toolPaths, Path.IsProject]
  refine (collectEach_meets (fun rest world => ∀ path : Path, path.IsProject →
    path ∉ rest → world.paths path = none) ?_).mono ?_ ?_ fun _ _ _ given => given
  · intro path inside rest errors
    have acts : Acts true .rollback _ _ _ _ := removePath_acts path
    refine ((collect_meets acts
      (fun world => ∀ other : Path, other.IsProject → other ∉ path :: rest → world.paths other = none)
      ?_).weaken ?_).mono (fun _ _ given => given) ?_ fun _ _ _ given => escapes_of_removal given.1 given.2
    · intro op world removes gone other project out
      rw [removes.other world fun same => out (same ▸ List.mem_cons_self)]
      exact gone other project out
    · exact fun _ _ does => does.among fun _ _ removes => project_reverts (items path inside) (.inl removes)
    · intro later _ world given clean other project out
      by_cases same : other = path
      · rw [same, (given clean).2]
      · exact (given clean).1 other project (by simp [same, out])
  · rintro _ world - - path project out
    refine absurd ?_ out
    obtain rfl | rfl | rfl | rfl := project <;> decide
  · exact fun _ _ _ given clean path project => given clean path project (by simp)

variable {first : World} {saved : Saved} {moduleBefore : Option (List UInt8)}

theorem IsSnapshot.mem (snapshot : IsSnapshot first saved moduleBefore) {node : Node} :
    (path, node) ∈ saved ↔ first.paths path = some node := by
  rw [snapshot.saved]
  simp only [List.mem_filterMap, Option.map_eq_some_iff, Prod.mk.injEq]
  constructor
  · rintro ⟨_, -, _, there, rfl, rfl⟩
    exact there
  · intro there
    exact ⟨path, by cases path <;> decide, node, there, rfl, rfl⟩

theorem lookup_filterMap (nodes : Path → Option Node) (path : Path) (paths : List Path)
    (inside : path ∈ paths) :
    (paths.filterMap fun path => (nodes path).map fun node => (path, node)).lookup path = nodes path := by
  have absent (paths : List Path) (out : path ∉ paths) :
      (paths.filterMap fun path => (nodes path).map fun node => (path, node)).lookup path = none := by
    rw [List.lookup_eq_none_iff]
    intro entry found
    obtain ⟨other, listed, same⟩ := List.mem_filterMap.mp found
    obtain ⟨node, -, rfl⟩ := Option.map_eq_some_iff.mp same
    simpa using fun same : path = other => out (same ▸ listed)
  induction paths with
  | nil => cases inside
  | cons first rest ih =>
    by_cases same : path = first
    · subst same
      cases there : nodes path with
      | some node => simp [there]
      | none =>
        rw [List.filterMap_cons_none (by rw [there, Option.map_none])]
        by_cases again : path ∈ rest
        · rw [ih again, there]
        · exact absent rest again
    · have listed : path ∈ rest := (List.mem_cons.mp inside).resolve_left same
      cases there : nodes first with
      | some node =>
        rw [List.filterMap_cons_some (by rw [there, Option.map_some]), List.lookup_cons,
          beq_false_of_ne same]
        exact ih listed
      | none =>
        rw [List.filterMap_cons_none (by rw [there, Option.map_none])]
        exact ih listed

theorem IsSnapshot.lookup (snapshot : IsSnapshot first saved moduleBefore) (path : Path) :
    saved.lookup path = first.paths path := by
  rw [snapshot.saved]
  exact lookup_filterMap first.paths path softwarePaths (by cases path <;> decide)

/-- What was saved of the software is copied back. -/
theorem restorations_meet (snapshot : IsSnapshot first saved moduleBefore) (errors : List Error) :
    Meets assumed (fun _ event => Does .rollback (fun op _ => Reverts op) event)
      (fun _ world => errors = [] → ∀ path : Path, path.IsProject → world.paths path = none)
      (collectIf Error.isOs errors (restorations saved))
      (fun later _ world => later = [] → ∀ path : Path, path.IsProject →
        world.paths path = first.paths path)
      fun _ _ _ => Escapes assumed := by
  unfold collectIf
  split
  · refine (collectEach_meets (fun rest world => ∀ path : Path, path.IsProject →
      path ∉ rest.map Prod.fst → world.paths path = first.paths path) ?_).mono ?_ ?_
        fun _ _ _ given => given
    · rintro ⟨path, node⟩ inside rest errors
      simp only [List.mem_filter, Bool.not_eq_true'] at inside
      have project : path.IsProject := by
        have other := inside.2
        revert other
        cases path <;> simp [Path.IsProject, toolPaths]
      refine ((collect_meets (copyBack_acts path node)
        (fun world => ∀ other : Path, other.IsProject → other ∉ path :: rest.map Prod.fst →
          world.paths other = first.paths other) ?_).weaken ?_).mono (fun _ _ given => given) ?_
            fun _ _ _ given => escapes_of_copy given.1 given.2
      · intro op world copies as_before other project out
        rw [Touches.other (.inr copies) world fun same => out (same ▸ List.mem_cons_self)]
        exact as_before other project out
      · exact fun _ _ does => does.among fun _ _ copies => project_reverts project (.inr copies)
      · intro later _ world given clean other project out
        by_cases same : other = path
        · rw [same, (given clean).2, snapshot.mem.mp inside.1]
        · exact (given clean).1 other project (by simp [same, out])
    · intro _ world gone clean path project out
      rw [gone clean path project]
      cases there : first.paths path with
      | none => rfl
      | some node =>
        have other : toolPaths.contains path = false := by
          obtain rfl | rfl | rfl | rfl := project <;> rfl
        refine absurd (List.mem_map.mpr ⟨(path, node), ?_, rfl⟩) out
        exact List.mem_filter.mpr ⟨snapshot.mem.mpr there, by rw [other]; rfl⟩
    · exact fun _ _ _ given clean path project => given clean path project (by simp)
  · rename_i unclean
    apply meets_pure
    intro _ world _ clean
    simp [clean] at unclean

theorem restoreTool_acts (saved : Saved) (path : Path) :
    Acts false .rescue (fun op _ => Touches path op) (fun _ => True) (restoreTool saved path)
      fun _ world => world.paths path = saved.lookup path := by
  apply acts_bind _ ((removePath_acts path).among fun _ _ => .inl)
  intro _
  split
  · rename_i node found
    exact ((copyBack_acts path node).among fun _ _ => .inr).mono (fun _ _ => trivial)
      (fun _ _ there => there.trans found.symm) fun _ _ touches => touches
  · rename_i found
    exact acts_pure fun _ gone => gone.trans found.symm

theorem Reverted.touches (reverted : Reverted first world) (touches : Touches path op)
    (tool : path ∈ toolPaths) : Reverted first (op.effect world) := by
  have rest := touches.rest world
  have rule : (op.effect world).rest.rule = world.rest.rule := by rw [rest]
  have module_ : (op.effect world).rest.module_ = world.rest.module_ := by rw [rest]
  refine ⟨fun other project => ?_, rule.trans reverted.rule, module_.trans reverted.module_⟩
  rw [touches.other world, reverted.project other project]
  rintro rfl
  obtain rfl | rfl | rfl | rfl := project <;> simp [toolPaths] at tool

/-- The operations that put the commands back. -/
def Rescues (op : Op) : Prop := ∃ path ∈ toolPaths, Touches path op

theorem Does.reverted {event : Step} (does : Does .rescue (fun op _ => Rescues op) event)
    (reverted : Reverted first event.before) : Reverted first event.after := by
  obtain ⟨path, tool, touches⟩ := does.allowed
  cases does.effect with
  | inl same => exact same ▸ reverted
  | inr same => exact same ▸ reverted.touches touches tool

/-- The commands are put back last; what fails there is a step of theirs. -/
theorem tools_meet (snapshot : IsSnapshot first saved moduleBefore) :
    Meets assumed (fun _ event => Does .rescue (fun op _ => Rescues op) event)
      (fun _ world => Reverted first world)
      (collectEach Error.isOs [] (toolPaths.map (restoreTool saved)))
      (fun later history world =>
        (later = [] → Restored first world) ∧ (later ≠ [] → FailedBy .rescue history))
      fun _ _ _ => Escapes assumed := by
  have acts (path : Path) (tool : path ∈ toolPaths) : Acts false .rescue (fun op _ => Rescues op)
      (fun _ => True) (restoreTool saved path) fun _ world => world.paths path = saved.lookup path :=
    (restoreTool_acts saved path).among fun _ _ touches => ⟨path, tool, touches⟩
  have restored : Meets assumed (fun _ event => Does .rescue (fun op _ => Rescues op) event)
      (fun _ world => [] = ([] : List Error) → Reverted first world ∧
        ∀ path ∈ toolPaths, path ∉ toolPaths → world.paths path = first.paths path)
      (collectEach Error.isOs [] (toolPaths.map (restoreTool saved)))
      (fun later _ world => later = [] → Reverted first world ∧
        ∀ path ∈ toolPaths, path ∉ ([] : List Path) → world.paths path = first.paths path)
      fun _ _ _ => Escapes assumed := by
    apply collectEach_meets fun rest world => Reverted first world ∧
      ∀ path ∈ toolPaths, path ∉ rest → world.paths path = first.paths path
    intro path tool rest errors
    refine ((collect_meets (restoreTool_acts saved path) (fun world => Reverted first world ∧
        ∀ other ∈ toolPaths, other ∉ path :: rest → world.paths other = first.paths other)
      ?_).weaken fun _ _ does => does.among fun _ _ touches => ⟨path, tool, touches⟩).mono
        (fun _ _ given => given) ?_ fun _ _ _ given => escapes_of_rescue given.1 given.2
    · rintro op world touches ⟨reverted, as_before⟩
      refine ⟨reverted.touches touches tool, fun other listed out => ?_⟩
      rw [touches.other world fun same => out (same ▸ List.mem_cons_self)]
      exact as_before other listed out
    · intro later _ world given clean
      refine ⟨(given clean).1.1, fun other listed out => ?_⟩
      by_cases same : other = path
      · rw [same, (given clean).2, snapshot.lookup]
      · exact (given clean).1.2 other listed (by simp [same, out])
  have both := (restored.both (collectEach_blames acts)).weaken fun _ _ reasons => reasons.1
  refine both.mono ?_ ?_ fun _ _ _ given => given.1
  · exact fun _ _ reverted =>
      ⟨fun _ => ⟨reverted, fun path listed out => absurd listed out⟩, fun unclean => absurd rfl unclean⟩
  · rintro later _ world ⟨given, failed⟩
    refine ⟨fun clean => ⟨funext fun path => ?_, (given clean).1.rule, (given clean).1.module_⟩, failed⟩
    by_cases tool : path ∈ toolPaths
    · exact (given clean).2 path tool (by simp)
    · apply (given clean).1.project
      revert tool
      cases path <;> simp [toolPaths, Path.IsProject]

theorem Rescues.ne_print (rescues : Rescues op) (line : String) : op ≠ .print line := by
  obtain ⟨path, -, touches⟩ := rescues
  exact touches_ne_print touches line

/-- The steps that put the commands back come behind all others, and before the marker. -/
theorem tools_follow (snapshot : IsSnapshot first saved moduleBefore) :
    Meets assumed (Follows first) (fun history world => Reverted first world ∧ ¬ Announced history)
      (collectEach Error.isOs [] (toolPaths.map (restoreTool saved)))
      (fun later history world => ((later = [] → Restored first world) ∧
        (later ≠ [] → FailedBy .rescue history)) ∧ ¬ Announced history)
      fun _ _ _ => Escapes assumed := by
  refine (((tools_meet snapshot).invariant (fun history world =>
    ¬ Announced history ∧ Reverted first world) ?_).weaken ?_).mono ?_ ?_ fun _ _ _ given => given.1
  · rintro history event does ⟨silent, reverted⟩
    exact ⟨by rwa [announced_concat (does.allowed.ne_print _)], does.reverted reverted⟩
  · rintro history event ⟨does, ⟨silent, reverted⟩, -⟩
    exact ⟨fun marker => absurd marker (does.allowed.ne_print _),
      fun announced => absurd announced silent, fun _ => .inr reverted⟩
  · exact fun _ _ given => ⟨given.1, given.2, given.1⟩
  · exact fun _ _ _ given => ⟨given.1, given.2.1⟩

/-- The rollback said that it is incomplete, and the marker is not printed. -/
def Unfinished (history : List Step) : Prop := Incomplete history ∧ Pending history

/-- A part of a rollback before the commands are put back. -/
theorem follows_of_reverting {script : Deploy α} {pre : Assertion Label Error World}
    {post : α → Assertion Label Error World} {fault : Error → Assertion Label Error World}
    (meets : Meets assumed (fun _ event => Does .rollback (fun op _ => Reverts op) event) pre script
      post fault) :
    Meets assumed (Follows first) (fun history world => pre history world ∧ Pending history) script
      (fun value history world => post value history world ∧ Pending history)
      fun error history world => fault error history world ∧ Pending history :=
  (meets.invariant (fun history _ => Pending history) fun _ _ does pending =>
    pending.reverts does).weaken fun _ _ given => given.1.follows given.2.1.1

theorem refuses_unrestored :
    Meets assumed (Follows first) (fun history _ => Pending history)
      (refuse .rollback unrestored : Deploy Unit) (fun _ _ _ => False)
      fun _ history _ => Escapes assumed ∨ Unfinished history :=
  (follows_of_reverting (refusing (.inr rfl))).mono (fun _ _ pending => ⟨trivial, pending⟩)
    (fun _ _ _ given => given.1) fun _ _ _ given => .inr given

/-- A rollback that returns has restored everything; one that raises an error says that it is
incomplete, unless an error came that it does not expect. -/
theorem rollback_meets (snapshot : IsSnapshot first saved moduleBefore) :
    Meets assumed (Follows first) (fun history _ => Pending history)
      (rollback saved first.rule moduleBefore)
      (fun _ history world => Restored first world ∧ ¬ Announced history)
      fun _ history _ => Escapes assumed ∨ Unfinished history := by
  apply meets_bind fun _ history _ => Pending history
  · exact (follows_of_reverting (quiesce_meets moduleBefore)).mono (fun _ _ given => ⟨trivial, given⟩)
      (fun _ _ _ given => given.2) fun _ _ _ given => given.1.imp id fun said => ⟨said, given.2⟩
  intro _
  apply meets_bind _ ((follows_of_reverting removals_meet).mono (fun _ _ given => ⟨trivial, given⟩)
    (fun _ _ _ given => given) fun _ _ _ given => .inl given.1)
  intro errors
  apply meets_bind _ ((follows_of_reverting (restorations_meet snapshot errors)).mono
    (fun _ _ given => given) (fun _ _ _ given => given) fun _ _ _ given => .inl given.1)
  intro errors
  have keeps (world : World) {op : Op} (resets : Resets op)
      (same : ∀ path : Path, path.IsProject → world.paths path = first.paths path) :
      ∀ path : Path, path.IsProject → (op.effect world).paths path = first.paths path := by
    rwa [resets.paths world]
  have rule : Acts true .rollback _ _ _ _ := restoreRule_acts first.rule
  apply meets_bind fun later history world => (later = [] →
    (∀ path : Path, path.IsProject → world.paths path = first.paths path) ∧
      world.rule = first.rule) ∧ Pending history
  · exact (follows_of_reverting ((collect_meets rule _ fun _ _ resets same =>
      keeps _ resets same).weaken fun _ _ does => does.among fun _ _ => .inr)).mono
        (fun _ _ given => given) (fun _ _ _ given => given)
        fun _ _ _ given => .inl (escapes_of_raised given.1.1 given.1.2)
  intro errors
  have module_ : Acts true .rollback _ _ _ _ := restoreSelinuxModule_acts moduleBefore
  apply meets_bind fun later history world => (later = [] → Reverted first world) ∧ Pending history
  · refine (follows_of_reverting ((collect_meets module_ (fun world =>
      (∀ path : Path, path.IsProject → world.paths path = first.paths path) ∧ world.rule = first.rule)
        ?_).weaken fun _ _ does => does.among fun _ _ loads => .inr loads.resets)).mono
          (fun _ _ given => given) ?_ fun _ _ _ given => .inl (escapes_of_raised given.1.1 given.1.2)
    · exact fun op world loads same => ⟨keeps _ loads.resets same.1, (loads.rule world).trans same.2⟩
    · rintro later _ world ⟨given, pending⟩
      refine ⟨fun clean => ?_, pending⟩
      obtain ⟨⟨paths, rule⟩, loaded⟩ := given clean
      exact ⟨paths, rule, loaded.trans snapshot.module_.symm⟩
  intro errors
  -- the commands are put back only where nothing has failed before
  apply meets_bind fun later history world =>
    (later = [] → Restored first world ∧ ¬ Announced history) ∧ (later ≠ [] → Pending history)
  · cases errors with
    | nil =>
      refine (tools_follow snapshot).mono (fun _ _ given => ⟨given.1 rfl, given.2.1⟩) ?_ fun _ _ _ => .inl
      rintro later _ _ ⟨⟨restored, failed⟩, silent⟩
      exact ⟨fun clean => ⟨restored clean, silent⟩, fun unclean => ⟨silent, .inr (failed unclean)⟩⟩
    | cons error errors => exact meets_pure fun _ _ given => ⟨by simp, fun _ => given.2⟩
  intro later
  split
  · rename_i clean
    exact meets_pure fun _ _ given => given.1 (by simpa using clean)
  · rename_i unclean
    exact refuses_unrestored.mono (fun _ _ given => given.2 (by simpa using unclean))
      (fun _ _ _ => False.elim) fun _ _ _ given => given

/-! ## How a rollback ends -/

/-- Either everything is restored and reported, or the rollback says that it is incomplete, unless
a step escapes it. -/
def Settled (assumed : Step → Prop) (first : World) (history : List Step) (world : World) : Prop :=
  Escapes assumed ∨ (Restored first world ∧ Printed history) ∨ Unfinished history

theorem undoing_meets (snapshot : IsSnapshot first saved moduleBefore) (error : Error) :
    Meets assumed (Follows first) (fun history _ => Pending history)
      (undoing saved first.rule moduleBefore error) (fun _ _ _ => False)
      fun _ => Settled assumed first := by
  apply meets_bind _ ((rollback_meets snapshot).mono (fun _ _ given => given) (fun _ _ _ given => given)
    fun _ _ _ ends => ends.imp id .inr)
  intro _
  apply meets_bind fun _ history world => Restored first world ∧ Printed history
  · apply meets_step
    rintro history world after error ⟨restored, silent⟩ happens fits
    have same : after = world := by cases happens <;> rfl
    subst same
    refine ⟨⟨fun _ => restored, fun _ => id, fun _ => .inl ⟨rfl, rfl⟩⟩, ?_⟩
    -- a marker that cannot be printed is out of scope
    cases error with
    | none => exact ⟨restored, _, List.mem_concat_self, rfl, rfl⟩
    | some error => exact .inl ⟨_, fits, fun scope => absurd (scope.reports rfl) (by simp)⟩
  · exact fun _ => meets_rethrow fun _ _ ends => .inr (.inl ends)

theorem Prepares.restored {start : Option Mask} (prepares : Prepares start op world)
    (restored : Restored first world) : Restored first (op.effect world) := by
  obtain rfl | stops | masks | ⟨line, rfl, -⟩ := prepares
  · exact restored
  · obtain rfl | rfl | rfl | rfl := stops <;> exact ⟨restored.paths, restored.rule, restored.module_⟩
  · obtain rfl | rfl | ⟨rfl, -⟩ | ⟨rfl, -⟩ := masks <;>
      exact ⟨restored.paths, restored.rule, restored.module_⟩
  · exact restored

theorem Prepares.ne_marker {start : Option Mask} (prepares : Prepares start op world) :
    op ≠ .print rollbackMarker := by
  rintro rfl
  obtain same | stops | masks | ⟨line, same, other⟩ := prepares
  · cases same
  · obtain same | same | same | same := stops <;> cases same
  · obtain same | same | ⟨same, -⟩ | ⟨same, -⟩ := masks <;> cases same
  · cases same
    exact other rfl

/-- The steps before and behind a transaction leave the software as it is. -/
theorem Does.settles {start : Option Mask} {event : Step} (does : Does .lifecycle (Prepares start) event) :
    event.after.paths = event.before.paths ∧
      (Restored first event.before → Restored first event.after) := by
  cases does.effect with
  | inl same => exact ⟨by rw [same], fun restored => same ▸ restored⟩
  | inr same =>
    exact ⟨by rw [same, does.allowed.paths], fun restored => same ▸ does.allowed.restored restored⟩

/-- The release of the mask does not change how a rollback ended. -/
theorem Settled.lifecycle {start : Option Mask} {history : List Step} {event : Step}
    (settled : Settled assumed first history event.before) (does : Does .lifecycle (Prepares start) event) :
    Settled assumed first (history ++ [event]) event.after := by
  have ⟨paths, restores⟩ := @Does.settles first _ _ does
  obtain escapes | ⟨restored, found, inside, printed⟩ | ⟨⟨found, inside, known⟩, pending⟩ := settled
  · exact .inl escapes
  · exact .inr (.inl ⟨restores restored, found, List.mem_append_left _ inside, printed⟩)
  · refine .inr (.inr ⟨⟨found, List.mem_append_left _ inside, known⟩, ?_⟩)
    exact pending.concat does.allowed.ne_marker fun _ => ⟨by rw [paths], by rw [paths]⟩

theorem settles (assumed : Step → Prop) (first : World) : Undoes first assumed (Follows first)
    (fun history _ => Pending history) (Settled assumed first) := by
  have regular {event : Step} (step : Regular first.mask event) :
      event.label.op ≠ .print rollbackMarker ∧ (event.label.actor.isTransaction = false →
        event.after.paths .normal = event.before.paths .normal ∧
          event.after.paths .force = event.before.paths .force) := by
    refine ⟨fun same => ?_, fun outside => ?_⟩
    · have guards := step.does.allowed
      rw [same] at guards
      exact guards rfl
    · rw [step.spares outside]
      exact ⟨rfl, rfl⟩
  constructor
  · intro history event does
    have ⟨paths, restores⟩ := @Does.settles first _ _ does
    exact ⟨fun marker => absurd marker does.allowed.ne_marker, fun _ => restores,
      fun _ => .inl ⟨by rw [paths], by rw [paths]⟩⟩
  · intro history event step pending
    exact ⟨fun marker => absurd marker (regular step).1, fun announced => absurd announced pending.1,
      fun outside => .inl ((regular step).2 outside)⟩
  · exact fun _ _ step pending => pending.concat (regular step).1 (regular step).2
  · exact fun _ _ does settled => settled.lifecycle (does.among fun _ _ masks => .inr (.inr (.inl masks)))
  · exact fun _ _ error snapshot => undoing_meets snapshot error

/-! ## The steps of a rollback -/

/-- A step of a rollback: of its first part, or of its end, which puts the commands back. -/
def Reverses (event : Step) : Prop :=
  Does .rollback (fun op _ => Reverts op ∨ op = .print rollbackMarker) event ∨
    Does .rescue (fun op _ => ∃ path ∈ toolPaths, Touches path op) event

/-- A script whose steps are those of a rollback, however it ends. -/
def Reversing (script : Deploy α) : Prop :=
  Meets (fun _ => True) (fun _ event => Reverses event) (fun _ _ => True) script
    (fun _ _ _ => True) fun _ _ _ => True

theorem Reversing.bind {script : Deploy α} {next : α → Deploy β} (first : Reversing script)
    (second : ∀ value, Reversing (next value)) : Reversing (script >>= next) :=
  meets_bind _ first second

theorem Reversing.handle {script : Deploy α} {handler : Error → Deploy α} (first : Reversing script)
    (second : ∀ error, Reversing (handler error)) : Reversing (script.handle handler) :=
  meets_handle _ first second

theorem reversing_pure (value : α) : Reversing (pure value : Deploy α) := meets_pure fun _ _ _ => trivial

theorem reversing_rethrow (error : Error) : Reversing (rethrow error : Deploy α) :=
  meets_rethrow fun _ _ _ => trivial

theorem reversing_refuse (message : String) : Reversing (refuse .rollback message : Deploy α) :=
  meets_raise fun _ _ _ _ =>
    ⟨.inl ⟨rfl, .inl (.inr (.inl (.inl rfl))), .inl rfl, fun _ _ _ => rfl⟩, trivial⟩

theorem Acts.reversing {script : Deploy α} {post : α → World → Prop}
    (acts : Acts strict .rollback (fun op _ => Reverts op) (fun _ => True) script post) :
    Reversing script :=
  (acts.plain.weaken fun _ _ does => .inl (does.among fun _ _ => .inl)).mono
    (fun _ _ given => given) (fun _ _ _ _ => trivial) fun _ _ _ _ => trivial

theorem reversing_collect {catches : Error → Bool} {errors : List Error} {action : Deploy Unit}
    (acts : Reversing action) : Reversing (collect catches errors action) := by
  apply Reversing.handle (acts.bind fun _ => reversing_pure _)
  intro error
  split
  · exact reversing_pure _
  · exact reversing_rethrow error

theorem reversing_collectEach {catches : Error → Bool} {actions : List (Deploy Unit)}
    (each : ∀ action ∈ actions, Reversing action) (errors : List Error) :
    Reversing (collectEach catches errors actions) := by
  induction actions generalizing errors with
  | nil => exact reversing_pure errors
  | cons action actions ih =>
    apply (reversing_collect (each action List.mem_cons_self)).bind
    exact ih fun action inside => each action (List.mem_cons_of_mem _ inside)

theorem reversing_collectIf {catches : Error → Bool} {actions : List (Deploy Unit)}
    (each : ∀ action ∈ actions, Reversing action) (errors : List Error) :
    Reversing (collectIf catches errors actions) := by
  unfold collectIf
  split
  · exact reversing_collectEach each errors
  · exact reversing_pure errors

theorem reversing_restoreSelinuxModule (before : Option (List UInt8)) :
    Reversing (restoreSelinuxModule .rollback before) := by
  have acts : Acts true .rollback (fun op _ => Loads op) (fun _ => True)
      (restoreSelinuxModule .rollback before) _ := restoreSelinuxModule_acts before
  exact (acts.among fun _ _ loads => .inr loads.resets).reversing

theorem reversing_quiesce (moduleBefore : Option (List UInt8)) : Reversing (quiesce moduleBefore) := by
  have acts : Acts true .rollback (fun op _ => Stops op) (fun _ => True)
      (stopAndVerify .rollback) _ := stopAndVerify_acts
  apply Reversing.handle (acts.among fun _ _ stops => .inr (.inl stops)).reversing
  intro error
  split
  · apply Reversing.bind
    · apply Reversing.handle (reversing_restoreSelinuxModule moduleBefore)
      intro error
      split
      · exact reversing_pure _
      · exact reversing_rethrow error
    · exact fun _ => reversing_refuse unquiesced
  · exact reversing_rethrow error

/-- A path that is none of the commands is one of the software. -/
theorem isProject_of_filter {path : Path} (other : (!toolPaths.contains path) = true) :
    path.IsProject := by
  revert other
  cases path <;> simp [Path.IsProject, toolPaths]

theorem reversing_restoreTool (saved : Saved) {path : Path} (tool : path ∈ toolPaths) :
    Reversing (restoreTool saved path) :=
  ((restoreTool_acts saved path).plain.weaken fun _ _ does =>
    .inr (does.among fun _ _ touches => ⟨path, tool, touches⟩)).mono
      (fun _ _ given => given) (fun _ _ _ _ => trivial) fun _ _ _ _ => trivial

theorem reversing_rollback (saved : Saved) (ruleBefore : Bool) (moduleBefore : Option (List UInt8)) :
    Reversing (rollback saved ruleBefore moduleBefore) := by
  apply (reversing_quiesce moduleBefore).bind
  intro _
  apply Reversing.bind
  · apply reversing_collectEach
    intro action inside
    obtain ⟨path, listed, rfl⟩ := List.mem_map.mp inside
    have project := isProject_of_filter (List.mem_filter.mp listed).2
    have acts : Acts true .rollback _ _ _ _ := removePath_acts path
    exact (acts.among fun _ _ removes => .inl ⟨path, project, .inl removes⟩).reversing
  intro errors
  apply Reversing.bind
  · apply reversing_collectIf
    intro action inside
    obtain ⟨⟨path, node⟩, listed, rfl⟩ := List.mem_map.mp inside
    have project := isProject_of_filter (List.mem_filter.mp listed).2
    exact ((copyBack_acts path node).among fun _ _ copies =>
      .inl ⟨path, project, .inr copies⟩).reversing
  intro errors
  apply Reversing.bind
  · have acts : Acts true .rollback _ _ _ _ := restoreRule_acts ruleBefore
    exact reversing_collect (acts.among fun _ _ => .inr).reversing
  intro errors
  apply Reversing.bind
  · exact reversing_collect (reversing_restoreSelinuxModule moduleBefore)
  intro errors
  apply Reversing.bind
  · apply reversing_collectIf
    intro action inside
    obtain ⟨path, tool, rfl⟩ := List.mem_map.mp inside
    exact reversing_restoreTool saved tool
  intro errors
  split
  · exact reversing_pure ()
  · exact reversing_refuse unrestored

/-- Behind a failure every step is one of the rollback, and the error is raised again. -/
theorem undoing_reverses (saved : Saved) (ruleBefore : Bool) (moduleBefore : Option (List UInt8))
    (error : Error) :
    Meets (fun _ => True) (fun _ event => Reverses event) (fun _ _ => True)
      (undoing saved ruleBefore moduleBefore error) (fun _ _ _ => False) fun _ _ _ => True := by
  apply meets_bind _ (reversing_rollback saved ruleBefore moduleBefore)
  intro _
  apply meets_bind fun _ _ _ => True
  · apply meets_step
    intro history world after error _ happens _
    exact ⟨.inl (does_of_happens (.inr rfl) happens), by cases error <;> trivial⟩
  · exact fun _ => meets_rethrow fun _ _ _ => trivial

end Goodix.Deployment
