import Goodix.Deployment.Installation

/-! # The lifecycle of an installation

What holds of `apply` follows from what holds of its rollback: outside the rollback all steps
are guarded, and the rollback finds what was saved of the host before the transaction.
-/

namespace Goodix.Deployment

open Traces Scripts Scripts.Script

variable {α β : Type} {actor : Actor} {strict : Bool} {assumed : Step → Prop}
  {reason : List Step → Step → Prop} {before settled : Assertion Label Error World}
  {first world : World}

/-- What was saved. -/
structure IsSnapshot (first : World) (saved : Saved) (moduleBefore : Option (List UInt8)) : Prop where
  saved : saved = softwarePaths.filterMap fun path => (first.paths path).map fun node => (path, node)
  module_ : first.module_ = moduleBefore.map (PolicyModule.mk true)

/-- Everything behind a failure of the transaction. -/
def undoing (saved : Saved) (ruleBefore : Bool) (moduleBefore : Option (List UInt8)) (error : Error) :
    Deploy Unit := do
  rollback saved ruleBefore moduleBefore
  act .rollback (.print rollbackMarker)
  rethrow error

/-- An action, without an account of its failures. -/
theorem Acts.plain {allowed : Op → World → Prop} {pre : World → Prop} {script : Deploy α}
    {post : α → World → Prop} (acts : Acts strict actor allowed pre script post) :
    Meets assumed (fun _ event => Does actor allowed event) (fun _ world => pre world) script
      (fun value _ world => post value world) fun error _ _ => Raised actor allowed assumed error := by
  apply meets_at
  intro history world given
  refine (((acts assumed 0 (Tidy 0 history)).pin ⟨Nat.zero_le _, Iff.rfl, given⟩).weaken
    fun _ _ does => does.1).mono (fun _ _ same => same) ?_ ?_
  · exact fun _ _ _ given => given.2.2
  · exact fun _ _ _ given => given.2.2

/-! ## Before the transaction -/

/-- The operations before and behind the transaction. -/
def Prepares (start : Option Mask) (op : Op) (world : World) : Prop :=
  op = .call ∨ Stops op ∨ Masks start op world ∨ ∃ line, op = .print line ∧ line ≠ rollbackMarker

theorem Prepares.guarded {start : Option Mask} {op : Op} (prepares : Prepares start op world) :
    Guarded start op world := by
  obtain rfl | stops | masks | ⟨line, rfl, other⟩ := prepares
  · trivial
  · exact Attends.guarded (.inl stops) (.inr rfl)
  · exact Attends.guarded (.inr (.inr (.inr masks))) (.inr rfl)
  · exact other

/-- The software is as it was at first. -/
structure Unchanged (first world : World) : Prop where
  paths : world.paths = first.paths
  rule : world.rule = first.rule
  module_ : world.module_ = first.module_
  host : world.host = first.host
  mask : first.mask = none ∨ world.mask = first.mask

theorem Unchanged.prepares {op : Op} (unchanged : Unchanged first world)
    (prepares : Prepares first.mask op world) : Unchanged first (op.effect world) := by
  obtain ⟨paths, rule, module_, host, mask⟩ := unchanged
  obtain rfl | stops | masks | ⟨line, rfl, -⟩ := prepares
  · exact ⟨paths, rule, module_, host, mask⟩
  · obtain rfl | rfl | rfl | rfl := stops <;> exact ⟨paths, rule, module_, host, mask⟩
  · obtain rfl | rfl | ⟨rfl, -, ours⟩ | ⟨rfl, ours⟩ := masks
    · exact ⟨paths, rule, module_, host, mask⟩
    · exact ⟨paths, rule, module_, host, mask⟩
    · exact ⟨paths, rule, module_, host, .inl ours⟩
    · exact ⟨paths, rule, module_, host, .inl ours⟩
  · exact ⟨paths, rule, module_, host, mask⟩

theorem Prepares.paths {start : Option Mask} {op : Op} (prepares : Prepares start op world) :
    (op.effect world).paths = world.paths := by
  obtain rfl | stops | masks | ⟨line, rfl, -⟩ := prepares
  · rfl
  · exact (show Attends start op world from .inl stops).paths
  · exact Attends.paths (.inr (.inr (.inr masks)))
  · rfl

theorem Does.prepares {start : Option Mask} {event : Step} (does : Does .lifecycle (Prepares start) event) :
    Regular start event := by
  have outside := does.actor
  refine ⟨⟨rfl, does.allowed.guarded, does.effect, does.failed⟩, ?_, fun _ => ?_⟩
  · rw [outside]
    exact ⟨nofun, nofun⟩
  · cases does.effect with
    | inl same => rw [same]
    | inr same => rw [same, does.allowed.paths]

/-! ## The transaction -/

/-- A contract of the rollback, and what it needs of the steps around it. -/
structure Undoes (first : World) (assumed : Step → Prop) (reason : List Step → Step → Prop)
    (before settled : Assertion Label Error World) : Prop where
  prepares : ∀ history event, Does .lifecycle (Prepares first.mask) event → reason history event
  steps : ∀ history event, Regular first.mask event → before history event.before →
    reason history event
  kept : ∀ history event, Regular first.mask event → before history event.before →
    before (history ++ [event]) event.after
  stays : ∀ history event, Does .lifecycle (Masks first.mask) event → settled history event.before →
    settled (history ++ [event]) event.after
  undo : ∀ saved moduleBefore error, IsSnapshot first saved moduleBefore →
    Meets assumed reason before (undoing saved first.rule moduleBefore error) (fun _ _ _ => False)
      fun _ => settled

theorem transaction_meets (undoes : Undoes first assumed reason before settled) (plan : Plan)
    {saved : Saved} {moduleBefore : Option (List UInt8)}
    (snapshot : IsSnapshot first saved moduleBefore) :
    Meets assumed reason
      (fun history world => (Clean history ∧ (first.mask = none ∨ world.mask = first.mask)) ∧
        before history world)
      (transaction plan saved first.rule moduleBefore) (fun _ history _ => Clean history)
      fun _ => settled := by
  apply meets_handle fun _ => before
  · exact (((install_meets plan saved).invariant before undoes.kept).weaken
      fun history event given => undoes.steps history event given.1 given.2.1).mono
        (fun _ _ given => given) (fun _ _ _ given => given.1) fun _ _ _ given => given.2
  · intro error
    exact (undoes.undo saved moduleBefore error snapshot).mono (fun _ _ given => given)
      (fun _ _ _ => False.elim) fun _ _ _ given => given

theorem Clean.lifecycle {history : List Step} {event : Step} (clean : Clean history)
    (outside : event.label.actor = .lifecycle) : Clean (history ++ [event]) := by
  refine clean_append.mpr ⟨clean, fun found inside inTransaction => ?_⟩
  cases List.mem_singleton.mp inside
  rw [outside] at inTransaction
  cases inTransaction

/-- The transaction did not fail, or its failure is settled. -/
def Final (settled : Assertion Label Error World) (history : List Step) (world : World) : Prop :=
  Clean history ∨ settled history world

/-- A part of the lifecycle, wherever it fails. -/
theorem Acts.prepares {pre : World → Prop} {script : Deploy α} {post : α → World → Prop}
    (undoes : Undoes first assumed reason before settled)
    (acts : Acts strict .lifecycle (Prepares first.mask) pre script post) :
    Meets assumed reason (fun history world => pre world ∧ Clean history ∧ before history world) script
      (fun value history world => post value world ∧ Clean history ∧ before history world)
      fun _ => Final settled := by
  refine ((acts.plain.frame (fun history world => Clean history ∧ before history world) ?_).weaken
    fun history event does => undoes.prepares history event does).mono
      (fun _ _ given => given) (fun _ _ _ given => given) fun _ _ _ given => .inl given.2.1
  rintro history event does ⟨clean, holds⟩
  exact ⟨clean.lifecycle does.actor, undoes.kept history event does.prepares holds⟩

/-- The operations that read. -/
def Reads (op : Op) : Prop := op = .inspect ∨ op = .call

/-- What is read is as it was. -/
theorem Acts.reads {pre facts : World → Prop} {script : Deploy α} {post : α → World → Prop}
    (undoes : Undoes first assumed reason before settled)
    (acts : Acts true .lifecycle (fun op _ => Reads op) pre script post)
    (ready : ∀ world, facts world → pre world) :
    Meets assumed reason (fun history world => facts world ∧ Clean history ∧ before history world)
      script
      (fun value history world =>
        (post value world ∧ facts world) ∧ Clean history ∧ before history world)
      fun _ => Final settled := by
  refine Acts.prepares undoes ((acts.frame facts ?_).mono (fun world given => ⟨ready world given, given⟩)
    (fun _ _ given => given) ?_)
  · rintro op world (rfl | rfl) given <;> exact given
  · rintro op world (rfl | rfl)
    · exact .inr (.inl (.inl rfl))
    · exact .inl rfl

theorem reading (undoes : Undoes first assumed reason before settled) {op : Op} (reads : Reads op)
    (facts : World → Prop) :
    Meets assumed reason (fun history world => facts world ∧ Clean history ∧ before history world)
      (act .lifecycle op) (fun _ history world => facts world ∧ Clean history ∧ before history world)
      fun _ => Final settled := by
  have acts : Acts true .lifecycle (fun op _ => Reads op) (fun _ => True) (act .lifecycle op)
      fun _ _ => True := acts_act (fun _ _ => reads) fun _ _ => trivial
  exact (acts.reads undoes fun _ _ => trivial).mono (fun _ _ given => given)
    (fun _ _ _ given => ⟨given.1.2, given.2⟩) fun _ _ _ final => final

theorem checkSoftware_acts :
    Acts strict .lifecycle (fun op _ => Reads op) (fun _ => True) checkSoftware fun _ _ => True := by
  apply acts_then fun _ _ => .inl rfl
  apply acts_read
  intro seen _
  split
  · apply acts_bind _ (normalPreflight_acts.mono (fun _ _ => trivial) (fun _ _ given => given)
      fun _ _ => .inl)
    exact fun _ => acts_pure fun _ _ => trivial
  · exact acts_pure fun _ _ => trivial

theorem snapshotSoftware_acts (paths : Path → Option Node) :
    Acts strict .lifecycle (fun op _ => Reads op) (fun world => world.paths = paths) snapshotSoftware
      fun saved _ => saved = softwarePaths.filterMap fun path => (paths path).map fun node => (path, node) := by
  apply acts_read
  rintro seen rfl
  apply acts_bind fun _ _ => True
  · refine (acts_forEach (fun _ _ => True) fun _ _ => ?_).mono (fun _ _ => trivial)
      (fun _ _ given => given) fun _ _ reads => reads
    exact acts_act (fun _ _ => .inl rfl) fun _ _ => trivial
  · exact fun _ => acts_pure fun _ _ => rfl

/-! ## The lifecycle -/

theorem replaceSoftware_meets (undoes : Undoes first assumed reason before settled) (plan : Plan) :
    Meets assumed reason
      (fun history world => Unchanged first world ∧ Clean history ∧ before history world)
      (replaceSoftware plan) (fun _ history _ => Clean history) fun _ => Final settled := by
  have refuses (message : String) : Meets assumed reason
      (fun history world => Unchanged first world ∧ Clean history ∧ before history world)
      (refuse .lifecycle message : Deploy Unit) (fun _ history _ => Clean history)
      fun _ => Final settled :=
    (Acts.prepares undoes (acts_refuse fun _ _ => .inr (.inl (.inl rfl)) :
      Acts true _ _ _ _ fun _ _ => True)).mono (fun _ _ given => given)
        (fun _ _ _ given => given.2.1) fun _ _ _ final => final
  apply meets_bind fun _ history world => Unchanged first world ∧ Clean history ∧ before history world
  · exact reading undoes (.inl rfl) _
  intro _
  apply meets_bind fun _ history world => Unchanged first world ∧ Clean history ∧ before history world
  · exact meets_get fun _ _ given => given
  intro seen
  split
  · exact refuses _
  split
  · exact refuses _
  have other : "GOODIX_INSTALL_MODE" ≠ rollbackMarker := by decide
  apply meets_bind fun _ history world => Unchanged first world ∧ Clean history ∧ before history world
  · have acts : Acts true .lifecycle (Prepares first.mask) (Unchanged first) _ fun _ => Unchanged first :=
      acts_act (fun _ _ => .inr (.inr (.inr ⟨_, rfl, other⟩)))
        fun _ unchanged => unchanged.prepares (.inr (.inr (.inr ⟨_, rfl, other⟩)))
    exact acts.prepares undoes
  intro _
  apply meets_bind _ ((snapshotSoftware_acts first.paths).reads undoes
    fun _ unchanged => unchanged.paths)
  intro saved
  apply meets_bind _ ((materialRule_acts.among fun _ _ => .inr).reads undoes fun _ _ => trivial)
  intro ruleBefore
  apply meets_bind _ (selinuxModulePresent_acts.reads undoes fun _ _ => trivial)
  intro moduleBefore
  apply meets_given
  rintro _ _ ⟨⟨module_, rule, saved, unchanged⟩, -⟩
  obtain rfl := unchanged.rule.symm.trans rule
  refine (transaction_meets undoes plan ⟨saved, unchanged.module_.symm.trans module_⟩).mono ?_
    (fun _ _ _ given => given) fun _ _ _ => .inr
  rintro history world ⟨⟨-, -, -, unchanged⟩, clean, holds⟩
  exact ⟨⟨clean, unchanged.mask⟩, holds⟩

theorem Final.lifecycle (undoes : Undoes first assumed reason before settled) {history : List Step}
    {event : Step} (does : Does .lifecycle (Masks first.mask) event)
    (final : Final settled history event.before) : Final settled (history ++ [event]) event.after := by
  obtain clean | settles := final
  · exact .inl (clean.lifecycle does.actor)
  · exact .inr (undoes.stays history event does settles)

/-- The end of the lifecycle takes no step but those of the mask. -/
theorem release_does {created : Option Nat} {state : String} {start : Option Mask}
    (ours : created.isSome = true → start = none) :
    Meets assumed (fun _ event => Does .lifecycle (Masks start) event) (fun _ _ => True)
      (release created state) (fun _ _ _ => True) fun _ _ _ => True := by
  apply meets_handle fun _ _ _ => True
  · have acts : Acts true .lifecycle _ _ _ _ := releaseInhibition_acts ours
    exact acts.plain.mono (fun _ _ given => given) (fun _ _ _ given => given) fun _ _ _ _ => trivial
  · intro error
    split
    · exact meets_raise fun _ _ _ _ => ⟨⟨rfl, .inl rfl, .inl rfl, fun _ _ _ => rfl⟩, trivial⟩
    · exact meets_rethrow fun _ _ _ => trivial

/-- The mask is released, whatever became of the transaction. -/
theorem release_meets (undoes : Undoes first assumed reason before settled) {created : Option Nat}
    {state : String} (ours : created.isSome = true → first.mask = none) (stays : Assertion Label Error World)
    (kept : ∀ history event, Does .lifecycle (Masks first.mask) event → stays history event.before →
      stays (history ++ [event]) event.after) :
    Meets assumed reason stays (release created state) (fun _ => stays) fun _ => stays := by
  refine (((release_does ours).frame stays kept).weaken fun history event does =>
    undoes.prepares history event (does.among fun _ _ masks => .inr (.inr (.inl masks)))).mono
      (fun _ _ given => ⟨trivial, given⟩) (fun _ _ _ given => given.2) fun _ _ _ given => given.2

theorem lifecycle_meets (undoes : Undoes first assumed reason before settled) (plan : Plan) :
    Meets assumed reason (fun history world => world = first ∧ Clean history ∧ before history world)
      (lifecycle (replaceSoftware plan)) (fun _ history _ => Clean history)
      fun _ => Final settled := by
  apply meets_bind _ (reading undoes (.inl rfl) _)
  intro _
  apply meets_bind _ (checkSoftware_acts.reads undoes fun _ _ => trivial)
  intro _
  apply meets_bind fun created history world => (created.isSome = true → first.mask = none) ∧
    Unchanged first world ∧ Clean history ∧ before history world
  · have acts : Acts false .lifecycle _ _ _ _ := (inhibitActivation_acts first.mask).frame
      (Unchanged first) fun op world masks unchanged => unchanged.prepares (.inr (.inr (.inl masks)))
    refine (Acts.prepares undoes (acts.among fun _ _ masks => .inr (.inr (.inl masks)))).mono ?_
      (fun _ _ _ given => ⟨given.1.1.2, given.1.2, given.2⟩) fun _ _ _ final => final
    rintro history _ ⟨⟨-, rfl⟩, given⟩
    exact ⟨⟨rfl, rfl, rfl, rfl, rfl, .inr rfl⟩, given⟩
  intro created
  apply meets_when
  intro ours
  apply meets_bind fun _ history _ => Clean history
  · apply meets_handle fun _ => Final settled
    · have acts : Acts true .lifecycle _ _ _ _ := stopAndVerify_acts.frame (Unchanged first)
        fun op world stops unchanged => unchanged.prepares (.inr (.inl stops))
      apply meets_bind fun _ history world => Unchanged first world ∧ Clean history ∧ before history world
      · exact (Acts.prepares undoes (acts.among fun _ _ stops => .inr (.inl stops))).mono
          (fun _ _ given => ⟨⟨trivial, given.1⟩, given.2⟩) (fun _ _ _ given => ⟨given.1.2, given.2⟩)
          fun _ _ _ final => final
      · exact fun _ => replaceSoftware_meets undoes plan
    · intro error
      apply meets_bind fun _ => Final settled
      · exact release_meets undoes ours (Final settled) fun _ _ => Final.lifecycle undoes
      · exact fun _ => meets_rethrow fun _ _ final => final
  intro _
  refine (release_meets undoes ours (fun history _ => Clean history) fun _ _ does clean =>
    clean.lifecycle does.actor).mono (fun _ _ given => given) (fun _ _ _ given => given)
      fun _ _ _ => .inl

/-- What a rollback settles, `apply` settles. -/
theorem apply_meets (undoes : Undoes first assumed reason before settled) (plan : Plan) :
    Meets assumed reason (fun history world => world = first ∧ Clean history ∧ before history world)
      (apply plan) (fun _ history _ => Clean history) fun _ => Final settled := by
  apply meets_bind _ (reading undoes (.inl rfl) _)
  intro _
  apply meets_bind _ (reading undoes (.inr rfl) _)
  intro _
  apply meets_bind _ (checkSoftware_acts.reads undoes fun _ _ => trivial)
  intro _
  apply meets_bind _ (selinuxModulePresent_acts.reads undoes fun _ _ => trivial)
  intro _
  apply meets_bind _ ((materialRule_acts.among fun _ _ => .inr).reads undoes fun _ _ => trivial)
  intro _
  apply meets_bind _ (reading undoes (.inl rfl) _)
  intro _
  apply meets_bind _ (reading undoes (.inr rfl) _)
  intro _
  apply meets_bind _ ((lifecycle_meets undoes plan).mono ?_ (fun _ _ _ given => given)
    fun _ _ _ final => final)
  · intro _
    have other : "GOODIX_INSTALL=PASS READER_PRESENT_ALLOWED=true" ≠ rollbackMarker := by decide
    apply meets_step
    intro history world after error clean happens _
    have does : Does .lifecycle (Prepares first.mask) _ :=
      does_of_happens (.inr (.inr (.inr ⟨_, rfl, other⟩))) happens
    refine ⟨undoes.prepares _ _ does, ?_⟩
    cases error with
    | none => exact clean.lifecycle rfl
    | some error => exact .inl (clean.lifecycle rfl)
  · exact fun _ _ given => ⟨given.1.2.2.2, given.2⟩

end Goodix.Deployment
