import Goodix.Deployment.Transaction

/-! # What the entry points name

The login configuration names the module in its support, and the drop-in of the service names
the runtime.  Installation and removal keep what an entry point names as long as it is there;
the rollback does so unless it goes on behind a failed removal, or comes to copy an entry
point back.
-/

namespace Goodix.Deployment

open Traces Scripts Scripts.Script

variable {actor : Actor} {start : Option Mask} {path : Path} {op : Op} {world before after : World}

/-- No entry point dangles. -/
structure Backed (world : World) : Prop where
  login : world.paths .config ≠ none → HasModule world
  service : world.paths .dropin ≠ none → HasRuntime world

/-! ## What keeps an entry point backed -/

/-- A change of the entries of a directory that loses none. -/
def Extends (change : List Entry → List Entry) : Prop :=
  ∀ entries, ∀ entry ∈ entries, entry ∈ change entries

theorem Node.isComplete_mono {receipt : String} {entries more : List Entry}
    (extends_ : ∀ entry ∈ entries, entry ∈ more)
    (complete : (Node.tree entries).isComplete receipt = true) :
    (Node.tree more).isComplete receipt = true := by
  simp only [Node.isComplete, List.any_eq_true] at complete ⊢
  obtain ⟨⟨name, item⟩, inside, lists⟩ := complete
  refine ⟨(name, item), extends_ _ inside, ?_⟩
  cases item with
  | receipt names owns =>
    simp only [Bool.and_eq_true, List.all_eq_true, List.any_eq_true] at lists ⊢
    refine ⟨lists.1, fun listed among => ?_⟩
    obtain ⟨other, there, written⟩ := lists.2 listed among
    exact ⟨other, extends_ _ there, written⟩
  | _ => cases lists

theorem hasModule_congr (same : after.paths .support = before.paths .support)
    (has : HasModule before) : HasModule after := by
  unfold HasModule HasEntry at has ⊢
  rwa [same]

theorem hasRuntime_congr (same : after.paths .runtime = before.paths .runtime)
    (has : HasRuntime before) : HasRuntime after := by
  unfold HasRuntime at has ⊢
  rwa [same]

theorem Backed.congr (backed : Backed before) (same : after.paths = before.paths) : Backed after := by
  refine ⟨fun there => ?_, fun there => ?_⟩
  · rw [same] at there
    exact hasModule_congr (by rw [same]) (backed.login there)
  · rw [same] at there
    exact hasRuntime_congr (by rw [same]) (backed.service there)

/-- Another node at a path: an entry point needs what it names, and what is named has to be free. -/
theorem Backed.put (backed : Backed world) (path : Path) (node : Option Node)
    (config : path = .config → node ≠ none → HasModule world)
    (dropin : path = .dropin → node ≠ none → HasRuntime world)
    (support : path = .support → world.paths .config = none)
    (runtime : path = .runtime → world.paths .dropin = none) : Backed (world.put path node) := by
  have kept {other : Path} (differs : other ≠ path) := world.put_other node differs
  refine ⟨fun there => ?_, fun there => ?_⟩
  · by_cases isConfig : path = .config
    · subst isConfig
      rw [World.put_paths] at there
      exact hasModule_congr (kept (by decide)) (config rfl there)
    · rw [kept (Ne.symm isConfig)] at there
      have spared : path ≠ .support := fun same => there (support same)
      exact hasModule_congr (kept (Ne.symm spared)) (backed.login there)
  · by_cases isDropin : path = .dropin
    · subst isDropin
      rw [World.put_paths] at there
      exact hasRuntime_congr (kept (by decide)) (dropin rfl there)
    · rw [kept (Ne.symm isDropin)] at there
      have spared : path ≠ .runtime := fun same => there (runtime same)
      exact hasRuntime_congr (kept (Ne.symm spared)) (backed.service there)

/-- Other entries in a directory: none is lost that an entry point may name. -/
theorem Backed.modify (backed : Backed world) (path : Path) (change : List Entry → List Entry)
    (support : path = .support → world.paths .config = none ∨ Extends change)
    (runtime : path = .runtime → world.paths .dropin = none ∨ Extends change) :
    Backed (world.modify path change) := by
  have kept {other : Path} (differs : other ≠ path) := modify_paths world change differs
  have stays (other : Path) (there : (world.modify path change).paths other ≠ none) :
      world.paths other ≠ none := fun absent => there (modify_absent world change absent)
  refine ⟨fun there => ?_, fun there => ?_⟩
  · have has := backed.login (stays .config there)
    by_cases isSupport : path = .support
    · subst isSupport
      obtain absent | extends_ := support rfl
      · exact absurd absent (stays .config there)
      · obtain ⟨entries, item, found, inside, written⟩ := has
        refine ⟨change entries, item, ?_, extends_ entries _ inside, written⟩
        simp [World.modify, found]
    · exact hasModule_congr (kept (Ne.symm isSupport)) has
  · have has := backed.service (stays .dropin there)
    by_cases isRuntime : path = .runtime
    · subst isRuntime
      obtain absent | extends_ := runtime rfl
      · exact absurd absent (stays .dropin there)
      · obtain ⟨node, found, complete⟩ := has
        cases node with
        | file item => cases complete
        | tree entries =>
          refine ⟨.tree (change entries), by simp [World.modify, found], ?_⟩
          exact Node.isComplete_mono (extends_ entries) complete
    · exact hasRuntime_congr (kept (Ne.symm isRuntime)) has

/-! ## The steps of installation and removal -/

/-- A guarded operation publishes an entry point behind what it names, and takes nothing away
that an entry point names. -/
theorem Guarded.backed (guards : Guarded start op world) (backed : Backed world) :
    Backed (op.effect world) := by
  cases op with
  | unlink path | rmdir path =>
    exact backed.put path none (by simp) (by simp) guards.1 guards.2
  | unlinkEntry path =>
    exact backed.modify path _ (fun same => .inl (guards.1 same)) fun same => .inl (guards.2 same)
  | mkdir path =>
    -- where there is no support, there is no login configuration either
    obtain ⟨absent, isTree⟩ := guards
    apply backed.put path
    · rintro rfl
      cases isTree
    · rintro rfl
      cases isTree
    · rintro rfl
      by_contra there
      obtain ⟨entries, item, found, -⟩ := backed.login there
      rw [absent] at found
      cases found
    · rintro rfl
      by_contra there
      obtain ⟨node, found, -⟩ := backed.service there
      rw [absent] at found
      cases found
  | publish path item =>
    obtain ⟨plain, config, dropin⟩ := guards
    apply backed.put path _ (fun same _ => config same) fun same _ => dropin same
    · rintro rfl
      cases plain
    · rintro rfl
      cases plain
  | publishEntry path name item =>
    have adds : Extends (· ++ [(name, item)]) := fun _ _ => List.mem_append_left _
    exact backed.modify path _ (fun _ => .inr adds) fun _ => .inr adds
  | create _ | fill _ _ | createEntry _ _ | fillEntry _ _ _ => exact guards.elim
  | _ => exact backed.congr rfl

/-- What an event does is nothing, or the effect of its operation. -/
theorem Does.backed {allowed : Op → World → Prop} {event : Step} (does : Does actor allowed event)
    (keeps : ∀ op world, allowed op world → Backed world → Backed (op.effect world))
    (backed : Backed event.before) : Backed event.after := by
  cases does.effect with
  | inl same => exact same ▸ backed
  | inr same => exact same ▸ keeps _ _ does.allowed backed

theorem Regular.backed {event : Step} (regular : Regular start event) (backed : Backed event.before) :
    Backed event.after :=
  regular.does.backed (fun _ _ guards => guards.backed) backed

/-! ## The steps of a rollback -/

/-- An operation that changes what is at a path. -/
def Op.changes (path : Path) : Op → Bool
  | .unlink other | .unlinkEntry other | .rmdir other | .mkdir other | .create other
  | .fill other _ | .createEntry other _ | .fillEntry other _ _ | .publish other _
  | .publishEntry other _ _ => other = path
  | _ => false

/-- An operation that begins to copy something back to a path. -/
def Op.copiesBack (path : Path) : Op → Bool
  | .mkdir other | .create other | .fill other _ => other = path
  | _ => false

/-- A step of the rollback changes what an entry point names only where the entry point is gone,
and copies no entry point back. -/
structure Sheltered (event : Step) : Prop where
  support : event.label.actor = .rollback → event.label.op.changes .support = true →
    event.before.paths .config = none
  runtime : event.label.actor = .rollback → event.label.op.changes .runtime = true →
    event.before.paths .dropin = none
  entries : event.label.actor = .rollback → event.label.op.copiesBack .config = false ∧
    event.label.op.copiesBack .dropin = false

instance (event : Step) : Decidable (Sheltered event) :=
  decidable_of_iff
    ((event.label.actor = .rollback → event.label.op.changes .support = true →
        event.before.paths .config = none) ∧
      (event.label.actor = .rollback → event.label.op.changes .runtime = true →
        event.before.paths .dropin = none) ∧
      (event.label.actor = .rollback → event.label.op.copiesBack .config = false ∧
        event.label.op.copiesBack .dropin = false))
    ⟨fun ⟨support, runtime, entries⟩ => ⟨support, runtime, entries⟩,
      fun ⟨support, runtime, entries⟩ => ⟨support, runtime, entries⟩⟩

theorem Touches.backed (touches : Touches path op)
    (support : op.changes .support = true → world.paths .config = none)
    (runtime : op.changes .runtime = true → world.paths .dropin = none)
    (config : op.copiesBack .config = false) (dropin : op.copiesBack .dropin = false)
    (backed : Backed world) : Backed (op.effect world) := by
  -- what is put at a path is nothing, or no entry point
  have puts (node : Option Node) (changes : ∀ path', op.changes path' = decide (path = path'))
      (names : node ≠ none → path ≠ .config ∧ path ≠ .dropin) : Backed (world.put path node) := by
    apply backed.put path node
    · exact fun same there => absurd same (names there).1
    · exact fun same there => absurd same (names there).2
    · exact fun same => support (by rw [changes, decide_eq_true same])
    · exact fun same => runtime (by rw [changes, decide_eq_true same])
  have modifies (change : List Entry → List Entry)
      (changes : ∀ path', op.changes path' = decide (path = path')) :
      Backed (world.modify path change) := by
    apply backed.modify path change
    · exact fun same => .inl (support (by rw [changes, decide_eq_true same]))
    · exact fun same => .inl (runtime (by rw [changes, decide_eq_true same]))
  obtain removes | rfl | rfl | rfl | ⟨item, rfl⟩ | ⟨name, rfl⟩ | ⟨name, item, rfl⟩ := touches
  · obtain rfl | rfl | rfl | rfl := removes
    · exact backed.congr rfl
    · exact puts none (fun _ => rfl) (by simp)
    · exact modifies _ fun _ => rfl
    · exact puts none (fun _ => rfl) (by simp)
  · exact backed.congr rfl
  · exact puts _ (fun _ => rfl) fun _ => ⟨of_decide_eq_false config, of_decide_eq_false dropin⟩
  · exact puts _ (fun _ => rfl) fun _ => ⟨of_decide_eq_false config, of_decide_eq_false dropin⟩
  · exact puts _ (fun _ => rfl) fun _ => ⟨of_decide_eq_false config, of_decide_eq_false dropin⟩
  · exact modifies _ fun _ => rfl
  · exact modifies _ fun _ => rfl

/-- The commands are none of the paths that matter. -/
theorem Touches.backed_of_tool (touches : Touches path op) (tool : path ∈ toolPaths)
    (backed : Backed world) : Backed (op.effect world) := by
  have others : Path.config ≠ path ∧ Path.dropin ≠ path ∧ Path.support ≠ path ∧ Path.runtime ≠ path := by
    revert tool
    cases path <;> decide
  obtain ⟨config, dropin, support, runtime⟩ := others
  refine ⟨fun there => ?_, fun there => ?_⟩
  · rw [touches.other world config] at there
    exact hasModule_congr (touches.other world support) (backed.login there)
  · rw [touches.other world dropin] at there
    exact hasRuntime_congr (touches.other world runtime) (backed.service there)

theorem Reverses.backed {event : Step} (reverses : Reverses event) (sheltered : Sheltered event)
    (backed : Backed event.before) : Backed event.after := by
  obtain does | does := reverses
  · cases does.effect with
    | inl same => exact same ▸ backed
    | inr same =>
      rw [same]
      obtain (⟨path, -, touches⟩ | resets) | prints := does.allowed
      · exact touches.backed (sheltered.support does.actor) (sheltered.runtime does.actor)
          (sheltered.entries does.actor).1 (sheltered.entries does.actor).2 backed
      · exact backed.congr (resets.paths event.before)
      · rw [prints]
        exact backed.congr rfl
  · exact does.backed (fun op world ⟨_, tool, touches⟩ => touches.backed_of_tool tool) backed

/-! ## Every run -/

/-- A step keeps the entry points backed, if it is none of those by which a rollback fails. -/
def Shelters (event : Step) : Prop := Sheltered event → Backed event.before → Backed event.after

theorem shelters (first : World) : Undoes first (fun _ => True) (fun _ event => Shelters event)
    (fun _ _ => True) fun _ _ => True := by
  constructor
  · exact fun _ _ does _ => does.prepares.backed
  · exact fun _ _ regular _ _ => regular.backed
  · exact fun _ _ _ _ => trivial
  · exact fun _ _ _ _ => trivial
  · intro saved moduleBefore error _
    exact (undoing_reverses saved first.rule moduleBefore error).weaken
      fun _ _ reverses => reverses.backed

/-- A run leaves no entry point dangling, at any point. -/
def NeverDangles {α : Type} (outcome : Outcome Label Error World α) : Prop :=
  (∀ event ∈ outcome.trace, Backed event.before ∧ Backed event.after) ∧ Backed outcome.world

theorem neverDangles_of_lawful {α : Type} {outcome : Outcome Label Error World α}
    (linked : Linked world outcome.trace outcome.world)
    (lawful : Lawful (fun _ event => Shelters event) [] outcome.trace)
    (sheltered : ∀ event ∈ outcome.trace, Sheltered event) (backed : Backed world) :
    NeverDangles outcome := by
  obtain ⟨points, last⟩ := (lawful.both (lawful_of_forall sheltered)).invariant
    (fun _ => Backed) (fun _ _ ⟨keeps, shelter⟩ => keeps shelter) linked backed
  refine ⟨fun event inside => ?_, last⟩
  obtain ⟨before, after, split⟩ := List.append_of_mem inside
  exact (points.justified before event after split).2

/-- No step of a removal is one of a rollback. -/
theorem remove_neverDangles (isForced : Bool) (verdicts : List (Verdict Error)) (backed : Backed world) :
    NeverDangles ((remove isForced).run world verdicts) := by
  have meets : Meets (fun _ => True) _ _ _ _ _ := remove_meets isForced world 0
  have first : Stage 0 [] True (· = world) [] world :=
    ⟨Nat.le_refl 0, by simp [Tidy], fun _ => trivial, rfl⟩
  obtain ⟨linked, lawful, -⟩ := meets [] world verdicts first fun _ _ => trivial
  have regular : Lawful (fun _ event => Regular none event) [] _ :=
    lawful.mono fun _ _ step => step.regular (.inl rfl)
  obtain ⟨points, last⟩ := regular.invariant (fun _ => Backed) (fun _ _ step => step.backed) linked backed
  refine ⟨fun event inside => ?_, last⟩
  obtain ⟨before, after, split⟩ := List.append_of_mem inside
  exact (points.justified before event after split).2

/-- Every run of `apply` whose rollback, if there is one, does not go on behind an entry point that
it could not remove, and does not copy one back, and every run of `remove`, leaves no entry point
dangling. -/
theorem entry_points_backed (world : World) (verdicts : List (Verdict Error)) (backed : Backed world) :
    (∀ plan, (∀ event ∈ ((apply plan).run world verdicts).trace, Sheltered event) →
      NeverDangles ((apply plan).run world verdicts)) ∧
    ∀ isForced, NeverDangles ((remove isForced).run world verdicts) := by
  constructor
  · intro plan sheltered
    have first : world = world ∧ Clean [] ∧ True := ⟨rfl, clean_nil, trivial⟩
    obtain ⟨linked, lawful, -⟩ := apply_meets (shelters world) plan [] world verdicts first
      fun _ _ => trivial
    exact neverDangles_of_lawful linked lawful sheltered backed
  · exact fun isForced => remove_neverDangles isForced verdicts backed

theorem freshHost_backed : Backed freshHost := ⟨fun there => absurd rfl there, fun there => absurd rfl there⟩

/-- The label of the login configuration cannot be set, and all is rolled back. -/
def unlabelledEntry : List (Verdict Error) :=
  List.replicate 61 .done ++ .raises .os false :: List.replicate 33 .done

theorem entry_points_backed_rolled_back :
    NeverDangles ((apply freshPlan).run freshHost unlabelledEntry) ∧
      NeverDangles ((remove true).run freshHost unlabelledEntry) :=
  have all := entry_points_backed freshHost unlabelledEntry freshHost_backed
  ⟨all.1 freshPlan (by decide +kernel), all.2 true⟩

/-! ## Rollbacks that leave an entry point dangling -/

theorem dangles {α : Type} {outcome : Outcome Label Error World α}
    (there : outcome.world.paths .config ≠ none) (gone : outcome.world.paths .support = none) :
    ¬ NeverDangles outcome := by
  rintro ⟨-, backed⟩
  obtain ⟨entries, item, found, -⟩ := backed.login there
  rw [gone] at found
  cases found

/-- The label of the login configuration cannot be set, and the rollback cannot remove it. -/
def stuckEntry : List (Verdict Error) :=
  List.replicate 61 .done ++ .raises .os false :: List.replicate 4 .done ++
    .raises .os false :: List.replicate 30 .done

/-- A host with the software. -/
def installedHost : World := ((apply freshPlan).run freshHost (List.replicate 100 .done)).world

def updatePlan : Plan := { freshPlan with isUpdate := true }

theorem installedHost_backed : Backed installedHost := by
  constructor
  · intro _
    exact ⟨[(moduleName, .data []), ("receipt.json", .receipt [moduleName] false)], .data [],
      by decide +kernel, by decide, by decide⟩
  · intro _
    exact ⟨.tree [("libfprint-2.so.2.0.0", .data [127]), ("libfprint-2.so.2", .link "libfprint-2.so.2.0.0"),
      ("libfprint-2.so", .link "libfprint-2.so.2"), ("installation.json", .receipt
        ["libfprint-2.so.2.0.0", "libfprint-2.so.2", "libfprint-2.so"] false)],
      by decide +kernel, by decide⟩

/-- The new directory of the receipt cannot be made behind the removal of the software, and the
process stops when the rollback has copied the login configuration back. -/
def restoredEarly : List (Verdict Error) :=
  List.replicate 57 .done ++ .raises .os false :: List.replicate 9 .done

/-- A rollback removes the module of a login configuration that it could not remove, and it copies
the login configuration back before the module. -/
theorem rollback_dangles :
    (Backed freshHost ∧ ¬ NeverDangles ((apply freshPlan).run freshHost stuckEntry)) ∧
      Backed installedHost ∧ ¬ NeverDangles ((apply updatePlan).run installedHost restoredEarly) :=
  ⟨⟨freshHost_backed, dangles (by decide +kernel) (by decide +kernel)⟩, installedHost_backed,
    dangles (by decide +kernel) (by decide +kernel)⟩

end Goodix.Deployment
