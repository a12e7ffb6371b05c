import Goodix.Deployment.Install
import Goodix.Deployment.Removal

/-! # The steps of an installation

The operations of an installation are guarded: materials and the pairing state are created
where there are none, the mask is not taken away if it was there at the start, and an entry
point is published behind what it names.
-/

namespace Goodix.Deployment

open Traces Scripts Scripts.Script

variable {α β : Type} {actor : Actor} {strict : Bool} {allowed : Op → World → Prop}
  {pre : World → Prop} {start : Option Mask} {world : World} {path : Path} {name : String}

/-! ## What is there -/

/-- A directory has an entry that is written. -/
def HasEntry (path : Path) (name : String) (world : World) : Prop :=
  ∃ entries item, world.paths path = some (.tree entries) ∧ (name, item) ∈ entries ∧
    item ≠ .unfinished

def HasAll (path : Path) (names : String → Prop) (world : World) : Prop :=
  ∀ name, names name → HasEntry path name world

/-- The module that the login configuration names. -/
def HasModule (world : World) : Prop := HasEntry .support moduleName world

/-- The runtime that the drop-in names. -/
def HasRuntime (world : World) : Prop :=
  ∃ node, world.paths .runtime = some node ∧ node.isComplete "installation.json" = true

/-- An operation of an installation, and what has to be true before it. -/
def Guarded (start : Option Mask) (op : Op) (world : World) : Prop :=
  match op with
  | .maskService => world.mask = none ∧ start = none
  | .unmaskService => start = none
  | .publishMaterial _ => world.host.material = none
  | .createStateRoot => world.host.stateRoot = none
  | .unlink path | .unlinkEntry path | .rmdir path =>
    (path = .support → world.paths .config = none) ∧ (path = .runtime → world.paths .dropin = none)
  | .mkdir path => world.paths path = none ∧ path.isTree = true
  | .publish path _ => path.isTree = false ∧ (path = .config → HasModule world) ∧
    (path = .dropin → HasRuntime world)
  | .print line => line ≠ rollbackMarker
  | .create _ | .fill _ _ | .createEntry _ _ | .fillEntry _ _ _ => False
  | _ => True

/-! ## Rules -/

/-- What the operations keep stays true beside the contract. -/
theorem Acts.frame {script : Deploy α} {post : α → World → Prop} (stays : World → Prop)
    (kept : ∀ op world, allowed op world → stays world → stays (op.effect world))
    (acts : Acts strict actor allowed pre script post) :
    Acts strict actor allowed (fun world => pre world ∧ stays world) script
      fun value world => post value world ∧ stays world := fun assumed since clean => by
  have meets := (acts assumed since clean).frame (fun _ world => stays world) ?_
  · exact meets.mono (fun _ _ given => ⟨⟨given.1, given.2.1, given.2.2.1⟩, given.2.2.2⟩)
      (fun _ _ _ given => ⟨given.1.1, given.1.2.1, given.1.2.2, given.2⟩) fun _ _ _ given => given.1
  · rintro history event ⟨does, -⟩ before
    cases does.effect with
    | inl same => exact same ▸ before
    | inr same => exact same ▸ kept _ _ does.allowed before

/-- An action with few operations is one with more. -/
theorem Acts.among {script : Deploy α} {post : α → World → Prop} {weaker : Op → World → Prop}
    (acts : Acts strict actor allowed pre script post)
    (allows : ∀ op world, allowed op world → weaker op world) :
    Acts strict actor weaker pre script post :=
  acts.mono (fun _ given => given) (fun _ _ given => given) allows

theorem acts_forEach {items : List β} {body : β → Deploy Unit} (invariant : List β → World → Prop)
    (turn : ∀ item rest, Acts strict actor allowed (invariant (item :: rest)) (body item)
      fun _ => invariant rest) :
    Acts strict actor allowed (invariant items) (forEach items body) fun _ => invariant [] := by
  induction items with
  | nil => exact acts_pure fun _ given => given
  | cons item items ih => exact acts_bind _ (turn item items) fun _ => ih

/-! ## Files -/

theorem makeDirectory_acts (isTree : path.isTree = true) :
    Acts strict actor (Guarded start) (fun _ => True) (makeDirectory actor path) fun _ _ => True := by
  apply acts_read
  intro seen _
  split
  · exact acts_clash fun _ _ => trivial
  · rename_i absent
    apply acts_act _ fun _ _ => trivial
    rintro world rfl
    exact ⟨by simpa using absent, isTree⟩

theorem writeFile_acts {item : Item} (plain : path.isTree = false)
    (guards : ∀ world, pre world →
      (path = .config → HasModule world) ∧ (path = .dropin → HasRuntime world)) :
    Acts strict actor (Guarded start) pre (writeFile actor path item) fun _ _ => True := by
  apply acts_inspect fun _ _ => trivial
  apply acts_read
  intro seen given
  split
  · exact acts_clash fun _ _ => trivial
  · apply acts_act _ fun _ _ => trivial
    rintro world rfl
    exact ⟨plain, guards _ given⟩

/-- The operations of `write_file` into a directory. -/
def Enters (path : Path) (name : String) (item : Item) (op : Op) : Prop :=
  op = .inspect ∨ op = .stat path ∨ op = .publishEntry path name item

theorem Enters.guarded {item : Item} {op : Op} (enters : Enters path name item op) :
    Guarded start op world := by
  obtain rfl | rfl | rfl := enters <;> trivial

theorem Enters.hasEntry {item : Item} {op : Op} (enters : Enters path name item op) {other : Path}
    {listed : String} (has : HasEntry other listed world) : HasEntry other listed (op.effect world) := by
  obtain rfl | rfl | rfl := enters
  · exact has
  · exact has
  · obtain ⟨entries, found, there, inside, written⟩ := has
    by_cases same : other = path
    · subst same
      refine ⟨entries ++ [(name, item)], found, ?_, List.mem_append_left _ inside, written⟩
      simp [Op.effect, World.modify, there]
    · refine ⟨entries, found, ?_, inside, written⟩
      rw [Op.effect, modify_paths world _ same, there]

theorem writeEntry_acts {item : Item} :
    Acts strict actor (fun op _ => Enters path name item op) (fun _ => True)
      (writeEntry actor path name item)
      fun _ world => ∃ entries, world.paths path = some (.tree (entries ++ [(name, item)])) := by
  apply acts_then fun _ _ => .inl rfl
  apply acts_read
  intro seen _
  split
  · rename_i entries there
    split
    · exact acts_clash fun _ _ => .inr (.inl rfl)
    · apply acts_act fun _ _ => .inr (.inr rfl)
      rintro world rfl
      exact ⟨entries, by simp [Op.effect, World.modify, there]⟩
  · exact acts_clash fun _ _ => .inr (.inl rfl)

/-- An entry that is written joins those that are there. -/
theorem writeEntry_adds {item : Item} {before after : String → Prop} (written : item ≠ .unfinished)
    (joins : ∀ listed, after listed → before listed ∨ listed = name) :
    Acts strict actor (Guarded start) (HasAll path before) (writeEntry actor path name item)
      fun _ => HasAll path after := by
  refine (writeEntry_acts.frame (HasAll path before) fun op world enters has listed inside =>
    enters.hasEntry (has listed inside)).mono (fun _ given => ⟨trivial, given⟩) ?_
      fun _ _ enters => enters.guarded
  rintro _ world ⟨⟨entries, there⟩, has⟩ listed inside
  obtain inside | rfl := joins listed inside
  · exact has listed inside
  · exact ⟨_, item, there, by simp, written⟩

/-- A loop that writes an entry in each turn. -/
theorem forEach_adds {items : List (String × β)} {body : String × β → Deploy Unit}
    {before : String → Prop}
    (adds : ∀ item (names : String → Prop), Acts strict actor (Guarded start) (HasAll path names)
      (body item) fun _ => HasAll path fun listed => names listed ∨ listed = item.1) :
    Acts strict actor (Guarded start) (HasAll path before) (forEach items body)
      fun _ => HasAll path fun listed => before listed ∨ listed ∈ items.map Prod.fst := by
  induction items generalizing before with
  | nil => exact acts_pure fun _ has listed inside => has listed (by simpa using inside)
  | cons item items ih =>
    apply acts_bind _ (adds item before)
    refine fun _ => ih.mono (fun _ has => has) ?_ fun _ _ guarded => guarded
    exact fun _ _ has listed inside => has listed (by simpa [or_assoc] using inside)

/-- A receipt completes a directory that has what it lists. -/
theorem writeEntry_completes {names : List String} {owns : Bool} :
    Acts strict actor (Guarded start) (HasAll .runtime (· ∈ names))
      (writeEntry actor .runtime "installation.json" (.receipt names owns)) fun _ => HasRuntime := by
  refine (writeEntry_acts.frame (HasAll .runtime (· ∈ names)) fun op world enters has listed inside =>
    enters.hasEntry (has listed inside)).mono (fun _ given => ⟨trivial, given⟩) ?_
      fun _ _ enters => enters.guarded
  rintro _ world ⟨⟨entries, there⟩, has⟩
  refine ⟨_, there, ?_⟩
  simp only [Node.isComplete, List.any_eq_true]
  refine ⟨("installation.json", .receipt names owns), by simp, ?_⟩
  simp only [Bool.and_eq_true, List.all_eq_true, List.any_eq_true, decide_eq_true_eq, decide_true,
    true_and]
  intro listed inside
  obtain ⟨found, item, there', within, written⟩ := has listed inside
  rw [there] at there'
  cases there'
  exact ⟨(listed, item), within, rfl, written⟩

/-! ## The parts -/

theorem installTools_acts (plan : Plan) :
    Acts strict .installer (Guarded start) (fun _ => True) (installTools plan) fun _ _ => True := by
  apply acts_bind _ (makeDirectory_acts rfl)
  intro _
  apply acts_bind _ (writeFile_acts rfl ?_)
  · intro _
    apply acts_bind _ (writeFile_acts rfl ?_)
    · intro _
      apply acts_bind _ (writeEntry_acts.among fun _ _ enters => enters.guarded)
      exact fun _ => acts_act (fun _ _ => trivial) fun _ _ => trivial
    · exact fun _ _ => ⟨nofun, nofun⟩
  · exact fun _ _ => ⟨nofun, nofun⟩

theorem installMaterials_acts (files : List (String × List UInt8)) :
    Acts strict .installer (Guarded start) (fun _ => True) (installMaterials files) fun _ _ => True := by
  apply acts_then fun _ _ => trivial
  apply acts_read
  intro seen _
  split
  · apply acts_then fun _ _ => trivial
    split
    · exact acts_act (fun _ _ => trivial) fun _ _ => trivial
    · exact acts_refuse fun _ _ => trivial
  · rename_i absent
    apply acts_call fun _ _ => trivial
    apply acts_then
    · rintro world rfl
      exact absent
    · exact acts_act (fun _ _ => trivial) fun _ _ => trivial

theorem createStateRoot_acts :
    Acts strict .installer (Guarded start) (fun _ => True) createStateRoot fun _ _ => True := by
  apply acts_then fun _ _ => trivial
  apply acts_read
  intro seen _
  apply acts_bind fun _ _ => True
  · apply acts_onlyIf
    · intro isAbsent
      apply acts_act _ fun _ _ => trivial
      rintro world rfl
      exact Option.isNone_iff_eq_none.mp isAbsent
    · exact fun _ _ _ => trivial
  · exact fun _ => acts_act (fun _ _ => trivial) fun _ _ => trivial

theorem materialRule_acts :
    Acts strict actor (fun op _ => op = .call) (fun _ => True) (materialRule actor)
      fun rule world => world.rule = rule := by
  apply acts_then fun _ _ => rfl
  apply acts_read
  intro seen _
  apply acts_pure
  rintro world rfl
  rfl

theorem call_guarded {op : Op} (call : op = .call) : Guarded start op world := by
  cases call
  trivial

theorem prepareRule_acts :
    Acts strict .installer (Guarded start) (fun _ => True) prepareRule fun _ _ => True := by
  apply acts_then fun _ _ => trivial
  apply acts_read
  intro seen _
  split
  · apply acts_bind fun _ _ => True
    · exact materialRule_acts.mono (fun _ _ => trivial) (fun _ _ _ => trivial)
        fun _ _ call => call_guarded call
    intro preexisting
    apply acts_bind fun _ _ => True
    · apply acts_onlyIf
      · exact fun _ => acts_act (fun _ _ => trivial) fun _ _ => trivial
      · exact fun _ _ _ => trivial
    · exact fun _ => acts_pure fun _ _ => trivial
  · exact acts_pure fun _ _ => trivial

theorem labelMaterials_acts :
    Acts strict .installer (Guarded start) (fun _ => True) labelMaterials fun _ _ => True := by
  apply acts_then fun _ _ => trivial
  exact acts_act (fun _ _ => trivial) fun _ _ => trivial

/-- The drop-in is published behind the runtime. -/
theorem installRuntime_acts (plan : Plan) (preexisting : Option Bool) :
    Acts strict .installer (Guarded start) (fun _ => True) (installRuntime plan preexisting)
      fun _ _ => True := by
  apply acts_then fun _ _ => trivial
  apply acts_bind _ (makeDirectory_acts rfl)
  intro _
  -- the files are written, and then the links
  apply acts_bind fun _ => HasAll .runtime fun listed => False ∨ listed ∈ plan.files.map Prod.fst
  · refine (forEach_adds fun item names => ?_).mono (fun _ _ _ => False.elim) (fun _ _ has => has)
      fun _ _ guarded => guarded
    apply acts_inspect fun _ _ => trivial
    exact writeEntry_adds (by simp) fun _ => id
  intro _
  apply acts_bind fun _ => HasAll .runtime (· ∈ plan.files.map Prod.fst ++ plan.links.map Prod.fst)
  · refine (forEach_adds fun item names => ?_).mono (fun _ has => has) ?_ fun _ _ guarded => guarded
    · exact writeEntry_adds (by simp) fun _ => id
    · exact fun _ _ has listed inside => has listed ((List.mem_append.mp inside).imp .inr id)
  intro _
  apply acts_bind _ writeEntry_completes
  intro _
  apply acts_call fun _ _ => trivial
  apply acts_inspect fun _ _ => trivial
  apply acts_bind _ (writeFile_acts rfl ?_)
  · exact fun _ => acts_act (fun _ _ => trivial) fun _ _ => trivial
  · exact fun _ complete => ⟨nofun, fun _ => complete⟩

/-- The login configuration is published behind the module. -/
theorem installLogin_acts (plan : Plan) :
    Acts strict .installer (Guarded start) (fun _ => True) (installLogin plan) fun _ _ => True := by
  apply acts_bind _ (makeDirectory_acts rfl)
  intro _
  apply acts_then fun _ _ => trivial
  apply acts_bind fun _ => HasAll .support (· = moduleName)
  · exact (writeEntry_adds (by simp) fun _ => .inr).mono (fun _ _ _ => False.elim) (fun _ _ has => has)
      fun _ _ guarded => guarded
  intro _
  apply acts_bind fun _ => HasAll .support (· = moduleName)
  · exact writeEntry_adds (by simp) fun _ => .inl
  intro _
  apply acts_call fun _ _ => trivial
  apply acts_bind _ (writeFile_acts rfl ?_)
  · exact fun _ => acts_act (fun _ _ => trivial) fun _ _ => trivial
  · exact fun _ has => ⟨fun _ => has moduleName rfl, nofun⟩

/-! ## The body of the transaction -/

/-- The steps of the transaction, without its rollback. -/
def Actor.isTransaction : Actor → Bool
  | .installer | .remover => true
  | _ => false

/-- A step outside the rollback. -/
structure Regular (start : Option Mask) (event : Step) : Prop where
  does : Does event.label.actor (Guarded start) event
  outside : event.label.actor ≠ .rollback ∧ event.label.actor ≠ .rescue
  spares : event.label.actor.isTransaction = false → event.after.paths = event.before.paths

theorem Does.regular {start : Option Mask} {event : Step} (does : Does actor (Guarded start) event)
    (inside : actor.isTransaction = true) : Regular start event := by
  obtain rfl := does.actor
  refine ⟨does, ?_, fun outside => absurd inside (by simp [outside])⟩
  constructor <;> intro same <;> simp [same, Actor.isTransaction] at inside

/-- No step of the transaction failed. -/
def Clean (history : List Step) : Prop :=
  ∀ event ∈ history, event.label.actor.isTransaction = true → event.error = none

theorem clean_append {history trace : List Step} :
    Clean (history ++ trace) ↔ Clean history ∧ Clean trace := by
  simp only [Clean, List.mem_append, or_imp, forall_and]

theorem Tidy.clean {history trace : List Step} (tidy : Tidy history.length (history ++ trace))
    (clean : Clean history) : Clean (history ++ trace) := by
  refine clean_append.mpr ⟨clean, fun event inside _ => tidy event ?_⟩
  rwa [List.drop_left]

variable {assumed : Step → Prop}

/-- An action that returns leaves the history clean. -/
theorem Acts.regular {script : Deploy α} {post : α → World → Prop}
    (acts : Acts strict actor (Guarded start) pre script post)
    (inside : actor.isTransaction = true) :
    Meets assumed (fun _ event => Regular start event)
      (fun history world => Clean history ∧ pre world) script
      (fun value history world => Clean history ∧ post value world) fun _ _ _ => True := by
  apply meets_at
  rintro history world ⟨clean, given⟩
  have meets := (acts assumed history.length True).pin ⟨Nat.le_refl _, by simp [Tidy], given⟩
  refine (meets.extends.weaken ?_).mono (fun _ _ same => same) ?_ fun _ _ _ _ => trivial
  · exact fun _ event does => does.1.regular inside
  · rintro value _ here ⟨⟨trace, rfl⟩, -, tidy, holds⟩
    exact ⟨(tidy.mpr trivial).clean clean, holds⟩

theorem Acts.cleanly {script : Deploy α} (acts : Acts false .installer (Guarded start)
      (fun _ => True) script fun _ _ => True) :
    Meets assumed (fun _ event => Regular start event) (fun history _ => Clean history) script
      (fun _ history _ => Clean history) fun _ _ _ => True :=
  (acts.regular rfl).mono (fun _ _ clean => ⟨clean, trivial⟩) (fun _ _ _ given => given.1)
    fun _ _ _ _ => trivial

theorem Attends.guarded {first : Option Mask} {op : Op} (attends : Attends first op world)
    (masked : start = none ∨ first = start) : Guarded start op world := by
  obtain stops | unlabels | unloads | masks := attends
  · obtain rfl | rfl | rfl | rfl := stops <;> trivial
  · obtain rfl | rfl | rfl | rfl := unlabels <;> trivial
  · obtain rfl | rfl | rfl := unloads <;> trivial
  · obtain rfl | rfl | ⟨rfl, absent, fresh⟩ | ⟨rfl, ours⟩ := masks
    · trivial
    · trivial
    · exact ⟨absent, masked.elim id fun same => same ▸ fresh⟩
    · exact masked.elim id fun same => same ▸ ours

theorem RemovalStep.regular {ownsRule : Bool} {first : World} {since : Nat} {history : List Step}
    {event : Step} (step : RemovalStep ownsRule first since history event)
    (masked : start = none ∨ first.mask = start) : Regular start event := by
  obtain ⟨found, does, may⟩ | attends := step.does
  · have guards : (found = .support → event.before.paths .config = none) ∧
        (found = .runtime → event.before.paths .dropin = none) := by
      constructor
      · rintro rfl
        exact may
      · rintro rfl
        exact may.1
    refine Does.regular ⟨does.actor, ?_, does.effect, does.failed⟩ rfl
    obtain same | same | same | same := does.allowed <;> rw [same]
    · trivial
    · exact guards
    · exact guards
    · exact guards
  · exact Does.regular ⟨attends.actor, attends.allowed.guarded masked, attends.effect, attends.failed⟩ rfl

theorem removeExisting_meets (saved : Saved) :
    Meets assumed (fun _ event => Regular start event)
      (fun history world => Clean history ∧ (start = none ∨ world.mask = start))
      (removeExisting saved) (fun _ history _ => Clean history) fun _ _ _ => True := by
  cases saved with
  | nil => exact meets_pure fun _ _ given => given.1
  | cons entry saved =>
    apply meets_bind fun code history _ => code = 0 → Clean history
    · apply meets_at
      rintro history world ⟨clean, masked⟩
      have first : Stage history.length [] True (· = world) history world :=
        ⟨Nat.le_refl _, by simp [Tidy], fun _ => trivial, rfl⟩
      refine (((remove_meets false world history.length).pin first).extends.weaken
        fun _ _ step => step.regular masked).mono (fun _ _ same => same) ?_ fun _ _ _ _ => trivial
      rintro code _ here ⟨⟨trace, rfl⟩, -, tidy, -⟩ zero
      exact (tidy.mpr zero).clean clean
    · intro code
      split
      · rename_i zero
        exact meets_pure fun _ _ given => given zero
      · apply meets_raise
        intro history world _ _
        exact ⟨Does.regular ⟨rfl, trivial, .inl rfl, fun _ _ _ => rfl⟩ rfl, trivial⟩

theorem install_meets (plan : Plan) (saved : Saved) :
    Meets assumed (fun _ event => Regular start event)
      (fun history world => Clean history ∧ (start = none ∨ world.mask = start))
      (install plan saved) (fun _ history _ => Clean history) fun _ _ _ => True := by
  apply meets_bind _ (removeExisting_meets saved)
  intro _
  apply Acts.cleanly
  apply acts_bind _ (installTools_acts plan)
  intro _
  apply acts_bind fun _ _ => True
  · exact removeSelinuxModule_acts.mono (fun _ _ => trivial) (fun _ _ _ => trivial)
      fun _ _ unloads => Attends.guarded (.inr (.inr (.inl unloads))) (.inr rfl)
  intro _
  apply acts_bind fun _ _ => True
  · unfold installBundle
    split
    · exact acts_onlyIf (fun _ => installMaterials_acts _) fun _ _ _ => trivial
    · exact acts_pure fun _ _ => trivial
  intro _
  apply acts_bind _ createStateRoot_acts
  intro _
  apply acts_bind _ prepareRule_acts
  intro preexisting
  apply acts_bind _ labelMaterials_acts
  intro _
  have other : "GOODIX_PAIRING_STATE=READY" ≠ rollbackMarker := by decide
  apply acts_then fun _ _ => other
  apply acts_bind _ (installRuntime_acts plan preexisting)
  intro _
  apply acts_bind _ (installLogin_acts plan)
  intro _
  apply acts_then fun _ _ => trivial
  apply acts_bind fun _ _ => True
  · exact normalPreflight_acts.mono (fun _ _ => trivial) (fun _ _ _ => trivial) fun _ _ inspects => by
      cases inspects
      trivial
  intro _
  exact stopAndVerify_acts.mono (fun _ _ => trivial) (fun _ _ _ => trivial)
    fun _ _ stops => Attends.guarded (.inl stops) (.inr rfl)

end Goodix.Deployment
