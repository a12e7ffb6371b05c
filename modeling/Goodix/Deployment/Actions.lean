import Goodix.Deployment.Remove

/-! # What the actions of a removal do

An action is described by the operations it may take, by what it makes true, and by the fact
that it never passes over a step that failed.
-/

namespace Goodix.Deployment

open Scripts Scripts.Script

variable {α β : Type} {actor : Actor} {strict : Bool}

/-- No step failed since some point of the history. -/
def Tidy (since : Nat) (history : List Step) : Prop :=
  ∀ event ∈ history.drop since, event.error = none

theorem tidy_concat {since : Nat} {history : List Step} {event : Step}
    (within : since ≤ history.length) :
    Tidy since (history ++ [event]) ↔ Tidy since history ∧ event.error = none := by
  unfold Tidy
  rw [List.drop_append_of_le_length within]
  simp [or_imp, forall_and]

/-- An event that an operation explains, of those an action may take. -/
structure Does (actor : Actor) (allowed : Op → World → Prop) (event : Step) : Prop where
  actor : event.label.actor = actor
  allowed : allowed event.label.op event.before
  effect : event.after = event.before ∨ event.after = event.label.op.effect event.before
  failed : ∀ error, event.error = some error → event.label.op.leaves error = false →
    event.after = event.before

theorem Does.among {allowed weaker : Op → World → Prop} {event : Step} (does : Does actor allowed event)
    (allows : ∀ op world, allowed op world → weaker op world) : Does actor weaker event :=
  ⟨does.actor, allows _ _ does.allowed, does.effect, does.failed⟩

/-- An error comes from a step that can raise it. -/
def Raised (actor : Actor) (allowed : Op → World → Prop) (assumed : Step → Prop) (error : Error) : Prop :=
  ∃ event, Does actor allowed event ∧ event.label.op.raises error = true ∧
    event.error = some error ∧ assumed event

theorem Raised.mono {allowed weaker : Op → World → Prop} {assumed : Step → Prop} {error : Error}
    (raised : Raised actor allowed assumed error)
    (allows : ∀ op world, allowed op world → weaker op world) :
    Raised actor weaker assumed error := by
  obtain ⟨event, does, may, raises⟩ := raised
  exact ⟨event, does.among allows, may, raises⟩

/-- An action that returns has passed over no failure of its own, and one that raises an error has
one.  A strict action takes no step behind a failure. -/
def Acts (strict : Bool) (actor : Actor) (allowed : Op → World → Prop) (pre : World → Prop)
    (script : Deploy α) (post : α → World → Prop) : Prop :=
  ∀ (assumed : Step → Prop) (since : Nat) (clean : Prop),
    Meets assumed
      (fun history event =>
        Does actor allowed event ∧ (strict = true → (Tidy since history ↔ clean)))
      (fun history world => since ≤ history.length ∧ (Tidy since history ↔ clean) ∧ pre world)
      script
      (fun value history world =>
        since ≤ history.length ∧ (Tidy since history ↔ clean) ∧ post value world)
      (fun error history _ =>
        since ≤ history.length ∧ ¬ Tidy since history ∧ Raised actor allowed assumed error)

variable {allowed : Op → World → Prop} {pre : World → Prop} {post : α → World → Prop}

theorem acts_pure {value : α} (holds : ∀ world, pre world → post value world) :
    Acts strict actor allowed pre (pure value) post := fun _ _ _ =>
  meets_pure fun _ world given => ⟨given.1, given.2.1, holds world given.2.2⟩

theorem acts_get {post : World → World → Prop} (holds : ∀ world, pre world → post world world) :
    Acts strict actor allowed pre get post := fun _ _ _ =>
  meets_get fun _ world given => ⟨given.1, given.2.1, holds world given.2.2⟩

theorem acts_bind {script : Deploy α} {next : α → Deploy β} (mid : α → World → Prop)
    {post : β → World → Prop} (first : Acts strict actor allowed pre script mid)
    (second : ∀ value, Acts strict actor allowed (mid value) (next value) post) :
    Acts strict actor allowed pre (script >>= next) post := fun assumed since clean =>
  meets_bind _ (first assumed since clean) fun value => second value assumed since clean

theorem Acts.mono {script : Deploy α} {pre' : World → Prop} {post' : α → World → Prop}
    {weaker : Op → World → Prop} (acts : Acts strict actor allowed pre script post)
    (stronger : ∀ world, pre' world → pre world)
    (returns : ∀ value world, post value world → post' value world)
    (allows : ∀ op world, allowed op world → weaker op world) :
    Acts strict actor weaker pre' script post' := fun assumed since clean => by
  have meets := (acts assumed since clean).weaken
    fun _ _ ⟨does, tidy⟩ => (⟨does.among allows, tidy⟩ : Does actor weaker _ ∧ _)
  exact meets.mono (fun _ _ given => ⟨given.1, given.2.1, stronger _ given.2.2⟩)
    (fun _ _ _ given => ⟨given.1, given.2.1, returns _ _ given.2.2⟩) fun _ _ _ given =>
      ⟨given.1, given.2.1, given.2.2.mono allows⟩

/-- The error of a step, and what a step may leave behind. -/
abbrev Happens (op : Op) (world after : World) (error : Option Error) : Prop :=
  Occurs op.effect (fun error => if op.raises error then error else .os) op.leaves world after error

theorem raises_os (op : Op) : op.raises .os = true := by
  cases op <;> rfl

/-- The event of an operation. -/
theorem does_of_happens {op : Op} {world after : World} {error : Option Error}
    (allows : allowed op world) (happens : Happens op world after error) :
    Does actor allowed ⟨⟨actor, op⟩, world, after, error⟩ := by
  refine ⟨rfl, allows, ?_, ?_⟩
  · cases happens with
    | done => exact .inr rfl
    | undone error => exact .inl rfl
    | left => exact .inr rfl
  · intro error raised stays
    cases happens with
    | done => cases raised
    | undone _ => rfl
    | left _ may =>
      cases raised
      rw [stays] at may
      cases may

theorem raises_of_happens {op : Op} {world after : World} {error : Error}
    (happens : Happens op world after (some error)) : op.raises error = true := by
  have turned (error : Error) : op.raises (if op.raises error then error else .os) = true := by
    split
    · assumption
    · exact raises_os op
  cases happens with
  | undone error => exact turned error
  | left error _ => exact turned error

theorem acts_act {op : Op} {post : Unit → World → Prop} (allows : ∀ world, pre world → allowed op world)
    (holds : ∀ world, pre world → post () (op.effect world)) :
    Acts strict actor allowed pre (act actor op) post := fun assumed since clean => by
  refine meets_step fun history world after error given happens fits => ⟨?_, ?_⟩
  · exact ⟨does_of_happens (allows world given.2.2) happens, fun _ => given.2.1⟩
  · have length : since ≤ (history ++ [(⟨⟨actor, op⟩, world, after, error⟩ : Step)]).length := by
      simp only [List.length_append]
      omega
    cases error with
    | none =>
      cases happens
      refine ⟨length, ?_, holds world given.2.2⟩
      rw [tidy_concat given.1, ← given.2.1]
      exact and_iff_left rfl
    | some error =>
      refine ⟨length, fun tidy => ?_, ?_⟩
      · cases ((tidy_concat given.1).mp tidy).2
      · exact ⟨_, does_of_happens (allows world given.2.2) happens, raises_of_happens happens, rfl, fits⟩

/-- A check fails with an error that it can raise. -/
theorem acts_raise {op : Op} {error : Error} (proper : op.raises error = true)
    (allows : ∀ world, pre world → allowed op world) :
    Acts strict actor allowed pre (raise ⟨actor, op⟩ error : Deploy α) post :=
  fun assumed since clean => by
    refine meets_raise fun history world given fits => ?_
    have does : Does actor allowed ⟨⟨actor, op⟩, world, world, some error⟩ :=
      ⟨rfl, allows world given.2.2, .inl rfl, fun _ _ _ => rfl⟩
    refine ⟨⟨does, fun _ => given.2.1⟩, ?_, fun tidy => ?_, _, does, proper, rfl, fits⟩
    · simp only [List.length_append]
      have := given.1
      omega
    · cases ((tidy_concat given.1).mp tidy).2

theorem acts_refuse {message : String} (allows : ∀ world, pre world → allowed .inspect world) :
    Acts strict actor allowed pre (refuse actor message : Deploy α) post :=
  acts_raise rfl allows

theorem acts_clash {path : Path} (allows : ∀ world, pre world → allowed (.stat path) world) :
    Acts strict actor allowed pre (clash actor path : Deploy α) post :=
  acts_raise rfl allows

theorem acts_onlyIf {condition : Bool} {script : Deploy Unit} {post : Unit → World → Prop}
    (taken : condition = true → Acts strict actor allowed pre script post)
    (passed : condition = false → ∀ world, pre world → post () world) :
    Acts strict actor allowed pre (onlyIf condition script) post := by
  cases condition with
  | true => exact taken rfl
  | false => exact acts_pure (passed rfl)

/-- A step whose effect does not matter to the steps behind it. -/
theorem acts_then {op : Op} {rest : Deploy β} {post : β → World → Prop}
    (allows : ∀ world, pre world → allowed op world)
    (later : Acts strict actor allowed (fun _ => True) rest post) :
    Acts strict actor allowed pre (act actor op >>= fun _ => rest) post :=
  acts_bind (fun _ _ => True) (acts_act allows fun _ _ => trivial) fun _ => later

/-- A step that reads leaves the world as it is. -/
theorem acts_inspect {rest : Deploy β} {post : β → World → Prop}
    (allows : ∀ world, pre world → allowed .inspect world)
    (later : Acts strict actor allowed pre rest post) :
    Acts strict actor allowed pre (act actor .inspect >>= fun _ => rest) post :=
  acts_bind (fun _ => pre) (acts_act allows fun _ given => given) fun _ => later

theorem acts_call {rest : Deploy β} {post : β → World → Prop}
    (allows : ∀ world, pre world → allowed .call world)
    (later : Acts strict actor allowed pre rest post) :
    Acts strict actor allowed pre (act actor .call >>= fun _ => rest) post :=
  acts_bind (fun _ => pre) (acts_act allows fun _ given => given) fun _ => later

/-- What is read of the world is true of it. -/
theorem acts_read {next : World → Deploy β} {post : β → World → Prop}
    (later : ∀ seen, pre seen → Acts strict actor allowed (fun world => world = seen) (next seen) post) :
    Acts strict actor allowed pre (get >>= next) post := by
  apply acts_bind (fun seen world => world = seen ∧ pre seen)
  · exact acts_get fun world given => ⟨rfl, given⟩
  · intro seen assumed since clean history world verdicts given
    exact later seen given.2.2.2 assumed since clean history world verdicts
      ⟨given.1, given.2.1, given.2.2.1⟩

/-- A cleanup behind an error, which is raised again. -/
theorem acts_handle_rethrow {script : Deploy α} {cleanup : Deploy Unit} {other : World → Prop}
    (first : Acts false actor allowed pre script post)
    (second : Acts false actor allowed (fun _ => True) cleanup fun _ => other) :
    Acts false actor allowed pre (script.handle fun error => do cleanup; rethrow error) post :=
  fun assumed since clean => by
    refine meets_handle _ (first assumed since clean) fun error => ?_
    have cleans := (second assumed since False).weaken fun history _ ⟨does, _⟩ =>
      (⟨does, nofun⟩ : Does actor allowed _ ∧ (false = true → (Tidy since history ↔ clean)))
    apply meets_given
    intro _ _ raised
    refine meets_bind _ (cleans.mono ?_ (fun _ _ _ given => given)
      fun _ _ _ given => given) fun _ => meets_rethrow fun _ _ given => ?_
    · intro history world given
      exact ⟨given.1, iff_false_intro given.2.1, trivial⟩
    · exact ⟨given.1, given.2.1.mp, raised.2.2⟩

/-! ## The operations -/

@[simp] theorem World.put_paths (world : World) (path : Path) (node : Option Node) :
    (world.put path node).paths path = node := by
  simp [World.put]

theorem World.put_other (world : World) {path other : Path} (node : Option Node)
    (differs : other ≠ path) : (world.put path node).paths other = world.paths other := by
  simp [World.put, differs]

/-- The operations that remove a path. -/
def Removes (path : Path) (op : Op) : Prop :=
  op = .inspect ∨ op = .unlink path ∨ op = .unlinkEntry path ∨ op = .rmdir path

theorem removeTree_acts (path : Path) (entries : List Entry) :
    Acts strict actor (fun op _ => Removes path op) (fun _ => True) (removeTree actor path entries)
      fun _ world => world.paths path = none := by
  induction entries with
  | nil => exact acts_act (fun _ _ => .inr (.inr (.inr rfl))) fun world _ => by simp [Op.effect]
  | cons entry rest ih =>
    exact acts_bind _ (acts_act (fun _ _ => .inr (.inr (.inl rfl))) fun _ _ => trivial) fun _ => ih

theorem removePath_acts (path : Path) :
    Acts strict actor (fun op _ => Removes path op) (fun _ => True) (removePath actor path)
      fun _ world => world.paths path = none := by
  apply acts_then fun _ _ => .inl rfl
  apply acts_read
  intro seen _
  split
  · rename_i absent
    exact acts_pure fun world same => by rw [same, absent]
  · split
    · exact (removeTree_acts path _).mono (fun _ _ => trivial) (fun _ _ gone => gone) fun _ _ may => may
    · exact acts_refuse fun _ _ => .inl rfl
  · exact acts_act (fun _ _ => .inr (.inl rfl)) fun world _ => by simp [Op.effect]

/-- The operations that stop the service. -/
def Stops (op : Op) : Prop := op = .inspect ∨ op = .daemonReload ∨ op = .stopService ∨ op = .call

/-- The service is stopped, and cannot be started. -/
def Quiesced (world : World) : Prop := world.running = false ∧ world.masked = true

theorem stopAndVerify_acts :
    Acts strict actor (fun op _ => Stops op) (fun _ => True) (stopAndVerify actor)
      fun _ world => Quiesced world := by
  apply acts_then fun _ _ => .inr (.inl rfl)
  apply acts_then fun _ _ => .inr (.inr (.inl rfl))
  apply acts_then fun _ _ => .inr (.inr (.inr rfl))
  apply acts_read
  intro seen _
  split
  · exact acts_refuse fun _ _ => .inl rfl
  · rename_i quiet
    apply acts_pure
    rintro world rfl
    simpa [Quiesced] using quiet

/-- The operations on the labels of the materials. -/
def Unlabels (op : Op) : Prop := op = .inspect ∨ op = .deleteRule ∨ op = .relabel ∨ op = .call

/-- The rule is gone, and the materials do not carry its label. -/
def Unlabelled (world : World) : Prop :=
  world.rule = false ∧ (world.host.material.isSome = true → world.labelled = false)

theorem removeLabel_acts :
    Acts strict actor (fun op _ => Unlabels op) (fun _ => True) (removeLabel actor)
      fun _ world => Unlabelled world := by
  apply acts_then fun _ _ => .inr (.inr (.inr rfl))
  apply acts_read
  intro seen _
  apply acts_bind fun _ _ => True
  · exact acts_onlyIf (fun _ => acts_act (fun _ _ => .inr (.inl rfl)) fun _ _ => trivial)
      fun _ _ _ => trivial
  intro _
  apply acts_then fun _ _ => .inr (.inr (.inr rfl))
  apply acts_read
  intro listed _
  split
  · exact acts_refuse fun _ _ => .inl rfl
  · rename_i unruled
    apply acts_inspect fun _ _ => .inl rfl
    apply acts_read
    rintro seen rfl
    apply acts_onlyIf
    · intro _
      apply acts_act fun _ _ => .inr (.inr (.inl rfl))
      rintro world rfl
      have gone : world.rule = false := by simpa using unruled
      exact ⟨gone, fun _ => gone⟩
    · rintro absent world rfl
      simpa [Unlabelled, absent] using unruled

theorem selinuxModulePresent_acts :
    Acts strict actor (fun op _ => op = .inspect ∨ op = .call) (fun _ => True) (selinuxModulePresent actor)
      fun found world => world.module_ = found.map (PolicyModule.mk true) := by
  apply acts_then fun _ _ => .inr rfl
  apply acts_read
  intro seen _
  split
  · rename_i absent
    exact acts_pure fun world same => by simp [same, absent]
  · rename_i found there
    split
    · exact acts_refuse fun _ _ => .inl rfl
    · apply acts_call fun _ _ => .inr rfl
      split
      · exact acts_refuse fun _ _ => .inl rfl
      · rename_i listed _
        apply acts_pure
        rintro world rfl
        simp only [Bool.not_eq_true', Bool.not_eq_false] at listed
        rw [there, Option.map_some, ← listed]

/-- The operations that remove the policy module. -/
def Unloads (op : Op) : Prop := op = .inspect ∨ op = .call ∨ op = .removeModule

theorem removeSelinuxModule_acts :
    Acts strict actor (fun op _ => Unloads op) (fun _ => True) (removeSelinuxModule actor)
      fun _ world => world.module_ = none := by
  have reads : Acts strict actor (fun op _ => Unloads op) (fun _ => True) (selinuxModulePresent actor)
      fun found world => world.module_ = found.map (PolicyModule.mk true) :=
    selinuxModulePresent_acts.mono (fun _ _ => trivial) (fun _ _ read => read) fun _ _ read => read.imp_right .inl
  apply acts_bind _ reads
  intro found
  cases found with
  | none => exact acts_pure fun _ absent => absent
  | some data =>
    apply acts_then fun _ _ => .inr (.inr rfl)
    apply acts_bind _ reads
    intro again
    cases again with
    | none => exact acts_pure fun _ absent => absent
    | some data => exact acts_refuse fun _ _ => .inl rfl

/-- The operations on the mask of the service, which is not taken away if it was there at the
start. -/
def Masks (start : Option Mask) (op : Op) (world : World) : Prop :=
  op = .inspect ∨ op = .daemonReload ∨ op = .maskService ∧ world.mask = none ∧ start = none ∨
    op = .unmaskService ∧ start = none

theorem releaseInhibition_acts {start : Option Mask} {created : Option Nat}
    (ours : created.isSome = true → start = none) :
    Acts strict actor (Masks start) (fun _ => True) (releaseInhibition actor created) fun _ _ => True := by
  cases created with
  | none => exact acts_pure fun _ _ => trivial
  | some inode =>
    apply acts_then fun _ _ => .inl rfl
    apply acts_read
    intro seen _
    split
    · apply acts_then fun _ _ => .inr (.inr (.inr ⟨rfl, ours rfl⟩))
      exact acts_act (fun _ _ => .inr (.inl rfl)) fun _ _ => trivial
    · exact acts_refuse fun _ _ => .inl rfl

/-- There is a mask that keeps the service from being started. -/
def Inhibited (world : World) : Prop := ∃ inode, world.mask = some ⟨inode, true⟩

theorem inhibitActivation_acts (start : Option Mask) :
    Acts false actor (Masks start) (fun world => world.mask = start) (inhibitActivation actor)
      fun created world => Inhibited world ∧ (created.isSome = true → start = none) := by
  apply acts_inspect fun _ _ => .inl rfl
  apply acts_read
  intro seen same
  split
  · rename_i mask there
    apply acts_inspect fun _ _ => .inl rfl
    split
    · rename_i isNull
      apply acts_pure
      rintro world rfl
      exact ⟨⟨mask.inode, by rw [there, ← isNull]⟩, nofun⟩
    · exact acts_refuse fun _ _ => .inl rfl
  · rename_i absent
    have none : start = none := same ▸ absent
    apply acts_then
    · rintro world rfl
      exact .inr (.inr (.inl ⟨rfl, absent, none⟩))
    apply acts_then fun _ _ => .inl rfl
    apply acts_read
    intro found _
    split
    · rename_i inode created
      -- the mask is released again if its creation is interrupted
      apply acts_handle_rethrow _ (releaseInhibition_acts fun _ => none)
      apply acts_inspect fun _ _ => .inl rfl
      apply acts_pure
      rintro world rfl
      exact ⟨⟨inode, created⟩, fun _ => none⟩
    · exact acts_refuse fun _ _ => .inl rfl

theorem normalPreflight_acts :
    Acts strict actor (fun op _ => op = .inspect) (fun _ => True) (normalPreflight actor)
      fun owned world => owned = ownedRule world ∧ preflightAccepts world = true := by
  apply acts_then fun _ _ => rfl
  apply acts_read
  intro seen _
  split
  · rename_i accepts
    apply acts_pure
    rintro world rfl
    exact ⟨rfl, accepts⟩
  · exact acts_refuse fun _ _ => rfl

end Goodix.Deployment
