import Goodix.Deployment.Actions

/-! # The order of a removal

Every step of `remove`, whatever fails before it, finds what it depends on already gone: the
entry points before what they name, the service stopped before its libraries, and nothing
failed before the recovery commands.
-/

namespace Goodix.Deployment

open Traces Scripts Scripts.Script

/-! ## What operations leave alone -/

theorem modify_paths (world : World) {path other : Path} (change : List Entry → List Entry)
    (differs : other ≠ path) : (world.modify path change).paths other = world.paths other := by
  unfold World.modify
  split
  · exact world.put_other _ differs
  · rfl

theorem modify_absent (world : World) {path other : Path} (change : List Entry → List Entry)
    (absent : world.paths other = none) : (world.modify path change).paths other = none := by
  by_cases same : other = path
  · subst same
    simp [World.modify, absent]
  · rw [modify_paths world change same, absent]

/-- The world but for its paths. -/
def World.rest (world : World) : World := { world with paths := fun _ => none }

theorem modify_rest (world : World) (path : Path) (change : List Entry → List Entry) :
    (world.modify path change).rest = world.rest := by
  unfold World.modify
  split
  · rfl
  · rfl

theorem host_of_rest {first second : World} (same : first.rest = second.rest) :
    first.host = second.host := by
  have host : first.rest.host = second.rest.host := by rw [same]
  exact host

theorem mask_of_rest {first second : World} (same : first.rest = second.rest) :
    first.mask = second.mask := by
  have mask : first.rest.mask = second.rest.mask := by rw [same]
  exact mask

variable {op : Op} {path : Path} {world : World}

theorem Removes.rest (removes : Removes path op) (world : World) :
    (op.effect world).rest = world.rest := by
  obtain rfl | rfl | rfl | rfl := removes
  · rfl
  · rfl
  · exact modify_rest world path _
  · rfl

theorem Removes.other (removes : Removes path op) (world : World) {other : Path}
    (differs : other ≠ path) : (op.effect world).paths other = world.paths other := by
  obtain rfl | rfl | rfl | rfl := removes
  · rfl
  · exact world.put_other _ differs
  · exact modify_paths world _ differs
  · exact world.put_other _ differs

theorem Removes.absent (removes : Removes path op) {other : Path}
    (absent : world.paths other = none) : (op.effect world).paths other = none := by
  by_cases same : other = path
  · subst same
    obtain rfl | rfl | rfl | rfl := removes
    · exact absent
    · exact world.put_paths other none
    · exact modify_absent world _ absent
    · exact world.put_paths other none
  · rw [removes.other world same, absent]

/-- The operations of a removal that are none on a path. -/
def Attends (start : Option Mask) (op : Op) (world : World) : Prop :=
  Stops op ∨ Unlabels op ∨ Unloads op ∨ Masks start op world

theorem Attends.paths {start : Option Mask} (attends : Attends start op world) :
    (op.effect world).paths = world.paths := by
  obtain stops | unlabels | unloads | masks := attends
  · obtain rfl | rfl | rfl | rfl := stops <;> rfl
  · obtain rfl | rfl | rfl | rfl := unlabels <;> rfl
  · obtain rfl | rfl | rfl := unloads <;> rfl
  · obtain rfl | rfl | ⟨rfl, -⟩ | ⟨rfl, -⟩ := masks <;> rfl

theorem Attends.host {start : Option Mask} (attends : Attends start op world) :
    (op.effect world).host = world.host := by
  obtain stops | unlabels | unloads | masks := attends
  · obtain rfl | rfl | rfl | rfl := stops <;> rfl
  · obtain rfl | rfl | rfl | rfl := unlabels <;> rfl
  · obtain rfl | rfl | rfl := unloads <;> rfl
  · obtain rfl | rfl | ⟨rfl, -⟩ | ⟨rfl, -⟩ := masks <;> rfl

/-! ## The facts a removal goes by -/

/-- What has been made true, where it was. -/
structure Facts (start : World) (removed : Path → Prop) (held : Option Mask → Prop)
    (stopped unlabelled : Prop) (world : World) : Prop where
  gone : ∀ path, removed path → world.paths path = none
  masks : held world.mask
  stops : stopped → Quiesced world
  unlabels : unlabelled → Unlabelled world
  force : world.paths .force = start.paths .force

variable {start : World} {removed : Path → Prop} {held : Option Mask → Prop}
  {stopped unlabelled : Prop}

theorem Facts.removes (facts : Facts start removed held stopped unlabelled world)
    (removes : Removes path op) (spares : path ≠ .force) :
    Facts start removed held stopped unlabelled (op.effect world) := by
  have rest := removes.rest world
  have mask : (op.effect world).rest.mask = world.rest.mask := by rw [rest]
  have running : (op.effect world).rest.running = world.rest.running := by rw [rest]
  have masked : (op.effect world).rest.masked = world.rest.masked := by rw [rest]
  have rule : (op.effect world).rest.rule = world.rest.rule := by rw [rest]
  have labelled : (op.effect world).rest.labelled = world.rest.labelled := by rw [rest]
  have host : (op.effect world).rest.host = world.rest.host := by rw [rest]
  simp only [World.rest] at mask running masked rule labelled host
  constructor
  · exact fun other absent => removes.absent (facts.gone other absent)
  · simpa only [mask] using facts.masks
  · exact fun holds => by simpa only [Quiesced, running, masked] using facts.stops holds
  · exact fun holds => by simpa only [Unlabelled, rule, labelled, host] using facts.unlabels holds
  · rw [removes.other world spares.symm, facts.force]

theorem Facts.stopping (facts : Facts start removed held False False world) (stops : Stops op) :
    Facts start removed held False False (op.effect world) := by
  obtain rfl | rfl | rfl | rfl := stops <;>
    exact ⟨facts.gone, facts.masks, nofun, nofun, facts.force⟩

theorem Facts.unloading (facts : Facts start removed held stopped unlabelled world)
    (unloads : Unloads op) :
    Facts start removed held stopped unlabelled (op.effect world) := by
  obtain rfl | rfl | rfl := unloads <;>
    exact ⟨facts.gone, facts.masks, facts.stops, facts.unlabels, facts.force⟩

theorem Facts.unlabelling (facts : Facts start removed held stopped False world)
    (unlabels : Unlabels op) :
    Facts start removed held stopped False (op.effect world) := by
  obtain rfl | rfl | rfl | rfl := unlabels <;>
    exact ⟨facts.gone, facts.masks, facts.stops, nofun, facts.force⟩

theorem Facts.only {fewer : Path → Prop}
    (facts : Facts start removed held stopped unlabelled world)
    (weaker : ∀ path, fewer path → world.paths path = none) :
    Facts start fewer held stopped unlabelled world :=
  ⟨weaker, facts.masks, facts.stops, facts.unlabels, facts.force⟩

theorem Facts.lapse (facts : Facts start removed held stopped unlabelled world) :
    Facts start removed (fun _ => True) False False world :=
  ⟨facts.gone, trivial, nofun, nofun, facts.force⟩

theorem Facts.masking {first : Option Mask}
    (facts : Facts start removed (fun _ => True) False False world) (masks : Masks first op world) :
    Facts start removed (fun _ => True) False False (op.effect world) := by
  obtain rfl | rfl | ⟨rfl, -⟩ | ⟨rfl, -⟩ := masks <;>
    exact ⟨facts.gone, trivial, nofun, nofun, facts.force⟩

/-! ## Attempts -/

/-- What a removal knows between two attempts.  The errors so far are those of the steps that
failed. -/
structure Stage (since : Nat) (errors : List String) (flags : Prop) (facts : World → Prop)
    (history : List Step) (world : World) : Prop where
  within : since ≤ history.length
  tidy : Tidy since history ↔ errors = []
  flags : errors = [] → flags
  facts : facts world

variable {actor : Actor} {allowed : Op → World → Prop} {pre : World → Prop}
  {post : Unit → World → Prop} {assumed : Step → Prop} {since : Nat} {errors : List String}
  {reason : List Step → Step → Prop} {facts : World → Prop} {strict : Bool} {flags : Prop}

/-- An action keeps the facts that its operations keep. -/
theorem Acts.meets {α : Type} {action : Deploy α} {post : α → World → Prop}
    (acts : Acts strict actor allowed pre action post) (clean : Prop)
    (kept : ∀ op world, allowed op world → facts world → facts (op.effect world))
    (allows : ∀ history event, Does actor allowed event → facts event.before →
      (strict = true → (Tidy since history ↔ clean)) → reason history event) :
    Meets assumed reason
      (fun history world =>
        since ≤ history.length ∧ (Tidy since history ↔ clean) ∧ pre world ∧ facts world) action
      (fun value history world =>
        since ≤ history.length ∧ (Tidy since history ↔ clean) ∧ post value world ∧ facts world)
      fun error history world =>
        since ≤ history.length ∧ ¬ Tidy since history ∧ facts world ∧ Raised actor allowed assumed error := by
  have meets := (acts assumed since clean).invariant (fun _ world => facts world) ?_
  · exact ((meets.weaken fun history event ⟨⟨does, tidy⟩, before, _⟩ =>
      allows history event does before tidy).mono
        (fun _ _ given => ⟨⟨given.1, given.2.1, given.2.2.1⟩, given.2.2.2⟩)
        (fun _ _ _ given => ⟨given.1.1, given.1.2.1, given.1.2.2, given.2⟩)
        fun _ _ _ given => ⟨given.1.1, given.1.2.1, given.2, given.1.2.2⟩)
  · rintro history event ⟨does, -⟩ before
    cases does.effect with
    | inl same => exact same ▸ before
    | inr same => exact same ▸ kept _ _ does.allowed before

/-- An attempt goes on behind a failure, with an error more. -/
theorem attempt_meets {label : String} {action : Deploy Unit} (later : Bool → World → Prop)
    (acts : Acts strict actor allowed pre action post)
    (kept : ∀ op world, allowed op world → facts world → facts (op.effect world))
    (ready : ∀ world, facts world → pre world)
    (allows : ∀ history event, Does actor allowed event → facts event.before →
      (strict = true → (Tidy since history ↔ errors = [])) → reason history event)
    (gains : ∀ ok world, facts world → (ok = true → post () world) → later ok world) :
    Meets assumed reason (Stage since errors flags facts) (attempt errors label action)
      (fun result => Stage since result.2 (flags ∧ errors = [] ∧ result.1 = true) (later result.1))
      fun _ history world => since ≤ history.length ∧ ¬ Tidy since history ∧ facts world := by
  apply meets_given
  intro _ _ first
  apply meets_handle fun _ history world =>
    since ≤ history.length ∧ ¬ Tidy since history ∧ facts world
  · apply meets_bind _ ((acts.meets (errors = []) kept allows).mono ?_ (fun _ _ _ given => given)
      fun _ _ _ given => ⟨given.1, given.2.1, given.2.2.1⟩)
    · intro _
      apply meets_pure
      intro history world given
      exact ⟨given.1, given.2.1, fun clean => ⟨first.flags clean, clean, rfl⟩,
        gains true world given.2.2.2 fun _ => given.2.2.1⟩
    · exact fun _ world given => ⟨given.within, given.tidy, ready world given.facts, given.facts⟩
  · intro error
    split
    · apply meets_pure
      intro history world given
      exact ⟨given.1, iff_of_false given.2.1 (by simp), fun clean => absurd clean (by simp),
        gains false world given.2.2 nofun⟩
    · exact meets_rethrow fun _ _ given => given

/-- An attempt behind an error, whose own errors are dropped. -/
theorem cleanup_meets {label : String} {action : Deploy Unit}
    (acts : Acts true actor allowed (fun _ => True) action post)
    (kept : ∀ op world, allowed op world → facts world → facts (op.effect world))
    (allows : ∀ history event, Does actor allowed event → facts event.before → reason history event) :
    Meets assumed reason
      (fun history world => since ≤ history.length ∧ ¬ Tidy since history ∧ facts world)
      (attempt [] label action)
      (fun _ history world => since ≤ history.length ∧ ¬ Tidy since history ∧ facts world)
      fun _ history world => since ≤ history.length ∧ ¬ Tidy since history ∧ facts world := by
  apply meets_handle fun _ history world =>
    since ≤ history.length ∧ ¬ Tidy since history ∧ facts world
  · apply meets_bind _ ((acts.meets False kept fun history event does before _ =>
      allows history event does before).mono ?_ (fun _ _ _ given => given) fun _ _ _ given => ⟨given.1, given.2.1, given.2.2.1⟩)
    · intro _
      exact meets_pure fun _ _ given => ⟨given.1, given.2.1.mp, given.2.2.2⟩
    · exact fun history world given => ⟨given.1, iff_false_intro given.2.1, trivial, given.2.2⟩
  · intro error
    split
    · exact meets_pure fun _ _ given => given
    · exact meets_rethrow fun _ _ given => given

/-! ## The removal -/

/-- What has to be done before a path is removed. -/
def MayRemove (ownsRule : Bool) (since : Nat) (history : List Step) (world : World) : Path → Prop
  | .config | .dropin => True
  | .support => world.paths .config = none
  | .runtime => world.paths .dropin = none ∧ Inhibited world ∧ Quiesced world ∧
    (ownsRule = true → Unlabelled world)
  | .recovery => Tidy since history
  | .normal => Tidy since history ∧ world.paths .recovery = none
  | .force => Tidy since history ∧ world.paths .recovery = none ∧ world.paths .normal = none

/-- A step of a removal, and what was done before it. -/
structure RemovalStep (ownsRule : Bool) (start : World) (since : Nat) (history : List Step)
    (event : Step) : Prop where
  does : (∃ path, Does .remover (fun op _ => Removes path op) event ∧
      MayRemove ownsRule since history event.before path) ∨
    Does .remover (Attends start.mask) event
  rescues : event.before.paths .force = start.paths .force

/-- What is left behind an error. -/
def Broken (start : World) (since : Nat) (history : List Step) (world : World) : Prop :=
  since ≤ history.length ∧ ¬ Tidy since history ∧ world.paths .force = start.paths .force

variable {ownsRule ok : Bool} {label : String} {path : Path}

theorem removing (spares : path ≠ .force)
    (may : ∀ history world, Facts start removed held stopped unlabelled world →
      (Tidy since history ↔ errors = []) → MayRemove ownsRule since history world path) :
    Meets assumed (RemovalStep ownsRule start since)
      (Stage since errors flags (Facts start removed held stopped unlabelled))
      (attempt errors label (removePath .remover path))
      (fun result => Stage since result.2 (flags ∧ errors = [] ∧ result.1 = true)
        (Facts start (fun other => removed other ∨ other = path ∧ result.1 = true) held stopped
          unlabelled))
      fun _ => Broken start since := by
  have acts : Acts true .remover (fun op _ => Removes path op) (fun _ => True)
      (removePath .remover path) fun _ world => world.paths path = none := removePath_acts path
  have gains (ok : Bool) (world : World) (facts : Facts start removed held stopped unlabelled world)
      (gone : ok = true → world.paths path = none) :
      Facts start (fun other => removed other ∨ other = path ∧ ok = true) held stopped unlabelled
        world := by
    refine ⟨?_, facts.masks, facts.stops, facts.unlabels, facts.force⟩
    rintro other (before | ⟨rfl, now⟩)
    · exact facts.gone other before
    · exact gone now
  refine (attempt_meets _ acts (fun op world removes facts => facts.removes removes spares)
    (fun _ _ => trivial) ?_ gains).mono (fun _ _ given => given) (fun _ _ _ given => given)
      fun _ _ _ given => ⟨given.1, given.2.1, given.2.2.force⟩
  exact fun history event does facts tidy =>
    ⟨.inl ⟨path, does, may history event.before facts (tidy rfl)⟩, facts.force⟩

theorem removingIf {condition : Bool} (spares : path ≠ .force) (needed : errors = [] → flags → condition = true)
    (may : condition = true → ∀ history world, Facts start removed held stopped unlabelled world →
      (Tidy since history ↔ errors = []) → MayRemove ownsRule since history world path) :
    Meets assumed (RemovalStep ownsRule start since)
      (Stage since errors flags (Facts start removed held stopped unlabelled))
      (attemptIf condition errors label (removePath .remover path))
      (fun later => Stage since later (flags ∧ errors = [])
        (Facts start (fun other => removed other ∨ other = path ∧ later = []) held stopped
          unlabelled))
      fun _ => Broken start since := by
  unfold attemptIf
  split
  · rename_i holds
    apply meets_bind _ (removing spares (may holds))
    rintro ⟨ok, later⟩
    apply meets_pure
    intro history world given
    refine ⟨given.within, given.tidy, fun clean => ⟨(given.flags clean).1, (given.flags clean).2.1⟩, ?_⟩
    refine ⟨?_, given.facts.masks, given.facts.stops, given.facts.unlabels, given.facts.force⟩
    rintro other (before | ⟨rfl, clean⟩)
    · exact given.facts.gone other (.inl before)
    · exact given.facts.gone other (.inr ⟨rfl, (given.flags clean).2.2⟩)
  · rename_i fails
    apply meets_pure
    intro history world given
    refine ⟨given.within, given.tidy, fun clean => ⟨given.flags clean, clean⟩, ?_⟩
    refine ⟨?_, given.facts.masks, given.facts.stops, given.facts.unlabels, given.facts.force⟩
    rintro other (before | ⟨rfl, clean⟩)
    · exact given.facts.gone other before
    · exact absurd (needed clean (given.flags clean)) fails

theorem attending {action : Deploy Unit} (later : Bool → World → Prop)
    (acts : Acts true .remover allowed (fun _ => True) action post)
    (among : ∀ op world, allowed op world → Attends start.mask op world)
    (kept : ∀ op world, allowed op world → Facts start removed held stopped unlabelled world →
      Facts start removed held stopped unlabelled (op.effect world))
    (gains : ∀ ok world, Facts start removed held stopped unlabelled world →
      (ok = true → post () world) → later ok world) :
    Meets assumed (RemovalStep ownsRule start since)
      (Stage since errors flags (Facts start removed held stopped unlabelled))
      (attempt errors label action)
      (fun result => Stage since result.2 (flags ∧ errors = [] ∧ result.1 = true) (later result.1))
      fun _ => Broken start since := by
  refine (attempt_meets later acts kept (fun _ _ => trivial) ?_ gains).mono (fun _ _ given => given)
    (fun _ _ _ given => given) fun _ _ _ given => ⟨given.1, given.2.1, given.2.2.force⟩
  exact fun history event does facts _ =>
    ⟨.inr ⟨does.actor, among _ _ does.allowed, does.effect, does.failed⟩, facts.force⟩

/-- The service is masked, if it was inhibited. -/
def HeldIf (inhibited : Bool) (mask : Option Mask) : Prop :=
  inhibited = true → ∃ inode, mask = some ⟨inode, true⟩

theorem stopping {inhibited : Bool} :
    Meets assumed (RemovalStep ownsRule start since)
      (Stage since errors flags (Facts start removed (HeldIf inhibited) False False))
      (attempt errors label (stopAndVerify .remover))
      (fun result => Stage since result.2 (flags ∧ errors = [] ∧ result.1 = true)
        (Facts start removed (HeldIf inhibited) (result.1 = true) False))
      fun _ => Broken start since := by
  apply attending (fun ok => Facts start removed (HeldIf inhibited) (ok = true) False)
    stopAndVerify_acts fun _ _ stops => .inl stops
  · exact fun _ _ stops facts => facts.stopping stops
  · exact fun ok world facts quiet => ⟨facts.gone, facts.masks, quiet, nofun, facts.force⟩

theorem unloading :
    Meets assumed (RemovalStep ownsRule start since)
      (Stage since errors flags (Facts start removed held stopped unlabelled))
      (attempt errors label (removeSelinuxModule .remover))
      (fun result => Stage since result.2 (flags ∧ errors = [] ∧ result.1 = true)
        (Facts start removed held stopped unlabelled))
      fun _ => Broken start since := by
  apply attending (fun _ => Facts start removed held stopped unlabelled) removeSelinuxModule_acts
    fun _ _ unloads => .inr (.inr (.inl unloads))
  · exact fun _ _ unloads facts => facts.unloading unloads
  · exact fun _ _ facts _ => facts

theorem unlabelling :
    Meets assumed (RemovalStep ownsRule start since)
      (Stage since errors flags (Facts start removed held stopped False))
      (attempt errors label (removeLabel .remover))
      (fun result => Stage since result.2 (flags ∧ errors = [] ∧ result.1 = true)
        (Facts start removed held stopped (result.1 = true)))
      fun _ => Broken start since := by
  apply attending (fun ok => Facts start removed held stopped (ok = true)) removeLabel_acts fun _ _ unlabels => .inr (.inl unlabels)
  · exact fun _ _ unlabels facts => facts.unlabelling unlabels
  · exact fun ok world facts gone => ⟨facts.gone, facts.masks, facts.stops, gone, facts.force⟩

theorem releasing {created : Option Nat} (ours : created.isSome = true → start.mask = none) :
    Meets assumed (RemovalStep ownsRule start since)
      (Stage since errors flags (Facts start removed (fun _ => True) False False))
      (attempt errors label (releaseInhibition .remover created))
      (fun result => Stage since result.2 (flags ∧ errors = [] ∧ result.1 = true)
        (Facts start removed (fun _ => True) False False))
      fun _ => Broken start since := by
  apply attending (fun _ => Facts start removed (fun _ => True) False False)
    (releaseInhibition_acts ours) fun _ _ masks => .inr (.inr (.inr masks))
  · exact fun _ _ masks facts => facts.masking masks
  · exact fun _ _ facts _ => facts

theorem inhibiting :
    Meets assumed (RemovalStep ownsRule start since)
      (Stage since errors flags (Facts start removed (· = start.mask) False False))
      (tryInhibit errors)
      (fun result history world => (result.1.isSome = true → start.mask = none) ∧
        Stage since result.2.2 (flags ∧ errors = [] ∧ result.2.1 = true)
          (Facts start removed (HeldIf result.2.1) False False) history world)
      fun _ => Broken start since := by
  apply meets_given
  intro _ _ given
  apply meets_handle fun _ history world => since ≤ history.length ∧ ¬ Tidy since history ∧
    Facts start removed (fun _ => True) False False world
  · have acts : Acts false .remover _ _ _ _ := inhibitActivation_acts start.mask
    apply meets_bind _ ((acts.meets (errors = []) (fun _ _ masks facts => facts.masking masks)
      fun history event does facts _ => ⟨.inr ⟨does.actor, .inr (.inr (.inr does.allowed)), does.effect,
        does.failed⟩, facts.force⟩).mono ?_ (fun _ _ _ given => given) fun _ _ _ given => ⟨given.1, given.2.1, given.2.2.1⟩)
    · intro created
      apply meets_pure
      intro history world ⟨within, tidy, ⟨inhibits, ours⟩, facts⟩
      exact ⟨ours, within, tidy, fun clean => ⟨given.flags clean, clean, rfl⟩, facts.gone,
        fun _ => inhibits, nofun, nofun, facts.force⟩
    · exact fun _ _ given => ⟨given.within, given.tidy, given.facts.masks, given.facts.lapse⟩
  · intro error
    split
    · apply meets_pure
      intro history world ⟨within, failed, facts⟩
      exact ⟨nofun, within, iff_of_false failed (by simp), fun clean => absurd clean (by simp),
        facts.gone, nofun, nofun, nofun, facts.force⟩
    · exact meets_rethrow fun _ _ broken => ⟨broken.1, broken.2.1, broken.2.2.force⟩

/-- The entry points that were removed. -/
def Disarmed (loginRemoved runtimeDetached : Bool) (path : Path) : Prop :=
  path = .config ∧ loginRemoved = true ∨ path = .dropin ∧ runtimeDetached = true

/-- The software, without the commands that remove it. -/
def Path.IsProject (path : Path) : Prop :=
  path = .config ∨ path = .dropin ∨ path = .support ∨ path = .runtime

/-- The labels are removed if they are ours. -/
theorem removeLabels_meets :
    Meets assumed (RemovalStep ownsRule start since)
      (Stage since errors flags (Facts start removed held stopped False))
      (removeLabels ownsRule errors)
      (fun result => Stage since result.2 (flags ∧ errors = [] ∧ result.1 = true)
        (Facts start removed held stopped (ownsRule = true ∧ result.1 = true)))
      fun _ => Broken start since := by
  unfold removeLabels
  split
  · rename_i foreign
    apply meets_pure
    intro history world given
    refine ⟨given.within, given.tidy, fun clean => ⟨given.flags clean, clean, rfl⟩, ?_⟩
    refine ⟨given.facts.gone, given.facts.masks, given.facts.stops, ?_, given.facts.force⟩
    rintro ⟨owns, -⟩
    simp [owns] at foreign
  · refine unlabelling.mono (fun _ _ given => given) (fun result _ _ given => ?_)
      fun _ _ _ broken => broken
    exact ⟨given.within, given.tidy, given.flags, given.facts.gone, given.facts.masks,
      given.facts.stops, fun labels => given.facts.unlabels labels.2, given.facts.force⟩

theorem removeDependencies_meets {loginRemoved runtimeDetached inhibited : Bool}
    (needed : flags → loginRemoved = true ∧ runtimeDetached = true ∧ inhibited = true) :
    Meets assumed (RemovalStep ownsRule start since)
      (Stage since errors flags
        (Facts start (Disarmed loginRemoved runtimeDetached) (HeldIf inhibited) False False))
      (removeDependencies ownsRule loginRemoved runtimeDetached inhibited errors)
      (fun later => Stage since later True
        (Facts start (fun path => later = [] ∧ path.IsProject) (fun _ => True) False False))
      fun _ => Broken start since := by
  unfold removeDependencies
  apply meets_bind _ stopping
  rintro ⟨stopped, errors'⟩
  apply meets_bind _ unloading
  rintro ⟨_, errors''⟩
  apply meets_bind _ (removingIf (by decide) (fun _ flags => (needed flags.1.1).1) ?_)
  · intro later
    split
    · rename_i ready
      simp only [Bool.and_eq_true] at ready
      apply meets_bind _ removeLabels_meets
      rintro ⟨labelsRemoved, last⟩
      refine (removingIf (by decide) ?_ ?_).mono (fun _ _ given => given) (fun final _ _ given => ?_)
        fun _ _ _ broken => broken
      · intro _ flags
        have labels : labelsRemoved = true := flags.2.2
        simp [(needed flags.1.1.1.1).2.1, labels]
      · intro both history world facts _
        simp only [Bool.and_eq_true] at both
        exact ⟨facts.gone .dropin (.inl (.inr ⟨rfl, both.1⟩)), facts.masks ready.1,
          facts.stops ready.2, fun owns => facts.unlabels ⟨owns, both.2⟩⟩
      · refine ⟨given.within, given.tidy, fun _ => trivial, given.facts.lapse.only ?_⟩
        rintro path ⟨clean, project⟩
        obtain ⟨⟨⟨⟨⟨flags, -⟩, -⟩, -⟩, earlier, -⟩, -⟩ := given.flags clean
        obtain ⟨login, detached, -⟩ := needed flags
        obtain rfl | rfl | rfl | rfl := project
        · exact given.facts.gone .config (.inl (.inl (.inl ⟨rfl, login⟩)))
        · exact given.facts.gone .dropin (.inl (.inl (.inr ⟨rfl, detached⟩)))
        · exact given.facts.gone .support (.inl (.inr ⟨rfl, earlier⟩))
        · exact given.facts.gone .runtime (.inr ⟨rfl, clean⟩)
    · rename_i unready
      apply meets_pure
      intro history world given
      refine ⟨given.within, given.tidy, fun _ => trivial, given.facts.lapse.only ?_⟩
      rintro path ⟨clean, -⟩
      obtain ⟨⟨⟨flags, -, (stops : stopped = true)⟩, -⟩, -⟩ := given.flags clean
      simp [(needed flags).2.2, stops] at unready
  · intro there history world facts _
    exact facts.gone .config (.inl ⟨rfl, there⟩)

/-- `goodix-force-remove` is not touched behind its removal. -/
theorem rescuing (path : Path) (node : Option Node) (plain : path.isTree = false) :
    Meets assumed (fun _ event => event.before.paths path = node)
      (fun _ world => world.paths path = node) (attempt errors label (removePath actor path))
      (fun _ _ _ => True) fun _ _ _ => True := by
  apply meets_handle fun _ _ _ => True
  · apply meets_bind fun _ _ _ => True
    · apply meets_bind fun _ _ world => world.paths path = node
      · apply meets_step
        intro history world after error given occurs _
        cases occurs with
        | done => exact ⟨given, given⟩
        | undone error => exact ⟨given, trivial⟩
        | left error => exact ⟨given, trivial⟩
      intro _
      apply meets_bind fun _ _ world => world.paths path = node
      · exact meets_get fun _ _ given => given
      intro seen
      split
      · exact meets_pure fun _ _ _ => trivial
      · rw [if_neg (by simp [plain])]
        exact meets_raise fun _ _ given _ => ⟨given, trivial⟩
      · apply meets_step
        intro history world after error given occurs _
        cases error with
        | none => exact ⟨given, trivial⟩
        | some error => exact ⟨given, trivial⟩
    · exact fun _ => meets_pure fun _ _ _ => trivial
  · intro error
    split
    · exact meets_pure fun _ _ _ => trivial
    · exact meets_rethrow fun _ _ _ => trivial

/-- Something failed. -/
def Failed (since : Nat) (history : List Step) : Prop := since ≤ history.length ∧ ¬ Tidy since history

theorem Broken.failed {history : List Step} {world : World} (broken : Broken start since history world) :
    Failed since history := ⟨broken.1, broken.2.1⟩

theorem failing {α : Type} {script : Deploy α} {pre : Assertion Label Error World}
    {post : α → Assertion Label Error World}
    (meets : Meets assumed reason pre script post fun _ => Broken start since) :
    Meets assumed reason pre script post fun _ history _ => Failed since history :=
  meets.mono (fun _ _ given => given) (fun _ _ _ given => given) fun _ _ _ broken => broken.failed

/-- The last command is removed when everything else is. -/
theorem emergency_meets {masks : Option Mask → Prop}
    (before : flags → errors = [] → removed .recovery ∧ removed .normal) :
    Meets assumed (RemovalStep ownsRule start since)
      (Stage since errors flags (Facts start removed masks stopped unlabelled))
      (attemptIf errors.isEmpty errors label (removePath .remover .force))
      (fun later => Stage since later (flags ∧ errors = [])
        fun world => later = [] → ∀ path, removed path ∨ path = .force → world.paths path = none)
      fun _ history _ => Failed since history := by
  apply meets_given
  intro _ _ first
  unfold attemptIf
  split
  · rename_i isClean
    have clean : errors = [] := by simpa using isClean
    have acts : Acts true .remover (fun op _ => Removes .force op) (fun _ => True)
        (removePath .remover .force) fun _ world => world.paths .force = none := removePath_acts .force
    have attempts : Meets assumed
        (fun history event => Does .remover (fun op _ => Removes .force op) event ∧
          (∀ path, removed path → event.before.paths path = none) ∧ (Tidy since history ↔ errors = []))
        (Stage since errors flags fun world => ∀ path, removed path → world.paths path = none)
        (attempt errors label (removePath .remover .force)) _ _ :=
      attempt_meets (fun ok world => ∀ path, removed path ∨ path = .force ∧ ok = true →
          world.paths path = none) acts
        (fun op world removes gone path absent => removes.absent (gone path absent)) (fun _ _ => trivial)
        (fun history event does gone tidy => ⟨does, gone, tidy rfl⟩) ?_
    · apply meets_bind _ (((attempts.both (rescuing .force (start.paths .force) rfl)).weaken ?_).mono ?_
        (fun _ _ _ given => given) fun _ _ _ given => ⟨given.1.1, given.1.2.1⟩)
      · rintro ⟨ok, later⟩
        apply meets_pure
        rintro history world ⟨given, -⟩
        refine ⟨given.within, given.tidy, fun none => ⟨(given.flags none).1, clean⟩,
          fun none path gone => given.facts path ?_⟩
        exact gone.imp_right fun force => ⟨force, (given.flags none).2.2⟩
      · rintro history event ⟨⟨does, gone, tidy⟩, force⟩
        obtain ⟨recovery, normal⟩ := before (first.flags clean) clean
        exact ⟨.inl ⟨.force, does, tidy.mpr clean, gone _ recovery, gone _ normal⟩, force⟩
      · exact fun _ _ given => ⟨⟨given.within, given.tidy, given.flags, given.facts.gone⟩,
          given.facts.force⟩
    · rintro ok world gone force path (before | ⟨rfl, now⟩)
      · exact gone path before
      · exact force now
  · rename_i unclean
    apply meets_pure
    intro history world given
    refine ⟨given.within, given.tidy, fun clean => ⟨given.flags clean, clean⟩, fun clean => ?_⟩
    simp [clean] at unclean

theorem preflighting {isForced : Bool} :
    Meets assumed (RemovalStep ownsRule start since) (Stage since [] True (· = start))
      (ownership isForced)
      (fun owned history world => owned = (isForced || ownedRule start) ∧
        Stage since [] True (· = start) history world)
      fun _ => Broken start since := by
  cases isForced with
  | true => exact meets_pure fun _ _ given => ⟨rfl, given⟩
  | false =>
    have acts : Acts true .remover _ _ _ _ := normalPreflight_acts
    refine (acts.meets (([] : List String) = []) ?_ ?_).mono
      (fun _ _ given => ⟨given.within, given.tidy, trivial, given.facts⟩) ?_ ?_
    · rintro _ world rfl same
      exact same
    · intro history event does same _
      exact ⟨.inr ⟨does.actor, .inl (.inl does.allowed), does.effect, does.failed⟩, by rw [same]⟩
    · rintro owned history world ⟨within, tidy, ⟨owns, -⟩, rfl⟩
      exact ⟨by simpa using owns, within, tidy, fun _ => trivial, rfl⟩
    · rintro _ history world ⟨within, failed, rfl, -⟩
      exact ⟨within, failed, rfl⟩

/-- A removal, from any world and behind any history. -/
theorem remove_meets (isForced : Bool) (start : World) (since : Nat) :
    Meets assumed (RemovalStep (isForced || ownedRule start) start since)
      (Stage since [] True (· = start)) (remove isForced)
      (fun code history world => since ≤ history.length ∧ (Tidy since history ↔ code = 0) ∧
        (code = 0 → ∀ path, world.paths path = none))
      fun _ history _ => Failed since history := by
  unfold remove
  apply meets_bind _ (failing preflighting)
  intro owned
  apply meets_when
  rintro rfl
  have initial (world : World) (same : world = start) :
      Facts start (fun _ => False) (· = start.mask) False False world := by
    subst same
    exact ⟨nofun, rfl, nofun, nofun, rfl⟩
  have anyway (since : Nat) (history : List Step) (world : World) {path : Path}
      (entry : path = .config ∨ path = .dropin) :
      MayRemove (isForced || ownedRule start) since history world path := by
    obtain rfl | rfl := entry <;> exact trivial
  apply meets_bind _ (failing ((removing (by decide) fun _ _ _ _ => anyway _ _ _ (.inl rfl)).mono
    (fun _ _ given => ⟨given.within, given.tidy, given.flags, initial _ given.facts⟩)
    (fun _ _ _ given => given) fun _ _ _ broken => broken))
  rintro ⟨loginRemoved, errors⟩
  apply meets_bind _ (failing (removing (by decide) fun _ _ _ _ => anyway _ _ _ (.inr rfl)))
  rintro ⟨runtimeDetached, errors'⟩
  -- the mask is taken only behind the two entries, and it is ours only where there was none
  apply meets_bind fun result history world => (result.1.isSome = true → start.mask = none) ∧
    Stage since result.2.2 (loginRemoved = true ∧ runtimeDetached = true ∧ result.2.1 = true)
      (Facts start (Disarmed loginRemoved runtimeDetached) (HeldIf result.2.1) False False)
      history world
  · refine failing (inhibiting.mono (fun _ _ given => given) (fun result _ _ ⟨ours, given⟩ => ?_)
      fun _ _ _ broken => broken)
    refine ⟨ours, given.within, given.tidy, fun clean => ?_, given.facts.only ?_⟩
    · obtain ⟨⟨⟨-, -, login⟩, -, detached⟩, -, inhibits⟩ := given.flags clean
      exact ⟨login, detached, inhibits⟩
    · rintro path (⟨rfl, login⟩ | ⟨rfl, detached⟩)
      · exact given.facts.gone .config (.inl (.inr ⟨rfl, login⟩))
      · exact given.facts.gone .dropin (.inr ⟨rfl, detached⟩)
  rintro ⟨created, inhibited, errors''⟩
  apply meets_when
  intro ours
  -- the mask is released whatever becomes of the removal of the dependencies
  apply meets_bind fun later => Stage since later True
    (Facts start (fun path => later = [] ∧ path.IsProject) (fun _ => True) False False)
  · apply failing
    apply meets_handle _ (removeDependencies_meets fun flags => flags)
    intro error
    apply meets_bind (fun _ => Broken start since)
    · apply cleanup_meets (releaseInhibition_acts ours)
      · intro op world masks same
        rw [Attends.paths (.inr (.inr (.inr masks))), same]
      · intro history event does same
        exact ⟨.inr ⟨does.actor, .inr (.inr (.inr does.allowed)), does.effect, does.failed⟩, same⟩
    · exact fun _ => meets_rethrow fun _ _ broken => broken
  intro errors
  apply meets_bind _ (failing (releasing ours))
  rintro ⟨released, errors'⟩
  apply meets_bind _ (failing (removingIf (by decide) (fun clean _ => by simpa using clean) ?_))
  · intro later
    apply meets_bind _ (failing (removingIf (by decide) (fun clean _ => by simpa using clean) ?_))
    · intro latest
      apply meets_bind _ (emergency_meets fun flags clean => ⟨.inl (.inr ⟨rfl, flags.2⟩), .inr ⟨rfl, clean⟩⟩)
      · intro final
        apply meets_pure
        intro history world given
        refine ⟨given.within, ?_, fun zero => ?_⟩
        · rw [given.tidy]
          cases final <;> simp
        · have clean : final = [] := by
            cases final with
            | nil => rfl
            | cons error final => cases zero
          -- code 0: every removal reported no error, so each of the seven paths is gone
          obtain ⟨⟨⟨⟨-, earlier, -⟩, -⟩, recovery⟩, normal⟩ := given.flags clean
          intro path
          apply given.facts clean
          cases path with
          | config => exact .inl (.inl (.inl ⟨earlier, .inl rfl⟩))
          | dropin => exact .inl (.inl (.inl ⟨earlier, .inr (.inl rfl)⟩))
          | support => exact .inl (.inl (.inl ⟨earlier, .inr (.inr (.inl rfl))⟩))
          | runtime => exact .inl (.inl (.inl ⟨earlier, .inr (.inr (.inr rfl))⟩))
          | recovery => exact .inl (.inl (.inr ⟨rfl, recovery⟩))
          | normal => exact .inl (.inr ⟨rfl, normal⟩)
          | force => exact .inr rfl
    · intro isClean history world facts tidy
      have clean : later = [] := by simpa using isClean
      exact ⟨tidy.mpr clean, facts.gone .recovery (.inr ⟨rfl, clean⟩)⟩
  · intro isClean history world _ tidy
    exact tidy.mpr (by simpa using isClean)

/-! ## Every run -/

theorem RemovalStep.changes {history : List Step} {event : Step}
    (step : RemovalStep ownsRule start since history event)
    (changed : event.after.paths path ≠ event.before.paths path) :
    Does .remover (fun op _ => Removes path op) event ∧
      MayRemove ownsRule since history event.before path := by
  obtain ⟨found, does, may⟩ | attends := step.does
  · by_cases same : path = found
    · subst same
      exact ⟨does, may⟩
    · refine absurd ?_ changed
      cases does.effect with
      | inl unchanged => rw [unchanged]
      | inr effect => rw [effect, does.allowed.other _ same]
  · refine absurd ?_ changed
    cases attends.effect with
    | inl unchanged => rw [unchanged]
    | inr effect => rw [effect, attends.allowed.paths]

theorem RemovalStep.host {history : List Step} {event : Step}
    (step : RemovalStep ownsRule start since history event) : event.after.host = event.before.host := by
  obtain ⟨found, does, -⟩ | attends := step.does
  · cases does.effect with
    | inl unchanged => rw [unchanged]
    | inr effect =>
      have rest := congrArg World.host (does.allowed.rest event.before)
      rw [effect]
      exact rest
  · cases attends.effect with
    | inl unchanged => rw [unchanged]
    | inr effect => rw [effect, attends.allowed.host]

/-- The run masked the service before. -/
def Created (history : List Step) (mask : Option Mask) : Prop :=
  ∃ event ∈ history, event.label.op = .maskService ∧ event.before.mask = none ∧
    event.after.mask = mask

theorem RemovalStep.mask {history : List Step} {event : Step}
    (step : RemovalStep ownsRule start since history event) :
    event.after.mask = event.before.mask ∨
      (event.label.op = .maskService ∧ event.before.mask = none) ∨
      (event.after.mask = none ∧ start.mask = none) := by
  obtain ⟨found, does, -⟩ | attends := step.does
  · cases does.effect with
    | inl unchanged => exact .inl (by rw [unchanged])
    | inr effect =>
      have rest := congrArg World.mask (does.allowed.rest event.before)
      rw [effect]
      exact .inl rest
  · cases attends.effect with
    | inl unchanged => exact .inl (by rw [unchanged])
    | inr effect =>
      rw [effect]
      obtain stops | unlabels | unloads | masks := attends.allowed
      · obtain same | same | same | same := stops <;> exact .inl (by rw [same]; rfl)
      · obtain same | same | same | same := unlabels <;> exact .inl (by rw [same]; rfl)
      · obtain same | same | same := unloads <;> exact .inl (by rw [same]; rfl)
      · obtain same | same | ⟨same, fresh, -⟩ | ⟨same, ours⟩ := masks
        · exact .inl (by rw [same]; rfl)
        · exact .inl (by rw [same]; rfl)
        · exact .inr (.inl ⟨same, fresh⟩)
        · exact .inr (.inr ⟨by rw [same]; rfl, ours⟩)

/-- A mask is the first one, or was created in the run. -/
def Known (start : World) (history : List Step) (world : World) : Prop :=
  world.mask = start.mask ∨ world.mask = none ∨ Created history world.mask

theorem Known.step {history : List Step} {event : Step} (known : Known start history event.before)
    (step : event.after.mask = event.before.mask ∨
      (event.label.op = .maskService ∧ event.before.mask = none) ∨
      (event.after.mask = none ∧ start.mask = none)) :
    Known start (history ++ [event]) event.after := by
  obtain same | ⟨created, fresh⟩ | ⟨gone, -⟩ := step
  · unfold Known at known ⊢
    rw [same]
    refine known.imp_right (Or.imp_right ?_)
    rintro ⟨earlier, before, found⟩
    exact ⟨earlier, List.mem_append_left _ before, found⟩
  · exact .inr (.inr ⟨event, by simp, created, fresh, rfl⟩)
  · exact .inr (.inl gone)

/-- What a removal promises, wherever its steps fail and wherever it is stopped. -/
structure Ordered (ownsRule : Bool) (start : World) (outcome : Outcome Label Error World Nat) :
    Prop where
  linked : Linked start outcome.trace outcome.world
  /-- A path is touched behind what it depends on. -/
  ordered : Justified (fun before event => ∀ path,
    event.after.paths path ≠ event.before.paths path → MayRemove ownsRule 0 before event.before path)
    outcome.trace
  /-- The emergency command survives every failure; an interrupt may come behind its removal. -/
  rescued : (∃ event ∈ outcome.trace, event.error ≠ none) →
    outcome.world.paths .force = start.paths .force ∨
      ∃ before event, outcome.trace = before ++ [event] ∧ event.error = some .other ∧
        event.after.paths .force ≠ event.before.paths .force ∧
        ∀ earlier ∈ before, earlier.error = none
  mask : Justified (fun before event => event.after.mask ≠ event.before.mask →
    event.before.mask = none ∨ Created before event.before.mask) outcome.trace
  host : ∀ event ∈ outcome.trace, event.after.host = start.host
  result : ∀ code, outcome.ending = .returned code →
    (code = 0 ↔ ∀ event ∈ outcome.trace, event.error = none)
  /-- Behind a removal that succeeded there is no software. -/
  removed : outcome.ending = .returned 0 → ∀ path, outcome.world.paths path = none

theorem ordered_mask {trace : List Step} {last : World} (linked : Linked start trace last)
    (lawful : Lawful (RemovalStep ownsRule start 0) [] trace) :
    Justified (fun before event => event.after.mask ≠ event.before.mask →
      event.before.mask = none ∨ Created before event.before.mask) trace := by
  have known := (lawful.invariant (Known start) (fun _ _ step known => known.step step.mask)
    linked (.inl rfl)).1.justified
  refine known.mono fun before event ⟨step, known, _⟩ changed => ?_
  obtain same | ⟨-, fresh⟩ | ⟨gone, ours⟩ := step.mask
  · exact absurd same changed
  · exact .inl fresh
  · obtain first | none | created := known
    · exact .inl (first.trans ours)
    · exact .inl none
    · exact .inr created

theorem ordered_rescued {trace : List Step} {last : World} (linked : Linked start trace last)
    (lawful : Lawful (RemovalStep ownsRule start 0) [] trace)
    (failed : ∃ event ∈ trace, event.error ≠ none) :
    last.paths .force = start.paths .force ∨
      ∃ before event, trace = before ++ [event] ∧ event.error = some .other ∧
        event.after.paths .force ≠ event.before.paths .force ∧
        ∀ earlier ∈ before, earlier.error = none := by
  obtain ⟨rfl, rfl⟩ | ⟨before, event, rfl, rfl⟩ := linked.last
  · exact .inl rfl
  have step := lawful.justified before event [] rfl
  by_cases kept : event.after.paths .force = event.before.paths .force
  · exact .inl (kept.trans step.rescues)
  · right
    obtain ⟨does, tidy, -, -⟩ := step.changes kept
    have earlier : ∀ earlier ∈ before, earlier.error = none := tidy
    refine ⟨before, event, rfl, ?_, kept, earlier⟩
    obtain ⟨found, inside, fails⟩ := failed
    obtain inside | inside := List.mem_append.mp inside
    · exact absurd (earlier found inside) fails
    · cases List.mem_singleton.mp inside
      obtain ⟨error, raised⟩ := Option.ne_none_iff_exists'.mp fails
      rw [raised]
      by_cases isOther : error = .other
      · rw [isOther]
      · -- a system call that fails has no effect
        have stays : event.label.op.leaves error = false := by
          obtain same | same | same | same := does.allowed
          · refine absurd ?_ kept
            cases does.effect with
            | inl unchanged => rw [unchanged]
            | inr effect => rw [effect, same]; rfl
          · simp [same, Op.leaves, isOther]
          · simp [same, Op.leaves, isOther]
          · simp [same, Op.leaves, isOther]
        rw [does.failed error raised stays] at kept
        exact absurd rfl kept

/-- `remove` keeps its order in every run, from any world. -/
theorem remove_ordered (isForced : Bool) (world : World) (verdicts : List (Verdict Error)) :
    Ordered (isForced || ownedRule world) world ((remove isForced).run world verdicts) := by
  have meets : Meets (fun _ => True) _ _ _ _ _ := remove_meets isForced world 0
  have first : Stage 0 [] True (· = world) [] world := ⟨Nat.le_refl 0, by simp [Tidy], fun _ => trivial, rfl⟩
  obtain ⟨linked, lawful, ends⟩ := meets [] world verdicts first fun _ _ => trivial
  have hosts := (lawful.invariant (fun _ later => later.host = world.host)
    (fun _ _ step same => step.host.trans same) linked rfl).1.justified
  constructor
  · exact linked
  · exact lawful.justified.mono fun _ _ step _ changed => (step.changes changed).2
  · exact ordered_rescued linked lawful
  · exact ordered_mask linked lawful
  · intro event inside
    obtain ⟨before, after, split⟩ := List.append_of_mem inside
    exact (hosts before event after split).2.2
  · intro code returned
    rw [returned] at ends
    rw [← ends.2.1]
    simp [Tidy]
  · intro returned
    rw [returned] at ends
    exact ends.2.2 rfl

end Goodix.Deployment
