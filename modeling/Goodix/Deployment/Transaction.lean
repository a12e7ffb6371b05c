import Goodix.Deployment.Rollback

/-! # Every run of an installation

Materials and the pairing state stay, and so does a mask of someone else, wherever a run fails.  A
failure of the transaction is settled.
-/

namespace Goodix.Deployment

open Traces Scripts Scripts.Script

variable {α β : Type} {actor : Actor} {strict : Bool} {allowed : Op → World → Prop} {path : Path}
  {op : Op} {first world : World} {start : Option Mask}

/-! ## What no step takes away -/

/-- What is on the host stays there, and a mask that was there at the start. -/
structure Minds (start : Option Mask) (event : Step) : Prop where
  material : event.before.host.material ≠ none →
    event.after.host.material = event.before.host.material
  stateRoot : event.before.host.stateRoot ≠ none →
    event.after.host.stateRoot = event.before.host.stateRoot
  templates : event.after.host.templates = event.before.host.templates
  mask : event.after.mask = event.before.mask ∨
    (event.label.op = .maskService ∧ event.before.mask = none) ∨
    (event.after.mask = none ∧ start = none)

theorem minds_of_same {event : Step} (host : event.after.host = event.before.host)
    (mask : event.after.mask = event.before.mask) : Minds start event :=
  ⟨fun _ => by rw [host], fun _ => by rw [host], by rw [host], .inl mask⟩

theorem minds_of_spared {event : Step} (does : Does actor allowed event)
    (spares : ∀ op world, allowed op world →
      (op.effect world).host = world.host ∧ (op.effect world).mask = world.mask) :
    Minds start event := by
  cases does.effect with
  | inl same => exact minds_of_same (by rw [same]) (by rw [same])
  | inr same =>
    obtain ⟨host, mask⟩ := spares _ _ does.allowed
    exact minds_of_same (by rw [same, host]) (by rw [same, mask])

theorem Guarded.minds {event : Step} (does : Does actor (Guarded start) event) : Minds start event := by
  cases does.effect with
  | inl same => exact minds_of_same (by rw [same]) (by rw [same])
  | inr same =>
    have guards := does.allowed
    obtain ⟨⟨_, op⟩, before, after, error⟩ := event
    dsimp only at same guards
    subst same
    cases op with
    | maskService => exact ⟨fun _ => rfl, fun _ => rfl, rfl, .inr (.inl ⟨rfl, guards.1⟩)⟩
    | unmaskService => exact ⟨fun _ => rfl, fun _ => rfl, rfl, .inr (.inr ⟨rfl, guards⟩)⟩
    | publishMaterial files => exact ⟨fun there => absurd guards there, fun _ => rfl, rfl, .inl rfl⟩
    | createStateRoot => exact ⟨fun _ => rfl, fun there => absurd guards there, rfl, .inl rfl⟩
    | unlinkEntry path | publishEntry path name item | createEntry path name | fillEntry path name item =>
      exact minds_of_same (host_of_rest (modify_rest before path _)) (mask_of_rest (modify_rest before path _))
    | _ => exact minds_of_same rfl rfl

/-- The operations of a rollback. -/
def Undoing (op : Op) : Prop := (∃ path, Touches path op) ∨ Resets op

theorem Undoing.spares (undoing : Undoing op) (world : World) :
    (op.effect world).host = world.host ∧ (op.effect world).mask = world.mask := by
  obtain ⟨path, touches⟩ | resets := undoing
  · have rest := touches.rest world
    exact ⟨host_of_rest rest, mask_of_rest rest⟩
  · obtain stops | unlabels | unloads | rfl | ⟨data, rfl⟩ := resets
    · obtain rfl | rfl | rfl | rfl := stops <;> exact ⟨rfl, rfl⟩
    · obtain rfl | rfl | rfl | rfl := unlabels <;> exact ⟨rfl, rfl⟩
    · obtain rfl | rfl | rfl := unloads <;> exact ⟨rfl, rfl⟩
    · exact ⟨rfl, rfl⟩
    · exact ⟨rfl, rfl⟩

/-- The steps of a rollback are operations that mind the host. -/
theorem Reverses.minds {event : Step} (reverses : Reverses event) : Minds start event := by
  obtain does | does := reverses
  · refine minds_of_spared does fun op world reverts => ?_
    obtain (⟨path, -, touches⟩ | resets) | rfl := reverts
    · exact Undoing.spares (.inl ⟨path, touches⟩) world
    · exact Undoing.spares (.inr resets) world
    · exact ⟨rfl, rfl⟩
  · refine minds_of_spared does fun op world touches => ?_
    obtain ⟨path, -, touches⟩ := touches
    exact Undoing.spares (.inl ⟨path, touches⟩) world

/-- An installation minds the host, wherever it fails. -/
theorem minds (first : World) : Undoes first (fun _ => True) (fun _ event => Minds first.mask event)
    (fun _ _ => True) (fun _ _ => True) := by
  constructor
  · exact fun _ _ does => Guarded.minds does.prepares.does
  · exact fun _ _ regular _ => Guarded.minds regular.does
  · exact fun _ _ _ _ => trivial
  · exact fun _ _ _ _ => trivial
  · intro saved moduleBefore error _
    exact (undoing_reverses saved first.rule moduleBefore error).weaken fun _ _ reverses =>
      reverses.minds

/-! ## Every run -/

/-- What an installation promises, wherever its steps fail and wherever it is stopped. -/
structure Transacted (first : World) (outcome : Outcome Label Error World Unit) : Prop where
  linked : Linked first outcome.trace outcome.world
  material : ∀ event ∈ outcome.trace, event.before.host.material ≠ none →
    event.after.host.material = event.before.host.material
  stateRoot : ∀ event ∈ outcome.trace, event.before.host.stateRoot ≠ none →
    event.after.host.stateRoot = event.before.host.stateRoot
  templates : ∀ event ∈ outcome.trace, event.after.host.templates = event.before.host.templates
  mask : Justified (fun before event => event.after.mask ≠ event.before.mask →
    event.before.mask = none ∨ Created before event.before.mask) outcome.trace
  /-- The marker is only printed where everything is restored, and it stays so. -/
  announced : Announced outcome.trace → Restored first outcome.world
  /-- The commands are put back only where all else is restored. -/
  commands : ∀ event ∈ outcome.trace, event.label.actor.isTransaction = false →
    (event.after.paths .normal = event.before.paths .normal ∧
      event.after.paths .force = event.before.paths .force) ∨ Reverted first event.before
  /-- A failure in the transaction is rolled back, or the rollback is incomplete; then the commands
  are there, unless they could not be put back. -/
  settled : (∃ event ∈ outcome.trace, event.label.actor.isTransaction = true ∧ event.error ≠ none) →
    (∀ event ∈ outcome.trace, Scope event) → outcome.ending ≠ .stopped →
    (Restored first outcome.world ∧ Printed outcome.trace) ∨
      (Incomplete outcome.trace ∧ ¬ Printed outcome.trace ∧
        (Retained outcome.trace ∨ FailedBy .rescue outcome.trace))

theorem transacted_mask {trace : List Step} {last : World} (linked : Linked first trace last)
    (lawful : Lawful (fun _ event => Minds first.mask event) [] trace) :
    Justified (fun before event => event.after.mask ≠ event.before.mask →
      event.before.mask = none ∨ Created before event.before.mask) trace := by
  have known := (lawful.invariant (Known first) (fun _ _ step known => known.step step.mask)
    linked (.inl rfl)).1.justified
  refine known.mono fun before event ⟨step, known, _⟩ changed => ?_
  obtain same | ⟨-, fresh⟩ | ⟨gone, ours⟩ := step.mask
  · exact absurd same changed
  · exact .inl fresh
  · obtain first | none | created := known
    · exact .inl (first.trans ours)
    · exact .inl none
    · exact .inr created

theorem clean_nil : Clean [] := fun _ inside => absurd inside List.not_mem_nil

theorem pending_nil : Pending [] :=
  ⟨fun ⟨_, inside, _⟩ => absurd inside List.not_mem_nil,
    .inl fun _ inside => absurd inside List.not_mem_nil⟩

/-- What was restored for the marker stays as it was. -/
theorem restored_of_announced {trace : List Step} {last : World} (linked : Linked first trace last)
    (lawful : Lawful (Follows first) [] trace) : Announced trace → Restored first last := by
  have silent : ¬ Announced [] := pending_nil.1
  refine (lawful.invariant (fun history world => Announced history → Restored first world) ?_ linked
    fun announced => absurd announced silent).2
  intro history event follows restored announced
  obtain ⟨found, inside, marker⟩ := announced
  cases List.mem_append.mp inside with
  | inl earlier =>
    have announced : Announced history := ⟨found, earlier, marker⟩
    exact follows.stays announced (restored announced)
  | inr last =>
    cases List.mem_singleton.mp last
    exact follows.announces marker

/-- `apply` settles every failure of its transaction, and takes nothing from the host. -/
theorem apply_transacted (plan : Plan) (world : World) (verdicts : List (Verdict Error)) :
    Transacted world ((apply plan).run world verdicts) := by
  have first : world = world ∧ Clean [] ∧ True := ⟨rfl, clean_nil, trivial⟩
  obtain ⟨linked, lawful, -⟩ := apply_meets (minds world) plan [] world verdicts first fun _ _ => trivial
  have reasons (event : Step) (inside : event ∈ ((apply plan).run world verdicts).trace) :
      Minds world.mask event := by
    obtain ⟨before, after, split⟩ := List.append_of_mem inside
    exact lawful.justified before event after split
  -- the steps of the run are all that is assumed, so what escapes is a step of the run
  have ready : world = world ∧ Clean [] ∧ Pending [] := ⟨rfl, clean_nil, pending_nil⟩
  obtain ⟨-, follows, ends⟩ := apply_meets
    (settles (· ∈ ((apply plan).run world verdicts).trace) world) plan [] world verdicts ready
      fun _ inside => inside
  constructor
  · exact linked
  · exact fun event inside => (reasons event inside).material
  · exact fun event inside => (reasons event inside).stateRoot
  · exact fun event inside => (reasons event inside).templates
  · exact transacted_mask linked lawful
  · exact restored_of_announced linked follows
  · intro event inside
    obtain ⟨before, after, split⟩ := List.append_of_mem inside
    exact (follows.justified before event after split).commands
  · rintro ⟨event, inside, transaction, failed⟩ scope running
    rw [List.nil_append] at ends
    have unclean : ¬ Clean ((apply plan).run world verdicts).trace := fun clean =>
      failed (clean event inside transaction)
    cases ended : ((apply plan).run world verdicts).ending with
    | returned value =>
      rw [ended] at ends
      exact absurd ends unclean
    | raised error =>
      rw [ended] at ends
      obtain ⟨event, inside, outside⟩ | restored | ⟨said, silent, commands⟩ := ends.resolve_left unclean
      · exact absurd (scope event inside) outside
      · exact .inl restored
      · exact .inr ⟨said, fun printed => silent printed.announced, commands⟩
    | stopped => exact absurd ended running

/-! ## Failures that no rollback answers -/

/-- The line that is printed right before the snapshot. -/
def Op.isMode : Op → Bool
  | .print line => line = "GOODIX_INSTALL_MODE"
  | _ => false

/-- The steps behind the snapshot. -/
def behindSnapshot (trace : List Step) : List Step :=
  (trace.dropWhile fun event => !event.label.op.isMode).tail

/-- Every failure behind the snapshot is answered by a rollback, whatever fails in the rollback. -/
def RollsBackAlways (plan : Plan) (first : World) (verdicts : List (Verdict Error)) : Prop :=
  let outcome := (apply plan).run first verdicts
  (∃ event ∈ behindSnapshot outcome.trace, event.error ≠ none) → outcome.ending ≠ .stopped →
    (Restored first outcome.world ∧ Printed outcome.trace) ∨
      (Incomplete outcome.trace ∧ ¬ Printed outcome.trace ∧ Retained outcome.trace)

instance (history : List Step) : Decidable (Printed history) :=
  inferInstanceAs (Decidable (∃ event ∈ history, _))

instance (history : List Step) : Decidable (Incomplete history) :=
  inferInstanceAs (Decidable (∃ event ∈ history, _))

instance (history : List Step) : Decidable (Retained history) :=
  inferInstanceAs (Decidable (∀ event ∈ history, _))

/-- A host without software. -/
def freshHost : World where
  paths _ := none
  mask := none
  nextInode := 1
  running := true
  masked := false
  rule := false
  labelled := false
  module_ := none
  host := ⟨none, none, []⟩

def freshPlan : Plan where
  isUpdate := false
  isReuse := false
  bundle := none
  command := []
  files := [("libfprint-2.so.2.0.0", [127])]
  links := [("libfprint-2.so.2", "libfprint-2.so.2.0.0"), ("libfprint-2.so", "libfprint-2.so.2")]
  module_ := []
  config := []
  dropin := []

theorem unanswered {verdicts : List (Verdict Error)} {error : Error}
    (failed : ∃ event ∈ behindSnapshot ((apply freshPlan).run freshHost verdicts).trace,
      event.error ≠ none)
    (ended : ((apply freshPlan).run freshHost verdicts).ending = .raised error)
    (silent : ¬ Printed ((apply freshPlan).run freshHost verdicts).trace)
    (kept : ¬ (Incomplete ((apply freshPlan).run freshHost verdicts).trace ∧
      Retained ((apply freshPlan).run freshHost verdicts).trace)) :
    ¬ RollsBackAlways freshPlan freshHost verdicts := by
  intro always
  obtain ⟨-, printed⟩ | ⟨incomplete, -, retained⟩ := always failed (by rw [ended]; nofun)
  · exact silent printed
  · exact kept ⟨incomplete, retained⟩

/-- The rule cannot be read behind the snapshot, and nothing fails afterwards. -/
def unreadableRule : List (Verdict Error) :=
  List.replicate 18 .done ++ [.raises (.runtime "semanage") false, .done, .done, .done]

/-- The login configuration cannot be written, and the rollback is interrupted at once. -/
def interruptedRollback : List (Verdict Error) :=
  List.replicate 60 .done ++ [.raises .os false, .raises .other false, .done, .done, .done]

/-- The login configuration cannot be written, and `goodix-force-remove` not removed. -/
def stuckCommand : List (Verdict Error) :=
  List.replicate 60 .done ++ .raises .os false :: List.replicate 23 .done ++
    .raises .os false :: List.replicate 6 .done

/-- What is read behind the snapshot fails without a rollback, for nothing has changed yet; an
interrupt ends a rollback; and the commands are not kept by a rollback that fails when it puts them
back. -/
theorem failures_unanswered : ¬ RollsBackAlways freshPlan freshHost unreadableRule ∧
    ¬ RollsBackAlways freshPlan freshHost interruptedRollback ∧
    ¬ RollsBackAlways freshPlan freshHost stuckCommand := by
  refine ⟨?_, ?_, ?_⟩
  · have ended : ((apply freshPlan).run freshHost unreadableRule).ending =
        .raised (.runtime "semanage") := by decide +kernel
    exact unanswered (by decide +kernel) ended (by decide +kernel) (by decide +kernel)
  · have ended : ((apply freshPlan).run freshHost interruptedRollback).ending = .raised .other := by
      decide +kernel
    exact unanswered (by decide +kernel) ended (by decide +kernel) (by decide +kernel)
  · have ended : ((apply freshPlan).run freshHost stuckCommand).ending =
        .raised (.runtime unrestored) := by decide +kernel
    exact unanswered (by decide +kernel) ended (by decide +kernel) (by decide +kernel)

end Goodix.Deployment
