import Goodix.Deployment.Lifecycle
import Goodix.Deployment.Receipt

/-! # An installation for a runtime that was inspected

`apply` may be given the source identity that an inspection found.  It reads the identity again in
the lifecycle, before the software is replaced.
-/

namespace Goodix.Deployment

open Traces Scripts Scripts.Script Decimals Values

variable {α β : Type} {strict : Bool} {allowed : Op → World → Prop} {first : World}

/-- The identity of the runtime, from what its receipt is found to be. -/
def currentSource (receipt : Except Error Value) (world : World) : Except Error (Option Text) :=
  if (world.paths .runtime).isSome then
    match receipt with
    | .error error => .error error
    | .ok receipt =>
      match receiptIdentity receipt with
      | .ok identity => .ok (some identity)
      | .error message => .error (.runtime message)
  else .ok none

/-- The comparison with the identity that is expected, unless that is `UNCHECKED_SOURCE`. -/
def verifySource (receipt : Except Error Value) : Option (Option Text) → Deploy Unit
  | none => pure ()
  | some expected => do
    act .lifecycle .inspect
    let world ← get
    match currentSource receipt world with
    | .error error => raise ⟨.lifecycle, .inspect⟩ error
    | .ok source =>
      if source = expected then pure ()
      else refuse .lifecycle "runtime changed since Manager verification; refresh status"

/-- `apply` with its `expected_source_id` -/
def applyExpecting (plan : Plan) (receipt : Except Error Value) (expected : Option (Option Text)) :
    Deploy Unit := do
  act .lifecycle .inspect
  act .lifecycle .call
  checkSoftware
  let _ ← selinuxModulePresent .lifecycle
  let _ ← materialRule .lifecycle
  act .lifecycle .inspect
  act .lifecycle .call
  lifecycle (do
    verifySource receipt expected
    replaceSoftware plan)
  act .lifecycle (.print "GOODIX_INSTALL=PASS READER_PRESENT_ALLOWED=true")

/-- Without an identity that is expected it is the installation of the command line. -/
theorem applyExpecting_unchecked (plan : Plan) (receipt : Except Error Value) :
    applyExpecting plan receipt none = apply plan := rfl

/-! ## A runtime that is another one -/

/-- The software, its policy and the host are as they were. -/
structure Untouched (event : Step) : Prop where
  paths : event.after.paths = event.before.paths
  rule : event.after.rule = event.before.rule
  module_ : event.after.module_ = event.before.module_
  host : event.after.host = event.before.host

theorem Prepares.untouched {start : Option Mask} {event : Step}
    (does : Does .lifecycle (Prepares start) event) : Untouched event := by
  cases does.effect with
  | inl same => exact ⟨by rw [same], by rw [same], by rw [same], by rw [same]⟩
  | inr same =>
    obtain called | stops | masks | ⟨line, printed, -⟩ := does.allowed
    · rw [called] at same
      exact ⟨by rw [same]; rfl, by rw [same]; rfl, by rw [same]; rfl, by rw [same]; rfl⟩
    · obtain reads | reads | reads | reads := stops <;> rw [reads] at same <;>
        exact ⟨by rw [same]; rfl, by rw [same]; rfl, by rw [same]; rfl, by rw [same]; rfl⟩
    · obtain reads | reads | ⟨reads, -, -⟩ | ⟨reads, -⟩ := masks <;> rw [reads] at same <;>
        exact ⟨by rw [same]; rfl, by rw [same]; rfl, by rw [same]; rfl, by rw [same]; rfl⟩
    · rw [printed] at same
      exact ⟨by rw [same]; rfl, by rw [same]; rfl, by rw [same]; rfl, by rw [same]; rfl⟩

/-- A part of the lifecycle that takes no step but preparing ones, and keeps what is known of the
world. -/
def Spares (first : World) (known : World → Prop) (script : Deploy α) (post : α → World → Prop) : Prop :=
  Meets (fun _ => True) (fun _ event => Does .lifecycle (Prepares first.mask) event)
    (fun _ world => known world) script (fun value _ world => post value world ∧ known world)
    fun _ _ world => known world

variable {known : World → Prop}

/-- Steps that keep what is known. -/
theorem spares_of_does {pre : World → Prop} {script : Deploy α} {post : α → World → Prop}
    {fault : Error → Assertion Label Error World}
    (does : Meets (fun _ => True) (fun _ event => Does .lifecycle allowed event)
      (fun _ world => pre world) script (fun value _ world => post value world) fault)
    (prepares : ∀ op world, allowed op world → Prepares first.mask op world)
    (keeps : ∀ op world, allowed op world → known world → known (op.effect world))
    (ready : ∀ world, known world → pre world) : Spares first known script post := by
  refine ((does.frame (fun _ world => known world) ?_).weaken fun _ _ does =>
    does.among prepares).mono (fun _ world knows => ⟨ready world knows, knows⟩)
      (fun _ _ _ given => given) fun _ _ _ given => given.2
  intro history event does knows
  cases does.effect with
  | inl same => exact same ▸ knows
  | inr same => exact same ▸ keeps _ _ does.allowed knows

theorem Spares.mono {script : Deploy α} {post weaker : α → World → Prop}
    (spares : Spares first known script post)
    (weakens : ∀ value world, post value world → weaker value world) :
    Spares first known script weaker :=
  Meets.mono spares (fun _ _ given => given) (fun _ _ _ given => ⟨weakens _ _ given.1, given.2⟩)
    fun _ _ _ given => given

/-- A part that is left out of account where it fails. -/
theorem Spares.mono_fault {script : Deploy α} (spares : Spares first known script fun _ _ => True) :
    Meets (fun _ => True) (fun _ event => Does .lifecycle (Prepares first.mask) event)
      (fun _ world => known world) script (fun _ _ world => known world) fun _ _ _ => True :=
  Meets.mono spares (fun _ _ given => given) (fun _ _ _ given => given.2) fun _ _ _ _ => trivial

/-- One part behind another, with what the first says of its value. -/
theorem spares_bind {script : Deploy α} {next : α → Deploy β} {post : β → World → Prop}
    (mid : α → Prop) (before : Spares first known script fun value _ => mid value)
    (behind : ∀ value, mid value → Spares first known (next value) post) :
    Spares first known (script >>= next) post := by
  apply meets_bind _ before
  exact fun value => meets_when fun holds => behind value holds

theorem Reads.prepares {start : Option Mask} {op : Op} {world : World} (reads : Reads op) :
    Prepares start op world := by
  obtain rfl | rfl := reads
  · exact .inr (.inl (.inl rfl))
  · exact .inl rfl

/-- A part that reads keeps everything. -/
theorem spares_reads {pre : World → Prop} {script : Deploy α} {post : α → World → Prop}
    (acts : Acts true .lifecycle (fun op _ => Reads op) pre script post)
    (ready : ∀ world, known world → pre world) : Spares first known script fun _ _ => True := by
  refine (spares_of_does acts.plain (fun _ _ reads => reads.prepares) ?_ ready).mono
    fun _ _ _ => trivial
  rintro op world (rfl | rfl) knows <;> exact knows

theorem spares_read {op : Op} (reads : Reads op) :
    Spares first known (act .lifecycle op) fun _ _ => True := by
  have acts : Acts true .lifecycle (fun op _ => Reads op) (fun _ => True) (act .lifecycle op)
      fun _ _ => True := acts_act (fun _ _ => reads) fun _ _ => trivial
  exact spares_reads acts fun _ _ => trivial

theorem spares_raise {error : Error} {post : α → World → Prop} :
    Spares first known (raise ⟨.lifecycle, .inspect⟩ error : Deploy α) post :=
  meets_raise fun _ _ knows _ =>
    ⟨⟨rfl, .inr (.inl (.inl rfl)), .inl rfl, fun _ _ _ => rfl⟩, knows⟩

theorem spares_release {created : Option Nat} {state : String}
    (ours : created.isSome = true → first.mask = none) :
    Spares first (Unchanged first) (release created state) fun _ _ => True :=
  spares_of_does (release_does ours) (fun _ _ masks => .inr (.inr (.inl masks)))
    (fun _ _ masks unchanged => unchanged.prepares (.inr (.inr (.inl masks)))) fun _ _ => trivial

/-- The comparison fails where the runtime is another one than was expected. -/
theorem verifySource_spares {receipt : Except Error Value} {expected : Option Text}
    (differs : currentSource receipt first ≠ .ok expected) :
    Spares first (Unchanged first) (verifySource receipt (some expected)) fun _ _ => False := by
  apply spares_bind fun _ => True
  · exact (spares_read (.inl rfl)).mono fun _ _ _ => trivial
  intro _ _
  apply meets_bind fun seen _ world => Unchanged first seen ∧ Unchanged first world
  · exact meets_get fun _ world unchanged => ⟨unchanged, unchanged⟩
  intro seen
  apply meets_when
  intro unchanged
  have same : currentSource receipt seen = currentSource receipt first := by
    simp only [currentSource, unchanged.paths]
  rw [same]
  split
  · exact spares_raise
  · rename_i source found
    have other : source ≠ expected := by
      rintro rfl
      exact differs found
    rw [if_neg other]
    exact spares_raise

/-- A script that takes no step but preparing ones, and does not return. -/
def Fails (first : World) (known : World → Prop) (script : Deploy α) : Prop :=
  Meets (fun _ => True) (fun _ event => Does .lifecycle (Prepares first.mask) event)
    (fun _ world => known world) script (fun _ _ _ => False) fun _ _ _ => True

theorem fails_behind {script : Deploy α} {next : α → Deploy β}
    (before : Spares first known script fun _ _ => True)
    (behind : ∀ value, Fails first known (next value)) : Fails first known (script >>= next) := by
  apply meets_bind fun _ _ world => known world
  · exact before.mono_fault
  · exact behind

/-- A lifecycle whose body leaves everything, and fails. -/
theorem lifecycle_fails {body : Deploy Unit}
    (spares : Spares first (Unchanged first) body fun _ _ => False) :
    Fails first (fun world => world = first) (lifecycle body) := by
  apply fails_behind (spares_read (.inl rfl))
  intro _
  apply fails_behind (spares_reads checkSoftware_acts fun _ _ => trivial)
  intro _
  apply meets_bind fun created _ world => (created.isSome = true → first.mask = none) ∧
    Unchanged first world
  · have acts : Acts false .lifecycle _ _ _ _ := (inhibitActivation_acts first.mask).frame
      (Unchanged first) fun op world masks unchanged => unchanged.prepares (.inr (.inr (.inl masks)))
    refine (acts.plain.weaken fun _ _ does => does.among fun _ _ masks => .inr (.inr (.inl masks))).mono
      ?_ (fun _ _ _ given => ⟨given.1.2, given.2⟩) fun _ _ _ _ => trivial
    rintro _ world rfl
    exact ⟨rfl, rfl, rfl, rfl, rfl, .inr rfl⟩
  intro created
  apply meets_when
  intro ours
  apply meets_bind fun _ _ _ => False
  · apply meets_handle fun _ _ world => Unchanged first world
    · have stops : Spares first (Unchanged first) (stopAndVerify .lifecycle) fun _ _ => True := by
        have acts : Acts true .lifecycle _ _ _ _ := stopAndVerify_acts
        exact (spares_of_does acts.plain (fun _ _ stops => .inr (.inl stops))
          (fun _ _ stops unchanged => unchanged.prepares (.inr (.inl stops)))
          fun _ _ => trivial).mono fun _ _ _ => trivial
      have both : Spares first (Unchanged first) (do stopAndVerify .lifecycle; body) fun _ _ => False :=
        spares_bind (fun _ => True) stops fun _ _ => spares
      exact Meets.mono both (fun _ _ given => given) (fun _ _ _ given => given.1) fun _ _ _ given => given
    · intro error
      apply meets_bind fun _ _ _ => True
      · exact Meets.mono (spares_release ours) (fun _ _ given => given) (fun _ _ _ _ => trivial)
          fun _ _ _ _ => trivial
      · exact fun _ => meets_rethrow fun _ _ _ => trivial
  · exact fun _ _ _ _ impossible => impossible.elim

/-- Nothing is replaced where the runtime is another one than was expected. -/
theorem applyExpecting_fails (plan : Plan) {receipt : Except Error Value} {expected : Option Text}
    (differs : currentSource receipt first ≠ .ok expected) :
    Fails first (fun world => world = first) (applyExpecting plan receipt (some expected)) := by
  apply fails_behind (spares_read (.inl rfl))
  intro _
  apply fails_behind (spares_read (.inr rfl))
  intro _
  apply fails_behind (spares_reads checkSoftware_acts fun _ _ => trivial)
  intro _
  apply fails_behind (spares_reads selinuxModulePresent_acts fun _ _ => trivial)
  intro _
  apply fails_behind (spares_reads (materialRule_acts.among fun _ _ => .inr) fun _ _ => trivial)
  intro _
  apply fails_behind (spares_read (.inl rfl))
  intro _
  apply fails_behind (spares_read (.inr rfl))
  intro _
  apply meets_bind fun _ _ _ => False
  · exact lifecycle_fails (spares_bind (fun _ => False) (verifySource_spares differs)
      fun _ impossible => impossible.elim)
  · exact fun _ _ _ _ impossible => impossible.elim

/-- What changes the software finds the runtime that was expected. -/
theorem applyExpecting_untouched (plan : Plan) {receipt : Except Error Value}
    {expected : Option Text} {verdicts : List (Verdict Error)}
    (differs : currentSource receipt first ≠ .ok expected) :
    ∀ event ∈ ((applyExpecting plan receipt (some expected)).run first verdicts).trace,
      Untouched event := by
  intro event inside
  obtain ⟨-, lawful, -⟩ := applyExpecting_fails plan differs [] first verdicts rfl fun _ _ => trivial
  obtain ⟨before, after, split⟩ := List.append_of_mem inside
  exact Prepares.untouched (lawful.justified before event after split)

end Goodix.Deployment
