import Goodix.Enrollment.Delivery
import Goodix.Library.Traces

/-! # Enrollment with the Chicago engine

`goodix_chicago.c` gives every sample of an enrollment to the engine and asks its policy,
`goodix_chicago_engine_enrollment_policy_accept`, whether the sample counts.  The first
sample that does not is taken out of the gallery and put back after the next one.
`context_chicago_image` is the image callback that does so: it tells the enrollment model
to retry a contact or to finish, and libfprint how far the enrollment has come.

The engine is known by what it answers: to a sample that it inserts, the position that it
finds.  An insertion appends to the gallery.
-/

namespace Goodix.ChicagoEnrollment

open Enrollment Machines Traces

/-! ## The policy of the engine -/

structure EnrollmentPolicy where
  touched : Nat
  enrolled : Nat
  tipped : Nat
  used : Nat
  lastTipped : Nat
  continuousTips : Nat
  tipIndex : Nat
  previousTipIndex : Nat
  deferredPending : Bool
  deferCurrentSample : Bool
  restoreDeferredSample : Bool
  deriving DecidableEq, Repr

def engineRequiredSamples : Nat := 12

namespace EnrollmentPolicy

/-- `goodix_chicago_engine_enrollment_policy_init` -/
def init : EnrollmentPolicy := ⟨0, 0, 0, 0, 0, 0, 0, 0, false, false, false⟩

def directions : List Nat := [4, 1, 3, 2]

/-- Whether a sample at a position is a tip. -/
def isTip (policy : EnrollmentPolicy) (positionX positionY : Nat) : Bool :=
  5 ≤ policy.used + 1 ∧ policy.used + 1 ≤ 12 ∧ (positionX > 30 ∨ positionY > 20) ∧
    ¬ (policy.tipped ≥ 8 ∨ policy.continuousTips ≥ 2)

/-- `goodix_chicago_engine_enrollment_policy_accept`: whether the sample counts, the direction
that is reported if not, and the policy after it. -/
def accept (policy : EnrollmentPolicy) (positionX positionY : Nat) :
    Bool × Nat × EnrollmentPolicy :=
  let touched := { policy with
    touched := policy.touched + 1
    enrolled := policy.enrolled + 1
    deferCurrentSample := false
    restoreDeferredSample := policy.deferredPending
    deferredPending := false }
  if policy.isTip positionX positionY then
    (false, directions.getD policy.tipIndex 0, { touched with
      deferCurrentSample := policy.tipped = 0
      deferredPending := policy.tipped = 0
      lastTipped := touched.touched
      continuousTips := policy.continuousTips + 1
      tipped := policy.tipped + 1
      previousTipIndex := policy.tipIndex })
  else
    (true, 0, { touched with
      tipIndex :=
        if policy.lastTipped ≠ 0 ∧ policy.lastTipped + 1 = touched.touched then
          (policy.tipIndex + 1) % directions.length
        else policy.tipIndex
      continuousTips := 0
      used := policy.used + 1 })

/-- `goodix_chicago_engine_enrollment_policy_complete` -/
def complete (policy : EnrollmentPolicy) : Bool := policy.used ≥ engineRequiredSamples

end EnrollmentPolicy

/-! ## One image -/

inductive Preprocessed (π : Type) where
  | sample (probe : π)
  | rejected
  | error (error : GError)

/-- What the engine and the framework answer while one image is handled. -/
structure Capture (π : Type) where
  /-- The context is stale or fenced, or the action is cancelled. -/
  stopped : Bool
  preprocessed : Preprocessed π
  /-- The position of the sample, if the engine inserts it. -/
  position : Except GError (Nat × Nat)
  /-- How the engine inserts the deferred sample, if it is put back. -/
  restored : Except GError Unit
  packed : Except GError Unit
  /-- Whether a print can be made of the packed template. -/
  prints : Bool
  /-- Whether the framework is in its capture state. -/
  capturing : Bool
  /-- Whether the action is cancelled when the framework looks. -/
  cancelled : Bool
  /-- Whether the context is poisoned when the framework has returned. -/
  poisoned : Bool

structure Chicago (π : Type) where
  bound : Bool
  /-- The gallery of the engine, oldest sample first, during an enrollment. -/
  enrollment : Option (List π)
  deferred : Option π
  policy : EnrollmentPolicy

inductive Admission where
  | accepted
  | retry
  | complete
  deriving DecidableEq, Repr

/-- `invalid` -/
def invalid (message : String) : GError := ⟨"fp - device - error - quark", 6, message⟩

variable {π : Type}

namespace Chicago

/-- `goodix_chicago_enroll_start`, for a context that is bound or not. -/
def enrollStart (bound : Bool) : Chicago π where
  bound
  enrollment := some []
  deferred := none
  policy := .init

/-- `goodix_chicago_enroll_progress` -/
def enrollProgress (chicago : Chicago π) : Nat := chicago.policy.used

/-- The sample that is not to count yet leaves the gallery again. -/
def deferSample (chicago : Chicago π) (gallery : List π) (probe : π) :
    Except GError Unit × Chicago π :=
  if chicago.policy.deferCurrentSample then
    if chicago.deferred.isSome ∨ gallery = [] then
      (.error (invalid "Chicago deferred enrollment invalid"),
        { chicago with enrollment := some gallery })
    else
      (.ok (), { chicago with enrollment := some gallery.dropLast, deferred := some probe })
  else (.ok (), { chicago with enrollment := some gallery })

/-- The deferred sample comes back. -/
def restoreSample (chicago : Chicago π) (restored : Except GError Unit) :
    Except GError Unit × Chicago π :=
  if chicago.policy.restoreDeferredSample then
    match chicago.deferred, restored with
    | none, _ => (.error (invalid "Chicago deferred enrollment missing"), chicago)
    | some _, .error error => (.error error, chicago)
    | some deferred, .ok () =>
      (.ok (), { chicago with
        enrollment := chicago.enrollment.map (· ++ [deferred]), deferred := none })
  else (.ok (), chicago)

/-- The result for a sample that has been inserted. -/
def admission (chicago : Chicago π) (accepted : Bool) (packed : Except GError Unit) :
    Except GError Admission :=
  if chicago.policy.complete then
    if chicago.deferred.isSome then .error (invalid "Chicago deferred sample at completion")
    else packed.map fun _ => .complete
  else if accepted then .ok .accepted
  else .ok .retry

/-- `goodix_chicago_enroll` -/
def enroll (chicago : Chicago π) (probe : π) (capture : Capture π) :
    Except GError Admission × Chicago π :=
  match chicago.enrollment with
  | none => (.error (invalid "Chicago enrollment state invalid"), chicago)
  | some gallery =>
    if chicago.bound = false ∨ chicago.policy.complete then
      (.error (invalid "Chicago enrollment state invalid"), chicago)
    else
      match capture.position with
      | .error error => (.error error, chicago)
      | .ok (positionX, positionY) =>
        let (accepted, _, policy) := chicago.policy.accept positionX positionY
        match { chicago with policy }.deferSample (gallery ++ [probe]) probe with
        | (.error error, after) => (.error error, after)
        | (.ok (), after) =>
          match after.restoreSample capture.restored with
          | (.error error, after) => (.error error, after)
          | (.ok (), after) => (after.admission accepted capture.packed, after)

end Chicago

/-! ## The framework -/

def nrEnrollStages : Nat := 12

/-- The enrollment of the image device of libfprint. -/
structure Device where
  enrollStage : Nat
  /-- The progress that has been reported. -/
  reports : List Nat
  /-- Whether the action has an error. -/
  failed : Bool
  deriving DecidableEq, Repr

/-- `fpi_image_device_raw_image_captured` of an enrollment. -/
def Device.rawImageCaptured (device : Device) (capture : Capture π) (print : Bool)
    (enrollStage : Nat) : Device :=
  if capture.capturing = false ∨ capture.cancelled ∨ enrollStage ≠ device.enrollStage + 1 ∨
      enrollStage > nrEnrollStages ∨ (enrollStage = nrEnrollStages ∧ print = false) then
    { device with failed := true }
  else { device with enrollStage, reports := device.reports ++ [enrollStage] }

/-- `fpi_image_device_retry_scan` of an enrollment. -/
def Device.retryScan (device : Device) : Device :=
  { device with reports := device.reports ++ [device.enrollStage] }

/-! ## The image callback -/

/-- What happened to an image. -/
inductive Noted (π : Type) where
  | rejected
  | admitted (probe : π) (admission : Admission)
  | requested (request : Request)
  deriving DecidableEq

/-- What the image callback does to the engine and the framework, and how it answers. -/
structure Handled (π : Type) where
  reply : Reply
  chicago : Chicago π
  device : Device
  notes : List (Noted π)

/-- The callback refuses the image. -/
def refuse (chicago : Chicago π) (device : Device) (error : GError) : Handled π :=
  ⟨⟨[], .error (some error)⟩, chicago, device, []⟩

/-- The contact is to be retried. -/
def retryContact (chicago : Chicago π) (device : Device) (note : Noted π) : Handled π :=
  ⟨⟨[.retryCurrentStage], .ok ()⟩, chicago, device.retryScan,
    [note, .requested .retryCurrentStage]⟩

/-- `context_chicago_image` of an enrollment.  While the callback runs nothing has been decided
about the contact, so that a retry is always granted, and a finish while the template has
stages left. -/
def contextChicagoImage (mayFinish : Bool) (chicago : Chicago π) (device : Device)
    (capture : Capture π) : Handled π :=
  let verdict : Except (Option GError) Unit := if capture.poisoned then .error none else .ok ()
  if capture.stopped then
    refuse chicago device ⟨"g-io-error-quark", 19, "Chicago callback fenced or cancelled"⟩
  else
    match capture.preprocessed with
    | .error error => refuse chicago device error
    | .rejected => retryContact chicago device .rejected
    | .sample probe =>
      match chicago.enroll probe capture with
      | (.error error, after) => refuse after device error
      | (.ok .retry, after) => retryContact after device (.admitted probe .retry)
      | (.ok .accepted, after) =>
        ⟨⟨[], verdict⟩, after, device.rawImageCaptured capture false after.enrollProgress,
          [.admitted probe .accepted]⟩
      | (.ok .complete, after) =>
        if mayFinish then
          ⟨⟨[.finishCurrentStage], verdict⟩, after,
            device.rawImageCaptured capture capture.prints after.enrollProgress,
            [.admitted probe .complete, .requested .finishCurrentStage]⟩
        else
          refuse after device (modelError modelErrorStage
            "terminal enrollment stage exceeds template target")

/-! ## The enrollment -/

structure Enrolling (π : Type) where
  pipeline : Pipeline
  chicago : Chicago π
  device : Device

/-- An event of the enrollment, and what is answered if its image is handled. -/
structure Shown (π : Type) where
  event : Event
  samples : Option (List UInt16)
  capture : Capture π

/-- An event is fed to the pipeline, which calls the image callback if a delivery is due: then it
has handed out one image more. -/
def step (enrolling : Enrolling π) (shown : Shown π) : Enrolling π × List (Noted π) :=
  let handled := contextChicagoImage enrolling.pipeline.mayFinish enrolling.chicago
    enrolling.device shown.capture
  let fed := enrolling.pipeline.feed shown.event shown.samples handled.reply
  if fed.2.handed.length = enrolling.pipeline.handed.length then
    ({ enrolling with pipeline := fed.2 }, [])
  else (⟨fed.2, handled.chicago, handled.device⟩, handled.notes)

/-! ## What the log says -/

/-- The sample of a note, if it passed preprocessing. -/
def Noted.passed : Noted π → Option π
  | .admitted probe _ => some probe
  | _ => none

/-- Whether a sample counts. -/
def Noted.counts : Noted π → Bool
  | .admitted _ .accepted | .admitted _ .complete => true
  | _ => false

def Noted.finishes : Noted π → Bool
  | .requested .finishCurrentStage => true
  | _ => false

/-- The samples that passed preprocessing. -/
def passed (log : List (Noted π)) : List π := log.filterMap Noted.passed

/-- How many samples the policy accepted. -/
def acceptances (log : List (Noted π)) : Nat := log.countP Noted.counts

/-- How many requests to finish the model got. -/
def finishRequests (log : List (Noted π)) : Nat := log.countP Noted.finishes

/-- Completion is the result of the twelfth sample that counts, and of no other; after it no
sample is admitted. -/
def Timely (before : List (Noted π)) (note : Noted π) : Prop :=
  ∀ probe admission, note = .admitted probe admission →
    acceptances before < engineRequiredSamples ∧
      (admission = .complete ↔ acceptances (before ++ [note]) = engineRequiredSamples)

/-- The gallery, the deferred sample and the number of tips after some samples.  The first tip is
put back right after the sample that follows it. -/
inductive Kept : List π → List π → Option π → Nat → Prop where
  | whole (samples : List π) : Kept samples samples none 0
  | deferred (samples : List π) (tip : π) : Kept (samples ++ [tip]) samples (some tip) 1
  | restored (before : List π) (tip next : π) (after : List π) {tips : Nat} (tipped : 1 ≤ tips) :
      Kept (before ++ tip :: next :: after) (before ++ next :: tip :: after) none tips

theorem Kept.length {samples gallery : List π} {deferred : Option π} {tips : Nat}
    (kept : Kept samples gallery deferred tips) :
    samples.length = gallery.length + deferred.toList.length := by
  cases kept <;> simp

/-- Every sample is in the gallery or deferred, as often as it passed. -/
theorem Kept.perm {samples gallery : List π} {deferred : Option π} {tips : Nat}
    (kept : Kept samples gallery deferred tips) :
    samples.Perm (gallery ++ deferred.toList) := by
  cases kept with
  | whole => simp
  | deferred => simp
  | restored before tip next after =>
    simpa using List.Perm.append_left before (List.Perm.swap next tip after)

/-- A sample that is not deferred joins the gallery. -/
theorem Kept.join {samples gallery : List π} {tips : Nat}
    (kept : Kept samples gallery none tips) (probe : π) (more : Nat)
    (later : more = 0 ∨ 1 ≤ tips) :
    Kept (samples ++ [probe]) (gallery ++ [probe]) none (tips + more) := by
  cases kept with
  | whole =>
    rcases later with rfl | tipped
    · exact .whole _
    · omega
  | restored before tip next after tipped =>
    have joined : Kept _ _ none (tips + more) :=
      .restored before tip next (after ++ [probe]) (by omega)
    simpa using joined

/-- The next sample joins the gallery, and the deferred one comes back. -/
theorem Kept.restore {samples gallery : List π} {tip : π} {tips : Nat}
    (kept : Kept samples gallery (some tip) tips) (probe : π) (more : Nat) :
    Kept (samples ++ [probe]) (gallery ++ [probe, tip]) none (tips + more) := by
  cases kept with
  | deferred =>
    have joined : Kept _ _ none (1 + more) := .restored gallery tip probe [] (by omega)
    simpa using joined

/-! ## One sample -/

/-- The engine and its policy after some samples. -/
structure Engaged (samples : List π) (chicago : Chicago π) : Prop where
  gallery : ∃ gallery, chicago.enrollment = some gallery ∧
    Kept samples gallery chicago.deferred chicago.policy.tipped
  pending : chicago.policy.deferredPending = chicago.deferred.isSome
  tips : chicago.policy.tipped ≤ 8

theorem accept_tip {policy : EnrollmentPolicy} {positionX positionY : Nat}
    (tip : policy.isTip positionX positionY = true) :
    (policy.accept positionX positionY).1 = false ∧
      let after := (policy.accept positionX positionY).2.2
      after.used = policy.used ∧ after.tipped = policy.tipped + 1 ∧ after.tipped ≤ 8 ∧
        after.deferCurrentSample = decide (policy.tipped = 0) ∧
        after.deferredPending = decide (policy.tipped = 0) ∧
        after.restoreDeferredSample = policy.deferredPending := by
  have room : policy.tipped + 1 ≤ 8 := by
    simp only [EnrollmentPolicy.isTip, decide_eq_true_eq, not_or] at tip
    omega
  simp [EnrollmentPolicy.accept, tip, room]

theorem accept_counts {policy : EnrollmentPolicy} {positionX positionY : Nat}
    (counts : policy.isTip positionX positionY = false) :
    (policy.accept positionX positionY).1 = true ∧
      let after := (policy.accept positionX positionY).2.2
      after.used = policy.used + 1 ∧ after.tipped = policy.tipped ∧
        after.deferCurrentSample = false ∧ after.deferredPending = false ∧
        after.restoreDeferredSample = policy.deferredPending := by
  simp [EnrollmentPolicy.accept, counts]

/-- A sample that is not deferred itself: it is inserted, and a deferred one comes back. -/
theorem insert_joins {samples gallery : List π} {chicago inserted after : Chicago π}
    {policy : EnrollmentPolicy} {probe : π} {restored : Except GError Unit}
    (kept : Kept samples gallery chicago.deferred chicago.policy.tipped)
    (pending : policy.restoreDeferredSample = chicago.deferred.isSome)
    (stays : policy.deferCurrentSample = false)
    (later : policy.tipped = chicago.policy.tipped ∨
      (1 ≤ chicago.policy.tipped ∧ policy.tipped = chicago.policy.tipped + 1))
    (inserts : { chicago with policy }.deferSample (gallery ++ [probe]) probe = (.ok (), inserted))
    (restores : inserted.restoreSample restored = (.ok (), after)) :
    after.policy = policy ∧ after.deferred = none ∧ ∃ gallery', after.enrollment = some gallery' ∧
      Kept (samples ++ [probe]) gallery' none policy.tipped := by
  have counted : ∃ more, policy.tipped = chicago.policy.tipped + more ∧
      (more = 0 ∨ 1 ≤ chicago.policy.tipped) := by
    rcases later with same | ⟨tipped, next⟩
    · exact ⟨0, same, .inl rfl⟩
    · exact ⟨1, next, .inr tipped⟩
  obtain ⟨more, tips, room⟩ := counted
  obtain rfl : { chicago with policy, enrollment := some (gallery ++ [probe]) } = inserted := by
    simpa [Chicago.deferSample, stays] using inserts
  rw [tips]
  cases deferred : chicago.deferred with
  | none =>
    rw [deferred] at kept pending
    obtain rfl := by simpa [Chicago.restoreSample, pending] using restores
    exact ⟨rfl, deferred, _, rfl, kept.join probe more room⟩
  | some tip =>
    rw [deferred] at kept pending
    cases restored with
    | error error => simp [Chicago.restoreSample, pending, deferred] at restores
    | ok _ =>
      obtain rfl : { chicago with
          policy, enrollment := some (gallery ++ [probe, tip]), deferred := none } = after := by
        simpa [Chicago.restoreSample, pending, deferred] using restores
      exact ⟨rfl, rfl, _, rfl, kept.restore probe more⟩

/-- The first tip leaves the gallery again. -/
theorem insert_defers {samples gallery : List π} {chicago inserted after : Chicago π}
    {policy : EnrollmentPolicy} {probe : π} {restored : Except GError Unit}
    (kept : Kept samples gallery chicago.deferred chicago.policy.tipped)
    (pending : policy.restoreDeferredSample = chicago.deferred.isSome)
    (first : chicago.policy.tipped = 0) (leaves : policy.deferCurrentSample = true)
    (inserts : { chicago with policy }.deferSample (gallery ++ [probe]) probe = (.ok (), inserted))
    (restores : inserted.restoreSample restored = (.ok (), after)) :
    after.policy = policy ∧ after.deferred = some probe ∧ after.enrollment = some gallery ∧
      Kept (samples ++ [probe]) gallery (some probe) 1 := by
  rw [first] at kept
  have nothing : chicago.deferred = none ∧ samples = gallery := by
    rcases deferred : chicago.deferred with _ | tip <;> rw [deferred] at kept <;> cases kept
    · exact ⟨rfl, rfl⟩
    · omega
  obtain ⟨empty, rfl⟩ := nothing
  obtain rfl : { chicago with policy, enrollment := some samples, deferred := some probe } =
      inserted := by
    simpa [Chicago.deferSample, leaves, empty] using inserts
  obtain rfl := by simpa [Chicago.restoreSample, pending, empty] using restores
  exact ⟨rfl, rfl, rfl, .deferred samples probe⟩

/-- What the engine has done with a sample when `goodix_chicago_enroll` decides about it. -/
structure Inserted (samples : List π) (chicago : Chicago π) (probe : π) (counts : Bool)
    (after : Chicago π) : Prop where
  engaged : Engaged (samples ++ [probe]) after
  used : after.policy.used = chicago.policy.used + if counts then 1 else 0
  tipped : after.policy.tipped = chicago.policy.tipped + if counts then 0 else 1
  settled : counts = true → after.deferred = none

/-- The steps of an insertion that succeeds. -/
theorem enroll_ok {chicago after : Chicago π} {gallery : List π} {probe : π} {capture : Capture π}
    {admission : Admission} (inside : chicago.enrollment = some gallery)
    (accepted : chicago.enroll probe capture = (.ok admission, after)) :
    chicago.policy.complete = false ∧ ∃ x y inserted,
      { chicago with policy := (chicago.policy.accept x y).2.2 }.deferSample (gallery ++ [probe])
          probe = (.ok (), inserted) ∧
        inserted.restoreSample capture.restored = (.ok (), after) ∧
          after.admission (chicago.policy.accept x y).1 capture.packed = .ok admission := by
  unfold Chicago.enroll at accepted
  split at accepted
  · cases accepted
  rename_i found
  obtain rfl := Option.some.inj (found.symm.trans inside)
  split at accepted
  · cases accepted
  rename_i running
  simp only [not_or, Bool.not_eq_true] at running
  refine ⟨running.2, ?_⟩
  split at accepted
  · cases accepted
  rename_i x y position
  dsimp only at accepted
  split at accepted
  · cases accepted
  rename_i inserted inserts
  split at accepted
  · cases accepted
  rename_i last restores
  obtain ⟨admits, rfl⟩ := Prod.mk.inj accepted
  exact ⟨x, y, inserted, inserts, restores, admits⟩

theorem enroll_inserts {samples : List π} {chicago after : Chicago π} {probe : π}
    {capture : Capture π} {admission : Admission} (engaged : Engaged samples chicago)
    (accepted : chicago.enroll probe capture = (.ok admission, after)) :
    chicago.policy.complete = false ∧
      ∃ counts, Inserted samples chicago probe counts after ∧
        after.admission counts capture.packed = .ok admission := by
  obtain ⟨⟨gallery, inside, kept⟩, pending, tips⟩ := engaged
  obtain ⟨running, x, y, inserted, inserts, restores, admits⟩ := enroll_ok inside accepted
  refine ⟨running, _, ?_, admits⟩
  cases tip : chicago.policy.isTip x y with
  | false =>
    obtain ⟨passes, used, tipped, stays, nothing, back⟩ := accept_counts tip
    obtain ⟨policy, empty, held⟩ :=
      insert_joins kept (back.trans pending) stays (.inl tipped) inserts restores
    refine ⟨⟨?_, ?_, ?_⟩, ?_, ?_, fun _ => empty⟩
    · rwa [empty, policy]
    · rw [policy, nothing, empty, Option.isSome_none]
    · rw [policy, tipped]
      exact tips
    · rw [policy, used, passes, if_pos rfl]
    · rw [policy, tipped, passes, if_pos rfl, Nat.add_zero]
  | true =>
    obtain ⟨fails, used, tipped, room, leaves, waits, back⟩ := accept_tip tip
    by_cases first : chicago.policy.tipped = 0
    · obtain ⟨policy, empty, held, keeps⟩ := insert_defers kept (back.trans pending) first
        (by simp [leaves, first]) inserts restores
      refine ⟨⟨⟨gallery, held, ?_⟩, ?_, ?_⟩, ?_, ?_, ?_⟩
      · rw [empty, policy, tipped, first]
        exact keeps
      · rw [policy, waits, empty, first]
        rfl
      · rw [policy]
        exact room
      · rw [policy, used, fails]
        rfl
      · rw [policy, tipped, fails]
        rfl
      · rw [fails]
        intro counts
        cases counts
    · obtain ⟨policy, empty, held⟩ := insert_joins kept (back.trans pending)
        (by simp [leaves, first]) (.inr ⟨by omega, tipped⟩) inserts restores
      refine ⟨⟨?_, ?_, ?_⟩, ?_, ?_, fun _ => empty⟩
      · rwa [empty, policy]
      · rw [policy, waits, empty]
        simp [first]
      · rw [policy]
        exact room
      · rw [policy, used, fails]
        rfl
      · rw [policy, tipped, fails]
        rfl

/-- What an admission says about the policy after it. -/
theorem enroll_admits {samples : List π} {chicago after : Chicago π} {probe : π}
    {capture : Capture π} {admission : Admission} (engaged : Engaged samples chicago)
    (accepted : chicago.enroll probe capture = (.ok admission, after)) :
    chicago.policy.used < engineRequiredSamples ∧ Engaged (samples ++ [probe]) after ∧
      (admission = .complete ↔ after.policy.used = engineRequiredSamples) ∧
      (admission = .complete → after.deferred = none) ∧
      after.policy.used = chicago.policy.used + (if admission = .retry then 0 else 1) ∧
      after.policy.tipped = chicago.policy.tipped + (if admission = .retry then 1 else 0) := by
  obtain ⟨running, counts, ⟨engages, used, tipped, settled⟩, admits⟩ :=
    enroll_inserts engaged accepted
  have below : chicago.policy.used < engineRequiredSamples := by
    simpa [EnrollmentPolicy.complete] using running
  refine ⟨below, engages, ?_⟩
  unfold Chicago.admission at admits
  cases counts with
  | false =>
    have unchanged : after.policy.used = chicago.policy.used := used
    have runs : after.policy.complete = false := by
      simp [EnrollmentPolicy.complete, unchanged, below]
    rw [runs] at admits
    cases admits
    exact ⟨by simp; omega, by simp, unchanged, tipped⟩
  | true =>
    have next : after.policy.used = chicago.policy.used + 1 := used
    cases ended : after.policy.complete with
    | false =>
      rw [ended] at admits
      cases admits
      have more : after.policy.used < engineRequiredSamples := by
        simpa [EnrollmentPolicy.complete] using ended
      exact ⟨by simp; omega, by simp, next, tipped⟩
    | true =>
      have last : engineRequiredSamples ≤ after.policy.used := by
        simpa [EnrollmentPolicy.complete] using ended
      have empty := settled rfl
      rw [ended, empty] at admits
      obtain rfl : Admission.complete = admission := by
        cases packed : capture.packed with
        | error error => rw [packed] at admits; cases admits
        | ok _ => rw [packed] at admits; cases admits; rfl
      exact ⟨by simp; omega, fun _ => empty, next, tipped⟩

/-- No sample is admitted after the last one. -/
theorem enroll_complete {chicago : Chicago π} {gallery : List π} {probe : π} {capture : Capture π}
    (inside : chicago.enrollment = some gallery) (complete : chicago.policy.complete = true) :
    chicago.enroll probe capture =
      (.error (invalid "Chicago enrollment state invalid"), chicago) := by
  simp [Chicago.enroll, inside, complete]

/-! ## One delivery -/

theorem rawImageCaptured_unfailed {device : Device} {capture : Capture π} {print : Bool}
    {enrollStage : Nat}
    (unfailed : (device.rawImageCaptured capture print enrollStage).failed = false) :
    device.failed = false ∧ device.rawImageCaptured capture print enrollStage =
      { device with enrollStage, reports := device.reports ++ [enrollStage] } := by
  unfold Device.rawImageCaptured at unfailed ⊢
  split at unfailed
  · cases unfailed
  · rename_i valid
    exact ⟨unfailed, if_neg valid⟩

/-- An image that is not refused: it fails the quality test, or its sample is admitted. -/
inductive Answered (mayFinish : Bool) (chicago : Chicago π) (device : Device)
    (capture : Capture π) : Handled π → Prop where
  | rejected : Answered mayFinish chicago device capture (retryContact chicago device .rejected)
  | retry {probe : π} {after : Chicago π}
      (enrolls : chicago.enroll probe capture = (.ok .retry, after)) :
      Answered mayFinish chicago device capture
        (retryContact after device (.admitted probe .retry))
  | accepted {probe : π} {after : Chicago π}
      (enrolls : chicago.enroll probe capture = (.ok .accepted, after)) :
      Answered mayFinish chicago device capture
        ⟨⟨[], .ok ()⟩, after, device.rawImageCaptured capture false after.enrollProgress,
          [.admitted probe .accepted]⟩
  | complete {probe : π} {after : Chicago π} (may : mayFinish = true)
      (enrolls : chicago.enroll probe capture = (.ok .complete, after)) :
      Answered mayFinish chicago device capture
        ⟨⟨[.finishCurrentStage], .ok ()⟩, after,
          device.rawImageCaptured capture capture.prints after.enrollProgress,
          [.admitted probe .complete, .requested .finishCurrentStage]⟩

theorem contextChicagoImage_answered {mayFinish : Bool} {chicago : Chicago π} {device : Device}
    {capture : Capture π}
    (accepted : (contextChicagoImage mayFinish chicago device capture).reply.verdict = .ok ()) :
    Answered mayFinish chicago device capture
      (contextChicagoImage mayFinish chicago device capture) := by
  unfold contextChicagoImage at accepted ⊢
  cases stopped : capture.stopped with
  | true =>
    rw [stopped] at accepted
    cases accepted
  | false =>
    rw [stopped] at accepted
    dsimp only [Bool.false_eq_true, if_false] at accepted ⊢
    cases preprocessed : capture.preprocessed with
    | error error =>
      rw [preprocessed] at accepted
      cases accepted
    | rejected => exact .rejected
    | sample probe =>
      rw [preprocessed] at accepted
      dsimp only at accepted ⊢
      rcases enrolls : chicago.enroll probe capture with ⟨admission, after⟩
      rw [enrolls] at accepted
      cases admission with
      | error error => cases accepted
      | ok admission =>
        cases admission with
        | retry => exact .retry enrolls
        | accepted =>
          cases poisoned : capture.poisoned with
          | false => exact .accepted enrolls
          | true =>
            rw [poisoned] at accepted
            cases accepted
        | complete =>
          cases may : mayFinish with
          | false =>
            rw [may] at accepted
            cases accepted
          | true =>
            cases poisoned : capture.poisoned with
            | false => exact .complete rfl enrolls
            | true =>
              rw [may, poisoned] at accepted
              cases accepted

/-! ## The counts stay even -/

@[simp] theorem passed_append (log later : List (Noted π)) :
    passed (log ++ later) = passed log ++ passed later :=
  List.filterMap_append

@[simp] theorem acceptances_append (log later : List (Noted π)) :
    acceptances (log ++ later) = acceptances log + acceptances later :=
  List.countP_append

@[simp] theorem finishRequests_append (log later : List (Noted π)) :
    finishRequests (log ++ later) = finishRequests log + finishRequests later :=
  List.countP_append

/-- The counts of the policy, the template and the framework, and what has been logged. -/
structure Even (log : List (Noted π)) (enrolling : Enrolling π) : Prop where
  tidy : enrolling.pipeline.Tidy
  engaged : Engaged (passed log) enrolling.chicago
  samples : (passed log).length = enrolling.chicago.policy.used + enrolling.chicago.policy.tipped
  accepted : acceptances log = enrolling.chicago.policy.used
  completed : enrolling.pipeline.model.completedStageCount = enrolling.chicago.policy.used
  stage : enrolling.device.enrollStage = enrolling.chicago.policy.used
  reported : enrolling.device.reports.getLastD 0 = enrolling.chicago.policy.used
  within : enrolling.chicago.policy.used ≤ engineRequiredSamples
  finishes : finishRequests log =
    if enrolling.chicago.policy.used = engineRequiredSamples then 1 else 0
  ended : enrolling.chicago.policy.used = engineRequiredSamples → enrolling.chicago.deferred = none
  timely : Justified Timely log

/-- As long as no error occurred. -/
def Unfailed (enrolling : Enrolling π) : Prop :=
  enrolling.pipeline.isFailed = false ∧ enrolling.device.failed = false

theorem timely_admitted {log : List (Noted π)} {chicago after : Chicago π} {probe : π}
    {admission : Admission} (accepted : acceptances log = chicago.policy.used)
    (below : chicago.policy.used < engineRequiredSamples)
    (completes : admission = .complete ↔ after.policy.used = engineRequiredSamples)
    (used : after.policy.used = chicago.policy.used + (if admission = .retry then 0 else 1)) :
    Timely log (.admitted probe admission) := by
  rintro _ _ ⟨⟩
  have counted : acceptances (log ++ [.admitted probe admission]) = after.policy.used := by
    rw [acceptances_append, accepted, used]
    cases admission <;> rfl
  rw [counted]
  exact ⟨accepted ▸ below, completes⟩

theorem timely_requested {log : List (Noted π)} (timely : Justified Timely log)
    (request : Request) : Justified Timely (log ++ [.requested request]) := by
  refine justified_concat.mpr ⟨timely, ?_⟩
  intro probe admission requested
  cases requested

/-- The request that follows an admission. -/
def Admission.request : Admission → List Request
  | .accepted => []
  | .retry => [.retryCurrentStage]
  | .complete => [.finishCurrentStage]

/-- The counts after a sample that has been admitted. -/
theorem Even.admitted {log : List (Noted π)} {enrolling : Enrolling π} {capture : Capture π}
    {fed : Pipeline} {probe : π} {admission : Admission} {after : Chicago π} {device : Device}
    (even : Even log enrolling) (tidy : fed.Tidy)
    (enrolls : enrolling.chicago.enroll probe capture = (.ok admission, after))
    (completed : fed.model.completedStageCount = after.policy.used)
    (stage : device.enrollStage = after.policy.used)
    (reported : device.reports.getLastD 0 = after.policy.used) :
    Even (log ++ (.admitted probe admission :: admission.request.map .requested))
      ⟨fed, after, device⟩ := by
  obtain ⟨-, engaged, samples, accepted, -, -, -, within, finishes, -, timely⟩ := even
  obtain ⟨below, engages, completes, settled, used, tipped⟩ := enroll_admits engaged enrolls
  have passes : passed (log ++ (.admitted probe admission :: admission.request.map .requested)) =
      passed log ++ [probe] := by
    rw [passed_append]
    cases admission <;> rfl
  have last : Justified Timely (log ++ [.admitted probe admission]) :=
    justified_concat.mpr ⟨timely, timely_admitted accepted below completes used⟩
  have unfinished : finishRequests log = 0 := by
    rw [finishes, if_neg (Nat.ne_of_lt below)]
  refine ⟨tidy, passes ▸ engages, ?_, ?_, completed, stage, reported, ?_, ?_, ?_, ?_⟩
  · rw [passes, List.length_append, samples]
    simp only [List.length_singleton, used, tipped]
    split <;> omega
  · rw [acceptances_append, accepted]
    simp only [used]
    cases admission <;> rfl
  · simp only [used]
    split <;> omega
  · rw [finishRequests_append, unfinished]
    simp only [← completes]
    cases admission <;> rfl
  · intro ends
    exact settled (completes.mpr ends)
  · cases admission with
    | accepted => exact last
    | retry => simpa [Admission.request] using timely_requested last .retryCurrentStage
    | complete => simpa [Admission.request] using timely_requested last .finishCurrentStage

/-- The counts after an image that fails the quality test. -/
theorem Even.rejected {log : List (Noted π)} {enrolling : Enrolling π} {fed : Pipeline}
    (even : Even log enrolling) (tidy : fed.Tidy)
    (completed : fed.model.completedStageCount = enrolling.chicago.policy.used) :
    Even (log ++ [.rejected, .requested .retryCurrentStage])
      ⟨fed, enrolling.chicago, enrolling.device.retryScan⟩ := by
  obtain ⟨-, engaged, samples, accepted, -, stage, -, within, finishes, ended, timely⟩ := even
  have passes : passed (log ++ [.rejected, .requested .retryCurrentStage]) = passed log := by
    rw [passed_append]
    exact List.append_nil _
  have rejects : Justified Timely (log ++ [.rejected]) := by
    refine justified_concat.mpr ⟨timely, ?_⟩
    intro probe admission rejected
    cases rejected
  refine ⟨tidy, passes ▸ engaged, passes ▸ samples, ?_, completed, stage, ?_, within, ?_, ended,
    ?_⟩
  · exact (acceptances_append ..).trans accepted
  · simpa [Device.retryScan] using stage
  · exact (finishRequests_append ..).trans finishes
  · simpa using timely_requested rejects .retryCurrentStage

theorem Even.answered {log : List (Noted π)} {enrolling : Enrolling π} {capture : Capture π}
    {fed : Pipeline} {handled : Handled π} (even : Even log enrolling) (tidy : fed.Tidy)
    (answers : Answered enrolling.pipeline.mayFinish enrolling.chicago enrolling.device capture
      handled)
    (count : fed.model.completedStageCount = enrolling.pipeline.model.completedStageCount +
      if (handled.reply.granted enrolling.pipeline.mayFinish).retry then 0 else 1)
    (unfailed : handled.device.failed = false) :
    Even (log ++ handled.notes) ⟨fed, handled.chicago, handled.device⟩ := by
  cases answers with
  | rejected => exact even.rejected tidy (count.trans even.completed)
  | retry enrolls =>
    have used := (enroll_admits even.engaged enrolls).2.2.2.2.1
    refine even.admitted tidy enrolls (count.trans (even.completed.trans used.symm)) ?_ ?_
    · exact even.stage.trans used.symm
    · simpa [retryContact, Device.retryScan] using even.stage.trans used.symm
  | accepted enrolls =>
    have used := (enroll_admits even.engaged enrolls).2.2.2.2.1
    refine even.admitted tidy enrolls ?_ ?_ ?_
    · exact count.trans ((congrArg (· + 1) even.completed).trans used.symm)
    · rw [(rawImageCaptured_unfailed unfailed).2]
      rfl
    · rw [(rawImageCaptured_unfailed unfailed).2]
      exact List.getLastD_concat ..
  | complete may enrolls =>
    have used := (enroll_admits even.engaged enrolls).2.2.2.2.1
    refine even.admitted tidy enrolls ?_ ?_ ?_
    · rw [used, ← even.completed]
      simpa [may, Reply.granted, Granted.after] using count
    · rw [(rawImageCaptured_unfailed unfailed).2]
      rfl
    · rw [(rawImageCaptured_unfailed unfailed).2]
      exact List.getLastD_concat ..

/-! ## Runs -/

/-- An action that has an error keeps it. -/
theorem contextChicagoImage_unfailed {mayFinish : Bool} {chicago : Chicago π} {device : Device}
    {capture : Capture π}
    (unfailed : (contextChicagoImage mayFinish chicago device capture).device.failed = false) :
    device.failed = false := by
  unfold contextChicagoImage at unfailed
  dsimp only at unfailed
  split at unfailed
  · exact unfailed
  split at unfailed
  · exact unfailed
  · exact unfailed
  split at unfailed
  · exact unfailed
  · exact unfailed
  · exact (rawImageCaptured_unfailed unfailed).1
  · split at unfailed
    · exact (rawImageCaptured_unfailed unfailed).1
    · exact unfailed

theorem Even.unnoted {log : List (Noted π)} {enrolling : Enrolling π} {fed : Pipeline}
    (even : Even log enrolling) (tidy : fed.Tidy)
    (count : fed.model.completedStageCount = enrolling.pipeline.model.completedStageCount) :
    Even (log ++ []) { enrolling with pipeline := fed } := by
  rw [List.append_nil]
  exact { even with tidy, completed := count.trans even.completed }

/-- One event, as long as no error has occurred. -/
theorem step_even {log : List (Noted π)} {enrolling : Enrolling π}
    (even : Unfailed enrolling → Even log enrolling) (shown : Shown π)
    (unfailed : Unfailed (step enrolling shown).1) :
    Even (log ++ (step enrolling shown).2) (step enrolling shown).1 := by
  unfold step at unfailed ⊢
  dsimp only at unfailed ⊢
  have answers := @contextChicagoImage_answered π enrolling.pipeline.mayFinish enrolling.chicago
    enrolling.device shown.capture
  have running := @contextChicagoImage_unfailed π enrolling.pipeline.mayFinish enrolling.chicago
    enrolling.device shown.capture
  generalize contextChicagoImage enrolling.pipeline.mayFinish enrolling.chicago enrolling.device
    shown.capture = handled at answers running unfailed ⊢
  have accepts := @Pipeline.feed_accepts enrolling.pipeline shown.event shown.samples handled.reply
  have feeds := @Pipeline.feed_running enrolling.pipeline shown.event shown.samples handled.reply
  have refuses := @Pipeline.feed_refused enrolling.pipeline shown.event shown.samples handled.reply
  rcases fed : enrolling.pipeline.feed shown.event shown.samples handled.reply with ⟨verdict, after⟩
  rw [fed] at unfailed accepts feeds refuses
  dsimp only at unfailed ⊢
  cases verdict with
  | error error =>
    cases refuses rfl with
    | inl fails =>
      have stands : after.isFailed = false := by
        split at unfailed <;> exact unfailed.1
      exact absurd fails (by simp [stands])
    | inr unchanged =>
      obtain rfl : after = enrolling.pipeline := unchanged.1
      rw [if_pos rfl] at unfailed ⊢
      rw [List.append_nil]
      exact even unfailed
  | ok _ =>
    obtain ⟨before, more⟩ := feeds rfl
    by_cases same : after.handed.length = enrolling.pipeline.handed.length
    · rw [if_pos same] at unfailed ⊢
      have level := even ⟨before, unfailed.2⟩
      have accepted := accepts level.tidy rfl
      have tidy := accepted.tidy level.tidy more
      cases accepted.serves with
      | nothing _ count => exact level.unnoted tidy count
      | delivery handed =>
        rw [handed, List.length_append] at same
        simp at same
    · rw [if_neg same] at unfailed ⊢
      have level := even ⟨before, running unfailed.2⟩
      have accepted := accepts level.tidy rfl
      have tidy := accepted.tidy level.tidy more
      cases accepted.serves with
      | nothing kept => exact absurd (congrArg List.length kept) same
      | delivery _ verdict granted count =>
        rw [← granted] at count
        exact level.answered tidy (answers verdict) count unfailed.2

/-- An enrollment that begins: a fresh pipeline and gallery, and no progress. -/
def begun (pipeline : Pipeline) : Enrolling π := ⟨pipeline, .enrollStart true, ⟨0, [], false⟩⟩

theorem begun_even {config : ModelConfig} {pipeline : Pipeline}
    (created : Pipeline.new config = .ok pipeline) : Even [] (begun pipeline : Enrolling π) := by
  obtain ⟨running, count, -⟩ := Pipeline.new_fresh created
  have tidy := (Pipeline.new_sound created running).1
  exact ⟨tidy, ⟨⟨[], rfl, .whole []⟩, rfl, Nat.zero_le 8⟩, rfl, rfl, count, rfl, rfl,
    Nat.zero_le 12, rfl, fun _ => rfl, justified_nil _⟩

theorem run_even {config : ModelConfig} {pipeline : Pipeline}
    (created : Pipeline.new config = .ok pipeline) (shown : List (Shown π))
    (unfailed : Unfailed (run step (begun pipeline) shown).1) :
    Even (run step (begun pipeline) shown).2 (run step (begun pipeline) shown).1 :=
  run_invariant step (fun log enrolling => Unfailed enrolling → Even log enrolling)
    (fun _ => begun_even created) (fun _ _ event even => step_even even event) shown unfailed

/-- In every enrollment in which no error has occurred, whatever the images, the positions and the
delivery configuration: every sample that passed preprocessing is in the gallery or deferred, once
each, and the deferred sample comes back right after the next one; an image that fails the quality
test changes neither the gallery nor the policy; the policy, the template, the framework and the
last report count the same samples; an insertion completes exactly when it is the twelfth that
counts, no sample is admitted later, and then none is deferred, the gallery has at most twenty
samples and the model has been asked to finish once, as it had not been before. -/
theorem samples_counted_once {config : ModelConfig} {pipeline : Pipeline}
    (created : Pipeline.new config = .ok pipeline) (shown : List (Shown π)) :
    let reached := run step (begun pipeline) shown
    let chicago := reached.1.chicago
    Unfailed reached.1 →
      (∃ gallery, chicago.enrollment = some gallery ∧
        Kept (passed reached.2) gallery chicago.deferred chicago.policy.tipped ∧
        (acceptances reached.2 = engineRequiredSamples →
          chicago.deferred = none ∧ gallery.length ≤ 20 ∧ finishRequests reached.2 = 1)) ∧
      (∀ mayFinish capture, capture.preprocessed = .rejected →
        (contextChicagoImage mayFinish chicago reached.1.device capture).chicago = chicago) ∧
      acceptances reached.2 = chicago.policy.used ∧
      reached.1.pipeline.model.completedStageCount = chicago.policy.used ∧
      reached.1.device.enrollStage = chicago.policy.used ∧
      reached.1.device.reports.getLastD 0 = chicago.policy.used ∧
      Justified Timely reached.2 ∧
      (acceptances reached.2 ≠ engineRequiredSamples → finishRequests reached.2 = 0) ∧
      (acceptances reached.2 = engineRequiredSamples → ∀ probe capture,
        ∃ error, chicago.enroll probe capture = (.error error, chicago)) := by
  intro reached chicago unfailed
  obtain ⟨tidy, engaged, samples, accepted, completed, stage, reported, within, finishes, ended,
    timely⟩ := run_even created shown unfailed
  obtain ⟨⟨gallery, inside, kept⟩, pending, tips⟩ := engaged
  refine ⟨⟨gallery, inside, kept, ?_⟩, ?_, accepted, completed, stage, reported, timely, ?_, ?_⟩
  · intro twelve
    rw [accepted] at twelve
    have empty := ended twelve
    have length := kept.length
    rw [empty, Option.toList_none, List.length_nil] at length
    have finish : finishRequests reached.2 = 1 := finishes.trans (if_pos twelve)
    unfold engineRequiredSamples at twelve
    exact ⟨empty, by omega, finish⟩
  · intro mayFinish capture rejected
    unfold contextChicagoImage
    rw [rejected]
    dsimp only
    split <;> rfl
  · intro fewer
    rw [accepted] at fewer
    exact finishes.trans (if_neg fewer)
  · intro twelve probe capture
    rw [accepted] at twelve
    exact ⟨_, enroll_complete inside (by simpa [EnrollmentPolicy.complete] using twelve.ge)⟩

/-- A contact whose image is delivered at once, with the release that follows it. -/
def shownContact (release : List Event) (probe positionX : Nat) : List (Shown Nat) :=
  let capture : Capture Nat :=
    ⟨false, .sample probe, .ok (positionX, 0), .ok (), .ok (), true, true, false, false⟩
  let image := List.replicate ImageDecoder.canonicalImageSampleCount 0
  [⟨.irq2, none, capture⟩, ⟨.command_22, none, capture⟩, ⟨.ack_22, none, capture⟩,
    ⟨.primaryB0, some image, capture⟩] ++ release.map (⟨·, none, capture⟩)

def firstRelease : List Event :=
  [.command_34, .ack_34, .irq0200, .command_20, .ack_20, .auxiliaryB0, .command_32, .ack_32,
    .command_50, .ack_50, .nav, .command_32, .ack_32]

def laterRelease : List Event :=
  [.command_34, .ack_34, .command_36, .ack_36, .irq0100, .command_20, .ack_20, .auxiliaryB0,
    .command_34, .ack_34, .irq0200, .command_32, .ack_32]

/-- Four samples that count, a tip and one more that counts. -/
def tippedContacts : List (Shown Nat) :=
  shownContact firstRelease 1 0 ++ shownContact laterRelease 2 0 ++
    shownContact laterRelease 3 0 ++ shownContact laterRelease 4 0 ++
    shownContact laterRelease 5 40 ++ shownContact laterRelease 6 0

/-- The tip is retried and leaves the gallery; it is back right after the sixth sample. -/
theorem samples_counted_once_restored :
    ∃ pipeline, Pipeline.new ⟨12, 20, false, false, false⟩ = .ok pipeline ∧
      let reached := run step (begun pipeline) tippedContacts
      passed reached.2 = [1, 2, 3, 4, 5, 6] ∧
        reached.1.chicago.enrollment = some [1, 2, 3, 4, 6, 5] ∧
        reached.1.device.reports = [1, 2, 3, 4, 4, 5] ∧
        reached.1.pipeline.model.completedStageCount = reached.1.chicago.policy.used := by
  refine ⟨_, rfl, by decide +kernel, by decide +kernel, by decide +kernel, ?_⟩
  exact (@samples_counted_once Nat ⟨12, 20, false, false, false⟩ _ rfl tippedContacts
    ⟨by decide +kernel, by decide +kernel⟩).2.2.2.1

end Goodix.ChicagoEnrollment
