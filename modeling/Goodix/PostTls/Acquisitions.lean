import Goodix.PostTls.Silence
import Goodix.Irq80

/-! # The acquisitions of a lifecycle

A lifecycle gives its owner one image for a contact.  How many there are depends on the profile and
on the login gate, behind which every contact needs its own grant.
-/

namespace Goodix.PostTls

open Octets A0Protocol FdtIrqPolicy ImageDecoder Usb Traces

/-! ## What a log says of acquisitions -/

def Callback.acquisition? : Callback → Option Nat
  | .image acquisition _ => some acquisition
  | _ => none

def Noted.acquisition? : Noted → Option Nat
  | .called callback => callback.acquisition?
  | _ => none

/-- The numbers of the images that the owner was given. -/
def images (log : List Noted) : List Nat := log.filterMap Noted.acquisition?

/-- A contact is reported, or its image is asked for. -/
def Noted.pursues : Noted → Bool
  | .called .fingerDown => true
  | .submitted control _ => control = 0x22
  | _ => false

/-- The grants and the contacts so far. -/
structure Passage where
  authorized : Bool
  logins : Nat
  contacts : Nat
  /-- Whether the last contact began behind its grant: the first one behind `authorize_login`,
  every later one behind a `next_login` of its own. -/
  granted : Bool

def Passage.after (passage : Passage) : Noted → Passage
  | .authorized => { passage with authorized := true }
  | .nextLogin => { passage with logins := passage.logins + 1 }
  | .a0 frame =>
    match signalOf frame with
    | some (.touched _) =>
      { passage with
        contacts := passage.contacts + 1
        granted := passage.authorized && passage.logins == passage.contacts }
    | _ => passage
  | _ => passage

def passageOf (log : List Noted) : Passage := log.foldl Passage.after ⟨false, 0, 0, false⟩

/-- How many images a lifecycle gives at most. -/
def limit (lifecycle : Lifecycle) : Nat :=
  match lifecycle.material.captureProfile with
  | .twoAcquisition => 2
  | .singleAcquisition => if lifecycle.loginGate then 3 else 1

/-- The login gate in the single-acquisition profile. -/
def Gated (lifecycle : Lifecycle) : Prop :=
  lifecycle.loginGate = true ∧ lifecycle.material.captureProfile = .singleAcquisition

theorem passageOf_append (log noted : List Noted) :
    passageOf (log ++ noted) = noted.foldl Passage.after (passageOf log) :=
  List.foldl_append

theorem images_append (log noted : List Noted) : images (log ++ noted) = images log ++ images noted :=
  List.filterMap_append

/-! ## What a lifecycle has come to -/

structure Attempts (lifecycle : Lifecycle) : Prop where
  ungated : lifecycle.loginGate = false → lifecycle.loginAttempts = 0
  most : lifecycle.loginAttempts ≤ 3
  twice : lifecycle.material.captureProfile = .twoAcquisition → lifecycle.loginAttempts ≤ 1
  authorized : lifecycle.loginAuthorized = true → 1 ≤ lifecycle.loginAttempts
  unauthorized : lifecycle.loginAuthorized = false → lifecycle.loginAttempts = 0

/-- The number of the first image of a contact. -/
def turnOf (lifecycle : Lifecycle) : Nat :=
  if lifecycle.loginGate then lifecycle.loginAttempts else 1

/-- The images of the delivery that waits. -/
def imaging : Option Rest → Nat
  | some (.firstImage _ _) | some (.secondImage _ _) => 1
  | _ => 0

/-- The contacts of the delivery that waits. -/
def touching : Option Rest → Nat
  | some (.imageCommand _) => 1
  | _ => 0

/-- How many images there were, and which grants. -/
def PlaceIn (era : Era) (passage : Passage) (lifecycle : Lifecycle) (rest : Option Rest)
    (count : Nat) : Prop :=
  match era with
  | .unsampled | .sampled =>
    count = 0 ∧ lifecycle.loginAttempts = 0 ∧ passage.contacts = 0 ∧ passage.logins = 0
  | .waiting =>
    count = lifecycle.loginAttempts - 1 ∧
      (touching rest = 1 → lifecycle.loginGate = true → 1 ≤ lifecycle.loginAttempts) ∧
      (Gated lifecycle → passage.contacts = passage.logins + touching rest ∧
        (touching rest = 1 → passage.granted = true))
  | .touched =>
    count + 1 = turnOf lifecycle + imaging rest ∧ 1 ≤ turnOf lifecycle ∧
      (Gated lifecycle → passage.contacts = passage.logins + 1)
  | .imaged | .letting =>
    count = turnOf lifecycle ∧ 1 ≤ count ∧
      (Gated lifecycle → passage.contacts = passage.logins + 1)
  | .gate =>
    lifecycle.freshDownValid = true →
      lifecycle.material.captureProfile = .twoAcquisition ∧ count = 1
  | .second =>
    lifecycle.material.captureProfile = .twoAcquisition ∧ count = 1 + imaging rest
  | .stopped =>
    lifecycle.freshDownValid = true →
      lifecycle.material.captureProfile = .singleAcquisition →
        count = turnOf lifecycle ∧ (Gated lifecycle → passage.contacts = passage.logins + 1)
  | .ended => False

/-- What holds of a lifecycle that has not failed. -/
structure Acquires (passage : Passage) (lifecycle : Lifecycle) (rest : Option Rest) (count : Nat) :
    Prop where
  attempts : Attempts lifecycle
  told : lifecycle.loginAuthorized = true → passage.authorized = true
  place : PlaceIn (era lifecycle.phase) passage lifecycle rest count

/-! ## What a move leaves alone -/

/-- The fields of the profile and of the login. -/
structure SameLogin (before after : Lifecycle) : Prop where
  gate : after.loginGate = before.loginGate
  profile : after.material.captureProfile = before.material.captureProfile
  authorized : after.loginAuthorized = before.loginAuthorized
  attempts : after.loginAttempts = before.loginAttempts

variable {seed : Block 12} {log noted heard : List Noted} {passage later : Passage}
  {story : Story} {lifecycle accepted before after : Lifecycle} {rest next : Option Rest}
  {desk : Desk} {works : List Work} {callouts : List Callout} {count : Nat}
  {control : UInt8} {body : List UInt8} {frame : List UInt8}

theorem Attempts.same (attempts : Attempts before) (same : SameLogin before after) : Attempts after := by
  obtain ⟨gate, profile, authorized, number⟩ := same
  constructor
  · rw [gate, number]
    exact attempts.ungated
  · rw [number]
    exact attempts.most
  · rw [profile, number]
    exact attempts.twice
  · rw [authorized, number]
    exact attempts.authorized
  · rw [authorized, number]
    exact attempts.unauthorized

theorem SameLogin.turnOf (same : SameLogin before after) : turnOf after = turnOf before := by
  simp only [PostTls.turnOf, same.gate, same.attempts]

theorem SameLogin.gated (same : SameLogin before after) : Gated after ↔ Gated before := by
  simp only [Gated, same.gate, same.profile]

theorem SameLogin.limit (same : SameLogin before after) : limit after = limit before := by
  simp only [PostTls.limit, same.gate, same.profile]

/-- A move to the same era, with the same delivery. -/
theorem Acquires.within (live : Acquires passage before rest count) (same : SameLogin before after)
    (within : era after.phase = era before.phase)
    (fresh : after.freshDownValid = before.freshDownValid) (images : imaging next = imaging rest)
    (contacts : touching next = touching rest) : Acquires passage after next count := by
  refine ⟨live.attempts.same same, fun authorized => live.told (same.authorized ▸ authorized), ?_⟩
  have place := live.place
  rw [within]
  generalize era before.phase = here at place ⊢
  cases here with
  | ended => exact place
  | _ =>
    simp only [PlaceIn, same.turnOf, same.gated, same.gate, same.profile, same.attempts, fresh,
      images, contacts] at place ⊢
    exact place

/-- The number of a contact's image is within the limit. -/
theorem Attempts.limit (attempts : Attempts lifecycle) : turnOf lifecycle ≤ limit lifecycle := by
  unfold turnOf PostTls.limit
  cases profile : lifecycle.material.captureProfile with
  | twoAcquisition =>
    have twice := attempts.twice profile
    split <;> simp only <;> omega
  | singleAcquisition =>
    have most := attempts.most
    split
    · simpa using most
    · simp

/-! ## What the log gains -/

/-- Entries that neither pursue a contact nor give an image. -/
def Plain (noted : List Noted) : Prop :=
  ∀ entry ∈ noted, entry.pursues = false ∧ entry.acquisition? = none

theorem Plain.images (plain : Plain noted) : images (log ++ noted) = images log := by
  have none : PostTls.images noted = [] := by
    unfold PostTls.images
    rw [List.filterMap_eq_nil_iff]
    intro entry inside
    exact (plain entry inside).2
  rw [images_append, none, List.append_nil]

theorem passage_frame (untouched : ∀ event, signalOf frame ≠ some (.touched event)) :
    passage.after (.a0 frame) = passage := by
  simp only [Passage.after]

theorem passage_touched {event : Event} (touched : signalOf frame = some (.touched event)) :
    passage.after (.a0 frame) = { passage with
      contacts := passage.contacts + 1
      granted := passage.authorized && passage.logins == passage.contacts } := by
  simp only [Passage.after, touched]

theorem untouched_of {signal : Option Signal} (heard : signalOf frame = signal)
    (other : ∀ event, signal ≠ some (.touched event)) (event : Event) :
    signalOf frame ≠ some (.touched event) := by
  rw [heard]
  exact other event

theorem Prompt.untouching {following : Phase}
    (prompt : Prompt lifecycle heard accepted control body following) :
    heard.foldl Passage.after passage = passage := by
  cases prompt with
  | d4 phase fresh ack => exact passage_frame (untouched_of (isAck_signal ack) (by simp))
  | controllerState phase state =>
    exact passage_frame (untouched_of (isControllerState_signal state) nofun)
  | nav phase seen nav => exact passage_frame (untouched_of (isNav_signal nav) (by simp))
  | threshold phase seen read => exact passage_frame (untouched_of (isThreshold_signal read) nofun)
  | baselineImage | released => rfl
  | firstSample phase baseline | secondSample phase baseline | thirdSample phase baseline =>
    exact passage_frame (untouched_of (isBaseline_signal baseline) nofun)
  | fingerUp phase up => exact passage_frame (untouched_of (isFingerUp_signal up) nofun)
  | irq80 timestamp phase allowed irq80 =>
    exact passage_frame (untouched_of (isIrq80_signal irq80) nofun)

theorem Prompt.plain {following : Phase} {packet : List UInt8}
    (prompt : Prompt lifecycle heard accepted control body following) :
    Plain (heard ++ [.submitted control packet]) := by
  cases prompt <;> simp [Plain, Noted.pursues, Noted.acquisition?]

/-- A lifecycle in a phase has come to what its era says. -/
theorem Acquires.at {phase : Phase} (acquires : Acquires passage lifecycle rest count)
    (here : lifecycle.phase = phase) : PlaceIn (era phase) passage lifecycle rest count := by
  have place := acquires.place
  rwa [here] at place

theorem Prompt.acquires {following : Phase}
    (prompt : Prompt lifecycle heard accepted control body following)
    (acquires : Acquires passage lifecycle none count) :
    Acquires passage (accepted.sentWith control following) (some .nothing) count := by
  have attempts := acquires.attempts
  cases prompt with
  | d4 phase | controllerState phase | nav phase | baselineImage phase | threshold phase
  | released phase =>
    exact acquires.within ⟨rfl, rfl, rfl, rfl⟩ (by rw [phase]; rfl) rfl rfl rfl
  | firstSample phase =>
    exact ⟨attempts.same ⟨rfl, rfl, rfl, rfl⟩, acquires.told, acquires.at phase⟩
  | secondSample phase =>
    exact acquires.within ⟨rfl, rfl, rfl, rfl⟩ (by rw [phase]; rfl) rfl rfl rfl
  | thirdSample phase =>
    obtain ⟨none, unused, contacts, logins⟩ := acquires.at phase
    refine ⟨attempts.same ⟨rfl, rfl, rfl, rfl⟩, acquires.told, ?_, nofun, fun _ => ?_⟩
    · show count = lifecycle.loginAttempts - 1
      rw [none, unused]
    · exact ⟨by rw [contacts, logins]; rfl, nofun⟩
  | irq80 timestamp phase =>
    exact acquires.within ⟨rfl, rfl, rfl, rfl⟩ (by rw [phase]; rfl) rfl rfl rfl
  | fingerUp phase =>
    exact ⟨attempts.same ⟨rfl, rfl, rfl, rfl⟩, acquires.told, acquires.at phase⟩

/-! ## Deliveries -/

/-- The numbers of the images that are still to be given. -/
def owedImages (works : List Work) : List Nat := (backs works).filterMap Callback.acquisition?

/-- The images that a move is going to give, and what the lifecycle has come to with them. -/
def Gains (passage : Passage) (after : Lifecycle) (rest : Option Rest) (callouts : List Callout)
    (count : Nat) : Prop :=
  ∃ more, owedImages [.callouts callouts] = List.range' (1 + count) more ∧
    count + more ≤ limit after ∧ (¬ Dead after → Acquires passage after rest (count + more))

theorem dead_not {phase : Phase} (here : lifecycle.phase = phase) (running : phase ≠ .terminal)
    (unstopped : phase ≠ .stop) : ¬ Dead lifecycle := by
  intro dead
  obtain ended | stopped := dead.phase
  · exact running (here.symm.trans ended)
  · exact unstopped (here.symm.trans stopped)

theorem Fallen.limit {reason : GError} (fallen : Fallen before reason after) :
    limit after = limit before := by
  simp only [PostTls.limit, fallen.gate, fallen.profile]

theorem owedImages_farewell (before : Lifecycle) (reason : GError) (later : List Callout)
    (plain : backs [.callouts later] = []) :
    owedImages [.callouts (farewell before reason ++ later)] = [] := by
  unfold owedImages
  rw [backs_farewell before reason later plain]
  rfl

/-- A move that gives no image. -/
theorem gains_none (bound : count ≤ limit after) (none : owedImages [.callouts callouts] = [])
    (alive : ¬ Dead after → Acquires passage after rest count) :
    Gains passage after rest callouts count :=
  ⟨0, none, bound, alive⟩

/-- A failure gives nothing more. -/
theorem Fallen.gains {reason : GError} (fallen : Fallen before reason after)
    (bound : count ≤ PostTls.limit before) :
    Gains passage after rest (farewell before reason) count := by
  have none := owedImages_farewell before reason [] (by simp)
  rw [List.append_nil] at none
  exact gains_none (fallen.limit ▸ bound) none fun alive => absurd fallen.dead alive

theorem Delivered.gains {rest : Rest} (delivered : Delivered lifecycle noted after callouts rest)
    (bound : count ≤ limit lifecycle)
    (alive : ¬ Dead lifecycle → Acquires passage lifecycle none count)
    (agrees : ¬ Dead lifecycle → Agrees story lifecycle none) :
    Gains (noted.foldl Passage.after passage) after (some rest) callouts count := by
  -- only the two images count as acquired; every other delivery leaves the number as it is
  cases delivered with
  | ignored =>
    refine gains_none bound rfl fun running => ?_
    exact (alive running).within ⟨rfl, rfl, rfl, rfl⟩ rfl rfl rfl rfl
  | rejectedFrame frame fallen => exact fallen.gains bound
  | rejectedPlaintext octets fallen => exact fallen.gains bound
  | unsent prompt fallen => exact fallen.gains bound
  | @sent _ accepted control _ _ following prompt sends =>
    have running : ¬ Dead lifecycle := fun dead => dead.unprompted prompt
    have same : limit (accepted.sentWith control following) = limit lifecycle := by
      simp only [limit, Lifecycle.sentWith, prompt.alike.gate, prompt.alike.profile]
    refine gains_none (same ▸ bound) rfl fun _ => ?_
    rw [List.foldl_append, prompt.untouching]
    exact prompt.acquires (alive running)
  | acked advances fresh ack =>
    obtain ⟨here, running, unstopped⟩ := afterAck_stage advances
    have running := alive (dead_not rfl running unstopped)
    have untouched := @passage_frame passage _ (untouched_of (isAck_signal ack) (by simp))
    refine gains_none bound rfl fun _ => ?_
    rw [List.foldl_cons, List.foldl_nil, untouched]
    exact running.within ⟨rfl, rfl, rfl, rfl⟩ (afterAck_era advances).1 rfl rfl rfl
  | rearmed phase fresh ack =>
    have running := alive (dead_not phase (by simp) (by simp))
    have untouched := @passage_frame passage _ (untouched_of (isAck_signal ack) (by simp))
    refine gains_none bound rfl fun _ => ?_
    rw [List.foldl_cons, List.foldl_nil, untouched]
    exact running.within ⟨rfl, rfl, rfl, rfl⟩ (by rw [phase]; rfl) rfl rfl rfl
  | handoff accepted error phase fresh ack =>
    have running := alive (dead_not phase (by simp) (by simp))
    have tables : story.armed = true ∧ lifecycle.freshDownValid = false :=
      (agrees (dead_not phase (by simp) (by simp))).at phase
    have untouched := @passage_frame passage _ (untouched_of (isAck_signal ack) (by simp))
    refine gains_none bound rfl fun _ => ?_
    rw [List.foldl_cons, List.foldl_nil, untouched]
    refine ⟨running.attempts.same ⟨rfl, rfl, rfl, rfl⟩, running.told, fun fresh => ?_⟩
    cases tables.2.symm.trans fresh
  | armed phase fresh ack =>
    have running := alive (dead_not phase (by simp) (by simp))
    have untouched := @passage_frame passage _ (untouched_of (isAck_signal ack) (by simp))
    refine gains_none bound ?_ fun _ => ?_
    · split <;> rfl
    · rw [List.foldl_cons, List.foldl_nil, untouched]
      exact running.within ⟨rfl, rfl, rfl, rfl⟩ (by rw [phase]; rfl) rfl rfl rfl
  -- behind a login gate the contact is one that was granted
  | @firstFinger _ _ table phase allowed down =>
    have running := alive (dead_not phase (by simp) (by simp))
    obtain ⟨number, -, passes⟩ := running.at phase
    refine gains_none bound rfl fun _ => ?_
    rw [List.foldl_cons, List.foldl_nil, passage_touched (isFingerDown_signal down)]
    refine ⟨running.attempts.same ⟨rfl, rfl, rfl, rfl⟩, running.told, ?_⟩
    show PlaceIn (era lifecycle.phase) _ _ _ _
    rw [phase]
    refine ⟨number, fun _ gate => running.attempts.authorized (allowed gate), fun gated => ?_⟩
    obtain ⟨same, -⟩ := passes gated
    have same : passage.contacts = passage.logins := same
    simp [touching, same, running.told (allowed gated.1)]
  | secondFinger phase allowed down =>
    have running := alive (dead_not phase (by simp) (by simp))
    obtain ⟨two, number⟩ := running.at phase
    refine gains_none bound rfl fun _ => ?_
    rw [List.foldl_cons, List.foldl_nil, passage_touched (isFingerDown_signal down)]
    refine ⟨running.attempts, running.told, ?_⟩
    rw [phase]
    exact ⟨two, number⟩
  | chunk slot =>
    have running : ¬ Dead lifecycle := by
      obtain phase | phase | phase := slot <;> exact dead_not phase (by simp) (by simp)
    refine gains_none bound rfl fun _ => ?_
    exact (alive running).within ⟨rfl, rfl, rfl, rfl⟩ rfl rfl rfl rfl
  | @firstImage _ samples accepted error phase =>
    have running := alive (dead_not phase (by simp) (by simp))
    obtain ⟨number, least, passes⟩ := running.at phase
    have number : count + 1 = turnOf lifecycle := number
    have within := running.attempts.limit
    refine ⟨1, ?_, by show count + 1 ≤ limit lifecycle; omega, fun _ => ?_⟩
    · show [turnOf lifecycle] = [1 + count]
      rw [← number, Nat.add_comm]
    · refine ⟨running.attempts.same ⟨rfl, rfl, rfl, rfl⟩, running.told, ?_⟩
      show PlaceIn (era lifecycle.phase) _ _ _ _
      rw [phase]
      exact ⟨congrArg (· + 1) number, least, passes⟩
  | secondImage accepted error phase =>
    have running := alive (dead_not phase (by simp) (by simp))
    obtain ⟨two, number⟩ := running.at phase
    have number : count = 1 := number
    subst number
    refine ⟨1, rfl, ?_, fun _ => ?_⟩
    · show 2 ≤ limit lifecycle
      simp [limit, two]
    · refine ⟨running.attempts.same ⟨rfl, rfl, rfl, rfl⟩, running.told, ?_⟩
      show PlaceIn (era lifecycle.phase) _ _ _ _
      rw [phase]
      exact ⟨two, rfl⟩
  | @contactOver frame phase nav =>
    have running := alive (dead_not phase (by simp) (by simp))
    obtain ⟨number, least, passes⟩ := running.at phase
    have untouched := @passage_frame passage _ (untouched_of (isNav_signal nav) (by simp))
    refine gains_none bound rfl fun _ => ?_
    rw [List.foldl_cons, List.foldl_nil, untouched]
    refine ⟨running.attempts.same ⟨rfl, rfl, rfl, rfl⟩, running.told, ?_⟩
    cases profile : lifecycle.material.captureProfile with
    | singleAcquisition => exact fun _ _ => ⟨number, passes⟩
    | twoAcquisition =>
      refine fun _ => ⟨profile, ?_⟩
      have twice := running.attempts.twice profile
      have number : count = turnOf lifecycle := number
      unfold turnOf at number
      split at number <;> omega

/-! ## The ends of deliveries, and calls -/

theorem Finished.gains {rest : Rest} (finished : Finished lifecycle rest noted after callouts)
    (bound : count ≤ limit lifecycle)
    (alive : ¬ Dead lifecycle → Acquires passage lifecycle (some rest) count)
    (agrees : ¬ Dead lifecycle → Agrees story lifecycle (some rest)) :
    Gains (noted.foldl Passage.after passage) after none callouts count := by
  cases finished with
  | nothing _ idle =>
    refine gains_none bound rfl fun running => ?_
    have acquires := alive running
    obtain ended | light := idle
    · exact (acquires.at ended).elim
    · refine acquires.within ⟨rfl, rfl, rfl, rfl⟩ rfl rfl ?_ ?_
      · cases rest <;> first | rfl | cases light
      · cases rest <;> first | rfl | cases light
  | failed fallen => exact fallen.gains bound
  | @imageCommand second packet sends =>
    have running : ¬ Dead lifecycle := fun dead => dead.unsent sends
    have acquires := alive running
    refine gains_none bound rfl fun _ => ?_
    cases second with
    | false =>
      obtain ⟨phase, -, -⟩ := (agrees running).waits
      obtain ⟨number, granted, passes⟩ := acquires.at phase
      have number : count = lifecycle.loginAttempts - 1 := number
      refine ⟨acquires.attempts.same ⟨rfl, rfl, rfl, rfl⟩, acquires.told, ?_, ?_,
        fun gated => (passes gated).1⟩
      · show count + 1 = turnOf lifecycle
        cases gate : lifecycle.loginGate with
        | false =>
          have unused := acquires.attempts.ungated gate
          simp only [turnOf, gate, Bool.false_eq_true, if_false]
          omega
        | true =>
          have least := granted rfl gate
          simp only [turnOf, gate, if_true]
          omega
      · show 1 ≤ turnOf lifecycle
        unfold turnOf
        split
        · exact granted rfl ‹_›
        · exact Nat.le_refl 1
    | true =>
      have phase : lifecycle.phase = .secondIrq2 := (agrees running).waits
      obtain ⟨two, number⟩ := acquires.at phase
      exact ⟨acquires.attempts.same ⟨rfl, rfl, rfl, rfl⟩, acquires.told, two, number⟩
  | firstImage sends =>
    have running : ¬ Dead lifecycle := fun dead => dead.unsent sends
    have acquires := alive running
    have phase : lifecycle.phase = .firstB0 := (agrees running).waits
    obtain ⟨number, least, passes⟩ := acquires.at phase
    have number : count + 1 = turnOf lifecycle + 1 := number
    refine gains_none bound rfl fun _ => ?_
    refine ⟨acquires.attempts.same ⟨rfl, rfl, rfl, rfl⟩, acquires.told, ?_, ?_, passes⟩
    · exact Nat.succ.inj number
    · omega
  | secondImage =>
    refine gains_none bound rfl fun lasting => ?_
    have running : ¬ Dead lifecycle := fun dead => lasting ⟨.inr rfl, dead.unlearned, dead.stale⟩
    have acquires := alive running
    have phase : lifecycle.phase = .secondB0 := (agrees running).waits
    obtain ⟨two, -⟩ := acquires.at phase
    refine ⟨acquires.attempts.same ⟨rfl, rfl, rfl, rfl⟩, acquires.told, fun _ single => ?_⟩
    cases two.symm.trans single
  | rearm phase awaits fresh first sends =>
    have acquires := alive (dead_not phase (by simp) (by simp))
    obtain ⟨two, number⟩ := acquires.at phase fresh
    refine gains_none bound rfl fun _ => ?_
    exact ⟨acquires.attempts.same ⟨rfl, rfl, rfl, rfl⟩, acquires.told, two, number⟩

/-- Where a lifecycle is not busy, no image and no contact waits. -/
theorem Agrees.unbusy (agrees : Agrees story lifecycle rest) (free : lifecycle.phase.busy = false) :
    imaging rest = 0 ∧ touching rest = 0 := by
  have waits := agrees.waits
  match rest with
  | none | some .nothing | some .rearm | some (.handedOff _ _) => exact ⟨rfl, rfl⟩
  | some (.imageCommand false) =>
    rw [waits.1] at free
    cases free
  | some (.imageCommand true) | some (.firstImage _ _) | some (.secondImage _ _) =>
    have phase : lifecycle.phase = _ := waits
    rw [phase] at free
    cases free

/-- A login that follows another one. -/
theorem Acquires.again (acquires : Acquires passage before rest count)
    (agrees : Agrees story before rest) (gate : before.loginGate = true)
    (authorized : before.loginAuthorized = true) (below : before.loginAttempts < 3)
    (phase : before.phase = .stop) (fresh : before.freshDownValid = true)
    (profile : before.material.captureProfile = .singleAcquisition)
    (number : after.loginAttempts = before.loginAttempts + 1)
    (gates : after.loginGate = before.loginGate)
    (authorizes : after.loginAuthorized = before.loginAuthorized)
    (profiles : after.material.captureProfile = before.material.captureProfile)
    (early : after.phase = .firstArm ∨ after.phase = .rearmGate ∧ after.freshDownValid = false) :
    Acquires { passage with logins := passage.logins + 1 } after rest count := by
  obtain ⟨turn, passes⟩ := acquires.at phase fresh profile
  obtain ⟨-, uncontacted⟩ := agrees.unbusy (by rw [phase]; rfl)
  have turn : count = before.loginAttempts := by simpa [turnOf, gate] using turn
  refine ⟨⟨?_, ?_, ?_, ?_, ?_⟩, ?_, ?_⟩
  · rw [gates, gate]
    nofun
  · omega
  · rw [profiles, profile]
    nofun
  · omega
  · rw [authorizes, authorized]
    nofun
  · rw [authorizes]
    exact acquires.told
  · obtain first | ⟨again, stale⟩ := early
    · rw [first]
      refine ⟨by omega, fun contacting => ?_, fun _ => ?_⟩
      · rw [uncontacted] at contacting
        cases contacting
      · rw [uncontacted]
        exact ⟨passes ⟨gate, profile⟩, nofun⟩
    · rw [again]
      intro fresh
      cases stale.symm.trans fresh

theorem Performed.gains (performed : Performed lifecycle noted after callouts)
    (bound : count ≤ limit lifecycle)
    (alive : ¬ Dead lifecycle → Acquires passage lifecycle rest count)
    (agrees : ¬ Dead lifecycle → Agrees story lifecycle rest) :
    Gains (noted.foldl Passage.after passage) after rest callouts count := by
  have stays {same : Lifecycle} {more : List Callout} (login : SameLogin lifecycle same)
      (phase : same.phase = lifecycle.phase)
      (learned : same.learnedFdtValid = lifecycle.learnedFdtValid)
      (fresh : same.freshDownValid = lifecycle.freshDownValid)
      (none : owedImages [.callouts more] = []) : Gains passage same rest more count := by
    refine gains_none (login.limit ▸ bound) none fun running => ?_
    refine (alive fun dead => running ?_).within login (congrArg era phase) fresh rfl rfl
    exact ⟨phase ▸ dead.phase, learned.trans dead.unlearned, fresh.trans dead.stale⟩
  cases performed with
  | nothing => exact stays ⟨rfl, rfl, rfl, rfl⟩ rfl rfl rfl rfl
  | refused => exact stays ⟨rfl, rfl, rfl, rfl⟩ rfl rfl rfl rfl
  | configured phase handoff gate kept =>
    have running := alive (dead_not phase (by simp) (by simp))
    obtain ⟨rfl, unused, uncontacted⟩ := running.at phase
    refine gains_none (Nat.zero_le _) rfl fun _ => ?_
    refine ⟨⟨fun _ => unused, running.attempts.most, running.attempts.twice,
      running.attempts.authorized, running.attempts.unauthorized⟩, running.told, ?_⟩
    show PlaceIn (era lifecycle.phase) _ _ _ _
    rw [phase]
    exact ⟨rfl, unused, uncontacted⟩
  | started phase sends =>
    have running := alive (dead_not phase (by simp) (by simp))
    refine gains_none bound rfl fun _ => ?_
    exact running.within ⟨rfl, rfl, rfl, rfl⟩ (by rw [phase]; rfl) rfl rfl rfl
  | unstarted error phase unsent =>
    have running := alive (dead_not phase (by simp) (by simp))
    obtain ⟨-, rfl⟩ | ⟨-, -, rfl⟩ := unsent
    · exact stays ⟨rfl, rfl, rfl, rfl⟩ rfl rfl rfl rfl
    · refine gains_none bound rfl fun _ => ?_
      exact running.within ⟨rfl, rfl, rfl, rfl⟩ (by rw [phase]; rfl) rfl rfl rfl
  | failed fallen => exact fallen.gains bound
  | awaits => exact stays ⟨rfl, rfl, rfl, rfl⟩ rfl rfl rfl rfl
  | rearmed phase fresh first sends =>
    have running := alive (dead_not phase (by simp) (by simp))
    obtain ⟨two, number⟩ := running.at phase fresh
    obtain ⟨unimaged, -⟩ := (agrees (dead_not phase (by simp) (by simp))).unbusy (by rw [phase]; rfl)
    refine gains_none bound rfl fun _ => ?_
    refine ⟨running.attempts.same ⟨rfl, rfl, rfl, rfl⟩, running.told, two, ?_⟩
    rw [unimaged]
    exact number
  | unrearmed phase fallen => exact fallen.gains bound
  | authorized gate first phase =>
    have running := alive (dead_not phase (by simp) (by simp))
    have unused := running.attempts.unauthorized first
    obtain ⟨number, granted, passes⟩ := running.at phase
    refine gains_none bound rfl fun _ => ?_
    refine ⟨⟨fun ungated => ?_, by simp, by simp, fun _ => Nat.le_refl 1, nofun⟩, fun _ => rfl, ?_⟩
    · cases gate.symm.trans ungated
    · show PlaceIn (era lifecycle.phase) _ _ _ _
      rw [phase]
      refine ⟨?_, fun _ _ => Nat.le_refl 1, passes⟩
      show count = 1 - 1
      have number : count = lifecycle.loginAttempts - 1 := number
      omega
  | nextLogin timestamp gate authorized below phase fresh profile drained prepared sends =>
    have waiting : ¬ Dead lifecycle := fun dead => by cases dead.stale.symm.trans fresh
    subst prepared
    refine gains_none bound rfl fun _ => ?_
    exact (alive waiting).again (agrees waiting) gate authorized below phase fresh profile rfl rfl
      rfl rfl (.inl rfl)
  | noNextLogin timestamp error gate authorized below phase fresh profile drained prepared unsent =>
    have waiting : ¬ Dead lifecycle := fun dead => by cases dead.stale.symm.trans fresh
    subst prepared
    obtain ⟨-, rfl⟩ | ⟨-, -, rfl⟩ := unsent
    · refine gains_none bound rfl fun _ => ?_
      exact (alive waiting).again (agrees waiting) gate authorized below phase fresh profile rfl rfl
        rfl rfl (.inr ⟨rfl, rfl⟩)
    · refine gains_none bound rfl fun _ => ?_
      exact (alive waiting).again (agrees waiting) gate authorized below phase fresh profile rfl rfl
        rfl rfl (.inl rfl)
  | outDone => exact stays ⟨rfl, rfl, rfl, rfl⟩ rfl rfl rfl rfl
  | outFailed generation took fallen =>
    refine gains_none ?_ (owedImages_farewell lifecycle _ _ (by simp)) fun alive =>
      absurd fallen.dead alive
    rw [fallen.limit]
    exact bound
  | outIgnored => exact stays ⟨rfl, rfl, rfl, rfl⟩ rfl rfl rfl rfl
  | fenced => exact stays ⟨rfl, rfl, rfl, rfl⟩ rfl rfl rfl rfl
  | received callouts same due =>
    obtain rfl | rfl := due
    · exact stays ⟨rfl, rfl, rfl, rfl⟩ rfl rfl rfl rfl
    · exact stays ⟨rfl, rfl, rfl, rfl⟩ rfl rfl rfl rfl

/-! ## What is still to be called -/

/-- A contact or an image. -/
def Callback.acquires : Callback → Bool
  | .image _ _ | .fingerDown => true
  | _ => false

/-- Nothing of an acquisition is still to be called. -/
def Spent (works : List Work) : Prop := ∀ callback ∈ backs works, callback.acquires = false

/-- What is still to be called of an acquisition comes before the end of its delivery. -/
def Lined : List Work → Prop
  | [] => True
  | .callouts _ :: works => Lined works
  | .resume :: works => Spent works

@[simp] theorem spent_append {works more : List Work} :
    Spent (works ++ more) ↔ Spent works ∧ Spent more := by
  simp only [Spent, backs_append, List.mem_append]
  constructor
  · intro spent
    exact ⟨fun callback inside => spent callback (.inl inside),
      fun callback inside => spent callback (.inr inside)⟩
  · rintro ⟨first, second⟩ callback (inside | inside)
    · exact first callback inside
    · exact second callback inside

theorem Spent.lined (spent : Spent works) : Lined works := by
  induction works with
  | nil => trivial
  | cons work works ih =>
    obtain ⟨-, rest⟩ := spent_append.mp (List.singleton_append ▸ spent : Spent ([work] ++ works))
    cases work with
    | callouts callouts => exact ih rest
    | resume => exact rest

theorem Spent.images (spent : Spent works) : owedImages works = [] := by
  unfold owedImages
  rw [List.filterMap_eq_nil_iff]
  intro callback inside
  have other := spent callback inside
  cases callback <;> first | rfl | cases other

theorem Spent.unreported (spent : Spent works) : .fingerDown ∉ backs works := by
  intro inside
  cases spent _ inside

theorem owedImages_append (works more : List Work) :
    owedImages (works ++ more) = owedImages works ++ owedImages more := by
  simp [owedImages]

theorem spent_farewell_before (before : Lifecycle) (reason : GError) {later : List Callout}
    (plain : backs [.callouts later] = []) :
    Spent [.callouts (farewell before reason ++ later)] := by
  intro callback inside
  rw [backs_farewell before reason later plain] at inside
  cases List.mem_singleton.mp inside
  rfl

theorem spent_farewell (before : Lifecycle) (reason : GError) :
    Spent [.callouts (farewell before reason)] := by
  have spent := @spent_farewell_before before reason [] (by simp)
  rwa [List.append_nil] at spent

/-! ## The invariant -/

/-- A contact is pursued behind its grant. -/
def Pursues (before : List Noted) (entry : Noted) : Prop :=
  entry.pursues = true → (passageOf before).granted = true

/-- The invariant of the log, the desk and the work that is still to be done. -/
structure Acquiring (seed : Block 12) (log : List Noted) (desk : Desk) (works : List Work) :
    Prop where
  tells : Tells seed log desk
  lined : Lined works
  idle : desk.delivery = none → Spent works
  begun : desk.lifecycle.phase = .notStarted →
    (∀ entry ∈ log, entry.pursues = false) ∧ Spent works
  pursued : Gated desk.lifecycle → Justified Pursues log
  due : Gated desk.lifecycle → .fingerDown ∈ backs works → (passageOf log).granted = true
  counted : ∃ count, images log ++ owedImages works = List.range' 1 count ∧
    count ≤ limit desk.lifecycle ∧
    (¬ Dead desk.lifecycle → Acquires (passageOf log) desk.lifecycle desk.delivery count)

theorem Tells.alive (tells : Tells seed log desk) (running : ¬ Dead desk.lifecycle) :
    Agrees (storyOf seed log) desk.lifecycle desk.delivery :=
  tells.state.resolve_right fun dead => running dead.1

theorem Plain.pursued (plain : Plain noted) (pursued : Justified Pursues log) :
    Justified Pursues (log ++ noted) :=
  pursued.append_free fun entry inside _ pursues => by
    rw [(plain entry inside).1] at pursues
    cases pursues

theorem Delivered.plain {rest : Rest} (delivered : Delivered lifecycle noted after callouts rest) :
    Plain noted := by
  cases delivered with
  | sent prompt sends => exact prompt.plain
  | unsent prompt fallen =>
    intro entry inside
    obtain heard | last := List.mem_append.mp inside
    · exact (@Prompt.plain _ _ _ _ _ _ [] prompt) entry (List.mem_append_left _ heard)
    · cases List.mem_singleton.mp last
      exact ⟨rfl, rfl⟩
  | _ => simp [Plain, Noted.pursues, Noted.acquisition?]

theorem Prompt.onward {following : Phase}
    (prompt : Prompt lifecycle heard accepted control body following) :
    following ≠ .notStarted := by
  cases prompt <;> nofun

theorem Delivered.started {rest : Rest}
    (delivered : Delivered lifecycle noted after callouts rest) : after.phase ≠ .notStarted := by
  have elsewhere {phase : Phase} (here : lifecycle.phase = phase) (begun : phase ≠ .notStarted) :
      lifecycle.phase ≠ .notStarted := by rwa [here]
  cases delivered with
  | ignored idle => obtain phase | phase := idle <;> exact elsewhere phase nofun
  | rejectedFrame frame fallen => rw [fallen.phase]; nofun
  | rejectedPlaintext octets fallen => rw [fallen.phase]; nofun
  | unsent prompt fallen => rw [fallen.phase]; nofun
  | sent prompt sends => exact prompt.onward
  | @acked frame next advances =>
    show next ≠ .notStarted
    revert advances
    cases lifecycle.phase <;> intro advances <;> cases advances <;> nofun
  | rearmed | handoff | armed => nofun
  | firstFinger phase => exact elsewhere phase nofun
  | secondFinger phase => exact elsewhere phase nofun
  | chunk slot => obtain phase | phase | phase := slot <;> exact elsewhere phase nofun
  | firstImage accepted error phase => exact elsewhere phase nofun
  | secondImage accepted error phase => exact elsewhere phase nofun
  | contactOver phase nav =>
    show (if _ then Phase.stop else .rearmGate) ≠ _
    split <;> nofun

/-- A contact that is going to be reported began behind its grant. -/
theorem Delivered.due {rest : Rest} (delivered : Delivered lifecycle noted after callouts rest)
    (alive : ¬ Dead lifecycle → Acquires passage lifecycle none count) (gated : Gated after)
    (reported : .fingerDown ∈ backs [.callouts callouts]) :
    (noted.foldl Passage.after passage).granted = true := by
  cases delivered with
  | firstFinger phase allowed down =>
    have running := alive (dead_not phase (by simp) (by simp))
    obtain ⟨-, -, passes⟩ := running.at phase
    rw [List.foldl_cons, List.foldl_nil, passage_touched (isFingerDown_signal down)]
    have same : passage.contacts = passage.logins := (passes gated).1
    simp [running.told (allowed gated.1), same]
  | secondFinger phase allowed down =>
    have running := alive (dead_not phase (by simp) (by simp))
    obtain ⟨two, -⟩ := running.at phase
    cases two.symm.trans gated.2
  | rejectedFrame | rejectedPlaintext | unsent =>
    exact absurd reported (spent_farewell lifecycle _).unreported
  | armed =>
    split at reported
    · simp at reported
    · simp at reported
  | _ => simp at reported

theorem Delivered.gated {rest : Rest} (delivered : Delivered lifecycle noted after callouts rest)
    (gated : Gated after) : Gated lifecycle := by
  have fell {reason : GError} (fallen : Fallen lifecycle reason after) : Gated lifecycle :=
    ⟨fallen.gate ▸ gated.1, fallen.profile ▸ gated.2⟩
  cases delivered with
  | rejectedFrame frame fallen => exact fell fallen
  | rejectedPlaintext octets fallen => exact fell fallen
  | unsent prompt fallen => exact fell fallen
  | sent prompt sends => exact ⟨prompt.alike.gate ▸ gated.1, prompt.alike.profile ▸ gated.2⟩
  | _ => exact gated

/-- The images that were given, those that are still to be given, and those of a move. -/
theorem images_gained (plain : Plain noted) (spent : Spent works) {more : Nat}
    (given : images log ++ owedImages works = List.range' 1 count)
    (owed : owedImages [.callouts callouts] = List.range' (1 + count) more) :
    images (log ++ noted) ++ owedImages (.callouts callouts :: works) =
      List.range' 1 (count + more) := by
  rw [plain.images, ← List.singleton_append, owedImages_append, owed, spent.images, List.append_nil]
  rw [spent.images, List.append_nil] at given
  rw [given]
  exact List.range'_append_1

theorem Acquiring.delivered {rest : Rest} (acquiring : Acquiring seed log desk works)
    (idle : desk.delivery = none) (delivered : Delivered desk.lifecycle noted after callouts rest) :
    Acquiring seed (log ++ noted) ⟨after, some rest⟩ (.callouts callouts :: .resume :: works) := by
  have spent := acquiring.idle idle
  have behind : Spent (.resume :: works) := spent
  obtain ⟨count, given, bound, alive⟩ := acquiring.counted
  have agrees := fun running => acquiring.tells.alive running
  rw [idle] at alive agrees
  obtain ⟨more, owed, within, acquires⟩ := delivered.gains bound alive agrees
  refine ⟨acquiring.tells.delivered idle delivered, spent, nofun,
    fun fresh => absurd fresh delivered.started,
    fun gated => delivered.plain.pursued (acquiring.pursued (delivered.gated gated)),
    fun gated reported => ?_, count + more, images_gained delivered.plain behind given owed, within,
    ?_⟩
  · rw [passageOf_append]
    refine delivered.due alive gated ?_
    rw [← List.singleton_append, backs_append] at reported
    exact (List.mem_append.mp reported).resolve_right behind.unreported
  · rw [passageOf_append]
    exact acquires

theorem Performed.plain (performed : Performed lifecycle noted after callouts) : Plain noted := by
  cases performed <;> simp [Plain, Noted.pursues, Noted.acquisition?]

theorem Performed.spent (performed : Performed lifecycle noted after callouts) :
    Spent [.callouts callouts] := by
  cases performed with
  | failed | unrearmed => exact spent_farewell lifecycle _
  | outFailed => exact spent_farewell_before lifecycle _ (by simp)
  | received callouts same due => obtain rfl | rfl := due <;> simp [Spent]
  | _ => simp [Spent]

theorem Performed.granted (performed : Performed lifecycle noted after callouts) :
    (noted.foldl Passage.after passage).granted = passage.granted := by
  cases performed <;> rfl

theorem Performed.gated (performed : Performed lifecycle noted after callouts)
    (gated : Gated after) : Gated lifecycle ∨ lifecycle.phase = .notStarted := by
  have fell {reason : GError} (fallen : Fallen lifecycle reason after) : Gated lifecycle :=
    ⟨fallen.gate ▸ gated.1, fallen.profile ▸ gated.2⟩
  cases performed with
  | configured phase => exact .inr phase
  | unstarted error phase => exact .inr phase
  | failed fallen => exact .inl (fell fallen)
  | unrearmed phase fallen => exact .inl (fell fallen)
  | outFailed generation took fallen =>
    exact .inl ⟨fallen.gate ▸ gated.1, fallen.profile ▸ gated.2⟩
  | nextLogin timestamp gate authorized below phase fresh profile drained prepared => exact .inl ⟨gate, profile⟩
  | noNextLogin timestamp error gate authorized below phase fresh profile => exact .inl ⟨gate, profile⟩
  | _ => exact .inl gated

theorem Performed.unbegun (performed : Performed lifecycle noted after callouts)
    (fresh : after.phase = .notStarted) : lifecycle.phase = .notStarted := by
  cases performed with
  | configured phase => exact phase
  | started phase => exact phase
  | unstarted error phase => exact phase
  | rearmed | nextLogin => cases fresh
  | failed fallen => cases fallen.phase.symm.trans fresh
  | unrearmed phase fallen => cases fallen.phase.symm.trans fresh
  | outFailed generation took fallen => cases fallen.phase.symm.trans fresh
  | noNextLogin timestamp error gate authorized below phase valid profile drained prepared unsent =>
    subst prepared
    obtain ⟨-, rfl⟩ | ⟨-, -, rfl⟩ := unsent <;> cases fresh
  | _ => exact fresh

theorem Acquiring.performed (acquiring : Acquiring seed log desk works)
    (performed : Performed desk.lifecycle noted after callouts) :
    Acquiring seed (log ++ noted) { desk with lifecycle := after } (.callouts callouts :: works) := by
  have plain := performed.plain
  have none := performed.spent
  obtain ⟨count, given, bound, alive⟩ := acquiring.counted
  obtain ⟨more, owed, within, acquires⟩ :=
    performed.gains bound alive fun running => acquiring.tells.alive running
  have same : owedImages (.callouts callouts :: works) = owedImages works := by
    rw [← List.singleton_append, owedImages_append, none.images, List.nil_append]
  have nothing : more = 0 := by
    rw [none.images] at owed
    simpa using owed.symm
  subst nothing
  refine ⟨acquiring.tells.performed performed, acquiring.lined,
    fun idle => spent_append.mpr ⟨none, acquiring.idle idle⟩, fun fresh => ?_, fun gated => ?_,
    fun gated reported => ?_, count, ?_, within, ?_⟩
  · obtain ⟨unpursued, spent⟩ := acquiring.begun (performed.unbegun fresh)
    refine ⟨fun entry inside => ?_, spent_append.mpr ⟨none, spent⟩⟩
    obtain early | late := List.mem_append.mp inside
    · exact unpursued entry early
    · exact (plain entry late).1
  · refine plain.pursued ?_
    obtain gated | fresh := performed.gated gated
    · exact acquiring.pursued gated
    · intro before entry after split pursues
      have unpursued := (acquiring.begun fresh).1 entry (by simp [split])
      cases unpursued.symm.trans pursues
  · have reported : .fingerDown ∈ backs works := by
      rw [← List.singleton_append, backs_append] at reported
      exact (List.mem_append.mp reported).resolve_left none.unreported
    rw [passageOf_append, performed.granted]
    obtain gated | fresh := performed.gated gated
    · exact acquiring.due gated reported
    · exact absurd reported (acquiring.begun fresh).2.unreported
  · rw [plain.images, same]
    exact given
  · rw [passageOf_append]
    exact acquires

theorem Finished.spent {rest : Rest} (finished : Finished lifecycle rest noted after callouts) :
    Spent [.callouts callouts] := by
  cases finished with
  | failed => exact spent_farewell lifecycle _
  | _ => simp [Spent]

theorem Finished.gated {rest : Rest} (finished : Finished lifecycle rest noted after callouts)
    (gated : Gated after) : Gated lifecycle := by
  cases finished with
  | failed fallen => exact ⟨fallen.gate ▸ gated.1, fallen.profile ▸ gated.2⟩
  | _ => exact gated

theorem Finished.unbegun {rest : Rest} (finished : Finished lifecycle rest noted after callouts)
    (fresh : after.phase = .notStarted) :
    lifecycle.phase = .notStarted ∧ ∀ entry ∈ noted, entry.pursues = false := by
  cases finished with
  | nothing => exact ⟨fresh, by simp⟩
  | failed fallen => cases fallen.phase.symm.trans fresh
  | @imageCommand second => cases second <;> cases fresh
  | firstImage | secondImage | rearm => cases fresh

/-- What is sent at the end of a delivery pursues a contact behind its grant. -/
theorem Finished.pursued {rest : Rest} (finished : Finished lifecycle rest noted after callouts)
    (gated : Gated lifecycle) (pursued : Justified Pursues log)
    (alive : ¬ Dead lifecycle → Acquires (passageOf log) lifecycle (some rest) count)
    (agrees : ¬ Dead lifecycle → Agrees story lifecycle (some rest)) :
    Justified Pursues (log ++ noted) := by
  cases finished with
  | @imageCommand second packet sends =>
    refine justified_concat.mpr ⟨pursued, fun _ => ?_⟩
    have running : ¬ Dead lifecycle := fun dead => dead.unsent sends
    have acquires := alive running
    cases second with
    | false =>
      obtain ⟨-, -, passes⟩ := acquires.at (agrees running).waits.1
      exact (passes gated).2 rfl
    | true =>
      have phase : lifecycle.phase = .secondIrq2 := (agrees running).waits
      obtain ⟨two, -⟩ := acquires.at phase
      cases two.symm.trans gated.2
  | _ => exact Plain.pursued (by simp [Plain, Noted.pursues, Noted.acquisition?]) pursued

theorem Finished.noted_images {rest : Rest}
    (finished : Finished lifecycle rest noted after callouts) :
    images (log ++ noted) = images log := by
  rw [images_append]
  cases finished <;> simp [images, Noted.acquisition?]

theorem Acquiring.finished {rest : Rest} (acquiring : Acquiring seed log desk (.resume :: works))
    (waits : desk.delivery = some rest)
    (finished : Finished desk.lifecycle rest noted after callouts) :
    Acquiring seed (log ++ noted) ⟨after, none⟩ (.callouts callouts :: works) := by
  have none := finished.spent
  have behind : Spent works := acquiring.lined
  have spent : Spent (.callouts callouts :: works) := spent_append.mpr ⟨none, behind⟩
  obtain ⟨count, given, bound, alive⟩ := acquiring.counted
  have agrees := fun running => acquiring.tells.alive running
  rw [waits] at alive agrees
  obtain ⟨more, owed, within, acquires⟩ := finished.gains bound alive agrees
  have nothing : more = 0 := by
    rw [none.images] at owed
    simpa using owed.symm
  subst nothing
  refine ⟨acquiring.tells.finished waits finished, behind.lined, fun _ => spent, fun fresh => ?_,
    fun gated => finished.pursued (finished.gated gated) (acquiring.pursued (finished.gated gated))
      alive agrees,
    fun _ reported => absurd reported spent.unreported, count, ?_, within, ?_⟩
  · obtain ⟨phase, plain⟩ := finished.unbegun fresh
    refine ⟨fun entry inside => ?_, spent⟩
    obtain early | late := List.mem_append.mp inside
    · exact (acquiring.begun phase).1 entry early
    · exact plain entry late
  · rw [finished.noted_images, spent.images, List.append_nil]
    rw [show owedImages (.resume :: works) = [] from behind.images, List.append_nil] at given
    exact given
  · rw [passageOf_append]
    exact acquires

/-! ## Callouts -/

/-- Work that has the same callbacks, and no delivery that ends earlier. -/
theorem Acquiring.same {more : List Work} (acquiring : Acquiring seed log desk works)
    (same : backs more = backs works) (lined : Lined more) : Acquiring seed log desk more := by
  have spent : Spent works → Spent more := fun spent callback inside =>
    spent callback (same ▸ inside)
  obtain ⟨count, given, bound, alive⟩ := acquiring.counted
  refine ⟨acquiring.tells, lined, fun idle => spent (acquiring.idle idle),
    fun fresh => (acquiring.begun fresh).imp id spent, acquiring.pursued, ?_, count, ?_, bound, alive⟩
  · rw [same]
    exact acquiring.due
  · unfold owedImages at given ⊢
    rw [same]
    exact given

/-- An entry that says nothing of an acquisition, with the backend as it may be then. -/
theorem Acquiring.unmoved {entry : Noted} {backend : Backend Owner}
    (acquiring : Acquiring seed log desk works) (plain : Plain [entry])
    (unheard : ∀ passage : Passage, passage.after entry = passage)
    (tells : Tells seed (log ++ [entry]) { desk with lifecycle.backend := backend }) :
    Acquiring seed (log ++ [entry]) { desk with lifecycle.backend := backend } works := by
  have same : passageOf (log ++ [entry]) = passageOf log := by
    rw [passageOf_append]
    exact unheard _
  obtain ⟨count, given, bound, alive⟩ := acquiring.counted
  refine ⟨tells, acquiring.lined, acquiring.idle, fun fresh => ?_,
    fun gated => plain.pursued (acquiring.pursued gated), fun gated reported => ?_,
    count, ?_, bound, fun running => ?_⟩
  · obtain ⟨unpursued, spent⟩ := acquiring.begun fresh
    refine ⟨fun earlier inside => ?_, spent⟩
    obtain early | late := List.mem_append.mp inside
    · exact unpursued earlier early
    · exact (plain earlier late).1
  · rw [same]
    exact acquiring.due gated reported
  · rw [plain.images]
    exact given
  · rw [same]
    have acquires := alive fun dead => running ⟨dead.phase, dead.unlearned, dead.stale⟩
    exact acquires.within ⟨rfl, rfl, rfl, rfl⟩ rfl rfl rfl rfl

theorem Acquiring.drained (acquiring : Acquiring seed log desk works) :
    Acquiring seed (log ++ [.drained]) { desk with lifecycle.backend.drainNotified := true }
      works :=
  acquiring.unmoved (by simp [Plain, Noted.pursues, Noted.acquisition?]) (fun _ => rfl)
    (acquiring.tells.move (.drained desk))

theorem Acquiring.copied (acquiring : Acquiring seed log desk works) (table : Option (Block 12))
    (copied : desk.lifecycle.copyLearnedFdt = table) :
    Acquiring seed (log ++ [.copied table]) desk works := by
  subst copied
  exact acquiring.unmoved (by simp [Plain, Noted.pursues, Noted.acquisition?]) (fun _ => rfl)
    (acquiring.tells.move (.copied desk))

/-- A callback that is made. -/
theorem Acquiring.called {callback : Callback}
    (acquiring : Acquiring seed log desk (.callouts (.back callback :: callouts) :: works)) :
    Acquiring seed (log ++ [.called callback]) desk (.callouts callouts :: works) := by
  have backs_ := backs_back callback callouts works
  have fewer : Spent (.callouts (.back callback :: callouts) :: works) →
      callback.acquires = false ∧ Spent (.callouts callouts :: works) := by
    intro spent
    refine ⟨spent callback (by simp), fun other inside => spent other ?_⟩
    rw [backs_]
    exact List.mem_cons_of_mem _ inside
  have unheard : (passageOf (log ++ [.called callback])) = passageOf log := by
    rw [passageOf_append]
    rfl
  obtain ⟨count, given, bound, alive⟩ := acquiring.counted
  refine ⟨acquiring.tells.move (.called desk callback), acquiring.lined,
    fun idle => (fewer (acquiring.idle idle)).2, fun fresh => ?_, fun gated => ?_,
    fun gated reported => ?_, count, ?_, bound, ?_⟩
  · obtain ⟨unpursued, spent⟩ := acquiring.begun fresh
    obtain ⟨other, spent⟩ := fewer spent
    refine ⟨fun entry inside => ?_, spent⟩
    obtain early | late := List.mem_append.mp inside
    · exact unpursued entry early
    · cases List.mem_singleton.mp late
      cases callback <;> first | rfl | cases other
  · refine justified_concat.mpr ⟨acquiring.pursued gated, fun pursues => ?_⟩
    refine acquiring.due gated ?_
    rw [backs_]
    cases callback <;> first | exact List.mem_cons_self | cases pursues
  · rw [unheard]
    refine acquiring.due gated ?_
    rw [backs_]
    exact List.mem_cons_of_mem _ reported
  · rw [images_append, List.append_assoc, ← given]
    unfold owedImages
    rw [backs_]
    cases callback <;> rfl
  · rw [unheard]
    exact alive

/-- A callback that nobody hears is no image. -/
theorem Acquiring.unheard {callback : Callback}
    (acquiring : Acquiring seed log desk (.callouts (.back callback :: callouts) :: works))
    (deaf : desk.lifecycle.listens callback = false) :
    Acquiring seed log desk (.callouts callouts :: works) := by
  have all := backs_back callback callouts works
  have fewer : Spent (.callouts (.back callback :: callouts) :: works) →
      Spent (.callouts callouts :: works) := by
    intro spent other inside
    refine spent other ?_
    rw [all]
    exact List.mem_cons_of_mem _ inside
  obtain ⟨count, given, bound, alive⟩ := acquiring.counted
  refine ⟨acquiring.tells, acquiring.lined, fun idle => fewer (acquiring.idle idle),
    fun fresh => (acquiring.begun fresh).imp id fewer, acquiring.pursued, fun gated reported => ?_,
    count, ?_, bound, alive⟩
  · refine acquiring.due gated ?_
    rw [all]
    exact List.mem_cons_of_mem _ reported
  · rw [← given]
    unfold owedImages
    rw [all]
    cases callback <;> first | rfl | cases deaf

theorem Acquiring.callOut (acquiring : Acquiring seed log desk (.callouts callouts :: works)) :
    Acquiring seed (log ++ (desk.callOut callouts).2.1) (desk.callOut callouts).1
      ((desk.callOut callouts).2.2.getD [] ++ works) := by
  induction callouts with
  | nil =>
    simp only [Desk.callOut, List.append_nil, Option.getD_none, List.nil_append]
    exact acquiring.same (backs_none works).symm acquiring.lined
  | cons callout callouts ih =>
    cases callout with
    | drained =>
      have rest := acquiring.same (backs_drained callouts works).symm acquiring.lined
      unfold Desk.callOut
      split
      · exact rest.drained
      · exact ih rest
    | back callback =>
      unfold Desk.callOut
      split
      · exact acquiring.called
      · rename_i deaf
        exact ih (acquiring.unheard (by simpa using deaf))

theorem Acquiring.turn (work : Work) (acquiring : Acquiring seed log desk (work :: works)) :
    Acquiring seed (log ++ (desk.turn work).2.1) (desk.turn work).1
      ((desk.turn work).2.2.getD [] ++ works) := by
  cases work with
  | callouts callouts => exact acquiring.callOut
  | resume =>
    simp only [Desk.turn]
    split
    · have behind : Spent works := acquiring.lined
      simp only [List.append_nil, Option.getD_none, List.nil_append]
      exact acquiring.same rfl behind.lined
    · rename_i rest waits
      have finished := acquiring.finished waits (finish_finishes desk.lifecycle rest)
      rw [← List.append_assoc]
      exact finished.callOut

theorem Acquiring.calls (call : Call) (acquiring : Acquiring seed log desk works) :
    Acquiring seed (log ++ (desk.call call).2.1) (desk.call call).1
      ((desk.call call).2.2 ++ works) := by
  have called := Desk.call_called desk call
  unfold Desk.Calls at called
  generalize (desk.call call).1 = after, (desk.call call).2.1 = noted, (desk.call call).2.2 = more
    at called ⊢
  cases called with
  | nothing => simpa using acquiring
  | delivered idle delivered => exact acquiring.delivered idle delivered
  | performed performed => exact acquiring.performed performed
  | received same =>
    have received := acquiring.performed (.received [] same (.inl rfl))
    exact received.same (backs_none works).symm acquiring.lined
  | copied => exact acquiring.copied _ rfl

/-! ## Runs -/

theorem Prompt.profile {following : Phase}
    (prompt : Prompt lifecycle heard accepted control body following) :
    accepted.material.captureProfile = lifecycle.material.captureProfile := by
  cases prompt <;> rfl

/-- The profile is that of the material from the beginning. -/
theorem Move.profile {before after : Desk} (moved : Move before noted after) :
    after.lifecycle.material.captureProfile = before.lifecycle.material.captureProfile := by
  cases moved with
  | delivered idle delivered =>
    cases delivered with
    | rejectedFrame frame fallen | rejectedPlaintext octets fallen => exact fallen.profile
    | sent prompt sends => exact prompt.profile
    | unsent prompt fallen => exact fallen.profile
    | _ => rfl
  | finished waits finished =>
    cases finished with
    | failed fallen => exact fallen.profile
    | _ => rfl
  | performed performed =>
    cases performed with
    | failed fallen => exact fallen.profile
    | unrearmed phase fallen => exact fallen.profile
    | outFailed generation took fallen => exact fallen.profile
    | unstarted error phase unsent => obtain ⟨-, rfl⟩ | ⟨-, -, rfl⟩ := unsent <;> rfl
    | noNextLogin timestamp error gate authorized below phase fresh profile drained prepared unsent =>
      subst prepared
      obtain ⟨-, rfl⟩ | ⟨-, -, rfl⟩ := unsent <;> rfl
    | nextLogin timestamp gate authorized below phase fresh profile drained prepared =>
      subst prepared
      rfl
    | received callouts same => rfl
    | _ => rfl
  | copied | called | drained => rfl

theorem acquiring_new {backend : Backend Owner} {generation : Nat} {material : Material}
    {listeners : Listeners} {start : Lifecycle}
    (made : Lifecycle.new backend generation material listeners = .ok start) :
    Acquiring material.initialFdtTable [] ⟨start, none⟩ [] := by
  have tells := tells_new made
  unfold Lifecycle.new at made
  split at made
  · cases made
  · split at made
    · cases made
    · cases made
      refine ⟨tells, trivial, fun _ => nofun, fun _ => ⟨nofun, nofun⟩, fun _ => justified_nil _,
        fun _ => nofun, 0, rfl, Nat.zero_le _, fun _ => ⟨⟨fun _ => rfl, ?_, ?_, nofun, fun _ => rfl⟩,
          nofun, rfl, rfl, rfl, rfl⟩⟩
      · exact Nat.zero_le 3
      · exact fun _ => Nat.zero_le 1

theorem new_profile {backend : Backend Owner} {generation : Nat} {material : Material}
    {listeners : Listeners} {start : Lifecycle}
    (made : Lifecycle.new backend generation material listeners = .ok start) :
    start.material.captureProfile = material.captureProfile := by
  unfold Lifecycle.new at made
  split at made
  · cases made
  · split at made
    · cases made
    · cases made
      rfl

/-- How many images a profile and a gate allow. -/
def allowance (profile : CaptureProfile) (loginGate : Bool) : Nat :=
  match profile, loginGate with
  | .twoAcquisition, _ => 2
  | .singleAcquisition, true => 3
  | .singleAcquisition, false => 1

theorem limit_eq (lifecycle : Lifecycle) :
    limit lifecycle = allowance lifecycle.material.captureProfile lifecycle.loginGate := by
  unfold limit
  cases lifecycle.material.captureProfile <;> cases lifecycle.loginGate <;> rfl

/-- A run gives the images one by one and not more than its profile and its gate allow.  Behind the
gate of the single-acquisition profile no contact without its own grant is reported, and the image
of none is asked for. -/
theorem post_tls_acquisitions {backend : Backend Owner} {generation : Nat} {material : Material}
    {listeners : Listeners} {start : Lifecycle}
    (made : Lifecycle.new backend generation material listeners = .ok start)
    (actions : List (Callbacks.Action Call)) :
    (∃ count, images (Machines.run Desk.program.step ⟨⟨start, none⟩, []⟩ actions).2 =
        List.range' 1 count ∧
      count ≤ allowance material.captureProfile
        (Machines.run Desk.program.step ⟨⟨start, none⟩, []⟩ actions).1.state.lifecycle.loginGate) ∧
    (material.captureProfile = .singleAcquisition →
      (Machines.run Desk.program.step ⟨⟨start, none⟩, []⟩
        actions).1.state.lifecycle.loginGate = true →
      ∀ before entry after,
        (Machines.run Desk.program.step ⟨⟨start, none⟩, []⟩ actions).2 = before ++ entry :: after →
          entry.pursues = true → (passageOf before).granted = true) := by
  have acquiring := @Callbacks.Program.run_invariant _ _ _ _ Desk.program
    (fun log desk works => Acquiring material.initialFdtTable log desk works)
    (fun _ _ work _ acquiring => acquiring.turn work) (fun _ _ call _ acquiring =>
      acquiring.calls call) ⟨start, none⟩ (acquiring_new made) actions
  have profile := @run_invariant
    (fun _ desk => desk.lifecycle.material.captureProfile = material.captureProfile) start
    (new_profile made) (fun _ _ _ _ holds moved => moved.profile.trans holds) actions
  generalize Machines.run Desk.program.step ⟨⟨start, none⟩, []⟩ actions = outcome
    at acquiring profile ⊢
  constructor
  · obtain ⟨count, given, bound, -⟩ := acquiring.counted
    rw [limit_eq, profile] at bound
    obtain ⟨first, fewer, images, -⟩ := List.range'_eq_append_iff.mp given.symm
    exact ⟨first, images, Nat.le_trans fewer bound⟩
  · intro single gate before entry after split pursues
    exact acquiring.pursued ⟨gate, profile.trans single⟩ before entry after split pursues

/-- From the baseline image to a contact that is granted. -/
def untilGranted : List (Callbacks.Action Call) :=
  acked 0x36 ++ [.call (.handleA0 (plainEvent 0x36 0x0100 0) plainAnswer)] ++ acked 0x32 ++
    [.returned, .call .authorizeLogin, .call (.handleA0 (plainEvent 0x32 0x0002 1) plainAnswer),
      .returned]

/-- The run of a login up to its contact. -/
def grantedContact : List (Callbacks.Action Call) :=
  .call .prepareLogin :: (untilBaseline ++ [imaged] ++ untilGranted)

/-- The lifecycle behind its gate. -/
def gated (lifecycle : Lifecycle) : Lifecycle := { lifecycle with loginGate := true }

theorem plainLifecycle_fresh : plainLifecycle.phase = .notStarted := rfl

theorem gated_takes : takesImage (atBaseline (gated plainLifecycle)) = true := by decide +kernel

theorem run_untilGranted {lifecycle : Lifecycle} (baseline : takesImage (atBaseline lifecycle) = true) :
    Machines.run Desk.program.step ⟨⟨lifecycle, none⟩, []⟩ (untilBaseline ++ [imaged] ++ untilGranted) =
      ((Machines.run Desk.program.step (afterImage (atBaseline lifecycle)).1 untilGranted).1,
        (Machines.run Desk.program.step ⟨⟨lifecycle, none⟩, []⟩ untilBaseline).2 ++
          (afterImage (atBaseline lifecycle)).2 ++
          (Machines.run Desk.program.step (afterImage (atBaseline lifecycle)).1 untilGranted).2) := by
  rw [Machines.run_append, Machines.run_append]
  simp only [Machines.run]
  rw [show (Machines.run Desk.program.step ⟨⟨lifecycle, none⟩, []⟩ untilBaseline).1 =
    atBaseline lifecycle from rfl, step_imaged baseline]
  simp only [List.append_nil]

theorem run_grantedContact {lifecycle : Lifecycle} (fresh : lifecycle.phase = .notStarted) :
    Machines.run Desk.program.step ⟨⟨lifecycle, none⟩, []⟩ grantedContact =
      Machines.run Desk.program.step ⟨⟨gated lifecycle, none⟩, []⟩
        (untilBaseline ++ [imaged] ++ untilGranted) := by
  have outcome : lifecycle.prepareLogin = { lifecycle := gated lifecycle } :=
    if_neg (by simp [fresh])
  have prepared : Desk.program.step ⟨⟨lifecycle, none⟩, []⟩ (.call .prepareLogin) =
      (⟨⟨gated lifecycle, none⟩, []⟩, []) := by
    show (let called := Desk.perform ⟨lifecycle, none⟩ lifecycle.prepareLogin
      let entered := Desk.program.enter called.1 [] called.2.2
      (entered.1, called.2.1 ++ entered.2)) = _
    rw [outcome]
    rfl
  simp only [grantedContact, Machines.run, prepared, List.nil_append]

/-- The run of a contact gives one image, and behind the gate of a login a contact is reported that
has its grant. -/
theorem post_tls_acquisitions_contact :
    (images (Machines.run Desk.program.step ⟨⟨plainLifecycle, none⟩, []⟩ cancelledContact).2 = [1] ∧
      ∃ count, images (Machines.run Desk.program.step ⟨⟨plainLifecycle, none⟩, []⟩
        cancelledContact).2 = List.range' 1 count ∧ count ≤ 1) ∧
    let granted := Machines.run Desk.program.step ⟨⟨plainLifecycle, none⟩, []⟩ grantedContact
    granted.1.state.lifecycle.loginGate = true ∧
      (∃ entry ∈ granted.2, entry.pursues = true) ∧
      ∀ before entry after, granted.2 = before ++ entry :: after → entry.pursues = true →
        (passageOf before).granted = true := by
  have whole := (post_tls_acquisitions plainLifecycle_new cancelledContact).1
  have behind := (post_tls_acquisitions plainLifecycle_new grantedContact).2 rfl
  have gate : (Machines.run Desk.program.step (afterImage (atBaseline (gated plainLifecycle))).1
      untilGranted).1.state.lifecycle.loginGate = true := by
    decide +kernel
  have pursues : (Machines.run Desk.program.step (afterImage (atBaseline (gated plainLifecycle))).1
      untilGranted).2.any Noted.pursues = true := by
    decide +kernel
  have first : images (releaseLog plainLifecycle) = [1] := by decide +kernel
  have ungated : (atReleaseTail plainLifecycle).state.lifecycle.loginGate = false := by decide +kernel
  obtain ⟨entry, inside, pursued⟩ := List.any_eq_true.mp pursues
  rw [run_cancelledContact plainLifecycle_takes.1 plainLifecycle_takes.2] at whole ⊢
  dsimp only at whole
  rw [ungated] at whole
  rw [run_grantedContact plainLifecycle_fresh, run_untilGranted gated_takes] at behind ⊢
  dsimp only at behind ⊢
  exact ⟨⟨first, whole⟩, gate, ⟨entry, List.mem_append_right _ inside, pursued⟩, behind gate⟩

end Goodix.PostTls
