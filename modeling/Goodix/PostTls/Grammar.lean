import Goodix.PostTls.Moves

/-! # The grammar of the post-TLS commands

The controls of the commands are always the beginning of one of a few scripts, and each
command answers what was heard since the one before it.
-/

namespace Goodix.PostTls

open Octets A0Protocol FdtIrqPolicy ImageDecoder Usb Traces

/-! ## Scripts -/

/-- The commands up to the first arming. -/
def bootstrap : List UInt8 := [0xd4, 0xaf, 0x36, 0x50, 0x36, 0x82, 0x20, 0x36, 0x32]

/-- A contact, which may arm the sensor again before the finger comes. -/
def contact (rearms : Nat) : List UInt8 := List.replicate rearms 0x32 ++ [0x22, 0x34, 0x20, 0x50]

/-- The commands up to the arming of the contact after the finished ones. -/
def began (finished : List Nat) : List UInt8 :=
  bootstrap ++ finished.flatMap fun rearms => contact rearms ++ [0x32]

/-- The whole conversations that a profile allows. -/
inductive Script (profile : CaptureProfile) (loginGate : Bool) : List UInt8 → Prop where
  | single {rearms : Nat} (few : rearms ≤ 2) :
      Script profile loginGate (bootstrap ++ contact rearms)
  | twice {rearms : Nat} (two : profile = .twoAcquisition) (few : rearms ≤ 2) :
      Script profile loginGate (bootstrap ++ contact rearms ++ [0x32, 0x22])
  | logins {finished : List Nat} {rearms : Nat} (one : profile = .singleAcquisition)
      (gate : loginGate = true) (few : ∀ earlier ∈ finished, earlier ≤ 2) (last : rearms ≤ 2)
      (contacts : finished.length ≤ 2) :
      Script profile loginGate (began finished ++ contact rearms)

/-! ## What is heard between two commands -/

inductive Heard where
  | a0 (frame : List UInt8)
  | plaintext (octets : List UInt8)

/-- The log, as far as the grammar looks at it. -/
structure Talk where
  /-- The controls of all commands. -/
  controls : List UInt8
  /-- The completions of OUTs since the last command. -/
  completions : List (Option GError)
  /-- What was heard since the last command. -/
  heard : List Heard
  /-- The framework awaits a finger. -/
  awaiting : Bool
  /-- A next login was granted since the last command. -/
  granted : Bool

namespace Talk

def silent : Talk := ⟨[], [], [], false, false⟩

def note (talk : Talk) : Noted → Talk
  | .a0 frame => { talk with heard := talk.heard ++ [.a0 frame] }
  | .plaintext octets => { talk with heard := talk.heard ++ [.plaintext octets] }
  | .submitted control _ =>
    { talk with
      controls := talk.controls ++ [control]
      completions := []
      heard := []
      granted := false }
  | .outCompleted error => { talk with completions := talk.completions ++ [error] }
  | .awaiting awaiting => { talk with awaiting }
  | .nextLogin => { talk with granted := true }
  | .authorized | .learned _ | .copied _ | .failed _ | .refused _ | .called _ | .drained => talk

end Talk

def talkOf (log : List Noted) : Talk := log.foldl Talk.note .silent

theorem talkOf_append (log noted : List Noted) :
    talkOf (log ++ noted) = noted.foldl Talk.note (talkOf log) := List.foldl_append

/-- One ACK of a command, and one event. -/
def Exchange (talk : Talk) (control : UInt8) (event : List UInt8 → Prop) : Prop :=
  ∃ ack frame, talk.heard = [.a0 ack, .a0 frame] ∧ IsAck control ack ∧ event frame

/-- One ACK of a command, and an image in pieces. -/
def Imaging (talk : Talk) (control : UInt8) : Prop :=
  ∃ (ack : List UInt8) (chunks : List (List UInt8)),
    talk.heard = .a0 ack :: chunks.map .plaintext ∧ IsAck control ack ∧
    ∃ samples, decodePlaintext chunks.flatten = .ok samples

/-- What must be heard between two commands. -/
inductive Follows (talk : Talk) : UInt8 → UInt8 → Prop where
  | d4 {ack : List UInt8} (heard : talk.heard = [.a0 ack]) (isAck : IsAck 0xd4 ack) :
      Follows talk 0xd4 0xaf
  | controllerState {frame : List UInt8} (heard : talk.heard = [.a0 frame])
      (state : IsControllerState frame) : Follows talk 0xaf 0x36
  | sample {context : FlagsContext} {next : UInt8}
      (exchange : Exchange talk 0x36 fun frame => ∃ event, IsBaseline context event frame)
      (listed : next = 0x50 ∨ next = 0x82 ∨ next = 0x32) : Follows talk 0x36 next
  | nav (exchange : Exchange talk 0x50 IsNav) : Follows talk 0x50 0x36
  | threshold (exchange : Exchange talk 0x82 fun frame => ∃ threshold, IsThreshold threshold frame) :
      Follows talk 0x82 0x20
  | baseline (imaging : Imaging talk 0x20) : Follows talk 0x20 0x36
  | irq80 (exchange : Exchange talk 0x32 fun frame => ∃ event, IsIrq80 event frame) :
      Follows talk 0x32 0x32
  | fingerDown (exchange : Exchange talk 0x32 fun frame => ∃ event, IsFingerDown event frame) :
      Follows talk 0x32 0x22
  | image (imaging : Imaging talk 0x22) : Follows talk 0x22 0x34
  | fingerUp (exchange : Exchange talk 0x34 fun frame => ∃ event, IsFingerUp event frame) :
      Follows talk 0x34 0x20
  | released {ack octets : List UInt8} (heard : talk.heard = [.a0 ack, .plaintext octets])
      (isAck : IsAck 0x20 ack) : Follows talk 0x20 0x50
  | again (exchange : Exchange talk 0x50 IsNav)
      (wanted : talk.awaiting = true ∨ talk.granted = true) : Follows talk 0x50 0x32

/-- A command goes out when the last one is through and answered. -/
def Admits (talk : Talk) : Noted → Prop
  | .submitted control _ =>
    ∀ last, talk.controls.getLast? = some last →
      talk.completions = [none] ∧ Follows talk last control
  | _ => True

/-- Every command of a log is admitted by what comes before it. -/
def Lawful (log : List Noted) : Prop := Justified (fun before entry => Admits (talkOf before) entry) log

theorem lawful_silent {log : List Noted} (lawful : Lawful log) (noted : List Noted)
    (silent : ∀ control packet, .submitted control packet ∉ noted) : Lawful (log ++ noted) := by
  induction noted generalizing log with
  | nil => simpa using lawful
  | cons entry noted ih =>
    have first : Lawful (log ++ [entry]) := by
      refine justified_concat.mpr ⟨lawful, ?_⟩
      cases entry with
      | submitted control packet => exact absurd (List.mem_cons_self ..) (silent control packet)
      | _ => trivial
    have later := ih first fun control packet inside =>
      silent control packet (List.mem_cons_of_mem _ inside)
    simpa using later

/-! ## The position of a lifecycle in its script -/

/-- What decides how many contacts there may be. -/
structure Series where
  profile : CaptureProfile
  gate : Bool
  authorized : Bool
  attempts : Nat

def Lifecycle.series (lifecycle : Lifecycle) : Series where
  profile := lifecycle.material.captureProfile
  gate := lifecycle.loginGate
  authorized := lifecycle.loginAuthorized
  attempts := lifecycle.loginAttempts

/-- The finished contacts of a series. -/
structure Served (series : Series) (finished : List Nat) : Prop where
  few : ∀ rearms ∈ finished, rearms ≤ 2
  count : finished.length ≤ 2
  single : finished ≠ [] → series.profile = .singleAcquisition ∧ series.gate = true
  attempts : series.authorized = true → series.attempts = finished.length + 1
  unauthorized : series.authorized = false → finished = []

/-- Within a contact, after some of its commands. -/
def Within (lifecycle : Lifecycle) (done controls : List UInt8) : Prop :=
  ∃ finished rearms, Served lifecycle.series finished ∧ rearms ≤ 2 ∧
    controls = began finished ++ List.replicate rearms 0x32 ++ done

/-- Armed, with a count of the rearmings. -/
def Arming (lifecycle : Lifecycle) (controls : List UInt8) : Prop :=
  ∃ finished, Served lifecycle.series finished ∧ lifecycle.firstContactIrq80Count ≤ 2 ∧
    controls = began finished ++ List.replicate lifecycle.firstContactIrq80Count 0x32

/-- Within the second acquisition. -/
def Again (lifecycle : Lifecycle) (done controls : List UInt8) : Prop :=
  lifecycle.material.captureProfile = .twoAcquisition ∧
    ∃ rearms, rearms ≤ 2 ∧ controls = bootstrap ++ contact rearms ++ [0x32] ++ done

def wholeContact : List UInt8 := [0x22, 0x34, 0x20, 0x50]

/-- The commands so far, from the phase. -/
def Told (lifecycle : Lifecycle) (controls : List UInt8) : Prop :=
  match lifecycle.phase with
  | .notStarted => controls = []
  | .d4 => controls = bootstrap.take 1
  | .af => controls = bootstrap.take 2
  | .fdt36_1 | .fdtIrq100_1 => controls = bootstrap.take 3
  | .fdtNav_1 => controls = bootstrap.take 4
  | .fdt36_2 | .fdtIrq100_2 => controls = bootstrap.take 5
  | .fdt_82 => controls = bootstrap.take 6
  | .fdt_20 | .fdtB0 => controls = bootstrap.take 7
  | .fdt36_3 | .fdtIrq100_3 => controls = bootstrap.take 8
  | .firstArm | .firstIrq2 => Arming lifecycle controls
  | .first_22 | .firstB0 => Within lifecycle (wholeContact.take 1) controls
  | .release_34 | .releaseIrq200 => Within lifecycle (wholeContact.take 2) controls
  | .release_20 | .releaseB0 => Within lifecycle (wholeContact.take 3) controls
  | .release_50 | .releaseNav => Within lifecycle wholeContact controls
  | .rearmGate =>
    lifecycle.material.captureProfile = .twoAcquisition ∧ Within lifecycle wholeContact controls
  | .secondArm | .secondIrq2 => Again lifecycle [] controls
  | .second_22 | .secondB0 => Again lifecycle [0x22] controls
  | .stop =>
    Within lifecycle wholeContact controls ∨ lifecycle.loginAuthorized = false ∨
      lifecycle.material.captureProfile = .twoAcquisition
  | .terminal => False

/-- One ACK of the last command. -/
def Acked (lifecycle : Lifecycle) (talk : Talk) : Prop :=
  ∃ ack, talk.heard = [.a0 ack] ∧ IsAck lifecycle.expectedAck ack

/-- Nothing since the last command. -/
def Quiet (lifecycle : Lifecycle) (talk : Talk) : Prop :=
  lifecycle.ackSeen = false ∧ talk.heard = []

/-- An ACK, and the pieces of an image so far. -/
def Gathering (lifecycle : Lifecycle) (talk : Talk) : Prop :=
  ∃ (ack : List UInt8) (chunks : List (List UInt8)),
    talk.heard = .a0 ack :: chunks.map .plaintext ∧
    IsAck lifecycle.expectedAck ack ∧ lifecycle.plaintextPending = chunks.flatten

/-- What was heard since the last command, from the phase. -/
def Hears (lifecycle : Lifecycle) (talk : Talk) : Prop :=
  match lifecycle.phase with
  | .notStarted | .terminal => True
  | .d4 | .af | .fdt36_1 | .fdt36_2 | .fdt36_3 | .fdt_20 | .firstArm | .first_22 | .release_34
  | .release_20 | .release_50 | .secondArm | .second_22 => Quiet lifecycle talk
  | .fdtIrq100_1 | .fdtIrq100_2 | .fdtIrq100_3 | .firstIrq2 | .releaseIrq200 | .releaseB0
  | .releaseNav | .secondIrq2 => Acked lifecycle talk
  | .fdtNav_1 | .fdt_82 =>
    Quiet lifecycle talk ∨ (lifecycle.ackSeen = true ∧ Acked lifecycle talk)
  | .fdtB0 | .firstB0 | .secondB0 => Gathering lifecycle talk
  | .rearmGate => Exchange talk 0x50 IsNav
  | .stop =>
    Exchange talk 0x50 IsNav ∨ lifecycle.loginAuthorized = false ∨
      lifecycle.material.captureProfile = .twoAcquisition

/-- The position of a lifecycle, and of the delivery that waits for a callback. -/
def Stands (lifecycle : Lifecycle) (delivery : Option Rest) (talk : Talk) : Prop :=
  match delivery with
  | some (.imageCommand false) =>
    lifecycle.phase = .firstIrq2 ∧ Within lifecycle [] talk.controls ∧
      Exchange talk 0x32 fun frame => ∃ event, IsFingerDown event frame
  | some (.imageCommand true) =>
    lifecycle.phase = .secondIrq2 ∧ Again lifecycle [] talk.controls ∧
      Exchange talk 0x32 fun frame => ∃ event, IsFingerDown event frame
  | some (.firstImage _ _) =>
    lifecycle.phase = .firstB0 ∧ lifecycle.plaintextPending = [] ∧
      Within lifecycle (wholeContact.take 1) talk.controls ∧ Imaging talk 0x22
  | some (.secondImage _ _) =>
    lifecycle.phase = .secondB0 ∧ lifecycle.plaintextPending = [] ∧
      Again lifecycle [0x22] talk.controls ∧ Imaging talk 0x22
  | _ => Told lifecycle talk.controls ∧ Hears lifecycle talk

/-- The phases before the first arming. -/
def booting : Phase → Bool
  | .notStarted => true
  | phase => Lifecycle.initializing phase

/-- The phases in which pieces of an image are gathered. -/
def gathering : Phase → Bool
  | .fdtB0 | .firstB0 | .secondB0 => true
  | _ => false

/-- A lifecycle that still has its backend. -/
structure Live (lifecycle : Lifecycle) (delivery : Option Rest) (talk : Talk) : Prop where
  running : lifecycle.phase ≠ .terminal
  generation : lifecycle.backend.generation = lifecycle.generation
  sync : lifecycle.backend.preSessionSyncActive = false
  busy : lifecycle.outPending = true →
    lifecycle.backend.outOutstanding ≠ 0 ∧
      lifecycle.backend.outGeneration = lifecycle.generation ∧
      lifecycle.backend.outCompletedCallback = some .postTlsLifecycle ∧ talk.completions = []
  free : lifecycle.outPending = false →
    lifecycle.backend.outOutstanding = 0 ∧ (talk.controls ≠ [] → talk.completions = [none])
  last : talk.controls ≠ [] → talk.controls.getLast? = some lifecycle.expectedAck
  boots : booting lifecycle.phase = true →
    lifecycle.loginAuthorized = false ∧ lifecycle.firstContactIrq80Count = 0 ∧
      lifecycle.irq80RearmPending = false
  early : lifecycle.phase = .notStarted → lifecycle.outPending = false
  owner : lifecycle.phase ≠ .notStarted →
    lifecycle.backend.outCompletedCallback = some .postTlsLifecycle ∨
      (lifecycle.phase = .stop ∧ lifecycle.loginAuthorized = false)
  handoff : lifecycle.firstArmHandoff = true →
    lifecycle.loginAuthorized = false ∧ lifecycle.irq80RearmPending = false ∧
      lifecycle.phase ≠ .firstIrq2
  whole : gathering lifecycle.phase = false → lifecycle.plaintextPending = []
  awaits : lifecycle.frameworkAwait = talk.awaiting
  stands : Stands lifecycle delivery talk

/-- What holds after every run. -/
structure Holds (profile : CaptureProfile) (log : List Noted) (desk : Desk) : Prop where
  lawful : Lawful log
  scripted : ∃ script, Script profile desk.lifecycle.loginGate script ∧
    (talkOf log).controls <+: script
  profile : desk.lifecycle.material.captureProfile = profile
  live : desk.lifecycle.backend.terminalFence = false →
    Live desk.lifecycle desk.delivery (talkOf log)

/-! ## Positions lie in scripts -/

theorem began_nil : began [] = bootstrap := by simp [began]

theorem Within.scripted {lifecycle : Lifecycle} {done controls : List UInt8}
    (within : Within lifecycle done controls) (part : done <+: wholeContact) :
    ∃ script, Script lifecycle.material.captureProfile lifecycle.loginGate script ∧
      controls <+: script := by
  obtain ⟨finished, rearms, served, few, rfl⟩ := within
  have inContact : List.replicate rearms 0x32 ++ done <+: contact rearms :=
    (List.prefix_append_right_inj _).mpr part
  have inScript : began finished ++ List.replicate rearms 0x32 ++ done <+:
      began finished ++ contact rearms := by
    rw [List.append_assoc]
    exact (List.prefix_append_right_inj _).mpr inContact
  by_cases first : finished = []
  · subst first
    rw [began_nil] at inScript ⊢
    exact ⟨_, .single few, inScript⟩
  · obtain ⟨one, gate⟩ := served.single first
    exact ⟨_, .logins one gate served.few few served.count, inScript⟩

theorem Again.scripted {lifecycle : Lifecycle} {done controls : List UInt8}
    (again : Again lifecycle done controls) (part : done <+: [0x22]) :
    ∃ script, Script lifecycle.material.captureProfile lifecycle.loginGate script ∧
      controls <+: script := by
  obtain ⟨two, rearms, few, rfl⟩ := again
  refine ⟨_, .twice two few, ?_⟩
  rw [List.append_assoc (bootstrap ++ contact rearms)]
  exact (List.prefix_append_right_inj _).mpr ((List.prefix_append_right_inj _).mpr part)

theorem Arming.within {lifecycle : Lifecycle} {controls : List UInt8}
    (arming : Arming lifecycle controls) : Within lifecycle [] controls := by
  obtain ⟨finished, served, few, rfl⟩ := arming
  exact ⟨finished, _, served, few, by simp⟩

theorem bootstrap_scripted (profile : CaptureProfile) (loginGate : Bool) (count : Nat) :
    ∃ script, Script profile loginGate script ∧ bootstrap.take count <+: script :=
  ⟨_, .single (Nat.zero_le 2), (List.take_prefix count bootstrap).trans (List.prefix_append _ _)⟩

theorem Told.scripted {lifecycle : Lifecycle} {controls : List UInt8}
    (told : Told lifecycle controls) (unstopped : lifecycle.phase ≠ .stop) :
    ∃ script, Script lifecycle.material.captureProfile lifecycle.loginGate script ∧
      controls <+: script := by
  unfold Told at told
  cases phase : lifecycle.phase with
  | notStarted =>
    rw [phase] at told
    obtain rfl : controls = [] := told
    exact ⟨_, .single (Nat.zero_le 2), List.nil_prefix⟩
  | d4 | af | fdt36_1 | fdtIrq100_1 | fdtNav_1 | fdt36_2 | fdtIrq100_2 | fdt_82 | fdt_20 | fdtB0
  | fdt36_3 | fdtIrq100_3 =>
    rw [phase] at told
    rw [told]
    exact bootstrap_scripted _ _ _
  | firstArm | firstIrq2 =>
    rw [phase] at told
    exact (Arming.within told).scripted List.nil_prefix
  | first_22 | firstB0 | release_34 | releaseIrq200 | release_20 | releaseB0 =>
    rw [phase] at told
    exact told.scripted (List.take_prefix _ _)
  | release_50 | releaseNav =>
    rw [phase] at told
    exact told.scripted (List.prefix_refl _)
  | rearmGate =>
    rw [phase] at told
    exact told.2.scripted (List.prefix_refl _)
  | secondArm | secondIrq2 =>
    rw [phase] at told
    exact told.scripted List.nil_prefix
  | second_22 | secondB0 =>
    rw [phase] at told
    exact told.scripted (List.prefix_refl _)
  | stop => exact absurd phase unstopped
  | terminal =>
    rw [phase] at told
    exact told.elim

/-! ## Sending -/

/-- The phases right after a command. -/
def answers : Phase → Bool
  | .d4 | .af | .fdt36_1 | .fdtNav_1 | .fdt36_2 | .fdt_82 | .fdt36_3 | .fdt_20 | .firstArm
  | .first_22 | .release_34 | .release_20 | .release_50 | .secondArm | .second_22 => true
  | _ => false

theorem hears_quiet {lifecycle : Lifecycle} {talk : Talk} (after : answers lifecycle.phase = true)
    (quiet : Quiet lifecycle talk) : Hears lifecycle talk := by
  unfold Hears
  cases phase : lifecycle.phase with
  | fdtNav_1 | fdt_82 => exact .inl quiet
  | d4 | af | fdt36_1 | fdt36_2 | fdt36_3 | fdt_20 | firstArm | first_22 | release_34 | release_20
  | release_50 | secondArm | second_22 => exact quiet
  | _ =>
    rw [phase] at after
    cases after

/-- A lifecycle that may send its next command. -/
structure Ready (lifecycle : Lifecycle) (talk : Talk) (control : UInt8) (next : Phase) : Prop where
  generation : lifecycle.backend.generation = lifecycle.generation
  sync : lifecycle.backend.preSessionSyncActive = false
  owner : lifecycle.backend.outCompletedCallback = some .postTlsLifecycle
  done : talk.controls ≠ [] → talk.completions = [none]
  follows : ∀ last, talk.controls.getLast? = some last → Follows talk last control
  after : answers next = true
  boots : booting next = true →
    lifecycle.loginAuthorized = false ∧ lifecycle.firstContactIrq80Count = 0 ∧
      lifecycle.irq80RearmPending = false
  whole : lifecycle.plaintextPending = []
  awaits : lifecycle.frameworkAwait = talk.awaiting
  handoff : lifecycle.firstArmHandoff = true →
    lifecycle.loginAuthorized = false ∧ lifecycle.irq80RearmPending = false
  told : Told (lifecycle.sentWith control next) (talk.controls ++ [control])

theorem answers_cases {next : Phase} (after : answers next = true) :
    next ≠ .notStarted ∧ next ≠ .firstIrq2 ∧ next ≠ .stop ∧ next ≠ .terminal := by
  cases next <;> simp_all [answers]

/-- A delivery that has no command to send. -/
def light : Option Rest → Bool
  | none => true
  | some rest => rest.light

theorem stands_light {lifecycle : Lifecycle} {delivery : Option Rest} {talk : Talk}
    (idle : light delivery = true) :
    Stands lifecycle delivery talk ↔ Told lifecycle talk.controls ∧ Hears lifecycle talk := by
  cases delivery with
  | none => exact Iff.rfl
  | some rest =>
    cases rest with
    | nothing | rearm | handedOff => exact Iff.rfl
    | imageCommand | firstImage | secondImage => cases idle

theorem Ready.holds {profile : CaptureProfile} {log : List Noted} {lifecycle : Lifecycle}
    {control : UInt8} {packet : List UInt8} {next : Phase} {delivery : Option Rest}
    (ready : Ready lifecycle (talkOf log) control next) (lawful : Lawful log)
    (captures : lifecycle.material.captureProfile = profile)
    (idle : light delivery = true) :
    Holds profile (log ++ [.submitted control packet])
      ⟨lifecycle.sentWith control next, delivery⟩ := by
  have noted : talkOf (log ++ [.submitted control packet]) =
      (talkOf log).note (.submitted control packet) := by
    simp [talkOf_append]
  obtain ⟨unbegun, unready, unstopped, running⟩ := answers_cases ready.after
  have position : Stands (lifecycle.sentWith control next) delivery
      ((talkOf log).note (.submitted control packet)) :=
    (stands_light idle).mpr ⟨ready.told, hears_quiet ready.after ⟨rfl, rfl⟩⟩
  refine ⟨?_, ?_, captures, fun _ => ?_⟩
  · refine justified_concat.mpr ⟨lawful, ?_⟩
    intro last isLast
    refine ⟨ready.done ?_, ready.follows last isLast⟩
    intro empty
    rw [empty] at isLast
    cases isLast
  · rw [noted]
    have scripted := ready.told.scripted unstopped
    rw [← captures]
    exact scripted
  · rw [noted]
    exact {
      running := running
      generation := ready.generation
      sync := ready.sync
      busy := fun _ => ⟨nofun, rfl, ready.owner, rfl⟩
      free := nofun
      last := fun _ => List.getLast?_concat
      boots := ready.boots
      early := fun begun => absurd begun unbegun
      owner := fun _ => .inl ready.owner
      handoff := fun set => ⟨(ready.handoff set).1, (ready.handoff set).2, unready⟩
      whole := fun _ => ready.whole
      awaits := ready.awaits
      stands := position }

end Goodix.PostTls
