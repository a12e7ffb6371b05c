import Goodix.Enrollment.Recovery
import Goodix.PostTls.Tables

/-! # The re-arms that an IRQ0080 asks for

A sensor that is armed may say that the finger does not lie right; it is armed anew, at most twice
for a contact.  The verification and the enrollment do this each in its own machine.
-/

namespace Goodix

open Octets A0Protocol FdtIrqPolicy Traces

namespace PostTls

/-! ## The verification -/

/-- The lifecycle behind an IRQ0080 that it has answered. -/
def Lifecycle.rearmedWith (lifecycle : Lifecycle) (table : Block 12) (timestamp : UInt16) : Lifecycle :=
  { lifecycle with
    currentFdtTable := table
    material := { lifecycle.material with firstArmTimestamp := timestamp }
    firstContactIrq80Count := lifecycle.firstContactIrq80Count + 1
    irq80RearmPending := true }.sentWith 0x32 .firstArm

/-- What becomes of an IRQ0080. -/
inductive Irq80Answer (story : Story) (desk : Desk) (frame : List UInt8) (event : Event) :
    Desk → List Noted → Prop where
  | ignored {after : Desk} (same : after.lifecycle = desk.lifecycle) :
      Irq80Answer story desk frame event after []
  | failed {after : Desk} (reason : GError) :
      Irq80Answer story desk frame event after [.a0 frame, .failed reason]
  | rearmed {table : Block 12} {timestamp : UInt16} {packet : List UInt8}
      (phase : desk.lifecycle.phase = .firstIrq2) (below : story.irq80s < 2)
      (idle : story.rearm = .idle) (derived : (Source.irq80 event).table = some table)
      (built : fixed64Command 0x32 ([0x08, 0x01] ++ table.val ++ putU16Le timestamp) = .ok packet) :
      Irq80Answer story desk frame event
        { lifecycle := desk.lifecycle.rearmedWith table timestamp, delivery := some .nothing }
        [.a0 frame, .submitted 0x32 packet]

/-- What becomes of an IRQ2: it is accepted when every re-arm is answered. -/
inductive Irq2Answer (story : Story) (desk : Desk) (frame : List UInt8) : Desk → List Noted → Prop where
  | ignored {after : Desk} (same : after.lifecycle = desk.lifecycle) :
      Irq2Answer story desk frame after []
  | failed {after : Desk} (reason : GError) :
      Irq2Answer story desk frame after [.a0 frame, .failed reason]
  | touched {after : Desk}
      (phase : desk.lifecycle.phase = .firstIrq2 ∨ desk.lifecycle.phase = .secondIrq2)
      (idle : story.rearm = .idle) (reset : after.lifecycle.firstContactIrq80Count = 0) :
      Irq2Answer story desk frame after [.a0 frame]

variable {lifecycle accepted : Lifecycle} {heard noted more : List Noted} {control : UInt8}
  {body frame : List UInt8} {next : Phase} {event : Event} {story : Story}

/-- Whether it is an IRQ0080 or an IRQ2. -/
def Signal.contact : Signal → Bool
  | .irq80 _ | .touched _ => true
  | _ => false

/-- Where an IRQ0080 is answered with a command. -/
structure Answers80 (lifecycle : Lifecycle) (event : Event) (control : UInt8) (body : List UInt8)
    (after : Lifecycle) (table : Block 12) (timestamp : UInt16) : Prop where
  phase : lifecycle.phase = .firstIrq2
  below : lifecycle.firstContactIrq80Count < 2
  derived : (Source.irq80 event).table = some table
  control : control = 0x32
  body : body = [0x08, 0x01] ++ table.val ++ putU16Le timestamp
  after : after = lifecycle.rearmedWith table timestamp

theorem Prompt.first (prompt : Prompt lifecycle heard accepted control body next) {last : Noted}
    (here : heard ++ [last] = .a0 frame :: more) :
    ∃ tail, heard = .a0 frame :: tail ∧ more = tail ++ [last] := by
  cases prompt <;> cases here <;> exact ⟨_, rfl, rfl⟩

/-- Of both only an IRQ0080 prompts a command. -/
theorem Prompt.contact {signal : Signal} {tail : List Noted}
    (prompt : Prompt lifecycle heard accepted control body next) (here : heard = .a0 frame :: tail)
    (told : signalOf frame = some signal) (contact : signal.contact = true) :
    tail = [] ∧ ∃ event table timestamp, signal = .irq80 event ∧
      Answers80 lifecycle event control body (accepted.sentWith control next) table timestamp := by
  have other {different : Signal} (apart : different.contact = false)
      (heard : signalOf frame = some different) : False := by
    cases heard.symm.trans told
    cases apart.symm.trans contact
  have silent (heard : signalOf frame = none) : False := by cases heard.symm.trans told
  cases prompt with
  | d4 phase fresh ack =>
    cases here
    exact (other rfl (isAck_signal ack)).elim
  | controllerState phase state =>
    cases here
    exact (silent (isControllerState_signal state)).elim
  | nav phase seen nav =>
    cases here
    exact (silent (isNav_signal nav)).elim
  | threshold phase seen read =>
    cases here
    exact (silent (isThreshold_signal read)).elim
  | baselineImage | released => cases here
  | firstSample phase baseline | secondSample phase baseline | thirdSample phase baseline =>
    cases here
    exact (other rfl (isBaseline_signal baseline)).elim
  | fingerUp phase up =>
    cases here
    exact (other rfl (isFingerUp_signal up)).elim
  | irq80 timestamp phase allowed irq80 below derived =>
    cases here
    cases (isIrq80_signal irq80).symm.trans told
    exact ⟨rfl, _, _, timestamp, rfl, phase, below, derived_baseline derived, rfl, rfl, rfl⟩

/-- What the delivery of an IRQ0080 or of an IRQ2 does. -/
theorem Delivered.contact {signal : Signal} {after : Lifecycle} {callouts : List Callout}
    {rest : Rest} (delivered : Delivered lifecycle noted after callouts rest)
    (here : noted = .a0 frame :: more) (told : signalOf frame = some signal)
    (contact : signal.contact = true) :
    (∃ reason, more = [.failed reason]) ∨
      (∃ event table timestamp packet, signal = .irq80 event ∧ more = [.submitted 0x32 packet] ∧
        Answers80 lifecycle event 0x32 ([0x08, 0x01] ++ table.val ++ putU16Le timestamp) after table
          timestamp ∧
        fixed64Command 0x32 ([0x08, 0x01] ++ table.val ++ putU16Le timestamp) = .ok packet ∧
        rest = .nothing) ∨
      ∃ event, signal = .touched event ∧ more = [] ∧
        (lifecycle.phase = .firstIrq2 ∧ after.firstContactIrq80Count = 0 ∨
          lifecycle.phase = .secondIrq2 ∧ after = lifecycle) := by
  have other {different : Signal} (apart : different.contact = false)
      (heard : signalOf frame = some different) : False := by
    cases heard.symm.trans told
    cases apart.symm.trans contact
  cases delivered with
  | ignored => cases here
  | rejectedFrame =>
    cases here
    exact .inl ⟨_, rfl⟩
  | rejectedPlaintext => cases here
  | unsent prompt fallen =>
    obtain ⟨tail, heard, rfl⟩ := prompt.first here
    obtain ⟨rfl, -⟩ := prompt.contact heard told contact
    exact .inl ⟨_, rfl⟩
  | sent prompt sends =>
    obtain ⟨tail, heard, rfl⟩ := prompt.first here
    obtain ⟨rfl, event, table, timestamp, rfl, answers⟩ := prompt.contact heard told contact
    obtain ⟨phase, below, derived, rfl, rfl, after⟩ := answers
    exact .inr (.inl ⟨event, table, timestamp, _, rfl, rfl, ⟨phase, below, derived, rfl, rfl, after⟩,
      sends.built, rfl⟩)
  | acked advances fresh ack =>
    cases here
    exact (other rfl (isAck_signal ack)).elim
  | rearmed phase fresh ack =>
    cases here
    exact (other rfl (isAck_signal ack)).elim
  | handoff accepted error phase fresh ack =>
    cases here
    exact (other rfl (isAck_signal ack)).elim
  | armed phase fresh ack =>
    cases here
    exact (other rfl (isAck_signal ack)).elim
  | firstFinger phase allowed down =>
    cases here
    cases (isFingerDown_signal down).symm.trans told
    exact .inr (.inr ⟨_, rfl, rfl, .inl ⟨phase, rfl⟩⟩)
  | secondFinger phase allowed down =>
    cases here
    cases (isFingerDown_signal down).symm.trans told
    exact .inr (.inr ⟨_, rfl, rfl, .inr ⟨phase, rfl⟩⟩)
  | chunk => cases here
  | firstImage => cases here
  | secondImage => cases here
  | contactOver phase nav =>
    cases here
    cases (isNav_signal nav).symm.trans told

/-- A frame is noted before anything else. -/
theorem handleA0_first (lifecycle : Lifecycle) (frame : List UInt8) (answer : Answer) :
    (lifecycle.handleA0 frame answer).noted = [] ∧
        (lifecycle.handleA0 frame answer).lifecycle = lifecycle ∨
      ∃ more, (lifecycle.handleA0 frame answer).noted = .a0 frame :: more := by
  unfold Lifecycle.handleA0
  split
  · exact .inl ⟨rfl, rfl⟩
  · cases lifecycle.message frame with
    | error error => exact .inr ⟨_, rfl⟩
    | ok message => exact .inr ⟨_, rfl⟩

/-- A frame is ignored, or noted before anything else of its delivery. -/
theorem call_handleA0 (desk : Desk) (frame : List UInt8) (answer : Answer) :
    ((desk.call (.handleA0 frame answer)).1.lifecycle = desk.lifecycle ∧
        (desk.call (.handleA0 frame answer)).2.1 = []) ∨
      ∃ more after callouts rest, (desk.call (.handleA0 frame answer)).1 = ⟨after, some rest⟩ ∧
        (desk.call (.handleA0 frame answer)).2.1 = .a0 frame :: more ∧
        Delivered desk.lifecycle (.a0 frame :: more) after callouts rest := by
  have delivers := handleA0_delivers desk.lifecycle frame answer
  have first := handleA0_first desk.lifecycle frame answer
  simp only [Desk.call, Desk.deliver]
  by_cases waits : desk.delivery.isSome = true
  · rw [if_pos waits]
    exact .inl ⟨rfl, rfl⟩
  rw [if_neg waits]
  unfold Delivers at delivers
  generalize desk.lifecycle.handleA0 frame answer = outcome at delivers first ⊢
  obtain ⟨silent, same⟩ | ⟨more, noted⟩ := first
  · exact .inl ⟨same, silent⟩
  · rw [noted] at delivers
    exact .inr ⟨more, _, _, _, rfl, noted, delivers⟩

theorem Tells.agrees {seed : Block 12} {log : List Noted} {desk : Desk} (tells : Tells seed log desk)
    (running : desk.lifecycle.phase ≠ .terminal) (unstopped : desk.lifecycle.phase ≠ .stop) :
    Agrees (storyOf seed log) desk.lifecycle desk.delivery := by
  obtain agrees | ⟨dead, -⟩ := tells.state
  · exact agrees
  · obtain ended | stopped := dead.phase
    · exact absurd ended running
    · exact absurd stopped unstopped

section

variable {seed : Block 12} {log : List Noted} {desk : Desk} (tells : Tells seed log desk)
  (answer : Answer)

include tells

theorem Tells.irq80 (told : signalOf frame = some (.irq80 event)) :
    Irq80Answer (storyOf seed log) desk frame event (desk.call (.handleA0 frame answer)).1
      (desk.call (.handleA0 frame answer)).2.1 := by
  obtain ⟨same, silent⟩ | ⟨more, after, callouts, rest, called, noted, delivered⟩ :=
      call_handleA0 desk frame answer
  · rw [silent]
    exact .ignored same
  rw [called, noted]
  obtain ⟨reason, rfl⟩ | ⟨event, table, timestamp, packet, same, rfl, answers, built, rfl⟩ |
      ⟨event, same, -⟩ := delivered.contact rfl told rfl
  · exact .failed reason
  · cases same
    have agrees := tells.agrees (by simp [answers.phase]) (by simp [answers.phase])
    have settled := agrees.rearms.settled (by simp [answers.phase])
    rw [answers.after]
    refine .rearmed answers.phase ?_ (agrees.rearms.idle settled) answers.derived built
    rw [agrees.counts.same]
    exact answers.below
  · cases same

theorem Tells.irq2 (told : signalOf frame = some (.touched event)) :
    Irq2Answer (storyOf seed log) desk frame (desk.call (.handleA0 frame answer)).1
      (desk.call (.handleA0 frame answer)).2.1 := by
  obtain ⟨same, silent⟩ | ⟨more, after, callouts, rest, called, noted, delivered⟩ :=
      call_handleA0 desk frame answer
  · rw [silent]
    exact .ignored same
  rw [called, noted]
  obtain ⟨reason, rfl⟩ | ⟨event, table, timestamp, packet, same, -⟩ |
      ⟨event, -, rfl, contact⟩ := delivered.contact rfl told rfl
  · exact .failed reason
  · cases same
  · obtain ⟨phase, reset⟩ | ⟨phase, same⟩ := contact
    · have agrees := tells.agrees (by simp [phase]) (by simp [phase])
      have settled := agrees.rearms.settled (by simp [phase])
      exact .touched (.inl phase) (agrees.rearms.idle settled) reset
    · have agrees := tells.agrees (by simp [phase]) (by simp [phase])
      have settled := agrees.rearms.settled (by simp [phase])
      have zero := agrees.counts.zero (by simp [phase, era]) (by simp [phase, era])
      exact .touched (.inr phase) (agrees.rearms.idle settled) (same ▸ zero)

end

/-- What holds of the re-arms of a verification in any state that is reached. -/
structure Rearming (seed : Block 12) (log : List Noted) (desk : Desk) : Prop where
  irq80 : ∀ frame event answer, signalOf frame = some (.irq80 event) →
    Irq80Answer (storyOf seed log) desk frame event (desk.call (.handleA0 frame answer)).1
      (desk.call (.handleA0 frame answer)).2.1
  irq2 : ∀ frame event answer, signalOf frame = some (.touched event) →
    Irq2Answer (storyOf seed log) desk frame (desk.call (.handleA0 frame answer)).1
      (desk.call (.handleA0 frame answer)).2.1
  /-- The IRQ0080 are counted from one contact or `next_login` to the next. -/
  count : (∀ error, .failed error ∉ log) →
    desk.lifecycle.firstContactIrq80Count = (storyOf seed log).irq80s ∧
      (storyOf seed log).irq80s ≤ 2

theorem run_rearming {backend : Usb.Backend Usb.Owner} {generation : Nat} {material : Material}
    {listeners : Listeners} {start : Lifecycle}
    (made : Lifecycle.new backend generation material listeners = .ok start)
    (actions : List (Callbacks.Action Call)) :
    Rearming material.initialFdtTable
      (Machines.run Desk.program.step ⟨⟨start, none⟩, []⟩ actions).2
      (Machines.run Desk.program.step ⟨⟨start, none⟩, []⟩ actions).1.state := by
  have tells := run_invariant (tells_new made) (fun _ _ _ _ tells moved => tells.move moved) actions
  refine ⟨fun _ _ answer told => tells.irq80 answer told, fun _ _ answer told => tells.irq2 answer told,
    fun unfailed => ?_⟩
  obtain agrees | ⟨-, error, failed⟩ := tells.state
  · exact ⟨agrees.counts.same.symm, agrees.counts.same ▸ agrees.counts.below⟩
  · exact absurd failed (unfailed error)

end PostTls

namespace Enrollment.Binding

/-! ## The enrollment -/

/-- What holds of the re-arms of an enrollment in any state that is reached. -/
structure Rearming (reached : Binding) : Prop where
  /-- An IRQ0080 is accepted when the answer to the one before it has ended. -/
  accepted : ∀ before raw after, reached.log = before ++ .rearmed raw :: after →
    (storyOf before).rearms < 2 ∧ (storyOf before).rearm = .idle ∧
      (storyOf before).outstanding = none
  unchanged : ∀ answers call raw rest,
    (reached.call answers call).2.log = reached.log ++ .rearmed raw :: rest →
      (∃ frame, call = .handleA0 frame ∧ Irq80Due reached frame raw) ∧
        Rearms reached.events (reached.call answers call).2.events
  submitted : ∀ before prepared frame after raw,
    reached.log = before ++ .submitted prepared frame :: after →
      (storyOf before).rearm = .accepted raw →
        Story.AnswersWith raw prepared ∧ outboundFrameBuild prepared = .ok frame
  acked : ∀ before after, reached.log = before ++ .rearmAcked :: after →
    (storyOf before).rearm = .completed
  touched : ∀ before after, reached.log = before ++ .touched :: after →
    (storyOf before).rearm = .idle ∧ (storyOf before).outstanding = none
  /-- The IRQ0080 are counted from one contact to the next. -/
  count : reached.events.irq80Count = (storyOf reached.log).rearms

theorem run_rearming {config : ModelConfig} {contact zeroRecovery : Bool} {generation : UInt64}
    {start : Binding} (made : Binding.new config contact zeroRecovery generation = .ok start)
    (calls : List (Call × Answers)) : Rearming (Machines.run step start calls).1 := by
  have settled : Settled (Machines.run step start calls).1 := run_settled made calls
  refine ⟨fun before raw after split => settled.told before _ after split,
    fun answers call raw rest adds => settled.rearmed adds, ?_,
    fun before after split => settled.told before _ after split,
    fun before after split => settled.told before _ after split, settled.rearms.symm⟩
  intro before prepared frame after raw split accepted
  obtain ⟨-, built, -, answers⟩ := settled.told before _ after split
  rw [accepted] at answers
  exact ⟨answers, built⟩

end Enrollment.Binding

/-! ## Both -/

/-- In every run of the verification and of the enrollment: an IRQ0080 is accepted while the IRQ2
of a contact is due, at most twice for it, and changes the re-arm and its count alone; it is
answered with the table of its own readings; the next IRQ2 is accepted when that command is out and
acknowledged; the count begins anew with a contact, and with a `next_login`. -/
theorem irq80_rearms :
    (∀ backend generation material listeners start,
      PostTls.Lifecycle.new backend generation material listeners = .ok start →
        ∀ actions : List (Callbacks.Action PostTls.Call),
          PostTls.Rearming material.initialFdtTable
            (Machines.run PostTls.Desk.program.step ⟨⟨start, none⟩, []⟩ actions).2
            (Machines.run PostTls.Desk.program.step ⟨⟨start, none⟩, []⟩ actions).1.state) ∧
    (∀ config contact zeroRecovery generation start,
      Enrollment.Binding.new config contact zeroRecovery generation = .ok start →
        ∀ calls : List (Enrollment.Binding.Call × Enrollment.Answers),
          Enrollment.Binding.Rearming (Machines.run Enrollment.Binding.step start calls).1) :=
  ⟨fun _ _ _ _ _ made actions => PostTls.run_rearming made actions,
    fun _ _ _ _ _ made calls => Enrollment.Binding.run_rearming made calls⟩

namespace PostTls

/-- The sensor is armed, and armed again after an IRQ0080. -/
def untilRearm : List (Callbacks.Action Call) :=
  acked 0x36 ++ heard (plainEvent 0x36 0x0100 0) ++ acked 0x32 ++ heard (plainEvent 0x32 0x0080 0)

/-- The re-arm is acknowledged and the finger lies. -/
def untilTouch : List (Callbacks.Action Call) := acked 0x32 ++ heard (plainEvent 0x32 0x0002 1)

def rearmedContact : List (Callbacks.Action Call) := untilBaseline ++ [imaged] ++ untilRearm

/-- With a timestamp for the re-arm. -/
def timedMaterial : Material := { plainMaterial with nextTimestamp := true }

def timedLifecycle : Lifecycle :=
  ((Lifecycle.new handedOver 1 timedMaterial ⟨true, true, true, true⟩).toOption).get (by rfl)

theorem timedLifecycle_new :
    Lifecycle.new handedOver 1 timedMaterial ⟨true, true, true, true⟩ = .ok timedLifecycle := rfl

theorem run_rearmedContact :
    (Machines.run Desk.program.step ⟨⟨timedLifecycle, none⟩, []⟩ rearmedContact).1 =
      (Machines.run Desk.program.step (afterImage (atBaseline timedLifecycle)).1 untilRearm).1 := by
  have takes : takesImage (atBaseline timedLifecycle) = true := by decide +kernel
  rw [rearmedContact, run_baselined takes]

end PostTls

namespace Enrollment.Binding

/-- An IRQ0080 before the first touch, and the touch when its re-arm is acknowledged. -/
def untilRearm : List (Call × Answers) := heard 0x32 [0x80, 0x00, 0x01, 0x00]

end Enrollment.Binding

/-- In either machine an IRQ0080 is accepted and counted, and the touch behind its re-arm begins the
count anew. -/
theorem irq80_rearms_counted :
    (∃ start, PostTls.Lifecycle.new PostTls.handedOver 1 PostTls.timedMaterial
        ⟨true, true, true, true⟩ = .ok start ∧
      let ran := Machines.run PostTls.Desk.program.step ⟨⟨start, none⟩, []⟩ PostTls.rearmedContact
      ran.1.state.lifecycle.firstContactIrq80Count = 1 ∧
        PostTls.Rearming PostTls.timedMaterial.initialFdtTable ran.2 ran.1.state ∧
        (Machines.run PostTls.Desk.program.step ran.1
          PostTls.untilTouch).1.state.lifecycle.firstContactIrq80Count = 0) ∧
    ∃ start, Enrollment.Binding.new ⟨2, 3, true, false, true⟩ true true 1 = .ok start ∧
      let rearmed := (Machines.run Enrollment.Binding.step start Enrollment.Binding.untilRearm).1
      rearmed.events.irq80Count = 1 ∧ Enrollment.Binding.Rearming rearmed ∧
        (Machines.run Enrollment.Binding.step rearmed
          Enrollment.Binding.untilTouch).1.events.irq80Count = 0 := by
  refine ⟨⟨_, PostTls.timedLifecycle_new, ?_, ?_, ?_⟩, _, rfl, ?_, ?_, ?_⟩
  · rw [PostTls.run_rearmedContact]
    decide +kernel
  · exact irq80_rearms.1 _ _ _ _ _ PostTls.timedLifecycle_new PostTls.rearmedContact
  · rw [PostTls.run_rearmedContact]
    decide +kernel
  · decide +kernel
  · exact irq80_rearms.2 ⟨2, 3, true, false, true⟩ true true 1 _ rfl Enrollment.Binding.untilRearm
  · decide +kernel

end Goodix
