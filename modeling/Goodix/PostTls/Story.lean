import Goodix.PostTls.Bootstrap

/-! # What a run of the post-TLS lifecycle has heard

The story of a run is read off its log alone: which interrupt the next table comes from, how
many IRQ0080 have come since the last contact, how far the answer to one has come.  As long as
nothing has failed the lifecycle agrees with its story.
-/

namespace Goodix.PostTls

open Octets A0Protocol FdtIrqPolicy ImageDecoder Usb Traces

/-! ## Signals -/

/-- What a frame says to the story. -/
inductive Signal where
  | acked (control : UInt8)
  /-- IRQ0100, IRQ0080, IRQ0002 and IRQ0200. -/
  | sample (event : Event)
  | irq80 (event : Event)
  | touched (event : Event)
  | released (event : Event)

def signalIn (message : A0Message) : Option Signal :=
  if message.control = 0xb0 then
    match message.body with
    | [control, 0x01] => some (.acked control)
    | _ => none
  else
    match eventFields message with
    | none => none
    | some event =>
      if message.control = 0x36 ∧ event.irq = 0x0100 then some (.sample event)
      else if message.control = 0x32 ∧ event.irq = 0x0080 then some (.irq80 event)
      else if message.control = 0x32 ∧ event.irq = 0x0002 then some (.touched event)
      else if message.control = 0x34 ∧ event.irq = 0x0200 then some (.released event)
      else none

def signalOf (frame : List UInt8) : Option Signal :=
  if frame.length < 5 then none
  else
    match parseReceived frame with
    | .error _ => none
    | .ok message => signalIn message

theorem received_signal {frame : List UInt8} {message : A0Message}
    (received : Received frame message) : signalOf frame = signalIn message := by
  have long : ¬ frame.length < 5 := Nat.not_lt.mpr received.1
  simp only [signalOf, long, if_false, received.2]

theorem isAck_signal {control : UInt8} {frame : List UInt8} (ack : IsAck control frame) :
    signalOf frame = some (.acked control) := by
  rw [received_signal ack]
  rfl

theorem isControllerState_signal {frame : List UInt8} (state : IsControllerState frame) :
    signalOf frame = none := by
  obtain ⟨message, received, control, -⟩ := state
  rw [received_signal received]
  unfold signalIn
  rw [control]
  cases eventFields message <;> simp

theorem isThreshold_signal {threshold : UInt8} {frame : List UInt8}
    (read : IsThreshold threshold frame) : signalOf frame = none := by
  obtain ⟨message, received, control, -⟩ := read
  rw [received_signal received]
  unfold signalIn
  rw [control]
  cases eventFields message <;> simp

theorem isNav_signal {frame : List UInt8} (nav : IsNav frame) : signalOf frame = none := by
  have control : frame.getD 4 0 = 0x50 := isNav_control nav
  unfold signalOf
  split
  · rfl
  · cases parsed : parseReceived frame with
    | error problem => rfl
    | ok message =>
      have same := (parseReceived_control parsed).trans control
      simp only [signalIn, same]
      cases eventFields message <;> simp

theorem isBaseline_signal {context : FlagsContext} {event : Event} {frame : List UInt8}
    (baseline : IsBaseline context event frame) : signalOf frame = some (.sample event) := by
  obtain ⟨⟨message, received, control, fields, irq⟩, -⟩ := baseline
  rw [received_signal received]
  simp [signalIn, control, fields, irq]

theorem isIrq80_signal {event : Event} {frame : List UInt8} (irq80 : IsIrq80 event frame) :
    signalOf frame = some (.irq80 event) := by
  obtain ⟨⟨message, received, control, fields, irq⟩, -⟩ := irq80
  rw [received_signal received]
  simp [signalIn, control, fields, irq]

theorem isFingerDown_signal {event : Event} {frame : List UInt8}
    (down : IsFingerDown event frame) : signalOf frame = some (.touched event) := by
  obtain ⟨⟨message, received, control, fields, irq⟩, -⟩ := down
  rw [received_signal received]
  simp [signalIn, control, fields, irq]

theorem isFingerUp_signal {event : Event} {frame : List UInt8} (up : IsFingerUp event frame) :
    signalOf frame = some (.released event) := by
  obtain ⟨⟨message, received, control, fields, irq⟩, -⟩ := up
  rw [received_signal received]
  simp [signalIn, control, fields, irq]

/-! ## The story -/

/-- The interrupt that the table of the next arming comes from. -/
inductive Source where
  | sample (first : Bool) (event : Event)
  | irq80 (event : Event)
  | released (event : Event)

/-- The table of a derivation that succeeds; it does not depend on what was there before. -/
def Source.table : Source → Option (Block 12)
  | .sample first event =>
    if first then derived (deriveFirstBaselineTable event.raw event.flags)
    else derived (deriveBaselineTable event.raw event.flags)
  | .irq80 event => derived (deriveBaselineTable event.raw 0)
  | .released event => derived (deriveDownTable event.raw event.flags)

/-- How far the answer to an IRQ0080 has come. -/
inductive RearmStage where
  | idle
  | accepted
  | sent
  | completed
  deriving DecidableEq

structure Story where
  /-- Whether a sample has come. -/
  sampled : Bool
  /-- The table of the last sample, or the seed. -/
  baseline : Option (Block 12)
  /-- The last interrupt but an IRQ2, if no IRQ2 came after it. -/
  source : Option Source
  /-- The table of the last IRQ2. -/
  up : Option (Block 12)
  /-- Whether the sensor has been armed. -/
  armed : Bool
  /-- The IRQ0080 since the last IRQ2 and the last `next_login`. -/
  irq80s : Nat
  rearm : RearmStage

namespace Story

def start (seed : Block 12) : Story where
  sampled := false
  baseline := some seed
  source := none
  up := none
  armed := false
  irq80s := 0
  rearm := .idle

def hear (story : Story) : Signal → Story
  | .acked control =>
    if control = 0x32 ∧ story.rearm = .completed then { story with rearm := .idle } else story
  | .sample event =>
    { story with
      sampled := true
      baseline := (Source.sample (!story.sampled) event).table
      source := some (.sample (!story.sampled) event) }
  | .irq80 event =>
    { story with
      source := some (.irq80 event)
      irq80s := story.irq80s + 1
      rearm := .accepted }
  | .touched event =>
    { story with
      source := none
      up := derived (deriveUpTable event.raw event.flags 0x1d)
      irq80s := 0 }
  | .released event => { story with source := some (.released event) }

def after (story : Story) : Noted → Story
  | .a0 frame =>
    match signalOf frame with
    | some signal => story.hear signal
    | none => story
  | .submitted control _ =>
    if control = 0x32 then
      { story with
        armed := true
        rearm := if story.rearm = .accepted then .sent else story.rearm }
    else story
  | .outCompleted none =>
    { story with rearm := if story.rearm = .sent then .completed else story.rearm }
  | .nextLogin => { story with irq80s := 0 }
  | _ => story

end Story

def storyOf (seed : Block 12) (log : List Noted) : Story := log.foldl Story.after (.start seed)

theorem storyOf_append (seed : Block 12) (log noted : List Noted) :
    storyOf seed (log ++ noted) = noted.foldl Story.after (storyOf seed log) :=
  List.foldl_append

end Goodix.PostTls
