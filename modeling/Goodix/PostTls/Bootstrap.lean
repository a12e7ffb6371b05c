import Goodix.PostTls.Silence

/-! # What the first arming and the learned table rest on

Three samples, one threshold and one baseline image are taken in before the sensor is
armed for the first time.  The table that is learned is derived from the third sample.
-/

namespace Goodix.PostTls

open Octets A0Protocol FdtIrqPolicy ImageDecoder Usb Traces

/-! ## What a log has taken in -/

/-- The sample in a frame that carries IRQ0100. -/
def sampleOf (frame : List UInt8) : Option Event :=
  if frame.length < 5 then none
  else
    match parseReceived frame with
    | .error _ => none
    | .ok message =>
      if message.control = 0x36 then (eventFields message).filter (·.irq = 0x0100) else none

/-- The threshold in a frame that answers 0x82. -/
def thresholdOf (frame : List UInt8) : Option UInt8 :=
  if frame.length < 5 then none
  else
    match parseReceived frame with
    | .error _ => none
    | .ok message =>
      if message.control = 0x82 ∧ message.body.length = 2 then some (message.body.getD 1 0)
      else none

def frameOf : Noted → Option (List UInt8)
  | .a0 frame => some frame
  | _ => none

def plaintextOf : Noted → Option (List UInt8)
  | .plaintext octets => some octets
  | _ => none

/-- The samples of all frames of a log. -/
def samples (log : List Noted) : List Event := (log.filterMap frameOf).filterMap sampleOf

/-- The thresholds of all frames of a log. -/
def thresholds (log : List Noted) : List UInt8 := (log.filterMap frameOf).filterMap thresholdOf

def plaintexts (log : List Noted) : List (List UInt8) := log.filterMap plaintextOf

@[simp] theorem samples_append (log noted : List Noted) :
    samples (log ++ noted) = samples log ++ samples noted := by
  simp [samples, List.filterMap_append]

@[simp] theorem thresholds_append (log noted : List Noted) :
    thresholds (log ++ noted) = thresholds log ++ thresholds noted := by
  simp [thresholds, List.filterMap_append]

@[simp] theorem plaintexts_append (log noted : List Noted) :
    plaintexts (log ++ noted) = plaintexts log ++ plaintexts noted := by
  simp [plaintexts, List.filterMap_append]

/-- No channel of two samples differs by more than a threshold. -/
def Near (threshold : UInt8) (older newer : Event) : Prop :=
  ∀ channel ∈ channels,
    (word older.raw channel).toNat ≤ (word newer.raw channel).toNat + threshold.toNat ∧
      (word newer.raw channel).toNat ≤ (word older.raw channel).toNat + threshold.toNat

/-- The whole bootstrap is in a log, and the table is the one it yields. -/
def Bootstrapped (log : List Noted) (table : Block 12) : Prop :=
  ∃ first second third threshold,
    samples log = [first, second, third] ∧
    first.flags &&& ~~~touchMask = 0 ∧ second.flags = 0 ∧ third.flags = 0 ∧
    thresholds log = [threshold] ∧ Near threshold first second ∧ Near threshold second third ∧
    (∃ chunks image, chunks <+: plaintexts log ∧ decodePlaintext chunks.flatten = .ok image) ∧
    ∀ old, deriveBaselineTable third.raw third.flags old = (true, table)

/-- What an entry of a log rests on. -/
def Rests (before : List Noted) : Noted → Prop
  | .submitted control _ => control = 0x32 → ∃ table, Bootstrapped before table
  | .learned table => Bootstrapped before table
  | .copied (some table) => Bootstrapped before table ∧ ∀ error, .failed error ∉ before
  | _ => True

/-! ## Frames that are neither samples nor thresholds -/

theorem received_sample {frame : List UInt8} {message : A0Message}
    (received : Received frame message) :
    sampleOf frame =
      if message.control = 0x36 then (eventFields message).filter (·.irq = 0x0100) else none := by
  have long : ¬ frame.length < 5 := Nat.not_lt.mpr received.1
  simp only [sampleOf, long, if_false, received.2]

theorem received_threshold {frame : List UInt8} {message : A0Message}
    (received : Received frame message) :
    thresholdOf frame =
      if message.control = 0x82 ∧ message.body.length = 2 then some (message.body.getD 1 0)
      else none := by
  have long : ¬ frame.length < 5 := Nat.not_lt.mpr received.1
  simp only [thresholdOf, long, if_false, received.2]

/-- A frame that says nothing about the bootstrap. -/
def Idle (frame : List UInt8) : Prop := sampleOf frame = none ∧ thresholdOf frame = none

theorem received_idle {frame : List UInt8} {message : A0Message}
    (received : Received frame message) (sample : message.control ≠ 0x36)
    (threshold : message.control ≠ 0x82) : Idle frame := by
  rw [Idle, received_sample received, received_threshold received]
  simp [sample, threshold]

theorem isAck_idle {control : UInt8} {frame : List UInt8} (ack : IsAck control frame) :
    Idle frame := received_idle ack (by decide : (0xb0 : UInt8) ≠ 0x36)
  (by decide : (0xb0 : UInt8) ≠ 0x82)

theorem isControllerState_idle {frame : List UInt8} (state : IsControllerState frame) :
    Idle frame := by
  obtain ⟨message, received, control, -⟩ := state
  exact received_idle received (by rw [control]; decide) (by rw [control]; decide)

theorem isEvent_idle {control : UInt8} {irq : UInt16} {event : Event} {frame : List UInt8}
    (holds : IsEvent control irq event frame) (sample : control ≠ 0x36)
    (threshold : control ≠ 0x82) : Idle frame := by
  obtain ⟨message, received, rfl, -⟩ := holds
  exact received_idle received sample threshold

/-- The control of a frame that parses is its fifth octet. -/
theorem parseReceived_control {frame : List UInt8} {message : A0Message}
    (parsed : parseReceived frame = .ok message) : message.control = frame.getD 4 0 := by
  unfold parseReceived parseFrame at parsed
  simp only at parsed
  repeat (split at parsed <;> first | cases parsed | skip)
  rfl

theorem isNav_control {frame : List UInt8} (nav : IsNav frame) : frame.getD 4 0 = 0x50 := by
  unfold IsNav parseNavNoCheck at nav
  by_contra other
  simp only [other, ne_eq, not_false_eq_true, or_true, if_true] at nav
  split at nav <;> cases nav

theorem isNav_idle {frame : List UInt8} (nav : IsNav frame) : Idle frame := by
  have control := isNav_control nav
  unfold Idle sampleOf thresholdOf
  split
  · exact ⟨rfl, rfl⟩
  · cases parsed : parseReceived frame with
    | error problem => exact ⟨rfl, rfl⟩
    | ok message =>
      have same := parseReceived_control parsed
      rw [control] at same
      simp [same]

theorem isBaseline_sample {context : FlagsContext} {event : Event} {frame : List UInt8}
    (baseline : IsBaseline context event frame) :
    sampleOf frame = some event ∧ thresholdOf frame = none := by
  obtain ⟨⟨message, received, control, fields, irq⟩, -⟩ := baseline
  rw [received_sample received, received_threshold received]
  simp [control, fields, irq]

theorem isThreshold_threshold {threshold : UInt8} {frame : List UInt8}
    (read : IsThreshold threshold frame) :
    sampleOf frame = none ∧ thresholdOf frame = some threshold := by
  obtain ⟨message, received, control, length, value⟩ := read
  rw [received_sample received, received_threshold received]
  simp [control, length, ← value]

/-- The difference of two samples, channel by channel. -/
theorem withinThreshold_near {threshold : UInt8} {older newer : Event}
    (within : withinThreshold threshold (channelWords older.raw) (channelWords newer.raw) = true) :
    Near threshold older newer := by
  intro channel listed
  have inside : (word older.raw channel, word newer.raw channel) ∈
      (channelWords older.raw).zip (channelWords newer.raw) := by
    unfold channelWords
    rw [List.zip_map']
    exact List.mem_map_of_mem listed
  have near := List.all_eq_true.mp within _ inside
  simp only [decide_eq_true_eq, ge_iff_le] at near
  split at near
  · rename_i above
    have := UInt16.le_iff_toNat_le.mp above
    omega
  · rename_i below
    have := UInt16.not_le.mp below
    have := UInt16.lt_iff_toNat_lt.mp this
    omega

/-! ## The bootstrap, phase by phase -/

inductive Stage where
  | empty
  | one
  | two
  | judged
  | seen
  | learned
  | ended
  deriving DecidableEq

/-- How much of the bootstrap is in when a phase is reached. -/
def stage : Phase → Stage
  | .notStarted | .d4 | .af | .fdt36_1 | .fdtIrq100_1 => .empty
  | .fdtNav_1 | .fdt36_2 | .fdtIrq100_2 => .one
  | .fdt_82 => .two
  | .fdt_20 | .fdtB0 => .judged
  | .fdt36_3 | .fdtIrq100_3 => .seen
  | .firstArm | .firstIrq2 | .first_22 | .firstB0 | .release_34 | .releaseIrq200 | .release_20
  | .releaseB0 | .release_50 | .releaseNav | .rearmGate | .secondArm | .secondIrq2 | .second_22
  | .secondB0 | .stop => .learned
  | .terminal => .ended

/-- One good sample, and nothing else. -/
def First (log : List Noted) (raw : List (List UInt16)) (first : Event) : Prop :=
  samples log = [first] ∧ raw = [channelWords first.raw] ∧
    first.flags &&& ~~~touchMask = 0 ∧ thresholds log = []

/-- Two good samples. -/
def Second (log : List Noted) (raw : List (List UInt16)) (first second : Event) : Prop :=
  samples log = [first, second] ∧ raw = [channelWords first.raw, channelWords second.raw] ∧
    first.flags &&& ~~~touchMask = 0 ∧ second.flags = 0

/-- Two good samples, near to each other under the threshold. -/
def Judged (log : List Noted) (lifecycle : Lifecycle) : Prop :=
  ∃ first second, Second log lifecycle.fdtRaw first second ∧
    thresholds log = [lifecycle.fdtThreshold] ∧ Near lifecycle.fdtThreshold first second

/-- The part of the bootstrap that is in. -/
def Grown (log : List Noted) (lifecycle : Lifecycle) : Prop :=
  match stage lifecycle.phase with
  | .empty => samples log = [] ∧ lifecycle.fdtRaw = [] ∧ thresholds log = []
  | .one => ∃ first, First log lifecycle.fdtRaw first
  | .two => ∃ first second, Second log lifecycle.fdtRaw first second ∧ thresholds log = []
  | .judged => Judged log lifecycle
  | .seen =>
    Judged log lifecycle ∧ ∃ image, decodePlaintext (plaintexts log).flatten = .ok image
  | .learned => Bootstrapped log lifecycle.learnedFdtTable
  | .ended => False

/-- Before the table is learned it is not valid, and the plaintexts are pieces of one image. -/
structure Early (log : List Noted) (lifecycle : Lifecycle) : Prop where
  unlearned : lifecycle.learnedFdtValid = false
  pieces : (stage lifecycle.phase ≠ .seen) → (plaintexts log).flatten = lifecycle.plaintextPending

/-- A lifecycle that has not failed. -/
structure Alive (log : List Noted) (lifecycle : Lifecycle) : Prop where
  unfailed : ∀ error, .failed error ∉ log
  grown : Grown log lifecycle
  early : stage lifecycle.phase ≠ .learned → Early log lifecycle

/-- A lifecycle that has failed. -/
structure Dead (lifecycle : Lifecycle) : Prop where
  phase : lifecycle.phase = .terminal ∨ lifecycle.phase = .stop
  unlearned : lifecycle.learnedFdtValid = false
  stale : lifecycle.freshDownValid = false

structure Keeps (log : List Noted) (desk : Desk) : Prop where
  rests : Justified Rests log
  state : Alive log desk.lifecycle ∨ Dead desk.lifecycle
  /-- An image is waited for after the bootstrap only. -/
  contact : ∀ rest, desk.delivery = some rest → rest.light = false →
    stage desk.lifecycle.phase = .learned ∨ desk.lifecycle.phase = .terminal

/-- Entries that add nothing to the bootstrap. -/
structure Neutral (noted : List Noted) : Prop where
  samples : samples noted = []
  thresholds : thresholds noted = []
  plaintexts : plaintexts noted = []
  unfailed : ∀ error, .failed error ∉ noted

theorem Bootstrapped.mono {log noted : List Noted} {table : Block 12}
    (holds : Bootstrapped log table) (quiet : samples noted = []) (unread : thresholds noted = []) :
    Bootstrapped (log ++ noted) table := by
  obtain ⟨first, second, third, threshold, taken, firstFlags, secondFlags, thirdFlags, read, near,
    nearer, ⟨chunks, image, isPrefix, decoded⟩, derived⟩ := holds
  refine ⟨first, second, third, threshold, ?_, firstFlags, secondFlags, thirdFlags, ?_, near,
    nearer, ⟨chunks, image, ?_, decoded⟩, derived⟩
  · rw [samples_append, quiet, List.append_nil]
    exact taken
  · rw [thresholds_append, unread, List.append_nil]
    exact read
  · rw [plaintexts_append]
    exact isPrefix.trans (List.prefix_append _ _)

/-- The same part of the bootstrap after entries that add nothing, in a phase of the same
stage. -/
theorem Alive.on {log noted : List Noted} {before after : Lifecycle} (alive : Alive log before)
    (neutral : Neutral noted) (same : stage after.phase = stage before.phase)
    (raw : after.fdtRaw = before.fdtRaw) (threshold : after.fdtThreshold = before.fdtThreshold)
    (valid : after.learnedFdtValid = before.learnedFdtValid)
    (table : after.learnedFdtTable = before.learnedFdtTable)
    (pending : after.plaintextPending = before.plaintextPending ∨
      stage before.phase = .learned) :
    Alive (log ++ noted) after := by
  have samplesSame : samples (log ++ noted) = samples log := by
    rw [samples_append, neutral.samples, List.append_nil]
  have thresholdsSame : thresholds (log ++ noted) = thresholds log := by
    rw [thresholds_append, neutral.thresholds, List.append_nil]
  have plaintextsSame : plaintexts (log ++ noted) = plaintexts log := by
    rw [plaintexts_append, neutral.plaintexts, List.append_nil]
  refine ⟨?_, ?_, fun unlearned => ?_⟩
  · intro error inside
    rcases List.mem_append.mp inside with before | now
    · exact alive.unfailed error before
    · exact neutral.unfailed error now
  · have grown := alive.grown
    unfold Grown at grown ⊢
    rw [same]
    cases here : stage before.phase with
    | empty =>
      rw [here] at grown
      simp only [samplesSame, thresholdsSame, raw]
      exact grown
    | one =>
      rw [here] at grown
      simp only [First, samplesSame, thresholdsSame, raw]
      exact grown
    | two =>
      rw [here] at grown
      simp only [Second, samplesSame, thresholdsSame, raw]
      exact grown
    | judged =>
      rw [here] at grown
      simp only [Judged, Second, samplesSame, thresholdsSame, raw, threshold]
      exact grown
    | seen =>
      rw [here] at grown
      simp only [Judged, Second, samplesSame, thresholdsSame, plaintextsSame, raw, threshold]
      exact grown
    | learned =>
      rw [here] at grown
      rw [table]
      exact grown.mono neutral.samples neutral.thresholds
    | ended =>
      rw [here] at grown
      exact grown.elim
  · rw [same] at unlearned
    have early := alive.early unlearned
    refine ⟨valid.trans early.unlearned, fun unseen => ?_⟩
    rw [same] at unseen
    rw [plaintextsSame, pending.resolve_right unlearned]
    exact early.pieces unseen

theorem Alive.running {log : List Noted} {lifecycle : Lifecycle} (alive : Alive log lifecycle) :
    lifecycle.phase ≠ .terminal := by
  intro ended
  have grown := alive.grown
  unfold Grown at grown
  rw [ended] at grown
  exact grown

theorem Fallen.dead {before after : Lifecycle} {reason : GError}
    (fallen : Fallen before reason after) : Dead after :=
  ⟨.inl fallen.phase, fallen.learned, fallen.down⟩

/-! ## Every move keeps it -/

variable {log : List Noted} {lifecycle accepted : Lifecycle} {heard : List Noted}
  {control : UInt8} {body packet : List UInt8} {next : Phase} {desk : Desk}

theorem neutral_frame {frame : List UInt8} (idle : Idle frame) : Neutral [.a0 frame] := by
  refine ⟨?_, ?_, rfl, by simp⟩
  · simp [samples, frameOf, idle.1]
  · simp [thresholds, frameOf, idle.2]

/-- Entries that bring nothing in at all. -/
theorem neutral_of {noted : List Noted} (frames : noted.filterMap frameOf = [])
    (pieces : noted.filterMap plaintextOf = []) (unfailed : ∀ error, .failed error ∉ noted) :
    Neutral noted := by
  refine ⟨?_, ?_, pieces, unfailed⟩
  · simp [samples, frames]
  · simp [thresholds, frames]

theorem samples_frame {frame : List UInt8} {event : Event} (sample : sampleOf frame = some event) :
    samples [.a0 frame] = [event] := by
  simp [samples, frameOf, sample]

theorem thresholds_frame {frame : List UInt8} (unread : thresholdOf frame = none) :
    thresholds [.a0 frame] = [] := by
  simp [thresholds, frameOf, unread]

theorem baselineSample_flags {flags : UInt16}
    (valid : irqFlagsValid .baselineSample flags = true) : flags = 0 := by
  simpa [irqFlagsValid] using valid

theorem baselineFirstSample_flags {flags : UInt16}
    (valid : irqFlagsValid .baselineFirstSample flags = true) : flags &&& ~~~touchMask = 0 := by
  simpa [irqFlagsValid] using valid

/-- A new sample with the right flags whose readings are the ones recorded. -/
theorem Alive.firstSample (alive : Alive log lifecycle) {frame : List UInt8} {event : Event}
    (phase : lifecycle.phase = .fdtIrq100_1)
    (baseline : IsBaseline .baselineFirstSample event frame) :
    First (log ++ [.a0 frame]) (lifecycle.fdtRaw ++ [channelWords event.raw]) event := by
  obtain ⟨sample, unread⟩ := isBaseline_sample baseline
  have grown := alive.grown
  unfold Grown at grown
  rw [phase] at grown
  obtain ⟨none, raw, unjudged⟩ := grown
  refine ⟨?_, by rw [raw]; rfl, baselineFirstSample_flags baseline.2, ?_⟩
  · rw [samples_append, none, samples_frame sample]
    rfl
  · rw [thresholds_append, unjudged, thresholds_frame unread]
    rfl

theorem Alive.secondSample (alive : Alive log lifecycle) {frame : List UInt8} {event : Event}
    (phase : lifecycle.phase = .fdtIrq100_2)
    (baseline : IsBaseline .baselineSample event frame) :
    ∃ first, Second (log ++ [.a0 frame]) (lifecycle.fdtRaw ++ [channelWords event.raw]) first
        event ∧
      thresholds (log ++ [.a0 frame]) = [] := by
  obtain ⟨sample, unread⟩ := isBaseline_sample baseline
  have grown := alive.grown
  unfold Grown at grown
  rw [phase] at grown
  obtain ⟨first, taken, raw, flags, unjudged⟩ := grown
  refine ⟨first, ⟨?_, by rw [raw]; rfl, flags, baselineSample_flags baseline.2⟩, ?_⟩
  · rw [samples_append, taken, samples_frame sample]
    rfl
  · rw [thresholds_append, unjudged, thresholds_frame unread]
    rfl

theorem Alive.threshold (alive : Alive log lifecycle) {frame : List UInt8} {threshold : UInt8}
    (phase : lifecycle.phase = .fdt_82) (read : IsThreshold threshold frame)
    (within : withinThreshold threshold (lifecycle.fdtRaw.getD 0 [])
      (lifecycle.fdtRaw.getD 1 []) = true) :
    Judged (log ++ [.a0 frame]) { lifecycle with
      fdtThreshold := threshold
      fdtThresholdValid := true
      fdtDeltaClassified := true } := by
  obtain ⟨unsampled, value⟩ := isThreshold_threshold read
  have grown := alive.grown
  unfold Grown at grown
  rw [phase] at grown
  obtain ⟨first, second, ⟨taken, raw, firstFlags, secondFlags⟩, unjudged⟩ := grown
  rw [raw] at within
  refine ⟨first, second, ⟨?_, raw, firstFlags, secondFlags⟩, ?_, withinThreshold_near within⟩
  · rw [samples_append, taken]
    simp [samples, frameOf, unsampled]
  · rw [thresholds_append, unjudged]
    simp [thresholds, frameOf, value]

theorem Alive.thirdSample (alive : Alive log lifecycle) {frame : List UInt8} {event : Event}
    {table : Block 12} (phase : lifecycle.phase = .fdtIrq100_3)
    (baseline : IsBaseline .baselineSample event frame)
    (derived : deriveBaselineTable event.raw event.flags lifecycle.currentFdtTable = (true, table))
    (within : withinThreshold lifecycle.fdtThreshold
      ((lifecycle.fdtRaw ++ [channelWords event.raw]).getD 1 [])
      ((lifecycle.fdtRaw ++ [channelWords event.raw]).getD 2 []) = true) :
    Bootstrapped (log ++ [.a0 frame]) table := by
  obtain ⟨sample, unread⟩ := isBaseline_sample baseline
  have grown := alive.grown
  unfold Grown at grown
  rw [phase] at grown
  obtain ⟨⟨first, second, ⟨taken, raw, firstFlags, secondFlags⟩, read, near⟩, image, decoded⟩ :=
    grown
  rw [raw] at within
  refine ⟨first, second, event, lifecycle.fdtThreshold, ?_, firstFlags, secondFlags,
    baselineSample_flags baseline.2, ?_, near, withinThreshold_near within,
    ⟨plaintexts log, image, ?_, decoded⟩, fun old => ?_⟩
  · rw [samples_append, taken, samples_frame sample]
    rfl
  · rw [thresholds_append, read, thresholds_frame unread]
    rfl
  · rw [plaintexts_append]
    exact List.prefix_append _ _
  · have succeeds : (deriveBaselineTable event.raw event.flags lifecycle.currentFdtTable).1 =
        true := by rw [derived]
    rw [deriveBaselineTable_whole succeeds old, derived]

/-- A lifecycle past its bootstrap has armed the sensor. -/
theorem Alive.bootstrapped (alive : Alive log lifecycle)
    (late : stage lifecycle.phase = .learned) :
    Bootstrapped log lifecycle.learnedFdtTable := by
  have grown := alive.grown
  unfold Grown at grown
  rw [late] at grown
  exact grown

/-- What is taken in with a prompt is what a command or the learned table rests on. -/
theorem Prompt.rests (prompt : Prompt lifecycle heard accepted control body next)
    (alive : Alive log lifecycle) (rests : Justified Rests log) :
    Justified Rests (log ++ heard) ∧
      (control = 0x32 → ∃ table, Bootstrapped (log ++ heard) table) := by
  have frame (octets : List UInt8) : Justified Rests (log ++ [.a0 octets]) :=
    justified_concat.mpr ⟨rests, trivial⟩
  have plaintext (octets : List UInt8) : Justified Rests (log ++ [.plaintext octets]) :=
    justified_concat.mpr ⟨rests, trivial⟩
  cases prompt with
  | d4 | controllerState | firstSample | nav | secondSample | threshold | fingerUp =>
    exact ⟨frame _, fun arms => absurd arms (by decide)⟩
  | baselineImage | released => exact ⟨plaintext _, fun arms => absurd arms (by decide)⟩
  | @thirdSample octets event table phase baseline room derived classified valid both within =>
    have bootstrapped := alive.thirdSample phase baseline derived within
    have split : log ++ [.a0 octets, .learned table] = (log ++ [.a0 octets]) ++ [.learned table] := by
      simp
    rw [split]
    exact ⟨justified_concat.mpr ⟨frame _, bootstrapped⟩,
      fun _ => ⟨table, bootstrapped.mono rfl rfl⟩⟩
  | irq80 timestamp phase allowed irq80 =>
    have idle := isEvent_idle irq80.1 (by decide) (by decide)
    have neutral := neutral_frame idle
    have late : stage lifecycle.phase = .learned := by
      rw [phase]
      rfl
    exact ⟨frame _, fun _ => ⟨_, (alive.bootstrapped late).mono neutral.samples
      neutral.thresholds⟩⟩

/-- Past the bootstrap, plaintexts and other frames change nothing. -/
theorem Alive.late {noted : List Noted} {before after : Lifecycle} (alive : Alive log before)
    (late : stage before.phase = .learned) (later : stage after.phase = .learned)
    (unsampled : samples noted = []) (unread : thresholds noted = [])
    (unfailed : ∀ error, .failed error ∉ noted)
    (table : after.learnedFdtTable = before.learnedFdtTable) : Alive (log ++ noted) after := by
  refine ⟨?_, ?_, fun early => absurd later early⟩
  · intro error inside
    rcases List.mem_append.mp inside with before | now
    · exact alive.unfailed error before
    · exact unfailed error now
  · unfold Grown
    rw [later, table]
    exact (alive.bootstrapped late).mono unsampled unread

theorem Alive.unfailed_concat (alive : Alive log lifecycle) {entry : Noted}
    (proper : ∀ error, entry ≠ .failed error) : ∀ error, .failed error ∉ log ++ [entry] := by
  intro error inside
  rcases List.mem_append.mp inside with before | now
  · exact alive.unfailed error before
  · exact proper error (List.mem_singleton.mp now).symm

/-- Before the table is learned, a frame adds no piece of an image. -/
theorem Alive.earlyFrame (alive : Alive log lifecycle) (frame : List UInt8) {after : Lifecycle}
    (unlearned : stage lifecycle.phase ≠ .learned) (unseen : stage lifecycle.phase ≠ .seen)
    (valid : after.learnedFdtValid = lifecycle.learnedFdtValid)
    (pending : after.plaintextPending = lifecycle.plaintextPending) :
    Early (log ++ [.a0 frame]) after := by
  have early := alive.early unlearned
  refine ⟨valid.trans early.unlearned, fun _ => ?_⟩
  rw [plaintexts_append, pending]
  show (plaintexts log ++ []).flatten = _
  rw [List.append_nil]
  exact early.pieces unseen

theorem Prompt.alive (prompt : Prompt lifecycle heard accepted control body next)
    (alive : Alive log lifecycle) : Alive (log ++ heard) { accepted with phase := next } := by
  cases prompt with
  | d4 phase fresh ack =>
    exact alive.on (neutral_frame (isAck_idle ack)) (by rw [phase]; rfl) rfl rfl rfl rfl (.inl rfl)
  | controllerState phase state =>
    exact alive.on (neutral_frame (isControllerState_idle state)) (by rw [phase]; rfl) rfl rfl rfl
      rfl (.inl rfl)
  | nav phase seen nav =>
    exact alive.on (neutral_frame (isNav_idle nav)) (by rw [phase]; rfl) rfl rfl rfl rfl (.inl rfl)
  | irq80 timestamp phase allowed irq80 =>
    have neutral := neutral_frame (isEvent_idle irq80.1 (by decide) (by decide))
    exact alive.late (by rw [phase]; rfl) rfl neutral.samples neutral.thresholds
      neutral.unfailed rfl
  | fingerUp phase up =>
    have neutral := neutral_frame (isEvent_idle up.1 (by decide) (by decide))
    exact alive.late (by rw [phase]; rfl) rfl neutral.samples neutral.thresholds
      neutral.unfailed rfl
  | released phase => exact alive.late (by rw [phase]; rfl) rfl rfl rfl (by simp) rfl
  | @firstSample frame event table phase baseline =>
    exact {
      unfailed := alive.unfailed_concat nofun
      grown := ⟨event, alive.firstSample phase baseline⟩
      early := fun _ => alive.earlyFrame frame (by rw [phase]; nofun) (by rw [phase]; nofun) rfl
        rfl }
  | @secondSample frame event table phase baseline =>
    obtain ⟨first, second, unread⟩ := alive.secondSample phase baseline
    exact {
      unfailed := alive.unfailed_concat nofun
      grown := ⟨first, event, second, unread⟩
      early := fun _ => alive.earlyFrame frame (by rw [phase]; nofun) (by rw [phase]; nofun) rfl
        rfl }
  | @threshold frame threshold phase seen read both within =>
    exact {
      unfailed := alive.unfailed_concat nofun
      grown := alive.threshold phase read within
      early := fun _ => alive.earlyFrame frame (by rw [phase]; nofun) (by rw [phase]; nofun) rfl
        rfl }
  | @baselineImage octets samples phase complete =>
    have grown := alive.grown
    unfold Grown at grown
    rw [phase] at grown
    have early := alive.early (by rw [phase]; nofun)
    obtain ⟨first, second, good, read, near⟩ := grown
    have pieces : (plaintexts (log ++ [.plaintext octets])).flatten =
        lifecycle.plaintextPending ++ octets := by
      rw [plaintexts_append, List.flatten_append, early.pieces (by rw [phase]; nofun)]
      simp [plaintexts, plaintextOf]
    exact {
      unfailed := alive.unfailed_concat nofun
      grown := by
        refine ⟨⟨first, second, ⟨?_, good.2.1, good.2.2⟩, ?_, near⟩, samples, pieces ▸ complete⟩
        · rw [samples_append, good.1]
          rfl
        · rw [thresholds_append, read]
          rfl
      early := fun _ => ⟨early.unlearned, fun unseen => absurd rfl unseen⟩ }
  | @thirdSample frame event table phase baseline room derived classified valid both within =>
    exact {
      unfailed := by
        intro error inside
        rcases List.mem_append.mp inside with before | now
        · exact alive.unfailed error before
        · simp at now
      grown := by
        have bootstrapped := alive.thirdSample phase baseline derived within
        have split : log ++ [.a0 frame, .learned table] =
            (log ++ [.a0 frame]) ++ [.learned table] := by simp
        show Bootstrapped _ table
        rw [split]
        exact bootstrapped.mono rfl rfl
      early := fun unlearned => absurd rfl unlearned }

/-- A frame or a plaintext is heard; nothing rests on it by itself. -/
theorem rests_concat {entry : Noted} (rests : Justified Rests log)
    (reason : Rests log entry) : Justified Rests (log ++ [entry]) :=
  justified_concat.mpr ⟨rests, reason⟩

theorem rests_pair {first second : Noted} (rests : Justified Rests log) (one : Rests log first)
    (two : Rests (log ++ [first]) second) : Justified Rests (log ++ [first, second]) := by
  have split : log ++ [first, second] = (log ++ [first]) ++ [second] := by simp
  rw [split]
  exact rests_concat (rests_concat rests one) two

theorem Dead.unprompted (dead : Dead lifecycle)
    (prompt : Prompt lifecycle heard accepted control body next) : False := by
  rcases dead.phase with ended | stopped
  · exact prompt.running.1 ended
  · cases prompt <;> simp_all

/-- A lifecycle that waits for something is alive. -/
theorem alive_of_phase {phase : Phase} (state : Alive log lifecycle ∨ Dead lifecycle)
    (here : lifecycle.phase = phase) (running : phase ≠ .terminal) (unstopped : phase ≠ .stop) :
    Alive log lifecycle := by
  rcases state with alive | dead
  · exact alive
  · rcases dead.phase with ended | stopped
    · exact absurd (here.symm.trans ended) running
    · exact absurd (here.symm.trans stopped) unstopped

theorem afterAck_stage {phase next : Phase} (advances : afterAck phase = some next) :
    stage next = stage phase ∧ phase ≠ .terminal ∧ phase ≠ .stop := by
  cases phase <;> cases advances <;> exact ⟨rfl, nofun, nofun⟩

/-- One more piece of the baseline image. -/
theorem Alive.chunk (alive : Alive log lifecycle) (octets : List UInt8)
    (phase : lifecycle.phase = .fdtB0) :
    Alive (log ++ [.plaintext octets])
      { lifecycle with plaintextPending := lifecycle.plaintextPending ++ octets } := by
  have grown := alive.grown
  unfold Grown at grown
  rw [phase] at grown
  have early := alive.early (by rw [phase]; nofun)
  obtain ⟨first, second, good, read, near⟩ := grown
  refine ⟨alive.unfailed_concat nofun, ?_, fun _ => ⟨early.unlearned, fun _ => ?_⟩⟩
  · unfold Grown
    simp only [phase]
    refine ⟨first, second, ⟨?_, good.2.1, good.2.2⟩, ?_, near⟩
    · rw [samples_append, good.1]
      rfl
    · rw [thresholds_append, read]
      rfl
  · rw [plaintexts_append, List.flatten_append, early.pieces (by rw [phase]; nofun)]
    simp [plaintexts, plaintextOf]

theorem Keeps.delivered (keeps : Keeps log desk) {noted : List Noted} {after : Lifecycle}
    {callouts : List Callout} {rest : Rest}
    (delivered : Delivered desk.lifecycle noted after callouts rest) :
    Keeps (log ++ noted) ⟨after, some rest⟩ := by
  obtain ⟨lifecycle, delivery⟩ := desk
  obtain ⟨rests, state, -⟩ := keeps
  -- a delivery leaves a light rest, or it comes when the tables are learned
  have light {noted : List Noted} {after : Lifecycle} {rest : Rest}
      (justified : Justified Rests (log ++ noted)) (state : Alive (log ++ noted) after ∨ Dead after)
      (light : rest.light = true) : Keeps (log ++ noted) ⟨after, some rest⟩ := by
    refine ⟨justified, state, fun waits same heavy => ?_⟩
    cases same
    cases light.symm.trans heavy
  have image {noted : List Noted} {after : Lifecycle} {rest : Rest}
      (justified : Justified Rests (log ++ noted)) (alive : Alive (log ++ noted) after)
      (late : stage after.phase = .learned) : Keeps (log ++ noted) ⟨after, some rest⟩ :=
    ⟨justified, .inl alive, fun _ _ _ => .inl late⟩
  cases delivered with
  | ignored => exact light (by simpa using rests) (by simpa using state) rfl
  | rejectedFrame frame fallen =>
    exact light (rests_pair rests trivial trivial) (.inr fallen.dead) rfl
  | rejectedPlaintext octets fallen =>
    exact light (rests_pair rests trivial trivial) (.inr fallen.dead) rfl
  | @unsent heard accepted after control body next reason prompt fallen =>
    rcases state with alive | dead
    · refine light ?_ (.inr fallen.dead) rfl
      rw [← List.append_assoc]
      exact rests_concat (prompt.rests alive rests).1 trivial
    · exact (dead.unprompted prompt).elim
  | @sent heard accepted control body packet next prompt sends =>
    rcases state with alive | dead
    · obtain ⟨heardRests, arms⟩ := prompt.rests alive rests
      have grown := prompt.alive alive
      refine light ?_ (.inl ?_) rfl
      · rw [← List.append_assoc]
        exact rests_concat heardRests arms
      · rw [← List.append_assoc]
        exact grown.on (neutral_of rfl rfl (by simp)) rfl rfl rfl rfl rfl (.inl rfl)
    · exact (dead.unprompted prompt).elim
  | @acked frame next advances fresh ack =>
    obtain ⟨same, running, unstopped⟩ := afterAck_stage advances
    have alive := alive_of_phase state rfl running unstopped
    exact light (rests_concat rests trivial)
      (.inl (alive.on (neutral_frame (isAck_idle ack)) same rfl rfl rfl rfl (.inl rfl))) rfl
  | rearmed phase fresh ack =>
    have alive := alive_of_phase state phase nofun nofun
    exact light (rests_concat rests trivial)
      (.inl (alive.on (neutral_frame (isAck_idle ack)) (by rw [phase]; rfl) rfl rfl rfl rfl
        (.inl rfl))) rfl
  | handoff accepted error phase fresh ack =>
    have alive := alive_of_phase state phase nofun nofun
    exact light (rests_concat rests trivial)
      (.inl (alive.on (neutral_frame (isAck_idle ack)) (by rw [phase]; rfl) rfl rfl rfl rfl
        (.inl rfl))) rfl
  | armed phase fresh ack =>
    have alive := alive_of_phase state phase nofun nofun
    exact light (rests_concat rests trivial)
      (.inl (alive.on (neutral_frame (isAck_idle ack)) (by rw [phase]; rfl) rfl rfl rfl rfl
        (.inl rfl))) rfl
  | firstFinger phase allowed down =>
    have alive := alive_of_phase state phase nofun nofun
    have neutral := neutral_frame (isEvent_idle down.1 (by decide) (by decide))
    have same : stage lifecycle.phase = .learned := by rw [phase]; rfl
    exact image (rests_concat rests trivial)
      (alive.late same same neutral.samples neutral.thresholds neutral.unfailed rfl) same
  | secondFinger phase allowed down =>
    have alive := alive_of_phase state phase nofun nofun
    have neutral := neutral_frame (isEvent_idle down.1 (by decide) (by decide))
    have same : stage lifecycle.phase = .learned := by rw [phase]; rfl
    exact image (rests_concat rests trivial)
      (alive.late same same neutral.samples neutral.thresholds neutral.unfailed rfl) same
  | @chunk octets slot short =>
    refine light (rests_concat rests trivial) (.inl ?_) rfl
    rcases slot with phase | phase | phase
    · exact (alive_of_phase state phase nofun nofun).chunk octets phase
    · have same : stage lifecycle.phase = .learned := by rw [phase]; rfl
      exact (alive_of_phase state phase nofun nofun).late same same rfl rfl (by simp) rfl
    · have same : stage lifecycle.phase = .learned := by rw [phase]; rfl
      exact (alive_of_phase state phase nofun nofun).late same same rfl rfl (by simp) rfl
  | firstImage accepted error phase =>
    have alive := alive_of_phase state phase nofun nofun
    have same : stage lifecycle.phase = .learned := by rw [phase]; rfl
    exact image (rests_concat rests trivial)
      (alive.late same same rfl rfl (by simp) rfl) same
  | secondImage accepted error phase =>
    have alive := alive_of_phase state phase nofun nofun
    have same : stage lifecycle.phase = .learned := by rw [phase]; rfl
    exact image (rests_concat rests trivial)
      (alive.late same same rfl rfl (by simp) rfl) same
  | contactOver phase nav =>
    have alive := alive_of_phase state phase nofun nofun
    have neutral := neutral_frame (isNav_idle nav)
    have later : stage (if lifecycle.material.captureProfile = .singleAcquisition then Phase.stop
        else .rearmGate) = .learned := by
      split <;> rfl
    exact light (rests_concat rests trivial)
      (.inl (alive.late (by rw [phase]; rfl) later neutral.samples neutral.thresholds
        neutral.unfailed rfl)) rfl

/-- A command that arms the sensor rests on the bootstrap when its lifecycle is past it. -/
theorem Alive.rests_submitted (alive : Alive log lifecycle)
    (late : stage lifecycle.phase = .learned) (control : UInt8) (packet : List UInt8) :
    Rests log (.submitted control packet) :=
  fun _ => ⟨_, alive.bootstrapped late⟩

theorem Dead.unsent (dead : Dead lifecycle) (sends : Sends lifecycle control body packet) :
    False := by
  rcases dead.phase with ended | stopped
  · exact sends.running ended
  · exact sends.unstopped stopped

theorem Keeps.finished (keeps : Keeps log desk) {rest : Rest} {noted : List Noted}
    {after : Lifecycle} {callouts : List Callout} (waits : desk.delivery = some rest)
    (finished : Finished desk.lifecycle rest noted after callouts) :
    Keeps (log ++ noted) ⟨after, none⟩ := by
  obtain ⟨lifecycle, delivery⟩ := desk
  obtain ⟨rests, state, contact⟩ := keeps
  have ended {noted : List Noted} {after : Lifecycle} (justified : Justified Rests (log ++ noted))
      (state : Alive (log ++ noted) after ∨ Dead after) : Keeps (log ++ noted) ⟨after, none⟩ :=
    ⟨justified, state, nofun⟩
  cases finished with
  | nothing => exact ended (by simpa using rests) (by simpa using state)
  | failed fallen => exact ended (rests_concat rests trivial) (.inr fallen.dead)
  | @imageCommand second packet sends =>
    rcases state with alive | dead
    · have late := (contact _ waits rfl).resolve_right sends.running
      refine ended (rests_concat rests (alive.rests_submitted late _ _)) (.inl ?_)
      exact alive.late late (by cases second <;> rfl) rfl rfl (by simp) rfl
    · exact (dead.unsent sends).elim
  | @firstImage error packet sends =>
    rcases state with alive | dead
    · have late := (contact _ waits rfl).resolve_right sends.running
      refine ended (rests_concat rests (alive.rests_submitted late _ _)) (.inl ?_)
      exact alive.late late rfl rfl rfl (by simp) rfl
    · exact (dead.unsent sends).elim
  | secondImage =>
    refine ended (by simpa using rests) ?_
    rcases state with alive | dead
    · have late := (contact _ waits rfl).resolve_right alive.running
      exact .inl (alive.late late rfl rfl rfl (by simp) rfl)
    · -- the image was accepted after the failure
      exact .inr ⟨.inr rfl, dead.unlearned, dead.stale⟩
  | @rearm packet phase awaits fresh first sends =>
    have alive := alive_of_phase state phase nofun nofun
    have late : stage lifecycle.phase = .learned := by rw [phase]; rfl
    refine ended (rests_concat rests (alive.rests_submitted late _ _)) (.inl ?_)
    exact alive.late late rfl rfl rfl (by simp) rfl

/-- A call that fails. -/
theorem Keeps.fallen {noted : List Noted} {before after : Lifecycle} {reason : GError}
    (reasons : Justified Rests (log ++ noted)) (fallen : Fallen before reason after) :
    Keeps (log ++ noted) { desk with lifecycle := after } :=
  ⟨reasons, .inr fallen.dead, fun _ _ _ => .inr fallen.phase⟩

/-- A call that leaves the phase and the bootstrap as they are. -/
theorem Keeps.quiet (keeps : Keeps log desk) {noted : List Noted} {after : Lifecycle}
    (reasons : Justified Rests (log ++ noted)) (neutral : Neutral noted)
    (phase : after.phase = desk.lifecycle.phase)
    (raw : after.fdtRaw = desk.lifecycle.fdtRaw)
    (threshold : after.fdtThreshold = desk.lifecycle.fdtThreshold)
    (valid : after.learnedFdtValid = desk.lifecycle.learnedFdtValid)
    (table : after.learnedFdtTable = desk.lifecycle.learnedFdtTable)
    (pending : after.plaintextPending = desk.lifecycle.plaintextPending)
    (stale : after.freshDownValid = desk.lifecycle.freshDownValid) :
    Keeps (log ++ noted) { desk with lifecycle := after } := by
  refine ⟨reasons, ?_, fun rest waits heavy => ?_⟩
  · rcases keeps.state with alive | dead
    · exact .inl (alive.on neutral (congrArg stage phase) raw threshold valid table
        (.inl pending))
    · exact .inr ⟨phase ▸ dead.phase, valid.trans dead.unlearned, stale.trans dead.stale⟩
  · show stage after.phase = .learned ∨ after.phase = .terminal
    rw [phase]
    exact keeps.contact rest waits heavy

/-- A call of a lifecycle that has not failed, from one phase of a stage to another. -/
theorem Keeps.moved (reasons : Justified Rests (log ++ heard)) {after : Lifecycle}
    (alive : Alive (log ++ heard) after) (same : stage after.phase = stage desk.lifecycle.phase)
    (running : desk.lifecycle.phase ≠ .terminal) (keeps : Keeps log desk) :
    Keeps (log ++ heard) { desk with lifecycle := after } := by
  refine ⟨reasons, .inl alive, fun rest waits heavy => .inl ?_⟩
  show stage after.phase = .learned
  rw [same]
  exact (keeps.contact rest waits heavy).resolve_right running

theorem Keeps.performed (keeps : Keeps log desk) {noted : List Noted} {after : Lifecycle}
    {callouts : List Callout} (performed : Performed desk.lifecycle noted after callouts) :
    Keeps (log ++ noted) { desk with lifecycle := after } := by
  have rests := keeps.rests
  have silent : Justified Rests (log ++ []) := by simpa using rests
  have nothing : Neutral [] := neutral_of rfl rfl nofun
  cases performed with
  | nothing => exact keeps.quiet silent nothing rfl rfl rfl rfl rfl rfl rfl
  | refused error =>
    exact keeps.quiet (rests_concat rests trivial) (neutral_of rfl rfl (by simp)) rfl rfl rfl rfl
      rfl rfl rfl
  | configured phase handoff gate kept =>
    exact keeps.quiet silent nothing rfl rfl rfl rfl rfl rfl rfl
  | @started packet phase sends =>
    have alive := alive_of_phase keeps.state phase nofun nofun
    have reasons : Justified Rests (log ++ [.submitted 0xd4 packet]) :=
      rests_concat rests fun arms => absurd arms (by decide)
    refine keeps.moved reasons ?_ (by rw [phase]; rfl) (by rw [phase]; nofun)
    exact alive.on (neutral_of rfl rfl (by simp)) (by rw [phase]; rfl) rfl rfl rfl rfl (.inl rfl)
  | @unstarted after error phase unsent =>
    have neutral : Neutral [Noted.refused error] := neutral_of rfl rfl (by simp)
    rcases unsent with ⟨pending, rfl⟩ | ⟨free, refuses, rfl⟩
    · exact keeps.quiet (rests_concat rests trivial) neutral rfl rfl rfl rfl rfl rfl rfl
    · have alive := alive_of_phase keeps.state phase nofun nofun
      have reasons : Justified Rests (log ++ [.refused error]) := rests_concat rests trivial
      refine keeps.moved reasons ?_ (by rw [phase]; rfl) (by rw [phase]; nofun)
      exact alive.on neutral (by rw [phase]; rfl) rfl rfl rfl rfl (.inl rfl)
  | failed fallen => exact .fallen (rests_concat rests trivial) fallen
  | awaits awaiting running unstopped =>
    exact keeps.quiet (rests_concat rests trivial) (neutral_of rfl rfl (by simp)) rfl rfl rfl rfl
      rfl rfl rfl
  | @rearmed packet phase fresh first sends =>
    have alive := alive_of_phase keeps.state phase nofun nofun
    have late : stage desk.lifecycle.phase = .learned := by rw [phase]; rfl
    have awaited : Alive (log ++ [.awaiting true]) desk.lifecycle :=
      alive.on (neutral_of rfl rfl (by simp)) rfl rfl rfl rfl rfl (.inl rfl)
    have reasons : Justified Rests (log ++ [.awaiting true, .submitted 0x32 packet]) :=
      rests_pair rests trivial (awaited.rests_submitted late _ _)
    refine keeps.moved reasons ?_ late.symm (by rw [phase]; nofun)
    exact alive.late late rfl rfl rfl (by simp) rfl
  | unrearmed phase fallen => exact .fallen (rests_pair rests trivial trivial) fallen
  | authorized gate first phase =>
    exact keeps.quiet (rests_concat rests trivial) (neutral_of rfl rfl (by simp)) rfl rfl rfl rfl
      rfl rfl rfl
  | @nextLogin next packet timestamp gate authorized below phase fresh profile drained prepared
      sends =>
    rcases keeps.state with alive | dead
    · subst prepared
      have late : stage desk.lifecycle.phase = .learned := by rw [phase]; rfl
      have granted : Alive (log ++ [.nextLogin]) desk.lifecycle :=
        alive.on (neutral_of rfl rfl (by simp)) rfl rfl rfl rfl rfl (.inl rfl)
      have reasons : Justified Rests (log ++ [.nextLogin, .submitted 0x32 packet]) :=
        rests_pair rests trivial (granted.rests_submitted late _ _)
      refine keeps.moved reasons ?_ late.symm (by rw [phase]; nofun)
      exact alive.late late rfl rfl rfl (by simp) rfl
    · cases dead.stale.symm.trans fresh
  | @noNextLogin next after timestamp error gate authorized below phase fresh profile drained
      prepared unsent =>
    rcases keeps.state with alive | dead
    · subst prepared
      have late : stage desk.lifecycle.phase = .learned := by rw [phase]; rfl
      have justified : Justified Rests (log ++ [.nextLogin, .refused error]) :=
        rests_pair rests trivial trivial
      rcases unsent with ⟨pending, rfl⟩ | ⟨free, refuses, rfl⟩
      · exact keeps.moved justified (alive.late late rfl rfl rfl (by simp) rfl) late.symm
          (by rw [phase]; nofun)
      · exact keeps.moved justified (alive.late late rfl rfl rfl (by simp) rfl) late.symm
          (by rw [phase]; nofun)
    · cases dead.stale.symm.trans fresh
  | outDone generation took mine pending running callback =>
    exact keeps.quiet (rests_concat rests trivial) (neutral_of rfl rfl (by simp)) rfl rfl rfl rfl
      rfl rfl rfl
  | outFailed generation took fallen => exact .fallen (rests_pair rests trivial trivial) fallen
  | outIgnored generation error took deaf =>
    exact keeps.quiet (rests_concat rests trivial) (neutral_of rfl rfl (by simp)) rfl rfl rfl rfl
      rfl rfl rfl
  | fenced unfenced => exact keeps.quiet silent nothing rfl rfl rfl rfl rfl rfl rfl
  | received callouts same due => exact keeps.quiet silent nothing rfl rfl rfl rfl rfl rfl rfl

/-- What a copy of the table rests on. -/
theorem Keeps.copies (keeps : Keeps log desk) {table : Block 12}
    (copied : desk.lifecycle.copyLearnedFdt = some table) :
    Bootstrapped log table ∧ ∀ error, .failed error ∉ log := by
  unfold Lifecycle.copyLearnedFdt at copied
  split at copied
  · cases copied
  · rename_i ready
    cases copied
    simp only [not_or, Bool.not_eq_false] at ready
    rcases keeps.state with alive | dead
    · by_cases late : stage desk.lifecycle.phase = .learned
      · exact ⟨alive.bootstrapped late, alive.unfailed⟩
      · cases (alive.early late).unlearned.symm.trans ready.1
    · cases dead.unlearned.symm.trans ready.1

theorem Keeps.move (keeps : Keeps log desk) {noted : List Noted} {after : Desk}
    (moved : Move desk noted after) : Keeps (log ++ noted) after := by
  cases moved with
  | delivered idle delivered => exact keeps.delivered delivered
  | finished waits finished => exact keeps.finished waits finished
  | performed performed => exact keeps.performed performed
  | copied =>
    refine keeps.quiet (rests_concat keeps.rests ?_) (neutral_of rfl rfl (by simp)) rfl rfl rfl rfl
      rfl rfl rfl
    cases copied : desk.lifecycle.copyLearnedFdt with
    | none => trivial
    | some table => exact keeps.copies copied
  | called callback =>
    exact keeps.quiet (rests_concat keeps.rests trivial) (neutral_of rfl rfl (by simp)) rfl rfl rfl
      rfl rfl rfl rfl
  | drained =>
    exact keeps.quiet (rests_concat keeps.rests trivial) (neutral_of rfl rfl (by simp)) rfl rfl rfl
      rfl rfl rfl rfl

theorem keeps_new {backend : Backend Owner} {generation : Nat} {material : Material}
    {listeners : Listeners} (made : Lifecycle.new backend generation material listeners =
      .ok lifecycle) : Keeps [] ⟨lifecycle, none⟩ := by
  unfold Lifecycle.new at made
  split at made
  · cases made
  · split at made
    · cases made
    · cases made
      refine ⟨justified_nil _, .inl ⟨nofun, ⟨rfl, rfl, rfl⟩, fun _ => ⟨rfl, fun _ => rfl⟩⟩, nofun⟩

/-- What an entry has before it in a log, whatever the order of the calls and of what happens
inside them: an arming command and the learned table the whole bootstrap, a copy of the table the
bootstrap and no failure. -/
theorem post_tls_bootstrap {backend : Backend Owner} {generation : Nat} {material : Material}
    {listeners : Listeners} {start : Lifecycle}
    (made : Lifecycle.new backend generation material listeners = .ok start)
    (actions : List (Callbacks.Action Call)) :
    let run := Machines.run Desk.program.step ⟨⟨start, none⟩, []⟩ actions
    let lifecycle := run.1.state.lifecycle
    (∀ before entry after, run.2 = before ++ entry :: after → Rests before entry) ∧
      (lifecycle.learnedFdtValid = true → Bootstrapped run.2 lifecycle.learnedFdtTable) ∧
      (∀ table, lifecycle.copyLearnedFdt = some table → Bootstrapped run.2 table) ∧
      ((∃ error, .failed error ∈ run.2) → lifecycle.copyLearnedFdt = none) := by
  intro run lifecycle
  have keeps : Keeps run.2 run.1.state := run_invariant (keeps_new made)
    (fun log before noted after keeps moved => keeps.move moved) actions
  refine ⟨keeps.rests, fun valid => ?_, fun table copied => (keeps.copies copied).1, ?_⟩
  · rcases keeps.state with alive | dead
    · by_cases late : stage lifecycle.phase = .learned
      · exact alive.bootstrapped late
      · cases (alive.early late).unlearned.symm.trans valid
    · cases dead.unlearned.symm.trans valid
  · rintro ⟨error, failed⟩
    cases copied : lifecycle.copyLearnedFdt with
    | none => rfl
    | some table => exact absurd failed ((keeps.copies copied).2 error)

/-- The run of a contact: the table is learned behind the bootstrap, the finger is waited for, and
the cancel takes the table away. -/
theorem post_tls_bootstrap_contact :
    let learned := Machines.run Desk.program.step ⟨⟨plainLifecycle, none⟩, []⟩ contacted
    let ended := Machines.run Desk.program.step ⟨⟨plainLifecycle, none⟩, []⟩ cancelledContact
    (∃ table, learned.1.state.lifecycle.copyLearnedFdt = some table ∧ Bootstrapped learned.2 table) ∧
      (∃ packet, .submitted 0x32 packet ∈ ended.2) ∧
      ended.1.state.lifecycle.copyLearnedFdt = none ∧
      ∀ before entry after, ended.2 = before ++ entry :: after → Rests before entry := by
  have learned := (post_tls_bootstrap plainLifecycle_new contacted).2.2.1
  have ended := post_tls_bootstrap plainLifecycle_new cancelledContact
  rw [run_contacted plainLifecycle_takes.1] at learned ⊢
  rw [run_cancelledContact plainLifecycle_takes.1 plainLifecycle_takes.2] at ended ⊢
  dsimp only at learned ended ⊢
  have valid : (atContact plainLifecycle).state.lifecycle.copyLearnedFdt.isSome = true := by
    decide +kernel
  have commands : (Machines.run Desk.program.step (afterImage (atBaseline plainLifecycle)).1
      untilContact).2.any (Noted.commands 0x32) = true := by
    decide +kernel
  have failed : (Machines.run Desk.program.step (afterImage (atContact plainLifecycle)).1
      cancelledRelease).2.any Noted.fails = true := by
    decide +kernel
  obtain ⟨table, copied⟩ := Option.isSome_iff_exists.mp valid
  obtain ⟨error, inside⟩ := failed_of_fails failed
  refine ⟨⟨table, copied, learned table copied⟩, submitted_of_commands ?_, ended.2.2.2 ⟨error, ?_⟩, ended.1⟩
  · simp only [releaseLog, contactLog, List.any_append, commands, Bool.or_true, Bool.true_or]
  · exact List.mem_append_right _ inside

end Goodix.PostTls
