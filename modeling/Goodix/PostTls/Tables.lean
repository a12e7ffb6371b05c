import Goodix.PostTls.Story

/-! # The tables on the wire

Every FDT table that is sent is the whole result of one derivation: which one follows from the
story of the run.  A lifecycle that has not failed has in its fields what the story says.
-/

namespace Goodix.PostTls

open Octets A0Protocol FdtIrqPolicy ImageDecoder Usb Traces

/-! ## What a command carries -/

/-- When the table of an interrupt is the one to arm with: the sample's at first, that of an
IRQ0080 right behind it, that of an IRQ0200 behind a contact. -/
def Source.Due (story : Story) : Source → Prop
  | .sample _ _ => story.armed = false
  | .irq80 _ => story.armed = true ∧ story.rearm = .accepted
  | .released _ => story.armed = true ∧ story.rearm = .idle

/-- What a packet has in it, by the story before it is sent. -/
def Carries (story : Story) : Noted → Prop
  | .submitted control packet =>
    (control = 0x36 → ∃ table, story.baseline = some table ∧
      fixed64Command 0x36 ([0x09, 0x01] ++ table.val) = .ok packet) ∧
    (control = 0x34 → ∃ table, story.up = some table ∧
      fixed64Command 0x34 ([0x0a, 0x01] ++ table.val) = .ok packet) ∧
    (control = 0x32 → ∃ source table timestamp, story.source = some source ∧ source.Due story ∧
      source.table = some table ∧
      fixed64Command 0x32 ([0x08, 0x01] ++ table.val ++ putU16Le timestamp) = .ok packet)
  | _ => True

/-! ## What the lifecycle has in its fields -/

inductive Era where
  | unsampled
  | sampled
  /-- Armed, and no contact yet. -/
  | waiting
  /-- Behind the IRQ2 of a contact. -/
  | touched
  /-- Behind its image. -/
  | imaged
  /-- Behind its IRQ0200. -/
  | letting
  | gate
  /-- The second acquisition. -/
  | second
  | stopped
  | ended
  deriving DecidableEq

def era : Phase → Era
  | .notStarted | .d4 | .af | .fdt36_1 | .fdtIrq100_1 => .unsampled
  | .fdtNav_1 | .fdt36_2 | .fdtIrq100_2 | .fdt_82 | .fdt_20 | .fdtB0 | .fdt36_3
  | .fdtIrq100_3 => .sampled
  | .firstArm | .firstIrq2 => .waiting
  | .first_22 | .firstB0 => .touched
  | .release_34 | .releaseIrq200 => .imaged
  | .release_20 | .releaseB0 | .release_50 | .releaseNav => .letting
  | .rearmGate => .gate
  | .secondArm | .secondIrq2 | .second_22 | .secondB0 => .second
  | .stop => .stopped
  | .terminal => .ended

/-- The fresh table is that of the last interrupt, an IRQ0200. -/
def Released (story : Story) (lifecycle : Lifecycle) : Prop :=
  ∃ event, story.source = some (.released event) ∧
    (Source.released event).table = some lifecycle.freshDownTable

/-- The current table is that of the last sample, or the seed. -/
structure Boots (story : Story) (lifecycle : Lifecycle) (sampled : Bool) : Prop where
  baseline : story.baseline = some lifecycle.currentFdtTable
  unarmed : story.armed = false
  sampled : story.sampled = sampled
  stale : lifecycle.freshDownValid = false

/-- The tables that are sent in an era or in those behind it. -/
def TablesIn (era : Era) (story : Story) (lifecycle : Lifecycle) : Prop :=
  match era with
  | .unsampled => Boots story lifecycle false
  | .sampled => Boots story lifecycle true
  | .waiting | .imaged => story.armed = true ∧ lifecycle.freshDownValid = false
  | .touched =>
    story.armed = true ∧ lifecycle.freshDownValid = false ∧ story.up = some lifecycle.firstUpTable
  | .letting => story.armed = true ∧ Released story lifecycle
  | .gate =>
    story.armed = true ∧ (lifecycle.freshDownValid = true →
      Released story lifecycle ∧ lifecycle.material.captureProfile = .twoAcquisition)
  | .second =>
    story.armed = true ∧ (lifecycle.freshDownValid = true →
      lifecycle.material.captureProfile = .twoAcquisition)
  | .stopped =>
    story.armed = true ∧ (lifecycle.freshDownValid = true →
      lifecycle.material.captureProfile = .singleAcquisition → Released story lifecycle)
  | .ended => False

def Tables (story : Story) (lifecycle : Lifecycle) : Prop :=
  TablesIn (era lifecycle.phase) story lifecycle

/-- The IRQ0080 are counted until a contact comes. -/
structure Counts (story : Story) (lifecycle : Lifecycle) : Prop where
  same : story.irq80s = lifecycle.firstContactIrq80Count
  below : lifecycle.firstContactIrq80Count ≤ 2
  spent : lifecycle.firstContactIrq80Count = 0 ∨ era lifecycle.phase = .waiting ∨
    era lifecycle.phase = .stopped

/-- How far the answer to an IRQ0080 has come. -/
structure Rearms (story : Story) (lifecycle : Lifecycle) : Prop where
  idle : lifecycle.irq80RearmPending = false → story.rearm = .idle
  pending : lifecycle.irq80RearmPending = true → lifecycle.phase = .firstArm ∧
    lifecycle.expectedAck = 0x32 ∧
    (story.rearm = .completed ∨ (lifecycle.outPending = true ∧ story.rearm = .sent))

/-- Where a delivery waits. -/
def Pends (story : Story) (lifecycle : Lifecycle) : Option Rest → Prop
  | some (.imageCommand false) =>
    lifecycle.phase = .firstIrq2 ∧ story.up = some lifecycle.firstUpTable ∧
      lifecycle.firstContactIrq80Count = 0
  | some (.imageCommand true) => lifecycle.phase = .secondIrq2
  | some (.firstImage _ _) => lifecycle.phase = .firstB0
  | some (.secondImage _ _) => lifecycle.phase = .secondB0
  | _ => True

structure Agrees (story : Story) (lifecycle : Lifecycle) (delivery : Option Rest) : Prop where
  tables : Tables story lifecycle
  counts : Counts story lifecycle
  rearms : Rearms story lifecycle
  waits : Pends story lifecycle delivery

/-- Something has failed. -/
def Fails (log : List Noted) : Prop := ∃ error, .failed error ∈ log

theorem Fails.append {log noted : List Noted} (fails : Fails log ∨ Fails noted) : Fails (log ++ noted) := by
  obtain ⟨error, inside⟩ | ⟨error, inside⟩ := fails
  · exact ⟨error, List.mem_append_left _ inside⟩
  · exact ⟨error, List.mem_append_right _ inside⟩

/-- The log carries the right tables, and the story is that of the lifecycle. -/
structure Tells (seed : Block 12) (log : List Noted) (desk : Desk) : Prop where
  carries : Justified (fun before entry => Carries (storyOf seed before) entry) log
  state : Agrees (storyOf seed log) desk.lifecycle desk.delivery ∨ Dead desk.lifecycle ∧ Fails log

/-! ## What a move leaves alone -/

/-- The fields the story is about. -/
structure SameFields (before after : Lifecycle) : Prop where
  current : after.currentFdtTable = before.currentFdtTable
  up : after.firstUpTable = before.firstUpTable
  down : after.freshDownTable = before.freshDownTable
  valid : after.freshDownValid = before.freshDownValid
  profile : after.material.captureProfile = before.material.captureProfile
  count : after.firstContactIrq80Count = before.firstContactIrq80Count

variable {seed : Block 12} {log noted heard : List Noted} {story : Story}
  {lifecycle accepted before after : Lifecycle} {delivery : Option Rest} {desk : Desk}
  {control : UInt8} {body packet : List UInt8} {next : Phase} {frame : List UInt8}

/-- Within an era the tables are the same. -/
theorem Tables.within (tables : Tables story before) (same : SameFields before after)
    (within : era after.phase = era before.phase) : Tables story after := by
  obtain ⟨current, up, down, valid, profile, -⟩ := same
  unfold Tables at tables ⊢
  rw [within]
  generalize era before.phase = here at tables
  cases here with
  | unsampled | sampled =>
    obtain ⟨baseline, unarmed, sampled, stale⟩ := tables
    exact ⟨current ▸ baseline, unarmed, sampled, valid.trans stale⟩
  | waiting | imaged => exact ⟨tables.1, valid.trans tables.2⟩
  | touched => exact ⟨tables.1, valid.trans tables.2.1, up ▸ tables.2.2⟩
  | letting | gate | second | stopped =>
    simp only [TablesIn, Released, down, valid, profile] at tables ⊢
    exact tables
  | ended => exact tables

theorem Counts.within (counts : Counts story before) (same : SameFields before after)
    (within : era after.phase = era before.phase) : Counts story after := by
  refine ⟨counts.same.trans same.count.symm, ?_, ?_⟩
  · rw [same.count]
    exact counts.below
  · rw [same.count, within]
    exact counts.spent

/-- Before its re-arming is answered, the lifecycle stays where it armed the sensor. -/
theorem Rearms.settled (rearms : Rearms story lifecycle) (elsewhere : lifecycle.phase ≠ .firstArm) :
    lifecycle.irq80RearmPending = false := by
  cases pending : lifecycle.irq80RearmPending with
  | false => rfl
  | true => exact absurd (rearms.pending pending).1 elsewhere

theorem Rearms.rest (rearms : Rearms story before) (settled : before.irq80RearmPending = false)
    (same : after.irq80RearmPending = before.irq80RearmPending) : Rearms story after := by
  refine ⟨fun _ => rearms.idle settled, fun pending => ?_⟩
  rw [same, settled] at pending
  cases pending

/-- The phases in which a delivery waits with something to send. -/
def Phase.busy : Phase → Bool
  | .firstIrq2 | .secondIrq2 | .firstB0 | .secondB0 => true
  | _ => false

theorem Pends.free (waits : Pends story before delivery) (free : before.phase.busy = false)
    {later : Story} : Pends later after delivery := by
  match delivery with
  | none | some .nothing | some .rearm | some (.handedOff _ _) => trivial
  | some (.imageCommand false) => rw [waits.1] at free; cases free
  | some (.imageCommand true) =>
    have phase : before.phase = _ := waits
    rw [phase] at free
    cases free
  | some (.firstImage _ _) =>
    have phase : before.phase = _ := waits
    rw [phase] at free
    cases free
  | some (.secondImage _ _) =>
    have phase : before.phase = _ := waits
    rw [phase] at free
    cases free

theorem Pends.same (waits : Pends story before delivery) (same : SameFields before after)
    (phase : after.phase = before.phase) : Pends story after delivery := by
  match delivery with
  | none | some .nothing | some .rearm | some (.handedOff _ _) => trivial
  | some (.imageCommand false) =>
    exact ⟨phase.trans waits.1, same.up ▸ waits.2.1, same.count.trans waits.2.2⟩
  | some (.imageCommand true) => exact phase.trans waits
  | some (.firstImage _ _) => exact phase.trans waits
  | some (.secondImage _ _) => exact phase.trans waits

/-- A move that the story does not tell of. -/
theorem Agrees.quiet (agrees : Agrees story before delivery) (same : SameFields before after)
    (phase : after.phase = before.phase)
    (pending : after.irq80RearmPending = before.irq80RearmPending)
    (ack : after.expectedAck = before.expectedAck)
    (out : after.outPending = before.outPending) : Agrees story after delivery := by
  refine ⟨agrees.tables.within same (congrArg era phase), agrees.counts.within same (congrArg era phase),
    ⟨fun settled => ?_, fun waiting => ?_⟩, agrees.waits.same same phase⟩
  · exact agrees.rearms.idle (pending ▸ settled)
  · rw [phase, ack, out]
    exact agrees.rearms.pending (pending ▸ waiting)

/-- A move from one phase of an era to another, when no re-arming is under way. -/
theorem Agrees.moves {rest : Option Rest} (agrees : Agrees story before none)
    (same : SameFields before after) (within : era after.phase = era before.phase)
    (settled : before.irq80RearmPending = false)
    (pending : after.irq80RearmPending = before.irq80RearmPending)
    (waits : Pends story after rest) : Agrees story after rest :=
  ⟨agrees.tables.within same within, agrees.counts.within same within,
    agrees.rearms.rest settled pending, waits⟩

/-! ## What an entry does to the story -/

theorem after_frame (unheard : signalOf frame = none) : story.after (.a0 frame) = story := by
  simp only [Story.after, unheard]

theorem after_signal {signal : Signal} (heard : signalOf frame = some signal) :
    story.after (.a0 frame) = story.hear signal := by
  simp only [Story.after, heard]

/-- An ACK answers an IRQ0080 only when its command is out. -/
theorem after_ack {acked : UInt8} (ack : IsAck acked frame) (idle : story.rearm ≠ .completed) :
    story.after (.a0 frame) = story := by
  rw [after_signal (isAck_signal ack)]
  simp [Story.hear, idle]

theorem after_submitted (other : control ≠ 0x32) : story.after (.submitted control packet) = story := by
  simp [Story.after, other]

theorem carries_other (table : control ≠ 0x36) (up : control ≠ 0x34) (arm : control ≠ 0x32) :
    Carries story (.submitted control packet) :=
  ⟨fun same => absurd same table, fun same => absurd same up, fun same => absurd same arm⟩

theorem carries_baseline {table : Block 12} (baseline : story.baseline = some table)
    (built : fixed64Command 0x36 ([0x09, 0x01] ++ table.val) = .ok packet) :
    Carries story (.submitted 0x36 packet) :=
  ⟨fun _ => ⟨table, baseline, built⟩, fun same => absurd same (by decide),
    fun same => absurd same (by decide)⟩

theorem carries_up {table : Block 12} (up : story.up = some table)
    (built : fixed64Command 0x34 ([0x0a, 0x01] ++ table.val) = .ok packet) :
    Carries story (.submitted 0x34 packet) :=
  ⟨fun same => absurd same (by decide), fun _ => ⟨table, up, built⟩,
    fun same => absurd same (by decide)⟩

theorem carries_arm {source : Source} {table : Block 12} {timestamp : UInt16}
    (last : story.source = some source) (due : source.Due story) (derived : source.table = some table)
    (built : fixed64Command 0x32 ([0x08, 0x01] ++ table.val ++ putU16Le timestamp) = .ok packet) :
    Carries story (.submitted 0x32 packet) :=
  ⟨fun same => absurd same (by decide), fun same => absurd same (by decide),
    fun _ => ⟨source, table, timestamp, last, due, derived, built⟩⟩

/-! ## Deliveries -/

theorem Counts.zero (counts : Counts story lifecycle) (waiting : era lifecycle.phase ≠ .waiting)
    (stopped : era lifecycle.phase ≠ .stopped) : lifecycle.firstContactIrq80Count = 0 := by
  obtain zero | here | here := counts.spent
  · exact zero
  · exact absurd here waiting
  · exact absurd here stopped

/-- The counts of a lifecycle that leaves them alone, where no IRQ0080 has come. -/
theorem Counts.keep {later : Story} (counts : Counts story before)
    (zero : before.firstContactIrq80Count = 0) (heard : later.irq80s = story.irq80s)
    (same : after.firstContactIrq80Count = before.firstContactIrq80Count) : Counts later after := by
  refine ⟨?_, ?_, .inl (same.trans zero)⟩
  · rw [heard, same]
    exact counts.same
  · rw [same]
    exact counts.below

theorem Rearms.keep {later : Story} (rearms : Rearms story before)
    (settled : before.irq80RearmPending = false) (heard : later.rearm = story.rearm)
    (same : after.irq80RearmPending = before.irq80RearmPending) : Rearms later after := by
  refine ⟨fun _ => heard.trans (rearms.idle settled), fun pending => ?_⟩
  rw [same, settled] at pending
  cases pending

/-- What a phase says of the tables. -/
theorem Agrees.at (agrees : Agrees story lifecycle delivery) {phase : Phase}
    (here : lifecycle.phase = phase) : TablesIn (era phase) story lifecycle := by
  have tables := agrees.tables
  unfold Tables at tables
  rwa [here] at tables

/-- A command that carries no table, in the same era. -/
theorem Agrees.sends (agrees : Agrees story lifecycle none) (same : SameFields lifecycle accepted)
    (within : era next = era lifecycle.phase) (settled : lifecycle.irq80RearmPending = false)
    (pending : accepted.irq80RearmPending = lifecycle.irq80RearmPending) (arm : control ≠ 0x32) :
    Agrees (story.after (.submitted control packet)) (accepted.sentWith control next) none := by
  rw [after_submitted arm]
  have kept : SameFields lifecycle (accepted.sentWith control next) :=
    ⟨same.current, same.up, same.down, same.valid, same.profile, same.count⟩
  exact agrees.moves kept within settled pending trivial

/-- What a prompt is answered with carries the right table, and the story goes on. -/
theorem Prompt.tells (prompt : Prompt lifecycle heard accepted control body next)
    (agrees : Agrees story lifecycle none) (built : fixed64Command control body = .ok packet) :
    Carries (heard.foldl Story.after story) (.submitted control packet) ∧
      Agrees ((heard.foldl Story.after story).after (.submitted control packet))
        (accepted.sentWith control next) none := by
  have unchanged : SameFields lifecycle lifecycle := ⟨rfl, rfl, rfl, rfl, rfl, rfl⟩
  have unarmed {phase : Phase} (here : lifecycle.phase = phase) (elsewhere : phase ≠ .firstArm) :
      lifecycle.irq80RearmPending = false := agrees.rearms.settled (by rwa [here])
  have zero {phase : Phase} (here : lifecycle.phase = phase) (waiting : era phase ≠ .waiting)
      (stopped : era phase ≠ .stopped) : lifecycle.firstContactIrq80Count = 0 :=
    agrees.counts.zero (by rwa [here]) (by rwa [here])
  cases prompt with
  | d4 phase fresh ack =>
    have settled := unarmed phase nofun
    have idle : story.rearm ≠ .completed := by rw [agrees.rearms.idle settled]; nofun
    simp only [List.foldl_cons, List.foldl_nil, after_ack ack idle]
    refine ⟨carries_other (by decide) (by decide) (by decide), ?_⟩
    exact agrees.sends ⟨rfl, rfl, rfl, rfl, rfl, rfl⟩ (by rw [phase]; rfl) settled rfl (by decide)
  | controllerState phase state =>
    simp only [List.foldl_cons, List.foldl_nil, after_frame (isControllerState_signal state)]
    have boots : Boots story _ false := agrees.at phase
    refine ⟨carries_baseline boots.baseline built, ?_⟩
    exact agrees.sends unchanged (by rw [phase]; rfl) (unarmed phase nofun) rfl (by decide)
  | nav phase seen nav =>
    simp only [List.foldl_cons, List.foldl_nil, after_frame (isNav_signal nav)]
    have boots : Boots story _ true := agrees.at phase
    refine ⟨carries_baseline boots.baseline built, ?_⟩
    exact agrees.sends unchanged (by rw [phase]; rfl) (unarmed phase nofun) rfl (by decide)
  | baselineImage phase complete =>
    have boots : Boots story _ true := agrees.at phase
    refine ⟨carries_baseline boots.baseline built, ?_⟩
    exact agrees.sends ⟨rfl, rfl, rfl, rfl, rfl, rfl⟩ (by rw [phase]; rfl) (unarmed phase nofun) rfl
      (by decide)
  | threshold phase seen read =>
    simp only [List.foldl_cons, List.foldl_nil, after_frame (isThreshold_signal read)]
    refine ⟨carries_other (by decide) (by decide) (by decide), ?_⟩
    exact agrees.sends ⟨rfl, rfl, rfl, rfl, rfl, rfl⟩ (by rw [phase]; rfl) (unarmed phase nofun) rfl
      (by decide)
  | released phase =>
    refine ⟨carries_other (by decide) (by decide) (by decide), ?_⟩
    exact agrees.sends unchanged (by rw [phase]; rfl) (unarmed phase nofun) rfl (by decide)
  | @firstSample frame event table phase baseline room derived =>
    have settled := unarmed phase nofun
    have boots : Boots story _ false := agrees.at phase
    simp only [List.foldl_cons, List.foldl_nil, after_signal (isBaseline_signal baseline)]
    refine ⟨carries_other (by decide) (by decide) (by decide), ?_⟩
    rw [after_submitted (by decide)]
    refine ⟨⟨?_, boots.unarmed, rfl, boots.stale⟩,
      agrees.counts.keep (zero phase nofun nofun) rfl rfl, agrees.rearms.keep settled rfl rfl, trivial⟩
    simp only [Story.hear, boots.sampled, Source.table, Bool.not_false, if_true]
    exact derived_firstBaseline derived
  | @secondSample frame event table phase baseline room derived =>
    have settled := unarmed phase nofun
    have boots : Boots story _ true := agrees.at phase
    simp only [List.foldl_cons, List.foldl_nil, after_signal (isBaseline_signal baseline)]
    refine ⟨carries_other (by decide) (by decide) (by decide), ?_⟩
    rw [after_submitted (by decide)]
    refine ⟨⟨?_, boots.unarmed, rfl, boots.stale⟩,
      agrees.counts.keep (zero phase nofun nofun) rfl rfl, agrees.rearms.keep settled rfl rfl, trivial⟩
    simp only [Story.hear, boots.sampled, Source.table, Bool.not_true, Bool.false_eq_true, if_false]
    exact derived_baseline derived
  | @thirdSample frame event table phase baseline room derived =>
    have settled := unarmed phase nofun
    have boots : Boots story _ true := agrees.at phase
    have idle := agrees.rearms.idle settled
    have whole : (Source.sample false event).table = some table := derived_baseline derived
    simp only [List.foldl_cons, List.foldl_nil, after_signal (isBaseline_signal baseline)]
    refine ⟨carries_arm ?_ (by exact boots.unarmed : (Source.sample false event).Due _) whole built, ?_⟩
    · simp [Story.after, Story.hear, boots.sampled]
    · refine ⟨⟨rfl, boots.stale⟩, agrees.counts.keep (zero phase nofun nofun) rfl rfl,
        agrees.rearms.keep settled ?_ rfl, trivial⟩
      simp [Story.after, Story.hear, idle]
  | @irq80 frame event table timestamp phase allowed irq80 below derived =>
    have tables : story.armed = true ∧ lifecycle.freshDownValid = false := agrees.at phase
    simp only [List.foldl_cons, List.foldl_nil, after_signal (isIrq80_signal irq80)]
    refine ⟨carries_arm rfl (by exact ⟨tables.1, rfl⟩ : (Source.irq80 event).Due _) (derived_baseline derived) built, ?_⟩
    refine ⟨⟨rfl, tables.2⟩, ⟨?_, ?_, .inr (.inl rfl)⟩, ⟨nofun, fun _ => ⟨rfl, rfl, .inr ⟨rfl, ?_⟩⟩⟩,
      trivial⟩
    · exact congrArg (· + 1) agrees.counts.same
    · exact below
    · simp [Story.after, Story.hear]
  | @fingerUp frame event table phase up derived =>
    have settled := unarmed phase nofun
    have tables : story.armed = true ∧ lifecycle.freshDownValid = false := agrees.at phase
    simp only [List.foldl_cons, List.foldl_nil, after_signal (isFingerUp_signal up)]
    refine ⟨carries_other (by decide) (by decide) (by decide), ?_⟩
    rw [after_submitted (by decide)]
    exact ⟨⟨tables.1, event, rfl, derived_down derived⟩,
      agrees.counts.keep (zero phase nofun nofun) rfl rfl, agrees.rearms.keep settled rfl rfl, trivial⟩

/-! ## Every move -/

/-- A lifecycle that has failed stays so, and sends nothing. -/
theorem Dead.move {noted : List Noted} {after : Desk} (dead : Dead desk.lifecycle)
    (moved : Move desk noted after) :
    Dead after.lifecycle ∧ ∀ control packet, .submitted control packet ∉ noted := by
  have elsewhere {phase : Phase} (here : desk.lifecycle.phase = phase) (running : phase ≠ .terminal)
      (unstopped : phase ≠ .stop) : False := by
    obtain ended | stopped := dead.phase
    · exact running (here.symm.trans ended)
    · exact unstopped (here.symm.trans stopped)
  have alike {same : Lifecycle} (phase : same.phase = desk.lifecycle.phase)
      (learned : same.learnedFdtValid = desk.lifecycle.learnedFdtValid)
      (fresh : same.freshDownValid = desk.lifecycle.freshDownValid) : Dead same :=
    ⟨phase ▸ dead.phase, learned.trans dead.unlearned, fresh.trans dead.stale⟩
  cases moved with
  | delivered idle delivered =>
    cases delivered with
    | ignored => exact ⟨dead, by simp⟩
    | rejectedFrame frame fallen => exact ⟨fallen.dead, by simp⟩
    | rejectedPlaintext octets fallen => exact ⟨fallen.dead, by simp⟩
    | unsent prompt => exact (dead.unprompted prompt).elim
    | sent prompt => exact (dead.unprompted prompt).elim
    | acked advances =>
      obtain ⟨-, running, unstopped⟩ := afterAck_stage advances
      exact (elsewhere rfl running unstopped).elim
    | rearmed phase | armed phase | firstFinger phase | secondFinger phase | contactOver phase =>
      exact (elsewhere phase nofun nofun).elim
    | handoff accepted error phase => exact (elsewhere phase nofun nofun).elim
    | firstImage accepted error phase => exact (elsewhere phase nofun nofun).elim
    | secondImage accepted error phase => exact (elsewhere phase nofun nofun).elim
    | chunk slot =>
      obtain phase | phase | phase := slot <;> exact (elsewhere phase nofun nofun).elim
  | finished waits finished =>
    cases finished with
    | nothing => exact ⟨dead, by simp⟩
    | failed fallen => exact ⟨fallen.dead, by simp⟩
    | imageCommand sends => exact (dead.unsent sends).elim
    | firstImage sends => exact (dead.unsent sends).elim
    | secondImage => exact ⟨⟨.inr rfl, dead.unlearned, dead.stale⟩, by simp⟩
    | rearm phase => exact (elsewhere phase nofun nofun).elim
  | performed performed =>
    cases performed with
    | nothing => exact ⟨dead, by simp⟩
    | refused => exact ⟨dead, by simp⟩
    | configured phase | started phase | unstarted error phase | rearmed phase | unrearmed phase =>
      exact (elsewhere phase nofun nofun).elim
    | authorized gate first phase => exact (elsewhere phase nofun nofun).elim
    | failed fallen => exact ⟨fallen.dead, by simp⟩
    | awaits awaiting running unstopped => exact (elsewhere rfl running unstopped).elim
    | nextLogin timestamp gate authorized below phase fresh =>
      cases dead.stale.symm.trans fresh
    | noNextLogin timestamp error gate authorized below phase fresh =>
      cases dead.stale.symm.trans fresh
    | outDone => exact ⟨alike rfl rfl rfl, by simp⟩
    | outFailed generation took fallen => exact ⟨fallen.dead, by simp⟩
    | outIgnored => exact ⟨alike rfl rfl rfl, by simp⟩
    | fenced => exact ⟨alike rfl rfl rfl, by simp⟩
    | received => exact ⟨alike rfl rfl rfl, by simp⟩
  | copied => exact ⟨dead, by simp⟩
  | called => exact ⟨dead, by simp⟩
  | drained => exact ⟨alike rfl rfl rfl, by simp⟩

/-- Entries without a command carry nothing. -/
theorem carries_append {log noted : List Noted}
    (carries : Justified (fun before entry => Carries (storyOf seed before) entry) log)
    (unsent : ∀ control packet, .submitted control packet ∉ noted) :
    Justified (fun before entry => Carries (storyOf seed before) entry) (log ++ noted) := by
  refine carries.append_free fun entry inside before => ?_
  cases entry with
  | submitted control packet => exact absurd inside (unsent control packet)
  | _ => trivial

theorem Tells.silent {after : Desk} (tells : Tells seed log desk)
    (unsent : ∀ control packet, .submitted control packet ∉ noted)
    (state : Agrees (noted.foldl Story.after (storyOf seed log)) after.lifecycle after.delivery ∨
      Dead after.lifecycle ∧ (Fails log ∨ Fails noted)) : Tells seed (log ++ noted) after := by
  refine ⟨carries_append tells.carries unsent, ?_⟩
  rw [storyOf_append]
  exact state.imp id fun dead => ⟨dead.1, Fails.append dead.2⟩

theorem Tells.spoken (heard : List Noted) {after : Desk} (tells : Tells seed log desk)
    (unsent : ∀ control packet, .submitted control packet ∉ heard)
    (carries : Carries (heard.foldl Story.after (storyOf seed log)) (.submitted control packet))
    (state : Agrees ((heard.foldl Story.after (storyOf seed log)).after (.submitted control packet))
      after.lifecycle after.delivery) :
    Tells seed (log ++ (heard ++ [.submitted control packet])) after := by
  rw [← List.append_assoc]
  refine ⟨justified_concat.mpr ⟨carries_append tells.carries unsent, ?_⟩, .inl ?_⟩
  · rwa [storyOf_append]
  · rw [storyOf_append, storyOf_append]
    exact state

theorem Prompt.unsent (prompt : Prompt lifecycle heard accepted control body next) :
    ∀ other packet, .submitted other packet ∉ heard := by
  cases prompt <;> simp

theorem afterAck_era {phase next : Phase} (advances : afterAck phase = some next) :
    era next = era phase ∧ phase ≠ .firstArm := by
  cases phase <;> cases advances <;> exact ⟨rfl, nofun⟩

theorem Agrees.delivered {noted : List Noted} {after : Lifecycle} {callouts : List Callout}
    {rest : Rest} (agrees : Agrees story lifecycle none)
    (delivered : Delivered lifecycle noted after callouts rest)
    (unsent : ∀ control packet, .submitted control packet ∉ noted) :
    Agrees (noted.foldl Story.after story) after (some rest) ∨ Dead after ∧ Fails noted := by
  have unchanged {same : Lifecycle} {rest : Rest} (fields : SameFields lifecycle same)
      (within : era same.phase = era lifecycle.phase)
      (settled : lifecycle.irq80RearmPending = false)
      (pending : same.irq80RearmPending = lifecycle.irq80RearmPending)
      (waits : Pends story same (some rest)) : Agrees story same (some rest) :=
    agrees.moves fields within settled pending waits
  have unarmed {phase : Phase} (here : lifecycle.phase = phase) (elsewhere : phase ≠ .firstArm) :
      lifecycle.irq80RearmPending = false := agrees.rearms.settled (by rwa [here])
  have unanswered (settled : lifecycle.irq80RearmPending = false) : story.rearm ≠ .completed := by
    rw [agrees.rearms.idle settled]
    nofun
  have zero {phase : Phase} (here : lifecycle.phase = phase) (waiting : era phase ≠ .waiting)
      (stopped : era phase ≠ .stopped) : lifecycle.firstContactIrq80Count = 0 :=
    agrees.counts.zero (by rwa [here]) (by rwa [here])
  cases delivered with
  | ignored => exact .inl ⟨agrees.tables, agrees.counts, agrees.rearms, trivial⟩
  | rejectedFrame frame fallen => exact .inr ⟨fallen.dead, by simp [Fails]⟩
  | rejectedPlaintext octets fallen => exact .inr ⟨fallen.dead, by simp [Fails]⟩
  | unsent prompt fallen => exact .inr ⟨fallen.dead, by simp [Fails]⟩
  | @sent _ _ control _ packet => exact absurd List.mem_concat_self (unsent control packet)
  | acked advances fresh ack =>
    obtain ⟨within, elsewhere⟩ := afterAck_era advances
    have settled := agrees.rearms.settled elsewhere
    simp only [List.foldl_cons, List.foldl_nil, after_ack ack (unanswered settled)]
    exact .inl (unchanged ⟨rfl, rfl, rfl, rfl, rfl, rfl⟩ within settled rfl trivial)
  | armed phase fresh ack settled =>
    simp only [List.foldl_cons, List.foldl_nil, after_ack ack (unanswered settled)]
    exact .inl (unchanged ⟨rfl, rfl, rfl, rfl, rfl, rfl⟩ (by rw [phase]; rfl) settled rfl trivial)
  | @rearmed frame phase fresh ack pending free =>
    -- the command is out, so its ACK is the last thing that was missing
    obtain ⟨-, expected, progress⟩ := agrees.rearms.pending pending
    have completed : story.rearm = .completed := by
      obtain completed | ⟨out, -⟩ := progress
      · exact completed
      · rw [free] at out
        cases out
    have tables : story.armed = true ∧ lifecycle.freshDownValid = false := agrees.at phase
    have answered : story.after (.a0 frame) = { story with rearm := .idle } := by
      rw [after_signal (isAck_signal ack), expected]
      simp [Story.hear, completed]
    simp only [List.foldl_cons, List.foldl_nil, answered]
    exact .inl ⟨tables, ⟨agrees.counts.same, agrees.counts.below, .inr (.inl rfl)⟩,
      ⟨fun _ => rfl, nofun⟩, trivial⟩
  | handoff accepted error phase fresh ack settled =>
    have tables : story.armed = true ∧ lifecycle.freshDownValid = false := agrees.at phase
    simp only [List.foldl_cons, List.foldl_nil, after_ack ack (unanswered settled)]
    refine .inl ⟨⟨tables.1, fun fresh => ?_⟩, ⟨agrees.counts.same, agrees.counts.below, .inr (.inr rfl)⟩,
      agrees.rearms.rest settled rfl, trivial⟩
    cases tables.2.symm.trans fresh
  | @firstFinger frame event table phase allowed down derived =>
    have tables : story.armed = true ∧ lifecycle.freshDownValid = false := agrees.at phase
    have up := derived_up derived
    simp only [List.foldl_cons, List.foldl_nil, after_signal (isFingerDown_signal down)]
    refine .inl ⟨?_, ⟨rfl, Nat.zero_le 2, .inl rfl⟩,
      agrees.rearms.keep (unarmed phase nofun) rfl rfl, phase, up, rfl⟩
    unfold Tables
    rw [show era _ = Era.waiting from congrArg era phase]
    exact tables
  | @secondFinger frame event phase allowed down =>
    have tables : story.armed = true ∧ _ := agrees.at phase
    have none := zero phase nofun nofun
    simp only [List.foldl_cons, List.foldl_nil, after_signal (isFingerDown_signal down)]
    refine .inl ⟨?_, ⟨none.symm, agrees.counts.below, agrees.counts.spent⟩,
      agrees.rearms.keep (unarmed phase nofun) rfl rfl, phase⟩
    unfold Tables
    rw [phase]
    exact tables
  | chunk slot =>
    refine .inl (unchanged ⟨rfl, rfl, rfl, rfl, rfl, rfl⟩ rfl ?_ rfl trivial)
    obtain phase | phase | phase := slot <;> exact unarmed phase nofun
  | firstImage accepted error phase =>
    exact .inl (unchanged ⟨rfl, rfl, rfl, rfl, rfl, rfl⟩ rfl (unarmed phase nofun) rfl phase)
  | secondImage accepted error phase =>
    exact .inl (unchanged ⟨rfl, rfl, rfl, rfl, rfl, rfl⟩ rfl (unarmed phase nofun) rfl phase)
  | @contactOver frame phase nav =>
    have tables : story.armed = true ∧ Released story lifecycle := agrees.at phase
    have none := zero phase nofun nofun
    have settled := unarmed phase nofun
    simp only [List.foldl_cons, List.foldl_nil, after_frame (isNav_signal nav)]
    refine .inl ⟨?_, agrees.counts.keep none rfl rfl, agrees.rearms.rest settled rfl, trivial⟩
    unfold Tables
    cases profile : lifecycle.material.captureProfile with
    | singleAcquisition => exact ⟨tables.1, fun _ _ => tables.2⟩
    | twoAcquisition => exact ⟨tables.1, fun _ => ⟨tables.2, profile⟩⟩

theorem Tells.delivered {noted : List Noted} {after : Lifecycle} {callouts : List Callout}
    {rest : Rest} (tells : Tells seed log desk) (idle : desk.delivery = none)
    (delivered : Delivered desk.lifecycle noted after callouts rest) :
    Tells seed (log ++ noted) ⟨after, some rest⟩ := by
  cases tells.state with
  | inr dead =>
    obtain ⟨ended, unsent⟩ := dead.1.move (.delivered idle delivered)
    exact tells.silent unsent (.inr ⟨ended, .inl dead.2⟩)
  | inl agrees =>
    rw [idle] at agrees
    by_cases silent : ∀ control packet, .submitted control packet ∉ noted
    · refine tells.silent silent ((agrees.delivered delivered silent).imp id fun dead => ?_)
      exact ⟨dead.1, .inr dead.2⟩
    · cases delivered with
      | sent prompt sends =>
        obtain ⟨carries, agrees⟩ := prompt.tells agrees sends.built
        exact tells.spoken _ prompt.unsent carries
          ⟨agrees.tables, agrees.counts, agrees.rearms, trivial⟩
      | unsent prompt fallen =>
        refine absurd (fun control packet inside => ?_) silent
        obtain heard | ended := List.mem_append.mp inside
        · exact prompt.unsent control packet heard
        · simp at ended
      | _ => exact absurd (by simp) silent

/-! ## The ends of deliveries -/

theorem Agrees.rested (agrees : Agrees story lifecycle delivery) : Agrees story lifecycle none :=
  ⟨agrees.tables, agrees.counts, agrees.rearms, trivial⟩

/-- Where a command follows an image it asks for. -/
theorem Agrees.commanded {second : Bool}
    (agrees : Agrees story lifecycle (some (.imageCommand second))) :
    Agrees (story.after (.submitted 0x22 packet))
      (lifecycle.sentWith 0x22 (Lifecycle.imagePhase second)) none := by
  rw [after_submitted (by decide)]
  cases second with
  | false =>
    obtain ⟨phase, up, zero⟩ := agrees.waits
    have tables : story.armed = true ∧ lifecycle.freshDownValid = false := agrees.at phase
    have settled := agrees.rearms.settled (by rw [phase]; nofun)
    exact ⟨⟨tables.1, tables.2, up⟩, agrees.counts.keep zero rfl rfl, agrees.rearms.rest settled rfl,
      trivial⟩
  | true =>
    have phase : lifecycle.phase = .secondIrq2 := agrees.waits
    have settled := agrees.rearms.settled (by rw [phase]; nofun)
    have kept : SameFields lifecycle (lifecycle.sentWith 0x22 (Lifecycle.imagePhase true)) :=
      ⟨rfl, rfl, rfl, rfl, rfl, rfl⟩
    exact agrees.rested.moves kept (by rw [phase]; rfl) settled rfl trivial

theorem Tells.finished {noted : List Noted} {after : Lifecycle} {callouts : List Callout}
    {rest : Rest} (tells : Tells seed log desk) (waits : desk.delivery = some rest)
    (finished : Finished desk.lifecycle rest noted after callouts) :
    Tells seed (log ++ noted) ⟨after, none⟩ := by
  cases tells.state with
  | inr dead =>
    obtain ⟨ended, unsent⟩ := dead.1.move (.finished waits finished)
    exact tells.silent unsent (.inr ⟨ended, .inl dead.2⟩)
  | inl agrees =>
    rw [waits] at agrees
    cases finished with
    | nothing => exact tells.silent (by simp) (.inl agrees.rested)
    | failed fallen => exact tells.silent (by simp) (.inr ⟨fallen.dead, by simp [Fails]⟩)
    | imageCommand sends =>
      exact tells.spoken [] (by simp) (carries_other (by decide) (by decide) (by decide))
        agrees.commanded
    | firstImage sends =>
      have phase : desk.lifecycle.phase = .firstB0 := agrees.waits
      have tables : (storyOf seed log).armed = true ∧ _ ∧ _ := agrees.at phase
      have settled := agrees.rearms.settled (by rw [phase]; nofun)
      have zero := agrees.counts.zero (by rw [phase]; nofun) (by rw [phase]; nofun)
      refine tells.spoken [] (by simp) (carries_up tables.2.2 sends.built) ?_
      rw [after_submitted (by decide)]
      exact ⟨⟨tables.1, tables.2.1⟩, agrees.counts.keep zero rfl rfl, agrees.rearms.rest settled rfl,
        trivial⟩
    | secondImage =>
      have phase : desk.lifecycle.phase = .secondB0 := agrees.waits
      have tables : (storyOf seed log).armed = true ∧ _ := agrees.at phase
      have settled := agrees.rearms.settled (by rw [phase]; nofun)
      have zero := agrees.counts.zero (by rw [phase]; nofun) (by rw [phase]; nofun)
      refine tells.silent (by simp) (.inl ⟨⟨tables.1, fun fresh single => ?_⟩,
        agrees.counts.keep zero rfl rfl, agrees.rearms.rest settled rfl, trivial⟩)
      cases (tables.2 fresh).symm.trans single
    | rearm phase awaits fresh first sends =>
      have tables : (storyOf seed log).armed = true ∧ _ := agrees.at phase
      have settled := agrees.rearms.settled (by rw [phase]; nofun)
      have zero := agrees.counts.zero (by rw [phase]; nofun) (by rw [phase]; nofun)
      obtain ⟨⟨event, last, derived⟩, two⟩ := tables.2 fresh
      have idle := agrees.rearms.idle settled
      have due : (Source.released event).Due (storyOf seed log) := ⟨tables.1, idle⟩
      refine tells.spoken [] (by simp) (carries_arm last due derived sends.built) ?_
      refine ⟨⟨rfl, fun _ => two⟩, agrees.counts.keep zero rfl rfl,
        agrees.rearms.keep settled ?_ rfl, trivial⟩
      simp [Story.after, idle]

/-! ## Calls -/

/-- A command that is not sent, with what went before it. -/
theorem Agrees.unsent (agrees : Agrees story before delivery) {after : Lifecycle}
    (within : era next = era before.phase) (settled : before.irq80RearmPending = false)
    (free : before.phase.busy = false) (unsent : Unsent before control next after) :
    Agrees story after delivery := by
  obtain ⟨-, rfl⟩ | ⟨-, -, rfl⟩ := unsent
  · exact agrees
  · have kept : SameFields before (before.refusedWith control next) := ⟨rfl, rfl, rfl, rfl, rfl, rfl⟩
    exact agrees.rested.moves kept within settled rfl (agrees.waits.free free)

/-- A lifecycle that is on its way to the next login. -/
structure Relogin (before after : Lifecycle) : Prop where
  early : after.phase = .rearmGate ∨ after.phase = .firstArm
  none : after.firstContactIrq80Count = 0
  stale : after.freshDownValid = false
  pending : after.irq80RearmPending = before.irq80RearmPending

theorem Agrees.again {later : Story} (agrees : Agrees story before delivery)
    (again : Relogin before after) (armed : later.armed = true) (none : later.irq80s = 0)
    (idle : later.rearm = .idle) (settled : before.irq80RearmPending = false)
    (free : before.phase.busy = false) : Agrees later after delivery := by
  refine ⟨?_, ⟨none.trans again.none.symm, ?_, .inl again.none⟩, ⟨fun _ => idle, fun pending => ?_⟩,
    agrees.waits.free free⟩
  · unfold Tables
    obtain phase | phase := again.early
    · rw [phase]
      refine ⟨armed, fun fresh => ?_⟩
      cases again.stale.symm.trans fresh
    · rw [phase]
      exact ⟨armed, again.stale⟩
  · rw [again.none]
    exact Nat.zero_le 2
  · rw [again.pending, settled] at pending
    cases pending

/-- How far a re-arming has come is no matter of the tables. -/
theorem Agrees.restaged {stage : RearmStage} (tables : Tables story lifecycle)
    (counts : Counts story lifecycle) (rearms : Rearms { story with rearm := stage } lifecycle)
    (waits : Pends story lifecycle delivery) :
    Agrees { story with rearm := stage } lifecycle delivery := by
  refine ⟨?_, ⟨counts.same, counts.below, counts.spent⟩, rearms, ?_⟩
  · unfold Tables at tables ⊢
    generalize era lifecycle.phase = here at tables
    cases here with
    | unsampled | sampled => exact ⟨tables.baseline, tables.unarmed, tables.sampled, tables.stale⟩
    | _ => exact tables
  · match delivery, waits with
    | none, _ | some .nothing, _ | some .rearm, _ | some (.handedOff _ _), _ => trivial
    | some (.imageCommand false), waits => exact waits
    | some (.imageCommand true), waits => exact waits
    | some (.firstImage _ _), waits => exact waits
    | some (.secondImage _ _), waits => exact waits

/-- The end of an OUT, whoever heard of it. -/
theorem Agrees.completed (agrees : Agrees story before delivery) (error : Option GError)
    (same : SameFields before after) (phase : after.phase = before.phase)
    (pending : after.irq80RearmPending = before.irq80RearmPending)
    (ack : after.expectedAck = before.expectedAck)
    (out : error = none ∨ after.outPending = before.outPending) :
    Agrees (story.after (.outCompleted error)) after delivery := by
  cases error with
  | some error =>
    obtain error | out := out
    · cases error
    · exact agrees.quiet same phase pending ack out
  | none =>
    have within := congrArg era phase
    refine .restaged (agrees.tables.within same within) (agrees.counts.within same within)
      ⟨fun settled => ?_, fun waiting => ?_⟩ (agrees.waits.same same phase)
    · have idle := agrees.rearms.idle (pending ▸ settled)
      simp [idle]
    · obtain ⟨arm, expected, progress⟩ := agrees.rearms.pending (pending ▸ waiting)
      refine ⟨phase.trans arm, ack.trans expected, .inl ?_⟩
      obtain completed | ⟨-, sent⟩ := progress
      · simp [completed]
      · simp [sent]

theorem Agrees.performed {noted : List Noted} {after : Lifecycle} {callouts : List Callout}
    (agrees : Agrees story lifecycle delivery) (performed : Performed lifecycle noted after callouts)
    (unsent : ∀ control packet, .submitted control packet ∉ noted) :
    Agrees (noted.foldl Story.after story) after delivery ∨ Dead after ∧ Fails noted := by
  have unarmed {phase : Phase} (here : lifecycle.phase = phase) (elsewhere : phase ≠ .firstArm) :
      lifecycle.irq80RearmPending = false := agrees.rearms.settled (by rwa [here])
  cases performed with
  | nothing => exact .inl agrees
  | refused => exact .inl agrees
  | configured => exact .inl (agrees.quiet ⟨rfl, rfl, rfl, rfl, rfl, rfl⟩ rfl rfl rfl rfl)
  | started phase sends => simp at unsent
  | unstarted error phase unsent =>
    have owning : Agrees story { lifecycle with
        backend := { lifecycle.backend with outCompletedCallback := some .postTlsLifecycle }
        backendCallbackOwned := true } delivery :=
      agrees.quiet ⟨rfl, rfl, rfl, rfl, rfl, rfl⟩ rfl rfl rfl rfl
    have within : era .d4 = era lifecycle.phase := by rw [phase]; rfl
    have free : lifecycle.phase.busy = false := by rw [phase]; rfl
    exact .inl (owning.unsent within (unarmed phase nofun) free unsent)
  | failed fallen => exact .inr ⟨fallen.dead, by simp [Fails]⟩
  | awaits => exact .inl (agrees.quiet ⟨rfl, rfl, rfl, rfl, rfl, rfl⟩ rfl rfl rfl rfl)
  | rearmed phase fresh first sends => simp at unsent
  | unrearmed phase fallen => exact .inr ⟨fallen.dead, by simp [Fails]⟩
  | authorized => exact .inl (agrees.quiet ⟨rfl, rfl, rfl, rfl, rfl, rfl⟩ rfl rfl rfl rfl)
  | nextLogin timestamp gate authorized below phase fresh profile drained prepared sends =>
    simp at unsent
  | noNextLogin timestamp error gate authorized below phase fresh profile drained prepared unsent =>
    have tables : story.armed = true ∧ _ := agrees.at phase
    have settled := unarmed phase nofun
    have idle := agrees.rearms.idle settled
    have free : lifecycle.phase.busy = false := by rw [phase]; rfl
    subst prepared
    refine .inl (agrees.again ?_ tables.1 rfl idle settled free)
    obtain ⟨-, rfl⟩ | ⟨-, -, rfl⟩ := unsent
    · exact ⟨.inl rfl, rfl, rfl, rfl⟩
    · exact ⟨.inr rfl, rfl, rfl, rfl⟩
  | outDone generation took mine pending running callback =>
    exact .inl (agrees.completed none ⟨rfl, rfl, rfl, rfl, rfl, rfl⟩ rfl rfl rfl (.inl rfl))
  | outFailed generation took fallen => exact .inr ⟨fallen.dead, by simp [Fails]⟩
  | outIgnored generation error took deaf =>
    exact .inl (agrees.completed error ⟨rfl, rfl, rfl, rfl, rfl, rfl⟩ rfl rfl rfl (.inr rfl))
  | fenced => exact .inl (agrees.quiet ⟨rfl, rfl, rfl, rfl, rfl, rfl⟩ rfl rfl rfl rfl)
  | received => exact .inl (agrees.quiet ⟨rfl, rfl, rfl, rfl, rfl, rfl⟩ rfl rfl rfl rfl)

theorem Tells.performed {noted : List Noted} {after : Lifecycle} {callouts : List Callout}
    (tells : Tells seed log desk) (performed : Performed desk.lifecycle noted after callouts) :
    Tells seed (log ++ noted) { desk with lifecycle := after } := by
  cases tells.state with
  | inr dead =>
    obtain ⟨ended, unsent⟩ := dead.1.move (.performed performed)
    exact tells.silent unsent (.inr ⟨ended, .inl dead.2⟩)
  | inl agrees =>
    by_cases silent : ∀ control packet, .submitted control packet ∉ noted
    · refine tells.silent silent ((agrees.performed performed silent).imp id fun dead => ?_)
      exact ⟨dead.1, .inr dead.2⟩
    · have unarmed {phase : Phase} (here : desk.lifecycle.phase = phase) (elsewhere : phase ≠ .firstArm) :
          desk.lifecycle.irq80RearmPending = false := agrees.rearms.settled (by rwa [here])
      cases performed with
      | started phase sends =>
        refine tells.spoken [] (by simp) (carries_other (by decide) (by decide) (by decide)) ?_
        rw [after_submitted (by decide)]
        have free : desk.lifecycle.phase.busy = false := by rw [phase]; rfl
        exact agrees.rested.moves ⟨rfl, rfl, rfl, rfl, rfl, rfl⟩ (by rw [phase]; rfl)
          (unarmed phase nofun) rfl (agrees.waits.free free)
      | rearmed phase fresh first sends =>
        have tables : (storyOf seed log).armed = true ∧ _ := agrees.at phase
        have settled := unarmed phase nofun
        have idle := agrees.rearms.idle settled
        have zero := agrees.counts.zero (by rw [phase]; nofun) (by rw [phase]; nofun)
        have free : desk.lifecycle.phase.busy = false := by rw [phase]; rfl
        obtain ⟨⟨event, last, derived⟩, two⟩ := tables.2 fresh
        have due : (Source.released event).Due (storyOf seed log) := ⟨tables.1, idle⟩
        refine tells.spoken [.awaiting true] (by simp) (carries_arm last due derived sends.built) ?_
        refine ⟨⟨rfl, fun _ => two⟩, agrees.counts.keep zero rfl rfl,
          agrees.rearms.keep settled ?_ rfl, agrees.waits.free free⟩
        simp [Story.after, idle]
      | nextLogin timestamp gate authorized below phase fresh profile drained prepared sends =>
        have tables : (storyOf seed log).armed = true ∧ _ := agrees.at phase
        have settled := unarmed phase nofun
        have idle := agrees.rearms.idle settled
        have free : desk.lifecycle.phase.busy = false := by rw [phase]; rfl
        obtain ⟨event, last, derived⟩ := tables.2 fresh profile
        have due : (Source.released event).Due { storyOf seed log with irq80s := 0 } :=
          ⟨tables.1, idle⟩
        subst prepared
        refine tells.spoken [.nextLogin] (by simp) (carries_arm last due derived sends.built) ?_
        refine agrees.again ⟨.inr rfl, rfl, rfl, rfl⟩ rfl rfl ?_ settled free
        simp [Story.after, idle]
      | _ => exact absurd (by simp) silent

/-! ## Runs -/

theorem Tells.move {after : Desk} (tells : Tells seed log desk) (moved : Move desk noted after) :
    Tells seed (log ++ noted) after := by
  cases moved with
  | delivered idle delivered => exact tells.delivered idle delivered
  | finished waits finished => exact tells.finished waits finished
  | performed performed => exact tells.performed performed
  | copied =>
    exact tells.silent (by simp) (tells.state.imp id fun dead => ⟨dead.1, .inl dead.2⟩)
  | called =>
    exact tells.silent (by simp) (tells.state.imp id fun dead => ⟨dead.1, .inl dead.2⟩)
  | drained =>
    refine tells.silent (by simp) (tells.state.imp (fun agrees => ?_) fun dead => ?_)
    · exact agrees.quiet ⟨rfl, rfl, rfl, rfl, rfl, rfl⟩ rfl rfl rfl rfl
    · exact ⟨⟨dead.1.phase, dead.1.unlearned, dead.1.stale⟩, .inl dead.2⟩

/-- Without a seed the table is zero, which is what the material must say too. -/
theorem new_seed {backend : Backend Owner} {generation : Nat} {material : Material}
    {listeners : Listeners} (made : Lifecycle.new backend generation material listeners =
      .ok lifecycle) : lifecycle.currentFdtTable = material.initialFdtTable := by
  unfold Lifecycle.new at made
  split at made
  · cases made
  · split at made
    · cases made
    · rename_i seeded
      cases made
      by_cases provided : material.fdtSeedMode = .provided
      · simp [provided]
      · have absent : material.fdtSeedMode = .absentZero := by
          cases mode : material.fdtSeedMode with
          | provided => exact absurd mode provided
          | absentZero => rfl
        simp only [absent, true_and, List.any_eq_true, decide_eq_true_eq, not_exists, not_and,
          not_not] at seeded
        simp only [absent, reduceCtorEq, if_false]
        exact Subtype.ext (List.eq_replicate_iff.mpr ⟨material.initialFdtTable.property, seeded⟩).symm

theorem tells_new {backend : Backend Owner} {generation : Nat} {material : Material}
    {listeners : Listeners} (made : Lifecycle.new backend generation material listeners =
      .ok lifecycle) : Tells material.initialFdtTable [] ⟨lifecycle, none⟩ := by
  have seed := new_seed made
  unfold Lifecycle.new at made
  split at made
  · cases made
  · split at made
    · cases made
    · cases made
      refine ⟨justified_nil _, .inl ⟨⟨congrArg some seed.symm, rfl, rfl, rfl⟩,
        ⟨rfl, Nat.zero_le 2, .inl rfl⟩, ⟨fun _ => rfl, nofun⟩, trivial⟩⟩

/-- The table of every command is the whole result of the derivation it is due to, whatever the
order of the calls and of what happens inside them. -/
theorem post_tls_tables {backend : Backend Owner} {generation : Nat} {material : Material}
    {listeners : Listeners} {start : Lifecycle}
    (made : Lifecycle.new backend generation material listeners = .ok start)
    (actions : List (Callbacks.Action Call)) :
    ∀ before entry after,
      (Machines.run Desk.program.step ⟨⟨start, none⟩, []⟩ actions).2 = before ++ entry :: after →
        Carries (storyOf material.initialFdtTable before) entry :=
  (run_invariant (tells_new made) (fun _ _ _ _ tells moved => tells.move moved) actions).carries

/-- The run of a contact sends all three commands that have a table. -/
theorem post_tls_tables_contact :
    let ran := Machines.run Desk.program.step ⟨⟨plainLifecycle, none⟩, []⟩ cancelledContact
    (∀ control ∈ [0x36, 0x32, 0x34], ∃ packet, .submitted control packet ∈ ran.2) ∧
      ∀ before entry after, ran.2 = before ++ entry :: after →
        Carries (storyOf plainMaterial.initialFdtTable before) entry := by
  have carries := post_tls_tables plainLifecycle_new cancelledContact
  rw [run_cancelledContact plainLifecycle_takes.1 plainLifecycle_takes.2] at carries ⊢
  refine ⟨?_, carries⟩
  have sampled : (Machines.run Desk.program.step (afterImage (atBaseline plainLifecycle)).1
      untilContact).2.any (Noted.commands 0x32) = true := by
    decide +kernel
  have armed : (Machines.run Desk.program.step ⟨⟨plainLifecycle, none⟩, []⟩
      untilBaseline).2.any (Noted.commands 0x36) = true := by
    decide +kernel
  have released : (Machines.run Desk.program.step (afterImage (atContact plainLifecycle)).1
      cancelledRelease).2.any (Noted.commands 0x34) = true := by
    decide +kernel
  intro control inside
  apply submitted_of_commands
  simp only [List.mem_cons, List.not_mem_nil, or_false] at inside
  simp only [releaseLog, contactLog, List.any_append, Bool.or_eq_true]
  obtain rfl | rfl | rfl := inside
  · exact .inl (.inl (.inl (.inl armed)))
  · exact .inl (.inl (.inr sampled))
  · exact .inr released

end Goodix.PostTls
