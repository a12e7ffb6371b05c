import Goodix.ImageCodec
import Goodix.Enrollment.Gating

/-! # The plaintext of an enrollment in pieces

A B0 message comes in any number of pieces.  They are put together in a buffer of 8192 octets, and
nothing else changes until the message is whole; then it is treated as if it had come at once.
What cannot become a message fails the events.
-/

namespace Goodix.Enrollment

open Octets FdtIrqPolicy A0Protocol ImageDecoder Machines

namespace Binding

/-! ## Messages -/

/-- A whole B0 message, where that event is expected. -/
structure IsMessage (expected : Event) (message : List UInt8) : Prop where
  declares : word16 message 1 ≠ 0
  length : message.length = (word16 message 1).toNat + 3
  bounded : message.length ≤ b0MaxPlaintextLength
  image : expected = .primaryB0 → message.length = imagePlaintextLength

/-- The events that a plaintext belongs to. -/
def IsB0 (expected : Event) : Prop := expected = .primaryB0 ∨ expected = .auxiliaryB0

/-- More of a message may follow. -/
def Growing (expected : Event) (data : List UInt8) : Prop :=
  data.length < 3 ∨ ∃ message, IsMessage expected message ∧ data <+: message ∧ data ≠ message

/-- A piece with the answers while it is handled. -/
abbrev Piece := List UInt8 × Answers

def joined (pieces : List Piece) : List UInt8 := pieces.flatMap Prod.fst

/-- The pieces one after the other, and the result of the last. -/
def feedAll (binding : Binding) (pieces : List Piece) : Except GError Unit × Binding :=
  pieces.foldl (fun fed piece => fed.2.eventsHandlePlaintextChunk piece.1 piece.2)
    (.ok (), binding)

def withPending (binding : Binding) (pending : List UInt8) : Binding :=
  { binding with events := { binding.events with b0Pending := pending } }

theorem word16_append {data : List UInt8} (three : 3 ≤ data.length) (later : List UInt8) :
    word16 (data ++ later) 1 = word16 data 1 := by
  have first : octet (data ++ later) 1 = octet data 1 := List.getD_append _ _ _ _ (by omega)
  have second : octet (data ++ later) (1 + 1) = octet data (1 + 1) :=
    List.getD_append _ _ _ _ (by omega)
  rw [word16, word16, first, second]

/-- Three octets tell whether a message can follow. -/
theorem growing_iff {expected : Event} {data : List UInt8} (three : 3 ≤ data.length) :
    Growing expected data ↔
      word16 data 1 ≠ 0 ∧ (word16 data 1).toNat + 3 ≤ b0MaxPlaintextLength ∧
        (expected = .primaryB0 → (word16 data 1).toNat + 3 = imagePlaintextLength) ∧
        data.length < (word16 data 1).toNat + 3 := by
  constructor
  · rintro (few | ⟨message, whole, ⟨later, rfl⟩, proper⟩)
    · omega
    have more : later ≠ [] := by
      rintro rfl
      simp at proper
    have some := List.length_pos_of_ne_nil more
    obtain ⟨declares, length, bounded, image⟩ := whole
    rw [word16_append three] at declares length
    have sized := length
    rw [List.length_append] at sized
    exact ⟨declares, by omega, fun primary => by rw [← length, image primary], by omega⟩
  · rintro ⟨declares, bounded, image, short⟩
    have sized : (data ++ List.replicate ((word16 data 1).toNat + 3 - data.length) 0).length =
        (word16 data 1).toNat + 3 := by
      rw [List.length_append, List.length_replicate]
      omega
    refine .inr ⟨data ++ List.replicate ((word16 data 1).toNat + 3 - data.length) 0,
      ⟨?_, ?_, ?_, ?_⟩, List.prefix_append _ _, fun same => ?_⟩
    · rwa [word16_append three]
    · rw [sized, word16_append three]
    · rwa [sized]
    · rwa [sized]
    · rw [← same] at sized
      omega

/-- In front of a message, or of its beginning, a message is growing. -/
theorem growing_of_append {expected : Event} {data later : List UInt8} (more : later ≠ [])
    (fits : IsMessage expected (data ++ later) ∨ Growing expected (data ++ later)) :
    Growing expected data := by
  have proper (message : List UInt8) (ahead : data ++ later <+: message) :
      data <+: message ∧ data ≠ message := by
    refine ⟨(List.prefix_append data later).trans ahead, ?_⟩
    rintro rfl
    have long := ahead.length_le
    have some := List.length_pos_of_ne_nil more
    rw [List.length_append] at long
    omega
  rcases fits with whole | few | ⟨message, whole, ahead, -⟩
  · exact .inr ⟨_, whole, proper _ (List.prefix_refl _)⟩
  · rw [List.length_append] at few
    exact .inl (by omega)
  · exact .inr ⟨message, whole, proper message ahead⟩

theorem IsMessage.three {expected : Event} {message : List UInt8}
    (whole : IsMessage expected message) : 3 ≤ message.length := by
  have length := whole.length
  omega

theorem Growing.bounded {expected : Event} {data : List UInt8} (growing : Growing expected data) :
    data.length ≤ b0MaxPlaintextLength := by
  by_cases three : 3 ≤ data.length
  · obtain ⟨-, bounded, -, short⟩ := (growing_iff three).mp growing
    omega
  · rw [b0MaxPlaintextLength]
    omega

/-! ## One piece -/

section

variable {binding : Binding} {chunk : List UInt8} {answers : Answers} {expected : Event}

theorem expected_running (awaits : binding.events.getExpectedEvent = expected)
    (slot : IsB0 expected) : binding.events.failed = false := by
  cases failed : binding.events.failed with
  | false => rfl
  | true =>
    rw [Events.getExpectedEvent, if_pos failed] at awaits
    rcases slot with rfl | rfl <;> cases awaits

/-- Whether the pieces fit is all that the reassembly asks. -/
theorem eventsHandlePlaintextChunk_eq (awaits : binding.events.getExpectedEvent = expected)
    (slot : IsB0 expected) (some : chunk ≠ []) :
    (Growing expected (binding.events.b0Pending ++ chunk) →
      binding.eventsHandlePlaintextChunk chunk answers =
        (.ok (), binding.withPending (binding.events.b0Pending ++ chunk))) ∧
    (IsMessage expected (binding.events.b0Pending ++ chunk) →
      binding.eventsHandlePlaintextChunk chunk answers =
        (binding.withPending (binding.events.b0Pending ++ chunk)).handleComplete expected
          (binding.events.b0Pending ++ chunk) answers) ∧
    (¬ Growing expected (binding.events.b0Pending ++ chunk) →
      ¬ IsMessage expected (binding.events.b0Pending ++ chunk) →
      ∃ error, (binding.eventsHandlePlaintextChunk chunk answers).1 = .error error ∧
        (binding.eventsHandlePlaintextChunk chunk answers).2.events.failed = true) := by
  have running := expected_running awaits slot
  have somewhere : ¬ (expected ≠ .primaryB0 ∧ expected ≠ .auxiliaryB0) := by
    unfold IsB0 at slot
    tauto
  have length := List.length_pos_of_ne_nil some
  have full : ¬ chunk.length = 0 := by omega
  unfold Binding.eventsHandlePlaintextChunk Binding.withPending
  dsimp only
  rw [awaits]
  generalize binding.events.b0Pending ++ chunk = pending
  rw [if_neg (by simp [running]), if_neg somewhere]
  refine ⟨fun growing => ?_, fun whole => ?_, fun stopped other => ?_⟩
  · have bounded := growing.bounded
    rw [if_neg (by omega)]
    by_cases few : pending.length < 3
    · rw [if_pos few]
    · obtain ⟨declares, fits, image, short⟩ := (growing_iff (by omega)).mp growing
      rw [if_neg few, if_neg, if_pos short]
      rintro (zero | large | ⟨primary, other⟩ | long)
      · exact declares zero
      · omega
      · exact other (image primary)
      · omega
  · obtain ⟨declares, length, bounded, image⟩ := whole
    have right : expected = .primaryB0 → (word16 pending 1).toNat + 3 = imagePlaintextLength :=
      fun primary => length ▸ image primary
    rw [if_neg (by omega), if_neg (by omega), if_neg, if_neg (by omega)]
    rintro (zero | large | ⟨primary, other⟩ | long)
    · exact declares zero
    · omega
    · exact other (right primary)
    · omega
  · by_cases overflow : chunk.length = 0 ∨ pending.length > b0MaxPlaintextLength
    · rw [if_pos overflow]
      exact ⟨_, rfl, stop_failed _⟩
    rw [if_neg overflow, if_neg (fun few => stopped (.inl few))]
    have three : 3 ≤ pending.length := by
      by_contra few
      exact stopped (.inl (by omega))
    by_cases wrong : word16 pending 1 = 0 ∨ (word16 pending 1).toNat + 3 > b0MaxPlaintextLength ∨
        (expected = .primaryB0 ∧ (word16 pending 1).toNat + 3 ≠ imagePlaintextLength) ∨
        pending.length > (word16 pending 1).toNat + 3
    · rw [if_pos wrong]
      exact ⟨_, rfl, stop_failed _⟩
    · exfalso
      simp only [not_or, not_and, not_not, not_lt] at wrong overflow
      obtain ⟨declares, fits, image, within⟩ := wrong
      by_cases short : pending.length < (word16 pending 1).toNat + 3
      · exact stopped ((growing_iff three).mpr ⟨declares, fits, image, short⟩)
      · have length : pending.length = (word16 pending 1).toNat + 3 := by omega
        exact other ⟨declares, length, by omega, fun primary => by rw [length, image primary]⟩

end

/-! ## What is expected behind a message -/

end Binding

namespace Pipeline

variable {pipeline after : Pipeline} {samples : Option (List UInt16)} {reply : Reply}

theorem settle_model {completedBefore : Nat} {result : Except GError Unit × Pipeline}
    (accepted : settle completedBefore result = (.ok (), after)) :
    result.1 = .ok () ∧ after.model = result.2.model := by
  obtain ⟨verdict, fed⟩ := result
  cases verdict with
  | error error => cases accepted
  | ok _ =>
    unfold settle at accepted
    dsimp only at accepted
    split at accepted
    · cases accepted
      exact ⟨rfl, rfl⟩
    · cases accepted
      exact ⟨rfl, rfl⟩

theorem observePrimary_expected (accepted : (pipeline.observePrimary reply).1 = .ok ()) :
    (pipeline.observePrimary reply).2.model.expected = .command_34 := by
  unfold observePrimary at accepted ⊢
  dsimp only at accepted ⊢
  split at accepted
  · cases accepted
  rename_i within
  rw [if_neg within]
  split at accepted
  · rename_i deferred
    rw [if_pos deferred]
    rfl
  · rename_i atOnce
    rw [if_neg atOnce]
    split at accepted
    · cases accepted
    · rfl

/-- Behind a B0 a command is due. -/
theorem modelFeed_b0 {event : Event} (slot : Binding.IsB0 event)
    (accepted : (pipeline.modelFeed event reply).1 = .ok ()) :
    isCommandEvent (pipeline.modelFeed event reply).2.model.expected = true := by
  obtain ⟨-, -, -, advanced⟩ := modelFeed_ok accepted
  rw [advanced] at accepted ⊢
  rcases slot with rfl | rfl
  · have expected := observePrimary_expected accepted
    show isCommandEvent (pipeline.observePrimary reply).2.model.expected = true
    rw [expected]
    rfl
  · unfold advance
    dsimp only
    split <;> rfl

theorem feed_b0 {event : Event} (slot : Binding.IsB0 event)
    (accepted : pipeline.feed event samples reply = (.ok (), after)) :
    isCommandEvent after.model.expected = true := by
  have settled {loaded : Pipeline} {completedBefore : Nat}
      (fed : settle completedBefore (loaded.modelFeed event reply) = (.ok (), after)) :
      isCommandEvent after.model.expected = true := by
    obtain ⟨verdict, model⟩ := settle_model fed
    rw [model]
    exact modelFeed_b0 slot verdict
  unfold feed at accepted
  dsimp only at accepted
  split at accepted
  · cases accepted
  split at accepted
  · rename_i other
    have due := Prod.mk.inj accepted
    have takes := (modelFeed_ok due.1).2.2.1
    rw [other] at takes
    cases takes
  split at accepted
  · cases samples with
    | none => cases accepted
    | some raster =>
      dsimp only at accepted
      split at accepted
      · cases accepted
      split at accepted
      · exact settled accepted
      · cases accepted
  split at accepted
  · cases accepted
  · exact settled accepted

end Pipeline

namespace Binding

section

variable {event : Event} {samples : Option (List UInt16)} {fdtRaw : Option (List UInt8)}
  {fdtTouchFlags : UInt16}

theorem adapter_observe_b0 {adapter after : Adapter} {reply : Reply} (slot : IsB0 event)
    (accepted : adapter.observe event samples fdtRaw fdtTouchFlags reply = (.ok (), after)) :
    isCommandEvent after.plan.pipeline.model.expected = true := by
  unfold Adapter.observe at accepted
  split at accepted
  · cases accepted
  split at accepted
  · cases accepted
  split at accepted
  · cases accepted
  split at accepted
  · cases accepted
  rename_i plan plans
  cases accepted
  unfold CommandPlan.observe at plans
  split at plans
  · cases plans
  split at plans
  · cases plans
  unfold CommandPlan.feed at plans
  split at plans
  · cases plans
  · rename_i pipeline fed
    cases plans
    exact Pipeline.feed_b0 slot fed

/-- Whatever an observation brings, it changes neither the buffer nor the re-arm. -/
theorem observe_events (binding : Binding) (event : Event) (samples : Option (List UInt16))
    (fdtRaw : Option (List UInt8)) (fdtTouchFlags : UInt16) (answers : Answers) :
    let observed := binding.events.lifecycle.observe event samples fdtRaw fdtTouchFlags answers.image
    let after := binding.observe event samples fdtRaw fdtTouchFlags answers
    after.1 = observed.1 ∧ after.2.events.lifecycle = observed.2 ∧
      after.2.events.failed = binding.events.failed ∧
      after.2.events.b0Pending = binding.events.b0Pending ∧
      after.2.events.irq80RearmEvent = binding.events.irq80RearmEvent := by
  have cancelled (fenced : Binding) : fenced.cancelNow.events = fenced.events ∨
      fenced.cancelNow.events = fenced.events.closeZeroWindow := by
    cases terminal : fenced.terminalError with
    | some error => simp [Binding.cancelNow, terminal]
    | none => exact .inr (cancelNow_stops terminal).2.1
  unfold Binding.observe
  dsimp only
  split
  · rcases cancelled { binding with
        events := { binding.events with
          lifecycle := (binding.events.lifecycle.observe event samples fdtRaw fdtTouchFlags
            answers.image).2 } } with same | same
    · simp only [same, and_self]
    · simp only [same, Events.closeZeroWindow, and_self]
  · exact ⟨rfl, rfl, rfl, rfl, rfl⟩

end

/-- The re-arm of the events is none of the B0s. -/
def RearmPlain (events : Events) : Prop :=
  events.irq80RearmEvent = .none ∨ events.irq80RearmEvent = .command_32 ∨
    events.irq80RearmEvent = .ack_32

/-- No plaintext is taken. -/
def Closed (binding : Binding) : Prop := ¬ IsB0 binding.events.getExpectedEvent

theorem closed_failed {binding : Binding} (failed : binding.events.failed = true) :
    Closed binding := by
  rw [Closed, Events.getExpectedEvent, if_pos failed]
  rintro (other | other) <;> cases other

theorem closed_command {binding : Binding} (plain : RearmPlain binding.events)
    (command : isCommandEvent binding.events.lifecycle.plan.pipeline.model.expected = true) :
    Closed binding := by
  unfold Closed Events.getExpectedEvent Adapter.getExpectedEvent CommandPlan.getExpectedEvent
    Pipeline.getExpectedEvent
  rintro slot
  split at slot
  · rcases slot with other | other <;> cases other
  split at slot
  · rcases plain with same | same | same <;> rw [same] at slot <;>
      rcases slot with other | other <;> cases other
  split at slot
  · rcases slot with other | other <;> cases other
  split at slot
  · rcases slot with other | other <;> cases other
  · rcases slot with other | other <;> rw [other] at command <;> cases command

/-- Behind a whole message no plaintext is taken, whatever became of it. -/
theorem handlePrimarySamples_closed {binding : Binding} (plain : RearmPlain binding.events)
    (samples : List UInt16) (answers : Answers) :
    Closed (binding.handlePrimarySamples samples answers).2 := by
  obtain ⟨verdict, lifecycle, -, -, rearm⟩ :=
    binding.observe_events .primaryB0 (some samples) none 0 answers
  unfold Binding.handlePrimarySamples
  split
  · exact closed_failed (stop_failed _)
  split
  · exact closed_failed (stop_failed _)
  · rename_i observed result
    rw [result] at verdict lifecycle rearm
    dsimp only at verdict lifecycle rearm
    refine closed_command ?_ ?_
    · simpa only [RearmPlain, rearm] using plain
    · have accepted := adapter_observe_b0 (.inl rfl) (Prod.ext verdict.symm rfl)
      show isCommandEvent observed.events.lifecycle.plan.pipeline.model.expected = true
      rw [lifecycle]
      exact accepted

theorem handleAuxiliaryB0_closed {binding : Binding} (plain : RearmPlain binding.events)
    (answers : Answers) : Closed (binding.handleAuxiliaryB0 answers).2 := by
  obtain ⟨verdict, lifecycle, -, -, rearm⟩ :=
    binding.observe_events .auxiliaryB0 none none 0 answers
  unfold Binding.handleAuxiliaryB0
  split
  · exact closed_failed (stop_failed _)
  split
  · exact closed_failed (stop_failed _)
  · rename_i observed result
    rw [result] at verdict lifecycle rearm
    dsimp only at verdict lifecycle rearm
    refine closed_command ?_ ?_
    · simpa only [RearmPlain, rearm] using plain
    · have accepted := adapter_observe_b0 (.inr rfl) (Prod.ext verdict.symm rfl)
      show isCommandEvent observed.events.lifecycle.plan.pipeline.model.expected = true
      rw [lifecycle]
      exact accepted

theorem handleComplete_closed {binding : Binding} (plain : RearmPlain binding.events)
    (expected : Event) (complete : List UInt8) (answers : Answers) :
    Closed (binding.handleComplete expected complete answers).2 := by
  unfold Binding.handleComplete
  split
  · cases decodePlaintext complete with
    | error error => exact closed_failed (stop_failed _)
    | ok samples =>
      have pending : RearmPlain binding.clearPending.events := plain
      exact handlePrimarySamples_closed pending samples answers
  · cases (if binding.fenced then Except.error (some fencedError) else answers.auxiliary) with
    | error error => exact closed_failed (stop_failed _)
    | ok _ =>
      refine handleAuxiliaryB0_closed ?_ answers
      exact plain

/-- The events refuse, and have failed. -/
def Fails (result : Except GError Unit × Binding) : Prop :=
  (∃ error, result.1 = .error error) ∧ result.2.events.failed = true

theorem eventsFail_fails (binding : Binding) (error : GError) :
    Fails (binding.eventsFail error) := ⟨⟨error, rfl⟩, stop_failed _⟩

theorem eventsHandlePlaintextChunk_closed {binding : Binding} (closed : Closed binding)
    (chunk : List UInt8) (answers : Answers) :
    Fails (binding.eventsHandlePlaintextChunk chunk answers) := by
  unfold Closed IsB0 at closed
  unfold Binding.eventsHandlePlaintextChunk
  dsimp only
  by_cases failed : binding.events.failed = true
  · rw [if_pos failed]
    exact eventsFail_fails _ _
  · rw [if_neg failed, if_pos (not_or.mp closed)]
    exact eventsFail_fails _ _

/-! ## All pieces -/

theorem feedAll_cons (binding : Binding) (piece : Piece) {later : List Piece} (more : later ≠ []) :
    binding.feedAll (piece :: later) =
      (binding.eventsHandlePlaintextChunk piece.1 piece.2).2.feedAll later := by
  cases later with
  | nil => exact absurd rfl more
  | cons next others => rfl

theorem feedAll_closed {binding : Binding} (closed : Closed binding) {pieces : List Piece}
    (some : pieces ≠ []) : Fails (binding.feedAll pieces) := by
  induction pieces generalizing binding with
  | nil => exact absurd rfl some
  | cons piece later ih =>
    have fails := eventsHandlePlaintextChunk_closed closed piece.1 piece.2
    cases later with
    | nil => exact fails
    | cons next others =>
      rw [feedAll_cons binding piece (by simp)]
      exact ih (closed_failed fails.2) (by simp)

theorem joined_ne_nil {pieces : List Piece} (some : pieces ≠ [])
    (full : ∀ piece ∈ pieces, piece.1 ≠ []) : joined pieces ≠ [] := by
  cases pieces with
  | nil => exact absurd rfl some
  | cons piece later =>
    have here := full piece (by simp)
    simp [joined, here]

theorem joined_cons (piece : Piece) (later : List Piece) :
    joined (piece :: later) = piece.1 ++ joined later := List.flatMap_cons

/-- The octets of a message that is not whole yet only wait. -/
theorem feedAll_growing {binding : Binding} {expected : Event} (slot : IsB0 expected)
    (awaits : binding.events.getExpectedEvent = expected) {pieces : List Piece}
    (full : ∀ piece ∈ pieces, piece.1 ≠ [])
    (growing : Growing expected (binding.events.b0Pending ++ joined pieces)) :
    binding.feedAll pieces =
      (.ok (), binding.withPending (binding.events.b0Pending ++ joined pieces)) := by
  induction pieces generalizing binding with
  | nil => simp [feedAll, joined, withPending]
  | cons piece later ih =>
    have here := full piece (by simp)
    have rest : ∀ piece ∈ later, piece.1 ≠ [] := fun other among => full other (by simp [among])
    rw [joined_cons, ← List.append_assoc] at growing
    have begun : Growing expected (binding.events.b0Pending ++ piece.1) := by
      cases later with
      | nil => simpa [joined] using growing
      | cons next others => exact growing_of_append (joined_ne_nil (by simp) rest) (.inr growing)
    have first := (@eventsHandlePlaintextChunk_eq binding piece.1 piece.2 expected awaits slot
      here).1 begun
    rw [joined_cons, ← List.append_assoc]
    cases later with
    | nil =>
      have single : binding.feedAll [piece] = binding.eventsHandlePlaintextChunk piece.1 piece.2 :=
        rfl
      rw [single, first]
      simp [joined]
    | cons next others =>
      rw [feedAll_cons binding piece (by simp), first]
      exact @ih (binding.withPending (binding.events.b0Pending ++ piece.1)) awaits rest growing

/-- A whole message in pieces is handled as one. -/
theorem feedAll_message {binding : Binding} {expected : Event} (slot : IsB0 expected)
    (awaits : binding.events.getExpectedEvent = expected) {earlier : List Piece}
    {chunk : List UInt8} {answers : Answers} (full : ∀ piece ∈ earlier, piece.1 ≠ [])
    (last : chunk ≠ [])
    (whole : IsMessage expected (binding.events.b0Pending ++ (joined earlier ++ chunk))) :
    binding.feedAll (earlier ++ [(chunk, answers)]) =
      binding.eventsHandlePlaintextChunk (joined earlier ++ chunk) answers := by
  induction earlier generalizing binding with
  | nil => rfl
  | cons piece later ih =>
    have here := full piece (by simp)
    have rest : ∀ piece ∈ later, piece.1 ≠ [] := fun other among => full other (by simp [among])
    have more : joined later ++ chunk ≠ [] := by simp [last]
    have cut : joined (piece :: later) ++ chunk = piece.1 ++ (joined later ++ chunk) := by
      rw [joined_cons, List.append_assoc]
    rw [cut] at whole ⊢
    have begun : Growing expected (binding.events.b0Pending ++ piece.1) :=
      growing_of_append more (.inl (by rwa [List.append_assoc]))
    have first := (@eventsHandlePlaintextChunk_eq binding piece.1 piece.2 expected awaits slot
      here).1 begun
    have once := (@eventsHandlePlaintextChunk_eq binding (piece.1 ++ (joined later ++ chunk))
      answers expected awaits slot (by simp [here])).2.1 whole
    -- the message goes on from the octets that wait, in the same events
    have goes : IsMessage expected ((binding.withPending
        (binding.events.b0Pending ++ piece.1)).events.b0Pending ++ (joined later ++ chunk)) := by
      show IsMessage expected ((binding.events.b0Pending ++ piece.1) ++ (joined later ++ chunk))
      rwa [List.append_assoc]
    have twice := (@eventsHandlePlaintextChunk_eq
      (binding.withPending (binding.events.b0Pending ++ piece.1)) (joined later ++ chunk)
      answers expected awaits slot more).2.1 goes
    rw [List.cons_append, feedAll_cons binding piece (by simp), first]
    rw [@ih (binding.withPending (binding.events.b0Pending ++ piece.1)) awaits rest goes, twice, once]
    show Binding.handleComplete (binding.withPending ((binding.events.b0Pending ++ piece.1) ++ _)) _
      ((binding.events.b0Pending ++ piece.1) ++ _) _ = _
    rw [List.append_assoc]

/-- What cannot become a message fails. -/
theorem feedAll_fails {binding : Binding} {expected : Event} (slot : IsB0 expected)
    (awaits : binding.events.getExpectedEvent = expected) (plain : RearmPlain binding.events)
    {pieces : List Piece} (some : pieces ≠ []) (full : ∀ piece ∈ pieces, piece.1 ≠ [])
    (stopped : ¬ Growing expected (binding.events.b0Pending ++ joined pieces))
    (other : ¬ IsMessage expected (binding.events.b0Pending ++ joined pieces)) :
    Fails (binding.feedAll pieces) := by
  induction pieces generalizing binding with
  | nil => exact absurd rfl some
  | cons piece later ih =>
    have here := full piece (by simp)
    have handled := @eventsHandlePlaintextChunk_eq binding piece.1 piece.2 expected awaits slot here
    cases later with
    | nil =>
      have alone : joined [piece] = piece.1 := by simp [joined]
      rw [alone] at stopped other
      obtain ⟨error, refused, failed⟩ := handled.2.2 stopped other
      exact ⟨⟨error, refused⟩, failed⟩
    | cons next others =>
      have more : next :: others ≠ [] := by simp
      rw [joined_cons, ← List.append_assoc] at stopped other
      rw [feedAll_cons binding piece more]
      by_cases growing : Growing expected (binding.events.b0Pending ++ piece.1)
      · rw [handled.1 growing]
        exact @ih (binding.withPending (binding.events.b0Pending ++ piece.1)) awaits plain more
          (fun piece among => full piece (by simp [among])) stopped other
      by_cases whole : IsMessage expected (binding.events.b0Pending ++ piece.1)
      · rw [handled.2.1 whole]
        exact feedAll_closed (handleComplete_closed (by exact plain) _ _ _) more
      · obtain ⟨error, -, failed⟩ := handled.2.2 growing whole
        exact feedAll_closed (closed_failed failed) more

/-- An image that cannot be decoded fails. -/
theorem message_undecoded {binding : Binding}
    (awaits : binding.events.getExpectedEvent = .primaryB0) {chunk : List UInt8} {error : GError}
    (answers : Answers) (some : chunk ≠ [])
    (whole : IsMessage .primaryB0 (binding.events.b0Pending ++ chunk))
    (undecoded : decodePlaintext (binding.events.b0Pending ++ chunk) = .error error) :
    Fails (binding.eventsHandlePlaintextChunk chunk answers) := by
  rw [(eventsHandlePlaintextChunk_eq awaits (.inl rfl) some).2.1 whole]
  unfold Binding.handleComplete
  rw [if_pos rfl, undecoded]
  exact eventsFail_fails _ _

/-! ## The buffer in every run -/

/-- The buffer keeps its bound, and the re-arm is none of the B0s. -/
structure Buffered (events : Events) : Prop where
  bounded : events.b0Pending.length ≤ b0MaxPlaintextLength
  plain : RearmPlain events

theorem Buffered.same {before after : Events} (buffered : Buffered before)
    (pending : after.b0Pending = before.b0Pending)
    (rearm : after.irq80RearmEvent = before.irq80RearmEvent) : Buffered after where
  bounded := pending ▸ buffered.bounded
  plain := by
    have plain := buffered.plain
    rwa [RearmPlain, ← rearm] at plain

theorem Buffered.stop {events : Events} (buffered : Buffered events) : Buffered events.stop := by
  unfold Events.stop
  split
  · exact buffered
  · exact ⟨by simp, .inl rfl⟩

theorem Buffered.terminate {binding : Binding} (buffered : Buffered binding.events)
    (error : GError) : Buffered (binding.terminate error).events := by
  unfold Binding.terminate
  split
  · exact buffered
  · exact buffered.same rfl rfl

theorem Buffered.transactionFail {binding : Binding} (buffered : Buffered binding.events)
    (error : GError) : Buffered (binding.transactionFail error).2.events := by
  unfold Binding.transactionFail
  rwa [transactionStop_events]

theorem Buffered.cancel {binding : Binding} (buffered : Buffered binding.events) :
    Buffered binding.cancel.events := by
  unfold Binding.cancel
  split
  · exact buffered
  · cases terminal : binding.terminalError with
    | some error =>
      unfold Binding.cancelNow
      rwa [if_pos (by simp [terminal])]
    | none =>
      rw [(cancelNow_stops terminal).2.1]
      exact buffered.same rfl rfl

section

variable {binding : Binding} (buffered : Buffered binding.events)

include buffered

theorem Buffered.observe (event : Event) (samples : Option (List UInt16))
    (fdtRaw : Option (List UInt8)) (fdtTouchFlags : UInt16) (answers : Answers) :
    Buffered (binding.observe event samples fdtRaw fdtTouchFlags answers).2.events := by
  obtain ⟨-, -, -, pending, rearm⟩ :=
    binding.observe_events event samples fdtRaw fdtTouchFlags answers
  exact buffered.same pending rearm

theorem Buffered.observeCounted (event : Event) (fdtRaw : Option (List UInt8))
    (fdtTouchFlags : UInt16) (answers : Answers) (count : EventsAudit → EventsAudit) :
    Buffered (binding.observeCounted event fdtRaw fdtTouchFlags answers count).2.events := by
  have observed := buffered.observe event none fdtRaw fdtTouchFlags answers
  unfold Binding.observeCounted
  split
  · rename_i result
    rwa [result] at observed
  · rename_i result
    rw [result] at observed
    exact observed.same rfl rfl

theorem Buffered.tellContact (present : Bool) (answers : Answers) :
    Buffered (binding.tellContact present answers).2.events := by
  unfold Binding.tellContact
  dsimp only
  split
  · exact buffered
  split
  · exact buffered
  split
  · exact buffered
  · exact buffered.cancel
  · exact buffered.same rfl rfl

theorem Buffered.handleIrq80 (message : A0Message) (answers : Answers) :
    Buffered (binding.handleIrq80 message answers).2.events := by
  unfold Binding.handleIrq80
  split
  · exact buffered.stop
  split
  · rename_i error lifecycle result
    have failed : Buffered { binding.events with lifecycle } := buffered.same rfl rfl
    exact failed.stop
  · exact ⟨buffered.bounded, .inr (.inl rfl)⟩

theorem Buffered.handleAck (expected : Event) (answers : Answers) :
    Buffered (binding.handleAck expected answers).2.events := by
  unfold Binding.handleAck
  dsimp only
  split
  · exact ⟨buffered.bounded, .inl rfl⟩
  · exact buffered.observeCounted _ _ _ _ _

theorem Buffered.handleIrq2 (touchFlags : UInt16) (raw : List UInt8) (answers : Answers) :
    Buffered (binding.handleIrq2 touchFlags raw answers).2.events := by
  have observed := buffered.observe .irq2 none (some raw) touchFlags answers
  unfold Binding.handleIrq2
  split
  · rename_i result
    rwa [result] at observed
  rename_i after result
  rw [result] at observed
  have counted : Buffered { after with
      events := { after.events with
        zero := { after.events.zero with staleWindowOpen := false, lateSeen := false }
        audit := { after.events.audit with
          irq2Count := after.events.audit.irq2Count + 1 } } }.events := observed.same rfl rfl
  have told := counted.tellContact true answers
  dsimp only
  split
  · rename_i result
    rwa [result] at told
  · rename_i result
    rw [result] at told
    exact told.same rfl rfl

theorem Buffered.handleZeroContact (message : A0Message) (answers : Answers) :
    Buffered (binding.handleZeroContact message answers).2.events := by
  have observed := buffered.observe .zeroMaskRecovery none (some (readings message.body).val) 0
    answers
  unfold Binding.handleZeroContact
  dsimp only
  split
  · split
    · rename_i result
      rwa [result] at observed
    · rename_i after result
      rw [result] at observed
      apply Buffered.tellContact
      exact observed.same rfl rfl
  · exact buffered

theorem Buffered.handleIrq0200 (touchFlags : UInt16) (raw : List UInt8) (answers : Answers) :
    Buffered (binding.handleIrq0200 touchFlags raw answers).2.events := by
  have observed := buffered.observeCounted .irq0200 (some raw) touchFlags answers
    (fun audit => { audit with irq0200Count := audit.irq0200Count + 1 })
  unfold Binding.handleIrq0200
  split
  · rename_i result
    rwa [result] at observed
  · rename_i result
    rw [result] at observed
    exact observed.tellContact false answers

theorem Buffered.handleMessage (expected : Event) (message : A0Message) (answers : Answers) :
    Buffered (binding.handleMessage expected message answers).2.events := by
  unfold Binding.handleMessage
  split
  · split
    · exact buffered.handleAck _ _
    · exact buffered
  · split
    · exact buffered.handleIrq2 _ _ _
    · exact buffered
  · split
    · exact buffered.handleZeroContact _ _
    split
    · exact buffered.observeCounted _ _ _ _ _
    · exact buffered
  · split
    · exact buffered.handleIrq0200 _ _ _
    · exact buffered
  · exact buffered

end

theorem Buffered.conclude {result : Except (Option GError) Unit × Binding}
    (buffered : Buffered result.2.events) : Buffered (conclude result).2.events := by
  obtain ⟨verdict, after⟩ := result
  cases verdict with
  | error error => exact Buffered.stop buffered
  | ok _ => exact buffered

section

variable {binding : Binding} (buffered : Buffered binding.events)

include buffered

theorem Buffered.eventsHandleA0 (frame : List UInt8) (answers : Answers) :
    Buffered (binding.eventsHandleA0 frame answers).2.events := by
  unfold Binding.eventsHandleA0
  dsimp only
  split
  · exact buffered.stop
  split
  · split
    · exact buffered.stop
    · exact (buffered.observeCounted _ _ _ _ _).conclude
  split
  · exact buffered.stop
  split
  · exact buffered.stop
  · rename_i message parsed
    have counted : Buffered { binding with
        events := { binding.events with
          audit := { binding.events.audit with
            parsedA0Count := binding.events.audit.parsedA0Count + 1 } } }.events :=
      buffered.same rfl rfl
    split
    · exact counted.handleIrq80 message answers
    · exact (counted.handleMessage _ _ _).conclude

theorem Buffered.handlePrimarySamples (samples : List UInt16) (answers : Answers) :
    Buffered (binding.handlePrimarySamples samples answers).2.events := by
  have observed := buffered.observe .primaryB0 (some samples) none 0 answers
  unfold Binding.handlePrimarySamples
  split
  · exact buffered.stop
  split
  · rename_i result
    rw [result] at observed
    exact Buffered.stop observed
  · rename_i result
    rw [result] at observed
    exact observed.same rfl rfl

theorem Buffered.handleAuxiliaryB0 (answers : Answers) :
    Buffered (binding.handleAuxiliaryB0 answers).2.events := by
  have observed := buffered.observe .auxiliaryB0 none none 0 answers
  unfold Binding.handleAuxiliaryB0
  split
  · exact buffered.stop
  split
  · rename_i result
    rw [result] at observed
    exact Buffered.stop observed
  · rename_i result
    rw [result] at observed
    exact observed.same rfl rfl

theorem Buffered.handleComplete (expected : Event) (complete : List UInt8) (answers : Answers) :
    Buffered (binding.handleComplete expected complete answers).2.events := by
  have cleared : Buffered binding.clearPending.events := ⟨Nat.zero_le _, buffered.plain⟩
  unfold Binding.handleComplete
  split
  · split
    · exact cleared.stop
    · exact cleared.handlePrimarySamples _ _
  · split
    · exact cleared.stop
    · apply Buffered.handleAuxiliaryB0
      exact cleared.same rfl rfl

theorem Buffered.eventsHandlePlaintextChunk (chunk : List UInt8) (answers : Answers) :
    Buffered (binding.eventsHandlePlaintextChunk chunk answers).2.events := by
  unfold Binding.eventsHandlePlaintextChunk
  dsimp only
  split
  · exact buffered.stop
  split
  · exact buffered.stop
  split
  · exact buffered.stop
  rename_i within
  rw [not_or, not_lt] at within
  have appended : Buffered { binding with
      events := { binding.events with
        b0Pending := binding.events.b0Pending ++ chunk } }.events := ⟨within.2, buffered.plain⟩
  split
  · exact appended
  split
  · exact appended.stop
  split
  · exact appended
  · exact appended.handleComplete _ _ _

theorem Buffered.prepare (stamp : Stamp) : Buffered (binding.events.prepare stamp).2 := by
  unfold Events.prepare
  split
  · exact buffered.stop
  split
  · exact buffered
  split
  · rename_i error lifecycle result
    have failed : Buffered { binding.events with lifecycle } := buffered.same rfl rfl
    exact failed.stop
  · exact buffered.same rfl rfl

theorem Buffered.commit (event : Event) : Buffered (binding.events.commit event).2 := by
  unfold Events.commit
  split
  · exact buffered.stop
  split
  · split
    · exact buffered.stop
    · exact ⟨buffered.bounded, .inr (.inr rfl)⟩
  split
  · rename_i error lifecycle result
    have failed : Buffered { binding.events with lifecycle } := buffered.same rfl rfl
    exact failed.stop
  · split <;> exact buffered.same rfl rfl

theorem Buffered.transactionSubmitNext (answers : Answers) :
    Buffered (binding.transactionSubmitNext answers).2.events := by
  have prepared := buffered.prepare (binding.stamp answers)
  unfold Binding.transactionSubmitNext
  split
  · exact buffered.transactionFail _
  split
  · rename_i error events result
    rw [result] at prepared
    have after : Buffered { binding with events }.events := prepared
    exact after.transactionFail _
  · rename_i command events result
    rw [result] at prepared
    split
    · have after : Buffered { binding with events }.events := prepared
      exact after.transactionFail _
    · dsimp only
      split
      · apply Buffered.transactionFail
        exact prepared
      · exact prepared

theorem Buffered.completeOut (generation : UInt64) (completionError : Option GError) :
    Buffered (binding.completeOut generation completionError).2.events := by
  have committed := buffered.commit binding.transaction.prepared.intent.event
  unfold Binding.completeOut
  split
  · exact buffered.transactionFail _
  split
  · exact buffered.transactionFail _
  split
  · exact buffered.transactionFail _
  dsimp only
  split
  · rename_i error events result
    rw [result] at committed
    have after : Buffered { binding with events }.events := committed
    exact after.transactionFail _
  · rename_i events result
    rw [result] at committed
    exact committed

theorem Buffered.submitNext (answers : Answers) :
    Buffered (binding.submitNext answers).2.events := by
  have submitted := buffered.transactionSubmitNext answers
  unfold Binding.submitNext
  split
  · exact buffered.terminate _
  split
  · rename_i result
    rw [result] at submitted
    exact Buffered.terminate submitted _
  · rename_i result
    rwa [result] at submitted

theorem Buffered.submitIfGraphReady (answers : Answers) :
    Buffered (binding.submitIfGraphReady answers).2.events := by
  unfold Binding.submitIfGraphReady
  split
  · exact buffered
  split
  · exact buffered
  split
  · exact buffered.submitNext answers
  · exact buffered

end

theorem Buffered.passed {result : Except GError Unit × Binding}
    (buffered : Buffered result.2.events) :
    Buffered (match result with
      | (.error error, after) => after.transactionFail error
      | (.ok (), after) => (.ok (), after)).2.events := by
  obtain ⟨verdict, after⟩ := result
  cases verdict with
  | error error => exact Buffered.transactionFail buffered error
  | ok _ => exact buffered

theorem Buffered.answered {result : Except GError Unit × Binding}
    (buffered : Buffered result.2.events) (message : String) (answers : Answers) :
    Buffered (match result with
      | (.error error, after) => after.fail message error
      | (.ok (), after) => after.submitIfGraphReady answers).2.events := by
  obtain ⟨verdict, after⟩ := result
  cases verdict with
  | error error => exact Buffered.terminate buffered _
  | ok _ => exact buffered.submitIfGraphReady answers

section

variable {binding : Binding} (buffered : Buffered binding.events)

include buffered

theorem Buffered.transactionHandleA0 (frame : List UInt8) (answers : Answers) :
    Buffered (binding.transactionHandleA0 frame answers).2.events := by
  unfold Binding.transactionHandleA0
  split
  · exact buffered.transactionFail _
  · exact (buffered.eventsHandleA0 frame answers).passed

theorem Buffered.transactionHandlePlaintextChunk (chunk : List UInt8) (answers : Answers) :
    Buffered (binding.transactionHandlePlaintextChunk chunk answers).2.events := by
  unfold Binding.transactionHandlePlaintextChunk
  split
  · exact buffered.transactionFail _
  · exact (buffered.eventsHandlePlaintextChunk chunk answers).passed

theorem Buffered.handleA0 (frame : List UInt8) (answers : Answers) :
    Buffered (binding.handleA0 frame answers).2.events := by
  unfold Binding.handleA0
  split
  · exact buffered.terminate _
  have consumed := consumeStaleRelease_cases binding.events frame
  generalize binding.events.consumeStaleRelease frame = result at consumed
  cases consumed with
  | other => exact (buffered.transactionHandleA0 frame answers).answered _ answers
  | refused opened error =>
    have stopped : Buffered { binding with events := binding.events.stop }.events := buffered.stop
    exact stopped.terminate _
  | late running opened first => exact buffered.same rfl rfl

theorem Buffered.requestZeroSample (answers : Answers) :
    Buffered (binding.requestZeroSample answers).2.events := by
  unfold Binding.requestZeroSample
  split
  · exact buffered.terminate _
  unfold Events.requestZeroSample
  by_cases undue : binding.events.failed ∨ binding.events.zero.awaitingSampleRequest = false ∨
      binding.events.getExpectedEvent ≠ .command_32
  · rw [if_pos undue]
    have stopped : Buffered { binding with events := binding.events.stop }.events := buffered.stop
    exact stopped.terminate _
  · rw [if_neg undue]
    dsimp only
    apply Buffered.submitIfGraphReady
    exact buffered.same rfl rfl

theorem Buffered.backendOutComplete (generation : UInt64) (completionError : Option GError)
    (answers : Answers) :
    Buffered (binding.backendOutComplete generation completionError answers).events := by
  have completed := buffered.completeOut generation completionError
  unfold Binding.backendOutComplete
  split
  · rename_i result
    rw [result] at completed
    exact completed.terminate _
  rename_i result
  rw [result] at completed
  split
  · exact completed
  split
  · exact completed
  · exact completed.terminate _

theorem Buffered.call (answers : Answers) (made : Call) :
    Buffered (binding.call answers made).2.events := by
  cases made with
  | handleA0 frame => exact buffered.handleA0 frame answers
  | handlePlaintextChunk chunk =>
    show Buffered (binding.handlePlaintextChunk chunk answers).2.events
    unfold Binding.handlePlaintextChunk
    split
    · exact buffered.terminate _
    · exact (buffered.transactionHandlePlaintextChunk chunk answers).answered _ answers
  | requestZeroSample => exact buffered.requestZeroSample answers
  | prepare => exact buffered.prepare _
  | submitNext => exact buffered.submitNext answers
  | outComplete generation completionError =>
    exact buffered.backendOutComplete generation completionError answers
  | cancel => exact buffered.cancel

end

theorem new_buffered {config : ModelConfig} {contact zeroRecovery : Bool} {generation : UInt64}
    {start : Binding} (made : Binding.new config contact zeroRecovery generation = .ok start) :
    Buffered start.events := by
  unfold Binding.new Events.new at made
  cases adapter : Adapter.new config with
  | error error =>
    rw [adapter] at made
    cases made
  | ok lifecycle =>
    rw [adapter] at made
    cases made
    exact ⟨Nat.zero_le _, .inl rfl⟩

theorem run_buffered {start : Binding} (buffered : Buffered start.events)
    (calls : List (Call × Answers)) : Buffered (run step start calls).1.events :=
  run_state_invariant step (fun binding => Buffered binding.events) buffered
    (fun _ made kept => kept.call made.2 made.1) calls

/-! ## Reassembly -/

/-- What pieces of plaintext do where a B0 is expected. -/
structure Reassembles (binding : Binding) (expected : Event) : Prop where
  /-- A whole message in pieces is one message. -/
  message : ∀ (earlier : List Piece) chunk answers, (∀ piece ∈ earlier, piece.1 ≠ []) →
    chunk ≠ [] → IsMessage expected (binding.events.b0Pending ++ (joined earlier ++ chunk)) →
    binding.feedAll (earlier ++ [(chunk, answers)]) =
      binding.eventsHandlePlaintextChunk (joined earlier ++ chunk) answers
  /-- Before the message is whole nothing changes but the buffer. -/
  waits : ∀ pieces : List Piece, (∀ piece ∈ pieces, piece.1 ≠ []) →
    Growing expected (binding.events.b0Pending ++ joined pieces) →
    binding.feedAll pieces =
      (.ok (), binding.withPending (binding.events.b0Pending ++ joined pieces))
  /-- What is no message and cannot become one fails. -/
  fails : ∀ pieces : List Piece, pieces ≠ [] → (∀ piece ∈ pieces, piece.1 ≠ []) →
    ¬ Growing expected (binding.events.b0Pending ++ joined pieces) →
    ¬ IsMessage expected (binding.events.b0Pending ++ joined pieces) →
    Fails (binding.feedAll pieces)
  /-- An image that cannot be decoded fails. -/
  undecoded : expected = .primaryB0 → ∀ chunk answers error, chunk ≠ [] →
    IsMessage expected (binding.events.b0Pending ++ chunk) →
    decodePlaintext (binding.events.b0Pending ++ chunk) = .error error →
    Fails (binding.eventsHandlePlaintextChunk chunk answers)

/-- In every state that a run reaches the buffer keeps its bound, and where a B0 is expected the
pieces of a message are one message. -/
theorem b0_reassembled {config : ModelConfig} {contact zeroRecovery : Bool} {generation : UInt64}
    {start : Binding} (made : Binding.new config contact zeroRecovery generation = .ok start)
    (calls : List (Call × Answers)) :
    let reached := (run step start calls).1
    reached.events.b0Pending.length ≤ b0MaxPlaintextLength ∧
      ∀ expected, IsB0 expected → reached.events.getExpectedEvent = expected →
        Reassembles reached expected := by
  intro reached
  have buffered : Buffered reached.events := run_buffered (new_buffered made) calls
  refine ⟨buffered.bounded, fun expected slot awaits => ⟨?_, ?_, ?_, ?_⟩⟩
  · exact fun earlier chunk answers full last whole => feedAll_message slot awaits full last whole
  · exact fun pieces full growing => feedAll_growing slot awaits full growing
  · exact fun pieces some full stopped other =>
      feedAll_fails slot awaits buffered.plain some full stopped other
  · rintro rfl chunk answers error some whole undecoded
    exact message_undecoded awaits answers some whole undecoded

/-- The first touch up to the slot of its image. -/
def untilImage : List (Call × Answers) :=
  [(.handleA0 (interruptFrame 0x32 [0x02, 0x00, 0x01, 0x00]), quiet), (.outComplete 1 none, quiet),
    (.handleA0 ((buildFrame 0xb0 0xb0 [0x22, 0x01]).getD []), quiet)]

theorem blackImage_isMessage (expected : Event) : IsMessage expected blackImage := by
  have declared : word16 blackImage 1 = 7690 := rfl
  have length := length_blackImage
  refine ⟨?_, ?_, ?_, fun _ => length⟩
  · rw [declared]
    decide
  · rw [declared, length]
    rfl
  · rw [length]
    decide

/-- The black image in one piece, where an image is expected. -/
theorem handle_blackImage {binding : Binding} (answers : Answers)
    (awaits : binding.events.getExpectedEvent = .primaryB0) (empty : binding.events.b0Pending = []) :
    binding.eventsHandlePlaintextChunk blackImage answers =
      binding.clearPending.handlePrimarySamples blackRaster.samples answers := by
  have some : blackImage ≠ [] := by
    intro none
    have length := length_blackImage
    rw [none] at length
    cases length
  have handled := (@eventsHandlePlaintextChunk_eq _ _ answers _ awaits (.inl rfl) some).2.1
  rw [empty, List.nil_append] at handled
  rw [handled (blackImage_isMessage _), handleComplete, if_pos rfl,
    show decodePlaintext blackImage = .ok blackRaster.samples from decodePlaintext_wrap _ _]
  rfl

/-- One octet of the first image waits for the others; with them the image is handled as if it had
come in one piece, and accepted. -/
theorem b0_reassembled_pieces :
    ∃ start, Binding.new ⟨2, 0, false, false, false⟩ false false 1 = .ok start ∧
      let awaiting := (run step start untilImage).1
      let fed := awaiting.feedAll [([0x20], quiet), (blackImage.tail, quiet)]
      awaiting.events.getExpectedEvent = .primaryB0 ∧
        awaiting.feedAll [([0x20], quiet)] = (.ok (), awaiting.withPending [0x20]) ∧
        fed = awaiting.eventsHandlePlaintextChunk blackImage quiet ∧
        fed.1 = .ok () ∧ fed.2.events.audit.primaryB0Count = 1 ∧
        fed.2.events.getExpectedEvent = .command_34 := by
  have expected : ∀ start, Binding.new ⟨2, 0, false, false, false⟩ false false 1 = .ok start →
      (run step start untilImage).1.events.getExpectedEvent = .primaryB0 ∧
        (run step start untilImage).1.events.b0Pending = [] := by
    rintro start made
    cases made
    decide +kernel
  have accepted : ∀ start, Binding.new ⟨2, 0, false, false, false⟩ false false 1 = .ok start →
      let handled := (run step start untilImage).1.clearPending.handlePrimarySamples
        blackRaster.samples quiet
      handled.1 = .ok () ∧ handled.2.events.audit.primaryB0Count = 1 ∧
        handled.2.events.getExpectedEvent = .command_34 := by
    rintro start made
    cases made
    decide +kernel
  have pieces : [0x20] ++ blackImage.tail = blackImage := rfl
  have more : blackImage.tail ≠ [] := by
    intro none
    have length := length_blackImage
    rw [← pieces, none] at length
    cases length
  obtain ⟨start, made⟩ : ∃ start, Binding.new ⟨2, 0, false, false, false⟩ false false 1 = .ok start :=
    ⟨_, rfl⟩
  have awaits := expected start made
  have reassembles := (b0_reassembled made untilImage).2 .primaryB0 (.inl rfl) awaits.1
  have waits := reassembles.waits [([0x20], quiet)] (by simp) (.inl (by
    rw [awaits.2]
    decide))
  have message := reassembles.message [([0x20], quiet)] blackImage.tail quiet (by simp) more (by
    rw [awaits.2]
    exact blackImage_isMessage _)
  rw [awaits.2] at waits
  have whole := handle_blackImage quiet awaits.1 awaits.2
  refine ⟨start, made, awaits.1, waits, message, ?_⟩
  rw [List.singleton_append] at message
  rw [message.trans whole]
  exact accepted start made

end Binding

end Goodix.Enrollment
