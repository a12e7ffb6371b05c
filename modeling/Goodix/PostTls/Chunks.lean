import Goodix.ImageCodec
import Goodix.PostTls.Silence

/-! # Plaintexts in pieces

A record of plaintext comes in one delivery or in several.  Three of the four B0 slots gather the
pieces until an image is whole.  The slot behind the finger's release goes on at the first piece,
and the next one comes when no plaintext is awaited.
-/

namespace Goodix.PostTls

open Machines Usb ImageDecoder Octets

/-! ## Deliveries one after the other -/

/-- What is seen of a log: the commands and the callbacks, but not what error the owner is told. -/
inductive Seen where
  | command (control : UInt8) (packet : List UInt8)
  | callback (callback : Callback)
  | ended
  deriving DecidableEq

def Noted.seen : Noted → Option Seen
  | .submitted control packet => some (.command control packet)
  | .called (.terminal _) => some .ended
  | .called callback => some (.callback callback)
  | _ => none

def seen (log : List Noted) : List Seen := log.filterMap Noted.seen

/-- A delivery, and what its user does while it waits for callbacks. -/
structure Delivery where
  octets : List UInt8
  meanwhile : List (Callbacks.Action Call)

def Delivery.call (answer : Answer) (delivery : Delivery) : Callbacks.Action Call :=
  .call (.handlePlaintext delivery.octets answer)

def Delivery.actions (answer : Answer) (delivery : Delivery) : List (Callbacks.Action Call) :=
  delivery.call answer :: delivery.meanwhile

/-- Deliveries one after the other: the user does nothing but in callbacks, and a delivery has
returned before the next one. -/
def InTurn (answer : Answer) : Callbacks.Waiting Desk Work → List Delivery → Prop
  | _, [] => True
  | waiting, delivery :: later =>
    Desk.program.Settles (Desk.program.step waiting (delivery.call answer)).1 delivery.meanwhile ∧
      InTurn answer (run Desk.program.step waiting (delivery.actions answer)).1 later

/-- The lifecycle when no call waits. -/
def atRest (lifecycle : Lifecycle) : Callbacks.Waiting Desk Work := ⟨⟨lifecycle, none⟩, []⟩

/-- What becomes of deliveries to a lifecycle. -/
def deliverAll (answer : Answer) (lifecycle : Lifecycle) (deliveries : List Delivery) :
    Callbacks.Waiting Desk Work × List Noted :=
  run Desk.program.step (atRest lifecycle) (deliveries.flatMap (Delivery.actions answer))

/-- All that several deliveries bring, with all that the user did, in one delivery. -/
def whole (deliveries : List Delivery) : Delivery where
  octets := deliveries.flatMap Delivery.octets
  meanwhile := deliveries.flatMap Delivery.meanwhile

/-- Deliveries do what all of them do in one: the same commands and callbacks, to the same
phase. -/
structure AsWhole (answer : Answer) (lifecycle : Lifecycle) (deliveries : List Delivery) : Prop where
  inTurn : InTurn answer (atRest lifecycle) [whole deliveries]
  seen : seen (deliverAll answer lifecycle deliveries).2 =
    Goodix.PostTls.seen (deliverAll answer lifecycle [whole deliveries]).2
  phase : (deliverAll answer lifecycle deliveries).1.state.lifecycle.phase =
    (deliverAll answer lifecycle [whole deliveries]).1.state.lifecycle.phase

/-- A record may be cut anywhere: its pieces do what the whole does. -/
def ChunkInvariant (lifecycle : Lifecycle) (record : List UInt8) : Prop :=
  ∀ answer deliveries, deliveries ≠ [] → (∀ delivery ∈ deliveries, delivery.octets ≠ []) →
    deliveries.flatMap Delivery.octets = record → InTurn answer (atRest lifecycle) deliveries →
    AsWhole answer lifecycle deliveries

/-- The phases in which a plaintext is awaited. -/
def inSlot (lifecycle : Lifecycle) : Prop :=
  lifecycle.phase = .fdtB0 ∨ lifecycle.phase = .firstB0 ∨ lifecycle.phase = .releaseB0 ∨
    lifecycle.phase = .secondB0

/-- No command can be sent now. -/
def Blocked (lifecycle : Lifecycle) : Prop := lifecycle.outPending = true ∨ Refuses lifecycle

/-- Where cutting does no harm: behind the release if there is nothing to cut or the command
cannot be sent, else if no whole image is in front of more octets, or its command cannot be sent. -/
def Divisible (lifecycle : Lifecycle) (record : List UInt8) : Prop :=
  if lifecycle.phase = .releaseB0 then record.length ≤ 1 ∨ Blocked lifecycle
  else
    ∀ first later samples, record = first ++ later → first ≠ [] → later ≠ [] →
      Completes lifecycle first samples → lifecycle.phase = .fdtB0 ∧ Blocked lifecycle

/-! ## Commands that cannot be sent -/

theorem submitOrFail_blocked {before lifecycle : Lifecycle} (alike : Alike before lifecycle)
    {next : Phase} (lasting : next ≠ .terminal) (blocked : Blocked lifecycle) (control : UInt8)
    (body : List UInt8) :
    ∃ reason after, Fallen before reason after ∧
      lifecycle.submitOrFail control body next =
        { lifecycle := after, noted := [.failed reason], callouts := farewell before reason } := by
  obtain ⟨error, changed, like, result⟩ : ∃ error changed, Alike before changed ∧
      lifecycle.submitCommand control body next = (changed, .error error) := by
    rcases submitCommand_cases lifecycle control body next with
      ⟨packet, sends, -⟩ | ⟨error, -, result⟩ | ⟨error, -, -, result⟩
    · unfold Lifecycle.submitCommand
      rcases blocked with pending | refuses
      · rw [sends.free] at pending
        cases pending
      · have stale : lifecycle.backend.preSessionSyncActive = true ∨
            lifecycle.generation ≠ lifecycle.backend.generation := by
          rcases refuses with fenced | synced | other | busy
          · rw [sends.unfenced] at fenced
            cases fenced
          · exact .inl synced
          · exact .inr other
          · exact absurd sends.idle busy
        have refused : Alike before (lifecycle.refusedWith control next) :=
          { alike with phase := lasting }
        refine ⟨backendError 2 "OUT stale or fenced", lifecycle.refusedWith control next,
          refused, ?_⟩
        rw [if_neg (by simp [sends.free, sends.running, sends.unstopped]), sends.built]
        simp only [Backend.submitOut]
        rw [if_pos (.inr stale)]
        rfl
    · exact ⟨error, lifecycle, alike, result⟩
    · exact ⟨error, lifecycle.refusedWith control next, { alike with phase := lasting }, result⟩
  unfold Lifecycle.submitOrFail
  rw [result]
  exact fail_fallen like (some error)

theorem submitOrFail_unblocked {lifecycle : Lifecycle} (running : lifecycle.phase ≠ .terminal)
    (unstopped : lifecycle.phase ≠ .stop) (unblocked : ¬ Blocked lifecycle) (control : UInt8)
    {body : List UInt8} (short : body.length ≤ 56) (next : Phase) :
    ∃ packet, lifecycle.submitOrFail control body next =
      { lifecycle := lifecycle.sentWith control next, noted := [.submitted control packet] } := by
  simp only [Blocked, not_or, Bool.not_eq_true] at unblocked
  unfold Lifecycle.submitOrFail
  rcases submitCommand_cases lifecycle control body next with
    ⟨packet, -, result⟩ | ⟨error, why, -⟩ | ⟨error, -, refuses, -⟩
  · rw [result]
    exact ⟨packet, rfl⟩
  · obtain ⟨packet, built⟩ := fixed64Command_short control short
    simp [unblocked.1, running, unstopped, built] at why
  · exact absurd refuses unblocked.2

/-! ## One piece -/

/-- The length that an image declares in its first octets. -/
def declared (pending : List UInt8) : Nat :=
  (getU16Le [pending.getD 1 0, pending.getD 2 0]).toNat + 3

/-- More of an image may follow. -/
def Growing (pending : List UInt8) : Prop :=
  pending.length < 3 ∨
    (declared pending = imagePlaintextLength ∧ pending.length < imagePlaintextLength)

section

variable {lifecycle : Lifecycle} {octets : List UInt8} {answer : Answer}

theorem Growing.short {pending : List UInt8} (growing : Growing pending) :
    pending.length < imagePlaintextLength := by
  rcases growing with few | ⟨-, short⟩
  · exact few.trans (by decide)
  · exact short

theorem decoded_declared {plaintext : List UInt8} {samples : List UInt16}
    (decoded : decodePlaintext plaintext = .ok samples) :
    plaintext.length = imagePlaintextLength ∧ declared plaintext = imagePlaintextLength := by
  have accepted := (decodePlaintext_ok_iff.mp decoded).1
  refine ⟨accepted.sized, ?_⟩
  rw [declared, accepted.declared]
  rfl

theorem acceptChunk_growing (growing : Growing (lifecycle.plaintextPending ++ octets)) :
    lifecycle.acceptChunk octets answer =
      { lifecycle := { lifecycle with
          plaintextPending := lifecycle.plaintextPending ++ octets } } := by
  have short := growing.short
  rw [List.length_append] at short
  unfold Lifecycle.acceptChunk
  rw [if_neg (by omega)]
  rcases growing with few | ⟨right, unfinished⟩
  · rw [if_pos few]
  · simp only [declared] at right
    simp only [right, unfinished, if_true, ne_eq, not_true_eq_false, false_or, gt_iff_lt]
    rw [if_neg (lt_asymm unfinished), ite_self]

theorem acceptChunk_complete {samples : List UInt16} (complete : Completes lifecycle octets samples) :
    lifecycle.acceptChunk octets answer =
      ({ lifecycle with plaintextPending := [] }).acceptImage samples answer := by
  obtain ⟨sized, right⟩ := decoded_declared complete
  have length := sized
  rw [List.length_append] at length
  simp only [declared] at right
  have decoded : decodePlaintext (lifecycle.plaintextPending ++ octets) = .ok samples := complete
  unfold Lifecycle.acceptChunk
  rw [if_neg (by omega)]
  simp only [right, sized, decoded]
  rw [if_neg (by decide), if_neg (by simp), if_neg (by simp)]

/-- A piece that neither leaves the image growing nor completes it ends the lifecycle. -/
theorem acceptChunk_rejected (running : lifecycle.phase ≠ .terminal)
    (stopped : ¬ Growing (lifecycle.plaintextPending ++ octets))
    (incomplete : ∀ samples, ¬ Completes lifecycle octets samples) :
    ∃ reason after, Fallen lifecycle reason after ∧
      lifecycle.acceptChunk octets answer =
        { lifecycle := after, noted := [.failed reason], callouts := farewell lifecycle reason } := by
  have grown : Alike lifecycle { lifecycle with
      plaintextPending := lifecycle.plaintextPending ++ octets } :=
    ⟨running, rfl, rfl, rfl, rfl, rfl, rfl, running⟩
  have cleared : Alike lifecycle { lifecycle with plaintextPending := [] } :=
    ⟨running, rfl, rfl, rfl, rfl, rfl, rfl, running⟩
  simp only [Growing, declared, not_or, not_and] at stopped
  unfold Lifecycle.acceptChunk
  split
  · exact fail_fallen (.refl running) _
  · simp only
    rw [if_neg stopped.1]
    split
    · exact fail_fallen grown _
    · rename_i proper
      simp only [not_or, not_not] at proper
      rw [if_neg (proper.1 ▸ stopped.2 proper.1)]
      split
      · exact fail_fallen cleared _
      · rename_i samples decoded
        exact absurd decoded (incomplete samples)

/-- A failure forgets what is pending. -/
theorem fail_pending (running : lifecycle.phase ≠ .terminal) (pending : List UInt8)
    (error : Option GError) :
    ({ lifecycle with plaintextPending := pending }).fail error = lifecycle.fail error := by
  simp only [Lifecycle.fail, running, if_false]

/-- Octets that have left the image growing may come in a piece of their own. -/
theorem acceptChunk_append (running : lifecycle.phase ≠ .terminal) {later : List UInt8}
    (growing : Growing (lifecycle.plaintextPending ++ octets)) :
    lifecycle.acceptChunk (octets ++ later) answer =
      ({ lifecycle with
        plaintextPending := lifecycle.plaintextPending ++ octets }).acceptChunk later answer := by
  have short := growing.short
  have overflow : ((octets ++ later).length > imagePlaintextLength ∨ lifecycle.plaintextPending.length >
      imagePlaintextLength - (octets ++ later).length) ↔
      (later.length > imagePlaintextLength ∨
        (lifecycle.plaintextPending ++ octets).length > imagePlaintextLength - later.length) := by
    simp only [List.length_append] at short ⊢
    omega
  unfold Lifecycle.acceptChunk
  simp only [overflow, ← List.append_assoc, fail_pending running]

end

/-! ## Lifecycles that have ended

What an ended lifecycle does depends on its backend and its listeners alone. -/

/-- Two ended desks that nobody can tell apart. -/
structure Lost (first second : Desk) : Prop where
  ended : first.lifecycle.phase = .terminal
  also : second.lifecycle.phase = .terminal
  backend : first.lifecycle.backend = second.lifecycle.backend
  listeners : first.lifecycle.listeners = second.lifecycle.listeners
  delivery : first.delivery = second.delivery
  light : ∀ rest, first.delivery = some rest → rest = .nothing

/-- Callouts of an ended lifecycle; the errors that they tell may differ. -/
inductive Parting : Callout → Callout → Prop where
  | drained : Parting .drained .drained
  | terminal (error other : GError) : Parting (.back (.terminal error)) (.back (.terminal other))

inductive LostWork : Work → Work → Prop where
  | callouts {callouts others : List Callout} (parting : List.Forall₂ Parting callouts others) :
      LostWork (.callouts callouts) (.callouts others)
  | resume : LostWork .resume .resume

/-- Nothing is seen but that the owner is told. -/
structure SeenAlike (first second : List Noted) : Prop where
  same : seen first = seen second
  ends : ∀ entry ∈ seen first, entry = .ended

theorem seenAlike_quiet {first second : List Noted} (quiet : seen first = [])
    (other : seen second = []) : SeenAlike first second :=
  ⟨quiet.trans other.symm, by simp [quiet]⟩

theorem seenAlike_append {first second third fourth : List Noted} (one : SeenAlike first second)
    (two : SeenAlike third fourth) : SeenAlike (first ++ third) (second ++ fourth) := by
  have same := one.same
  have later := two.same
  have ends := one.ends
  have finally_ := two.ends
  simp only [seen] at same later ends finally_
  refine ⟨by simp only [seen, List.filterMap_append, same, later], fun entry inside => ?_⟩
  simp only [seen, List.filterMap_append] at inside
  exact (List.mem_append.mp inside).elim (ends entry) (finally_ entry)

section

variable {first second : Desk} (lost : Lost first second)

include lost in
theorem Lost.callOut {callouts others : List Callout} (parting : List.Forall₂ Parting callouts others) :
    Lost (first.callOut callouts).1 (second.callOut others).1 ∧
      SeenAlike (first.callOut callouts).2.1 (second.callOut others).2.1 ∧
      Option.Rel (List.Forall₂ LostWork) (first.callOut callouts).2.2 (second.callOut others).2.2 := by
  induction parting with
  | nil => exact ⟨lost, seenAlike_quiet rfl rfl, .none⟩
  | @cons callout other callouts others here rest ih =>
    cases here with
    | drained =>
      unfold Desk.callOut
      rw [← lost.backend]
      split
      · refine ⟨{ lost with backend := ?_ }, seenAlike_quiet rfl rfl, .some (.cons (.callouts rest) .nil)⟩
        simp only [lost.backend]
      · exact ih
    | terminal error other =>
      have listens : second.lifecycle.listens (.terminal other) =
          first.lifecycle.listens (.terminal error) := by
        simp only [Lifecycle.listens, lost.listeners]
      unfold Desk.callOut
      rw [listens]
      split
      · exact ⟨lost, ⟨rfl, by simp [seen, Noted.seen]⟩, .some (.cons (.callouts rest) .nil)⟩
      · exact ih

/-- A call that an ended lifecycle only turns down. -/
def TurnsDown (lifecycle : Lifecycle) (outcome : Outcome) : Prop :=
  ∃ noted, seen noted = [] ∧ outcome = { lifecycle, noted }

theorem turnsDown_nothing (lifecycle : Lifecycle) : TurnsDown lifecycle { lifecycle } :=
  ⟨[], rfl, rfl⟩

theorem turnsDown_refused (lifecycle : Lifecycle) (error : GError) :
    TurnsDown lifecycle { lifecycle, noted := [.refused error] } :=
  ⟨[.refused error], rfl, rfl⟩

/-- How two calls leave two lost desks. -/
def LostCalls (first second : Desk × List Noted × List Work) : Prop :=
  Lost first.1 second.1 ∧ SeenAlike first.2.1 second.2.1 ∧ List.Forall₂ LostWork first.2.2 second.2.2

include lost in
theorem Lost.perform {outcome other : Outcome} (down : TurnsDown first.lifecycle outcome)
    (beside : TurnsDown second.lifecycle other) :
    LostCalls (first.perform outcome) (second.perform other) := by
  obtain ⟨noted, quiet, rfl⟩ := down
  obtain ⟨heard, still, rfl⟩ := beside
  exact ⟨lost, seenAlike_quiet quiet still, .cons (.callouts .nil) .nil⟩

include lost in
theorem Lost.deliver {outcome other : Outcome} (down : outcome = { lifecycle := first.lifecycle })
    (beside : other = { lifecycle := second.lifecycle }) :
    LostCalls (first.deliver outcome) (second.deliver other) := by
  unfold Desk.deliver
  rw [← lost.delivery, down, beside]
  split
  · exact ⟨lost, seenAlike_quiet rfl rfl, .nil⟩
  · exact ⟨{ lost with delivery := rfl, light := fun rest same => (Option.some.inj same).symm },
      seenAlike_quiet rfl rfl, .cons (.callouts .nil) (.cons .resume .nil)⟩

end

section

variable {lifecycle : Lifecycle} (ended : lifecycle.phase = .terminal)

include ended

theorem turnsDown_setFirstArmHandoff : TurnsDown lifecycle lifecycle.setFirstArmHandoff := by
  unfold Lifecycle.setFirstArmHandoff
  rw [if_pos (.inl (by simp [ended]))]
  exact turnsDown_refused lifecycle _

theorem turnsDown_prepareLogin : TurnsDown lifecycle lifecycle.prepareLogin := by
  unfold Lifecycle.prepareLogin
  rw [if_pos (by simp [ended])]
  exact turnsDown_nothing lifecycle

theorem turnsDown_start : TurnsDown lifecycle lifecycle.start := by
  unfold Lifecycle.start
  rw [if_pos (by simp [ended])]
  exact turnsDown_refused lifecycle _

theorem turnsDown_setFrameworkAwaitFingerOn (generation : Nat) (awaiting : Bool) :
    TurnsDown lifecycle (lifecycle.setFrameworkAwaitFingerOn generation awaiting) := by
  unfold Lifecycle.setFrameworkAwaitFingerOn
  rw [if_pos (.inr (.inl ended))]
  exact turnsDown_nothing lifecycle

theorem turnsDown_cancel (reason : Option String) :
    TurnsDown lifecycle (lifecycle.cancel reason) := by
  unfold Lifecycle.cancel
  rw [fail_terminal ended]
  exact turnsDown_nothing lifecycle

theorem turnsDown_timeout : TurnsDown lifecycle lifecycle.timeout := by
  unfold Lifecycle.timeout
  rw [if_pos (.inl (by simp [ended, Lifecycle.initializing]))]
  exact turnsDown_nothing lifecycle

theorem turnsDown_authorizeLogin : TurnsDown lifecycle lifecycle.authorizeLogin := by
  unfold Lifecycle.authorizeLogin
  rw [if_pos (by simp [ended])]
  exact turnsDown_nothing lifecycle

theorem turnsDown_nextLogin (timestamp : UInt16) :
    TurnsDown lifecycle (lifecycle.nextLogin timestamp) := by
  unfold Lifecycle.nextLogin
  rw [if_pos (by simp [ended])]
  exact turnsDown_refused lifecycle _

theorem handleA0_ended (frame : List UInt8) (answer : Answer) :
    lifecycle.handleA0 frame answer = { lifecycle } := by
  unfold Lifecycle.handleA0
  rw [if_pos (.inl ended)]

theorem handlePlaintext_ended (octets : List UInt8) (answer : Answer) :
    lifecycle.handlePlaintext octets answer = { lifecycle } := by
  unfold Lifecycle.handlePlaintext
  rw [if_pos (.inl ended)]

theorem completeOut_ended (generation : Nat) (error : Option GError) :
    lifecycle.completeOut generation error =
      match lifecycle.backend.takeOut generation with
      | none => { lifecycle }
      | some backend =>
        { lifecycle := { lifecycle with backend }
          noted := [.outCompleted error]
          callouts := [.drained] } := by
  unfold Lifecycle.completeOut
  cases lifecycle.backend.takeOut generation with
  | none => rfl
  | some backend =>
    simp only [Lifecycle.outComplete, ended, or_true, if_true, ite_self]
    rfl

end

theorem Lost.call {first second : Desk} (lost : Lost first second) (call : Call) :
    LostCalls (first.call call) (second.call call) := by
  have ended := lost.ended
  have also := lost.also
  cases call with
  | setFirstArmHandoff =>
    exact lost.perform (turnsDown_setFirstArmHandoff ended) (turnsDown_setFirstArmHandoff also)
  | prepareLogin => exact lost.perform (turnsDown_prepareLogin ended) (turnsDown_prepareLogin also)
  | start => exact lost.perform (turnsDown_start ended) (turnsDown_start also)
  | handleA0 frame answer =>
    exact lost.deliver (handleA0_ended ended frame answer) (handleA0_ended also frame answer)
  | handlePlaintext octets answer =>
    exact lost.deliver (handlePlaintext_ended ended octets answer)
      (handlePlaintext_ended also octets answer)
  | setFrameworkAwaitFingerOn generation awaiting =>
    exact lost.perform (turnsDown_setFrameworkAwaitFingerOn ended generation awaiting)
      (turnsDown_setFrameworkAwaitFingerOn also generation awaiting)
  | cancel reason =>
    exact lost.perform (turnsDown_cancel ended reason) (turnsDown_cancel also reason)
  | timeout => exact lost.perform (turnsDown_timeout ended) (turnsDown_timeout also)
  | authorizeLogin =>
    exact lost.perform (turnsDown_authorizeLogin ended) (turnsDown_authorizeLogin also)
  | nextLogin timestamp =>
    exact lost.perform (turnsDown_nextLogin ended timestamp) (turnsDown_nextLogin also timestamp)
  | copyLearnedFdt => exact ⟨lost, seenAlike_quiet rfl rfl, .nil⟩
  | completeOut generation error =>
    simp only [Desk.call, completeOut_ended ended, completeOut_ended also, ← lost.backend]
    cases first.lifecycle.backend.takeOut generation with
    | none => exact ⟨lost, seenAlike_quiet rfl rfl, .cons (.callouts .nil) .nil⟩
    | some backend =>
      exact ⟨{ lost with backend := rfl }, seenAlike_quiet rfl rfl,
        .cons (.callouts (.cons .drained .nil)) .nil⟩
  | fence =>
    simp only [Desk.call, ← lost.backend]
    split
    · exact ⟨lost, seenAlike_quiet rfl rfl, .nil⟩
    · exact ⟨{ lost with backend := rfl }, seenAlike_quiet rfl rfl,
        .cons (.callouts (.cons .drained .nil)) .nil⟩
  | armReceive =>
    simp only [Desk.call, ← lost.backend]
    split
    · exact ⟨lost, seenAlike_quiet rfl rfl, .nil⟩
    · exact ⟨{ lost with backend := rfl }, seenAlike_quiet rfl rfl, .nil⟩
  | completeReceive generation =>
    simp only [Desk.call, ← lost.backend]
    cases first.lifecycle.backend.takeReceive generation with
    | none => exact ⟨lost, seenAlike_quiet rfl rfl, .nil⟩
    | some taken =>
      exact ⟨{ lost with backend := rfl }, seenAlike_quiet rfl rfl,
        .cons (.callouts (.cons .drained .nil)) .nil⟩

theorem lost_simulates : Desk.program.Simulates Lost LostWork SeenAlike where
  nothing := seenAlike_quiet rfl rfl
  append := seenAlike_append
  call call lost := lost.call call
  turn := by
    intro first second work other lost same
    cases same with
    | callouts parting => exact lost.callOut parting
    | resume =>
      have delivery := lost.delivery
      cases waits : first.delivery with
      | none =>
        rw [waits] at delivery
        simp only [Desk.program, Desk.turn, waits, ← delivery]
        exact ⟨lost, seenAlike_quiet rfl rfl, .none⟩
      | some rest =>
        cases lost.light rest waits
        rw [waits] at delivery
        simp only [Desk.program, Desk.turn, waits, ← delivery, Lifecycle.finish, Desk.callOut]
        exact ⟨⟨lost.ended, lost.also, lost.backend, lost.listeners, rfl, by simp⟩,
          seenAlike_quiet rfl rfl, .none⟩

/-! ## Work that comes to an end -/

/-- How often a piece of work may still call back. -/
def Work.weight : Work → Nat
  | .callouts due => due.length + 1
  | .resume => 4

theorem callOut_lighter (desk : Desk) {callouts : List Callout} {more : List Work}
    (left : (desk.callOut callouts).2.2 = some more) :
    (more.map Work.weight).sum < callouts.length + 1 := by
  induction callouts with
  | nil => cases left
  | cons callout callouts ih =>
    rw [List.length_cons]
    cases callout with
    | drained =>
      unfold Desk.callOut at left
      split at left
      · cases left
        simp [Work.weight]
      · have less := ih left
        omega
    | back callback =>
      unfold Desk.callOut at left
      split at left
      · cases left
        simp [Work.weight]
      · have less := ih left
        omega

theorem Finished.few {lifecycle after : Lifecycle} {rest : Rest} {noted : List Noted}
    {callouts : List Callout} (finished : Finished lifecycle rest noted after callouts) :
    callouts.length ≤ 2 := by
  cases finished with
  | failed fallen =>
    unfold farewell
    split <;> simp
  | _ => simp

theorem turn_lighter (desk : Desk) (work : Work) (more : List Work)
    (left : (desk.turn work).2.2 = some more) :
    (more.map Work.weight).sum < work.weight := by
  cases work with
  | callouts callouts => exact callOut_lighter desk left
  | resume =>
    simp only [Desk.turn] at left
    split at left
    · cases left
    · rename_i rest waits
      have few := (finish_finishes desk.lifecycle rest).few
      have less := callOut_lighter _ left
      rw [Work.weight]
      omega

/-- The callbacks of a delivery can all return. -/
theorem exists_settles (waiting : Callbacks.Waiting Desk Work) :
    ∃ count, Desk.program.Settles waiting (List.replicate count .returned) :=
  Callbacks.Program.exists_settles Work.weight turn_lighter waiting

/-! ## Deliveries to a lifecycle at rest -/

/-- A delivery up to its first callback. -/
def entered (outcome : Outcome) : Callbacks.Waiting Desk Work × List Noted :=
  let waiting := Desk.program.enter ⟨outcome.lifecycle, some outcome.rest⟩ []
    [.callouts outcome.callouts, .resume]
  (waiting.1, outcome.noted ++ waiting.2)

theorem step_delivery (lifecycle : Lifecycle) (answer : Answer) (delivery : Delivery) :
    Desk.program.step (atRest lifecycle) (delivery.call answer) =
      entered (lifecycle.handlePlaintext delivery.octets answer) := rfl

theorem entered_quiet (lifecycle : Lifecycle) (noted : List Noted) :
    entered { lifecycle, noted } = (atRest lifecycle, noted) := by
  simp [entered, atRest, Callbacks.Program.enter, Callbacks.Program.proceed, Desk.program,
    Desk.turn, Desk.callOut, Lifecycle.finish]

/-- Two ways to fail look alike. -/
theorem entered_fallen {before one other : Lifecycle} {reason cause : GError}
    (fallen : Fallen before reason one) (beside : Fallen before cause other)
    {heard noted : List Noted} (quiet : seen heard = []) (still : seen noted = []) :
    Callbacks.Program.WaitsAlike Lost LostWork
        (entered { lifecycle := one, noted := heard, callouts := farewell before reason }).1
        (entered { lifecycle := other, noted := noted, callouts := farewell before cause }).1 ∧
      SeenAlike (entered { lifecycle := one, noted := heard, callouts := farewell before reason }).2
        (entered { lifecycle := other, noted := noted, callouts := farewell before cause }).2 := by
  have lost : Lost ⟨one, some .nothing⟩ ⟨other, some .nothing⟩ :=
    ⟨fallen.phase, beside.phase, fallen.backend.trans beside.backend.symm,
      fallen.listeners.trans beside.listeners.symm, rfl, fun rest same => (Option.some.inj same).symm⟩
  have parting : List.Forall₂ Parting (farewell before reason) (farewell before cause) := by
    unfold farewell
    split
    · exact .cons (.terminal reason cause) .nil
    · exact .cons .drained (.cons (.terminal reason cause) .nil)
  obtain ⟨waits, heard⟩ := Callbacks.Program.enter_alike lost_simulates lost .nil
    (.cons (.callouts parting) (.cons .resume .nil))
  exact ⟨waits, seenAlike_append (seenAlike_quiet quiet still) heard⟩

/-- An ended lifecycle takes no notice of a delivery. -/
theorem step_ended {waiting : Callbacks.Waiting Desk Work}
    (ended : waiting.state.lifecycle.phase = .terminal) (returned : waiting.stack = [])
    (answer : Answer) (delivery : Delivery) :
    Desk.program.step waiting (delivery.call answer) = (waiting, []) := by
  obtain ⟨⟨lifecycle, rest⟩, stack⟩ := waiting
  cases returned
  cases rest with
  | none =>
    have quiet := step_delivery lifecycle answer delivery
    rw [handlePlaintext_ended ended, entered_quiet] at quiet
    exact quiet
  | some rest => rfl

theorem inTurn_ended {waiting : Callbacks.Waiting Desk Work}
    (ended : waiting.state.lifecycle.phase = .terminal) (returned : waiting.stack = [])
    {answer : Answer} {deliveries : List Delivery} (inTurn : InTurn answer waiting deliveries) :
    deliveries.flatMap Delivery.meanwhile = [] ∧
      run Desk.program.step waiting (deliveries.flatMap (Delivery.actions answer)) =
        (waiting, []) := by
  induction deliveries with
  | nil => exact ⟨rfl, rfl⟩
  | cons delivery later ih =>
    obtain ⟨settles, rest⟩ := inTurn
    rw [step_ended ended returned, Callbacks.Program.settles_returned returned] at settles
    have ignored : run Desk.program.step waiting (delivery.actions answer) = (waiting, []) := by
      rw [Delivery.actions, settles, run, step_ended ended returned]
      rfl
    rw [ignored] at rest
    obtain ⟨none, same⟩ := ih rest
    rw [List.flatMap_cons, List.flatMap_cons, settles, none, run_append, ignored, same]
    exact ⟨rfl, rfl⟩

/-! ## The slots that gather -/

/-- The slots that put pieces together. -/
def Gathers (lifecycle : Lifecycle) : Prop :=
  lifecycle.phase = .fdtB0 ∨ lifecycle.phase = .firstB0 ∨ lifecycle.phase = .secondB0

theorem Gathers.running {lifecycle : Lifecycle} (gathers : Gathers lifecycle) :
    lifecycle.phase ≠ .terminal := by
  rcases gathers with phase | phase | phase <;> rw [phase] <;> nofun

theorem handlePlaintext_gathers {lifecycle : Lifecycle} (gathers : Gathers lifecycle)
    (octets : List UInt8) (answer : Answer) :
    lifecycle.handlePlaintext octets answer =
      (lifecycle.acceptChunk octets answer).after [.plaintext octets] := by
  unfold Lifecycle.handlePlaintext
  rcases gathers with phase | phase | phase <;> simp [phase]

theorem declared_append {pending : List UInt8} (three : 3 ≤ pending.length) (later : List UInt8) :
    declared (pending ++ later) = declared pending := by
  rw [declared, declared, List.getD_append _ _ _ _ (by omega), List.getD_append _ _ _ _ (by omega)]

/-- In front of more octets of an image that fits, an image is still growing. -/
theorem growing_of_append {pending later : List UInt8} (more : later ≠ [])
    (fits : (pending ++ later).length < 3 ∨ (declared (pending ++ later) = imagePlaintextLength ∧
      (pending ++ later).length ≤ imagePlaintextLength)) : Growing pending := by
  have some := List.length_pos_of_ne_nil more
  rw [List.length_append] at fits
  by_cases few : pending.length < 3
  · exact .inl few
  rcases fits with short | ⟨right, short⟩
  · omega
  · rw [declared_append (by omega)] at right
    exact .inr ⟨right, by omega⟩

/-- A failure, and what a log has of it. -/
def FailsOn (lifecycle : Lifecycle) (octets : List UInt8) (answer : Answer) : Prop :=
  ∃ reason after noted, seen noted = [] ∧ Fallen lifecycle reason after ∧
    lifecycle.handlePlaintext octets answer =
      { lifecycle := after, noted := noted, callouts := farewell lifecycle reason }

theorem failsOn_rejected {lifecycle : Lifecycle} (gathers : Gathers lifecycle)
    {octets : List UInt8} (answer : Answer)
    (stopped : ¬ Growing (lifecycle.plaintextPending ++ octets))
    (incomplete : ∀ samples, ¬ Completes lifecycle octets samples) :
    FailsOn lifecycle octets answer := by
  obtain ⟨reason, after, fallen, result⟩ :=
    @acceptChunk_rejected lifecycle octets answer gathers.running stopped incomplete
  refine ⟨reason, after, [.plaintext octets, .failed reason], rfl, fallen, ?_⟩
  rw [handlePlaintext_gathers gathers, result]
  rfl

/-- What runs on behind a piece that has stopped the image from growing, fails. -/
theorem failsOn_append {lifecycle : Lifecycle} (gathers : Gathers lifecycle)
    {octets later : List UInt8} (more : later ≠ []) (answer : Answer)
    (stopped : ¬ Growing (lifecycle.plaintextPending ++ octets)) :
    FailsOn lifecycle (octets ++ later) answer := by
  apply failsOn_rejected gathers answer
  · intro growing
    rw [← List.append_assoc] at growing
    refine stopped (growing_of_append more ?_)
    rcases growing with few | ⟨right, short⟩
    · exact .inl few
    · exact .inr ⟨right, short.le⟩
  · intro samples complete
    obtain ⟨sized, right⟩ := decoded_declared complete
    rw [← List.append_assoc] at sized right
    exact stopped (growing_of_append more (.inr ⟨right, sized.le⟩))

/-- A baseline that cannot be followed by its command fails. -/
theorem failsOn_blocked {lifecycle : Lifecycle} (phase : lifecycle.phase = .fdtB0)
    (blocked : Blocked lifecycle) {octets : List UInt8} {samples : List UInt16} (answer : Answer)
    (complete : Completes lifecycle octets samples) : FailsOn lifecycle octets answer := by
  have alike : Alike lifecycle { lifecycle with
      plaintextPending := []
      baselineSamples := samples
      baselineValid := true
      phase := .fdt36_3 } := ⟨nofun, rfl, rfl, rfl, rfl, rfl, rfl, by rw [phase]; nofun⟩
  have lasting : Phase.fdt36_3 ≠ .terminal := nofun
  obtain ⟨reason, after, fallen, result⟩ :=
    submitOrFail_blocked alike lasting blocked 0x36 lifecycle.fdt36Body
  refine ⟨reason, after, [.plaintext octets, .failed reason], rfl, fallen, ?_⟩
  rw [handlePlaintext_gathers (.inl phase), acceptChunk_complete complete,
    acceptImage_baseline (by exact phase)]
  exact congrArg (Outcome.after · [.plaintext octets]) result

theorem entered_failing {lifecycle : Lifecycle} {one other : List UInt8} {answer : Answer}
    (fails : FailsOn lifecycle one answer) (beside : FailsOn lifecycle other answer) :
    Callbacks.Program.WaitsAlike Lost LostWork (entered (lifecycle.handlePlaintext one answer)).1
        (entered (lifecycle.handlePlaintext other answer)).1 ∧
      SeenAlike (entered (lifecycle.handlePlaintext one answer)).2
        (entered (lifecycle.handlePlaintext other answer)).2 := by
  obtain ⟨reason, after, noted, quiet, fallen, result⟩ := fails
  obtain ⟨cause, twin, heard, still, down, outcome⟩ := beside
  rw [result, outcome]
  exact entered_fallen fallen down quiet still

theorem deliverAll_single (answer : Answer) (lifecycle : Lifecycle) (delivery : Delivery) :
    deliverAll answer lifecycle [delivery] =
      ((run Desk.program.step (entered (lifecycle.handlePlaintext delivery.octets answer)).1
          delivery.meanwhile).1,
        (entered (lifecycle.handlePlaintext delivery.octets answer)).2 ++
          (run Desk.program.step (entered (lifecycle.handlePlaintext delivery.octets answer)).1
            delivery.meanwhile).2) := by
  rw [deliverAll, List.flatMap_singleton, Delivery.actions, run]
  rfl

theorem seen_append (log later : List Noted) : seen (log ++ later) = seen log ++ seen later :=
  List.filterMap_append

theorem run_actions (answer : Answer) (lifecycle : Lifecycle) (delivery : Delivery) :
    run Desk.program.step (atRest lifecycle) (delivery.actions answer) =
      deliverAll answer lifecycle [delivery] := by
  rw [deliverAll, List.flatMap_singleton]

theorem deliverAll_cons (answer : Answer) (lifecycle : Lifecycle) (delivery : Delivery)
    (later : List Delivery) :
    deliverAll answer lifecycle (delivery :: later) =
      ((run Desk.program.step (deliverAll answer lifecycle [delivery]).1
          (later.flatMap (Delivery.actions answer))).1,
        (deliverAll answer lifecycle [delivery]).2 ++
          (run Desk.program.step (deliverAll answer lifecycle [delivery]).1
            (later.flatMap (Delivery.actions answer))).2) := by
  rw [← run_actions, deliverAll, List.flatMap_cons, run_append]

theorem asWhole_single (answer : Answer) (lifecycle : Lifecycle) {delivery : Delivery}
    (inTurn : InTurn answer (atRest lifecycle) [delivery]) :
    AsWhole answer lifecycle [delivery] := by
  have wholeOf : whole [delivery] = delivery := by
    simp only [whole, List.flatMap_singleton]
  exact ⟨wholeOf.symm ▸ inTurn, by rw [wholeOf], by rw [wholeOf]⟩

/-- When the first delivery fails, and the whole fails. -/
theorem asWhole_failing {answer : Answer} {lifecycle : Lifecycle} {delivery : Delivery}
    {later : List Delivery} (inTurn : InTurn answer (atRest lifecycle) (delivery :: later))
    (fails : FailsOn lifecycle delivery.octets answer)
    (beside : FailsOn lifecycle (whole (delivery :: later)).octets answer) :
    AsWhole answer lifecycle (delivery :: later) := by
  obtain ⟨settles, rest⟩ := inTurn
  obtain ⟨alike, heard⟩ := entered_failing fails beside
  obtain ⟨after, noted⟩ := Callbacks.Program.run_alike lost_simulates alike delivery.meanwhile
  rw [step_delivery] at settles
  rw [run_actions] at rest
  have ended : (deliverAll answer lifecycle [delivery]).1.state.lifecycle.phase = .terminal := by
    rw [deliverAll_single]
    exact after.states.ended
  have returned : (deliverAll answer lifecycle [delivery]).1.stack = [] := by
    rw [deliverAll_single]
    exact Callbacks.Program.settles_run settles
  obtain ⟨idle, ignored⟩ := inTurn_ended ended returned rest
  have meanwhile : (whole (delivery :: later)).meanwhile = delivery.meanwhile := by
    simp only [whole, List.flatMap_cons, idle, List.append_nil]
  have all : deliverAll answer lifecycle (delivery :: later) =
      deliverAll answer lifecycle [delivery] := by
    rw [deliverAll_cons, ignored, List.append_nil]
  refine ⟨⟨?_, trivial⟩, ?_, ?_⟩
  · rw [step_delivery, meanwhile]
    exact Callbacks.Program.settles_alike lost_simulates alike settles
  · rw [all, deliverAll_single, deliverAll_single, meanwhile, seen_append, seen_append, heard.same,
      noted.same]
  · rw [all, deliverAll_single, deliverAll_single, meanwhile, after.states.ended,
      after.states.also]

/-- When the first delivery leaves the image growing. -/
theorem asWhole_growing {answer : Answer} {lifecycle : Lifecycle} (gathers : Gathers lifecycle)
    {delivery : Delivery} {later : List Delivery}
    (growing : Growing (lifecycle.plaintextPending ++ delivery.octets))
    (idle : delivery.meanwhile = [])
    (rest : AsWhole answer { lifecycle with
      plaintextPending := lifecycle.plaintextPending ++ delivery.octets } later) :
    AsWhole answer lifecycle (delivery :: later) := by
  generalize grownOf : { lifecycle with
    plaintextPending := lifecycle.plaintextPending ++ delivery.octets } = grown at rest
  have gathering : Gathers grown := by
    subst grownOf
    exact gathers
  have first : lifecycle.handlePlaintext delivery.octets answer =
      { lifecycle := grown, noted := [.plaintext delivery.octets] } := by
    rw [handlePlaintext_gathers gathers, acceptChunk_growing growing, grownOf]
    rfl
  have firstRun : deliverAll answer lifecycle [delivery] =
      (atRest grown, [.plaintext delivery.octets]) := by
    rw [deliverAll_single, first, entered_quiet, idle]
    rfl
  have wholeOf : whole (delivery :: later) =
      ⟨delivery.octets ++ (whole later).octets, (whole later).meanwhile⟩ := by
    simp only [whole, List.flatMap_cons, idle, List.nil_append]
  have same : lifecycle.acceptChunk (delivery.octets ++ (whole later).octets) answer =
      grown.acceptChunk (whole later).octets answer := by
    rw [acceptChunk_append gathers.running growing, grownOf]
  -- the whole goes where the rest goes from here, but for the octets that are noted
  have enters (octets : List UInt8) (outcome : Outcome) :
      entered (outcome.after [.plaintext octets]) =
        ((entered outcome).1, .plaintext octets :: (entered outcome).2) := rfl
  obtain ⟨inTurn, sees, phase⟩ := rest
  rw [deliverAll_single, handlePlaintext_gathers gathering, enters] at sees phase
  have settles := inTurn.1
  rw [step_delivery, handlePlaintext_gathers gathering, enters] at settles
  refine ⟨⟨?_, trivial⟩, ?_, ?_⟩
  · rw [step_delivery, wholeOf, handlePlaintext_gathers gathers, same, enters]
    exact settles
  · rw [deliverAll_cons, firstRun, deliverAll_single, wholeOf, handlePlaintext_gathers gathers,
      same, enters]
    exact sees
  · rw [deliverAll_cons, firstRun, deliverAll_single, wholeOf, handlePlaintext_gathers gathers,
      same, enters]
    exact phase

theorem asWhole_gathers {answer : Answer} {lifecycle : Lifecycle} (gathers : Gathers lifecycle)
    {deliveries : List Delivery} (some : deliveries ≠ [])
    (full : ∀ delivery ∈ deliveries, delivery.octets ≠ [])
    (divisible : ∀ first later samples, deliveries.flatMap Delivery.octets = first ++ later →
      first ≠ [] → later ≠ [] → Completes lifecycle first samples →
      lifecycle.phase = .fdtB0 ∧ Blocked lifecycle)
    (inTurn : InTurn answer (atRest lifecycle) deliveries) :
    AsWhole answer lifecycle deliveries := by
  induction deliveries generalizing lifecycle with
  | nil => exact absurd rfl some
  | cons delivery later ih =>
    cases later with
    | nil => exact asWhole_single answer lifecycle inTurn
    | cons next others =>
      have here : delivery.octets ≠ [] := full delivery (by simp)
      have more : (next :: others).flatMap Delivery.octets ≠ [] := by
        simp [full next (by simp)]
      have cut : (delivery :: next :: others).flatMap Delivery.octets =
          delivery.octets ++ (next :: others).flatMap Delivery.octets := List.flatMap_cons
      by_cases growing : Growing (lifecycle.plaintextPending ++ delivery.octets)
      · have first : lifecycle.handlePlaintext delivery.octets answer =
            { lifecycle := { lifecycle with
                plaintextPending := lifecycle.plaintextPending ++ delivery.octets }
              noted := [.plaintext delivery.octets] } := by
          rw [handlePlaintext_gathers gathers, acceptChunk_growing growing]
          rfl
        have idle : delivery.meanwhile = [] := by
          have settles := inTurn.1
          rw [step_delivery, first, entered_quiet] at settles
          exact (Callbacks.Program.settles_returned rfl).mp settles
        have rest := inTurn.2
        rw [run_actions, deliverAll_single, first, entered_quiet, idle] at rest
        refine asWhole_growing gathers growing idle
          (ih gathers (by simp) (fun other among => full other (by simp [among])) ?_ rest)
        intro first last samples cutting begun ending complete
        refine divisible (delivery.octets ++ first) last samples ?_ (by simp [begun]) ending ?_
        · rw [cut, cutting, List.append_assoc]
        · rw [Completes, ← List.append_assoc]
          exact complete
      · have beside : FailsOn lifecycle (whole (delivery :: next :: others)).octets answer := by
          rw [whole, cut]
          exact failsOn_append gathers more answer growing
        refine asWhole_failing inTurn ?_ beside
        by_cases complete : ∃ samples, Completes lifecycle delivery.octets samples
        · obtain ⟨samples, complete⟩ := complete
          obtain ⟨phase, blocked⟩ := divisible _ _ samples cut here more complete
          exact failsOn_blocked phase blocked answer complete
        · exact failsOn_rejected gathers answer growing (not_exists.mp complete)

/-! ## The slot behind the release -/

theorem handlePlaintext_release {lifecycle : Lifecycle} (phase : lifecycle.phase = .releaseB0)
    (octets : List UInt8) (answer : Answer) :
    lifecycle.handlePlaintext octets answer =
      (lifecycle.submitSimple 0x50 .release_50).after [.plaintext octets] := by
  unfold Lifecycle.handlePlaintext
  simp [phase]

theorem failsOn_release {lifecycle : Lifecycle} (phase : lifecycle.phase = .releaseB0)
    (blocked : Blocked lifecycle) (octets : List UInt8) (answer : Answer) :
    FailsOn lifecycle octets answer := by
  have running : lifecycle.phase ≠ .terminal := by rw [phase]; nofun
  have lasting : Phase.release_50 ≠ .terminal := nofun
  obtain ⟨reason, after, fallen, result⟩ :=
    submitOrFail_blocked (.refl running) lasting blocked 0x50 Lifecycle.simpleBody
  refine ⟨reason, after, [.plaintext octets, .failed reason], rfl, fallen, ?_⟩
  rw [handlePlaintext_release phase]
  exact congrArg (Outcome.after · [.plaintext octets]) result

/-- A single octet is not cut. -/
theorem single_of_length {deliveries : List Delivery} (some : deliveries ≠ [])
    (full : ∀ delivery ∈ deliveries, delivery.octets ≠ [])
    (few : (deliveries.flatMap Delivery.octets).length ≤ 1) : ∃ delivery, deliveries = [delivery] := by
  cases deliveries with
  | nil => exact absurd rfl some
  | cons delivery later =>
    cases later with
    | nil => exact ⟨delivery, rfl⟩
    | cons next others =>
      have one := List.length_pos_of_ne_nil (full delivery (by simp))
      have two := List.length_pos_of_ne_nil (full next (by simp))
      simp only [List.flatMap_cons, List.length_append] at few
      omega

theorem asWhole_release {answer : Answer} {lifecycle : Lifecycle}
    (phase : lifecycle.phase = .releaseB0) {deliveries : List Delivery} (some : deliveries ≠ [])
    (full : ∀ delivery ∈ deliveries, delivery.octets ≠ [])
    (divisible : (deliveries.flatMap Delivery.octets).length ≤ 1 ∨ Blocked lifecycle)
    (inTurn : InTurn answer (atRest lifecycle) deliveries) :
    AsWhole answer lifecycle deliveries := by
  rcases divisible with few | blocked
  · obtain ⟨delivery, rfl⟩ := single_of_length some full few
    exact asWhole_single answer lifecycle inTurn
  · cases deliveries with
    | nil => exact absurd rfl some
    | cons delivery later =>
      exact asWhole_failing inTurn (failsOn_release phase blocked _ answer)
        (failsOn_release phase blocked _ answer)

/-! ## Cuts that do harm -/

/-- Two pieces, with a user who only returns. -/
theorem exists_inTurn (answer : Answer) (lifecycle : Lifecycle) (first later : List UInt8) :
    ∃ one two : Delivery, one.octets = first ∧ two.octets = later ∧
      InTurn answer (atRest lifecycle) [one, two] := by
  obtain ⟨count, settles⟩ := exists_settles
    (Desk.program.step (atRest lifecycle) (.call (.handlePlaintext first answer))).1
  let one : Delivery := ⟨first, List.replicate count .returned⟩
  obtain ⟨more, later_⟩ := exists_settles (Desk.program.step
    (run Desk.program.step (atRest lifecycle) (one.actions answer)).1
    (.call (.handlePlaintext later answer))).1
  exact ⟨one, ⟨later, List.replicate more .returned⟩, rfl, rfl, settles, later_, trivial⟩

/-- A failing delivery lets nobody see anything but the end. -/
theorem deliverAll_failing {answer : Answer} {lifecycle : Lifecycle} {delivery : Delivery}
    (fails : FailsOn lifecycle delivery.octets answer) :
    (∀ entry ∈ seen (deliverAll answer lifecycle [delivery]).2, entry = .ended) ∧
      (deliverAll answer lifecycle [delivery]).1.state.lifecycle.phase = .terminal := by
  obtain ⟨alike, heard⟩ := entered_failing fails fails
  obtain ⟨after, noted⟩ := Callbacks.Program.run_alike lost_simulates alike delivery.meanwhile
  rw [deliverAll_single]
  exact ⟨(seenAlike_append heard noted).ends, after.states.ended⟩

theorem failsOn_outside {lifecycle : Lifecycle} (phase : lifecycle.phase = .release_50)
    (octets : List UInt8) (answer : Answer) : FailsOn lifecycle octets answer := by
  have running : lifecycle.phase ≠ .terminal := by rw [phase]; nofun
  obtain ⟨reason, after, fallen, result⟩ := fail_fallen (.refl running) (some (lifecycleError
    errorProtocol "TLS plaintext arrived outside a B0 slot"))
  refine ⟨reason, after, [.plaintext octets, .failed reason], rfl, fallen, ?_⟩
  unfold Lifecycle.handlePlaintext
  simp only [phase, result]
  simp [Outcome.after]

theorem not_chunkInvariant_release {lifecycle : Lifecycle} (phase : lifecycle.phase = .releaseB0)
    {record : List UInt8} (long : 1 < record.length) (unblocked : ¬ Blocked lifecycle) :
    ¬ ChunkInvariant lifecycle record := by
  intro invariant
  obtain ⟨first, rest⟩ := List.exists_cons_of_length_pos (by omega : 0 < record.length)
  obtain ⟨later, rfl⟩ := rest
  obtain ⟨one, two, begun, ending, inTurn⟩ := exists_inTurn plainAnswer lifecycle [first] later
  have more : later ≠ [] := by
    rintro rfl
    simp at long
  have body : Lifecycle.simpleBody.length ≤ 56 := by decide
  obtain ⟨packet, sent⟩ := submitOrFail_unblocked (by rw [phase]; nofun) (by rw [phase]; nofun)
    unblocked 0x50 body .release_50
  -- whatever comes first, the command is sent and nobody is called back
  have sends (delivery : Delivery) (settles : InTurn plainAnswer (atRest lifecycle) [delivery]) :
      (deliverAll plainAnswer lifecycle [delivery]).1 =
        atRest (lifecycle.sentWith 0x50 .release_50) := by
    have handled : lifecycle.handlePlaintext delivery.octets plainAnswer =
        { lifecycle := lifecycle.sentWith 0x50 .release_50
          noted := [.plaintext delivery.octets, .submitted 0x50 packet] } := by
      rw [handlePlaintext_release phase, Lifecycle.submitSimple, sent]
      rfl
    have idle := settles.1
    rw [step_delivery, handled, entered_quiet] at idle
    rw [deliverAll_single, handled, entered_quiet, (Callbacks.Program.settles_returned rfl).mp idle]
    rfl
  have asWhole := invariant plainAnswer [one, two] (by simp) (by simp [begun, ending, more])
    (by simp [begun, ending]) inTurn
  have fails : FailsOn (lifecycle.sentWith 0x50 .release_50) two.octets plainAnswer :=
    failsOn_outside rfl two.octets plainAnswer
  have ended := (deliverAll_failing fails).2
  have same := asWhole.phase
  rw [deliverAll_cons, sends one ⟨inTurn.1, trivial⟩, sends _ asWhole.inTurn] at same
  have cut : (run Desk.program.step (atRest (lifecycle.sentWith 0x50 .release_50))
      ([two].flatMap (Delivery.actions plainAnswer))).1.state.lifecycle.phase = .terminal := ended
  rw [cut] at same
  cases same

/-- What a whole image has brought is seen. -/
theorem completes_seen {lifecycle : Lifecycle} (gathers : Gathers lifecycle) {octets : List UInt8}
    {samples : List UInt16} (complete : Completes lifecycle octets samples)
    (follows : ¬ (lifecycle.phase = .fdtB0 ∧ Blocked lifecycle)) (answer : Answer) :
    ∃ entry ∈ seen (entered (lifecycle.handlePlaintext octets answer)).2, entry ≠ .ended := by
  rw [handlePlaintext_gathers gathers, acceptChunk_complete complete]
  rcases gathers with phase | phase | phase
  · rw [acceptImage_baseline (by exact phase)]
    have unblocked : ¬ Blocked { lifecycle with
        plaintextPending := []
        baselineSamples := samples
        baselineValid := true
        phase := .fdt36_3 } := fun blocked => follows ⟨phase, blocked⟩
    have short : ({ lifecycle with
        plaintextPending := []
        baselineSamples := samples
        baselineValid := true
        phase := .fdt36_3 } : Lifecycle).fdt36Body.length ≤ 56 := by
      simp [Lifecycle.fdt36Body]
    obtain ⟨packet, sent⟩ := submitOrFail_unblocked (by simp) (by simp) unblocked 0x36 short .fdt36_3
    refine ⟨.command 0x36 packet, ?_, nofun⟩
    rw [Lifecycle.submitFdt36, sent]
    show _ ∈ seen (entered { lifecycle := _, noted := [.plaintext octets, .submitted 0x36 packet] }).2
    rw [entered_quiet]
    simp [seen, Noted.seen]
  · rw [acceptImage_first (by exact phase)]
    exact ⟨.callback (.image (if lifecycle.loginGate then lifecycle.loginAttempts else 1) samples),
      .head _, nofun⟩
  · rw [acceptImage_second (by exact phase)]
    exact ⟨.callback (.image 2 samples), .head _, nofun⟩

theorem not_chunkInvariant_gathers {lifecycle : Lifecycle} (gathers : Gathers lifecycle)
    {first later : List UInt8} {samples : List UInt16} (begun : first ≠ []) (ending : later ≠ [])
    (complete : Completes lifecycle first samples)
    (follows : ¬ (lifecycle.phase = .fdtB0 ∧ Blocked lifecycle)) :
    ¬ ChunkInvariant lifecycle (first ++ later) := by
  intro invariant
  obtain ⟨one, two, rfl, rfl, inTurn⟩ := exists_inTurn plainAnswer lifecycle first later
  have asWhole := invariant plainAnswer [one, two] (by simp) (by simp [begun, ending]) (by simp)
    inTurn
  have stopped : ¬ Growing (lifecycle.plaintextPending ++ one.octets) := by
    intro growing
    have short := growing.short
    have sized := (decoded_declared complete).1
    omega
  have fails := failsOn_append gathers ending plainAnswer stopped
  have ends := (@deliverAll_failing plainAnswer lifecycle
    ⟨one.octets ++ two.octets, (whole [one, two]).meanwhile⟩ fails).1
  obtain ⟨entry, inside, stirs⟩ := completes_seen gathers complete follows plainAnswer
  refine stirs (ends entry ?_)
  have same : whole [one, two] = ⟨one.octets ++ two.octets, (whole [one, two]).meanwhile⟩ := by
    simp [whole]
  rw [← same, ← asWhole.seen, deliverAll_cons, deliverAll_single, seen_append, seen_append]
  exact List.mem_append_left _ (List.mem_append_left _ inside)

/-- **Plaintexts in pieces.**  A record may be cut anywhere if and only if it is `Divisible` in its
slot. -/
theorem plaintext_chunks_iff {lifecycle : Lifecycle} (slot : inSlot lifecycle)
    (record : List UInt8) : ChunkInvariant lifecycle record ↔ Divisible lifecycle record := by
  by_cases phase : lifecycle.phase = .releaseB0
  · rw [Divisible, if_pos phase]
    constructor
    · intro invariant
      by_contra indivisible
      rw [not_or, not_le] at indivisible
      exact not_chunkInvariant_release phase indivisible.1 indivisible.2 invariant
    · rintro divisible answer deliveries some full rfl inTurn
      exact asWhole_release phase some full divisible inTurn
  · rw [Divisible, if_neg phase]
    have gathers : Gathers lifecycle := by
      unfold inSlot at slot
      unfold Gathers
      tauto
    constructor
    · rintro invariant first later samples rfl begun ending complete
      by_contra follows
      exact not_chunkInvariant_gathers gathers begun ending complete follows invariant
    · rintro divisible answer deliveries some full rfl inTurn
      exact asWhole_gathers gathers some full divisible inTurn

/-- The events up to the slot behind the release of the first contact. -/
def untilRelease : List (Callbacks.Action Call) :=
  [.returned] ++ acked 0x34 ++ heard (plainEvent 0x34 0x0200 0) ++ acked 0x20

/-- The lifecycle of a run in that slot. -/
def atReleaseB0 : Lifecycle :=
  (run Desk.program.step (afterImage (atContact plainLifecycle)).1 untilRelease).1.state.lifecycle

theorem plaintext_chunks_iff_release :
    inSlot atReleaseB0 ∧
      (ChunkInvariant atReleaseB0 plainImage ↔ Divisible atReleaseB0 plainImage) := by
  have slot : inSlot atReleaseB0 := .inr (.inr (.inl (by decide +kernel)))
  exact ⟨slot, plaintext_chunks_iff slot plainImage⟩

/-- An image in two pieces ends a lifecycle that goes on to the next command when the image comes
at once. -/
theorem release_image_in_pieces :
    plainImage = [0x20] ++ plainImage.tail ∧ ¬ ChunkInvariant atReleaseB0 plainImage := by
  have pieces : plainImage = [0x20] ++ plainImage.tail := rfl
  refine ⟨pieces, fun invariant => ?_⟩
  have asWhole := invariant plainAnswer
    [⟨[0x20], []⟩, ⟨plainImage.tail, [.returned]⟩] (by simp) (by simp [plainImage])
    (by simp [plainImage]) ⟨by decide +kernel, by decide +kernel, trivial⟩
  have alive : (deliverAll plainAnswer atReleaseB0
      [⟨[0x20], []⟩, ⟨plainImage.tail, [.returned]⟩]).1.state.lifecycle.phase =
    (deliverAll plainAnswer atReleaseB0
      [whole [⟨[0x20], []⟩, ⟨plainImage.tail, [.returned]⟩]]).1.state.lifecycle.phase := asWhole.phase
  revert alive
  decide +kernel

end Goodix.PostTls
