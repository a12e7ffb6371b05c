import Goodix.PostTls.Moves

/-! # The end of a lifecycle

Once the phase is TERMINAL nothing is sent and nobody is called but the owner, who is told
once.  The lifecycle does not look at its phase after two of its callbacks: when `release_tail`
has returned it calls `finger_up`, and when the second `image` has returned with success it goes
to STOP.
-/

namespace Goodix.PostTls

open Machines Traces Usb

/-! ## What the end rules out -/

def Noted.fails : Noted → Bool
  | .failed _ => true
  | _ => false

/-- The owner is told of the end. -/
def Noted.tells : Noted → Bool
  | .called (.terminal _) => true
  | _ => false

/-- An OUT, or a callback that does not tell of the end. -/
def Noted.stirs : Noted → Bool
  | .submitted _ _ => true
  | .called (.terminal _) => false
  | .called _ => true
  | _ => false

/-- After a failure nothing stirs. -/
def Still (before : List Noted) (entry : Noted) : Prop :=
  before.any Noted.fails = true → entry.stirs = false

/-- How a lifecycle has to end: it is TERMINAL from its first failure on and silent from then on,
and its owner is told once, at the latest when no call waits for a callback. -/
structure EndsOnce (log : List Noted) (waiting : Callbacks.Waiting Desk Work) : Prop where
  absorbed : waiting.state.lifecycle.phase = .terminal ↔ log.any Noted.fails = true
  silent : Justified Still log
  once : log.countP Noted.tells ≤ 1
  told : waiting.state.lifecycle.phase = .terminal → waiting.stack = [] →
    waiting.state.lifecycle.listeners.terminal = true → log.countP Noted.tells = 1

/-! ## Work that is still to be done -/

def Callout.callback? : Callout → Option Callback
  | .drained => none
  | .back callback => some callback

/-- What a piece of work is going to call back. -/
def Work.backs : Work → List Callback
  | .callouts due => due.filterMap Callout.callback?
  | .resume => []

def Callback.isTerminal : Callback → Bool
  | .terminal _ => true
  | _ => false

def backs (works : List Work) : List Callback := works.flatMap Work.backs

@[simp] theorem backs_append (works more : List Work) :
    backs (works ++ more) = backs works ++ backs more := by
  simp [backs]

@[simp] theorem backs_nil : backs [] = [] := rfl

@[simp] theorem backs_resume : backs [.resume] = [] := rfl

@[simp] theorem backs_drained (callouts : List Callout) (works : List Work) :
    backs (.callouts (.drained :: callouts) :: works) = backs (.callouts callouts :: works) := by
  simp [backs, Work.backs, Callout.callback?, List.filterMap_cons]

@[simp] theorem backs_back (callback : Callback) (callouts : List Callout) (works : List Work) :
    backs (.callouts (.back callback :: callouts) :: works) =
      callback :: backs (.callouts callouts :: works) := by
  simp [backs, Work.backs, Callout.callback?]

@[simp] theorem backs_none (works : List Work) : backs (.callouts [] :: works) = backs works := by
  simp [backs, Work.backs]

/-- How often the owner is still going to be told. -/
def owing (desk : Desk) (works : List Work) : Nat :=
  if desk.lifecycle.listeners.terminal then (backs works).countP Callback.isTerminal else 0

/-- The invariant of the log, the desk and the work that is still to be done. -/
structure Hushed (log : List Noted) (desk : Desk) (works : List Work) : Prop where
  absorbed : desk.lifecycle.phase = .terminal ↔ log.any Noted.fails = true
  silent : Justified Still log
  told : log.countP Noted.tells + owing desk works =
    if desk.lifecycle.phase = .terminal ∧ desk.lifecycle.listeners.terminal = true then 1 else 0

/-! ## What a piece of work may do -/

/-- What a call, or the end of a delivery, does of its own: it leaves an ended lifecycle alone, and
one that runs it either leaves running or ends, with the owner to be told. -/
inductive Conduct (before : Lifecycle) (noted : List Noted) (after : Lifecycle)
    (callouts : List Callout) : Prop where
  | ended (done : before.phase = .terminal) (stays : after.phase = .terminal)
      (quiet : ∀ entry ∈ noted, entry.stirs = false ∧ entry.fails = false ∧ entry.tells = false)
      (uncalled : backs [.callouts callouts] = [])
  | running (alive : before.phase ≠ .terminal) (stays : after.phase ≠ .terminal)
      (untold : ∀ entry ∈ noted, entry.fails = false ∧ entry.tells = false)
      (uncalled : ∀ callback ∈ backs [.callouts callouts], callback.isTerminal = false)
  | fell {heard : List Noted} {reason : GError} (alive : before.phase ≠ .terminal)
      (stays : after.phase = .terminal) (same : noted = heard ++ [.failed reason])
      (untold : ∀ entry ∈ heard, entry.fails = false ∧ entry.tells = false)
      (farewell : backs [.callouts callouts] = [.terminal reason])

variable {log noted : List Noted} {before after : Lifecycle} {callouts : List Callout}

theorem any_fails_quiet (quiet : ∀ entry ∈ noted, entry.fails = false) :
    (log ++ noted).any Noted.fails = log.any Noted.fails := by
  have none : noted.any Noted.fails = false := by
    rw [List.any_eq_false]
    intro entry inside
    simp [quiet entry inside]
  rw [List.any_append, none, Bool.or_false]

theorem countP_tells_quiet (quiet : ∀ entry ∈ noted, entry.tells = false) :
    (log ++ noted).countP Noted.tells = log.countP Noted.tells := by
  have none : noted.countP Noted.tells = 0 := by
    rw [List.countP_eq_zero]
    intro entry inside
    simp [quiet entry inside]
  rw [List.countP_append, none, Nat.add_zero]

/-- Entries before the first failure are free, and after it they do not stir. -/
theorem still_append (silent : Justified Still log)
    (free : log.any Noted.fails = true → ∀ entry ∈ noted, entry.stirs = false)
    (unfailed : ∀ entry ∈ noted, entry.fails = false) : Justified Still (log ++ noted) := by
  refine silent.append fun earlier entry later split failed => ?_
  rw [any_fails_quiet fun entry inside => unfailed entry (by simp [split, inside])] at failed
  exact free failed entry (by simp [split])

theorem backs_farewell (before : Lifecycle) (reason : GError) (later : List Callout)
    (plain : backs [.callouts later] = []) :
    backs [.callouts (farewell before reason ++ later)] = [.terminal reason] := by
  unfold farewell
  split
  · simp [plain]
  · simp [plain]

/-- A failure with nothing else to call. -/
theorem Fallen.ends {reason : GError} (heard : List Noted) (fallen : Fallen before reason after)
    (untold : ∀ entry ∈ heard, entry.fails = false ∧ entry.tells = false) :
    Conduct before (heard ++ [.failed reason]) after (farewell before reason) := by
  have called := backs_farewell before reason [] (by simp)
  rw [List.append_nil] at called
  exact .fell fallen.running fallen.phase rfl untold called

theorem Prompt.untold {heard : List Noted} {accepted : Lifecycle} {control : UInt8}
    {body : List UInt8} {next : Phase} (prompt : Prompt before heard accepted control body next) :
    ∀ entry ∈ heard, entry.fails = false ∧ entry.tells = false := by
  cases prompt <;> simp [Noted.fails, Noted.tells]

theorem afterAck_running {phase next : Phase} (advances : afterAck phase = some next) :
    phase ≠ .terminal ∧ next ≠ .terminal := by
  cases phase <;> first | exact ⟨nofun, by cases advances; nofun⟩ | cases advances

/-- A move in a phase that is not TERMINAL to another one. -/
theorem conduct_running {first second : Phase} (here : before.phase = first)
    (there : after.phase = second) (alive : first ≠ .terminal ∧ second ≠ .terminal)
    (untold : ∀ entry ∈ noted, entry.fails = false ∧ entry.tells = false)
    (uncalled : ∀ callback ∈ backs [.callouts callouts], callback.isTerminal = false) :
    Conduct before noted after callouts :=
  .running (here ▸ alive.1) (there ▸ alive.2) untold uncalled

theorem Delivered.conduct {rest : Rest} (delivered : Delivered before noted after callouts rest) :
    Conduct before noted after callouts := by
  cases delivered with
  | ignored idle =>
    cases idle with
    | inl ended => exact .ended ended ended (by simp) (by simp)
    | inr stopped => exact conduct_running stopped stopped ⟨nofun, nofun⟩ (by simp) (by simp)
  | rejectedFrame frame fallen => exact fallen.ends [.a0 frame] (by simp [Noted.fails, Noted.tells])
  | rejectedPlaintext octets fallen =>
    exact fallen.ends [.plaintext octets] (by simp [Noted.fails, Noted.tells])
  | unsent prompt fallen => exact fallen.ends _ prompt.untold
  | sent prompt sends =>
    refine .running prompt.running.1 prompt.running.2 ?_ (by simp)
    intro entry inside
    cases List.mem_append.mp inside with
    | inl heard => exact prompt.untold entry heard
    | inr sent => simp [List.mem_singleton.mp sent, Noted.fails, Noted.tells]
  | acked advances fresh ack =>
    obtain ⟨here, there⟩ := afterAck_running advances
    exact .running here there (by simp [Noted.fails, Noted.tells]) (by simp)
  | rearmed phase fresh ack pending free idle =>
    exact conduct_running phase rfl ⟨nofun, nofun⟩ (by simp [Noted.fails, Noted.tells]) (by simp)
  | handoff accepted error phase fresh ack unarmed configured free idle owned =>
    exact conduct_running phase rfl ⟨nofun, nofun⟩ (by simp [Noted.fails, Noted.tells])
      (by simp [Callback.isTerminal])
  | armed phase fresh ack unarmed kept =>
    refine conduct_running phase rfl ⟨nofun, nofun⟩ (by simp [Noted.fails, Noted.tells]) ?_
    split
    · simp [Callback.isTerminal]
    · simp
  | firstFinger phase allowed down derived =>
    exact conduct_running phase phase ⟨nofun, nofun⟩ (by simp [Noted.fails, Noted.tells])
      (by simp [Callback.isTerminal])
  | secondFinger phase allowed down =>
    exact conduct_running phase phase ⟨nofun, nofun⟩ (by simp [Noted.fails, Noted.tells])
      (by simp [Callback.isTerminal])
  | chunk slot short =>
    have alive : before.phase ≠ .terminal := by
      rcases slot with phase | phase | phase <;> rw [phase] <;> decide
    exact .running alive alive (by simp [Noted.fails, Noted.tells]) (by simp)
  | firstImage accepted error phase complete =>
    exact conduct_running phase phase ⟨nofun, nofun⟩ (by simp [Noted.fails, Noted.tells])
      (by simp [Callback.isTerminal])
  | secondImage accepted error phase complete =>
    exact conduct_running phase phase ⟨nofun, nofun⟩ (by simp [Noted.fails, Noted.tells])
      (by simp [Callback.isTerminal])
  | contactOver phase nav =>
    refine .running (by rw [phase]; decide) ?_ (by simp [Noted.fails, Noted.tells])
      (by simp [Callback.isTerminal])
    show (if before.material.captureProfile = .singleAcquisition then Phase.stop
      else .rearmGate) ≠ .terminal
    split <;> decide

/-- Nothing that is noted, nothing that is called, and the phase as it was. -/
theorem conduct_idle (same : after.phase = before.phase)
    (quiet : ∀ entry ∈ noted, entry.stirs = false ∧ entry.fails = false ∧ entry.tells = false)
    (uncalled : backs [.callouts callouts] = []) : Conduct before noted after callouts := by
  by_cases ended : before.phase = .terminal
  · exact .ended ended (same.trans ended) quiet uncalled
  · refine .running ended (same ▸ ended) (fun entry inside => (quiet entry inside).2) ?_
    simp [uncalled]

theorem Unsent.running {control : UInt8} {next : Phase} (unsent : Unsent before control next after)
    (alive : before.phase ≠ .terminal ∧ next ≠ .terminal) : after.phase ≠ .terminal := by
  cases unsent with
  | inl kept => exact kept.2 ▸ alive.1
  | inr refused => exact refused.2.2 ▸ alive.2

theorem Performed.conduct (performed : Performed before noted after callouts) :
    Conduct before noted after callouts := by
  cases performed with
  | nothing => exact conduct_idle rfl (by simp) (by simp)
  | refused error =>
    exact conduct_idle rfl (by simp [Noted.stirs, Noted.fails, Noted.tells]) (by simp)
  | configured phase handoff gate kept => exact conduct_idle rfl (by simp) (by simp)
  | started phase sends =>
    exact conduct_running phase rfl ⟨nofun, nofun⟩ (by simp [Noted.fails, Noted.tells]) (by simp)
  | unstarted error phase unsent =>
    have alive : before.phase ≠ .terminal := by rw [phase]; decide
    exact .running alive (unsent.running ⟨alive, by decide⟩) (by simp [Noted.fails, Noted.tells])
      (by simp)
  | failed fallen => exact fallen.ends [] (by simp)
  | awaits awaiting running unstopped =>
    exact .running running running (by simp [Noted.fails, Noted.tells]) (by simp)
  | rearmed phase fresh first sends =>
    exact conduct_running phase rfl ⟨nofun, nofun⟩ (by simp [Noted.fails, Noted.tells]) (by simp)
  | unrearmed phase fallen =>
    exact fallen.ends [.awaiting true] (by simp [Noted.fails, Noted.tells])
  | authorized gate first phase =>
    exact conduct_running phase phase ⟨nofun, nofun⟩ (by simp [Noted.fails, Noted.tells]) (by simp)
  | nextLogin timestamp gate authorized below phase fresh profile drained prepared sends =>
    exact conduct_running phase rfl ⟨nofun, nofun⟩ (by simp [Noted.fails, Noted.tells]) (by simp)
  | noNextLogin timestamp error gate authorized below phase fresh profile drained prepared unsent =>
    have alive : before.phase ≠ .terminal := by rw [phase]; decide
    refine .running alive (unsent.running ⟨?_, by decide⟩) (by simp [Noted.fails, Noted.tells])
      (by simp)
    rw [prepared]
    nofun
  | outDone generation took mine pending running callback =>
    exact .running running running (by simp [Noted.fails, Noted.tells]) (by simp)
  | @outFailed backend reason _ generation took fallen =>
    exact @Conduct.fell _ _ _ _ [.outCompleted (some reason)] _ fallen.running fallen.phase rfl
      (by simp [Noted.fails, Noted.tells]) (backs_farewell before reason [.drained] (by simp))
  | outIgnored generation error took deaf =>
    exact conduct_idle rfl (by simp [Noted.stirs, Noted.fails, Noted.tells]) (by simp)
  | fenced unfenced => exact conduct_idle rfl (by simp) (by simp)
  | received callouts same due =>
    refine conduct_idle rfl (by simp) ?_
    cases due with
    | inl none => simp [none]
    | inr drained => simp [drained]

/-- The end of a delivery, unless the second image is taken after the end. -/
theorem Finished.conduct {rest : Rest} (finished : Finished before rest noted after callouts)
    (orderly : before.phase = .terminal → ∀ error, rest ≠ .secondImage true error) :
    Conduct before noted after callouts := by
  cases finished with
  | nothing rest idle => exact conduct_idle rfl (by simp) (by simp)
  | failed fallen => exact fallen.ends [] (by simp)
  | @imageCommand second packet sends =>
    refine .running sends.running ?_ (by simp [Noted.fails, Noted.tells]) (by simp)
    cases second <;> nofun
  | firstImage sends =>
    exact .running sends.running nofun (by simp [Noted.fails, Noted.tells]) (by simp)
  | @secondImage error =>
    have alive : before.phase ≠ .terminal := fun ended => orderly ended error rfl
    exact .running alive nofun (by simp) (by simp)
  | rearm phase awaits fresh first sends =>
    exact conduct_running phase rfl ⟨nofun, nofun⟩ (by simp [Noted.fails, Noted.tells]) (by simp)

/-! ## The callbacks stay the same -/

theorem Prompt.listeners {heard : List Noted} {accepted : Lifecycle} {control : UInt8}
    {body : List UInt8} {next : Phase} (prompt : Prompt before heard accepted control body next) :
    accepted.listeners = before.listeners := by
  cases prompt <;> rfl

theorem Delivered.listeners {rest : Rest}
    (delivered : Delivered before noted after callouts rest) :
    after.listeners = before.listeners := by
  cases delivered with
  | rejectedFrame frame fallen => exact fallen.listeners
  | rejectedPlaintext octets fallen => exact fallen.listeners
  | unsent prompt fallen => exact fallen.listeners
  | sent prompt sends => exact prompt.listeners
  | _ => rfl

theorem Unsent.listeners {control : UInt8} {next : Phase}
    (unsent : Unsent before control next after) : after.listeners = before.listeners := by
  cases unsent with
  | inl kept => rw [kept.2]
  | inr refused => rw [refused.2.2]; rfl

theorem Performed.listeners (performed : Performed before noted after callouts) :
    after.listeners = before.listeners := by
  cases performed with
  | unstarted error phase unsent => exact unsent.listeners
  | failed fallen => exact fallen.listeners
  | unrearmed phase fallen => exact fallen.listeners
  | nextLogin timestamp gate authorized below phase fresh profile drained prepared sends =>
    rw [prepared]
    rfl
  | noNextLogin timestamp error gate authorized below phase fresh profile drained prepared unsent =>
    rw [unsent.listeners, prepared]
  | outFailed generation took fallen => exact fallen.listeners
  | _ => rfl

theorem Finished.listeners {rest : Rest} (finished : Finished before rest noted after callouts) :
    after.listeners = before.listeners := by
  cases finished with
  | failed fallen => exact fallen.listeners
  | _ => rfl

/-! ## The invariant over one piece of work -/

variable {desk : Desk} {works : List Work}

theorem owing_append (desk : Desk) (works more : List Work) :
    owing desk (works ++ more) = owing desk works + owing desk more := by
  unfold owing
  split
  · rw [backs_append, List.countP_append]
  · rfl

theorem owing_same {first second : Desk}
    (same : second.lifecycle.listeners = first.lifecycle.listeners) (works : List Work) :
    owing second works = owing first works := by
  unfold owing
  rw [same]

theorem owing_plain (desk : Desk) {works : List Work}
    (plain : ∀ callback ∈ backs works, callback.isTerminal = false) : owing desk works = 0 := by
  unfold owing
  split
  · rw [List.countP_eq_zero]
    intro callback inside
    simp [plain callback inside]
  · rfl

/-- What a call or the end of a delivery does of its own keeps the invariant. -/
theorem Hushed.conduct (hushed : Hushed log desk works) (later : Option Rest)
    (conduct : Conduct desk.lifecycle noted after callouts)
    (same : after.listeners = desk.lifecycle.listeners) :
    Hushed (log ++ noted) ⟨after, later⟩ (.callouts callouts :: works) := by
  have rest (owed : Nat) (counts : owing ⟨after, later⟩ [.callouts callouts] = owed) :
      owing ⟨after, later⟩ (.callouts callouts :: works) = owed + owing desk works := by
    rw [← List.singleton_append, owing_append, counts, owing_same same works]
  have told := hushed.told
  cases conduct with
  | ended done stays quiet uncalled =>
    have unfailed : ∀ entry ∈ noted, entry.fails = false := fun entry inside =>
      (quiet entry inside).2.1
    have owed := rest 0 (owing_plain _ (by simp [uncalled]))
    constructor
    · rw [any_fails_quiet unfailed]
      exact ⟨fun _ => hushed.absorbed.mp done, fun _ => stays⟩
    · exact still_append hushed.silent (fun _ entry inside => (quiet entry inside).1) unfailed
    · rw [countP_tells_quiet fun entry inside => (quiet entry inside).2.2, owed]
      simp only [done, stays, same] at told ⊢
      omega
  | running alive stays untold uncalled =>
    have unfailed : ∀ entry ∈ noted, entry.fails = false := fun entry inside =>
      (untold entry inside).1
    have owed := rest 0 (owing_plain _ uncalled)
    have fresh : ¬ log.any Noted.fails = true := fun failed => alive (hushed.absorbed.mpr failed)
    constructor
    · rw [any_fails_quiet unfailed]
      exact ⟨fun ended => absurd ended stays, fun failed => absurd failed fresh⟩
    · exact still_append hushed.silent (fun failed => absurd failed fresh) unfailed
    · rw [countP_tells_quiet fun entry inside => (untold entry inside).2, owed]
      simp only [alive, stays, false_and, if_false] at told ⊢
      omega
  | @fell heard reason alive stays noted untold farewell =>
    have unfailed : ∀ entry ∈ heard, entry.fails = false := fun entry inside =>
      (untold entry inside).1
    have fresh : ¬ log.any Noted.fails = true := fun failed => alive (hushed.absorbed.mpr failed)
    have owed := rest (if after.listeners.terminal then 1 else 0) (by
      simp [owing, farewell, Callback.isTerminal])
    subst noted
    rw [← List.append_assoc]
    constructor
    · exact ⟨fun _ => by simp [Noted.fails], fun _ => stays⟩
    · rw [justified_concat]
      refine ⟨still_append hushed.silent (fun failed => absurd failed fresh) unfailed, ?_⟩
      intro _
      rfl
    · have counts : (log ++ heard ++ [Noted.failed reason]).countP Noted.tells =
          log.countP Noted.tells := by
        rw [List.countP_append, countP_tells_quiet fun entry inside => (untold entry inside).2]
        rfl
      rw [counts, owed]
      simp only [alive, stays, false_and, if_false, true_and] at told ⊢
      split <;> omega

/-- What a list of callouts leaves when it stops at a callback, and that it changes nothing else. -/
structure CalledOut (desk : Desk) (callouts : List Callout)
    (called : Desk × List Noted × Option (List Work)) : Prop where
  phase : called.1.lifecycle.phase = desk.lifecycle.phase
  listeners : called.1.lifecycle.listeners = desk.lifecycle.listeners
  delivery : called.1.delivery = desk.delivery
  more : ∀ more, called.2.2 = some more → ∃ later, more = [.callouts later] ∧
    ∀ callback ∈ backs [.callouts later], callback ∈ backs [.callouts callouts.tail]

theorem CalledOut.skip {callout : Callout} {called : Desk × List Noted × Option (List Work)}
    (out : CalledOut desk callouts called) : CalledOut desk (callout :: callouts) called := by
  refine ⟨out.phase, out.listeners, out.delivery, fun more stopped => ?_⟩
  obtain ⟨later, same, inside⟩ := out.more more stopped
  refine ⟨later, same, fun callback owed => ?_⟩
  have before := inside callback owed
  cases callouts with
  | nil => simp at before
  | cons next callouts =>
    cases next with
    | drained => simpa using before
    | back told => exact (backs_back told callouts []).symm ▸ List.mem_cons_of_mem _ before

theorem callOut_calledOut (desk : Desk) (callouts : List Callout) :
    CalledOut desk callouts (desk.callOut callouts) := by
  induction callouts with
  | nil => exact ⟨rfl, rfl, rfl, fun more stopped => by cases stopped⟩
  | cons callout callouts ih =>
    cases callout with
    | drained =>
      unfold Desk.callOut
      split
      · exact ⟨rfl, rfl, rfl, fun more stopped => ⟨callouts, by cases stopped; rfl, fun _ => id⟩⟩
      · exact ih.skip
    | back callback =>
      unfold Desk.callOut
      split
      · exact ⟨rfl, rfl, rfl, fun more stopped => ⟨callouts, by cases stopped; rfl, fun _ => id⟩⟩
      · exact ih.skip

/-- Callouts keep the invariant if after the end only the owner is among those that listen. -/
theorem Hushed.callOut {callouts : List Callout} :
    Hushed log desk (.callouts callouts :: works) →
    (desk.lifecycle.phase = .terminal → ∀ callback ∈ backs [.callouts callouts],
      desk.lifecycle.listens callback = true → callback.isTerminal = true) →
    Hushed (log ++ (desk.callOut callouts).2.1) (desk.callOut callouts).1
      ((desk.callOut callouts).2.2.getD [] ++ works) := by
  induction callouts with
  | nil =>
    intro hushed _
    have owed : owing desk (.callouts [] :: works) = owing desk works := by simp [owing]
    simp only [Desk.callOut, List.append_nil, Option.getD_none, List.nil_append]
    exact ⟨hushed.absorbed, hushed.silent, owed ▸ hushed.told⟩
  | cons callout callouts ih =>
    intro hushed quiet
    cases callout with
    | drained =>
      have told := hushed.told
      simp only [owing, backs_drained] at told quiet
      unfold Desk.callOut
      split
      · refine ⟨?_, ?_, ?_⟩
        · simpa [Noted.fails] using hushed.absorbed
        · exact justified_concat.mpr ⟨hushed.silent, fun _ => rfl⟩
        · simpa [owing, Noted.tells, List.countP_append] using told
      · exact ih ⟨hushed.absorbed, hushed.silent, told⟩ quiet
    | back callback =>
      have told := hushed.told
      simp only [owing, backs_back, List.countP_cons] at told
      unfold Desk.callOut
      split
      · rename_i listens
        have fresh : (log ++ [Noted.called callback]).any Noted.fails = log.any Noted.fails :=
          any_fails_quiet (by simp [Noted.fails])
        refine ⟨?_, ?_, ?_⟩
        · simpa only [fresh] using hushed.absorbed
        · refine justified_concat.mpr ⟨hushed.silent, fun failed => ?_⟩
          have last := quiet (hushed.absorbed.mpr failed) callback (by simp) listens
          cases callback <;> first | rfl | cases last
        · show (log ++ [Noted.called callback]).countP Noted.tells + owing desk
            (.callouts callouts :: works) = _
          rw [List.countP_append]
          unfold owing
          cases callback with
          | terminal error =>
            have owner : desk.lifecycle.listeners.terminal = true := listens
            simp only [owner, if_true, Callback.isTerminal] at told ⊢
            simp only [List.countP_singleton, Noted.tells, if_true]
            omega
          | _ => simpa [Noted.tells, Callback.isTerminal] using told
      · rename_i deaf
        refine ih ⟨hushed.absorbed, hushed.silent, ?_⟩ fun ended other inside =>
          quiet ended other (by simp [inside])
        unfold owing
        cases callback with
        | terminal error =>
          have owner : desk.lifecycle.listeners.terminal = false := by
            simpa [Lifecycle.listens] using deaf
          simpa [owner] using told
        | _ => simpa [Callback.isTerminal] using told

/-! ## Calls that wait -/

/-- A call that waits for a callback: its other callouts, and whether it is a delivery. -/
def frame (callouts : List Callout) (delivers : Bool) : List Work :=
  .callouts callouts :: if delivers then [.resume] else []

/-- A call that waits has nobody to call but the owner and, behind `release_tail`, `finger_up`. -/
def Waits (works : List Work) : Prop :=
  ∃ callouts delivers, works = frame callouts delivers ∧
    ∀ callback ∈ backs [.callouts callouts],
      callback.isTerminal = true ∨ callback = .fingerUp

/-- What a call may still do when the lifecycle has ended. -/
structure Harmless (desk : Desk) (callouts : List Callout) (delivers : Bool) : Prop where
  quiet : desk.lifecycle.phase = .terminal → ∀ callback ∈ backs [.callouts callouts],
    desk.lifecycle.listens callback = true → callback.isTerminal = true
  tail : ∀ callback ∈ backs [.callouts callouts.tail],
    callback.isTerminal = true ∨ callback = .fingerUp
  returns : desk.lifecycle.phase = .terminal → delivers = true →
    ∀ error, desk.delivery ≠ some (.secondImage true error)

theorem Finished.farewells {rest : Rest} (finished : Finished before rest noted after callouts) :
    ∀ callback ∈ backs [.callouts callouts], callback.isTerminal = true := by
  have parting (reason : GError) :
      ∀ callback ∈ backs [.callouts (farewell before reason)], callback.isTerminal = true := by
    have called := backs_farewell before reason [] (by simp)
    rw [List.append_nil] at called
    simp [called, Callback.isTerminal]
  cases finished with
  | failed fallen => exact parting _
  | _ => simp

theorem Hushed.resume (hushed : Hushed log desk works)
    (returns : desk.lifecycle.phase = .terminal →
      ∀ error, desk.delivery ≠ some (.secondImage true error)) :
    Hushed (log ++ (desk.turn .resume).2.1) (desk.turn .resume).1
        ((desk.turn .resume).2.2.getD [] ++ works) ∧
      ∀ more, (desk.turn .resume).2.2 = some more → Waits more := by
  simp only [Desk.turn]
  split
  · simp only [List.append_nil, Option.getD_none, List.nil_append]
    exact ⟨hushed, fun more stopped => by cases stopped⟩
  rename_i rest waits
  have finished := finish_finishes desk.lifecycle rest
  have farewells := finished.farewells
  have conduct := finished.conduct fun ended error same =>
    returns ended error (by rw [waits, same])
  have kept := hushed.conduct none conduct finished.listeners
  have called := kept.callOut fun _ callback inside _ => farewells callback inside
  refine ⟨by rwa [List.append_assoc] at called, fun more stopped => ?_⟩
  have out := callOut_calledOut ⟨(desk.lifecycle.finish rest).lifecycle, none⟩
    (desk.lifecycle.finish rest).callouts
  obtain ⟨later, same, inside⟩ := out.more more stopped
  refine ⟨later, false, same, fun callback owed => .inl (farewells callback ?_)⟩
  have before := inside callback owed
  cases callouts : (desk.lifecycle.finish rest).callouts with
  | nil => simp [callouts] at before
  | cons next callouts =>
    rw [callouts] at before
    cases next with
    | drained => simpa using before
    | back told => exact (backs_back told _ []).symm ▸ List.mem_cons_of_mem _ before

/-- A call that goes on keeps the invariant, and waits properly if it is called back. -/
theorem Hushed.proceed {delivers : Bool} (hushed : Hushed log desk (frame callouts delivers ++ works))
    (harmless : Harmless desk callouts delivers) :
    let proceeded := Desk.program.proceed desk (frame callouts delivers)
    Hushed (log ++ proceeded.2.1) proceeded.1 (proceeded.2.2.getD [] ++ works) ∧
      ∀ more, proceeded.2.2 = some more → Waits more := by
  have kept := Hushed.callOut hushed harmless.quiet
  have out := callOut_calledOut desk callouts
  unfold frame Callbacks.Program.proceed
  simp only [Desk.program, Desk.turn]
  generalize desk.callOut callouts = called at kept out
  obtain ⟨after, emitted, more⟩ := called
  cases more with
  | some more =>
    obtain ⟨later, same, inside⟩ := out.more more rfl
    refine ⟨by simpa using kept, fun left stopped => ?_⟩
    cases stopped
    exact ⟨later, delivers, by rw [same]; rfl,
      fun callback owed => harmless.tail callback (inside callback owed)⟩
  | none =>
    cases delivers with
    | false =>
      refine ⟨by simpa [Callbacks.Program.proceed] using kept, fun left stopped => by cases stopped⟩
    | true =>
      have resting : Hushed (log ++ emitted) after works :=
        ⟨kept.absorbed, kept.silent, by simpa [owing, backs, Work.backs] using kept.told⟩
      have resumed := resting.resume fun ended error => by
        rw [out.delivery]
        exact harmless.returns (out.phase.symm.trans ended) rfl error
      have single := Desk.program.proceed_single after .resume
      simp only [Desk.program] at single
      simp only [if_true, single]
      rw [← List.append_assoc]
      exact resumed

/-! ## Runs -/

/-- The condition on a step: no callback returns to a lifecycle that has ended while `finger_up` is
still to be called behind it, or with a second image taken. -/
def Orderly (waiting : Callbacks.Waiting Desk Work) : Callbacks.Action Call → Prop
  | .call _ => True
  | .returned => waiting.state.lifecycle.phase = .terminal →
    ∀ works ∈ waiting.stack.head?,
      (.fingerUp ∈ backs works → waiting.state.lifecycle.listeners.fingerUp = false) ∧
        (.resume ∈ works → ∀ error, waiting.state.delivery ≠ some (.secondImage true error))

/-- The invariant of a run. -/
structure Ending (log : List Noted) (waiting : Callbacks.Waiting Desk Work) : Prop where
  hushed : Hushed log waiting.state waiting.stack.flatten
  waits : ∀ works ∈ waiting.stack, Waits works

theorem Ending.enter {stack : List (List Work)} {callouts : List Callout} {delivers : Bool}
    (hushed : Hushed log desk (frame callouts delivers ++ stack.flatten))
    (harmless : Harmless desk callouts delivers) (waits : ∀ works ∈ stack, Waits works) :
    Ending (log ++ (Desk.program.enter desk stack (frame callouts delivers)).2)
      (Desk.program.enter desk stack (frame callouts delivers)).1 := by
  have proceeded := hushed.proceed harmless
  unfold Callbacks.Program.enter
  generalize Desk.program.proceed desk (frame callouts delivers) = result at proceeded
  obtain ⟨after, emitted, more⟩ := result
  obtain ⟨kept, left⟩ := proceeded
  cases more with
  | none => exact ⟨kept, waits⟩
  | some more =>
    refine ⟨by simpa using kept, fun works inside => ?_⟩
    cases List.mem_cons.mp inside with
    | inl top => exact top ▸ left more rfl
    | inr below => exact waits works below

/-- Whoever is called after the end is the owner. -/
theorem Conduct.quiet (conduct : Conduct before noted after callouts)
    (ended : after.phase = .terminal) :
    ∀ callback ∈ backs [.callouts callouts], callback.isTerminal = true := by
  cases conduct with
  | ended done stays quiet uncalled => simp [uncalled]
  | running alive stays untold uncalled => exact absurd ended stays
  | fell alive stays same untold farewell => simp [farewell, Callback.isTerminal]

theorem farewell_tail (before : Lifecycle) (reason : GError) (later : List Callout)
    (plain : backs [.callouts later] = []) :
    ∀ callback ∈ backs [.callouts (farewell before reason ++ later).tail],
      callback.isTerminal = true ∨ callback = .fingerUp := by
  unfold farewell
  split
  · simp [plain]
  · simp [plain, Callback.isTerminal]

theorem Delivered.harmless {rest : Rest} (delivered : Delivered before noted after callouts rest) :
    Harmless ⟨after, some rest⟩ callouts true := by
  constructor
  · exact fun ended callback inside _ => delivered.conduct.quiet ended callback inside
  · have parting (reason : GError) := farewell_tail before reason [] (by simp)
    simp only [List.append_nil] at parting
    cases delivered with
    | rejectedFrame frame fallen => exact parting _
    | rejectedPlaintext octets fallen => exact parting _
    | unsent prompt fallen => exact parting _
    | armed phase fresh ack unarmed kept => split <;> simp
    | contactOver phase nav => simp
    | _ => simp
  · intro ended _ error taken
    cases delivered with
    | secondImage accepted error phase complete =>
      have here : before.phase = .terminal := ended
      rw [phase] at here
      cases here
    | _ => cases taken

theorem Performed.harmless {delivery : Option Rest}
    (performed : Performed before noted after callouts) :
    Harmless ⟨after, delivery⟩ callouts false := by
  constructor
  · exact fun ended callback inside _ => performed.conduct.quiet ended callback inside
  · have parting (reason : GError) := farewell_tail before reason [] (by simp)
    simp only [List.append_nil] at parting
    cases performed with
    | failed fallen => exact parting _
    | unrearmed phase fallen => exact parting _
    | outFailed generation took fallen => exact farewell_tail before _ [.drained] (by simp)
    | received callouts same due =>
      cases due with
      | inl none => simp [none]
      | inr drained => simp [drained]
    | _ => simp
  · intro _ delivers
    cases delivers

/-- What a call does before its callbacks keeps the invariant. -/
theorem Ending.called {stack : List (List Work)} {after : Desk}
    (hushed : Hushed log desk stack.flatten) (waits : ∀ works ∈ stack, Waits works)
    (called : Desk.Called desk after noted works) :
    Ending (log ++ (noted ++ (Desk.program.enter after stack works).2))
      (Desk.program.enter after stack works).1 := by
  rw [← List.append_assoc]
  have still : Ending log ⟨desk, stack⟩ := ⟨hushed, waits⟩
  cases called with
  | nothing => simpa [Callbacks.Program.enter, Callbacks.Program.proceed] using still
  | @delivered noted after callouts rest idle delivered =>
    have kept := hushed.conduct (some rest) delivered.conduct delivered.listeners
    refine @Ending.enter _ _ _ _ true ?_ delivered.harmless waits
    exact ⟨kept.absorbed, kept.silent, by simpa [owing, frame, backs, Work.backs] using kept.told⟩
  | @performed noted after callouts performed =>
    have kept := hushed.conduct desk.delivery performed.conduct performed.listeners
    exact @Ending.enter _ _ _ _ false kept performed.harmless waits
  | received same =>
    have kept := hushed.conduct desk.delivery
      (Performed.received [] same (.inl rfl)).conduct rfl
    have plain : Hushed (log ++ []) _ stack.flatten :=
      ⟨kept.absorbed, kept.silent, by simpa [owing] using kept.told⟩
    simp only [Callbacks.Program.enter, Callbacks.Program.proceed, List.append_nil] at plain ⊢
    exact ⟨plain, waits⟩
  | copied =>
    have conduct : Conduct desk.lifecycle [.copied desk.lifecycle.copyLearnedFdt]
        desk.lifecycle [] :=
      conduct_idle rfl (by simp [Noted.stirs, Noted.fails, Noted.tells]) (by simp)
    have kept := hushed.conduct desk.delivery conduct rfl
    have plain : Hushed (log ++ [.copied desk.lifecycle.copyLearnedFdt]) desk stack.flatten :=
      ⟨kept.absorbed, kept.silent, by simpa [owing] using kept.told⟩
    simp only [Callbacks.Program.enter, Callbacks.Program.proceed, List.append_nil] at plain ⊢
    exact ⟨plain, waits⟩

theorem Ending.step {waiting : Callbacks.Waiting Desk Work} (ending : Ending log waiting)
    {action : Callbacks.Action Call} (orderly : Orderly waiting action) :
    Ending (log ++ (Desk.program.step waiting action).2) (Desk.program.step waiting action).1 := by
  obtain ⟨desk, stack⟩ := waiting
  cases action with
  | call call => exact Ending.called ending.hushed ending.waits (Desk.call_called desk call)
  | returned =>
    cases stack with
    | nil => simpa [Callbacks.Program.step] using ending
    | cons works stack =>
      obtain ⟨callouts, delivers, rfl, owed⟩ := ending.waits works List.mem_cons_self
      simp only [Callbacks.Program.step]
      refine Ending.enter (by simpa using ending.hushed) ⟨?_, ?_, ?_⟩
        fun below inside => ending.waits below (List.mem_cons_of_mem _ inside)
      · intro ended callback inside listens
        obtain ⟨unheard, -⟩ := orderly ended _ rfl
        cases owed callback inside with
        | inl last => exact last
        | inr up =>
          subst up
          have deaf := unheard (by simpa [frame, backs, Work.backs] using inside)
          rw [show desk.lifecycle.listens .fingerUp = desk.lifecycle.listeners.fingerUp from rfl,
            deaf] at listens
          cases listens
      · intro callback inside
        cases callouts with
        | nil => simp at inside
        | cons next callouts =>
          cases next with
          | drained => exact owed callback (by simpa using inside)
          | back told =>
            exact owed callback ((backs_back told _ []).symm ▸ List.mem_cons_of_mem _ inside)
      · intro ended delivering error
        obtain ⟨-, returns⟩ := orderly ended _ rfl
        exact returns (by simp [frame, delivering]) error

/-! ## A contact that is cancelled at its end -/

open Octets A0Protocol ImageDecoder

def plainFrame (control : UInt8) (body : List UInt8) : List UInt8 :=
  (buildFrame control control body).getD []

def plainEvent (control : UInt8) (irq flags : UInt16) : List UInt8 :=
  plainFrame control (putU16Le irq ++ putU16Le flags ++
    [0x40, 0, 0x40, 0, 0x40, 0, 0x40, 0, 0x40, 0, 0x40, 0])

def plainNav : List UInt8 :=
  [0xa0, 0x6d, 0x09, 0x16, 0x50, 0x6a, 0x09, 0x50, 0x01] ++ List.replicate 2407 0 ++ [0x88]

/-- Four octets that clear the CRC, and zeros. -/
def plainPacked : List UInt8 := [0xff, 0xff, 0xff, 0xff] ++ List.replicate 7676 0

def plainImage : List UInt8 := [0x20, 0x0a, 0x1e, 0, 0, 0, 0, 0] ++ plainPacked ++ [0, 0, 0, 0, 0x88]

theorem crc_plainPacked : crc32Mpeg2 plainPacked = 0 := by
  have cleared : [0xff, 0xff, 0xff, 0xff].foldl crcOctet 0xffffffff = 0 := by decide +kernel
  unfold crc32Mpeg2 plainPacked
  rw [List.foldl_append, cleared]
  exact crc_zeros 7676

theorem plainImage_decodes : decodePlaintext plainImage = .ok (unpack plainPacked) := by
  have size : plainPacked.length = 7680 := by
    unfold plainPacked
    rw [List.length_append, List.length_replicate]
    rfl
  have packed : ((plainImage.drop 3).drop 5).take imagePackedLength = plainPacked := by
    have front : plainImage = ([0x20, 0x0a, 0x1e, 0, 0, 0, 0, 0] : List UInt8) ++
        (plainPacked ++ [0, 0, 0, 0, 0x88]) := List.append_assoc _ _ _
    rw [front, List.drop_drop, List.drop_left' (by rfl)]
    exact List.take_left' size
  have trailer : decodeCrcTrailer ((plainImage.drop 3).drop (5 + imagePackedLength)) = 0 := by
    decide +kernel
  unfold decodePlaintext
  simp only [packed, trailer, crc_plainPacked]
  rw [if_neg (by decide +kernel), if_neg (by decide +kernel), if_neg (by decide +kernel),
    if_neg (by decide +kernel), if_neg (by decide +kernel), if_neg (by simp)]

/-- A delivery of the image to a lifecycle that waits for one. -/
theorem call_plainImage {lifecycle : Lifecycle} (answer : Answer)
    (slot : lifecycle.phase = .fdtB0 ∨ lifecycle.phase = .firstB0)
    (fresh : lifecycle.plaintextPending = []) :
    Desk.call ⟨lifecycle, none⟩ (.handlePlaintext plainImage answer) =
      Desk.deliver ⟨lifecycle, none⟩
        ((({ lifecycle with plaintextPending := [] }).acceptImage (unpack plainPacked)
          answer).after [.plaintext plainImage]) := by
  have size : plainImage.length = imagePlaintextLength := by decide +kernel
  have declared : (getU16Le [plainImage.getD 1 0, plainImage.getD 2 0]).toNat + 3 =
      imagePlaintextLength := by decide +kernel
  have accepted : lifecycle.acceptChunk plainImage answer =
      ({ lifecycle with plaintextPending := [] }).acceptImage (unpack plainPacked) answer := by
    unfold Lifecycle.acceptChunk
    simp only [fresh, List.nil_append, declared, size, plainImage_decodes]
    simp [imagePlaintextLength]
  show Desk.deliver _ (lifecycle.handlePlaintext plainImage answer) = _
  unfold Lifecycle.handlePlaintext
  cases slot with
  | inl phase => simp [phase, accepted]
  | inr phase => simp [phase, accepted]

def plainAnswer : Answer := ⟨0, true, none⟩

def acked (control : UInt8) : List (Callbacks.Action Call) :=
  [.call (.completeOut 1 none), .call (.handleA0 (plainFrame 0xb0 [control, 1]) plainAnswer)]

def heard (frame : List UInt8) : List (Callbacks.Action Call) :=
  [.call (.handleA0 frame plainAnswer)]

/-- Up to the slot of the baseline image. -/
def untilBaseline : List (Callbacks.Action Call) :=
  [.call .start] ++ acked 0xd4 ++ [.call (.completeOut 1 none)] ++
    heard (plainFrame 0xae (0 :: 2 :: List.replicate 14 0)) ++ acked 0x36 ++
    heard (plainEvent 0x36 0x0100 0) ++ acked 0x50 ++ heard plainNav ++ acked 0x36 ++
    heard (plainEvent 0x36 0x0100 0) ++ acked 0x82 ++ heard (plainFrame 0x82 [0, 5]) ++ acked 0x20

/-- From the baseline image to the slot of the first one. -/
def untilContact : List (Callbacks.Action Call) :=
  acked 0x36 ++ heard (plainEvent 0x36 0x0100 0) ++ acked 0x32 ++
    heard (plainEvent 0x32 0x0002 1) ++ [.returned] ++ acked 0x22

/-- From the first image to a cancel inside `release_tail`, and back from every callback of it. -/
def cancelledRelease : List (Callbacks.Action Call) :=
  [.returned] ++ acked 0x34 ++ heard (plainEvent 0x34 0x0200 0) ++ acked 0x20 ++
    [.call (.handlePlaintext [] plainAnswer)] ++ acked 0x50 ++ heard plainNav ++
    [.call (.cancel none), .returned, .returned]

def imaged : Callbacks.Action Call := .call (.handlePlaintext plainImage plainAnswer)

/-- What an image does to a lifecycle that waits for one. -/
def afterImage (waiting : Callbacks.Waiting Desk Work) : Callbacks.Waiting Desk Work × List Noted :=
  let called := waiting.state.deliver
    ((({ waiting.state.lifecycle with plaintextPending := [] }).acceptImage (unpack plainPacked)
      plainAnswer).after [.plaintext plainImage])
  let entered := Desk.program.enter called.1 waiting.stack called.2.2
  (entered.1, called.2.1 ++ entered.2)

/-- Whether a call can be an image that completes. -/
def takesImage (waiting : Callbacks.Waiting Desk Work) : Bool :=
  (waiting.state.lifecycle.phase = .fdtB0 || waiting.state.lifecycle.phase = .firstB0) &&
    waiting.state.lifecycle.plaintextPending.isEmpty && waiting.state.delivery.isNone

theorem step_imaged {waiting : Callbacks.Waiting Desk Work} (takes : takesImage waiting = true) :
    Desk.program.step waiting imaged = afterImage waiting := by
  obtain ⟨⟨lifecycle, delivery⟩, stack⟩ := waiting
  simp only [takesImage, Bool.and_eq_true, Bool.or_eq_true, decide_eq_true_eq, List.isEmpty_iff,
    Option.isNone_iff_eq_none] at takes
  obtain ⟨⟨slot, fresh⟩, rfl⟩ := takes
  have called := @call_plainImage lifecycle plainAnswer slot fresh
  show (let called := Desk.call ⟨lifecycle, none⟩ (.handlePlaintext plainImage plainAnswer)
    let entered := Desk.program.enter called.1 stack called.2.2
    (entered.1, called.2.1 ++ entered.2)) = _
  rw [called]
  rfl

/-- The lifecycle of the run, at its images and at the end. -/
def atBaseline (lifecycle : Lifecycle) : Callbacks.Waiting Desk Work :=
  (run Desk.program.step ⟨⟨lifecycle, none⟩, []⟩ untilBaseline).1

def atContact (lifecycle : Lifecycle) : Callbacks.Waiting Desk Work :=
  (run Desk.program.step (afterImage (atBaseline lifecycle)).1 untilContact).1

def atReleaseTail (lifecycle : Lifecycle) : Callbacks.Waiting Desk Work :=
  (run Desk.program.step (afterImage (atContact lifecycle)).1 cancelledRelease).1

def cancelledContact : List (Callbacks.Action Call) :=
  untilBaseline ++ [imaged] ++ untilContact ++ [imaged] ++ cancelledRelease

/-- Up to the slot of the first image. -/
def contacted : List (Callbacks.Action Call) := untilBaseline ++ [imaged] ++ untilContact

/-- The log of a run up to the slot of the first image, and of the whole run. -/
def contactLog (lifecycle : Lifecycle) : List Noted :=
  (run Desk.program.step ⟨⟨lifecycle, none⟩, []⟩ untilBaseline).2 ++
    (afterImage (atBaseline lifecycle)).2 ++
    (run Desk.program.step (afterImage (atBaseline lifecycle)).1 untilContact).2

def releaseLog (lifecycle : Lifecycle) : List Noted :=
  contactLog lifecycle ++ (afterImage (atContact lifecycle)).2 ++
    (run Desk.program.step (afterImage (atContact lifecycle)).1 cancelledRelease).2

/-- A run goes on behind the baseline image. -/
theorem run_baselined {lifecycle : Lifecycle} (baseline : takesImage (atBaseline lifecycle) = true)
    (later : List (Callbacks.Action Call)) :
    run Desk.program.step ⟨⟨lifecycle, none⟩, []⟩ (untilBaseline ++ [imaged] ++ later) =
      ((run Desk.program.step (afterImage (atBaseline lifecycle)).1 later).1,
        (run Desk.program.step ⟨⟨lifecycle, none⟩, []⟩ untilBaseline).2 ++
          (afterImage (atBaseline lifecycle)).2 ++
          (run Desk.program.step (afterImage (atBaseline lifecycle)).1 later).2) := by
  rw [run_append, run_append]
  simp only [run]
  rw [show (run Desk.program.step ⟨⟨lifecycle, none⟩, []⟩ untilBaseline).1 = atBaseline lifecycle
    from rfl, step_imaged baseline]
  simp only [List.append_nil]

theorem run_contacted {lifecycle : Lifecycle} (baseline : takesImage (atBaseline lifecycle) = true) :
    run Desk.program.step ⟨⟨lifecycle, none⟩, []⟩ contacted =
      (atContact lifecycle, contactLog lifecycle) :=
  run_baselined baseline untilContact

theorem run_cancelledContact {lifecycle : Lifecycle}
    (baseline : takesImage (atBaseline lifecycle) = true)
    (contact : takesImage (atContact lifecycle) = true) :
    run Desk.program.step ⟨⟨lifecycle, none⟩, []⟩ cancelledContact =
      (atReleaseTail lifecycle, releaseLog lifecycle) := by
  rw [show cancelledContact = contacted ++ [imaged] ++ cancelledRelease from rfl, run_append, run_append,
    run_contacted baseline]
  simp only [run]
  rw [step_imaged contact]
  simp only [List.append_nil]
  rfl

def plainLifecycle : Lifecycle :=
  ((Lifecycle.new handedOver 1 plainMaterial ⟨true, true, true, true⟩).toOption).get (by rfl)

theorem plainLifecycle_new :
    Lifecycle.new handedOver 1 plainMaterial ⟨true, true, true, true⟩ = .ok plainLifecycle := rfl

/-- The two images of the run complete. -/
theorem plainLifecycle_takes : takesImage (atBaseline plainLifecycle) = true ∧
    takesImage (atContact plainLifecycle) = true := by
  constructor <;> decide +kernel

/-- A command was submitted. -/
def Noted.commands (wanted : UInt8) : Noted → Bool
  | .submitted control _ => control = wanted
  | _ => false

theorem submitted_of_commands {wanted : UInt8} {log : List Noted}
    (commands : log.any (Noted.commands wanted) = true) : ∃ packet, .submitted wanted packet ∈ log := by
  obtain ⟨entry, inside, known⟩ := List.any_eq_true.mp commands
  cases entry with
  | submitted control packet =>
    obtain rfl : control = wanted := by simpa [Noted.commands] using known
    exact ⟨packet, inside⟩
  | _ => cases known

theorem failed_of_fails {log : List Noted} (fails : log.any Noted.fails = true) :
    ∃ error, .failed error ∈ log := by
  obtain ⟨entry, inside, known⟩ := List.any_eq_true.mp fails
  cases entry with
  | failed error => exact ⟨error, inside⟩
  | _ => cases known

/-! ## The end -/

/-- **The end of a lifecycle.**  In every run whose steps are orderly the lifecycle is TERMINAL from
its first failure on, neither sends nor calls anybody after it, and tells its owner exactly
once. -/
theorem terminal_is_silent {backend : Backend Owner} {generation : Nat} {material : Material}
    {listeners : Listeners} {start : Lifecycle}
    (created : Lifecycle.new backend generation material listeners = .ok start)
    (actions : List (Callbacks.Action Call))
    (orderly : Meets Desk.program.step Orderly ⟨⟨start, none⟩, []⟩ actions) :
    EndsOnce (run Desk.program.step ⟨⟨start, none⟩, []⟩ actions).2
      (run Desk.program.step ⟨⟨start, none⟩, []⟩ actions).1 := by
  have initially : Ending [] ⟨⟨start, none⟩, []⟩ := by
    have fresh : start.phase = .notStarted := by
      unfold Lifecycle.new at created
      split at created
      · cases created
      split at created
      · cases created
      · cases created
        rfl
    refine ⟨⟨?_, justified_nil _, ?_⟩, by simp⟩
    · simp [fresh]
    · simp [fresh, owing]
  have ending := run_invariant_of_meets Desk.program.step Orderly Ending
    (fun log waiting action ending orderly => ending.step orderly) actions [] _ initially orderly
  rw [List.nil_append] at ending
  have told := ending.hushed.told
  refine ⟨ending.hushed.absorbed, ending.hushed.silent, ?_, ?_⟩
  · split at told <;> omega
  · intro ended returned listens
    simpa [ended, listens, owing, returned] using told

/-- A return that is orderly in any phase. -/
def returnsOrderly (waiting : Callbacks.Waiting Desk Work) : Bool :=
  waiting.stack.head?.all (fun works => !(backs works).contains .fingerUp) &&
    match waiting.state.delivery with
    | some (.secondImage _ _) => false
    | _ => true

theorem orderly_of_returns {waiting : Callbacks.Waiting Desk Work} (returns : returnsOrderly waiting = true) :
    Orderly waiting .returned := by
  simp only [returnsOrderly, Bool.and_eq_true, Option.all_eq_true, Bool.not_eq_true'] at returns
  intro _ works next
  constructor
  · intro inside
    have away := returns.1 works next
    rw [List.contains_iff_mem.mpr inside] at away
    cases away
  · intro _ error second
    have other := returns.2
    rw [second] at other
    cases other

/-- From the baseline image to the contact, whose callback cancels the lifecycle. -/
def cancelledInFingerDown : List (Callbacks.Action Call) :=
  acked 0x36 ++ heard (plainEvent 0x36 0x0100 0) ++ acked 0x32 ++ heard (plainEvent 0x32 0x0002 1) ++
    [.call (.cancel none)]

/-- The lifecycle when it is cancelled there. -/
def atCancel (lifecycle : Lifecycle) : Callbacks.Waiting Desk Work :=
  (run Desk.program.step (afterImage (atBaseline lifecycle)).1 cancelledInFingerDown).1

theorem run_cancelledInFingerDown {lifecycle : Lifecycle}
    (baseline : takesImage (atBaseline lifecycle) = true) :
    (run Desk.program.step ⟨⟨lifecycle, none⟩, []⟩
      (untilBaseline ++ [imaged] ++ cancelledInFingerDown)).1 = atCancel lifecycle := by
  rw [run_append, run_append]
  simp only [run]
  rw [show (run Desk.program.step ⟨⟨lifecycle, none⟩, []⟩ untilBaseline).1 =
    atBaseline lifecycle from rfl, step_imaged baseline]
  rfl

/-- A run that is cancelled in `finger_down`, and the returns of the drained callback, of the
terminal callback and of `finger_down`. -/
def cancelledInside : List (Callbacks.Action Call) :=
  untilBaseline ++ [imaged] ++ cancelledInFingerDown ++ [.returned, .returned, .returned]

theorem run_cancelledInside {lifecycle : Lifecycle} (baseline : takesImage (atBaseline lifecycle) = true) :
    (run Desk.program.step ⟨⟨lifecycle, none⟩, []⟩ cancelledInside).1 =
      (run Desk.program.step (atCancel lifecycle) [.returned, .returned, .returned]).1 := by
  unfold cancelledInside
  rw [run_append, run_cancelledInFingerDown baseline]

theorem cancelledInside_orderly {lifecycle : Lifecycle}
    (baseline : takesImage (atBaseline lifecycle) = true)
    (drained : returnsOrderly (atCancel lifecycle) = true)
    (told : returnsOrderly (Desk.program.step (atCancel lifecycle) .returned).1 = true)
    (contact : returnsOrderly
      (Desk.program.step (Desk.program.step (atCancel lifecycle) .returned).1 .returned).1 = true) :
    Meets Desk.program.step Orderly ⟨⟨lifecycle, none⟩, []⟩ cancelledInside := by
  have calls : ∀ action ∈ untilBaseline ++ [imaged] ++ cancelledInFingerDown,
      ∀ waiting, Orderly waiting action := by
    intro action inside waiting
    cases action with
    | call call => trivial
    | returned => simp [untilBaseline, imaged, cancelledInFingerDown, acked, heard] at inside
  refine (meets_append _).mpr ⟨meets_of_forall _ _ calls, ?_⟩
  rw [run_cancelledInFingerDown baseline]
  exact ⟨orderly_of_returns drained, orderly_of_returns told, orderly_of_returns contact, trivial⟩

/-- A lifecycle that is cancelled inside a callback tells so once, though its terminal callback and
the other one return to it. -/
theorem terminal_is_silent_cancelled :
    let ran := run Desk.program.step ⟨⟨plainLifecycle, none⟩, []⟩ cancelledInside
    EndsOnce ran.2 ran.1 ∧ ran.1.state.lifecycle.phase = .terminal ∧ ran.1.stack = [] ∧
      ran.2.countP Noted.tells = 1 := by
  have orderly := cancelledInside_orderly plainLifecycle_takes.1 (by decide +kernel)
    (by decide +kernel) (by decide +kernel)
  have ends := terminal_is_silent plainLifecycle_new cancelledInside orderly
  have last := run_cancelledInside plainLifecycle_takes.1
  have ended : (run Desk.program.step (atCancel plainLifecycle)
      [.returned, .returned, .returned]).1.state.lifecycle.phase = .terminal := by
    decide +kernel
  have returned : (run Desk.program.step (atCancel plainLifecycle)
      [.returned, .returned, .returned]).1.stack.isEmpty = true := by
    decide +kernel
  have listens : (run Desk.program.step (atCancel plainLifecycle)
      [.returned, .returned, .returned]).1.state.lifecycle.listeners.terminal = true := by
    decide +kernel
  rw [← last] at ended returned listens
  have empty := List.isEmpty_iff.mp returned
  exact ⟨ends, ended, empty, ends.told ended empty listens⟩

/-- `finger_up` is called by a lifecycle that was cancelled in `release_tail`. -/
theorem finger_up_after_the_end :
    Lifecycle.new handedOver 1 plainMaterial ⟨true, true, true, true⟩ = .ok plainLifecycle ∧
    ¬ EndsOnce
      (run Desk.program.step ⟨⟨plainLifecycle, none⟩, []⟩ (cancelledContact ++ [.returned])).2
      (run Desk.program.step ⟨⟨plainLifecycle, none⟩, []⟩
        (cancelledContact ++ [.returned])).1 := by
  have failed : (run Desk.program.step (afterImage (atContact plainLifecycle)).1
      cancelledRelease).2.any Noted.fails = true := by
    decide +kernel
  have called : (Desk.program.step (atReleaseTail plainLifecycle) .returned).2.any
      Noted.stirs = true := by
    decide +kernel
  refine ⟨plainLifecycle_new, fun ends => ?_⟩
  have silent := ends.silent
  rw [run_concat, run_cancelledContact plainLifecycle_takes.1 plainLifecycle_takes.2] at silent
  obtain ⟨entry, inside, stirs⟩ := List.any_eq_true.mp called
  obtain ⟨before, after, noted⟩ := List.append_of_mem inside
  dsimp only [releaseLog] at silent
  rw [noted, ← List.append_assoc] at silent
  have still := silent _ entry after rfl (by simp [failed])
  rw [stirs] at still
  cases still

end Goodix.PostTls
