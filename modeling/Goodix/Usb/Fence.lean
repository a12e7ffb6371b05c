import Goodix.Library.Traces
import Goodix.Usb.Backend

/-! # The terminal fence

The wire as its log shows it, at any moment of any nesting of calls: one receive and one
OUT at most, nothing submitted and no frame behind a fence, a new generation only when
nothing is in flight, and one drained callback for a fence that has drained.

An OUT that completes behind the fence is still reported to the OUT callback: the
components that own the callback know their fence themselves.  Every OUT that completes is
reported at once, to the callback that is registered then, and nothing else is reported.
-/

namespace Goodix.Usb

open Callbacks Traces

variable {κ : Type}

/-! ## The wire -/

/-- What a log shows of the wire: the generations of what is in flight, the OUTs that have
completed and were not reported, the fence, and what the router was given behind the last one. -/
structure Wire where
  inFlight : Option Nat
  outFlight : Option Nat
  unreported : List Nat
  fenced : Bool
  drained : Bool
  routed : List UInt8

namespace Wire

def idle : Wire where
  inFlight := none
  outFlight := none
  unreported := []
  fenced := false
  drained := false
  routed := []

def note (wire : Wire) : Noted κ → Wire
  | .begun _ => { wire with fenced := false, drained := false }
  | .submittedIn generation _ => { wire with inFlight := some generation }
  | .submittedOut generation _ => { wire with outFlight := some generation }
  | .acceptedIn _ => { wire with inFlight := none }
  | .acceptedOut generation =>
    { wire with outFlight := none, unreported := generation :: wire.unreported }
  | .outCompleted _ generation _ =>
    { wire with unreported := wire.unreported.erase generation }
  | .routed octets => { wire with routed := wire.routed ++ octets }
  | .fenced => { wire with fenced := true, drained := false, routed := [] }
  | .drained => { wire with drained := true }
  | _ => wire

/-- What may happen on the wire. -/
def Allows (wire : Wire) : Noted κ → Prop
  | .begun _ => wire.inFlight = none ∧ wire.outFlight = none
  | .submittedIn .. => wire.fenced = false ∧ wire.inFlight = none
  | .submittedOut .. => wire.fenced = false ∧ wire.outFlight = none
  | .acceptedIn generation => wire.inFlight = some generation
  | .acceptedOut generation => wire.outFlight = some generation
  | .frame _ frame => wire.fenced = false ∧ frame <:+: wire.routed
  | .outCompleted _ generation _ => generation ∈ wire.unreported
  | .drained =>
    wire.fenced = true ∧ wire.inFlight = none ∧ wire.outFlight = none ∧ wire.drained = false
  | _ => True

/-- What may happen in a row. -/
def Admits (wire : Wire) : List (Noted κ) → Prop
  | [] => True
  | entry :: later => wire.Allows entry ∧ Admits (wire.note entry) later

end Wire

/-- The wire behind a log. -/
def wireOf (log : List (Noted κ)) : Wire := log.foldl Wire.note Wire.idle

theorem wireOf_append (log more : List (Noted κ)) :
    wireOf (log ++ more) = more.foldl Wire.note (wireOf log) := List.foldl_append ..

/-- Every entry of a log is one that the wire allows. -/
def Lawful (log : List (Noted κ)) : Prop :=
  Justified (fun before entry => (wireOf before).Allows entry) log

theorem Lawful.append {log : List (Noted κ)} (lawful : Lawful log) (more : List (Noted κ))
    (admits : (wireOf log).Admits more) : Lawful (log ++ more) := by
  induction more generalizing log with
  | nil => rwa [List.append_nil]
  | cons entry later ih =>
    have first : Lawful (log ++ [entry]) := justified_concat.mpr ⟨lawful, admits.1⟩
    have rest := ih first (by rw [wireOf_append]; exact admits.2)
    simpa using rest

/-! ## What the backend keeps -/

/-- The OUT that a piece of work is going to report. -/
def Work.reports : Work → Option Nat
  | .outCompleted generation _ => some generation
  | _ => none

/-- The wire, the backend and the work that is still to be done fit together. -/
structure Fences (wire : Wire) (usb : Stack κ) (owed : List Work) : Prop where
  inFlight : wire.inFlight =
    if usb.backend.inOutstanding = 0 then none else some usb.backend.inGeneration
  outFlight : wire.outFlight =
    if usb.backend.outOutstanding = 0 then none else some usb.backend.outGeneration
  unreported : (owed.filterMap Work.reports).Subperm wire.unreported
  fenced : wire.fenced = usb.backend.terminalFence
  drained : wire.drained = usb.backend.drainNotified
  pending : usb.router.pending <:+ wire.routed
  cleared : usb.backend.terminalFence = true → usb.router.pending = []
  owes : usb.backend.mustNotifyDrained = true → .notifyDrained ∈ owed

theorem fences_new : Fences Wire.idle (Stack.new : Stack κ) [] := by
  constructor <;> simp [Wire.idle, Stack.new, Backend.new, Router.new, Backend.mustNotifyDrained]

theorem isDrained_iff {backend : Backend κ} :
    backend.isDrained = true ↔ backend.inOutstanding = 0 ∧ backend.outOutstanding = 0 := by
  simp [Backend.isDrained]

section

variable {wire : Wire} {usb : Stack κ} {owed : List Work}

theorem Fences.beginGeneration (fences : Fences wire usb owed) {generation : Nat}
    {backend : Backend κ} (begun : usb.backend.beginGeneration generation = .ok backend) :
    wire.Admits [(.begun generation : Noted κ)] ∧
      Fences (wire.note (.begun generation : Noted κ)) { usb with backend } owed := by
  unfold Backend.beginGeneration at begun
  split at begun
  · cases begun
  · rename_i accepted
    cases begun
    have drained := isDrained_iff.mp (by simpa using (not_or.mp accepted).2)
    refine ⟨⟨⟨?_, ?_⟩, trivial⟩, { fences with
      fenced := rfl
      drained := rfl
      cleared := nofun
      owes := by simp [Backend.mustNotifyDrained] }⟩
    · rw [fences.inFlight, if_pos drained.1]
    · rw [fences.outFlight, if_pos drained.2]

theorem Fences.submitReceive (fences : Fences wire usb owed) {generation timeoutMs : Nat}
    {purpose : ReceivePurpose} {router : Router} (opened : usb.backend.terminalFence = false)
    (free : usb.backend.inOutstanding = 0) (same : router.pending = usb.router.pending) :
    wire.Admits [(.submittedIn generation purpose : Noted κ)] ∧
      Fences (wire.note (.submittedIn generation purpose : Noted κ))
        ⟨usb.backend.submitReceive generation purpose timeoutMs, router⟩ owed := by
  refine ⟨⟨⟨?_, ?_⟩, trivial⟩, { fences with
    inFlight := rfl
    pending := by rw [same]; exact fences.pending
    cleared := by rw [same]; exact fences.cleared
    owes := by simp [Backend.submitReceive, Backend.mustNotifyDrained, opened] }⟩
  · rw [fences.fenced, opened]
  · rw [fences.inFlight, if_pos free]

theorem Fences.armReceive (fences : Fences wire usb owed) {generation : Nat} {after : Stack κ}
    (armed : usb.armReceive generation = .ok after) :
    wire.Admits [(.submittedIn generation .protocolRx : Noted κ)] ∧
      Fences (wire.note (.submittedIn generation .protocolRx : Noted κ)) after owed := by
  unfold Stack.armReceive at armed
  split at armed
  · cases armed
  · rename_i accepted
    simp only [Backend.refusesReceive, decide_eq_true_eq, not_or, Bool.not_eq_true,
      Decidable.not_not] at accepted
    cases requested : usb.router.requestReceive with
    | error error =>
      rw [requested] at armed
      cases armed
    | ok router =>
      rw [requested] at armed
      cases armed
      have same : router.pending = usb.router.pending := by
        unfold Router.requestReceive at requested
        split at requested
        · cases requested
        split at requested
        · cases requested
        · cases requested
          rfl
      exact fences.submitReceive accepted.1 accepted.2.2.2 same

theorem Fences.armPreSessionSyncReceive (fences : Fences wire usb owed)
    {generation timeoutMs : Nat} {backend : Backend κ}
    (armed : usb.backend.armPreSessionSyncReceive generation timeoutMs = .ok backend) :
    wire.Admits [(.submittedIn generation .preSessionSyncRx : Noted κ)] ∧
      Fences (wire.note (.submittedIn generation .preSessionSyncRx : Noted κ))
        { usb with backend } owed := by
  unfold Backend.armPreSessionSyncReceive at armed
  split at armed
  · cases armed
  · rename_i accepted
    simp only [not_or, Bool.not_eq_true, Decidable.not_not] at accepted
    cases armed
    exact fences.submitReceive accepted.1 accepted.2.2.2.2.1 rfl

theorem Fences.beginPreSessionSync (fences : Fences wire usb owed) {generation : Nat}
    {backend : Backend κ} (begun : usb.backend.beginPreSessionSync generation = .ok backend) :
    Fences wire { usb with backend } owed := by
  unfold Backend.beginPreSessionSync at begun
  split at begun
  · cases begun
  · cases begun
    exact { fences with }

theorem Fences.endPreSessionSync (fences : Fences wire usb owed) {generation : Nat}
    {backend : Backend κ} (ended : usb.backend.endPreSessionSync generation = .ok backend) :
    Fences wire { usb with backend } owed := by
  unfold Backend.endPreSessionSync at ended
  split at ended
  · cases ended
  · cases ended
    exact { fences with }

theorem Fences.submitOut (fences : Fences wire usb owed) {generation : Nat}
    {backend : Backend κ} (bytes : List UInt8)
    (submitted : usb.backend.submitOut generation = .ok backend) :
    wire.Admits [(.submittedOut generation bytes : Noted κ)] ∧
      Fences (wire.note (.submittedOut generation bytes : Noted κ)) { usb with backend } owed := by
  unfold Backend.submitOut at submitted
  split at submitted
  · cases submitted
  split at submitted
  · cases submitted
  · rename_i accepted free
    simp only [not_or, Bool.not_eq_true] at accepted
    cases submitted
    refine ⟨⟨⟨?_, ?_⟩, trivial⟩, { fences with
      outFlight := rfl
      owes := by simp [Backend.mustNotifyDrained, accepted.1] }⟩
    · rw [fences.fenced, accepted.1]
    · rw [fences.outFlight, if_pos (Decidable.not_not.mp free)]

theorem Fences.cancel (fences : Fences wire usb owed) :
    Fences (wire.note (.fenced : Noted κ)) ⟨usb.backend.fence, usb.router.cancel⟩
      (.notifyDrained :: owed) :=
  { fences with
    fenced := rfl
    drained := rfl
    pending := List.nil_suffix
    cleared := fun _ => rfl
    owes := fun _ => List.mem_cons_self .. }

theorem Fences.completeOut (fences : Fences wire usb owed) {submitGeneration : Nat}
    {error : Option GError} {backend : Backend κ}
    (taken : usb.backend.takeOut submitGeneration = some backend) :
    wire.Admits [(.acceptedOut submitGeneration : Noted κ)] ∧
      Fences (wire.note (.acceptedOut submitGeneration : Noted κ)) { usb with backend }
        (.outCompleted submitGeneration error :: .notifyDrained :: owed) := by
  unfold Backend.takeOut at taken
  split at taken
  · cases taken
  · rename_i accepted
    rw [not_or, Decidable.not_not] at accepted
    cases taken
    refine ⟨⟨?_, trivial⟩, { fences with
      outFlight := rfl
      unreported := ?_
      owes := fun _ => by simp }⟩
    · show wire.outFlight = some submitGeneration
      rw [fences.outFlight, if_neg accepted.1, accepted.2]
    · exact (List.subperm_cons _).mpr fences.unreported

/-- The receive that completes, before anybody hears of it. -/
theorem Fences.takeReceive (fences : Fences wire usb owed) {submitGeneration : Nat}
    {purpose : ReceivePurpose} {backend : Backend κ} (completion : Completion)
    (taken : usb.backend.takeReceive submitGeneration = some (backend, purpose)) :
    wire.Admits [(.acceptedIn submitGeneration : Noted κ)] ∧
      Fences (wire.note (.acceptedIn submitGeneration : Noted κ)) { usb with backend }
        (.receiveCompleted purpose submitGeneration completion :: .notifyDrained :: owed) := by
  unfold Backend.takeReceive at taken
  split at taken
  · cases taken
  · rename_i accepted
    rw [not_or, Decidable.not_not] at accepted
    cases taken
    refine ⟨⟨?_, trivial⟩, { fences with
      inFlight := rfl
      owes := fun _ => by simp }⟩
    show wire.inFlight = some submitGeneration
    rw [fences.inFlight, if_neg accepted.1, accepted.2]

theorem routeReceive_pending {router after : Router} {generation : Nat} {completion : Completion}
    {loops : Bool} (routed : Stack.routeReceive router generation completion = (after, loops)) :
    after.pending = router.pending ++ if loops then completion.octets else [] := by
  unfold Stack.routeReceive at routed
  split at routed
  · split at routed
    · cases routed
      simp [Router.fail]
    · split at routed
      · cases routed
        simp [Router.fail]
      · cases routed
        simp
  · cases routed
    simp

theorem Fences.routeReceive (fences : Fences wire usb owed) {generation : Nat}
    {completion : Completion} {router : Router} {loops : Bool}
    (opened : usb.backend.terminalFence = false)
    (routed : Stack.routeReceive usb.router generation completion = (router, loops)) :
    Fences { wire with routed := wire.routed ++ if loops then completion.octets else [] }
      { usb with router } owed :=
  { fences with
    pending := by
      show router.pending <:+ _
      rw [routeReceive_pending routed]
      obtain ⟨earlier, suffix⟩ := fences.pending
      exact ⟨earlier, by rw [← suffix, List.append_assoc]⟩
    cleared := fun isFenced => by
      have contradiction : usb.backend.terminalFence = true := isFenced
      rw [opened] at contradiction
      cases contradiction }

/-! ## Pieces of work -/

theorem Fences.parse (fences : Fences wire usb (.parse :: owed)) :
    wire.Admits (usb.turn .parse).2.1 ∧
      Fences ((usb.turn .parse).2.1.foldl Wire.note wire) (usb.turn .parse).1
        ((usb.turn .parse).2.2.getD [] ++ owed) := by
  have tail : Fences wire usb owed := { fences with
    owes := fun must => by simpa using fences.owes must }
  simp only [Stack.turn]
  split
  · exact ⟨trivial, tail⟩
  · split
    · exact ⟨trivial, tail⟩
    · exact ⟨trivial, { tail with }⟩
    · rename_i frameLength item
      have left := (List.drop_suffix frameLength usb.router.pending).trans fences.pending
      refine ⟨⟨⟨?_, ?_⟩, trivial⟩, { fences with pending := left, cleared := ?_ }⟩
      · -- behind a fence nothing is pending
        rw [fences.fenced]
        by_contra fenced
        have cleared := fences.cleared (by simpa using fenced)
        rw [cleared] at item
        cases item
      · exact (List.take_prefix ..).isInfix.trans fences.pending.isInfix
      · intro fenced
        show usb.router.pending.drop frameLength = []
        rw [fences.cleared fenced, List.drop_nil]

theorem Fences.receiveCompleted {purpose : ReceivePurpose} {generation : Nat}
    {completion : Completion}
    (fences : Fences wire usb (.receiveCompleted purpose generation completion :: owed)) :
    wire.Admits (usb.turn (.receiveCompleted purpose generation completion)).2.1 ∧
      Fences ((usb.turn (.receiveCompleted purpose generation completion)).2.1.foldl
          Wire.note wire)
        (usb.turn (.receiveCompleted purpose generation completion)).1
        ((usb.turn (.receiveCompleted purpose generation completion)).2.2.getD [] ++ owed) := by
  have tail : Fences wire usb owed := { fences with
    owes := fun must => by simpa using fences.owes must }
  cases purpose with
  | none => exact ⟨trivial, tail⟩
  | protocolRx => exact ⟨⟨trivial, trivial⟩, tail⟩
  | preSessionSyncRx => exact ⟨⟨trivial, trivial⟩, tail⟩

theorem Fences.outCompleted {generation : Nat} {error : Option GError}
    (fences : Fences wire usb (.outCompleted generation error :: owed)) :
    wire.Admits (usb.turn (.outCompleted generation error)).2.1 ∧
      Fences ((usb.turn (.outCompleted generation error)).2.1.foldl Wire.note wire)
        (usb.turn (.outCompleted generation error)).1
        ((usb.turn (.outCompleted generation error)).2.2.getD [] ++ owed) := by
  have owes (must : usb.backend.mustNotifyDrained = true) : .notifyDrained ∈ owed := by
    simpa using fences.owes must
  have reports : (generation :: owed.filterMap Work.reports).Subperm wire.unreported :=
    fences.unreported
  simp only [Stack.turn]
  split
  · exact ⟨trivial, { fences with
      unreported := (List.sublist_cons_self _ _).subperm.trans reports
      owes }⟩
  · refine ⟨⟨reports.subset (List.mem_cons_self ..), trivial⟩, { fences with
      unreported := ?_
      owes }⟩
    have erased := reports.erase generation
    rwa [List.erase_cons_head] at erased

theorem Fences.notifyDrained (fences : Fences wire usb (.notifyDrained :: owed)) :
    wire.Admits (usb.turn .notifyDrained).2.1 ∧
      Fences ((usb.turn .notifyDrained).2.1.foldl Wire.note wire) (usb.turn .notifyDrained).1
        ((usb.turn .notifyDrained).2.2.getD [] ++ owed) := by
  simp only [Stack.turn]
  split
  · rename_i must
    simp only [Backend.mustNotifyDrained, decide_eq_true_eq] at must
    have drained := isDrained_iff.mp must.2.1
    refine ⟨⟨⟨?_, ?_, ?_, ?_⟩, trivial⟩, { fences with
      drained := rfl
      owes := by simp [Backend.mustNotifyDrained] }⟩
    · rw [fences.fenced, must.1]
    · rw [fences.inFlight, if_pos drained.1]
    · rw [fences.outFlight, if_pos drained.2]
    · rw [fences.drained, must.2.2]
  · rename_i settled
    exact ⟨trivial, { fences with owes := fun must => absurd must settled }⟩

theorem Fences.turn {work : Work} (fences : Fences wire usb (work :: owed)) :
    wire.Admits (usb.turn work).2.1 ∧
      Fences ((usb.turn work).2.1.foldl Wire.note wire) (usb.turn work).1
        ((usb.turn work).2.2.getD [] ++ owed) := by
  cases work with
  | parse => exact fences.parse
  | receiveCompleted purpose generation completion => exact fences.receiveCompleted
  | outCompleted generation error => exact fences.outCompleted
  | notifyDrained => exact fences.notifyDrained

/-- A call that succeeds or is refused. -/
theorem Fences.settle (fences : Fences wire usb owed) (result : Except GError (Stack κ))
    (noted : List (Noted κ))
    (settled : ∀ after, result = .ok after →
      wire.Admits noted ∧ Fences (noted.foldl Wire.note wire) after owed) :
    wire.Admits (usb.settle result noted).2.1 ∧
      Fences ((usb.settle result noted).2.1.foldl Wire.note wire) (usb.settle result noted).1
        ((usb.settle result noted).2.2 ++ owed) := by
  cases result with
  | error error => exact ⟨⟨trivial, trivial⟩, fences⟩
  | ok after => exact settled after rfl

theorem map_ok {α β : Type} {result : Except GError α} {change : α → β} {after : β}
    (mapped : result.map change = .ok after) :
    ∃ value, result = .ok value ∧ change value = after := by
  cases result with
  | error error => cases mapped
  | ok value => exact ⟨value, rfl, Except.ok.inj mapped⟩

theorem Fences.completeReceive (fences : Fences wire usb owed) (submitGeneration : Nat)
    (completion : Completion) :
    wire.Admits (usb.call (.completeReceive submitGeneration completion)).2.1 ∧
      Fences ((usb.call (.completeReceive submitGeneration completion)).2.1.foldl Wire.note wire)
        (usb.call (.completeReceive submitGeneration completion)).1
        ((usb.call (.completeReceive submitGeneration completion)).2.2 ++ owed) := by
  simp only [Stack.call]
  split
  · exact ⟨trivial, fences⟩
  · rename_i backend purpose taken
    have ⟨admits, accepted⟩ := fences.takeReceive completion taken
    split
    · rename_i routes
      simp only [Backend.routes, decide_eq_true_eq] at routes
      split
      · rename_i router routed
        have given := accepted.routeReceive routes.1 routed
        rw [if_neg Bool.false_ne_true, List.append_nil] at given
        exact ⟨admits, given⟩
      · rename_i router routed
        have given := accepted.routeReceive routes.1 routed
        exact ⟨⟨admits.1, trivial, trivial⟩, { given with
          owes := fun must => List.mem_cons_of_mem _ (given.owes must) }⟩
    · exact ⟨admits, accepted⟩

theorem Fences.call (fences : Fences wire usb owed) (call : Call κ) :
    wire.Admits (usb.call call).2.1 ∧
      Fences ((usb.call call).2.1.foldl Wire.note wire) (usb.call call).1
        ((usb.call call).2.2 ++ owed) := by
  cases call with
  | beginGeneration generation =>
    refine fences.settle _ _ fun after result => ?_
    obtain ⟨backend, begun, rfl⟩ := map_ok result
    exact fences.beginGeneration begun
  | beginRouterGeneration generation =>
    refine ⟨trivial, { fences with pending := ?_, cleared := ?_ }⟩ <;>
      simp only [Stack.call, Router.beginGeneration] <;> split
    · exact fences.pending
    · exact List.nil_suffix
    · exact fences.cleared
    · exact fun _ => rfl
  | armReceive generation => exact fences.settle _ _ fun after result => fences.armReceive result
  | beginPreSessionSync generation =>
    refine fences.settle _ _ fun after result => ?_
    obtain ⟨backend, begun, rfl⟩ := map_ok result
    exact ⟨trivial, fences.beginPreSessionSync begun⟩
  | armPreSessionSyncReceive generation timeoutMs =>
    refine fences.settle _ _ fun after result => ?_
    obtain ⟨backend, armed, rfl⟩ := map_ok result
    exact fences.armPreSessionSyncReceive armed
  | endPreSessionSync generation =>
    refine fences.settle _ _ fun after result => ?_
    obtain ⟨backend, ended, rfl⟩ := map_ok result
    exact ⟨trivial, fences.endPreSessionSync ended⟩
  | submitOut generation bytes =>
    refine fences.settle _ _ fun after result => ?_
    obtain ⟨backend, submitted, rfl⟩ := map_ok result
    exact fences.submitOut bytes submitted
  | completeReceive submitGeneration completion =>
    exact fences.completeReceive submitGeneration completion
  | completeOut submitGeneration error =>
    simp only [Stack.call]
    split
    · exact ⟨trivial, fences⟩
    · rename_i backend taken
      exact fences.completeOut taken
  | cancel =>
    simp only [Stack.call]
    split
    · exact ⟨trivial, fences⟩
    · exact ⟨⟨trivial, trivial⟩, fences.cancel⟩
  | setOutCompletedCallback callback => exact ⟨trivial, { fences with }⟩

end

/-! ## Reports -/

/-- The OUT callback that is registered behind an action. -/
def nextRegistered : Action (Call κ) → Option κ → Option κ
  | .call (.setOutCompletedCallback next), _ => next
  | _, callback => callback

/-- The OUT callback that was registered last. -/
def registered (actions : List (Action (Call κ))) : Option κ :=
  actions.foldl (fun callback action => nextRegistered action callback) none

/-- What the OUT callbacks were called with, in order. -/
def reports (log : List (Noted κ)) : List (κ × Nat × Option GError) :=
  log.filterMap fun
    | .outCompleted owner generation error => some (owner, generation, error)
    | _ => none

/-- What is due to the callback when an action follows a log: the completion of the OUT that is in
flight, with its generation and its error. -/
def dueReport (log : List (Noted κ)) (callback : Option κ) :
    Action (Call κ) → List (κ × Nat × Option GError)
  | .call (.completeOut generation error) =>
    if (wireOf log).outFlight = some generation then
      (callback.map fun owner => (owner, generation, error)).toList
    else []
  | _ => []

/-- No OUT is going to be reported by what is left of a call. -/
def Quiet (works : List Work) : Prop := ∀ work ∈ works, work.reports = none

section Reports

variable {usb : Stack κ}

theorem reports_append (log more : List (Noted κ)) :
    reports (log ++ more) = reports log ++ reports more := List.filterMap_append

theorem registered_concat (actions : List (Action (Call κ))) (action : Action (Call κ)) :
    registered (actions ++ [action]) = nextRegistered action (registered actions) :=
  List.foldl_concat ..

/-- Other pieces of work than a report report nothing, and leave the callback as it is. -/
theorem turn_quiet {work : Work} (quiet : work.reports = none) :
    reports (usb.turn work).2.1 = [] ∧ Quiet ((usb.turn work).2.2.getD []) ∧
      (usb.turn work).1.backend.outCompletedCallback = usb.backend.outCompletedCallback := by
  cases work with
  | parse =>
    simp only [Stack.turn]
    split
    · exact ⟨rfl, by simp [Quiet], rfl⟩
    · split
      · exact ⟨rfl, by simp [Quiet], rfl⟩
      · exact ⟨rfl, by simp [Quiet], rfl⟩
      · exact ⟨rfl, by simp [Quiet, Work.reports], rfl⟩
  | receiveCompleted purpose generation completion =>
    cases purpose <;> exact ⟨rfl, by simp [Quiet, Stack.turn], rfl⟩
  | outCompleted generation error => cases quiet
  | notifyDrained =>
    simp only [Stack.turn]
    split <;> exact ⟨rfl, by simp [Quiet], rfl⟩

theorem proceed_quiet {works : List Work} (quiet : Quiet works) :
    reports (Stack.program.proceed usb works).2.1 = [] ∧
      Quiet ((Stack.program.proceed usb works).2.2.getD []) ∧
      (Stack.program.proceed usb works).1.backend.outCompletedCallback =
        usb.backend.outCompletedCallback := by
  induction works generalizing usb with
  | nil => exact ⟨rfl, by simp [Program.proceed, Quiet], rfl⟩
  | cons work works ih =>
    obtain ⟨silent, left, same⟩ := @turn_quiet _ usb work (quiet work (List.mem_cons_self ..))
    have rest : Quiet works := fun other inside => quiet other (List.mem_cons_of_mem _ inside)
    unfold Program.proceed
    split
    · rename_i after emitted more turned
      rw [show Stack.program.turn usb work = usb.turn work from rfl] at turned
      rw [turned] at silent left same
      refine ⟨silent, fun other inside => ?_, same⟩
      exact (List.mem_append.mp inside).elim (left other) (rest other)
    · rename_i after emitted turned
      rw [show Stack.program.turn usb work = usb.turn work from rfl] at turned
      rw [turned] at silent same
      obtain ⟨later, left, still⟩ := @ih after rest
      exact ⟨by rw [reports_append, silent, later]; rfl, left, still.trans same⟩

/-- What a call that goes on leaves on the stack, if it called back. -/
theorem enter_quiet {stack : List (List Work)} {works : List Work}
    (quiet : Quiet works) (waits : ∀ left ∈ stack, Quiet left) :
    reports (Stack.program.enter usb stack works).2 = [] ∧
      (∀ left ∈ (Stack.program.enter usb stack works).1.stack, Quiet left) ∧
      (Stack.program.enter usb stack works).1.state.backend.outCompletedCallback =
        usb.backend.outCompletedCallback := by
  obtain ⟨silent, left, same⟩ := @proceed_quiet _ usb works quiet
  unfold Program.enter
  split
  · rename_i proceeded
    rw [proceeded] at silent same
    exact ⟨silent, waits, same⟩
  · rename_i proceeded
    rw [proceeded] at silent left same
    refine ⟨silent, fun other inside => ?_, same⟩
    obtain rfl | inside := List.mem_cons.mp inside
    · exact left
    · exact waits other inside

/-- Other calls than the completion of an OUT report nothing, and one of them registers. -/
theorem call_quiet {call : Call κ} (other : ∀ generation error, call ≠ .completeOut generation error) :
    reports (usb.call call).2.1 = [] ∧ Quiet (usb.call call).2.2 ∧
      (usb.call call).1.backend.outCompletedCallback =
        nextRegistered (.call call) usb.backend.outCompletedCallback := by
  -- a call that only changes the state leaves it as it is where it is refused
  have settled (result : Except GError (Stack κ)) (noted : List (Noted κ))
      (silent : reports noted = [])
      (same : ∀ after, result = .ok after →
        after.backend.outCompletedCallback = usb.backend.outCompletedCallback) :
      reports (usb.settle result noted).2.1 = [] ∧ Quiet (usb.settle result noted).2.2 ∧
        (usb.settle result noted).1.backend.outCompletedCallback =
          usb.backend.outCompletedCallback := by
    cases result with
    | error error => exact ⟨rfl, by simp [Stack.settle, Quiet], rfl⟩
    | ok after => exact ⟨silent, by simp [Stack.settle, Quiet], same after rfl⟩
  cases call with
  | beginGeneration generation =>
    refine settled _ _ rfl fun after result => ?_
    obtain ⟨backend, begun, rfl⟩ := map_ok result
    unfold Backend.beginGeneration at begun
    split at begun <;> cases begun
    rfl
  | beginRouterGeneration generation => exact ⟨rfl, by simp [Stack.call, Quiet], rfl⟩
  | armReceive generation =>
    refine settled _ _ rfl fun after armed => ?_
    unfold Stack.armReceive at armed
    split at armed
    · cases armed
    · split at armed <;> cases armed
      rfl
  | beginPreSessionSync generation =>
    refine settled _ _ rfl fun after result => ?_
    obtain ⟨backend, begun, rfl⟩ := map_ok result
    unfold Backend.beginPreSessionSync at begun
    split at begun <;> cases begun
    rfl
  | armPreSessionSyncReceive generation timeoutMs =>
    refine settled _ _ rfl fun after result => ?_
    obtain ⟨backend, armed, rfl⟩ := map_ok result
    unfold Backend.armPreSessionSyncReceive at armed
    split at armed <;> cases armed
    rfl
  | endPreSessionSync generation =>
    refine settled _ _ rfl fun after result => ?_
    obtain ⟨backend, ended, rfl⟩ := map_ok result
    unfold Backend.endPreSessionSync at ended
    split at ended <;> cases ended
    rfl
  | submitOut generation bytes =>
    refine settled _ _ rfl fun after result => ?_
    obtain ⟨backend, submitted, rfl⟩ := map_ok result
    unfold Backend.submitOut at submitted
    split at submitted
    · cases submitted
    · split at submitted <;> cases submitted
      rfl
  | completeReceive submitGeneration completion =>
    simp only [Stack.call]
    split
    · exact ⟨rfl, by simp [Quiet], rfl⟩
    · rename_i backend purpose taken
      have same : backend.outCompletedCallback = usb.backend.outCompletedCallback := by
        unfold Backend.takeReceive at taken
        split at taken <;> cases taken
        rfl
      split
      · split
        · exact ⟨rfl, by simp [Quiet, Work.reports], same⟩
        · exact ⟨rfl, by simp [Quiet, Work.reports], same⟩
      · exact ⟨rfl, by simp [Quiet, Work.reports], same⟩
  | completeOut generation error => exact absurd rfl (other generation error)
  | cancel =>
    simp only [Stack.call]
    split
    · exact ⟨rfl, by simp [Quiet], rfl⟩
    · exact ⟨rfl, by simp [Quiet, Work.reports], rfl⟩
  | setOutCompletedCallback callback => exact ⟨rfl, by simp [Stack.call, Quiet], rfl⟩

/-- The backend knows the callback that was registered, and no call that waits owes a report. -/
structure Registers (actions : List (Action (Call κ))) (waiting : Waiting (Stack κ) Work) : Prop where
  callback : waiting.state.backend.outCompletedCallback = registered actions
  quiet : ∀ works ∈ waiting.stack, Quiet works

/-- The completion of an OUT is reported at once, if somebody is registered. -/
theorem completeOut_reports {actions : List (Action (Call κ))} {waiting : Waiting (Stack κ) Work}
    {log : List (Noted κ)} (registers : Registers actions waiting)
    (flight : (wireOf log).outFlight =
      if waiting.state.backend.outOutstanding = 0 then none
      else some waiting.state.backend.outGeneration) (generation : Nat) (error : Option GError) :
    let stepped := Stack.program.step waiting (.call (.completeOut generation error))
    reports stepped.2 = dueReport log (registered actions) (.call (.completeOut generation error)) ∧
      Registers (actions ++ [.call (.completeOut generation error)]) stepped.1 := by
  have unregistered : registered (actions ++ [.call (.completeOut generation error)]) =
      registered actions := registered_concat ..
  cases taken : waiting.state.backend.takeOut generation with
  | none =>
    -- an OUT of that generation is not in flight: nothing is due, and the call is refused
    have stays : Stack.program.step waiting (.call (.completeOut generation error)) = (waiting, []) := by
      simp [Program.step, Stack.program, Stack.call, taken, Program.enter, Program.proceed]
    have away : (wireOf log).outFlight ≠ some generation := by
      unfold Backend.takeOut at taken
      split at taken
      · rename_i refused
        rw [flight]
        split
        · simp
        · rename_i outstanding
          have differs := refused.resolve_left outstanding
          simpa using Ne.symm differs
      · cases taken
    simp only [stays, dueReport, if_neg away]
    exact ⟨rfl, ⟨registers.callback.trans unregistered.symm, registers.quiet⟩⟩
  | some backend =>
    have here : (wireOf log).outFlight = some generation ∧
        backend.outCompletedCallback = registered actions := by
      unfold Backend.takeOut at taken
      split at taken
      · cases taken
      · rename_i accepted
        rw [not_or, Decidable.not_not] at accepted
        cases taken
        exact ⟨by rw [flight, if_neg accepted.1, accepted.2], registers.callback⟩
    obtain ⟨same, callback⟩ := here
    have entered : Stack.program.step waiting (.call (.completeOut generation error)) =
        ((Stack.program.enter { waiting.state with backend } waiting.stack
          [.outCompleted generation error, .notifyDrained]).1,
        .acceptedOut generation :: (Stack.program.enter { waiting.state with backend } waiting.stack
          [.outCompleted generation error, .notifyDrained]).2) := by
      simp [Program.step, Stack.program, Stack.call, taken]
    -- the report comes first, and only the notification of a drain is left behind it
    have rest : Quiet [.notifyDrained] := by simp [Quiet, Work.reports]
    simp only [entered, dueReport, if_pos same]
    cases known : registered actions with
    | none =>
      rw [known] at callback unregistered
      have silent : Stack.program.enter { waiting.state with backend } waiting.stack
          [.outCompleted generation error, .notifyDrained] =
          Stack.program.enter { waiting.state with backend } waiting.stack [.notifyDrained] := by
        simp [Program.enter, Program.proceed, Stack.program, Stack.turn, callback]
      rw [silent]
      have quiet := @enter_quiet _ { waiting.state with backend } _ _ rest registers.quiet
      refine ⟨?_, quiet.2.2.trans (callback.trans unregistered.symm), quiet.2.1⟩
      simpa [reports] using quiet.1
    | some owner =>
      rw [known] at callback unregistered
      have waits : Stack.program.enter { waiting.state with backend } waiting.stack
          [.outCompleted generation error, .notifyDrained] =
          (⟨{ waiting.state with backend }, [.notifyDrained] :: waiting.stack⟩,
            [.outCompleted owner generation error]) := by
        simp [Program.enter, Program.proceed, Stack.program, Stack.turn, callback]
      rw [waits]
      refine ⟨rfl, callback.trans unregistered.symm, fun works inside => ?_⟩
      obtain rfl | inside := List.mem_cons.mp inside
      · exact rest
      · exact registers.quiet works inside

/-- One action reports what is due, no more and no less. -/
theorem step_reports {actions : List (Action (Call κ))} {waiting : Waiting (Stack κ) Work}
    {log : List (Noted κ)} (registers : Registers actions waiting)
    (flight : (wireOf log).outFlight =
      if waiting.state.backend.outOutstanding = 0 then none
      else some waiting.state.backend.outGeneration) (action : Action (Call κ)) :
    reports (Stack.program.step waiting action).2 = dueReport log (registered actions) action ∧
      Registers (actions ++ [action]) (Stack.program.step waiting action).1 := by
  cases action with
  | returned =>
    have unregistered : registered (actions ++ [.returned]) = registered actions :=
      registered_concat ..
    simp only [Program.step]
    split
    · exact ⟨rfl, registers.callback.trans unregistered.symm, registers.quiet⟩
    -- a return takes up the work on the top of the stack, which owes no report
    · rename_i works stack waits
      have quiet := @enter_quiet _ waiting.state stack works
        (registers.quiet works (waits ▸ List.mem_cons_self ..))
        fun left inside => registers.quiet left (waits ▸ List.mem_cons_of_mem _ inside)
      exact ⟨quiet.1, quiet.2.2.trans (registers.callback.trans unregistered.symm), quiet.2.1⟩
  | call call =>
    by_cases completes : ∃ generation error, call = .completeOut generation error
    · obtain ⟨generation, error, rfl⟩ := completes
      exact completeOut_reports registers flight generation error
    · have other : ∀ generation error, call ≠ .completeOut generation error :=
        fun generation error same => completes ⟨generation, error, same⟩
      obtain ⟨silent, quiet, callback⟩ := @call_quiet _ waiting.state call other
      have entered := @enter_quiet _ (waiting.state.call call).1 waiting.stack
        (waiting.state.call call).2.2 quiet registers.quiet
      have due : dueReport log (registered actions) (.call call) = [] := by
        cases call with
        | completeOut generation error => exact absurd rfl (other generation error)
        | _ => rfl
      have known : registered (actions ++ [.call call]) =
          nextRegistered (.call call) waiting.state.backend.outCompletedCallback := by
        rw [registered_concat, registers.callback]
      refine ⟨?_, entered.2.2.trans (callback.trans known.symm), entered.2.1⟩
      rw [due]
      show reports ((waiting.state.call call).2.1 ++ _) = []
      rw [reports_append, silent]
      exact entered.1

end Reports

/-! ## Every run -/

theorem run_fences (actions : List (Action (Call κ))) :
    Lawful (Machines.run (@Stack.program κ).step ⟨Stack.new, []⟩ actions).2 ∧
      Fences (wireOf (Machines.run (@Stack.program κ).step ⟨Stack.new, []⟩ actions).2)
        (Machines.run (@Stack.program κ).step ⟨Stack.new, []⟩ actions).1.state
        (Machines.run (@Stack.program κ).step ⟨Stack.new, []⟩ actions).1.stack.flatten :=
  @Program.run_invariant _ _ _ _ (@Stack.program κ)
    (fun log usb owed => Lawful log ∧ Fences (wireOf log) usb owed)
    (fun log usb work owed holds => by
      have ⟨admits, after⟩ := holds.2.turn
      exact ⟨holds.1.append _ admits, by rw [wireOf_append]; exact after⟩)
    (fun log usb call owed holds => by
      have ⟨admits, after⟩ := holds.2.call call
      exact ⟨holds.1.append _ admits, by rw [wireOf_append]; exact after⟩)
    Stack.new ⟨justified_nil _, fences_new⟩ actions

theorem run_registers (actions : List (Action (Call κ))) :
    Registers actions (Machines.run (@Stack.program κ).step ⟨Stack.new, []⟩ actions).1 := by
  induction actions using List.reverseRecOn with
  | nil => exact ⟨rfl, by simp [Machines.run]⟩
  | append_singleton actions action ih =>
    rw [Machines.run_concat]
    exact (step_reports ih (run_fences actions).2.outFlight action).2

/-- A log is lawful; every action makes the reports that are due, and no others; and where no call
waits any more a fence that has drained was notified. -/
theorem usb_fence_safety (actions : List (Action (Call κ))) :
    let ran := Machines.run (@Stack.program κ).step ⟨Stack.new, []⟩ actions
    Lawful ran.2 ∧
      (∀ action, reports (Machines.run (@Stack.program κ).step ⟨Stack.new, []⟩
          (actions ++ [action])).2 =
        reports ran.2 ++ dueReport ran.2 (registered actions) action) ∧
      (ran.1.stack = [] → (wireOf ran.2).fenced = true → (wireOf ran.2).inFlight = none →
        (wireOf ran.2).outFlight = none → (wireOf ran.2).drained = true) := by
  intro ran
  have kept := run_fences actions
  refine ⟨kept.1, fun action => ?_, fun idle fenced noIn noOut => ?_⟩
  · rw [Machines.run_concat, reports_append]
    exact congrArg _ (step_reports (run_registers actions) kept.2.outFlight action).1
  have fences : Fences (wireOf ran.2) ran.1.state [] := by
    have all := kept.2
    rwa [idle] at all
  rw [fences.inFlight] at noIn
  rw [fences.outFlight] at noOut
  have drained : ran.1.state.backend.isDrained = true :=
    isDrained_iff.mpr ⟨by simpa using noIn, by simpa using noOut⟩
  rw [fences.drained]
  by_contra unnotified
  -- the callback would still be owed, but no work is left
  have owed := fences.owes (by
    simp only [Backend.mustNotifyDrained, decide_eq_true_eq]
    exact ⟨fences.fenced ▸ fenced, drained, by simpa using unnotified⟩)
  cases owed

/-- What a user does who has one OUT callback, sends an OUT and fences its generation. -/
def fencedSend : List (Action (Call Unit)) :=
  [.call (.setOutCompletedCallback (some ())), .call (.beginGeneration 1),
    .call (.submitOut 1 []), .call .cancel, .call (.completeOut 1 none)]

/-- The OUT of a fenced generation reaches its callback; and a callback that begins the next
generation right there leaves the fenced one without its drained callback. -/
theorem fenced_out_is_reported :
    (Machines.run Stack.program.step ⟨Stack.new, []⟩ fencedSend).2 =
        [.begun 1, .submittedOut 1 [], .fenced, .acceptedOut 1, .outCompleted () 1 none] ∧
      let ran := Machines.run Stack.program.step ⟨Stack.new, []⟩
        (fencedSend ++ [.call (.beginGeneration 2), .returned])
      ran.1.stack = [] ∧
        ran.2 = [.begun 1, .submittedOut 1 [], .fenced, .acceptedOut 1, .outCompleted () 1 none,
          .begun 2] :=
  ⟨rfl, rfl, rfl⟩

end Goodix.Usb
