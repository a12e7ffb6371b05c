import Goodix.DeviceContext.Completions

/-! # The activation in every run

What a step makes of an activation that is not answered yet, and the calls of the
components and of the main loop.
-/

namespace Goodix.DeviceContext

open Usb Monitors

section

variable {device : Device} {context changed : Context} {answers : Answers} {outcome : Outcome}
  {owed : List Piece}

theorem disconnect_eq (context : Context) :
    ∃ handler, context.disconnectCancelHandler = { context with cancelHandler := handler } := by
  unfold Context.disconnectCancelHandler
  split
  · exact ⟨false, rfl⟩
  · exact ⟨context.cancelHandler, rfl⟩

theorem late_append {pieces : List Piece} (first : pieces.all Piece.isLate = true)
    (second : owed.all Piece.isLate = true) : (pieces ++ owed).all Piece.isLate = true := by
  rw [List.all_append, first, second]
  rfl

theorem waiting_append {pieces : List Piece} (first : pieces.all Piece.isWaiting = true)
    (second : owed.all Piece.isWaiting = true) : (pieces ++ owed).all Piece.isWaiting = true := by
  rw [List.all_append, first, second]
  rfl

theorem inert_append {pieces : List Piece} (first : pieces.all Piece.isInert = true)
    (second : owed.all Piece.isInert = true) : (pieces ++ owed).all Piece.isInert = true := by
  rw [List.all_append, first, second]
  rfl

theorem Piece.isWaiting_of_isLate {piece : Piece} (late : piece.isLate = true)
    (started : piece ≠ .secureSessionStarted) (arms : piece ≠ .emitArmComplete) :
    piece.isWaiting = true := by
  cases piece with
  | secureSessionStarted => exact absurd rfl started
  | emitArmComplete => exact absurd rfl arms
  | _ => first | rfl | cases late

theorem plain_of_late (late : owed.all Piece.isLate = true) : owed.all Piece.isPlain = true :=
  all_imp Piece.isPlain_of_isLate late

/-! ## The answers -/

/-- An activation is answered with an error. -/
theorem Continues.refuse {error : GError} (awaited : answers.awaited = true)
    (agrees : ∀ failure, answers.failure = some failure → error = failure)
    (cancelIdles : device.activationCancelIdles = 0) (follows : Follows answers device)
    (settled : ∀ context, device.context = some context →
      context.state ≠ .activating ∧ context.state ≠ .active)
    (plain : owed.all Piece.isPlain = true) :
    Continues answers (device.activateComplete (some error)) owed := by
  have follows' : Follows { answers with awaited := false } device :=
    ⟨follows.openIdles, follows.closeIdles, fun context present =>
      { follows.contexts context present with }⟩
  have rests : Rests { answers with awaited := false } device :=
    ⟨rfl, cancelIdles, fun context present => (settled context present).1,
      fun context present active => absurd active (settled context present).2⟩
  unfold Device.activateComplete
  dsimp only
  split
  · exact ⟨⟨⟨awaited, agrees⟩, trivial⟩, follows', .answered rests (plain_append rfl plain)⟩
  · exact ⟨⟨⟨awaited, agrees⟩, trivial, trivial⟩,
      ⟨follows'.openIdles, follows'.closeIdles, follows'.contexts⟩,
      .answered ⟨rfl, cancelIdles, rests.settled, rests.active⟩ (plain_append rfl plain)⟩

/-- The protocol is armed. -/
theorem Works.arms (works : Works answers device) (follows : Follows answers device)
    (failure : answers.failure = none) (present : device.context = some context)
    (activating : context.state = .activating) (unfenced : context.terminalFence = false)
    (current : context.generation ≠ 0) (late : owed.all Piece.isLate = true) :
    Continues answers (device.emitArmComplete context) owed := by
  have fits := follows.contexts context present
  have open' : answers.fenced = false := by
    by_contra fenced
    have closed := fits.fenced (by simpa using fenced)
    rw [unfenced] at closed
    cases closed
  have idle : context.deactivationPending = false := by
    by_contra pending
    have departs := (fits.leaving (by simpa using pending)).1
    rw [activating] at departs
    cases departs
  obtain ⟨handler, same⟩ := disconnect_eq context
  have awaits := works.awaits
  unfold Device.emitArmComplete
  rw [if_neg (by simp [Context.isStaleOrFenced, unfenced, current, activating]), same]
  unfold Device.activateComplete
  dsimp only
  rw [if_neg (by simp [Device.put, awaits.inactive, awaits.activating, awaits.captures])]
  refine ⟨⟨⟨works.awaited, open', failure⟩, trivial⟩, ⟨follows.openIdles, follows.closeIdles,
    fun other present => ?_⟩, .answered ⟨rfl, works.cancelIdles, fun other present => ?_,
      fun other present _ => rfl⟩ (plain_append rfl (plain_of_late late))⟩
  · cases present
    exact {
      fenced := fits.fenced
      leaving := fun pending => by
        have pending : context.deactivationPending = true := pending
        rw [idle] at pending
        cases pending
      departs := by simp
      closing := fits.closing }
  · cases present
    simp

/-! ## The pieces of a chain behind a fence -/

theorem Rests.protocolFailed {reception : Reception} {error : GError} (rests : Rests answers device)
    (follows : Follows answers device) (couples : Couples reception context)
    (present : device.context = some context) (plain : owed.all Piece.isPlain = true) :
    Continues answers (device.protocolFailed context error) owed := by
  have fits := follows.contexts context present
  have settled := rests.settled context present
  unfold Device.protocolFailed
  dsimp only
  rw [if_neg (by simp [Context.setPoisoned, couples.noLogin.1, couples.noLogin.2.2])]
  split
  · rename_i ends
    have active : context.state = .active := ends.resolve_left settled
    obtain ⟨handler, same⟩ := disconnect_eq (context.setPoisoned (some error))
    unfold Device.emitTerminal
    rw [same]
    have fenced : Context.Follows { answers with fenced := true } {
        context.setPoisoned (some error) with
        cancelHandler := handler, terminalFence := true } :=
      fits.fence answers.failure rfl rfl rfl rfl
    have rests' : Rests { answers with fenced := true }
        (device.put { context.setPoisoned (some error) with
          cancelHandler := handler, terminalFence := true }) :=
      rests.put rests.answered settled (rests.active context present)
    refine ⟨⟨trivial, trivial⟩, follows.put fenced, .ended rests' ?_
      (show [Piece.cancelling, .cancelBackend].all Piece.isInert = true from rfl) plain⟩
    intro other same
    cases same
    exact ⟨rfl, active⟩
  · refine rests.continues follows (.put present ?_ rfl rfl) plain
    exact { Context.Alike.rfl with }

theorem Rests.emittedTerminal {error : GError} (rests : Rests answers device)
    (follows : Follows answers device) (present : device.context = some context)
    (active : context.state = .active) (plain : owed.all Piece.isPlain = true) :
    Continues answers (device.emittedTerminal context error) owed := by
  have fits := follows.contexts context present
  have running := rests.active context present active
  have idle : context.deactivationPending = false := by
    by_contra pending
    have departs := (fits.leaving (by simpa using pending)).1
    rw [active] at departs
    cases departs
  have follows' : Follows answers (device.put { context.setPoisoned (some error) with
      generation := 0, state := .poisoned }) :=
    follows.put {
      fenced := fits.fenced
      leaving := fun pending => by
        have pending : context.deactivationPending = true := pending
        rw [idle] at pending
        cases pending
      departs := by simp
      closing := fits.closing }
  have rests' : Rests answers (device.put { context.setPoisoned (some error) with
      generation := 0, state := .poisoned }) := rests.put rests.answered (by simp) (by simp)
  unfold Device.emittedTerminal
  dsimp only
  rw [if_neg (by simp [Context.setPoisoned, active])]
  unfold Device.sessionError
  dsimp only
  rw [if_neg (by simp [Device.put, running])]
  split
  · exact .silent rfl follows' (.answered rests' (plain_append rfl plain))
  split <;> exact .silent rfl follows' (.answered rests' (plain_append rfl plain))

/-! ## The driver is at work -/

/-- Whatever is prepared, the deactivation rests. -/
theorem Follows.idle (follows : Follows answers device) (present : device.context = some context)
    (other : context.state ≠ .deactivating) : context.deactivationPending = false := by
  by_contra pending
  exact other ((follows.contexts context present).leaving (by simpa using pending)).1

theorem Advances.waiting (follows : Follows answers device)
    (inactive : device.framework.active = false)
    (idle : ∀ context, device.context = some context → context.deactivationPending = false)
    {piece : Piece} (waiting : piece.isWaiting = true) :
    Advances device (Goodix.DeviceContext.perform device piece) := by
  cases piece with
  | usbDrained =>
    exact .calm (.usbDrained fun context present =>
      ⟨idle context present, (follows.contexts context present).closing⟩)
  | frameworkDeactivate cancelling => exact .calm (.frameworkDeactivate inactive cancelling)
  | _ => exact .perform waiting (by simp) (by simp)

/-- Without a context nothing happens. -/
theorem Calm.without (absent : device.context = none) {function : Context → Outcome} :
    Calm device (device.withContext function) := by
  unfold Device.withContext
  rw [absent]
  exact .same rfl rfl

/-- What is inert runs, and the chain goes on behind it. -/
theorem Follows.inert (follows : Follows answers device) {piece : Piece}
    (inert : piece.isInert = true)
    (fenced : ∀ context, device.context = some context →
      context.terminalFence = true ∧ context.state ≠ .deactivating) :
    Calm device (perform device piece) ∧ (perform device piece).2.2.all Piece.isInert = true :=
  inert_perform inert fun context present => ⟨(fenced context present).1,
    follows.idle present (fenced context present).2, (follows.contexts context present).closing⟩

theorem Works.fails (works : Works answers device) (follows : Follows answers device)
    (present : device.context = some context)
    (activating : context.state = .activating) (error : GError)
    (late : owed.all Piece.isLate = true) :
    Continues answers (device.setTerminalFence context [.failed error] [.protocolFailed error])
      owed where
  admits := ⟨trivial, trivial, trivial⟩
  follows := follows.put ((follows.contexts context present).fence (some error) rfl rfl rfl rfl)
  phase := by
    have works' : Works { answers with fenced := true, failure := some error }
        (device.put { context with terminalFence := true }) :=
      ⟨works.awaited, works.cancelIdles, works.awaits⟩
    exact .failing works' rfl _ rfl activating rfl (.inl rfl)
      (show [Piece.cancelling, .cancelBackend].all Piece.isInert = true from rfl) late

/-- A part of the preparation, whatever comes of it. -/
theorem Works.advances (works : Works answers device) (follows : Follows answers device)
    (failure : answers.failure = none) (present : device.context = some context)
    (activating : context.state = .activating) (unfenced : context.terminalFence = false)
    (current : context.generation ≠ 0) (bare : context.IsBare) (advances : Advances device outcome)
    (waiting : owed.all Piece.isWaiting = true) : Continues answers outcome owed := by
  cases advances with
  | calm calm =>
    obtain ⟨changed, later, alike⟩ := calm.later present
    exact .silent calm.silent (follows.still calm.toStill) (.prepares (works.calm calm) failure
      changed later (alike.state.trans activating) (alike.fence.trans unfenced)
      (alike.current activating current) (.inl ⟨alike.bare bare,
        waiting_append calm.waiting waiting⟩))
  | fails other error same _ shape =>
    rw [present] at same
    cases same
    rw [shape]
    exact works.fails follows present activating error
      (all_imp Piece.isLate_of_isWaiting waiting)
  | builds other changed pieces same _ _ keeps shape building =>
    rw [present] at same
    cases same
    rw [shape]
    exact .silent rfl (follows.put ((follows.contexts context present).keeps keeps))
      (.prepares ⟨works.awaited, works.cancelIdles, works.awaits⟩ failure changed rfl
        (keeps.state.trans activating) (keeps.fence.trans unfenced)
        (keeps.current activating current)
        (.inr (building.append (all_imp Piece.isLate_of_isWaiting waiting))))

/-- The secure graph is built. -/
theorem Works.builds {reception : Reception} (works : Works answers device)
    (follows : Follows answers device) (failure : answers.failure = none)
    (couples : Couples reception context) (present : device.context = some context)
    (activating : context.state = .activating) (unfenced : context.terminalFence = false)
    (current : context.generation ≠ 0) {piece : Piece} (building : Building (piece :: owed)) :
    Continues answers (perform device piece) owed := by
  have prepares {owed : List Piece} (building : Building owed) : Phase answers device owed :=
    .prepares works failure context present activating unfenced current (.inr building)
  have within {function : Context → Outcome}
      (continues : Continues answers (function context) owed) :
      Continues answers (device.withContext function) owed := by
    unfold Device.withContext
    rw [present]
    exact continues
  cases building with
  | starting late => exact .silent rfl follows (prepares (.started late))
  | started late =>
    refine within ?_
    unfold Device.secureSessionStarted
    split
    · exact .silent rfl follows (prepares (.cancelling late))
    unfold Device.armReceive
    split
    · exact .silent rfl follows (prepares (.cancelling late))
    · rename_i usb _
      rw [if_neg (by simp [couples.noLogin.1])]
      exact .silent rfl
        (follows.put ((follows.contexts context present).keeps (alike_usb context usb).keeps))
        (.prepares ⟨works.awaited, works.cancelIdles, works.awaits⟩ failure _ rfl activating
          unfenced current (.inr (.arms late)))
  | cancelling late => exact .silent rfl follows (prepares (.fails late))
  | fails late =>
    refine within ?_
    unfold Device.protocolFailure
    rw [if_neg (by simp [unfenced])]
    exact works.fails follows present activating _ late
  | arms late => exact within (works.arms follows failure present activating unfenced current late)

/-- The end of a chain that fails an activation. -/
theorem Works.chain {reception : Reception} {piece : Piece} {error : GError}
    (works : Works answers device) (follows : Follows answers device)
    (failure : answers.failure = some error) (couples : Couples reception context)
    (present : device.context = some context) (activating : context.state = .activating)
    (fails : piece = .protocolFailed error ∨ piece = .emittedTerminal error)
    (late : owed.all Piece.isLate = true) : Continues answers (perform device piece) owed := by
  have fits := follows.contexts context present
  have within {function : Context → Outcome}
      (continues : Continues answers (function context) owed) :
      Continues answers (device.withContext function) owed := by
    unfold Device.withContext
    rw [present]
    exact continues
  rcases fails with rfl | rfl
  · refine within ?_
    unfold Device.protocolFailed
    dsimp only
    rw [if_neg (by simp [Context.setPoisoned, couples.noLogin.1, couples.noLogin.2.2]),
      if_pos (.inl activating)]
    obtain ⟨handler, same⟩ := disconnect_eq (context.setPoisoned (some error))
    unfold Device.emitTerminal
    rw [same]
    have fenced : Context.Follows { answers with fenced := true }
        { context.setPoisoned (some error) with cancelHandler := handler, terminalFence := true } :=
      fits.fence answers.failure rfl rfl rfl rfl
    have works' : Works { answers with fenced := true }
        (device.put { context.setPoisoned (some error) with
          cancelHandler := handler, terminalFence := true }) :=
      ⟨works.awaited, works.cancelIdles, works.awaits⟩
    exact ⟨⟨trivial, trivial⟩, follows.put fenced, .failing works' failure _ rfl activating rfl
      (.inr rfl) (show [Piece.cancelling, .cancelBackend].all Piece.isInert = true from rfl) late⟩
  · refine within ?_
    unfold Device.emittedTerminal
    dsimp only
    rw [if_pos (by simp [Context.setPoisoned, activating])]
    have idle := follows.idle present (by rw [activating]; decide)
    have follows' : Follows answers (device.put { context.setPoisoned (some error) with
        generation := 0, state := .inactive }) :=
      follows.put {
        fenced := fits.fenced
        leaving := fun pending => by
          have pending : context.deactivationPending = true := pending
          rw [idle] at pending
          cases pending
        departs := by simp
        closing := fits.closing }
    refine .refuse works.awaited (fun other same => ?_) works.cancelIdles follows'
      (fun other same => ?_) (plain_of_late late)
    · rw [failure] at same
      exact Option.some.inj same
    · cases same
      exact ⟨by simp, by simp⟩

/-- The cancellation is left to the main loop. -/
theorem Works.cancelled (works : Works answers device) (follows : Follows answers device)
    (failure : answers.failure = none) (present : device.context = some context)
    (activating : context.state = .activating) (fenced : context.terminalFence = true)
    (bare : context.IsBare) : Continues answers (perform device .activationCancelled) [] := by
  have fits := follows.contexts context present
  have idle := follows.idle present (by rw [activating]; decide)
  show Continues answers (device.withContext device.activationCancelled) []
  unfold Device.withContext
  rw [present]
  refine .silent rfl ⟨follows.openIdles, follows.closeIdles, fun other same => ?_⟩
    (.cancelled works.awaited failure ?_ works.awaits _ rfl rfl fenced bare rfl)
  · cases same
    exact {
      fenced := fits.fenced
      leaving := fun pending => by
        have pending : context.deactivationPending = true := pending
        rw [idle] at pending
        cases pending
      departs := by simp
      closing := fits.closing }
  · show device.activationCancelIdles + 1 ≤ 1
    rw [works.cancelIdles]

/-! ## The driver is asked -/

theorem Asks.activate {reception : Reception} (asks : Asks answers device)
    (activating : device.framework.state = .activating) (follows : Follows answers device)
    (production : device.production = true) (couples : Couples reception context)
    (present : device.context = some context) :
    Continues answers (device.activate context) [] := by
  have fits := follows.contexts context present
  have settled := asks.settled context present
  have failure (error : GError) : ∀ failure, answers.failure = some failure → error = failure :=
    fun failure same => by rw [asks.failure] at same; cases same
  have leaving {changed : Context} (prepares : context.Prepares changed)
      (pending : changed.deactivationPending = true) :
      changed.state = .deactivating ∧ answers.leaving = true := by
    rw [prepares.state]
    exact fits.leaving (prepares.pending pending)
  cases Activates.activate production couples present with
  | aborts same =>
    rw [same]
    exact .silent rfl follows .aborted
  | refuses changed noted error prepares silent same =>
    rw [same]
    refine admits_behind silent (.refuse asks.awaited (failure error) asks.cancelIdles
      (follows.put ?_) (fun other same => ?_) rfl)
    · exact {
        fenced := fun fenced => prepares.fence (fits.fenced fenced)
        leaving := leaving prepares
        departs := fun departs => prepares.fence (fits.departs (prepares.state ▸ departs))
        closing := prepares.closing.trans fits.closing }
    · cases same
      rw [prepares.state]
      exact settled
  | begins prepared noted rested prepares bare silent same =>
    rw [same]
    refine admits_behind silent ?_
    have idle {changed : Context}
        (pending : changed.deactivationPending = prepared.deactivationPending) :
        changed.deactivationPending = false := by
      by_contra pends
      rw [pending] at pends
      exact rested (fits.leaving (prepares.pending (by simpa using pends))).1
    cases Begins.beginActivation production bare with
    | refused changed error same inactive fenced pending closing =>
      rw [same]
      refine .refuse asks.awaited (failure error) asks.cancelIdles (follows.put ?_)
        (fun other same => ?_) rfl
      · exact {
          fenced := fun _ => fenced
          leaving := fun pends => by rw [idle pending] at pends; cases pends
          departs := fun _ => fenced
          closing := closing.trans (prepares.closing.trans fits.closing) }
      · cases same
        rw [inactive]
        exact ⟨by simp, by simp⟩
    | begun changed generation noted pieces same begun unfenced pending closing current bare silent
        waiting =>
      rw [same]
      have fresh : Follows { answers with fenced := false } (device.put changed) :=
        follows.put {
          fenced := by simp
          leaving := fun pends => by rw [idle pending] at pends; cases pends
          departs := fun departs => by rw [begun] at departs; cases departs
          closing := closing.trans (prepares.closing.trans fits.closing) }
      have works : Works { answers with fenced := false } (device.put changed) :=
        ⟨asks.awaited, asks.cancelIdles, asks.captures, asks.inactive, asks.returning, activating,
          asks.scanless⟩
      have rest : Continues { answers with fenced := false } (device.put changed, noted, pieces)
          [] :=
        .silent silent fresh (.prepares works asks.failure changed rfl begun unfenced current
            (.inl ⟨bare, waiting_append waiting rfl⟩))
      exact ⟨⟨trivial, rest.admits⟩, rest.follows, rest.phase⟩

/-- The framework says that it activates. -/
theorem Asks.changeState (asks : Asks answers device) (follows : Follows answers device) :
    Continues answers (device.changeState .activating) [.activate] := by
  have still : Still device (device.changeState .activating) := .changeState _
  have state : (device.changeState .activating).1.framework =
      { device.framework with state := .activating } := by
    unfold Device.changeState Device.withContext
    dsimp only
    split
    · rfl
    · split <;> rfl
  refine .silent still.silent (follows.still still) ?_
  rw [changeState_activating]
  refine .activates ⟨asks.awaited, asks.failure, still.cancelIdles.trans asks.cancelIdles, ?_, ?_,
    ?_, ?_, fun changed present => ?_⟩ ?_
  · rw [state]
    exact asks.captures
  · rw [state]
    exact asks.inactive
  · rw [state]
    exact asks.returning
  · rw [state]
    exact asks.scanless
  · obtain ⟨context, before, alike⟩ := still.before present
    rw [alike.state]
    exact asks.settled context before
  · rw [state]

/-! ## Deactivation -/

theorem Rests.deactivate {reception : Reception} (rests : Rests answers device)
    (follows : Follows answers device) (leaving : answers.leaving = true)
    (couples : Couples reception context) (present : device.context = some context)
    (plain : owed.all Piece.isPlain = true) :
    Continues answers (device.deactivate context) owed := by
  have fits := follows.contexts context present
  unfold Device.deactivate
  split
  · exact rests.continues follows (.same rfl rfl) plain
  dsimp only
  obtain ⟨handler, same⟩ := disconnect_eq { context with
    terminalEnrollCompletionHeld := false
    state := .deactivating
    deactivationPending := true }
  rw [same]
  -- there is no login, so no series goes on
  rw [if_neg (by simp [Context.reusable, couples.noLogin.2.1])]
  exact ⟨⟨trivial, trivial⟩, follows.put {
      fenced := fun _ => rfl
      leaving := fun _ => ⟨rfl, leaving⟩
      departs := fun _ => rfl
      closing := fits.closing },
    .answered (rests.put rests.answered (by simp) (by simp)) (plain_append rfl plain)⟩

/-! ## A calm step above a chain -/

section

variable {above below : List Piece} {error : GError}

theorem Rests.failed (rests : Rests answers device) (follows : Follows answers device)
    (fenced : ∀ context, device.context = some context →
      context.terminalFence = true ∧ context.state ≠ .deactivating)
    (calm : Calm device outcome) (pushed : outcome.2.2.all Piece.isInert = true)
    (inert : above.all Piece.isInert = true) (plain : below.all Piece.isPlain = true) :
    Continues answers outcome (above ++ .protocolFailed error :: below) := by
  refine .silent calm.silent (follows.still calm.toStill) ?_
  rw [← List.append_assoc]
  refine .failed (rests.still calm.toStill) (fun changed present => ?_)
    (inert_append pushed inert) plain
  obtain ⟨context, before, alike⟩ := calm.before present
  rw [alike.fence, alike.state]
  exact fenced context before

theorem Rests.ended (rests : Rests answers device) (follows : Follows answers device)
    (fenced : ∀ context, device.context = some context →
      context.terminalFence = true ∧ context.state = .active)
    (calm : Calm device outcome) (pushed : outcome.2.2.all Piece.isInert = true)
    (inert : above.all Piece.isInert = true) (plain : below.all Piece.isPlain = true) :
    Continues answers outcome (above ++ .emittedTerminal error :: below) := by
  refine .silent calm.silent (follows.still calm.toStill) ?_
  rw [← List.append_assoc]
  refine .ended (rests.still calm.toStill) (fun changed present => ?_)
    (inert_append pushed inert) plain
  obtain ⟨context, before, alike⟩ := calm.before present
  rw [alike.fence, alike.state]
  exact fenced context before

theorem Works.failing {piece : Piece} (works : Works answers device)
    (follows : Follows answers device) (failure : answers.failure = some error)
    (present : device.context = some context) (activating : context.state = .activating)
    (fenced : context.terminalFence = true)
    (fails : piece = .protocolFailed error ∨ piece = .emittedTerminal error)
    (calm : Calm device outcome) (pushed : outcome.2.2.all Piece.isInert = true)
    (inert : above.all Piece.isInert = true) (late : below.all Piece.isLate = true) :
    Continues answers outcome (above ++ piece :: below) := by
  obtain ⟨changed, later, alike⟩ := calm.later present
  refine .silent calm.silent (follows.still calm.toStill) ?_
  rw [← List.append_assoc]
  exact .failing (works.calm calm) failure changed later (alike.state.trans activating)
    (alike.fence.trans fenced) fails (inert_append pushed inert) late

theorem Works.cancels (works : Works answers device) (follows : Follows answers device)
    (failure : answers.failure = none) (present : device.context = some context)
    (activating : context.state = .activating) (fenced : context.terminalFence = true)
    (bare : context.IsBare) (calm : Calm device outcome)
    (pushed : outcome.2.2.all Piece.isInert = true) (inert : above.all Piece.isInert = true) :
    Continues answers outcome (above ++ [.activationCancelled]) := by
  obtain ⟨changed, later, alike⟩ := calm.later present
  refine .silent calm.silent (follows.still calm.toStill) ?_
  rw [← List.append_assoc]
  exact .cancels (works.calm calm) failure changed later (alike.state.trans activating)
    (alike.fence.trans fenced) (alike.bare bare) (inert_append pushed inert)

theorem Works.void (works : Works answers device) (follows : Follows answers device)
    (absent : device.context = none) (calm : Calm device outcome)
    (late : owed.all Piece.isLate = true) : Continues answers outcome owed :=
  .silent calm.silent (follows.still calm.toStill) (.void (works.calm calm)
    (calm.toStill.absent absent)
    (late_append (all_imp Piece.isLate_of_isWaiting calm.waiting) late))

/-- The main loop is yet to answer. -/
theorem Follows.cancelled (follows : Follows answers device) (awaited : answers.awaited = true)
    (failure : answers.failure = none) (cancelIdles : device.activationCancelIdles ≤ 1)
    (awaits : device.framework.Awaits) (present : device.context = some context)
    (inactive : context.state = .inactive) (fenced : context.terminalFence = true)
    (bare : context.IsBare) (calm : Calm device outcome)
    (waiting : owed.all Piece.isWaiting = true) : Continues answers outcome owed := by
  obtain ⟨changed, later, alike⟩ := calm.later present
  exact .silent calm.silent (follows.still calm.toStill) (.cancelled awaited failure
    (by rw [calm.cancelIdles]; exact cancelIdles) (calm.awaits awaits) changed later
    (alike.state.trans inactive) (alike.fence.trans fenced) (alike.bare bare)
    (waiting_append calm.waiting waiting))

end

/-! ## Every piece -/

section

variable {reception : Reception} {piece : Piece} {above below : List Piece} {error : GError}

theorem Rests.withContext (rests : Rests answers device) (follows : Follows answers device)
    (plain : owed.all Piece.isPlain = true) {function : Context → Outcome}
    (continues : ∀ context, device.context = some context →
      Continues answers (function context) owed) :
    Continues answers (device.withContext function) owed := by
  cases found : device.context with
  | none => exact rests.continues follows (Calm.without found).toStill plain
  | some context =>
    unfold Device.withContext
    rw [found]
    exact continues context found

theorem Rests.performedFailed (rests : Rests answers device) (follows : Follows answers device)
    (couples : ∀ context, device.context = some context → Couples reception context)
    (fenced : ∀ context, device.context = some context →
      context.terminalFence = true ∧ context.state ≠ .deactivating)
    (inert : above.all Piece.isInert = true) (plain : below.all Piece.isPlain = true)
    (stack : piece :: owed = above ++ .protocolFailed error :: below) :
    Continues answers (perform device piece) owed := by
  cases above with
  | nil =>
    cases stack
    exact rests.withContext follows plain fun context present =>
      rests.protocolFailed follows (couples context present) present plain
  | cons first above =>
    rw [List.cons_append] at stack
    cases stack
    simp only [List.all_cons, Bool.and_eq_true] at inert
    obtain ⟨calm, pushed⟩ := follows.inert inert.1 fenced
    exact rests.failed follows fenced calm pushed inert.2 plain

theorem Rests.performedEnded (rests : Rests answers device) (follows : Follows answers device)
    (fenced : ∀ context, device.context = some context →
      context.terminalFence = true ∧ context.state = .active)
    (inert : above.all Piece.isInert = true) (plain : below.all Piece.isPlain = true)
    (stack : piece :: owed = above ++ .emittedTerminal error :: below) :
    Continues answers (perform device piece) owed := by
  cases above with
  | nil =>
    cases stack
    exact rests.withContext follows plain fun context present =>
      rests.emittedTerminal follows present (fenced context present).2 plain
  | cons first above =>
    rw [List.cons_append] at stack
    cases stack
    simp only [List.all_cons, Bool.and_eq_true] at inert
    obtain ⟨calm, pushed⟩ := follows.inert inert.1 fun context present =>
      ⟨(fenced context present).1, by rw [(fenced context present).2]; decide⟩
    exact rests.ended follows fenced calm pushed inert.2 plain

/-- The framework says that it deactivates. -/
theorem Rests.leaves (rests : Rests answers device) (follows : Follows answers device)
    (leaving : answers.leaving = true) (plain : below.all Piece.isPlain = true) :
    Continues answers (device.changeState .deactivating) (.deactivate :: below) := by
  have still : Still device (device.changeState .deactivating) := .changeState _
  have pushed : (device.changeState .deactivating).2.2 = [] := by
    unfold Device.changeState Device.withContext
    dsimp only
    split
    · rfl
    · rw [if_neg fun both => nomatch both.1]
  refine .silent still.silent (follows.still still) ?_
  rw [pushed]
  exact .left (rests.still still) leaving plain

theorem Asks.activates (asks : Asks answers device) (follows : Follows answers device)
    (activating : device.framework.state = .activating) (production : device.production = true)
    (couples : ∀ context, device.context = some context → Couples reception context) :
    Continues answers (device.withContext device.activate) [] := by
  cases found : device.context with
  | none =>
    unfold Device.withContext
    rw [found]
    exact .silent rfl follows (.void ⟨asks.awaited, asks.cancelIdles, asks.captures,
      asks.inactive, asks.returning, activating, asks.scanless⟩ found rfl)
  | some context =>
    unfold Device.withContext
    rw [found]
    exact asks.activate activating follows production (couples context found) found

/-- There is no context to prepare anything for. -/
theorem Works.performedVoid (works : Works answers device) (follows : Follows answers device)
    (absent : device.context = none) (late : (piece :: owed).all Piece.isLate = true) :
    Continues answers (perform device piece) owed := by
  simp only [List.all_cons, Bool.and_eq_true] at late
  refine works.void follows absent ?_ late.2
  cases piece with
  | secureSessionStarted | emitArmComplete => exact .without absent
  | _ =>
    have advances := Advances.waiting follows works.awaits.inactive
      (fun context present => by rw [absent] at present; cases present)
      (Piece.isWaiting_of_isLate late.1 (by simp) (by simp))
    cases advances with
    | calm calm => exact calm
    | fails context error present => rw [absent] at present; cases present
    | builds context changed pieces present => rw [absent] at present; cases present

theorem Works.performedPreparing (works : Works answers device) (follows : Follows answers device)
    (failure : answers.failure = none) (couples : Couples reception context)
    (present : device.context = some context) (activating : context.state = .activating)
    (unfenced : context.terminalFence = false) (current : context.generation ≠ 0)
    (owes : context.IsBare ∧ (piece :: owed).all Piece.isWaiting = true ∨
      Building (piece :: owed)) : Continues answers (perform device piece) owed := by
  cases owes with
  | inl settled =>
    obtain ⟨bare, waiting⟩ := settled
    simp only [List.all_cons, Bool.and_eq_true] at waiting
    refine works.advances follows failure present activating unfenced current bare
      (.waiting follows works.awaits.inactive (fun other same => ?_) waiting.1) waiting.2
    rw [present] at same
    cases same
    exact follows.idle present (by rw [activating]; decide)
  | inr building =>
    exact works.builds follows failure couples present activating unfenced current building

/-- What stands above the chain is inert, behind the fence of an activation. -/
theorem Follows.inertActivating (follows : Follows answers device)
    (present : device.context = some context) (activating : context.state = .activating)
    (fenced : context.terminalFence = true) (inert : piece.isInert = true) :
    Calm device (perform device piece) ∧ (perform device piece).2.2.all Piece.isInert = true :=
  follows.inert inert fun other same => by
    rw [present] at same
    cases same
    exact ⟨fenced, by rw [activating]; decide⟩

theorem Works.performedFailing {chain : Piece} (works : Works answers device)
    (follows : Follows answers device) (failure : answers.failure = some error)
    (couples : Couples reception context) (present : device.context = some context)
    (activating : context.state = .activating) (fenced : context.terminalFence = true)
    (fails : chain = .protocolFailed error ∨ chain = .emittedTerminal error)
    (inert : above.all Piece.isInert = true) (late : below.all Piece.isLate = true)
    (stack : piece :: owed = above ++ chain :: below) :
    Continues answers (perform device piece) owed := by
  cases above with
  | nil =>
    cases stack
    exact works.chain follows failure couples present activating fails late
  | cons first above =>
    rw [List.cons_append] at stack
    cases stack
    simp only [List.all_cons, Bool.and_eq_true] at inert
    obtain ⟨calm, pushed⟩ := follows.inertActivating present activating fenced inert.1
    exact works.failing follows failure present activating fenced fails calm pushed inert.2 late

theorem Works.performedCancels (works : Works answers device) (follows : Follows answers device)
    (failure : answers.failure = none) (present : device.context = some context)
    (activating : context.state = .activating) (fenced : context.terminalFence = true)
    (bare : context.IsBare) (inert : above.all Piece.isInert = true)
    (stack : piece :: owed = above ++ [.activationCancelled]) :
    Continues answers (perform device piece) owed := by
  cases above with
  | nil =>
    cases stack
    exact works.cancelled follows failure present activating fenced bare
  | cons first above =>
    rw [List.cons_append] at stack
    cases stack
    simp only [List.all_cons, Bool.and_eq_true] at inert
    obtain ⟨calm, pushed⟩ := follows.inertActivating present activating fenced inert.1
    exact works.cancels follows failure present activating fenced bare calm pushed inert.2

/-- Behind a cancelled activation nothing fails and nothing is built. -/
theorem Follows.calmCancelled (follows : Follows answers device)
    (awaits : device.framework.Awaits) (present : device.context = some context)
    (inactive : context.state = .inactive) (fenced : context.terminalFence = true)
    (waiting : piece.isWaiting = true) : Calm device (perform device piece) := by
  have advances := Advances.waiting follows awaits.inactive (fun other same => by
    rw [present] at same
    cases same
    exact follows.idle present (by rw [inactive]; decide)) waiting
  cases advances with
  | calm calm => exact calm
  | fails other error same unfenced =>
    rw [present] at same
    cases same
    rw [fenced] at unfenced
    cases unfenced
  | builds other changed pieces same activating =>
    rw [present] at same
    cases same
    rw [inactive] at activating
    cases activating

end

theorem Phase.performed {reception : Reception} {piece : Piece} (follows : Follows answers device)
    (production : device.production = true)
    (couples : ∀ context, device.context = some context → Couples reception context)
    (phase : Phase answers device (piece :: owed)) :
    Continues answers (perform device piece) owed := by
  generalize stack : piece :: owed = all at phase
  cases phase with
  | aborted =>
    cases stack
    exact .silent rfl follows .aborted
  | answered rests plain =>
    cases stack
    simp only [List.all_cons, Bool.and_eq_true] at plain
    exact rests.performed follows production couples plain.1 plain.2
  | failed rests fenced inert plain =>
    exact rests.performedFailed follows couples fenced inert plain stack
  | ended rests fenced inert plain => exact rests.performedEnded follows fenced inert plain stack
  | leaves rests leaving plain =>
    cases stack
    exact rests.leaves follows leaving plain
  | left rests leaving plain =>
    cases stack
    exact rests.withContext follows plain fun context present =>
      rests.deactivate follows leaving (couples context present) present plain
  | asked asks =>
    cases stack
    exact asks.changeState follows
  | activates asks activating =>
    cases stack
    exact asks.activates follows activating production couples
  | void works absent late =>
    cases stack
    exact works.performedVoid follows absent late
  | prepares works failure context present activating unfenced current owes =>
    cases stack
    exact works.performedPreparing follows failure (couples context present) present activating
      unfenced current owes
  | failing works failure context present activating fenced fails inert late =>
    exact works.performedFailing follows failure (couples context present) present activating fenced
      fails inert late stack
  | cancels works failure context present activating fenced bare inert =>
    exact works.performedCancels follows failure present activating fenced bare inert stack
  | cancelled awaited failure cancelIdles awaits context present inactive fenced bare waiting =>
    cases stack
    simp only [List.all_cons, Bool.and_eq_true] at waiting
    exact follows.cancelled awaited failure cancelIdles awaits present inactive fenced bare
      (follows.calmCancelled awaits present inactive fenced waiting.1) waiting.2

/-! ## The calls of the components -/

theorem Still.innerCall {reception : Reception} (couples : Couples reception context)
    (present : device.context = some context) {call : Call}
    (permitted : innerPermits context call = true) :
    Still device (Goodix.DeviceContext.call device call) := by
  have within {function : Context → Outcome} (still : Still device (function context)) :
      Still device (device.withContext function) := by
    unfold Device.withContext
    rw [present]
    exact still
  cases call with
  | outside outside => exact ⟨rfl, rfl, rfl, rfl, contexts_alike device, rfl, rfl⟩
  | submitOut owner bytes =>
    refine within ?_
    split
    · exact .same rfl rfl
    · exact (Calm.toStill (.callUsb present (by simp)))
  | setOutCompletedCallback callback => exact within (Calm.toStill (.callUsb present (by simp)))
  | armReceive => exact within (.armReceive present (fun _ => rfl) rfl)
  | protocolFailure error => exact .same rfl rfl
  | fingerDown => exact .same rfl rfl
  | releaseTail =>
    refine within (.put present ?_ rfl rfl)
    exact { Context.Alike.rfl with }
  | fingerUp =>
    refine within (.same rfl ?_)
    split <;> rfl
  | enrollmentFingerUp =>
    refine within ?_
    split
    · exact .same rfl rfl
    · refine .put present ?_ rfl rfl
      exact { Context.Alike.rfl with }
  | imageCaptured => exact .imageCaptured
  | rawImageCaptured scan =>
    refine within ?_
    split
    · exact .same rfl rfl
    · exact .rawImageCaptured scan
  | retryScan =>
    refine within ?_
    split
    · exact .same rfl rfl
    · exact .retryScan
  | holdEnrollCompletion =>
    refine within ?_
    split
    · exact .same rfl rfl
    · exact .holdEnrollCompletion present
  | releaseEnrollCompletion => exact within (.releaseEnrollCompletion present)
  | loginReady =>
    refine within ?_
    unfold Device.loginReady
    rw [if_pos (.inl couples.noLogin.1)]
    exact .same rfl rfl
  | livePreflightFinished => exact within (Calm.finishLivePreflight present).toStill
  | pairingReady => exact within (Calm.pairingReady present).toStill
  | lifecyclePhase phase =>
    refine within (.put present ?_ rfl rfl)
    exact { Context.Alike.rfl with bare := fun bare => ⟨by simp [bare.1], bare.2⟩ }
  | bindEnrollment =>
    refine within ?_
    split
    · exact .same rfl rfl
    · refine .put present ?_ rfl rfl
      exact { Context.Alike.rfl with
        bare := fun bare => by
          simp [innerPermits, componentPermits, startingPermits, cancellingPermits, bare.1]
            at permitted }
  | _ => cases permitted

/-- What a component owes that takes its first step or is cancelled. -/
theorem starting_pushes (device : Device) {call : Call}
    (permitted : startingPermits context call = true ∨ cancellingPermits context call = true) :
    (Goodix.DeviceContext.call device call).2.2 = [] ∨
      ∃ error, (Goodix.DeviceContext.call device call).2.2 = [.protocolFailure error] := by
  cases call with
  | protocolFailure error => exact .inr ⟨error, rfl⟩
  | outside => exact .inl rfl
  | submitOut owner bytes =>
    left
    unfold Goodix.DeviceContext.call Device.withContext
    dsimp only
    split
    · rfl
    split
    · rfl
    · simp only [Device.callUsb, Stack.call, Stack.settle]
      split <;> rfl
  | setOutCompletedCallback | lifecyclePhase =>
    left
    unfold Goodix.DeviceContext.call Device.withContext
    dsimp only
    split <;> rfl
  | armReceive =>
    left
    unfold Goodix.DeviceContext.call Device.withContext
    dsimp only
    split
    · rfl
    · unfold Device.armReceive
      split <;> rfl
  | _ => rcases permitted with permitted | permitted <;> cases permitted

section

variable {reception : Reception} {piece : Piece} {call : Call} {above below : List Piece}
  {error : GError}

/-- Whoever calls while something inert is on top is cancelled. -/
theorem piecePermits_inert (permitted : piecePermits device piece call = true)
    (inert : piece.isInert = true) : Calm device (Goodix.DeviceContext.call device call) ∧
      (Goodix.DeviceContext.call device call).2.2.all Piece.isInert = true := by
  cases piece with
  | cancelling =>
    obtain ⟨context, present, permitted⟩ := (Option.any_eq_true ..).mp permitted
    exact ⟨.startingCall (.inr permitted), inert_call permitted⟩
  | component | starting => cases inert
  | _ => cases permitted

theorem Calm.innerCall (permitted : piecePermits device piece call = true)
    (present : device.context = some context) (bare : context.IsBare) :
    Calm device (Goodix.DeviceContext.call device call) := by
  cases piece with
  | component => exact .componentCall bare (by simpa [piecePermits, present] using permitted)
  | starting => exact .startingCall (.inl (by simpa [piecePermits, present] using permitted))
  | cancelling => exact .startingCall (.inr (by simpa [piecePermits, present] using permitted))
  | _ => cases permitted

theorem Rests.calledFailed (rests : Rests answers device) (follows : Follows answers device)
    (permitted : piecePermits device piece call = true)
    (fenced : ∀ context, device.context = some context →
      context.terminalFence = true ∧ context.state ≠ .deactivating)
    (inert : above.all Piece.isInert = true) (plain : below.all Piece.isPlain = true)
    (stack : piece :: owed = above ++ .protocolFailed error :: below) :
    Continues answers (Goodix.DeviceContext.call device call)
      (above ++ .protocolFailed error :: below) := by
  cases above with
  | nil =>
    cases stack
    cases permitted
  | cons first above =>
    cases stack
    have both := inert
    simp only [List.all_cons, Bool.and_eq_true] at inert
    obtain ⟨calm, pushed⟩ := piecePermits_inert permitted inert.1
    exact rests.failed follows fenced calm pushed both plain

theorem Rests.calledEnded (rests : Rests answers device) (follows : Follows answers device)
    (permitted : piecePermits device piece call = true)
    (fenced : ∀ context, device.context = some context →
      context.terminalFence = true ∧ context.state = .active)
    (inert : above.all Piece.isInert = true) (plain : below.all Piece.isPlain = true)
    (stack : piece :: owed = above ++ .emittedTerminal error :: below) :
    Continues answers (Goodix.DeviceContext.call device call)
      (above ++ .emittedTerminal error :: below) := by
  cases above with
  | nil =>
    cases stack
    cases permitted
  | cons first above =>
    cases stack
    have both := inert
    simp only [List.all_cons, Bool.and_eq_true] at inert
    obtain ⟨calm, pushed⟩ := piecePermits_inert permitted inert.1
    exact rests.ended follows fenced calm pushed both plain

theorem Works.calledPreparing (works : Works answers device) (follows : Follows answers device)
    (permitted : piecePermits device piece call = true) (failure : answers.failure = none)
    (present : device.context = some context) (activating : context.state = .activating)
    (unfenced : context.terminalFence = false) (current : context.generation ≠ 0)
    (owes : context.IsBare ∧ (piece :: owed).all Piece.isWaiting = true ∨
      Building (piece :: owed)) :
    Continues answers (Goodix.DeviceContext.call device call) (piece :: owed) := by
  cases owes with
  | inl settled =>
    obtain ⟨bare, waiting⟩ := settled
    exact works.advances follows failure present activating unfenced current bare
      (.calm (.innerCall permitted present bare)) waiting
  | inr building =>
    have begun : startingPermits context call = true ∨ cancellingPermits context call = true := by
      cases building with
      | starting => exact .inl (by simpa [piecePermits, present] using permitted)
      | cancelling => exact .inr (by simpa [piecePermits, present] using permitted)
      | started | fails | arms => cases permitted
    have calm : Calm device (Goodix.DeviceContext.call device call) := .startingCall begun
    obtain ⟨changed, later, alike⟩ := calm.later present
    refine .silent calm.silent (follows.still calm.toStill) (.prepares (works.calm calm) failure
      changed later (alike.state.trans activating) (alike.fence.trans unfenced)
      (alike.current activating current) (.inr ?_))
    cases starting_pushes device begun with
    | inl none =>
      rw [none]
      exact building
    | inr one =>
      obtain ⟨error, one⟩ := one
      rw [one]
      exact .fails building.late

theorem Works.calledFailing {chain : Piece} (works : Works answers device)
    (follows : Follows answers device) (permitted : piecePermits device piece call = true)
    (failure : answers.failure = some error) (present : device.context = some context)
    (activating : context.state = .activating) (fenced : context.terminalFence = true)
    (fails : chain = .protocolFailed error ∨ chain = .emittedTerminal error)
    (inert : above.all Piece.isInert = true) (late : below.all Piece.isLate = true)
    (stack : piece :: owed = above ++ chain :: below) :
    Continues answers (Goodix.DeviceContext.call device call) (above ++ chain :: below) := by
  cases above with
  | nil =>
    cases stack
    cases fails with
    | inl failed => rw [failed] at permitted; cases permitted
    | inr ended => rw [ended] at permitted; cases permitted
  | cons first above =>
    cases stack
    have both := inert
    simp only [List.all_cons, Bool.and_eq_true] at inert
    obtain ⟨calm, pushed⟩ := piecePermits_inert permitted inert.1
    exact works.failing follows failure present activating fenced fails calm pushed both late

theorem Works.calledCancels (works : Works answers device) (follows : Follows answers device)
    (permitted : piecePermits device piece call = true) (failure : answers.failure = none)
    (present : device.context = some context) (activating : context.state = .activating)
    (fenced : context.terminalFence = true) (bare : context.IsBare)
    (inert : above.all Piece.isInert = true)
    (stack : piece :: owed = above ++ [.activationCancelled]) :
    Continues answers (Goodix.DeviceContext.call device call)
      (above ++ [.activationCancelled]) := by
  cases above with
  | nil =>
    cases stack
    cases permitted
  | cons first above =>
    cases stack
    have both := inert
    simp only [List.all_cons, Bool.and_eq_true] at inert
    obtain ⟨calm, pushed⟩ := piecePermits_inert permitted inert.1
    exact works.cancels follows failure present activating fenced bare calm pushed both

end

theorem Phase.innerCall {reception : Reception} {piece : Piece} {call : Call}
    (follows : Follows answers device)
    (couples : ∀ context, device.context = some context → Couples reception context)
    (permitted : piecePermits device piece call = true)
    (phase : Phase answers device (piece :: owed)) :
    Continues answers (Goodix.DeviceContext.call device call) (piece :: owed) := by
  obtain ⟨context, present, inner⟩ := inner_of_permits permitted
  generalize stack : piece :: owed = all at phase
  cases phase with
  -- what comes next here calls no component
  | aborted | leaves | left | asked | activates =>
    cases stack
    cases permitted
  | answered rests plain =>
    exact rests.continues follows (.innerCall (couples context present) present inner) plain
  | failed rests fenced inert plain =>
    exact rests.calledFailed follows permitted fenced inert plain stack
  | ended rests fenced inert plain =>
    exact rests.calledEnded follows permitted fenced inert plain stack
  | void works absent =>
    rw [absent] at present
    cases present
  | prepares works failure other same activating unfenced current owes =>
    cases stack
    exact works.calledPreparing follows permitted failure same activating unfenced current owes
  | failing works failure other same activating fenced fails inert late =>
    exact works.calledFailing follows permitted failure same activating fenced fails inert late
      stack
  | cancels works failure other same activating fenced bare inert =>
    exact works.calledCancels follows permitted failure same activating fenced bare inert stack
  | cancelled awaited failure cancelIdles awaits other same inactive fenced bare waiting =>
    exact follows.cancelled awaited failure cancelIdles awaits same inactive fenced bare
      (.innerCall permitted same bare) waiting

/-! ## A cancellation from a callback -/

/-- Unless the driver activates, no phase sees a cancellation. -/
theorem Phase.cancel (follows : Follows answers device)
    (settled : ∀ context, device.context = some context → context.state ≠ .activating)
    (phase : Phase answers device owed) :
    Continues answers (Goodix.DeviceContext.call device .cancel) owed := by
  -- a cancellable is cancelled and an idle may be added: the pieces on the stack do not look at them
  rw [cancel_eq settled]
  refine .silent rfl ⟨follows.openIdles, follows.closeIdles, follows.contexts⟩ ?_
  have rested (rests : Rests answers device) : Rests answers (device.withFramework {
      device.framework with cancelled := true, cancelIdle := !device.framework.returning }) :=
    ⟨rests.answered, rests.cancelIdles, rests.settled, rests.active⟩
  have asked (asks : Asks answers device) : Asks answers (device.withFramework {
      device.framework with cancelled := true, cancelIdle := !device.framework.returning }) :=
    { asks with }
  have awaiting (awaits : device.framework.Awaits) : Framework.Awaits {
      device.framework with cancelled := true, cancelIdle := !device.framework.returning } :=
    { awaits with }
  cases phase with
  | aborted => exact .aborted
  | answered rests plain => exact .answered (rested rests) plain
  | failed rests fenced inert plain => exact .failed (rested rests) fenced inert plain
  | ended rests fenced inert plain => exact .ended (rested rests) fenced inert plain
  | leaves rests leaving plain => exact .leaves (rested rests) leaving plain
  | left rests leaving plain => exact .left (rested rests) leaving plain
  | asked asks => exact .asked (asked asks)
  | activates asks activating => exact .activates (asked asks) activating
  | void works absent late =>
    exact .void ⟨works.awaited, works.cancelIdles, awaiting works.awaits⟩ absent late
  | prepares works failure context present activating
  | failing works failure context present activating
  | cancels works failure context present activating =>
    exact absurd activating (settled context present)
  | cancelled awaited failure cancelIdles awaits context present inactive fenced bare waiting =>
    exact .cancelled awaited failure cancelIdles (awaiting awaits) context present inactive fenced
      bare waiting

/-! ## The calls of the main loop -/

/-- A client starts an action. -/
theorem Rests.start (rests : Rests answers device) (follows : Follows answers device)
    {action : DeviceAction} (captures : action.captures = true) (cancelled : Bool) :
    Continues answers (device.start action cancelled) [] := by
  unfold Device.start
  dsimp only
  split
  · exact rests.continues follows (.framework rfl rfl rfl) rfl
  · rename_i free
    simp only [not_or, Bool.not_eq_true] at free
    refine ⟨⟨rests.answered, trivial⟩,
      ⟨follows.openIdles, follows.closeIdles, fun context present =>
        { follows.contexts context present with }⟩,
      .asked ⟨rfl, rfl, rests.cancelIdles, captures, free.2.2, rfl, free.2.1,
        fun context present => ⟨rests.settled context present, fun active => ?_⟩⟩⟩
    have running := rests.active context present active
    rw [free.2.2] at running
    cases running

theorem Rests.mainLoopCall {reception : Reception} (rests : Rests answers device)
    (follows : Follows answers device) (production : device.production = true)
    (couples : ∀ context, device.context = some context → Couples reception context) {call : Call}
    (permitted : mainLoopPermits device call = true) (plain : owed.all Piece.isPlain = true)
    (none : owed = []) : Continues answers (Goodix.DeviceContext.call device call) owed := by
  have alike := contexts_alike device
  have still {outcome : Outcome} (still : Still device outcome) : Continues answers outcome owed :=
    rests.continues follows still plain
  cases call with
  | outside outside => exact still ⟨rfl, rfl, rfl, rfl, alike, rfl, rfl⟩
  | tick now => exact still ⟨rfl, rfl, rfl, rfl, alike, rfl, rfl⟩
  | openDevice cancelled => exact still (.framework rfl rfl rfl)
  | closeDevice =>
    refine still (.framework rfl rfl ?_)
    split <;> rfl
  | start action cancelled =>
    rw [none]
    refine rests.start follows ?_ cancelled
    simp only [mainLoopPermits, Bool.and_eq_true] at permitted
    exact permitted.2
  | cancel => exact Phase.cancel follows rests.settled (.answered rests plain)
  | loginPrepare =>
    refine still (.withContext fun context present => ?_)
    rw [(couples context present).loginPrepare]
    exact .same rfl rfl
  | openCompleteIdle => simp [mainLoopPermits, follows.openIdles] at permitted
  | cancelIdle =>
    refine still (.framework rfl rfl ?_)
    split <;> rfl
  | returnTask => exact still (.framework rfl rfl rfl)
  | activationCancelIdle => simp [mainLoopPermits, rests.cancelIdles] at permitted
  | deactivationIdle =>
    refine still ?_
    unfold Goodix.DeviceContext.call Device.withContext
    dsimp only
    split
    · exact ⟨rfl, rfl, rfl, rfl, alike, rfl, rfl⟩
    · rename_i context present
      have present : device.context = some context := present
      split <;> exact ⟨rfl, rfl, rfl, rfl,
        by rw [present]; exact .some { Context.Alike.rfl with }, rfl, rfl⟩
  | loginCloseIdle => simp [mainLoopPermits, follows.closeIdles] at permitted
  | loginDeadline =>
    refine still (.withContext fun context present => .put present ?_ rfl rfl)
    exact { Context.Alike.rfl with }
  | timer => exact still (.same rfl rfl)
  | minutiaeDetected scan => exact still (.minutiaeDetected scan)
  | completeReceive generation completion =>
    exact still (.withContext fun _ present => (Calm.toStill (.callUsb present (by simp))))
  | completeOut generation error =>
    exact still (.withContext fun _ present => (Calm.toStill (.callUsb present (by simp))))
  | completeAbandoned => exact still ⟨rfl, rfl, rfl, rfl, alike, rfl, rfl⟩
  | testLoginPostTls | testArmComplete => simp [mainLoopPermits, production] at permitted
  | _ => cases permitted

/-- The action is cancelled while its activation is prepared. -/
theorem Works.cancel (works : Works answers device) (follows : Follows answers device)
    (failure : answers.failure = none) (present : device.context = some context)
    (activating : context.state = .activating) (unfenced : context.terminalFence = false)
    (current : context.generation ≠ 0) (bare : context.IsBare) :
    Continues answers (Goodix.DeviceContext.call device .cancel) [] := by
  have fits := follows.contexts context present
  have awaits := works.awaits
  have works' : Works answers (device.withFramework { device.framework with
      cancelled := true
      cancelIdle := !device.framework.returning }) :=
    ⟨works.awaited, works.cancelIdles, awaits.captures, awaits.inactive, awaits.returning,
      awaits.activating, awaits.scanless⟩
  have goesOn : Continues answers (device.withFramework { device.framework with
      cancelled := true
      cancelIdle := !device.framework.returning }, [], []) [] :=
    .silent rfl ⟨follows.openIdles, follows.closeIdles, follows.contexts⟩
      (.prepares works' failure context present activating unfenced current (.inl ⟨bare, rfl⟩))
  unfold Goodix.DeviceContext.call Device.withContext
  dsimp only
  rw [show (device.withFramework { device.framework with
      cancelled := true
      cancelIdle := !device.framework.returning }).context = some context from present]
  dsimp only
  split
  · unfold Device.activationCancellableCancelled
    split
    · exact goesOn
    · have fenced : Context.Follows { answers with fenced := true }
          { context with cancelHandler := false, terminalFence := true } :=
        fits.fence answers.failure rfl rfl rfl rfl
      have cancels : Works { answers with fenced := true }
          ((device.withFramework { device.framework with
            cancelled := true
            cancelIdle := !device.framework.returning }).put
              { context with cancelHandler := false, terminalFence := true }) :=
        ⟨works'.awaited, works'.cancelIdles, works'.awaits⟩
      exact ⟨⟨trivial, trivial⟩, ⟨follows.openIdles, follows.closeIdles, fun other same => by
          cases same
          exact fenced⟩,
        .cancels cancels failure _ rfl activating rfl bare
          (show [Piece.cancelling, .cancelBackend].all Piece.isInert = true from rfl)⟩
  · exact goesOn

/-- The main loop answers the cancelled activation. -/
theorem Continues.cancelIdle (awaited : answers.awaited = true) (failure : answers.failure = none)
    (cancelIdles : device.activationCancelIdles ≤ 1) (awaits : device.framework.Awaits)
    (follows : Follows answers device) (present : device.context = some context)
    (inactive : context.state = .inactive) (fenced : context.terminalFence = true)
    (bare : context.IsBare) :
    Continues answers (Goodix.DeviceContext.call device .activationCancelIdle) [] := by
  have less : device.activationCancelIdles - 1 = 0 := Nat.sub_eq_zero_of_le cancelIdles
  have follows' : Follows answers
      { device with activationCancelIdles := device.activationCancelIdles - 1 } :=
    ⟨follows.openIdles, follows.closeIdles, follows.contexts⟩
  have waits : Continues answers
      ({ device with activationCancelIdles := device.activationCancelIdles - 1 }, [], []) [] :=
    .silent rfl follows' (.cancelled awaited failure (less.trans_le zero_le_one) awaits context
      present inactive fenced bare rfl)
  unfold Goodix.DeviceContext.call Device.withContext
  dsimp only
  split
  · exact waits
  split
  · refine .refuse awaited (fun other same => ?_) less follows' (fun other same => ?_) rfl
    · rw [failure] at same
      cases same
    · have same : other = context := Option.some.inj (same.symm.trans present)
      rw [same, inactive]
      exact ⟨by simp, by simp⟩
  · exact waits

theorem Phase.mainLoopCall {reception : Reception} {call : Call} (follows : Follows answers device)
    (production : device.production = true)
    (couples : ∀ context, device.context = some context → Couples reception context)
    (permitted : mainLoopPermits device call = true) (phase : Phase answers device []) :
    Continues answers (Goodix.DeviceContext.call device call) [] := by
  have calm (awaits : device.framework.Awaits)
      (idle : ∀ context, device.context = some context → context.deactivationPending = false)
      (cancel : call ≠ .cancel) (cancelIdle : call ≠ .activationCancelIdle) :
      Calm device (Goodix.DeviceContext.call device call) :=
    .mainLoopCall production couples awaits follows.openIdles follows.closeIdles idle permitted
      cancel cancelIdle
  generalize stack : ([] : List Piece) = all at phase
  cases phase with
  | aborted | leaves | left | asked | activates => cases stack
  | failed | ended | failing | cancels => simp at stack
  | answered rests plain =>
    cases stack
    exact rests.mainLoopCall follows production couples permitted plain rfl
  | void works absent late =>
    cases stack
    have nobody (context : Context) (present : device.context = some context) : False := by
      rw [absent] at present
      cases present
    by_cases cancel : call = .cancel
    · rw [cancel]
      exact Phase.cancel follows (fun context present => (nobody context present).elim)
        (.void works absent late)
    by_cases cancelIdle : call = .activationCancelIdle
    · rw [cancelIdle] at permitted
      simp [mainLoopPermits, works.cancelIdles] at permitted
    exact works.void follows absent (calm works.awaits
      (fun context present => (nobody context present).elim) cancel cancelIdle) rfl
  | prepares works failure context present activating unfenced current owes =>
    cases stack
    cases owes with
    | inr building => cases building
    | inl settled =>
      by_cases cancel : call = .cancel
      · rw [cancel]
        exact works.cancel follows failure present activating unfenced current settled.1
      by_cases cancelIdle : call = .activationCancelIdle
      · rw [cancelIdle] at permitted
        simp [mainLoopPermits, works.cancelIdles] at permitted
      refine works.advances follows failure present activating unfenced current settled.1
        (.calm (calm works.awaits (fun other same => ?_) cancel cancelIdle)) rfl
      rw [present] at same
      cases same
      exact follows.idle present (by rw [activating]; decide)
  | cancelled awaited failure cancelIdles awaits context present inactive fenced bare waiting =>
    cases stack
    by_cases cancelIdle : call = .activationCancelIdle
    · rw [cancelIdle]
      exact .cancelIdle awaited failure cancelIdles awaits follows present inactive fenced bare
    have only (other : Context) (same : device.context = some other) : other = context :=
      Option.some.inj (same.symm.trans present)
    by_cases cancel : call = .cancel
    · rw [cancel]
      refine Phase.cancel follows (fun other same => ?_) (.cancelled awaited failure cancelIdles
        awaits context present inactive fenced bare waiting)
      rw [only other same, inactive]
      simp
    refine follows.cancelled awaited failure cancelIdles awaits present inactive fenced bare
      (calm awaits (fun other same => ?_) cancel cancelIdle) rfl
    rw [only other same]
    exact follows.idle present (by rw [inactive]; decide)

end

/-! ## Runs -/

/-- What holds between any two steps of a production device. -/
structure Answered (log : List Noted) (device : Device) (owed : List Piece) : Prop where
  synchronised : Synchronised log device owed
  lawful : answering.Lawful log
  follows : Follows (answering.after log) device
  phase : Phase (answering.after log) device owed

theorem answered_new : Answered [] (Device.new true) [] where
  synchronised := synchronised_new
  lawful := Traces.justified_nil _
  follows := ⟨rfl, rfl, fun _ same => by
    cases same
    exact ⟨nofun, nofun, nofun, rfl⟩⟩
  phase := .answered
    ⟨rfl, rfl, fun _ same => by cases same; nofun, fun _ same => by cases same; nofun⟩ rfl

theorem Continues.answered {log : List Noted} {outcome : Outcome} {owed : List Piece}
    (synchronised : Synchronised (log ++ outcome.2.1) outcome.1 (outcome.2.2 ++ owed))
    (lawful : answering.Lawful log)
    (continues : Continues (answering.after log) outcome owed) :
    Answered (log ++ outcome.2.1) outcome.1 (outcome.2.2 ++ owed) where
  synchronised := synchronised
  lawful := lawful.append _ continues.admits
  follows := by
    rw [Monitor.after_append]
    exact continues.follows
  phase := by
    rw [Monitor.after_append]
    exact continues.phase

theorem Answered.called {log : List Noted} {device : Device} {owed : List Piece}
    (holds : Answered log device owed) {call : Call}
    (permitted : permits device owed.head? call = true) :
    Answered (log ++ (Goodix.DeviceContext.call device call).2.1)
      (Goodix.DeviceContext.call device call).1
      ((Goodix.DeviceContext.call device call).2.2 ++ owed) := by
  obtain ⟨synchronised, lawful, follows, phase⟩ := holds
  refine Continues.answered (synchronised.called permitted) lawful ?_
  cases owed with
  | nil =>
    exact phase.mainLoopCall follows synchronised.production synchronised.couples permitted
  | cons piece owed =>
    cases (Bool.or_eq_true ..).mp permitted with
    | inl client =>
      obtain ⟨rfl, settled⟩ := cancel_of_clientPermits client
      exact phase.cancel follows settled
    | inr inside => exact phase.innerCall follows synchronised.couples inside

theorem Answered.performed {log : List Noted} {device : Device} {piece : Piece} {owed : List Piece}
    (holds : Answered log device (piece :: owed)) :
    Answered (log ++ (perform device piece).2.1) (perform device piece).1
      ((perform device piece).2.2 ++ owed) :=
  Continues.answered holds.synchronised.performed holds.lawful
    (holds.phase.performed holds.follows holds.synchronised.production holds.synchronised.couples)

/-- In every run of a production device an activation is answered at most once: with success only if
its generation has neither been fenced nor failed, and with the failure if there is one. A
deactivation is answered at most once. -/
theorem answering_lawful (actions : List (Pieces.Action Call)) :
    answering.Lawful (Machines.run program.step ⟨Device.new true, []⟩ actions).2 :=
  (Pieces.Program.run_invariant (fun _ _ _ _ holds permitted => holds.called permitted)
    (fun _ _ _ _ holds => holds.performed) answered_new actions).lawful

end Goodix.DeviceContext
