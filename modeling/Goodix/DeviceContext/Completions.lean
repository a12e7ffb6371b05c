import Goodix.DeviceContext.Activation

/-! # The completions

What is owed while the framework waits for an answer, and while it does not; what every
step makes of it; and from that what the framework is told in every run.
-/

namespace Goodix.DeviceContext

open Usb Monitors

section

variable {device : Device} {context changed : Context}

/-! ## The generation begins -/

theorem beginPreSessionRxSync_calm (device : Device) (context : Context)
    {refused : GError → List Piece}
    (waiting : ∀ error, (refused error).all Piece.isWaiting = true) :
    ∃ changed noted pieces,
      device.beginPreSessionRxSync context refused = (device.put changed, noted, pieces) ∧
        context.Alike changed ∧ noted.all Noted.isSilent = true ∧
        pieces.all Piece.isWaiting = true := by
  have failing (error : GError) :
      ([Piece.protocolFailure (some error)] ++ refused error).all Piece.isWaiting = true := by
    rw [List.all_append, waiting]
    rfl
  unfold Device.beginPreSessionRxSync
  split
  · exact ⟨_, _, _, rfl, .rfl, rfl, waiting _⟩
  dsimp only
  split
  · exact ⟨_, _, _, rfl, { Context.Alike.rfl with }, rfl, failing _⟩
  · split
    · exact ⟨_, _, _, rfl, { Context.Alike.rfl with }, rfl, failing _⟩
    · exact ⟨_, _, _, rfl, { Context.Alike.rfl with }, rfl, rfl⟩

/-- How the generation of an activation begins. -/
inductive Begins (device : Device) (context : Context) (outcome : Outcome) : Prop where
  | refused (changed : Context) (error : GError)
    (same : outcome = (device.put changed).activateComplete (some error))
    (inactive : changed.state = .inactive) (fenced : changed.terminalFence = true)
    (pending : changed.deactivationPending = context.deactivationPending)
    (closing : changed.loginClosePending = context.loginClosePending)
  | begun (changed : Context) (generation : Nat) (noted : List Noted) (pieces : List Piece)
    (same : outcome = (device.put changed, .usb (.begun generation) :: noted, pieces))
    (activating : changed.state = .activating) (unfenced : changed.terminalFence = false)
    (pending : changed.deactivationPending = context.deactivationPending)
    (closing : changed.loginClosePending = context.loginClosePending)
    (current : changed.generation ≠ 0) (bare : changed.IsBare)
    (silent : noted.all Noted.isSilent = true) (waiting : pieces.all Piece.isWaiting = true)

theorem Begins.beginActivation (production : device.production = true) (bare : context.IsBare) :
    Begins device context (device.beginActivation context) := by
  unfold Device.beginActivation
  dsimp only
  split
  · exact .refused _ _ rfl rfl rfl rfl rfl
  rename_i backend begins
  split
  · rename_i other
    rw [production] at other
    cases other
  split
  · exact .begun _ _ [] _ rfl rfl rfl rfl rfl (Nat.succ_ne_zero _) bare rfl rfl
  · obtain ⟨changed, noted, pieces, same, alike, silent, waiting⟩ :=
      beginPreSessionRxSync_calm device { context with
        generationSeq := context.generationSeq + 1
        generation := context.generationSeq + 1
        releaseTailComplete := false
        freshDownTable := false
        terminalFence := false
        activationCompleted := false
        activationCancellable := true
        usb := { backend, router := context.usb.router.beginGeneration (context.generationSeq + 1) }
        cancelHandler := !device.framework.cancelled
        state := .activating } (fun error => show [Piece.syncBegun error].all _ = true from rfl)
    exact .begun changed _ noted pieces (by rw [same]; rfl) alike.state alike.fence alike.pending
      alike.closing (alike.current rfl (Nat.succ_ne_zero _)) (alike.bare bare) silent waiting

/-! ## The phases -/

/-- In every phase the fence and the deactivation of the context fit the log. -/
structure Context.Follows (answers : Answers) (context : Context) : Prop where
  fenced : answers.fenced = true → context.terminalFence = true
  leaving : context.deactivationPending = true →
    context.state = .deactivating ∧ answers.leaving = true
  departs : context.state = .deactivating → context.terminalFence = true
  closing : context.loginClosePending = false

structure Follows (answers : Answers) (device : Device) : Prop where
  openIdles : device.openIdles = 0
  closeIdles : device.loginCloseIdles = 0
  contexts : ∀ context, device.context = some context → context.Follows answers

/-- No answer is awaited. -/
structure Rests (answers : Answers) (device : Device) : Prop where
  answered : answers.awaited = false
  cancelIdles : device.activationCancelIdles = 0
  settled : ∀ context, device.context = some context → context.state ≠ .activating
  active : ∀ context, device.context = some context → context.state = .active →
    device.framework.active = true

/-- An activation is asked for and the driver has not begun with it. -/
structure Asks (answers : Answers) (device : Device) : Prop where
  awaited : answers.awaited = true
  failure : answers.failure = none
  cancelIdles : device.activationCancelIdles = 0
  captures : device.framework.action.captures = true
  inactive : device.framework.active = false
  returning : device.framework.returning = false
  scanless : device.framework.minutiaeScanActive = false
  settled : ∀ context, device.context = some context →
    context.state ≠ .activating ∧ context.state ≠ .active

/-- The driver is at work on an activation. -/
structure Works (answers : Answers) (device : Device) : Prop where
  awaited : answers.awaited = true
  cancelIdles : device.activationCancelIdles = 0
  awaits : device.framework.Awaits

/-- What is owed in each phase. -/
inductive Phase (answers : Answers) (device : Device) : List Piece → Prop where
  | aborted {below : List Piece} : Phase answers device (.abort :: below)
  | answered {owed : List Piece} (rests : Rests answers device)
    (plain : owed.all Piece.isPlain = true) : Phase answers device owed
  | failed {above below : List Piece} {error : GError} (rests : Rests answers device)
    (fenced : ∀ context, device.context = some context →
      context.terminalFence = true ∧ context.state ≠ .deactivating)
    (inert : above.all Piece.isInert = true) (plain : below.all Piece.isPlain = true) :
    Phase answers device (above ++ .protocolFailed error :: below)
  | ended {above below : List Piece} {error : GError} (rests : Rests answers device)
    (fenced : ∀ context, device.context = some context →
      context.terminalFence = true ∧ context.state = .active)
    (inert : above.all Piece.isInert = true) (plain : below.all Piece.isPlain = true) :
    Phase answers device (above ++ .emittedTerminal error :: below)
  | leaves {below : List Piece} (rests : Rests answers device) (leaving : answers.leaving = true)
    (plain : below.all Piece.isPlain = true) :
    Phase answers device (.changeState .deactivating :: .deactivate :: below)
  | left {below : List Piece} (rests : Rests answers device) (leaving : answers.leaving = true)
    (plain : below.all Piece.isPlain = true) : Phase answers device (.deactivate :: below)
  | asked (asks : Asks answers device) :
    Phase answers device [.changeState .activating, .activate]
  | activates (asks : Asks answers device) (activating : device.framework.state = .activating) :
    Phase answers device [.activate]
  /-- There is no context to activate. -/
  | void {owed : List Piece} (works : Works answers device) (absent : device.context = none)
    (late : owed.all Piece.isLate = true) : Phase answers device owed
  | prepares {owed : List Piece} (works : Works answers device) (failure : answers.failure = none)
    (context : Context) (present : device.context = some context)
    (activating : context.state = .activating) (unfenced : context.terminalFence = false)
    (current : context.generation ≠ 0)
    (owes : context.IsBare ∧ owed.all Piece.isWaiting = true ∨ Building owed) :
    Phase answers device owed
  | failing {above below : List Piece} {piece : Piece} {error : GError}
    (works : Works answers device) (failure : answers.failure = some error) (context : Context)
    (present : device.context = some context) (activating : context.state = .activating)
    (fenced : context.terminalFence = true)
    (fails : piece = .protocolFailed error ∨ piece = .emittedTerminal error)
    (inert : above.all Piece.isInert = true) (late : below.all Piece.isLate = true) :
    Phase answers device (above ++ piece :: below)
  | cancels {above : List Piece} (works : Works answers device) (failure : answers.failure = none)
    (context : Context) (present : device.context = some context)
    (activating : context.state = .activating) (fenced : context.terminalFence = true)
    (bare : context.IsBare) (inert : above.all Piece.isInert = true) :
    Phase answers device (above ++ [.activationCancelled])
  /-- The answer is left to the main loop. -/
  | cancelled {owed : List Piece} (awaited : answers.awaited = true)
    (failure : answers.failure = none) (cancelIdles : device.activationCancelIdles ≤ 1)
    (awaits : device.framework.Awaits) (context : Context)
    (present : device.context = some context) (inactive : context.state = .inactive)
    (fenced : context.terminalFence = true) (bare : context.IsBare)
    (waiting : owed.all Piece.isWaiting = true) : Phase answers device owed

/-- What a step leaves is lawful and in some phase. -/
structure Continues (answers : Answers) (outcome : Outcome) (owed : List Piece) : Prop where
  admits : answering.Admits answers outcome.2.1
  follows : Follows (outcome.2.1.foldl Answers.note answers) outcome.1
  phase : Phase (outcome.2.1.foldl Answers.note answers) outcome.1 (outcome.2.2 ++ owed)

section

variable {answers : Answers} {outcome : Outcome} {owed : List Piece}

theorem Context.Follows.keeps (follows : context.Follows answers) (keeps : context.Keeps changed) :
    changed.Follows answers where
  fenced := fun fenced => keeps.fence.trans (follows.fenced fenced)
  leaving := by
    rw [keeps.pending, keeps.state]
    exact follows.leaving
  departs := by
    rw [keeps.state, keeps.fence]
    exact follows.departs
  closing := keeps.closing.trans follows.closing

theorem Context.Alike.keeps (alike : context.Alike changed) : context.Keeps changed :=
  ⟨alike.state, alike.fence, alike.pending, alike.closing, alike.current⟩

/-- A context behind a step that changes nothing. -/
theorem Still.before (still : Still device outcome) {changed : Context}
    (present : outcome.1.context = some changed) :
    ∃ context, device.context = some context ∧ context.Alike changed := by
  have related := still.contexts
  rw [present] at related
  cases found : device.context with
  | none =>
    rw [found] at related
    cases related
  | some context =>
    rw [found] at related
    cases related with
    | some alike => exact ⟨context, rfl, alike⟩

theorem Still.later (still : Still device outcome) (present : device.context = some context) :
    ∃ changed, outcome.1.context = some changed ∧ context.Alike changed := by
  have related := still.contexts
  rw [present] at related
  cases found : outcome.1.context with
  | none =>
    rw [found] at related
    cases related
  | some changed =>
    rw [found] at related
    cases related with
    | some alike => exact ⟨changed, rfl, alike⟩

theorem Still.absent (still : Still device outcome) (absent : device.context = none) :
    outcome.1.context = none := by
  cases found : outcome.1.context with
  | none => rfl
  | some changed =>
    obtain ⟨context, present, _⟩ := still.before found
    rw [absent] at present
    cases present

theorem Follows.still (follows : Follows answers device) (still : Still device outcome) :
    Follows answers outcome.1 where
  openIdles := still.openIdles.trans follows.openIdles
  closeIdles := still.closeIdles.trans follows.closeIdles
  contexts := fun changed present => by
    obtain ⟨context, before, alike⟩ := still.before present
    exact (follows.contexts context before).keeps alike.keeps

theorem Rests.still (rests : Rests answers device) (still : Still device outcome) :
    Rests answers outcome.1 where
  answered := rests.answered
  cancelIdles := still.cancelIdles.trans rests.cancelIdles
  settled := fun changed present => by
    obtain ⟨context, before, alike⟩ := still.before present
    rw [alike.state]
    exact rests.settled context before
  active := fun changed present => by
    obtain ⟨context, before, alike⟩ := still.before present
    rw [alike.state, still.active]
    exact rests.active context before

theorem Works.calm (works : Works answers device) (calm : Calm device outcome) :
    Works answers outcome.1 :=
  ⟨works.awaited, calm.cancelIdles.trans works.cancelIdles, calm.awaits works.awaits⟩

/-- A step that says nothing about the answers. -/
theorem Continues.silent (silent : outcome.2.1.all Noted.isSilent = true)
    (follows : Follows answers outcome.1)
    (phase : Phase answers outcome.1 (outcome.2.2 ++ owed)) : Continues answers outcome owed := by
  obtain ⟨admits, same⟩ := silent_foldl silent answers
  exact ⟨admits, by rwa [same], by rwa [same]⟩

theorem plain_append {pieces : List Piece} (first : pieces.all Piece.isPlain = true)
    (second : owed.all Piece.isPlain = true) : (pieces ++ owed).all Piece.isPlain = true := by
  rw [List.all_append, first, second]
  rfl

/-- While no answer is awaited, a step that changes nothing leaves it so. -/
theorem Rests.continues (rests : Rests answers device) (follows : Follows answers device)
    (still : Still device outcome) (plain : owed.all Piece.isPlain = true) :
    Continues answers outcome owed :=
  .silent still.silent (follows.still still)
    (.answered (rests.still still) (plain_append still.plain plain))

/-- What is inert stays so behind a fence. -/
theorem inert_perform {piece : Piece} (inert : piece.isInert = true)
    (fenced : ∀ context, device.context = some context → context.terminalFence = true ∧
      context.deactivationPending = false ∧ context.loginClosePending = false) :
    Calm device (perform device piece) ∧
      (perform device piece).2.2.all Piece.isInert = true := by
  cases piece with
  | cancelling => exact ⟨.same rfl rfl, rfl⟩
  | cancelBackend =>
    refine ⟨.withContext fun _ present => .callUsb present (by simp), ?_⟩
    unfold perform Device.withContext
    dsimp only
    split
    · rfl
    · simp only [Device.callUsb, Stack.call]
      split <;> rfl
  | usb work =>
    cases work with
    | notifyDrained =>
      refine ⟨.withContext fun _ present => .turnUsb present _, ?_⟩
      unfold perform Device.withContext
      dsimp only
      split
      · rfl
      · simp only [Device.turnUsb, Stack.turn]
        split <;> rfl
    | _ => cases inert
  | usbDrained =>
    refine ⟨.usbDrained fun context present => (fenced context present).2, ?_⟩
    unfold perform Device.withContext
    dsimp only
    split
    · rfl
    · rename_i context present
      unfold Device.usbDrained
      rw [(fenced context present).2.1, (fenced context present).2.2]
      rfl
  | protocolFailure error =>
    have same : perform device (.protocolFailure error) = device.withContext fun context =>
        (device.put (context.setPoisoned error), [], []) := by
      unfold perform Device.withContext
      dsimp only
      split
      · rfl
      · rename_i context present
        unfold Device.protocolFailure
        rw [(fenced context present).1, if_pos rfl]
    rw [same]
    refine ⟨.withContext fun _ present => .put present ?_ rfl rfl, ?_⟩
    · exact { Context.Alike.rfl with }
    · unfold Device.withContext
      split <;> rfl
  | _ => cases inert

/-- A component that is cancelled leaves what is inert. -/
theorem inert_call {call : Call} (permitted : cancellingPermits context call = true) :
    (Goodix.DeviceContext.call device call).2.2.all Piece.isInert = true := by
  cases call with
  | outside | protocolFailure => rfl
  | setOutCompletedCallback | lifecyclePhase =>
    unfold Goodix.DeviceContext.call Device.withContext
    dsimp only
    split <;> rfl
  | _ => cases permitted

/-! ## No answer is awaited -/

/-- The fence is set, and the log tells so. -/
theorem Context.Follows.fence (follows : context.Follows answers) (failure : Option GError)
    (keeps : context.state = changed.state)
    (pending : changed.deactivationPending = context.deactivationPending)
    (closing : changed.loginClosePending = context.loginClosePending)
    (fenced : changed.terminalFence = true) :
    changed.Follows { answers with fenced := true, failure } where
  fenced := fun _ => fenced
  leaving := by
    rw [pending, ← keeps]
    exact follows.leaving
  departs := fun _ => fenced
  closing := closing.trans follows.closing

theorem Follows.put (follows : Follows answers device) {after : Answers}
    (fits : changed.Follows after) : Follows after (device.put changed) where
  openIdles := follows.openIdles
  closeIdles := follows.closeIdles
  contexts := fun _ present => by
    cases present
    exact fits

theorem Rests.put (rests : Rests answers device) {after : Answers}
    (answered : after.awaited = false) (settled : changed.state ≠ .activating)
    (active : changed.state = .active → device.framework.active = true) :
    Rests after (device.put changed) where
  answered := answered
  cancelIdles := rests.cancelIdles
  settled := fun _ present => by
    cases present
    exact settled
  active := fun _ present => by
    cases present
    exact active

/-- Without a context there is nothing to say. -/
theorem Rests.absent (rests : Rests answers device) {after : Device} (absent : after.context = none)
    (same : after.activationCancelIdles = device.activationCancelIdles) : Rests answers after where
  answered := rests.answered
  cancelIdles := same.trans rests.cancelIdles
  settled := fun _ present => by
    rw [absent] at present
    cases present
  active := fun _ present => by
    rw [absent] at present
    cases present

theorem Follows.absent (follows : Follows answers device) {after : Device}
    (absent : after.context = none) (openIdles : after.openIdles = device.openIdles)
    (closeIdles : after.loginCloseIdles = device.loginCloseIdles) : Follows answers after where
  openIdles := openIdles.trans follows.openIdles
  closeIdles := closeIdles.trans follows.closeIdles
  contexts := fun _ present => by
    rw [absent] at present
    cases present

/-- The protocol fails while no answer is awaited. -/
theorem Rests.fails (rests : Rests answers device) (follows : Follows answers device)
    (present : device.context = some context) (unfenced : context.terminalFence = false)
    (error : GError) (plain : owed.all Piece.isPlain = true) :
    Continues answers (device.setTerminalFence context [.failed error] [.protocolFailed error])
      owed where
  admits := ⟨trivial, trivial, trivial⟩
  follows := follows.put ((follows.contexts context present).fence (some error) rfl rfl rfl rfl)
  phase := by
    have others : Rests { answers with fenced := true, failure := some error }
        (device.put { context with terminalFence := true }) :=
      rests.put rests.answered (rests.settled context present) (rests.active context present)
    refine .failed others ?_
      (show [Piece.cancelling, .cancelBackend].all Piece.isInert = true from rfl) plain
    intro changed same
    cases same
    refine ⟨rfl, fun deactivating => ?_⟩
    have fenced := (follows.contexts context present).departs deactivating
    rw [unfenced] at fenced
    cases fenced

theorem Rests.advances (rests : Rests answers device) (follows : Follows answers device)
    (advances : Advances device outcome) (plain : owed.all Piece.isPlain = true) :
    Continues answers outcome owed := by
  cases advances with
  | calm calm => exact rests.continues follows calm.toStill plain
  | fails context error present unfenced same =>
    rw [same]
    exact rests.fails follows present unfenced error plain
  | builds context changed pieces present activating =>
    exact absurd activating (rests.settled context present)

/-- How a deactivation ends. -/
inductive Finishes (device : Device) (context : Context) (outcome : Outcome) : Prop where
  | waits (same : outcome = device.nothing)
  | ends (changed : Context) (noted : List Noted) (error : Option GError)
    (same : outcome = ((device.put changed).deactivateComplete error).behind noted)
    (silent : noted.all Noted.isSilent = true) (pending : context.deactivationPending = true)
    (settled : changed.state = .inactive ∨ changed.state = .poisoned)
    (ended : changed.deactivationPending = false)
    (fence : changed.terminalFence = context.terminalFence)
    (closing : changed.loginClosePending = context.loginClosePending)

theorem closeEpoch_keeps (device : Device) {context : Context}
    (settled : context.state ≠ .activating) :
    context.Keeps (device.closeEpoch context).1 ∧
      (device.closeEpoch context).2.1.all Noted.isSilent = true := by
  have released : context.Keeps (Device.releaseClaim context device.outside.release).1 ∧
      (Device.releaseClaim context device.outside.release).2.1.all Noted.isSilent = true := by
    unfold Device.releaseClaim
    split
    · exact ⟨.rfl, rfl⟩
    split
    · exact ⟨.rfl, rfl⟩
    · exact ⟨⟨rfl, rfl, rfl, rfl, fun _ => id⟩, rfl⟩
  unfold Device.closeEpoch
  split
  · unfold Device.closeCompletedCaptureEpoch
    split
    · exact ⟨.rfl, rfl⟩
    split
    · rename_i found
      rw [found] at released
      exact released
    · rename_i found
      rw [found] at released
      refine ⟨{ released.1 with current := fun activating => absurd activating settled }, ?_⟩
      rw [List.all_append, released.2]
      rfl
  · exact ⟨.rfl, rfl⟩

theorem Finishes.finishDeactivation (device : Device) (reusable : context.loginReusable = false) :
    Finishes device context (device.finishDeactivation context) := by
  unfold Device.finishDeactivation
  split
  · exact .waits rfl
  rename_i guard
  simp only [not_or, Bool.not_eq_false] at guard
  rw [if_neg fun login => Bool.false_ne_true (reusable.symm.trans login.1)]
  unfold Device.finishedDeactivation
  dsimp only
  rw [if_neg fun login => Bool.false_ne_true (reusable.symm.trans login)]
  split
  · exact .ends _ [] none rfl rfl guard.1 (.inr rfl) rfl rfl rfl
  have inactive : ({ context with deactivationPending := false, state := .inactive } :
      Context).state ≠ .activating := by simp
  obtain ⟨keeps, silent⟩ := closeEpoch_keeps device inactive
  split
  · rename_i found
    rw [found] at keeps silent
    exact .ends _ _ _ rfl silent guard.1 (.inr rfl) keeps.pending keeps.fence keeps.closing
  · rename_i found
    rw [found] at keeps silent
    have disarmed {closed : Context} (keeps : Context.Keeps
        { context with deactivationPending := false, state := .inactive } closed) :
        Context.Keeps { context with deactivationPending := false, state := .inactive }
          (Device.disarmHandoff closed) := by
      unfold Device.disarmHandoff
      split
      · exact { keeps with }
      · exact keeps
    have keeps := disarmed keeps
    split
    · exact .ends _ _ _ rfl silent guard.1 (.inr rfl) keeps.pending keeps.fence keeps.closing
    · exact .ends _ _ _ rfl silent guard.1 (.inl keeps.state) keeps.pending keeps.fence
        keeps.closing

theorem admits_behind {noted : List Noted} (silent : noted.all Noted.isSilent = true)
    (continues : Continues answers outcome owed) :
    Continues answers (outcome.behind noted) owed := by
  obtain ⟨admits, same⟩ := silent_foldl silent answers
  have after : (outcome.behind noted).2.1.foldl Answers.note answers =
      outcome.2.1.foldl Answers.note answers := by
    simp [Outcome.behind, List.foldl_append, same]
  refine ⟨Monitor.admits_append.mpr ⟨admits, ?_⟩, ?_, ?_⟩
  · rw [show noted.foldl answering.note answers = answers from same]
    exact continues.admits
  · rw [after]
    exact continues.follows
  · rw [after]
    exact continues.phase

theorem Rests.finishDeactivation (rests : Rests answers device) (follows : Follows answers device)
    (present : device.context = some context) (reusable : context.loginReusable = false)
    (plain : owed.all Piece.isPlain = true) :
    Continues answers (device.finishDeactivation context) owed := by
  have fits := follows.contexts context present
  cases Finishes.finishDeactivation device reusable with
  | waits same =>
    rw [same]
    exact rests.continues follows (.same rfl rfl) plain
  | ends changed noted error same silent pending settled ended fence closing =>
    rw [same]
    refine admits_behind silent ?_
    have inactive : changed.state ≠ .activating ∧ changed.state ≠ .active ∧
        changed.state ≠ .deactivating := by
      rcases settled with state | state <;> rw [state] <;> decide
    have follows' : Follows { answers with leaving := false } (device.put changed) :=
      follows.put {
        fenced := fun fenced => fence.trans (fits.fenced fenced)
        leaving := fun pending => by rw [ended] at pending; cases pending
        departs := fun departs => absurd departs inactive.2.2
        closing := closing.trans fits.closing }
    have rests' : Rests { answers with leaving := false } (device.put changed) :=
      rests.put rests.answered inactive.1 fun active => absurd active inactive.2.1
    have leaving := (fits.leaving pending).2
    unfold Device.deactivateComplete
    dsimp only
    split
    · exact ⟨⟨leaving, trivial⟩, follows', .answered rests' (plain_append rfl plain)⟩
    · refine ⟨⟨leaving, trivial⟩, ⟨follows'.openIdles, follows'.closeIdles, follows'.contexts⟩,
        .answered ⟨rests'.answered, rests'.cancelIdles, rests'.settled, fun _ present active => ?_⟩
          (plain_append rfl plain)⟩
      cases present
      exact absurd active inactive.2.1

theorem Rests.imgOpenContext (rests : Rests answers device) (follows : Follows answers device)
    (production : device.production = true) (present : device.context = some context)
    (plain : owed.all Piece.isPlain = true) :
    Continues answers (device.imgOpenContext context) owed := by
  have fits := follows.contexts context present
  have opened (other : Device) (error : Option GError) :
      (other.openComplete error).2.1.all Noted.isSilent = true ∧
        (other.openComplete error).2.2.all Piece.isPlain = true := by
    unfold Device.openComplete
    dsimp only
    split <;> exact ⟨rfl, rfl⟩
  unfold Device.imgOpenContext
  split
  · exact rests.continues follows (.same rfl rfl) plain
  split
  · rename_i other
    rw [production] at other
    cases other
  split
  · refine .silent (opened _ _).1 (follows.absent ?_ ?_ ?_)
      (.answered (rests.absent ?_ ?_) (plain_append (opened _ _).2 plain))
    all_goals
      unfold Device.openComplete
      dsimp only
      split <;> rfl
  · rename_i opening _ _
    have opening : context.state = .opening := Decidable.not_not.mp opening
    have follows' : Follows answers (device.put { context with state := .inactive }) :=
      follows.put {
        fenced := fits.fenced
        leaving := fun pending => by
          have departs := (fits.leaving pending).1
          rw [opening] at departs
          cases departs
        departs := by simp
        closing := fits.closing }
    have rests' : Rests answers (device.put { context with state := .inactive }) :=
      rests.put rests.answered (by simp) (by simp)
    refine .silent (opened _ _).1 ?_ (.answered ?_ (plain_append (opened _ _).2 plain))
    all_goals
      unfold Device.openComplete
      dsimp only
    · split
      · exact follows'
      · exact ⟨follows'.openIdles, follows'.closeIdles, follows'.contexts⟩
    · split
      · exact rests'
      · exact ⟨rests'.answered, rests'.cancelIdles, rests'.settled, rests'.active⟩

theorem Rests.imgOpen (rests : Rests answers device) (follows : Follows answers device)
    (production : device.production = true) (plain : owed.all Piece.isPlain = true) :
    Continues answers device.imgOpen owed := by
  unfold Device.imgOpen
  split
  · rename_i context present
    exact rests.imgOpenContext follows production present plain
  · -- a new context has no fence
    have fresh : Follows { answers with fenced := false } (device.put (Context.new .opening)) :=
      follows.put {
        fenced := by simp [Context.new]
        leaving := by simp [Context.new]
        departs := by simp [Context.new]
        closing := rfl }
    have rests' : Rests { answers with fenced := false } (device.put (Context.new .opening)) :=
      rests.put rests.answered (by simp [Context.new]) (by simp [Context.new])
    have opened := rests'.imgOpenContext fresh production rfl plain
    exact ⟨⟨trivial, opened.admits⟩, opened.follows, opened.phase⟩

theorem Rests.imgCloseFence (rests : Rests answers device) (follows : Follows answers device)
    (present : device.context = some context) (plain : owed.all Piece.isPlain = true) :
    Continues answers (device.imgCloseFence context) owed := by
  unfold Device.imgCloseFence
  split
  · exact rests.continues follows (.same rfl rfl) plain
  · have fits : Context.Follows { answers with fenced := true }
        { context with terminalFence := true } :=
      (follows.contexts context present).fence answers.failure rfl rfl rfl rfl
    exact ⟨⟨trivial, trivial⟩, follows.put fits, .answered (rests.put rests.answered
      (rests.settled context present) (rests.active context present)) (plain_append rfl plain)⟩

theorem Rests.imgClosed (rests : Rests answers device) (follows : Follows answers device)
    (context : Context) (plain : owed.all Piece.isPlain = true) :
    Continues answers (device.imgClosed context) owed := by
  have released := (releaseClaim_prepared { context with state := .closing }
    device.outside.release).2
  unfold Device.imgClosed
  split
  rename_i found
  rw [found] at released
  refine admits_behind released (.silent ?_ (follows.absent ?_ ?_ ?_)
    (.answered (rests.absent ?_ ?_) (plain_append ?_ plain)))
  all_goals
    unfold Device.closeComplete
    dsimp only
    split <;> rfl

/-- A piece that may be owed anywhere, while no answer is awaited. -/
theorem Rests.performed {reception : Reception} (rests : Rests answers device)
    (follows : Follows answers device) (production : device.production = true)
    (couples : ∀ context, device.context = some context → Couples reception context)
    {piece : Piece} (first : piece.isPlain = true) (plain : owed.all Piece.isPlain = true) :
    Continues answers (perform device piece) owed := by
  have absent (none : device.context = none) {function : Context → Outcome} :
      Continues answers (device.withContext function) owed := by
    unfold Device.withContext
    rw [none]
    exact rests.continues follows (.same rfl rfl) plain
  have within {function : Context → Outcome}
      (continues : ∀ context, device.context = some context →
        Continues answers (function context) owed) :
      Continues answers (device.withContext function) owed := by
    cases found : device.context with
    | none => exact absent found
    | some context =>
      unfold Device.withContext
      rw [found]
      exact continues context found
  have still {outcome : Outcome} (still : Still device outcome) : Continues answers outcome owed :=
    rests.continues follows still plain
  cases piece with
  | component | starting | cancelling | abort | usb | usbFrame | usbInCompleted | usbOutCompleted
  | syncCompleted | startProtocol | cancelBackend | protocolFailure | syncBegun | startSecureGraph
  | armReceive => exact rests.advances follows (.perform rfl (by simp) (by simp)) plain
  | usbDrained =>
    exact within fun context present =>
      still (.usbDrained present (follows.contexts context present).closing)
  | frameworkDeactivate cancelling =>
    show Continues answers (device.frameworkDeactivate cancelling) owed
    unfold Device.frameworkDeactivate
    dsimp only
    split
    · exact still (.framework rfl rfl rfl)
    · exact ⟨⟨trivial, trivial⟩,
        ⟨follows.openIdles, follows.closeIdles, fun context present =>
          { follows.contexts context present with
            leaving := fun pending =>
              ⟨((follows.contexts context present).leaving pending).1, rfl⟩ }⟩,
        .leaves ⟨rests.answered, rests.cancelIdles, rests.settled, rests.active⟩ rfl plain⟩
  | secureSessionStarted => exact within fun _ present => still (.secureSessionStarted present)
  | emitArmComplete =>
    refine within fun context present => ?_
    unfold Device.emitArmComplete
    rw [if_pos (.inr (rests.settled context present))]
    exact still (.same rfl rfl)
  | emitFingerStatus finger => exact within fun _ _ => still (.emitFingerStatus _ finger)
  | loginMaybeReportRelease =>
    refine within fun _ _ => ?_
    split
    · exact still (.emitFingerStatus _ _)
    · exact still (.same rfl rfl)
  | captureResult action success isMatch =>
    exact within fun _ present => still (.captureResult present action success isMatch)
  | captureResultKnown => exact within fun _ present => still (.captureResultKnown present)
  | imgOpen => exact rests.imgOpen follows production plain
  | deactivateFenced =>
    exact within fun context present =>
      still (.deactivateFenced present (rests.settled context present))
  | finishDeactivation =>
    exact within fun context present =>
      rests.finishDeactivation follows present (couples context present).noLogin.2.2 plain
  | imgClose =>
    refine within fun context present => ?_
    unfold Device.imgClose
    rw [(couples context present).noLogin.1, (couples context present).noLogin.2.1,
      if_neg (by decide)]
    exact still (.same rfl rfl)
  | imgCloseFence => exact within fun _ present => rests.imgCloseFence follows present plain
  | imgClosed => exact within fun context _ => rests.imgClosed follows context plain
  | changeState state => exact still (.changeState state)
  | maybeCompleteAction error => exact still (.maybeCompleteAction error)
  | enrollMaybeAwaitFingerOn => exact still .enrollMaybeAwaitFingerOn
  | _ => cases first

end

end

end Goodix.DeviceContext
