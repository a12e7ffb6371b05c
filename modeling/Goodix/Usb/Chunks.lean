import Goodix.Usb.Router

/-! # Chunk invariance of the receive router

The frame grammar, stated once over a whole stream, and the router of one generation
that is fed the same stream in transfers.  However the stream is cut, the router
delivers the frames of the one parse and ends in its error.
-/

namespace Goodix.Usb

open Streams

/-! ## The frame grammar -/

/-- The front of a stream of frames.  A header is judged once its four octets are there. -/
def frameFront : List UInt8 → Front (Nat × String)
  | outerType :: low :: high :: _opaque :: payload =>
    let payloadLength := low.toNat + 256 * high.toNat
    if outerType ≠ 0xa0 ∧ outerType ≠ 0xb0 then
      .malformed (errorMalformed, "outer type is neither A0 nor B0")
    else if payloadLength = 0 ∨ maxPayload < payloadLength then
      .malformed (errorMalformed, "outer payload length is invalid")
    else if payload.length < payloadLength then .short
    else .item (4 + payloadLength)
  | _ => .short

theorem frameFront_append {stream : List UInt8} (more : List UInt8)
    (judged : frameFront stream ≠ .short) : frameFront (stream ++ more) = frameFront stream := by
  match stream, judged with
  | outerType :: low :: high :: tag :: payload, judged =>
    simp only [frameFront, List.cons_append, List.length_append] at judged ⊢
    by_cases unknown : outerType ≠ 0xa0 ∧ outerType ≠ 0xb0
    · rw [if_pos unknown, if_pos unknown]
    rw [if_neg unknown] at judged ⊢
    rw [if_neg unknown]
    by_cases invalid : low.toNat + 256 * high.toNat = 0 ∨
        maxPayload < low.toNat + 256 * high.toNat
    · rw [if_pos invalid, if_pos invalid]
    rw [if_neg invalid] at judged ⊢
    rw [if_neg invalid]
    by_cases short : payload.length < low.toNat + 256 * high.toNat
    · rw [if_pos short] at judged
      exact absurd rfl judged
    rw [if_neg short, if_neg (by omega)]
  | [], judged => exact absurd rfl judged
  | [_], judged => exact absurd rfl judged
  | [_, _], judged => exact absurd rfl judged
  | [_, _, _], judged => exact absurd rfl judged

theorem frameFront_item {stream : List UInt8} {length : Nat}
    (item : frameFront stream = .item length) :
    4 < length ∧ length ≤ stream.length ∧ length ≤ maxPayload + 4 := by
  match stream, item with
  | outerType :: low :: high :: tag :: payload, item =>
    simp only [frameFront] at item
    split at item
    · cases item
    split at item
    · cases item
    split at item
    · cases item
    · cases item
      simp only [List.length_cons]
      omega

theorem frameFront_malformed {stream : List UInt8} {code : Nat} {message : String}
    (malformed : frameFront stream = .malformed (code, message)) : code = errorMalformed := by
  match stream, malformed with
  | outerType :: low :: high :: tag :: payload, malformed =>
    simp only [frameFront] at malformed
    split at malformed
    · cases malformed
      rfl
    split at malformed
    · cases malformed
      rfl
    split at malformed <;> cases malformed

/-- Frames, one after the other. -/
def frames : Grammar UInt8 (Nat × String) where
  front := frameFront
  item_inside := by
    intro stream length item
    have bounds := frameFront_item item
    omega
  extend_malformed := by
    intro stream error more malformed
    rw [frameFront_append more (by rw [malformed]; nofun), malformed]
  extend_item := by
    intro stream length more item
    rw [frameFront_append more (by rw [item]; nofun), item]

/-- What is not yet enough for a frame is shorter than the largest one. -/
theorem length_lt_of_frameFront_short {stream : List UInt8} (short : frameFront stream = .short) :
    stream.length < maxPayload + 4 := by
  match stream, short with
  | outerType :: low :: high :: tag :: payload, short =>
    simp only [frameFront] at short
    split at short
    · cases short
    split at short
    · cases short
    split at short
    · simp only [List.length_cons]
      omega
    · cases short
  | [], _ => decide
  | [_], _ => show 1 < maxPayload + 4; decide
  | [_, _], _ => show 2 < maxPayload + 4; decide
  | [_, _, _], _ => show 3 < maxPayload + 4; decide

/-- The two bytes of the length field do not overlap. -/
theorem or_shiftLeft_eight (low high : UInt8) :
    low.toNat ||| (high.toNat <<< 8) = low.toNat + 256 * high.toNat := by
  have bound := low.toNat_lt
  rw [Nat.lor_comm, Nat.shiftLeft_add_eq_or_of_lt (by omega : low.toNat < 2 ^ 8) high.toNat |>.symm,
    Nat.shiftLeft_eq]
  omega

/-- The router judges what it holds back as the grammar does. -/
theorem router_front (pending : List UInt8) : Router.front pending = frames.front pending := by
  show Router.front pending = frameFront pending
  match pending with
  | outerType :: low :: high :: tag :: payload =>
    simp only [Router.front, frameFront, List.length_cons, List.getD_cons_zero,
      List.getD_cons_succ, or_shiftLeft_eight]
    rw [if_neg (by omega)]
    split
    · rfl
    split
    · rfl
    split
    · rw [if_pos (by omega)]
    · rw [if_neg (by omega), Nat.add_comm]
  | [] => rfl
  | [_] => rfl
  | [_, _] => rfl
  | [_, _, _] => rfl

/-! ## A generation that is read in transfers -/

/-- What the router does that can be seen from outside. -/
inductive Seen where
  | delivered (toA0 : Bool) (outerType : UInt8) (frame : List UInt8)
  | cancelled
  deriving DecidableEq

/-- The delivery of a frame. -/
def delivery (frame : List UInt8) : Seen :=
  .delivered (frame.getD 0 0 = 0xa0) (frame.getD 0 0) frame

theorem cancelled_notMem_deliveries (items : List (List UInt8)) :
    Seen.cancelled ∉ items.map delivery := by
  simp [delivery]

/-- The router and what it was seen doing. -/
structure Receiving where
  router : Router
  log : List Seen
  deriving DecidableEq

/-- A transfer that succeeded.  While it is parsed a consumer cancels the router or leaves it
alone; it may look at all that was delivered before. -/
structure Transfer where
  octets : List UInt8
  cancels : List Seen → Bool

namespace Receiving

/-- The consumer's turn after a delivery. -/
def consume (cancels : List Seen → Bool) (seen : Seen) (receiving : Receiving) : Receiving :=
  let log := receiving.log ++ [seen]
  if cancels log then { router := receiving.router.cancel, log := log ++ [.cancelled] }
  else { receiving with log }

def host (cancels : List Seen → Bool) : Host Receiving where
  router := Receiving.router
  update := fun change receiving => { receiving with router := change receiving.router }
  a0Consumer := fun outerType frame => consume cancels (.delivered true outerType frame)
  b0Consumer := fun outerType frame => consume cancels (.delivered false outerType frame)

/-- One transfer: the receive is requested, and it completes. -/
def transfer (generation : Nat) (receiving : Receiving) (transfer : Transfer) : Receiving :=
  let requested :=
    match receiving.router.requestReceive with
    | .ok router => { receiving with router }
    | .error _ => receiving
  (host transfer.cancels).receiveComplete generation ⟨transfer.octets, none⟩ requested

/-- All transfers, one after the other. -/
def transfers (generation : Nat) (receiving : Receiving) (cut : List Transfer) : Receiving :=
  cut.foldl (transfer generation) receiving

end Receiving

/-- The octets of a stream that was cut into transfers. -/
def streamOf (cut : List Transfer) : List UInt8 := (cut.map Transfer.octets).flatten

/-! ## One parse of what is held back -/

/-- What consumers that decide by `cancels` hear of frames, when they have heard `log`. -/
def heard (cancels : List Seen → Bool) (log : List Seen) : List (List UInt8) → List Seen
  | [] => log
  | frame :: later =>
    let told := log ++ [delivery frame]
    if cancels told then told ++ [.cancelled] else heard cancels told later

/-- What `parse_pending` may do with the frames in front of it: it delivers all of them and
ends as the grammar says, or a consumer cancels at one of them. -/
inductive Parses (cancels : List Seen → Bool) (before : Receiving)
    (parsed : Parsed UInt8 (Nat × String)) : Receiving → Prop where
  | short (well : parsed.failure = none)
      (all : heard cancels before.log parsed.items = before.log ++ parsed.items.map delivery) :
    Parses cancels before parsed
      { router := { before.router with pending := parsed.rest }
        log := before.log ++ parsed.items.map delivery }
  | malformed (code : Nat) (message : String) (ill : parsed.failure = some (code, message))
      (all : heard cancels before.log parsed.items = before.log ++ parsed.items.map delivery) :
    Parses cancels before parsed
      { router := { before.router with pending := parsed.rest }.fail code message
        log := before.log ++ parsed.items.map delivery }
  | cancelled (front later : List (List UInt8)) (cut : parsed.items = front ++ later)
      (some : front ≠ [])
      (upTo : ∀ more, heard cancels before.log (parsed.items ++ more) =
        before.log ++ front.map delivery ++ [.cancelled]) :
    Parses cancels before parsed
      { router := before.router.cancel
        log := before.log ++ front.map delivery ++ [.cancelled] }

theorem consume_frame (cancels : List Seen → Bool) (frame : List UInt8) (receiving : Receiving) :
    (if frame.getD 0 0 = 0xa0 then (Receiving.host cancels).a0Consumer
      else (Receiving.host cancels).b0Consumer) (frame.getD 0 0) frame receiving =
      Receiving.consume cancels (delivery frame) receiving := by
  by_cases isA0 : frame.getD 0 0 = 0xa0
  · simp only [Receiving.host, delivery, isA0, if_true, decide_true]
  · simp only [Receiving.host, delivery, isA0, if_false, decide_false]

/-- The octet a frame starts with is the one its type was read from. -/
theorem getD_zero_take {stream : List UInt8} {length : Nat} (positive : 0 < length) :
    (stream.take length).getD 0 0 = stream.getD 0 0 := by
  cases stream with
  | nil => simp
  | cons octet octets =>
    cases length with
    | zero => omega
    | succ length => rfl

/-- One turn of the loop at a whole frame. -/
theorem parsePending_item (cancels : List Seen → Bool) (turns : Nat) (receiving : Receiving)
    {length : Nat} (item : frames.front receiving.router.pending = .item length) :
    (Receiving.host cancels).parsePending (turns + 1) receiving =
      let delivered := Receiving.consume cancels
        (delivery (receiving.router.pending.take length))
        { receiving with router.pending := receiving.router.pending.drop length }
      if delivered.router.terminalFence then delivered
      else (Receiving.host cancels).parsePending turns delivered := by
  have inside := frames.item_inside item
  have front : Router.front ((Receiving.host cancels).router receiving).pending = .item length :=
    (router_front _).trans item
  rw [← consume_frame, getD_zero_take inside.1]
  conv_lhs => unfold Host.parsePending
  simp only [front]
  rfl

theorem heard_cons {cancels : List Seen → Bool} {log : List Seen} {frame : List UInt8}
    (continues : ¬ cancels (log ++ [delivery frame]) = true) (later : List (List UInt8)) :
    heard cancels log (frame :: later) = heard cancels (log ++ [delivery frame]) later := by
  simp only [heard, continues, Bool.false_eq_true, if_false]

/-- What a parse does behind a frame, it does with the frame as the first one. -/
theorem parses_behind {cancels : List Seen → Bool} {router : Router} {log : List Seen}
    {frame pending : List UInt8} {parsed : Parsed UInt8 (Nat × String)} {after : Receiving}
    (continues : ¬ cancels (log ++ [delivery frame]) = true)
    (parses : Parses cancels ⟨{ router with pending }, log ++ [delivery frame]⟩ parsed after) :
    Parses cancels ⟨router, log⟩ { parsed with items := frame :: parsed.items } after := by
  cases parses with
  | short well all =>
    have whole : Parses cancels ⟨router, log⟩
        { parsed with items := frame :: parsed.items } _ := .short well
      (by rw [heard_cons continues, all]; simp)
    simpa using whole
  | malformed code message ill all =>
    have whole : Parses cancels ⟨router, log⟩
        { parsed with items := frame :: parsed.items } _ := .malformed code message ill
      (by rw [heard_cons continues, all]; simp)
    simpa using whole
  | cancelled front later cut some upTo =>
    have whole : Parses cancels ⟨router, log⟩
        { parsed with items := frame :: parsed.items } _ := .cancelled (frame :: front) later
      (by simp [cut]) (by simp)
      (fun more => by rw [List.cons_append, heard_cons continues, upTo more]; simp)
    simpa [Router.cancel] using whole

theorem parsePending_parses (cancels : List Seen → Bool) (turns : Nat) :
    ∀ receiving : Receiving, receiving.router.terminalFence = false →
      receiving.router.pending.length ≤ turns →
      Parses cancels receiving (frames.parse receiving.router.pending)
        ((Receiving.host cancels).parsePending turns receiving) := by
  induction turns with
  | zero =>
    intro receiving opened empty
    have none : receiving.router.pending = [] := List.eq_nil_of_length_eq_zero (by omega)
    have short : frames.front receiving.router.pending = .short := by rw [none]; rfl
    have parses : Parses cancels receiving (frames.parse receiving.router.pending) _ := .short
      (by rw [Grammar.parse_short short])
      (by rw [Grammar.parse_short short]; simp [heard])
    simpa [Host.parsePending, Grammar.parse_short short] using parses
  | succ turns ih =>
    intro receiving opened bounded
    cases judged : frames.front receiving.router.pending with
    | short =>
      have parses : Parses cancels receiving (frames.parse receiving.router.pending) _ := .short
        (by rw [Grammar.parse_short judged])
        (by rw [Grammar.parse_short judged]; simp [heard])
      simpa [Host.parsePending, Receiving.host, router_front, judged,
        Grammar.parse_short judged] using parses
    | malformed error =>
      obtain ⟨code, message⟩ := error
      have parses : Parses cancels receiving (frames.parse receiving.router.pending) _ :=
        .malformed code message
        (by rw [Grammar.parse_malformed judged])
        (by rw [Grammar.parse_malformed judged]; simp [heard])
      simpa [Host.parsePending, Receiving.host, router_front, judged,
        Grammar.parse_malformed judged] using parses
    | item length =>
      have inside := frames.item_inside judged
      rw [parsePending_item cancels turns receiving judged, Grammar.parse_item judged]
      by_cases stops : cancels
          (receiving.log ++ [delivery (receiving.router.pending.take length)]) = true
      · -- the consumer of this frame cancels
        have parses : Parses cancels receiving
            { frames.parse (receiving.router.pending.drop length) with
              items := receiving.router.pending.take length ::
                (frames.parse (receiving.router.pending.drop length)).items } _ :=
          .cancelled [receiving.router.pending.take length] _ rfl (by simp)
          (fun more => by simp [heard, stops])
        simpa [Receiving.consume, stops, Router.cancel] using parses
      · have rest := ih
          { router := { receiving.router with pending := receiving.router.pending.drop length }
            log := receiving.log ++ [delivery (receiving.router.pending.take length)] }
          opened (by simp only [List.length_drop]; omega)
        simp only [Receiving.consume, stops, Bool.false_eq_true, if_false]
        rw [if_neg (by rw [opened]; exact Bool.false_ne_true)]
        exact parses_behind stops rest

/-! ## Where a generation stands -/

/-- The router between two transfers of a generation, nothing having gone wrong. -/
def idle (generation : Nat) (pending : List UInt8) : Router where
  pending
  generation
  outstandingGeneration := 0
  outstanding := 0
  terminalFence := false
  terminalError := none

/-- Where a generation stands when the octets of `stream` have come in. -/
inductive Stands (generation : Nat) (stream : List UInt8) : Receiving → Prop where
  | reading (well : (frames.parse stream).failure = none) :
    Stands generation stream
      { router := idle generation (frames.parse stream).rest
        log := (frames.parse stream).items.map delivery }
  | failed {router : Router} (code : Nat) (message : String)
      (ill : (frames.parse stream).failure = some (code, message))
      (fenced : router.terminalFence = true)
      (error : router.terminalError = some (routerError code message)) :
    Stands generation stream { router, log := (frames.parse stream).items.map delivery }
  | cancelled {router : Router} (front later : List (List UInt8))
      (cut : (frames.parse stream).items = front ++ later) (some : front ≠ [])
      (fenced : router.terminalFence = true) (noError : router.terminalError = none)
      (dropped : router.pending = []) :
    Stands generation stream { router, log := front.map delivery ++ [.cancelled] }

theorem stands_begin (router : Router) {generation : Nat} (started : generation ≠ 0) :
    Stands generation [] ⟨router.beginGeneration generation, []⟩ := by
  have nothing : frames.parse [] = ⟨[], [], none⟩ := Grammar.parse_short rfl
  have stands : Stands generation [] _ := .reading (by rw [nothing])
  simpa [nothing, idle, Router.beginGeneration, started] using stands

/-- Behind the fence a transfer changes nothing. -/
theorem transfer_fenced {receiving : Receiving} (fenced : receiving.router.terminalFence = true)
    (generation : Nat) (transfer : Transfer) :
    receiving.transfer generation transfer = receiving := by
  simp [Receiving.transfer, Router.requestReceive, Host.receiveComplete, Receiving.host,
    Router.awaits, fenced]

theorem transfers_fenced {receiving : Receiving} (fenced : receiving.router.terminalFence = true)
    (generation : Nat) (cut : List Transfer) :
    Receiving.transfers generation receiving cut = receiving := by
  induction cut with
  | nil => rfl
  | cons transfer cut ih =>
    show Receiving.transfers generation (receiving.transfer generation transfer) cut = receiving
    rw [transfer_fenced fenced, ih]

/-- A transfer into an idle router is parsed behind what was held back. -/
theorem transfer_idle {generation : Nat} (started : generation ≠ 0) (pending : List UInt8)
    (log : List Seen) {transfer : Transfer} (fits : transfer.octets.length ≤ maxUint) :
    Receiving.transfer generation ⟨idle generation pending, log⟩ transfer =
      (Receiving.host transfer.cancels).parsePending (pending ++ transfer.octets).length
        ⟨idle generation (pending ++ transfer.octets), log⟩ := by
  have inBound : ¬ transfer.octets.length > maxUint := by omega
  simp only [Receiving.transfer, Router.requestReceive, idle, started, Bool.false_eq_true,
    or_self, if_false, ne_eq, not_true_eq_false, Host.receiveComplete, Receiving.host,
    Router.awaits, and_self, decide_true, if_true, inBound]

theorem stands_transfer {generation : Nat} {stream : List UInt8} {receiving : Receiving}
    (started : generation ≠ 0) (stands : Stands generation stream receiving)
    {transfer : Transfer} (fits : transfer.octets.length ≤ maxUint) :
    Stands generation (stream ++ transfer.octets) (receiving.transfer generation transfer) := by
  have extended := frames.parse_append stream transfer.octets
  cases stands with
  | reading well =>
    rw [transfer_idle started _ _ fits]
    rw [well] at extended
    have parses := parsePending_parses transfer.cancels
      ((frames.parse stream).rest ++ transfer.octets).length
      ⟨idle generation ((frames.parse stream).rest ++ transfer.octets),
        (frames.parse stream).items.map delivery⟩ rfl (Nat.le_refl _)
    generalize (Receiving.host transfer.cancels).parsePending _ _ = after at parses ⊢
    cases parses with
    | short rest all =>
      have stands : Stands generation (stream ++ transfer.octets) _ :=
        .reading (by rw [extended]; exact rest)
      rw [extended] at stands
      simpa [idle, Parsed.behind] using stands
    | malformed code message ill all =>
      have stands : Stands generation (stream ++ transfer.octets)
          ⟨(idle generation (frames.parse
            ((frames.parse stream).rest ++ transfer.octets)).rest).fail code message, _⟩ :=
        .failed code message (by rw [extended]; exact ill) rfl rfl
      rw [extended] at stands
      simpa [idle, Parsed.behind] using stands
    | cancelled front later cut some upTo =>
      have stands : Stands generation (stream ++ transfer.octets)
          ⟨(idle generation ((frames.parse stream).rest ++ transfer.octets)).cancel, _⟩ :=
        .cancelled ((frames.parse stream).items ++ front) later
        (by rw [extended]; exact (congrArg _ cut).trans (List.append_assoc ..).symm)
        (by simp [some]) rfl rfl rfl
      simpa using stands
  | failed code message ill fenced error =>
    rw [transfer_fenced fenced]
    rw [ill] at extended
    have stands : Stands generation (stream ++ transfer.octets) ⟨_, _⟩ :=
      .failed code message (by rw [extended]) fenced error
    rw [extended] at stands
    exact stands
  | cancelled front later cut some fenced noError dropped =>
    rw [transfer_fenced fenced]
    obtain ⟨more, items⟩ : ∃ more, (frames.parse (stream ++ transfer.octets)).items =
        (frames.parse stream).items ++ more := by
      rw [extended]
      cases (frames.parse stream).failure with
      | none => exact ⟨_, rfl⟩
      | some error => exact ⟨[], by simp⟩
    exact .cancelled front (later ++ more) (by rw [items, cut, List.append_assoc]) some fenced
      noError dropped

/-- A generation that has read the transfers of `cut` stands where the stream of `cut` puts
it. -/
theorem stands_transfers {generation : Nat} (started : generation ≠ 0) (cut : List Transfer) :
    ∀ stream receiving, Stands generation stream receiving →
      (∀ transfer ∈ cut, transfer.octets.length ≤ maxUint) →
      Stands generation (stream ++ streamOf cut)
        (Receiving.transfers generation receiving cut) := by
  induction cut with
  | nil =>
    intro stream receiving stands fits
    simpa [streamOf, Receiving.transfers] using stands
  | cons transfer cut ih =>
    intro stream receiving stands fits
    have first := stands_transfer started stands (fits transfer (by simp))
    have rest := ih _ _ first fun later member => fits later (by simp [member])
    simpa [streamOf, Receiving.transfers, List.append_assoc] using rest

/-! ## Consumers that decide by what they heard -/

theorem heard_append {cancels : List Seen → Bool} {log : List Seen} {items : List (List UInt8)}
    (all : heard cancels log items = log ++ items.map delivery) (more : List (List UInt8)) :
    heard cancels log (items ++ more) = heard cancels (log ++ items.map delivery) more := by
  induction items generalizing log with
  | nil => simp
  | cons frame items ih =>
    by_cases stops : cancels (log ++ [delivery frame]) = true
    · -- then the log would end in the cancel
      exfalso
      simp only [heard, stops, if_true, List.map_cons, List.append_assoc,
        List.append_cancel_left_eq, List.cons_append, List.nil_append, List.cons.injEq,
        true_and] at all
      exact cancelled_notMem_deliveries items (by rw [← all]; simp)
    · rw [heard_cons stops] at all
      rw [List.cons_append, heard_cons stops, ih (by rw [all]; simp)]
      simp

theorem heard_append_of_cancelled {cancels : List Seen → Bool} {log : List Seen}
    {items : List (List UInt8)} (before : Seen.cancelled ∉ log)
    (stopped : Seen.cancelled ∈ heard cancels log items) (more : List (List UInt8)) :
    heard cancels log (items ++ more) = heard cancels log items := by
  induction items generalizing log with
  | nil => exact absurd stopped before
  | cons frame items ih =>
    by_cases stops : cancels (log ++ [delivery frame]) = true
    · simp only [List.cons_append, heard, stops, if_true]
    · rw [heard_cons stops] at stopped
      rw [List.cons_append, heard_cons stops, heard_cons stops]
      exact ih (by simp [before, delivery]) stopped

theorem heard_transfer {generation : Nat} {stream : List UInt8} {receiving : Receiving}
    (started : generation ≠ 0) (stands : Stands generation stream receiving)
    {transfer : Transfer} (fits : transfer.octets.length ≤ maxUint)
    (hears : receiving.log = heard transfer.cancels [] (frames.parse stream).items) :
    (receiving.transfer generation transfer).log =
      heard transfer.cancels [] (frames.parse (stream ++ transfer.octets)).items := by
  rw [frames.parse_append stream transfer.octets]
  cases stands with
  | reading well =>
    rw [transfer_idle started _ _ fits, well]
    have parses := parsePending_parses transfer.cancels
      ((frames.parse stream).rest ++ transfer.octets).length
      ⟨idle generation ((frames.parse stream).rest ++ transfer.octets),
        (frames.parse stream).items.map delivery⟩ rfl (Nat.le_refl _)
    generalize (Receiving.host transfer.cancels).parsePending _ _ = after at parses ⊢
    show after.log = heard transfer.cancels [] (_ ++ _)
    rw [heard_append (by rw [← hears]; rfl), List.nil_append]
    cases parses with
    | short rest all => exact all.symm
    | malformed code message ill all => exact all.symm
    | cancelled front later cut some upTo =>
      have whole := upTo []
      rw [List.append_nil] at whole
      exact whole.symm
  | failed code message ill fenced error =>
    rw [transfer_fenced fenced, ill]
    exact hears
  | cancelled front later cut some fenced noError dropped =>
    rw [transfer_fenced fenced]
    have stopped : Seen.cancelled ∈ heard transfer.cancels [] (frames.parse stream).items := by
      rw [← hears]
      simp
    cases (frames.parse stream).failure with
    | none => exact hears.trans (heard_append_of_cancelled (by simp) stopped _).symm
    | some error => exact hears

theorem heard_transfers {generation : Nat} (started : generation ≠ 0)
    (cancels : List Seen → Bool) (cut : List Transfer) :
    ∀ stream receiving, Stands generation stream receiving →
      (∀ transfer ∈ cut, transfer.octets.length ≤ maxUint) →
      (∀ transfer ∈ cut, transfer.cancels = cancels) →
      receiving.log = heard cancels [] (frames.parse stream).items →
      (Receiving.transfers generation receiving cut).log =
        heard cancels [] (frames.parse (stream ++ streamOf cut)).items := by
  induction cut with
  | nil =>
    intro stream receiving stands fits uniform hears
    simpa [streamOf, Receiving.transfers] using hears
  | cons transfer cut ih =>
    intro stream receiving stands fits uniform hears
    have same := uniform transfer (by simp)
    have first := heard_transfer started stands (fits transfer (by simp))
      (by rw [same]; exact hears)
    have rest := ih _ _ (stands_transfer started stands (fits transfer (by simp)))
      (fun later member => fits later (by simp [member]))
      (fun later member => uniform later (by simp [member])) (by rw [first, same])
    simpa [streamOf, Receiving.transfers, List.append_assoc] using rest

/-! ## Chunk invariance -/

/-- The receiving of one generation, from its beginning. -/
def receiveAll (router : Router) (generation : Nat) (cut : List Transfer) : Receiving :=
  Receiving.transfers generation ⟨router.beginGeneration generation, []⟩ cut

def truncated : GError := routerError errorTruncated "stream ended with a truncated frame"

section

variable {generation : Nat} {stream : List UInt8} {receiving : Receiving}

theorem Stands.uncancelled (stands : Stands generation stream receiving)
    (uncancelled : Seen.cancelled ∉ receiving.log) :
    receiving.log = (frames.parse stream).items.map delivery ∧
      receiving.router.terminalError =
        (frames.parse stream).failure.map fun (code, message) => routerError code message := by
  cases stands with
  | reading well => exact ⟨rfl, by rw [well]; rfl⟩
  | failed code message ill fenced error => exact ⟨rfl, by rw [ill]; exact error⟩
  | cancelled front later cut some fenced noError dropped =>
    exact absurd (by simp) uncancelled

theorem Stands.stopped (stands : Stands generation stream receiving)
    (stopped : Seen.cancelled ∈ receiving.log) :
    ∃ front later, (frames.parse stream).items = front ++ later ∧ front ≠ [] ∧
      receiving.log = front.map delivery ++ [.cancelled] ∧
      receiving.router.terminalError = none := by
  cases stands with
  | reading well => exact absurd stopped (cancelled_notMem_deliveries _)
  | failed code message ill fenced error => exact absurd stopped (cancelled_notMem_deliveries _)
  | cancelled front later cut some fenced noError dropped =>
    exact ⟨front, later, cut, some, rfl, noError⟩

theorem Stands.settled (stands : Stands generation stream receiving)
    (ended : receiving.router.terminalError ≠ none ∨ Seen.cancelled ∈ receiving.log) :
    receiving.router.terminalFence = true := by
  cases stands with
  | reading well =>
    rcases ended with error | stopped
    · exact absurd rfl error
    · exact absurd stopped (cancelled_notMem_deliveries _)
  | failed code message ill fenced error => exact fenced
  | cancelled front later cut some fenced noError dropped => exact fenced

/-- An error of the grammar is never the one for a stream that ended too early. -/
theorem malformed_of_failure {code : Nat} {message : String}
    (ill : (frames.parse stream).failure = some (code, message)) : code = errorMalformed := by
  have found := frames.front_rest stream
  rw [ill] at found
  exact frameFront_malformed found

theorem Stands.finalize (stands : Stands generation stream receiving) :
    receiving.router.finalize.2 = some truncated ↔
      Seen.cancelled ∉ receiving.log ∧ (frames.parse stream).failure = none ∧
        (frames.parse stream).rest ≠ [] := by
  cases stands with
  | reading well =>
    by_cases ended : (frames.parse stream).rest = []
    · simp [Router.finalize, idle, ended]
    · simp [Router.finalize, idle, ended, well, cancelled_notMem_deliveries, Router.fail,
        truncated]
  | failed code message ill fenced error =>
    have malformed := malformed_of_failure ill
    simp [Router.finalize, fenced, error, ill, malformed, truncated, routerError, errorMalformed,
      errorTruncated]
  | cancelled front later cut some fenced noError dropped =>
    simp [Router.finalize, fenced, noError]

theorem Stands.held_back (stands : Stands generation stream receiving)
    (noError : receiving.router.terminalError = none) :
    receiving.router.pending.length < maxPayload + 4 := by
  cases stands with
  | reading well =>
    have short := frames.front_rest stream
    rw [well] at short
    exact length_lt_of_frameFront_short short
  | failed code message ill fenced error =>
    rw [error] at noError
    cases noError
  | cancelled front later cut some fenced noError dropped =>
    rw [dropped]
    decide

end

/-- However a stream is cut into transfers, the router delivers the frames of the one parse of
the stream, in order, up to the one whose consumer cancels, and ends in the error of that
parse.  Where the consumers decide by what they heard, the cut does not decide either where
they cancel. -/
theorem usb_router_chunk_invariance (router : Router) (generation : Nat) (cut : List Transfer)
    (started : generation ≠ 0) (fits : ∀ transfer ∈ cut, transfer.octets.length ≤ maxUint) :
    let parsed := frames.parse (streamOf cut)
    let received := receiveAll router generation cut
    (Seen.cancelled ∉ received.log →
      received.log = parsed.items.map delivery ∧
      received.router.terminalError =
        parsed.failure.map fun (code, message) => routerError code message) ∧
    (Seen.cancelled ∈ received.log →
      ∃ front later, parsed.items = front ++ later ∧ front ≠ [] ∧
        received.log = front.map delivery ++ [.cancelled] ∧
        received.router.terminalError = none) ∧
    (∀ cancels, (∀ transfer ∈ cut, transfer.cancels = cancels) →
      received.log = heard cancels [] parsed.items) ∧
    (received.router.terminalError ≠ none ∨ Seen.cancelled ∈ received.log →
      ∀ more, Receiving.transfers generation received more = received) ∧
    (received.router.finalize.2 = some truncated ↔
      Seen.cancelled ∉ received.log ∧ parsed.failure = none ∧ parsed.rest ≠ []) ∧
    (received.router.terminalError = none →
      received.router.pending.length < maxPayload + 4) := by
  intro parsed received
  have stands : Stands generation (streamOf cut) received := by
    have all := stands_transfers started cut [] _ (stands_begin router started) fits
    rwa [List.nil_append] at all
  have hears (cancels : List Seen → Bool)
      (uniform : ∀ transfer ∈ cut, transfer.cancels = cancels) :
      received.log = heard cancels [] parsed.items := by
    have nothing : frames.parse [] = ⟨[], [], none⟩ := Grammar.parse_short rfl
    have all := heard_transfers started cancels cut [] _ (stands_begin router started) fits
      uniform (by rw [nothing]; rfl)
    rwa [List.nil_append] at all
  exact ⟨stands.uncancelled, stands.stopped, hears,
    fun ended more => transfers_fenced (stands.settled ended) generation more, stands.finalize,
    stands.held_back⟩

/-- Two A0 frames, the second one cut in its header, in its body and by an empty transfer. -/
theorem usb_router_chunk_invariance_of_four_transfers :
    let cut : List Transfer :=
      [⟨[0xa0, 1, 0, 0xa1, 0x55, 0xb0], fun _ => false⟩, ⟨[], fun _ => false⟩,
        ⟨[2, 0, 7, 1], fun _ => false⟩, ⟨[2, 0xa0], fun _ => false⟩]
    (receiveAll Router.new 1 cut).log =
      heard (fun _ => false) [] (frames.parse (streamOf cut)).items :=
  (usb_router_chunk_invariance Router.new 1 _ (by decide) (by decide)).2.2.1 (fun _ => false)
    (by simp)

end Goodix.Usb
