import Goodix.PostTls.Grammar

/-! # The post-TLS conversation

Every move of the lifecycle keeps its position in the script: what is sent continues the
script and answers what was heard.
-/

namespace Goodix.PostTls

open Octets A0Protocol FdtIrqPolicy ImageDecoder Usb Traces

/-! ## What a prompt makes ready -/

theorem Arming.last {lifecycle : Lifecycle} {controls : List UInt8}
    (arming : Arming lifecycle controls) : controls.getLast? = some 0x32 := by
  obtain ⟨finished, -, -, rfl⟩ := arming
  have before : (began finished).getLast? = some 0x32 := by
    unfold began
    rcases List.eq_nil_or_concat finished with rfl | ⟨earlier, rearms, rfl⟩
    · rfl
    · simp [List.flatMap_append, ← List.append_assoc]
  cases lifecycle.firstContactIrq80Count with
  | zero => simpa using before
  | succ count => simp [List.replicate_succ']

theorem Within.last {lifecycle : Lifecycle} {done controls : List UInt8} {control : UInt8}
    (within : Within lifecycle done controls) (ends : done.getLast? = some control) :
    controls.getLast? = some control := by
  obtain ⟨finished, rearms, -, -, rfl⟩ := within
  rw [List.getLast?_append, ends]
  rfl

theorem Again.last {lifecycle : Lifecycle} {done controls : List UInt8}
    (again : Again lifecycle done controls) :
    controls.getLast? = some (done.getLast?.getD 0x32) := by
  obtain ⟨-, rearms, -, rfl⟩ := again
  rw [List.getLast?_append, List.getLast?_concat]
  cases done.getLast? <;> rfl

/-- Another command of the same contact. -/
theorem Within.next {lifecycle : Lifecycle} {done controls : List UInt8}
    (within : Within lifecycle done controls) (control : UInt8) :
    Within lifecycle (done ++ [control]) (controls ++ [control]) := by
  obtain ⟨finished, rearms, served, few, rfl⟩ := within
  exact ⟨finished, rearms, served, few, by simp⟩

theorem Acked.exchange {lifecycle : Lifecycle} {talk : Talk} {control : UInt8}
    {frame : List UInt8} {event : List UInt8 → Prop} (acked : Acked lifecycle talk)
    (expects : lifecycle.expectedAck = control) (holds : event frame) :
    Exchange (talk.note (.a0 frame)) control event := by
  obtain ⟨ack, heard, isAck⟩ := acked
  refine ⟨ack, frame, ?_, expects ▸ isAck, holds⟩
  show talk.heard ++ [.a0 frame] = _
  rw [heard]
  rfl

theorem Gathering.imaging {lifecycle : Lifecycle} {talk : Talk} {control : UInt8}
    {octets : List UInt8} {samples : List UInt16} (gathers : Gathering lifecycle talk)
    (expects : lifecycle.expectedAck = control)
    (complete : Completes lifecycle octets samples) :
    Imaging (talk.note (.plaintext octets)) control := by
  obtain ⟨ack, chunks, heard, isAck, pending⟩ := gathers
  refine ⟨ack, chunks ++ [octets], ?_, expects ▸ isAck, samples, ?_⟩
  · show talk.heard ++ [.plaintext octets] = _
    rw [heard]
    simp
  · unfold Completes at complete
    rw [pending] at complete
    simpa using complete

/-- The last command, from the position. -/
theorem Live.expects {lifecycle : Lifecycle} {delivery : Option Rest} {talk : Talk}
    {control : UInt8} (live : Live lifecycle delivery talk)
    (last : talk.controls.getLast? = some control) : lifecycle.expectedAck = control := by
  have begun : talk.controls ≠ [] := by
    intro empty
    rw [empty] at last
    cases last
  have same := live.last begun
  rw [last] at same
  exact (Option.some.inj same).symm

/-- What a prompt leaves alone. -/
structure Kept (lifecycle accepted : Lifecycle) : Prop where
  backend : accepted.backend = lifecycle.backend
  generation : accepted.generation = lifecycle.generation
  pending : accepted.outPending = lifecycle.outPending
  awaits : accepted.frameworkAwait = lifecycle.frameworkAwait
  handoff : accepted.firstArmHandoff = lifecycle.firstArmHandoff
  authorized : accepted.loginAuthorized = lifecycle.loginAuthorized
  profile : accepted.material.captureProfile = lifecycle.material.captureProfile

variable {lifecycle accepted : Lifecycle} {heard : List Noted} {talk : Talk} {control : UInt8}
  {body : List UInt8} {next : Phase}

theorem Prompt.kept (prompt : Prompt lifecycle heard accepted control body next) :
    Kept lifecycle accepted := by
  cases prompt <;> exact ⟨rfl, rfl, rfl, rfl, rfl, rfl, rfl⟩

theorem Prompt.answers (prompt : Prompt lifecycle heard accepted control body next) :
    answers next = true := by
  cases prompt <;> rfl

theorem Prompt.notes (prompt : Prompt lifecycle heard accepted control body next) (talk : Talk) :
    (heard.foldl Talk.note talk).controls = talk.controls ∧
      (heard.foldl Talk.note talk).completions = talk.completions ∧
      (heard.foldl Talk.note talk).awaiting = talk.awaiting := by
  cases prompt <;> exact ⟨rfl, rfl, rfl⟩

theorem Prompt.begun (prompt : Prompt lifecycle heard accepted control body next) :
    lifecycle.phase ≠ .notStarted ∧ lifecycle.phase ≠ .stop := by
  cases prompt <;> simp_all

theorem Prompt.whole (prompt : Prompt lifecycle heard accepted control body next)
    (live : Live lifecycle none talk) : accepted.plaintextPending = [] := by
  cases prompt with
  | baselineImage phase complete => rfl
  | d4 phase | controllerState phase | firstSample phase | nav phase | secondSample phase
  | threshold phase | thirdSample phase | irq80 timestamp phase | fingerUp phase
  | released phase => exact live.whole (by rw [phase]; rfl)

theorem Prompt.boots (prompt : Prompt lifecycle heard accepted control body next)
    (live : Live lifecycle none talk) (booting : booting next = true) :
    accepted.loginAuthorized = false ∧ accepted.firstContactIrq80Count = 0 ∧
      accepted.irq80RearmPending = false := by
  cases prompt with
  | d4 phase | controllerState phase | firstSample phase | nav phase | secondSample phase
  | threshold phase | baselineImage phase => exact live.boots (by rw [phase]; rfl)
  | thirdSample | irq80 | fingerUp | released => cases booting

theorem Prompt.follows (prompt : Prompt lifecycle heard accepted control body next)
    (live : Live lifecycle none talk) (last : UInt8) (isLast : talk.controls.getLast? = some last) :
    Follows (heard.foldl Talk.note talk) last control := by
  obtain ⟨told, hears⟩ := live.stands
  unfold Told at told
  unfold Hears at hears
  have expects := live.expects isLast
  cases prompt with
  | d4 phase fresh ack =>
    rw [phase] at told hears
    rw [told] at isLast
    cases isLast
    refine .d4 ?_ (expects ▸ ack)
    show talk.heard ++ _ = _
    rw [hears.2]
    rfl
  | controllerState phase state =>
    rw [phase] at told hears
    rw [told] at isLast
    cases isLast
    refine .controllerState ?_ state
    show talk.heard ++ _ = _
    rw [hears.2]
    rfl
  | firstSample phase baseline room derived =>
    rw [phase] at told hears
    rw [told] at isLast
    cases isLast
    exact .sample (Acked.exchange hears expects ⟨_, baseline⟩) (.inl rfl)
  | secondSample phase baseline room derived =>
    rw [phase] at told hears
    rw [told] at isLast
    cases isLast
    exact .sample (Acked.exchange hears expects ⟨_, baseline⟩) (.inr (.inl rfl))
  | thirdSample phase baseline room derived classified valid both within =>
    rw [phase] at told hears
    rw [told] at isLast
    cases isLast
    exact .sample (Acked.exchange hears expects ⟨_, baseline⟩) (.inr (.inr rfl))
  | nav phase seen nav =>
    rw [phase] at told hears
    rw [told] at isLast
    cases isLast
    rcases hears with quiet | ⟨-, acked⟩
    · cases seen.symm.trans quiet.1
    · exact .nav (acked.exchange expects nav)
  | threshold phase seen read both within =>
    rw [phase] at told hears
    rw [told] at isLast
    cases isLast
    rcases hears with quiet | ⟨-, acked⟩
    · cases seen.symm.trans quiet.1
    · exact .threshold (acked.exchange expects ⟨_, read⟩)
  | baselineImage phase complete =>
    rw [phase] at told hears
    rw [told] at isLast
    cases isLast
    exact .baseline (Gathering.imaging hears expects complete)
  | irq80 timestamp phase allowed irq80 below derived =>
    rw [phase] at told hears
    rw [Arming.last told] at isLast
    cases isLast
    exact .irq80 (Acked.exchange hears expects ⟨_, irq80⟩)
  | fingerUp phase up derived =>
    rw [phase] at told hears
    rw [Within.last told rfl] at isLast
    cases isLast
    exact .fingerUp (Acked.exchange hears expects ⟨_, up⟩)
  | @released octets phase =>
    rw [phase] at told hears
    rw [Within.last told rfl] at isLast
    cases isLast
    have expects : lifecycle.expectedAck = 0x20 := expects
    obtain ⟨ack, heard, isAck⟩ := hears
    have whole : talk.heard ++ [.plaintext octets] = [.a0 ack, .plaintext octets] := by
      rw [heard]
      rfl
    exact .released whole (expects ▸ isAck)

theorem Prompt.told (prompt : Prompt lifecycle heard accepted control body next)
    (live : Live lifecycle none talk) :
    Told (accepted.sentWith control next) (talk.controls ++ [control]) := by
  obtain ⟨told, -⟩ := live.stands
  unfold Told at told ⊢
  cases prompt with
  | d4 phase | controllerState phase | firstSample phase | nav phase | secondSample phase
  | threshold phase | baselineImage phase =>
    rw [phase] at told
    show talk.controls ++ _ = _
    rw [told]
    rfl
  | thirdSample phase =>
    rw [phase] at told
    obtain ⟨unauthorized, count, -⟩ := live.boots (by rw [phase]; rfl)
    refine ⟨[], ⟨nofun, Nat.zero_le 2, nofun, ?_, fun _ => rfl⟩, ?_, ?_⟩
    · intro authorized
      rw [show lifecycle.loginAuthorized = true from authorized] at unauthorized
      cases unauthorized
    · show lifecycle.firstContactIrq80Count ≤ 2
      omega
    · show talk.controls ++ [0x32] = began [] ++ List.replicate lifecycle.firstContactIrq80Count _
      rw [told, count]
      rfl
  | irq80 timestamp phase allowed irq80 below derived =>
    rw [phase] at told
    obtain ⟨finished, served, few, controls⟩ := told
    refine ⟨finished, served, ?_, ?_⟩
    · show lifecycle.firstContactIrq80Count + 1 ≤ 2
      omega
    · show talk.controls ++ [0x32] =
        began finished ++ List.replicate (lifecycle.firstContactIrq80Count + 1) 0x32
      rw [controls, List.replicate_succ', List.append_assoc]
  | fingerUp phase =>
    rw [phase] at told
    exact Within.next told 0x20
  | released phase =>
    rw [phase] at told
    exact Within.next told 0x50

theorem Prompt.ready (prompt : Prompt lifecycle heard accepted control body next)
    (live : Live lifecycle none talk) (free : accepted.outPending = false) :
    Ready accepted (heard.foldl Talk.note talk) control next := by
  have kept := prompt.kept
  obtain ⟨controls, completions, awaiting⟩ := prompt.notes talk
  obtain ⟨begun, unstopped⟩ := prompt.begun
  have unpended : lifecycle.outPending = false := kept.pending ▸ free
  refine
    { generation := by rw [kept.backend, kept.generation]; exact live.generation
      sync := by rw [kept.backend]; exact live.sync
      owner := ?_
      done := by rw [controls, completions]; exact (live.free unpended).2
      follows := by rw [controls]; exact prompt.follows live
      after := prompt.answers
      boots := prompt.boots live
      whole := prompt.whole live
      awaits := by rw [awaiting, kept.awaits]; exact live.awaits
      handoff := ?_
      told := by rw [controls]; exact prompt.told live }
  · rw [kept.backend]
    exact (live.owner begun).resolve_right fun handed => unstopped handed.1
  · intro set
    rw [kept.handoff] at set
    obtain ⟨unauthorized, unarmed, elsewhere⟩ := live.handoff set
    refine ⟨kept.authorized ▸ unauthorized, ?_⟩
    cases prompt with
    | irq80 timestamp phase => exact absurd phase elsewhere
    | _ => exact unarmed

/-! ## Every move keeps the position -/

/-- No entry is a command. -/
def Silent (noted : List Noted) : Prop := ∀ control packet, .submitted control packet ∉ noted

theorem Silent.controls {noted : List Noted} (silent : Silent noted) (talk : Talk) :
    (noted.foldl Talk.note talk).controls = talk.controls := by
  induction noted generalizing talk with
  | nil => rfl
  | cons entry noted ih =>
    have later := ih (fun control packet inside =>
      silent control packet (List.mem_cons_of_mem _ inside)) (talk.note entry)
    refine later.trans ?_
    cases entry with
    | submitted control packet => exact absurd (List.mem_cons_self ..) (silent control packet)
    | _ => rfl

theorem Prompt.silent (prompt : Prompt lifecycle heard accepted control body next) :
    Silent heard := by
  intro control packet
  cases prompt <;> simp

/-- A login gate only allows more. -/
theorem Script.mono {profile : CaptureProfile} {gate wider : Bool} {script : List UInt8}
    (widens : gate = true → wider = true) (holds : Script profile gate script) :
    Script profile wider script := by
  cases holds with
  | single few => exact .single few
  | twice two few => exact .twice two few
  | logins one gate few last contacts => exact .logins one (widens gate) few last contacts

variable {profile : CaptureProfile} {log : List Noted} {desk : Desk}

/-- What sends no command keeps everything but the position. -/
theorem Holds.on (holds : Holds profile log desk) {noted : List Noted} {after : Desk}
    (silent : Silent noted)
    (gate : desk.lifecycle.loginGate = true → after.lifecycle.loginGate = true)
    (captures : after.lifecycle.material.captureProfile =
      desk.lifecycle.material.captureProfile)
    (live : after.lifecycle.backend.terminalFence = false →
      Live after.lifecycle after.delivery (noted.foldl Talk.note (talkOf log))) :
    Holds profile (log ++ noted) after := by
  obtain ⟨script, whole, isPrefix⟩ := holds.scripted
  refine ⟨lawful_silent holds.lawful noted silent, ⟨script, whole.mono gate, ?_⟩,
    captures.trans holds.profile, ?_⟩
  · rw [talkOf_append, silent.controls]
    exact isPrefix
  · rw [talkOf_append]
    exact live

theorem Holds.fallen (holds : Holds profile log desk) {before after : Lifecycle}
    {reason : GError} {noted : List Noted} (delivery : Option Rest) (silent : Silent noted)
    (fallen : Fallen before reason after)
    (gate : before.loginGate = desk.lifecycle.loginGate)
    (captures : before.material.captureProfile = desk.lifecycle.material.captureProfile) :
    Holds profile (log ++ noted) ⟨after, delivery⟩ := by
  refine holds.on silent (fun set => ?_) (fallen.profile.trans captures) fun unfenced => ?_
  · show after.loginGate = true
    rw [fallen.gate, gate]
    exact set
  · rw [fallen.fenced] at unfenced
    cases unfenced

/-- The ACK of a phase that only moves on. -/
structure Advances (phase next : Phase) : Prop where
  begun : phase ≠ .notStarted
  unstopped : phase ≠ .stop
  running : next ≠ .terminal
  started : next ≠ .notStarted
  beyond : next ≠ .firstIrq2
  boots : booting next = true → booting phase = true
  whole : gathering phase = false

theorem afterAck_advances {phase next : Phase} (advances : afterAck phase = some next) :
    Advances phase next := by
  cases phase <;> simp only [afterAck, reduceCtorEq, Option.some.injEq] at advances <;>
    subst advances <;> exact ⟨nofun, nofun, nofun, nofun, nofun, id, rfl⟩

theorem Live.acked_stands (live : Live lifecycle none talk) {frame : List UInt8}
    (advances : afterAck lifecycle.phase = some next) (ack : IsAck lifecycle.expectedAck frame)
    (fresh : lifecycle.ackSeen = false) :
    Stands { lifecycle with ackSeen := true, phase := next } (some .nothing)
      (talk.note (.a0 frame)) := by
  obtain ⟨told, hears⟩ := live.stands
  have pending := live.whole (afterAck_advances advances).whole
  have onlyAck (quiet : Quiet lifecycle talk) :
      Acked { lifecycle with ackSeen := true, phase := next } (talk.note (.a0 frame)) := by
    refine ⟨frame, ?_, ack⟩
    show talk.heard ++ _ = _
    rw [quiet.2]
    rfl
  have gathers (quiet : Quiet lifecycle talk) :
      Gathering { lifecycle with ackSeen := true, phase := next } (talk.note (.a0 frame)) := by
    refine ⟨frame, [], ?_, ack, pending⟩
    show talk.heard ++ _ = _
    rw [quiet.2]
    rfl
  have unseen (either : Quiet lifecycle talk ∨ (lifecycle.ackSeen = true ∧ Acked lifecycle talk)) :
      Quiet lifecycle talk := by
    rcases either with quiet | ⟨seen, -⟩
    · exact quiet
    · cases fresh.symm.trans seen
  unfold Told at told
  unfold Hears at hears
  cases phase : lifecycle.phase with
  | fdt36_1 | fdt36_2 | fdt36_3 | release_34 | release_20 | release_50 | secondArm =>
    rw [phase] at advances told hears
    cases advances
    exact ⟨told, onlyAck hears⟩
  | fdtNav_1 | fdt_82 =>
    rw [phase] at advances told hears
    cases advances
    exact ⟨told, .inr ⟨rfl, onlyAck (unseen hears)⟩⟩
  | fdt_20 | first_22 | second_22 =>
    rw [phase] at advances told hears
    cases advances
    exact ⟨told, gathers hears⟩
  | _ =>
    rw [phase] at advances
    cases advances

theorem Live.acked (live : Live lifecycle none talk) {frame : List UInt8}
    (advances : afterAck lifecycle.phase = some next) (fresh : lifecycle.ackSeen = false)
    (ack : IsAck lifecycle.expectedAck frame) :
    Live { lifecycle with ackSeen := true, phase := next } (some .nothing)
      (talk.note (.a0 frame)) := by
  have facts := afterAck_advances advances
  exact { live with
    running := facts.running
    boots := fun boots => live.boots (facts.boots boots)
    early := fun begun => absurd begun facts.started
    owner := fun _ => .inl ((live.owner facts.begun).resolve_right
      fun handed => facts.unstopped handed.1)
    handoff := fun set => ⟨(live.handoff set).1, (live.handoff set).2.1, facts.beyond⟩
    whole := fun _ => live.whole facts.whole
    stands := live.acked_stands advances ack fresh }

/-- The phase of a contact, with the facts that do not depend on the position. -/
theorem Live.moved {before after : Lifecycle} {delivery later : Option Rest} {talk noted : Talk}
    (live : Live before delivery talk)
    (begun : before.phase ≠ .notStarted) (unstopped : before.phase ≠ .stop)
    (running : after.phase ≠ .terminal) (started : booting after.phase = false)
    (backend : after.backend = before.backend) (generation : after.generation = before.generation)
    (pending : after.outPending = before.outPending)
    (expects : after.expectedAck = before.expectedAck)
    (awaits : after.frameworkAwait = before.frameworkAwait)
    (controls : noted.controls = talk.controls) (completions : noted.completions = talk.completions)
    (awaiting : noted.awaiting = talk.awaiting)
    (handoff : after.firstArmHandoff = true →
      after.loginAuthorized = false ∧ after.irq80RearmPending = false ∧ after.phase ≠ .firstIrq2)
    (whole : gathering after.phase = false → after.plaintextPending = [])
    (stands : Stands after later noted) : Live after later noted where
  running := running
  generation := by rw [backend, generation]; exact live.generation
  sync := by rw [backend]; exact live.sync
  busy := by rw [pending, backend, generation, completions]; exact live.busy
  free := by rw [pending, backend, controls, completions]; exact live.free
  last := by rw [controls, expects]; exact live.last
  boots := fun boots => absurd boots (by rw [started]; nofun)
  early := fun early => by rw [early] at started; cases started
  owner := fun _ => .inl (by
    rw [backend]
    exact (live.owner begun).resolve_right fun handed => unstopped handed.1)
  handoff := handoff
  whole := whole
  awaits := by rw [awaits, awaiting]; exact live.awaits
  stands := stands

/-- The first ACK after arming. -/
theorem Live.heardAck (live : Live lifecycle none talk) {frame : List UInt8} {after : Lifecycle}
    (phase : lifecycle.phase = .firstArm) (ack : IsAck lifecycle.expectedAck frame)
    (expects : after.expectedAck = lifecycle.expectedAck) :
    Arming lifecycle talk.controls ∧ Acked after (talk.note (.a0 frame)) := by
  obtain ⟨told, hears⟩ := live.stands
  unfold Told at told
  unfold Hears at hears
  rw [phase] at told hears
  refine ⟨told, frame, ?_, expects ▸ ack⟩
  show talk.heard ++ _ = _
  rw [hears.2]
  rfl

theorem Live.rearmed (live : Live lifecycle none talk) {frame : List UInt8}
    (phase : lifecycle.phase = .firstArm) (ack : IsAck lifecycle.expectedAck frame)
    (pending : lifecycle.irq80RearmPending = true) :
    Live { lifecycle with ackSeen := true, irq80RearmPending := false, phase := .firstIrq2 }
      (some .nothing) (talk.note (.a0 frame)) := by
  refine live.moved (by rw [phase]; nofun) (by rw [phase]; nofun) nofun rfl rfl rfl rfl rfl rfl
    rfl rfl rfl (fun set => ?_) (fun _ => live.whole (by rw [phase]; rfl))
    (live.heardAck phase ack rfl)
  -- a lifecycle that hands off never rearms
  have unarmed := (live.handoff set).2.1
  cases pending.symm.trans unarmed

theorem Live.armed (live : Live lifecycle none talk) {frame : List UInt8}
    (phase : lifecycle.phase = .firstArm) (ack : IsAck lifecycle.expectedAck frame)
    (kept : lifecycle.firstArmHandoff = false) :
    Live { lifecycle with ackSeen := true, phase := .firstIrq2 } (some .nothing)
      (talk.note (.a0 frame)) := by
  refine live.moved (by rw [phase]; nofun) (by rw [phase]; nofun) nofun rfl rfl rfl rfl rfl rfl
    rfl rfl rfl (fun set => ?_) (fun _ => live.whole (by rw [phase]; rfl))
    (live.heardAck phase ack rfl)
  cases kept.symm.trans set

theorem Live.handedOff (live : Live lifecycle none talk) {frame : List UInt8}
    (accepted : Bool) (error : Option GError) (phase : lifecycle.phase = .firstArm)
    (configured : lifecycle.firstArmHandoff = true) (free : lifecycle.outPending = false) :
    Live { lifecycle with
        ackSeen := true
        backend := { lifecycle.backend with outCompletedCallback := none }
        backendCallbackOwned := false
        phase := .stop }
      (some (.handedOff accepted error)) (talk.note (.a0 frame)) := by
  have unauthorized := (live.handoff configured).1
  exact { live with
    running := nofun
    busy := fun pending => by cases free.symm.trans pending
    boots := nofun
    early := nofun
    owner := fun _ => .inr ⟨rfl, unauthorized⟩
    handoff := fun set => ⟨(live.handoff set).1, (live.handoff set).2.1, nofun⟩
    whole := fun _ => live.whole (by rw [phase]; rfl)
    stands := ⟨.inr (.inl unauthorized), .inr (.inl unauthorized)⟩ }

theorem Live.firstFinger (live : Live lifecycle none talk) {frame : List UInt8} {event : Event}
    (table : Block 12) (phase : lifecycle.phase = .firstIrq2) (down : IsFingerDown event frame) :
    Live { lifecycle with firstUpTable := table, firstContactIrq80Count := 0 }
      (some (.imageCommand false)) (talk.note (.a0 frame)) := by
  obtain ⟨told, hears⟩ := live.stands
  unfold Told at told
  unfold Hears at hears
  rw [phase] at told hears
  have expects := live.expects (Arming.last told)
  have booted : booting lifecycle.phase = false := by
    rw [phase]
    rfl
  have before : Within lifecycle [] talk.controls := Arming.within told
  have within : Within { lifecycle with firstUpTable := table, firstContactIrq80Count := 0 } []
      talk.controls := before
  exact live.moved (by rw [phase]; nofun) (by rw [phase]; nofun) live.running booted rfl rfl rfl
    rfl rfl rfl rfl rfl live.handoff (fun _ => live.whole (by rw [phase]; rfl))
    ⟨phase, within, Acked.exchange hears expects ⟨event, down⟩⟩

theorem Live.secondFinger (live : Live lifecycle none talk) {frame : List UInt8} {event : Event}
    (phase : lifecycle.phase = .secondIrq2) (down : IsFingerDown event frame) :
    Live lifecycle (some (.imageCommand true)) (talk.note (.a0 frame)) := by
  obtain ⟨told, hears⟩ := live.stands
  unfold Told at told
  unfold Hears at hears
  rw [phase] at told hears
  have expects := live.expects (Again.last told)
  have booted : booting lifecycle.phase = false := by
    rw [phase]
    rfl
  exact live.moved (by rw [phase]; nofun) (by rw [phase]; nofun) live.running booted rfl rfl rfl
    rfl rfl rfl rfl rfl live.handoff (fun _ => live.whole (by rw [phase]; rfl))
    ⟨phase, told, Acked.exchange hears expects ⟨event, down⟩⟩

theorem Live.chunk (live : Live lifecycle none talk) (octets : List UInt8)
    (slot : lifecycle.phase = .fdtB0 ∨ lifecycle.phase = .firstB0 ∨
      lifecycle.phase = .secondB0) :
    Live { lifecycle with plaintextPending := lifecycle.plaintextPending ++ octets }
      (some .nothing) (talk.note (.plaintext octets)) := by
  obtain ⟨told, hears⟩ := live.stands
  have gathers : gathering lifecycle.phase = true := by
    rcases slot with phase | phase | phase <;> rw [phase] <;> rfl
  have more : Gathering lifecycle talk →
      Gathering { lifecycle with plaintextPending := lifecycle.plaintextPending ++ octets }
        (talk.note (.plaintext octets)) := by
    rintro ⟨ack, chunks, heard, isAck, pending⟩
    refine ⟨ack, chunks ++ [octets], ?_, isAck, ?_⟩
    · show talk.heard ++ _ = _
      rw [heard]
      simp
    · show lifecycle.plaintextPending ++ octets = _
      rw [pending]
      simp
  refine { live with
    whole := fun elsewhere => by cases gathers.symm.trans elsewhere
    stands := ⟨told, ?_⟩ }
  unfold Hears at hears ⊢
  rcases slot with phase | phase | phase
  · rw [phase] at hears
    simp only [phase]
    exact more hears
  · rw [phase] at hears
    simp only [phase]
    exact more hears
  · rw [phase] at hears
    simp only [phase]
    exact more hears

theorem Live.firstImage (live : Live lifecycle none talk) {octets : List UInt8}
    {samples : List UInt16} (accepted : Bool) (error : Option GError)
    (phase : lifecycle.phase = .firstB0) (complete : Completes lifecycle octets samples) :
    Live { lifecycle with plaintextPending := [] } (some (.firstImage accepted error))
      (talk.note (.plaintext octets)) := by
  obtain ⟨told, hears⟩ := live.stands
  unfold Told at told
  unfold Hears at hears
  rw [phase] at told hears
  have expects := live.expects (Within.last told rfl)
  exact { live with
    whole := fun _ => rfl
    stands := ⟨phase, rfl, told, Gathering.imaging hears expects complete⟩ }

theorem Live.secondImage (live : Live lifecycle none talk) {octets : List UInt8}
    {samples : List UInt16} (accepted : Bool) (error : Option GError)
    (phase : lifecycle.phase = .secondB0) (complete : Completes lifecycle octets samples) :
    Live { lifecycle with plaintextPending := [] } (some (.secondImage accepted error))
      (talk.note (.plaintext octets)) := by
  obtain ⟨told, hears⟩ := live.stands
  unfold Told at told
  unfold Hears at hears
  rw [phase] at told hears
  have expects := live.expects (Again.last told)
  exact { live with
    whole := fun _ => rfl
    stands := ⟨phase, rfl, told, Gathering.imaging hears expects complete⟩ }

theorem Live.contactOver (live : Live lifecycle none talk) {frame : List UInt8}
    (phase : lifecycle.phase = .releaseNav) (nav : IsNav frame) :
    Live { lifecycle with
        phase :=
          if lifecycle.material.captureProfile = .singleAcquisition then .stop
          else .rearmGate }
      (some .rearm) (talk.note (.a0 frame)) := by
  obtain ⟨told, hears⟩ := live.stands
  unfold Told at told
  unfold Hears at hears
  rw [phase] at told hears
  have expects := live.expects (Within.last told rfl)
  have exchange : Exchange (talk.note (.a0 frame)) 0x50 IsNav := Acked.exchange hears expects nav
  have whole := live.whole (by rw [phase]; rfl)
  cases profile : lifecycle.material.captureProfile with
  | singleAcquisition =>
    exact live.moved (by rw [phase]; nofun) (by rw [phase]; nofun) nofun rfl rfl rfl rfl rfl rfl
      rfl rfl rfl (fun set => ⟨(live.handoff set).1, (live.handoff set).2.1, nofun⟩)
      (fun _ => whole) ⟨.inl told, .inl exchange⟩
  | twoAcquisition =>
    exact live.moved (by rw [phase]; nofun) (by rw [phase]; nofun) nofun rfl rfl rfl rfl rfl rfl
      rfl rfl rfl (fun set => ⟨(live.handoff set).1, (live.handoff set).2.1, nofun⟩)
      (fun _ => whole) ⟨⟨profile, told⟩, exchange⟩

theorem Holds.delivered (holds : Holds profile log desk) (idle : desk.delivery = none)
    {noted : List Noted} {after : Lifecycle} {callouts : List Callout} {rest : Rest}
    (delivered : Delivered desk.lifecycle noted after callouts rest) :
    Holds profile (log ++ noted) ⟨after, some rest⟩ := by
  obtain ⟨lifecycle, delivery⟩ := desk
  obtain rfl : delivery = none := idle
  cases delivered with
  | ignored =>
    refine holds.on nofun id rfl fun unfenced => ?_
    have live := holds.live unfenced
    exact { live with stands := live.stands }
  | rejectedFrame frame fallen | rejectedPlaintext octets fallen =>
    exact holds.fallen _ (by simp [Silent]) fallen rfl rfl
  | unsent prompt fallen =>
    refine holds.fallen _ ?_ fallen rfl rfl
    intro control packet
    simp [prompt.silent control packet]
  | @sent heard accepted control body packet next prompt sends =>
    have unfenced : lifecycle.backend.terminalFence = false := by
      rw [← prompt.kept.backend]
      exact sends.unfenced
    have ready := prompt.ready (holds.live unfenced) sends.free
    rw [← talkOf_append] at ready
    rw [← List.append_assoc]
    exact ready.holds (lawful_silent holds.lawful heard prompt.silent)
      (prompt.kept.profile.trans holds.profile) rfl
  | acked advances fresh ack =>
    refine holds.on (by simp [Silent]) id rfl fun unfenced => ?_
    exact (holds.live unfenced).acked advances fresh ack
  | rearmed phase fresh ack pending =>
    exact holds.on (by simp [Silent]) id rfl fun unfenced =>
      (holds.live unfenced).rearmed phase ack pending
  | handoff accepted error phase fresh ack unarmed configured free =>
    exact holds.on (by simp [Silent]) id rfl fun unfenced =>
      (holds.live unfenced).handedOff accepted error phase configured free
  | armed phase fresh ack unarmed kept =>
    exact holds.on (by simp [Silent]) id rfl fun unfenced =>
      (holds.live unfenced).armed phase ack kept
  | @firstFinger frame event table phase allowed down derived =>
    exact holds.on (by simp [Silent]) id rfl fun unfenced =>
      (holds.live unfenced).firstFinger table phase down
  | secondFinger phase allowed down =>
    exact holds.on (by simp [Silent]) id rfl fun unfenced =>
      (holds.live unfenced).secondFinger phase down
  | @chunk octets slot short =>
    exact holds.on (by simp [Silent]) id rfl fun unfenced =>
      (holds.live unfenced).chunk octets slot
  | firstImage accepted error phase complete =>
    exact holds.on (by simp [Silent]) id rfl fun unfenced =>
      (holds.live unfenced).firstImage accepted error phase complete
  | secondImage accepted error phase complete =>
    exact holds.on (by simp [Silent]) id rfl fun unfenced =>
      (holds.live unfenced).secondImage accepted error phase complete
  | contactOver phase nav =>
    exact holds.on (by simp [Silent]) id rfl fun unfenced =>
      (holds.live unfenced).contactOver phase nav

/-! ## The ends of deliveries -/

/-- The facts of a lifecycle whose next command does not depend on its phase alone. -/
theorem Live.ready {delivery : Option Rest} (live : Live lifecycle delivery talk)
    (begun : lifecycle.phase ≠ .notStarted) (unstopped : lifecycle.phase ≠ .stop)
    (unready : lifecycle.firstArmHandoff = true → lifecycle.irq80RearmPending = false)
    (free : lifecycle.outPending = false) (whole : lifecycle.plaintextPending = [])
    (after : answers next = true) (booted : booting next = false)
    (follows : ∀ last, talk.controls.getLast? = some last → Follows talk last control)
    (told : Told (lifecycle.sentWith control next) (talk.controls ++ [control])) :
    Ready lifecycle talk control next where
  generation := live.generation
  sync := live.sync
  owner := (live.owner begun).resolve_right fun handed => unstopped handed.1
  done := (live.free free).2
  follows := follows
  after := after
  boots := fun boots => by cases booted.symm.trans boots
  whole := whole
  awaits := live.awaits
  handoff := fun set => ⟨(live.handoff set).1, unready set⟩
  told := told

theorem Live.imageCommand {second : Bool}
    (live : Live lifecycle (some (.imageCommand second)) talk)
    (free : lifecycle.outPending = false) :
    Ready lifecycle talk 0x22 (Lifecycle.imagePhase second) := by
  cases second with
  | false =>
    obtain ⟨phase, within, exchange⟩ := live.stands
    have last : talk.controls.getLast? = some 0x32 := by
      obtain ⟨finished, rearms, served, few, same⟩ := within
      have arming : Arming { lifecycle with firstContactIrq80Count := rearms } talk.controls :=
        ⟨finished, served, few, by simpa using same⟩
      exact arming.last
    refine live.ready (by rw [phase]; nofun) (by rw [phase]; nofun)
      (fun set => (live.handoff set).2.1) free (live.whole (by rw [phase]; rfl)) rfl rfl
      (fun control isLast => ?_) (Within.next within 0x22)
    rw [last] at isLast
    cases isLast
    exact .fingerDown exchange
  | true =>
    obtain ⟨phase, again, exchange⟩ := live.stands
    refine live.ready (by rw [phase]; nofun) (by rw [phase]; nofun)
      (fun set => (live.handoff set).2.1) free (live.whole (by rw [phase]; rfl)) rfl rfl
      (fun control isLast => ?_) ?_
    · rw [again.last] at isLast
      cases isLast
      exact .fingerDown exchange
    · obtain ⟨two, rearms, few, same⟩ := again
      exact ⟨two, rearms, few, by rw [same]; simp⟩

theorem Live.afterFirstImage {accepted : Bool} {error : Option GError}
    (live : Live lifecycle (some (.firstImage accepted error)) talk)
    (free : lifecycle.outPending = false) : Ready lifecycle talk 0x34 .release_34 := by
  obtain ⟨phase, whole, within, imaging⟩ := live.stands
  refine live.ready (by rw [phase]; nofun) (by rw [phase]; nofun)
    (fun set => (live.handoff set).2.1) free whole rfl rfl (fun control isLast => ?_)
    (Within.next within 0x34)
  rw [within.last rfl] at isLast
  cases isLast
  exact .image imaging

theorem Live.afterSecondImage {accepted : Bool} {error : Option GError}
    (live : Live lifecycle (some (.secondImage accepted error)) talk) :
    Live { lifecycle with phase := .stop } none talk := by
  obtain ⟨phase, whole, again, imaging⟩ := live.stands
  exact live.moved (by rw [phase]; nofun) (by rw [phase]; nofun) nofun rfl rfl rfl rfl rfl rfl
    rfl rfl rfl (fun set => ⟨(live.handoff set).1, (live.handoff set).2.1, nofun⟩)
    (fun _ => whole) ⟨.inr (.inr again.1), .inr (.inr again.1)⟩

/-- The second arming, once the framework awaits a finger. -/
theorem Live.rearm {delivery : Option Rest} (live : Live lifecycle delivery talk)
    (idle : light delivery = true) (phase : lifecycle.phase = .rearmGate)
    (awaits : lifecycle.frameworkAwait = true) (free : lifecycle.outPending = false) :
    Ready { lifecycle with rearmSubmitted := true } talk 0x32 .secondArm := by
  obtain ⟨told, hears⟩ := (stands_light idle).mp live.stands
  unfold Told at told
  unfold Hears at hears
  rw [phase] at told hears
  obtain ⟨two, within⟩ := told
  have ready : Ready lifecycle talk 0x32 .secondArm := by
    refine live.ready (by rw [phase]; nofun) (by rw [phase]; nofun)
      (fun set => (live.handoff set).2.1) free (live.whole (by rw [phase]; rfl)) rfl rfl
      (fun control isLast => ?_) ?_
    · rw [within.last rfl] at isLast
      cases isLast
      exact .again hears (.inl (live.awaits ▸ awaits))
    · -- there is no earlier contact in this profile
      obtain ⟨finished, rearms, served, few, same⟩ := within
      have first : finished = [] := by
        by_contra later
        have one : lifecycle.material.captureProfile = .singleAcquisition :=
          (served.single later).1
        rw [two] at one
        cases one
      refine ⟨two, rearms, few, ?_⟩
      rw [same, first, began_nil]
      simp [contact, wholeContact]
  exact { ready with told := ready.told }

theorem Holds.finished (holds : Holds profile log desk) {rest : Rest}
    (waits : desk.delivery = some rest) {noted : List Noted} {after : Lifecycle}
    {callouts : List Callout} (finished : Finished desk.lifecycle rest noted after callouts) :
    Holds profile (log ++ noted) ⟨after, none⟩ := by
  obtain ⟨lifecycle, delivery⟩ := desk
  obtain rfl : delivery = some rest := waits
  cases finished with
  | nothing rest idle =>
    refine holds.on nofun id rfl fun unfenced => ?_
    have live := holds.live unfenced
    have light : light (some rest) = true := idle.resolve_left live.running
    exact { live with stands := (stands_light light).mp live.stands }
  | failed fallen => exact holds.fallen _ (by simp [Silent]) fallen rfl rfl
  | imageCommand sends =>
    exact ((holds.live sends.unfenced).imageCommand sends.free).holds holds.lawful
      holds.profile rfl
  | firstImage sends =>
    exact ((holds.live sends.unfenced).afterFirstImage sends.free).holds holds.lawful
      holds.profile rfl
  | secondImage =>
    exact holds.on nofun id rfl fun unfenced => (holds.live unfenced).afterSecondImage
  | rearm phase awaits fresh first sends =>
    exact ((holds.live sends.unfenced).rearm rfl phase awaits sends.free).holds holds.lawful
      holds.profile rfl

/-! ## The other calls -/

/-- A delivery waits for a command only in four phases. -/
theorem Live.idle {delivery : Option Rest} (live : Live lifecycle delivery talk)
    (first : lifecycle.phase ≠ .firstIrq2) (second : lifecycle.phase ≠ .secondIrq2)
    (image : lifecycle.phase ≠ .firstB0) (again : lifecycle.phase ≠ .secondB0) :
    light delivery = true := by
  have stands := live.stands
  cases delivery with
  | none => rfl
  | some rest =>
    cases rest with
    | nothing | rearm | handedOff => rfl
    | imageCommand which =>
      cases which with
      | false => exact absurd stands.1 first
      | true => exact absurd stands.1 second
    | firstImage accepted error => exact absurd stands.1 image
    | secondImage accepted error => exact absurd stands.1 again

theorem Live.configured {delivery : Option Rest} (live : Live lifecycle delivery talk)
    (phase : lifecycle.phase = .notStarted) (handoff gate : Bool) :
    Live { lifecycle with firstArmHandoff := handoff, loginGate := gate } delivery talk := by
  have idle := live.idle (by rw [phase]; nofun) (by rw [phase]; nofun) (by rw [phase]; nofun)
    (by rw [phase]; nofun)
  obtain ⟨told, hears⟩ := (stands_light idle).mp live.stands
  obtain ⟨unauthorized, -, unarmed⟩ := live.boots (by rw [phase]; rfl)
  refine { live with
    handoff := fun _ => ⟨unauthorized, unarmed, by rw [phase]; nofun⟩
    stands := (stands_light idle).mpr ?_ }
  unfold Told Hears at *
  simp only [phase] at told hears ⊢
  exact ⟨told, hears⟩

theorem Live.start {delivery : Option Rest} (live : Live lifecycle delivery talk)
    (phase : lifecycle.phase = .notStarted) :
    light delivery = true ∧
      Ready { lifecycle with
        backend := { lifecycle.backend with outCompletedCallback := some .postTlsLifecycle }
        backendCallbackOwned := true } talk 0xd4 .d4 := by
  have idle := live.idle (by rw [phase]; nofun) (by rw [phase]; nofun) (by rw [phase]; nofun)
    (by rw [phase]; nofun)
  obtain ⟨told, -⟩ := (stands_light idle).mp live.stands
  unfold Told at told
  rw [phase] at told
  have empty : talk.controls = [] := told
  have boots := live.boots (by rw [phase]; rfl)
  exact ⟨idle, {
    generation := live.generation
    sync := live.sync
    owner := rfl
    done := fun begun => absurd empty begun
    follows := fun last isLast => by
      rw [empty] at isLast
      cases isLast
    after := rfl
    boots := fun _ => boots
    whole := live.whole (by rw [phase]; rfl)
    awaits := live.awaits
    handoff := fun _ => ⟨boots.1, boots.2.2⟩
    told := by
      show talk.controls ++ [0xd4] = _
      rw [empty]
      rfl }⟩

/-- A backend that is not fenced takes what a live lifecycle sends. -/
theorem Live.sends {delivery : Option Rest} (live : Live lifecycle delivery talk)
    (unfenced : lifecycle.backend.terminalFence = false) (free : lifecycle.outPending = false) :
    ¬ Refuses lifecycle := by
  rintro (fenced | synced | stale | busy)
  · cases unfenced.symm.trans fenced
  · cases live.sync.symm.trans synced
  · exact stale live.generation.symm
  · exact busy (live.free free).1

theorem Live.drained {delivery : Option Rest} (live : Live lifecycle delivery talk)
    (drained : lifecycle.backend.isDrained = true) : lifecycle.outPending = false := by
  by_contra pending
  simp only [Bool.not_eq_false] at pending
  simp only [Backend.isDrained, decide_eq_true_eq] at drained
  exact (live.busy pending).1 drained.2

theorem Live.authorized {delivery : Option Rest} (live : Live lifecycle delivery talk)
    (first : lifecycle.loginAuthorized = false) (phase : lifecycle.phase = .firstIrq2) :
    Live { lifecycle with loginAuthorized := true, loginAttempts := 1 } delivery talk := by
  have serves {finished : List Nat} (served : Served lifecycle.series finished) :
      Served { lifecycle with loginAuthorized := true, loginAttempts := 1 }.series finished := by
    have none : finished = [] := served.unauthorized first
    refine ⟨served.few, served.count, served.single, fun _ => ?_, fun _ => none⟩
    rw [none]
    rfl
  have stands := live.stands
  refine live.moved (by rw [phase]; nofun) (by rw [phase]; nofun) live.running
    (by show booting lifecycle.phase = false; rw [phase]; rfl) rfl rfl rfl rfl rfl rfl rfl rfl
    (fun set => absurd phase (live.handoff set).2.2) live.whole ?_
  by_cases idle : light delivery = true
  · obtain ⟨told, hears⟩ := (stands_light idle).mp stands
    refine (stands_light idle).mpr ?_
    unfold Told Hears at *
    simp only [phase] at told hears ⊢
    obtain ⟨finished, served, few, same⟩ := told
    exact ⟨⟨finished, serves served, few, same⟩, hears⟩
  · cases delivery with
    | none => exact absurd rfl idle
    | some rest =>
      cases rest with
      | nothing | rearm | handedOff => exact absurd rfl idle
      | imageCommand second =>
        cases second with
        | false =>
          obtain ⟨_, ⟨finished, rearms, served, few, same⟩, exchange⟩ := stands
          exact ⟨phase, ⟨finished, rearms, serves served, few, same⟩, exchange⟩
        | true => cases phase.symm.trans stands.1
      | firstImage | secondImage => cases phase.symm.trans stands.1

/-- The next contact of a series. -/
theorem Live.nextLogin {delivery : Option Rest} {next : Lifecycle}
    (live : Live lifecycle delivery talk) (timestamp : UInt16)
    (gate : lifecycle.loginGate = true) (authorized : lifecycle.loginAuthorized = true)
    (below : lifecycle.loginAttempts < 3) (phase : lifecycle.phase = .stop)
    (profile : lifecycle.material.captureProfile = .singleAcquisition)
    (drained : lifecycle.backend.isDrained = true)
    (prepared : next = { lifecycle with
      loginAttempts := lifecycle.loginAttempts + 1
      firstContactIrq80Count := 0
      currentFdtTable := lifecycle.freshDownTable
      freshDownValid := false
      material := { lifecycle.material with firstArmTimestamp := timestamp }
      phase := .rearmGate }) :
    light delivery = true ∧ Ready next (talk.note .nextLogin) 0x32 .firstArm := by
  have idle := live.idle (by rw [phase]; nofun) (by rw [phase]; nofun) (by rw [phase]; nofun)
    (by rw [phase]; nofun)
  obtain ⟨told, hears⟩ := (stands_light idle).mp live.stands
  unfold Told at told
  unfold Hears at hears
  rw [phase] at told hears
  have unlike : ¬ (lifecycle.loginAuthorized = false ∨
      lifecycle.material.captureProfile = .twoAcquisition) := by
    rw [authorized, profile]
    simp
  have within : Within lifecycle wholeContact talk.controls := told.resolve_right unlike
  have exchange : Exchange talk 0x50 IsNav := hears.resolve_right unlike
  have free := live.drained drained
  subst prepared
  refine ⟨idle, {
    generation := live.generation
    sync := live.sync
    owner := (live.owner (by rw [phase]; nofun)).resolve_right fun handed => by
      cases authorized.symm.trans handed.2
    done := (live.free free).2
    follows := fun last isLast => ?_
    after := rfl
    boots := nofun
    whole := live.whole (by rw [phase]; rfl)
    awaits := live.awaits
    handoff := fun set => by cases authorized.symm.trans (live.handoff set).1
    told := ?_ }⟩
  · have isLast : talk.controls.getLast? = some last := isLast
    rw [within.last rfl] at isLast
    cases isLast
    exact .again exchange (.inr rfl)
  · obtain ⟨finished, rearms, served, few, same⟩ := within
    have attempts : lifecycle.loginAttempts = finished.length + 1 := served.attempts authorized
    refine ⟨finished ++ [rearms], ⟨?_, ?_, fun _ => ⟨profile, gate⟩, fun _ => ?_, fun other => ?_⟩,
      Nat.zero_le 2, ?_⟩
    · intro earlier inside
      rcases List.mem_append.mp inside with before | now
      · exact served.few earlier before
      · cases List.mem_singleton.mp now
        exact few
    · rw [List.length_append, List.length_singleton]
      omega
    · show lifecycle.loginAttempts + 1 = (finished ++ [rearms]).length + 1
      rw [List.length_append, List.length_singleton, attempts]
    · cases authorized.symm.trans other
    · show talk.controls ++ [0x32] = began (finished ++ [rearms]) ++ []
      rw [same]
      simp [began, contact, wholeContact]

theorem Live.outDone {delivery : Option Rest} {backend : Backend Owner} {generation : Nat}
    (live : Live lifecycle delivery talk)
    (took : lifecycle.backend.takeOut generation = some backend)
    (pending : lifecycle.outPending = true) :
    Live { lifecycle with backend, outPending := false } delivery
      (talk.note (.outCompleted none)) := by
  unfold Backend.takeOut at took
  split at took
  · cases took
  · cases took
    refine { live with
      busy := nofun
      free := fun _ => ⟨rfl, fun _ => ?_⟩
      early := fun _ => rfl
      stands := live.stands }
    show talk.completions ++ [none] = [none]
    rw [(live.busy pending).2.2.2]
    rfl

/-- No OUT of a live lifecycle comes back unheard. -/
theorem Live.hearsOut {delivery : Option Rest} {backend : Backend Owner} {generation : Nat}
    (live : Live lifecycle delivery talk)
    (took : lifecycle.backend.takeOut generation = some backend)
    (deaf : lifecycle.backend.outCompletedCallback = some .postTlsLifecycle →
      generation ≠ lifecycle.generation ∨ lifecycle.outPending = false ∨
        lifecycle.phase = .terminal) : False := by
  unfold Backend.takeOut at took
  split at took
  · cases took
  · rename_i taken
    simp only [not_or, not_not] at taken
    have pending : lifecycle.outPending = true := by
      by_contra free
      exact taken.1 (live.free (by simpa using free)).1
    obtain ⟨-, submitted, owner, -⟩ := live.busy pending
    rcases deaf owner with stale | free | ended
    · exact stale (taken.2.trans submitted)
    · cases pending.symm.trans free
    · exact live.running ended

theorem Holds.performed (holds : Holds profile log desk) {noted : List Noted} {after : Lifecycle}
    {callouts : List Callout} (performed : Performed desk.lifecycle noted after callouts) :
    Holds profile (log ++ noted) { desk with lifecycle := after } := by
  obtain ⟨lifecycle, delivery⟩ := desk
  cases performed with
  | nothing => exact holds.on nofun id rfl holds.live
  | refused error => exact holds.on (by simp [Silent]) id rfl holds.live
  | configured phase handoff gate kept =>
    exact holds.on nofun kept rfl fun unfenced =>
      (holds.live unfenced).configured phase handoff gate
  | started phase sends =>
    obtain ⟨idle, ready⟩ := (holds.live sends.unfenced).start phase
    exact ready.holds holds.lawful holds.profile idle
  -- without a fence no OUT is pending before the start, and the backend does not refuse one
  | unstarted error phase unsent =>
    rcases unsent with ⟨pending, rfl⟩ | ⟨free, refuses, rfl⟩
    · refine holds.on (by simp [Silent]) id rfl fun unfenced => ?_
      cases pending.symm.trans ((holds.live unfenced).early phase)
    · refine holds.on (by simp [Silent]) id rfl fun unfenced => ?_
      exact absurd refuses ((holds.live unfenced).sends unfenced free)
  | failed fallen => exact holds.fallen _ (by simp [Silent]) fallen rfl rfl
  | awaits awaiting =>
    refine holds.on (by simp [Silent]) id rfl fun unfenced => ?_
    have live := holds.live unfenced
    exact { live with
      awaits := rfl
      stands := live.stands }
  | @rearmed packet phase fresh first sends =>
    have live := holds.live sends.unfenced
    have awaiting : Live { lifecycle with frameworkAwait := true } delivery
        ((talkOf log).note (.awaiting true)) :=
      { live with awaits := rfl, stands := live.stands }
    have idle := live.idle (by rw [phase]; nofun) (by rw [phase]; nofun) (by rw [phase]; nofun)
      (by rw [phase]; nofun)
    have ready := awaiting.rearm idle phase rfl sends.free
    have noted : talkOf (log ++ [.awaiting true]) = (talkOf log).note (.awaiting true) := by
      simp [talkOf_append]
    rw [← noted] at ready
    have lawful := lawful_silent holds.lawful [.awaiting true] (by simp)
    rw [show log ++ [.awaiting true, .submitted 0x32 packet] =
      log ++ [.awaiting true] ++ [.submitted 0x32 packet] by simp]
    exact ready.holds lawful holds.profile idle
  | unrearmed phase fallen => exact holds.fallen _ (by simp [Silent]) fallen rfl rfl
  | authorized gate first phase =>
    exact holds.on (by simp [Silent]) id rfl fun unfenced =>
      (holds.live unfenced).authorized first phase
  | @nextLogin next packet timestamp gate authorized below phase fresh profile drained prepared sends =>
    have unfenced : lifecycle.backend.terminalFence = false := by
      have unfenced := sends.unfenced
      rw [prepared] at unfenced
      exact unfenced
    obtain ⟨idle, ready⟩ := (holds.live unfenced).nextLogin timestamp gate authorized below phase
      profile drained prepared
    have noted : talkOf (log ++ [.nextLogin]) = (talkOf log).note .nextLogin := by
      simp [talkOf_append]
    rw [← noted] at ready
    have lawful := lawful_silent holds.lawful [.nextLogin] (by simp)
    rw [show log ++ [.nextLogin, .submitted 0x32 packet] =
      log ++ [.nextLogin] ++ [.submitted 0x32 packet] by simp]
    exact ready.holds lawful (by rw [prepared]; exact holds.profile) idle
  | noNextLogin timestamp error gate authorized below phase fresh profile drained prepared
      unsent =>
    have pendingSame (free : lifecycle.outPending = false)
        (unfenced : lifecycle.backend.terminalFence = false) (refuses : Refuses lifecycle) : False :=
      (holds.live unfenced).sends unfenced free refuses
    subst prepared
    rcases unsent with ⟨pending, rfl⟩ | ⟨free, refuses, rfl⟩
    · refine holds.on (by simp [Silent]) id rfl fun unfenced => ?_
      cases pending.symm.trans ((holds.live unfenced).drained drained)
    · refine holds.on (by simp [Silent]) id rfl fun unfenced => ?_
      exact (pendingSame free unfenced refuses).elim
  | outDone generation took mine pending running callback =>
    refine holds.on (by simp [Silent]) id rfl fun unfenced => ?_
    refine (holds.live ?_).outDone took pending
    unfold Backend.takeOut at took
    split at took
    · cases took
    · cases took
      exact unfenced
  | outFailed generation took fallen => exact holds.fallen _ (by simp [Silent]) fallen rfl rfl
  -- without a fence every completion is heard
  | outIgnored generation error took deaf =>
    refine holds.on (by simp [Silent]) id rfl fun unfenced => ?_
    refine ((holds.live ?_).hearsOut took deaf).elim
    unfold Backend.takeOut at took
    split at took
    · cases took
    · cases took
      exact unfenced
  | fenced =>
    refine holds.on nofun id rfl fun unfenced => ?_
    cases unfenced
  | received callouts same due =>
    refine holds.on nofun id rfl fun unfenced => ?_
    have live := holds.live (same.fence ▸ unfenced)
    exact { live with
      generation := same.generation.trans live.generation
      sync := same.sync.trans live.sync
      busy := fun pending => by
        rw [same.outstanding, same.outGeneration, same.callback]
        exact live.busy pending
      free := fun free => by
        rw [same.outstanding]
        exact live.free free
      owner := fun begun => by
        rw [same.callback]
        exact live.owner begun
      stands := live.stands }

theorem holds_move (before : Desk) (noted : List Noted) (after : Desk)
    (holds : Holds profile log before) (move : Move before noted after) :
    Holds profile (log ++ noted) after := by
  cases move with
  | delivered idle delivered => exact holds.delivered idle delivered
  | finished waits finished => exact holds.finished waits finished
  | performed performed => exact holds.performed performed
  | copied => exact holds.on (by simp [Silent]) id rfl holds.live
  | called callback => exact holds.on (by simp [Silent]) id rfl holds.live
  | drained =>
    refine holds.on (by simp [Silent]) id rfl fun unfenced => ?_
    have live := holds.live unfenced
    exact { live with stands := live.stands }

/-- A lifecycle on a backend of its generation, as the secure session hands it over. -/
theorem holds_new {backend : Backend Owner} {generation : Nat} {material : Material}
    {listeners : Listeners} {lifecycle : Lifecycle}
    (made : Lifecycle.new backend generation material listeners = .ok lifecycle)
    (current : backend.generation = generation) (synced : backend.preSessionSyncActive = false)
    (idle : backend.outOutstanding = 0) :
    Holds material.captureProfile [] ⟨lifecycle, none⟩ := by
  unfold Lifecycle.new at made
  split at made
  · cases made
  · split at made
    · cases made
    · cases made
      exact {
        lawful := justified_nil _
        scripted := ⟨_, .single (Nat.zero_le 2), List.nil_prefix⟩
        profile := rfl
        live := fun _ => {
          running := nofun
          generation := current
          sync := synced
          busy := nofun
          free := fun _ => ⟨idle, fun begun => absurd rfl begun⟩
          last := fun begun => absurd rfl begun
          boots := fun _ => ⟨rfl, rfl, rfl⟩
          early := fun _ => rfl
          owner := fun begun => absurd rfl begun
          handoff := nofun
          whole := fun _ => rfl
          awaits := rfl
          stands := ⟨rfl, trivial⟩ } }

/-- The commands of every run are the beginning of a script that the profile allows, and each
goes out when the last one is through and answered. -/
theorem post_tls_command_grammar {backend : Backend Owner} {generation : Nat}
    {material : Material} {listeners : Listeners} {lifecycle : Lifecycle}
    (made : Lifecycle.new backend generation material listeners = .ok lifecycle)
    (current : backend.generation = generation) (synced : backend.preSessionSyncActive = false)
    (idle : backend.outOutstanding = 0) (actions : List (Callbacks.Action Call)) :
    (∃ script,
      Script material.captureProfile
        (Machines.run Desk.program.step ⟨⟨lifecycle, none⟩, []⟩ actions).1.state.lifecycle.loginGate
        script ∧
      (talkOf (Machines.run Desk.program.step ⟨⟨lifecycle, none⟩, []⟩ actions).2).controls <+:
        script) ∧
    Lawful (Machines.run Desk.program.step ⟨⟨lifecycle, none⟩, []⟩ actions).2 := by
  have holds := @run_invariant (Holds material.captureProfile) _
    (holds_new made current synced idle)
    (fun log before noted after holds move => holds_move before noted after holds move) actions
  exact ⟨holds.scripted, holds.lawful⟩

/-- A lifecycle that is started and hears the ACK of D4. -/
def untilAf : List (Callbacks.Action Call) :=
  [.call .start, .call (.completeOut 1 none), .call (.handleA0 d4Ack ⟨0, true, none⟩)]

theorem post_tls_command_grammar_until_af :
    ∃ lifecycle, Lifecycle.new handedOver 1 plainMaterial ⟨true, true, true, true⟩ = .ok lifecycle ∧
      (talkOf (Machines.run Desk.program.step ⟨⟨lifecycle, none⟩, []⟩ untilAf).2).controls =
        [0xd4, 0xaf] ∧
      (∃ script,
        Script plainMaterial.captureProfile
          (Machines.run Desk.program.step ⟨⟨lifecycle, none⟩, []⟩
            untilAf).1.state.lifecycle.loginGate script ∧
        (talkOf (Machines.run Desk.program.step ⟨⟨lifecycle, none⟩, []⟩ untilAf).2).controls <+:
          script) ∧
      Lawful (Machines.run Desk.program.step ⟨⟨lifecycle, none⟩, []⟩ untilAf).2 :=
  ⟨_, rfl, by decide, @post_tls_command_grammar handedOver 1 plainMaterial
    ⟨true, true, true, true⟩ _ rfl rfl rfl rfl untilAf⟩

end Goodix.PostTls
