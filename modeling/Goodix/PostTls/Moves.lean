import Goodix.Library.Traces
import Goodix.PostTls.Machine

/-! # Moves of the post-TLS lifecycle

What one call, or the end of one delivery, can do: it fails, it sends one command, or it
moves the phase on.  Each move names the frame or the plaintext that allowed it.  What
holds of every run is proved of the moves alone.
-/

namespace Goodix.PostTls

open Octets A0Protocol FdtIrqPolicy ImageDecoder Usb

/-! ## Frames -/

/-- A frame with its ordinary checksum. -/
def Received (frame : List UInt8) (message : A0Message) : Prop :=
  5 ≤ frame.length ∧ parseReceived frame = .ok message

/-- The ACK of a command. -/
def IsAck (control : UInt8) (frame : List UInt8) : Prop :=
  Received frame { control := 0xb0, body := [control, 0x01] }

/-- The controller's state: bit 0 clear, bit 1 set. -/
def IsControllerState (frame : List UInt8) : Prop :=
  ∃ message, Received frame message ∧ message.control = 0xae ∧ message.body.length = 16 ∧
    message.body.getD 1 0 &&& 0x01 = 0 ∧ message.body.getD 1 0 &&& 0x02 ≠ 0

/-- An interrupt of the sensor. -/
def IsEvent (control : UInt8) (irq : UInt16) (event : Event) (frame : List UInt8) : Prop :=
  ∃ message, Received frame message ∧ message.control = control ∧
    eventFields message = some event ∧ event.irq = irq

def IsBaseline (context : FlagsContext) (event : Event) (frame : List UInt8) : Prop :=
  IsEvent 0x36 0x0100 event frame ∧ irqFlagsValid context event.flags = true

def IsNav (frame : List UInt8) : Prop := (parseNavNoCheck frame).isSome

def IsThreshold (threshold : UInt8) (frame : List UInt8) : Prop :=
  ∃ message, Received frame message ∧ message.control = 0x82 ∧ message.body.length = 2 ∧
    message.body.getD 1 0 = threshold

def IsIrq80 (event : Event) (frame : List UInt8) : Prop :=
  IsEvent 0x32 0x0080 event frame ∧ event.flags &&& ~~~touchMask = 0

def IsFingerDown (event : Event) (frame : List UInt8) : Prop :=
  IsEvent 0x32 0x0002 event frame ∧ irqFlagsValid .fingerDown event.flags = true

def IsFingerUp (event : Event) (frame : List UInt8) : Prop :=
  IsEvent 0x34 0x0200 event frame ∧ irqFlagsValid .fingerUp event.flags = true

/-! ## Sending and failing -/

namespace Lifecycle

/-- The lifecycle after a command was sent. -/
def sentWith (lifecycle : Lifecycle) (control : UInt8) (next : Phase) : Lifecycle :=
  { lifecycle with
    phase := next
    expectedAck := control
    ackSeen := false
    outPending := true
    backend := { lifecycle.backend with
      outOutstanding := 1
      outGeneration := lifecycle.generation } }

/-- The lifecycle after the backend refused a command. -/
def refusedWith (lifecycle : Lifecycle) (control : UInt8) (next : Phase) : Lifecycle :=
  { lifecycle with
    phase := next
    expectedAck := control
    ackSeen := false
    outPending := false }

end Lifecycle

/-- The backend takes this packet from the lifecycle. -/
structure Sends (lifecycle : Lifecycle) (control : UInt8) (body packet : List UInt8) : Prop where
  built : fixed64Command control body = .ok packet
  free : lifecycle.outPending = false
  running : lifecycle.phase ≠ .terminal
  unstopped : lifecycle.phase ≠ .stop
  unfenced : lifecycle.backend.terminalFence = false
  idle : lifecycle.backend.outOutstanding = 0

/-- The backend takes no packet of the lifecycle's generation. -/
def Refuses (lifecycle : Lifecycle) : Prop :=
  lifecycle.backend.terminalFence = true ∨ lifecycle.backend.preSessionSyncActive = true ∨
    lifecycle.generation ≠ lifecycle.backend.generation ∨ lifecycle.backend.outOutstanding ≠ 0

/-- What a submission that is refused, and not followed by a failure, leaves. -/
def Unsent (lifecycle : Lifecycle) (control : UInt8) (next : Phase) (after : Lifecycle) : Prop :=
  (lifecycle.outPending = true ∧ after = lifecycle) ∨
    (lifecycle.outPending = false ∧ Refuses lifecycle ∧
      after = lifecycle.refusedWith control next)

theorem length_buildFrame {wire checksum : UInt8} {body logical : List UInt8}
    (built : buildFrame wire checksum body = some logical) : logical.length = body.length + 8 := by
  unfold buildFrame at built
  split at built
  · cases built
  · cases built
    simp
    omega

/-- Every body of the lifecycle fits. -/
theorem fixed64Command_short (control : UInt8) {body : List UInt8} (short : body.length ≤ 56) :
    ∃ packet, fixed64Command control body = .ok packet := by
  unfold fixed64Command
  obtain ⟨logical, built⟩ := Option.isSome_iff_exists.mp
    (show (buildFrame control (control &&& 0xfe) body).isSome from
      buildFrame_isSome (by omega))
  have length := length_buildFrame built
  rw [built]
  have fits : ¬ logical.length > 64 := by omega
  simp [fits]

theorem submitCommand_cases (lifecycle : Lifecycle) (control : UInt8) (body : List UInt8)
    (next : Phase) :
    (∃ packet, Sends lifecycle control body packet ∧
      lifecycle.submitCommand control body next = (lifecycle.sentWith control next, .ok packet)) ∨
    (∃ error, (lifecycle.outPending = true ∨ lifecycle.phase = .terminal ∨
        lifecycle.phase = .stop ∨ ∃ problem, fixed64Command control body = .error problem) ∧
      lifecycle.submitCommand control body next = (lifecycle, .error error)) ∨
    (∃ error, lifecycle.outPending = false ∧ Refuses lifecycle ∧
      lifecycle.submitCommand control body next =
        (lifecycle.refusedWith control next, .error error)) := by
  unfold Lifecycle.submitCommand
  split
  · rename_i blocked
    refine .inr (.inl ⟨_, ?_, rfl⟩)
    rcases blocked with pending | ended | stopped
    · exact .inl pending
    · exact .inr (.inl ended)
    · exact .inr (.inr (.inl stopped))
  · rename_i open_
    simp only [not_or, Bool.not_eq_true] at open_
    obtain ⟨free, running, unstopped⟩ := open_
    cases built : fixed64Command control body with
    | error problem => exact .inr (.inl ⟨_, .inr (.inr (.inr ⟨problem, rfl⟩)), rfl⟩)
    | ok packet =>
      by_cases refuses : Refuses lifecycle
      · refine .inr (.inr ⟨backendError 2 (if lifecycle.backend.terminalFence ∨
          lifecycle.backend.preSessionSyncActive ∨
          lifecycle.generation ≠ lifecycle.backend.generation then "OUT stale or fenced"
          else "a physical OUT is already pending"), free, refuses, ?_⟩)
        unfold Backend.submitOut
        by_cases stale : lifecycle.backend.terminalFence ∨
            lifecycle.backend.preSessionSyncActive ∨
            lifecycle.generation ≠ lifecycle.backend.generation
        · simp only [stale, if_true]
          rfl
        · have busy : lifecycle.backend.outOutstanding ≠ 0 := by
            simp only [Refuses] at refuses
            tauto
          simp only [stale, if_false, busy, ne_eq, not_false_eq_true, if_true]
          rfl
      · simp only [Refuses, not_or, Bool.not_eq_true, not_not] at refuses
        obtain ⟨unfenced, synced, same, idle⟩ := refuses
        refine .inl ⟨packet, ⟨built, free, running, unstopped, unfenced, idle⟩, ?_⟩
        simp [Backend.submitOut, unfenced, synced, same, idle, Lifecycle.sentWith]

/-- What a failure leaves of a lifecycle. -/
structure Fallen (before : Lifecycle) (reason : GError) (after : Lifecycle) : Prop where
  phase : after.phase = .terminal
  backend : after.backend =
    if before.backend.terminalFence then before.backend else before.backend.fence
  error : after.error = some reason
  learned : after.learnedFdtValid = false
  down : after.freshDownValid = false
  pending : after.plaintextPending = []
  gate : after.loginGate = before.loginGate
  authorized : after.loginAuthorized = before.loginAuthorized
  profile : after.material.captureProfile = before.material.captureProfile
  generation : after.generation = before.generation
  listeners : after.listeners = before.listeners
  running : before.phase ≠ .terminal

theorem Fallen.fenced {before after : Lifecycle} {reason : GError}
    (fallen : Fallen before reason after) : after.backend.terminalFence = true := by
  rw [fallen.backend]
  split
  · assumption
  · rfl

/-- What a failure calls. -/
def farewell (before : Lifecycle) (reason : GError) : List Callout :=
  if before.backend.terminalFence then [.back (.terminal reason)]
  else [.drained, .back (.terminal reason)]

/-- What a call may have changed before it fails. -/
structure Alike (before changed : Lifecycle) : Prop where
  phase : changed.phase ≠ .terminal
  backend : changed.backend = before.backend
  gate : changed.loginGate = before.loginGate
  authorized : changed.loginAuthorized = before.loginAuthorized
  profile : changed.material.captureProfile = before.material.captureProfile
  generation : changed.generation = before.generation
  listeners : changed.listeners = before.listeners
  running : before.phase ≠ .terminal

theorem Alike.refl {lifecycle : Lifecycle} (running : lifecycle.phase ≠ .terminal) :
    Alike lifecycle lifecycle := ⟨running, rfl, rfl, rfl, rfl, rfl, rfl, running⟩

theorem fail_some_fallen {before changed : Lifecycle} (alike : Alike before changed)
    (reason : GError) :
    ∃ after, Fallen before reason after ∧
      changed.fail (some reason) =
        { lifecycle := after, noted := [.failed reason], callouts := farewell before reason } := by
  refine ⟨(changed.fail (some reason)).lifecycle, ?_, ?_⟩
  · unfold Lifecycle.fail
    simp only [alike.phase, if_false, alike.backend]
    exact ⟨rfl, rfl, rfl, rfl, rfl, rfl, alike.gate, alike.authorized, alike.profile,
      alike.generation, alike.listeners, alike.running⟩
  · unfold Lifecycle.fail farewell
    simp only [alike.phase, if_false, alike.backend, Option.getD_some]

theorem fail_fallen {before changed : Lifecycle} (alike : Alike before changed)
    (error : Option GError) :
    ∃ reason after, Fallen before reason after ∧
      changed.fail error =
        { lifecycle := after, noted := [.failed reason], callouts := farewell before reason } := by
  cases error with
  | some reason => exact ⟨reason, fail_some_fallen alike reason⟩
  | none =>
    exact ⟨_, fail_some_fallen alike (lifecycleError errorState "post-TLS lifecycle failed")⟩

/-- A submission whose failure is the caller's. -/
theorem submitOrRefuse_cases {lifecycle : Lifecycle} (running : lifecycle.phase ≠ .terminal)
    (unstopped : lifecycle.phase ≠ .stop) (control : UInt8) {body : List UInt8}
    (short : body.length ≤ 56) (next : Phase) :
    (∃ packet, Sends lifecycle control body packet ∧
      lifecycle.submitOrRefuse control body next =
        { lifecycle := lifecycle.sentWith control next
          noted := [.submitted control packet] }) ∨
    (∃ error after, Unsent lifecycle control next after ∧
      lifecycle.submitOrRefuse control body next =
        { lifecycle := after, noted := [.refused error] }) := by
  unfold Lifecycle.submitOrRefuse
  rcases submitCommand_cases lifecycle control body next with
    ⟨packet, sends, result⟩ | ⟨error, why, result⟩ | ⟨error, free, refuses, result⟩
  · rw [result]
    exact .inl ⟨packet, sends, rfl⟩
  · rw [result]
    refine .inr ⟨error, lifecycle, .inl ⟨?_, rfl⟩, rfl⟩
    rcases why with pending | ended | stopped | ⟨problem, unbuilt⟩
    · exact pending
    · exact absurd ended running
    · exact absurd stopped unstopped
    · obtain ⟨packet, built⟩ := fixed64Command_short control short
      rw [built] at unbuilt
      cases unbuilt
  · rw [result]
    exact .inr ⟨error, _, .inr ⟨free, refuses, rfl⟩, rfl⟩

theorem fail_terminal {lifecycle : Lifecycle} (ended : lifecycle.phase = .terminal)
    (error : Option GError) : lifecycle.fail error = { lifecycle } := by
  unfold Lifecycle.fail
  simp only [ended, if_true]

/-- A submission sends, or everything fails. -/
theorem submitOrFail_cases {before lifecycle : Lifecycle} (alike : Alike before lifecycle)
    {next : Phase} (lasting : next ≠ .terminal) (control : UInt8) (body : List UInt8) :
    (∃ packet, Sends lifecycle control body packet ∧
      lifecycle.submitOrFail control body next =
        { lifecycle := lifecycle.sentWith control next
          noted := [.submitted control packet] }) ∨
    (∃ reason after, Fallen before reason after ∧
      lifecycle.submitOrFail control body next =
        { lifecycle := after, noted := [.failed reason], callouts := farewell before reason }) := by
  unfold Lifecycle.submitOrFail
  rcases submitCommand_cases lifecycle control body next with
    ⟨packet, sends, result⟩ | ⟨error, -, result⟩ | ⟨error, -, -, result⟩
  · rw [result]
    exact .inl ⟨packet, sends, rfl⟩
  · rw [result]
    exact .inr (fail_fallen alike (some error))
  · rw [result]
    have refused : Alike before (lifecycle.refusedWith control next) :=
      { alike with phase := lasting }
    exact .inr (fail_fallen refused (some error))

/-! ## Deliveries -/

/-- A plaintext completes an image. -/
def Completes (lifecycle : Lifecycle) (octets : List UInt8) (samples : List UInt16) : Prop :=
  decodePlaintext (lifecycle.plaintextPending ++ octets) = .ok samples

/-- What is taken in, and the command it calls for.  The third lifecycle is the one that
submits. -/
inductive Prompt (lifecycle : Lifecycle) :
    List Noted → Lifecycle → UInt8 → List UInt8 → Phase → Prop where
  | d4 {frame : List UInt8} (phase : lifecycle.phase = .d4) (fresh : lifecycle.ackSeen = false)
      (ack : IsAck lifecycle.expectedAck frame) :
      Prompt lifecycle [.a0 frame] { lifecycle with ackSeen := true } 0xaf lifecycle.afBody .af
  | controllerState {frame : List UInt8} (phase : lifecycle.phase = .af)
      (state : IsControllerState frame) :
      Prompt lifecycle [.a0 frame] lifecycle 0x36 lifecycle.fdt36Body .fdt36_1
  | firstSample {frame : List UInt8} {event : Event} {table : Block 12}
      (phase : lifecycle.phase = .fdtIrq100_1)
      (baseline : IsBaseline .baselineFirstSample event frame)
      (room : lifecycle.fdtRaw.length < 3)
      (derived : deriveFirstBaselineTable event.raw event.flags lifecycle.currentFdtTable =
        (true, table)) :
      Prompt lifecycle [.a0 frame]
        { lifecycle with
          fdtRaw := lifecycle.fdtRaw ++ [channelWords event.raw]
          currentFdtTable := table }
        0x50 Lifecycle.simpleBody .fdtNav_1
  | nav {frame : List UInt8} (phase : lifecycle.phase = .fdtNav_1)
      (seen : lifecycle.ackSeen = true) (nav : IsNav frame) :
      Prompt lifecycle [.a0 frame] lifecycle 0x36 lifecycle.fdt36Body .fdt36_2
  | secondSample {frame : List UInt8} {event : Event} {table : Block 12}
      (phase : lifecycle.phase = .fdtIrq100_2)
      (baseline : IsBaseline .baselineSample event frame)
      (room : lifecycle.fdtRaw.length < 3)
      (derived : deriveBaselineTable event.raw event.flags lifecycle.currentFdtTable =
        (true, table)) :
      Prompt lifecycle [.a0 frame]
        { lifecycle with
          fdtRaw := lifecycle.fdtRaw ++ [channelWords event.raw]
          currentFdtTable := table }
        0x82 Lifecycle.body82 .fdt_82
  | threshold {frame : List UInt8} {threshold : UInt8} (phase : lifecycle.phase = .fdt_82)
      (seen : lifecycle.ackSeen = true) (read : IsThreshold threshold frame)
      (both : 1 < lifecycle.fdtRaw.length)
      (within : withinThreshold threshold (lifecycle.fdtRaw.getD 0 [])
        (lifecycle.fdtRaw.getD 1 []) = true) :
      Prompt lifecycle [.a0 frame]
        { lifecycle with
          fdtThreshold := threshold
          fdtThresholdValid := true
          fdtDeltaClassified := true }
        0x20 Lifecycle.simpleBody .fdt_20
  | baselineImage {octets : List UInt8} {samples : List UInt16}
      (phase : lifecycle.phase = .fdtB0) (complete : Completes lifecycle octets samples) :
      Prompt lifecycle [.plaintext octets]
        { lifecycle with
          plaintextPending := []
          baselineSamples := samples
          baselineValid := true
          phase := .fdt36_3 }
        0x36 lifecycle.fdt36Body .fdt36_3
  | thirdSample {frame : List UInt8} {event : Event} {table : Block 12}
      (phase : lifecycle.phase = .fdtIrq100_3)
      (baseline : IsBaseline .baselineSample event frame)
      (room : lifecycle.fdtRaw.length < 3)
      (derived : deriveBaselineTable event.raw event.flags lifecycle.currentFdtTable =
        (true, table))
      (classified : lifecycle.fdtDeltaClassified = true)
      (valid : lifecycle.fdtThresholdValid = true) (both : 2 ≤ lifecycle.fdtRaw.length)
      (within : withinThreshold lifecycle.fdtThreshold
        ((lifecycle.fdtRaw ++ [channelWords event.raw]).getD 1 [])
        ((lifecycle.fdtRaw ++ [channelWords event.raw]).getD 2 []) = true) :
      Prompt lifecycle [.a0 frame, .learned table]
        { lifecycle with
          fdtRaw := lifecycle.fdtRaw ++ [channelWords event.raw]
          currentFdtTable := table
          learnedFdtTable := table
          learnedFdtValid := true }
        0x32 ([0x08, 0x01] ++ table.val ++ putU16Le lifecycle.material.firstArmTimestamp)
        .firstArm
  | irq80 {frame : List UInt8} {event : Event} {table : Block 12} (timestamp : UInt16)
      (phase : lifecycle.phase = .firstIrq2)
      (allowed : lifecycle.loginGate = true → lifecycle.loginAuthorized = true)
      (irq80 : IsIrq80 event frame) (below : lifecycle.firstContactIrq80Count < 2)
      (derived : deriveBaselineTable event.raw 0 (Block.zero 12) = (true, table)) :
      Prompt lifecycle [.a0 frame]
        { lifecycle with
          currentFdtTable := table
          material := { lifecycle.material with firstArmTimestamp := timestamp }
          firstContactIrq80Count := lifecycle.firstContactIrq80Count + 1
          irq80RearmPending := true }
        0x32 ([0x08, 0x01] ++ table.val ++ putU16Le timestamp) .firstArm
  | fingerUp {frame : List UInt8} {event : Event} {table : Block 12}
      (phase : lifecycle.phase = .releaseIrq200) (up : IsFingerUp event frame)
      (derived : deriveDownTable event.raw event.flags lifecycle.freshDownTable =
        (true, table)) :
      Prompt lifecycle [.a0 frame]
        { lifecycle with freshDownTable := table, freshDownValid := true }
        0x20 Lifecycle.simpleBody .release_20
  | released {octets : List UInt8} (phase : lifecycle.phase = .releaseB0) :
      Prompt lifecycle [.plaintext octets] lifecycle 0x50 Lifecycle.simpleBody .release_50

/-- The phase after an ACK that only moves the phase on. -/
def afterAck : Phase → Option Phase
  | .fdt36_1 => some .fdtIrq100_1
  | .fdt36_2 => some .fdtIrq100_2
  | .fdt36_3 => some .fdtIrq100_3
  | .fdtNav_1 => some .fdtNav_1
  | .fdt_82 => some .fdt_82
  | .fdt_20 => some .fdtB0
  | .first_22 => some .firstB0
  | .release_34 => some .releaseIrq200
  | .release_20 => some .releaseB0
  | .release_50 => some .releaseNav
  | .secondArm => some .secondIrq2
  | .second_22 => some .secondB0
  | _ => none

/-- What `goodix_post_tls_lifecycle_handle_a0` and `goodix_post_tls_lifecycle_handle_plaintext` do
up to their callbacks. -/
inductive Delivered (lifecycle : Lifecycle) : List Noted → Lifecycle → List Callout → Rest → Prop where
  | ignored (idle : lifecycle.phase = .terminal ∨ lifecycle.phase = .stop) :
      Delivered lifecycle [] lifecycle [] .nothing
  | rejectedFrame (frame : List UInt8) {after : Lifecycle} {reason : GError}
      (fallen : Fallen lifecycle reason after) :
      Delivered lifecycle [.a0 frame, .failed reason] after (farewell lifecycle reason) .nothing
  | rejectedPlaintext (octets : List UInt8) {after : Lifecycle} {reason : GError}
      (fallen : Fallen lifecycle reason after) :
      Delivered lifecycle [.plaintext octets, .failed reason] after (farewell lifecycle reason) .nothing
  | unsent {heard : List Noted} {accepted after : Lifecycle} {control : UInt8}
      {body : List UInt8} {next : Phase} {reason : GError}
      (prompt : Prompt lifecycle heard accepted control body next)
      (fallen : Fallen lifecycle reason after) :
      Delivered lifecycle (heard ++ [.failed reason]) after (farewell lifecycle reason) .nothing
  | sent {heard : List Noted} {accepted : Lifecycle} {control : UInt8}
      {body packet : List UInt8} {next : Phase}
      (prompt : Prompt lifecycle heard accepted control body next)
      (sends : Sends accepted control body packet) :
      Delivered lifecycle (heard ++ [.submitted control packet])
        (accepted.sentWith control next) [] .nothing
  | acked {frame : List UInt8} {next : Phase} (advances : afterAck lifecycle.phase = some next)
      (fresh : lifecycle.ackSeen = false) (ack : IsAck lifecycle.expectedAck frame) :
      Delivered lifecycle [.a0 frame] { lifecycle with ackSeen := true, phase := next } []
        .nothing
  | rearmed {frame : List UInt8} (phase : lifecycle.phase = .firstArm)
      (fresh : lifecycle.ackSeen = false) (ack : IsAck lifecycle.expectedAck frame)
      (pending : lifecycle.irq80RearmPending = true) (free : lifecycle.outPending = false)
      (idle : lifecycle.backend.outOutstanding = 0) :
      Delivered lifecycle [.a0 frame]
        { lifecycle with ackSeen := true, irq80RearmPending := false, phase := .firstIrq2 }
        [] .nothing
  | handoff {frame : List UInt8} (accepted : Bool) (error : Option GError)
      (phase : lifecycle.phase = .firstArm) (fresh : lifecycle.ackSeen = false)
      (ack : IsAck lifecycle.expectedAck frame) (unarmed : lifecycle.irq80RearmPending = false)
      (configured : lifecycle.firstArmHandoff = true) (free : lifecycle.outPending = false)
      (idle : lifecycle.backend.outOutstanding = 0)
      (owned : lifecycle.backendCallbackOwned = true) :
      Delivered lifecycle [.a0 frame]
        { lifecycle with
          ackSeen := true
          backend := { lifecycle.backend with outCompletedCallback := none }
          backendCallbackOwned := false
          phase := .stop }
        [.back .firstArmHandoff] (.handedOff accepted error)
  | armed {frame : List UInt8} (phase : lifecycle.phase = .firstArm)
      (fresh : lifecycle.ackSeen = false) (ack : IsAck lifecycle.expectedAck frame)
      (unarmed : lifecycle.irq80RearmPending = false)
      (kept : lifecycle.firstArmHandoff = false) :
      Delivered lifecycle [.a0 frame]
        { lifecycle with ackSeen := true, phase := .firstIrq2 }
        (if lifecycle.loginGate ∧ lifecycle.loginAuthorized = false then [.back .loginReady]
          else []) .nothing
  | firstFinger {frame : List UInt8} {event : Event} {table : Block 12}
      (phase : lifecycle.phase = .firstIrq2)
      (allowed : lifecycle.loginGate = true → lifecycle.loginAuthorized = true)
      (down : IsFingerDown event frame)
      (derived : deriveUpTable event.raw event.flags 0x1d lifecycle.firstUpTable =
        (true, table)) :
      Delivered lifecycle [.a0 frame]
        { lifecycle with firstUpTable := table, firstContactIrq80Count := 0 }
        [.back .fingerDown] (.imageCommand false)
  | secondFinger {frame : List UInt8} {event : Event} (phase : lifecycle.phase = .secondIrq2)
      (allowed : lifecycle.loginGate = true → lifecycle.loginAuthorized = true)
      (down : IsFingerDown event frame) :
      Delivered lifecycle [.a0 frame] lifecycle [.back .fingerDown]
        (.imageCommand true)
  | chunk {octets : List UInt8} (slot : lifecycle.phase = .fdtB0 ∨ lifecycle.phase = .firstB0 ∨
        lifecycle.phase = .secondB0)
      (short : (lifecycle.plaintextPending ++ octets).length < imagePlaintextLength) :
      Delivered lifecycle [.plaintext octets]
        { lifecycle with plaintextPending := lifecycle.plaintextPending ++ octets } [] .nothing
  | firstImage {octets : List UInt8} {samples : List UInt16} (accepted : Bool)
      (error : Option GError) (phase : lifecycle.phase = .firstB0)
      (complete : Completes lifecycle octets samples) :
      Delivered lifecycle [.plaintext octets] { lifecycle with plaintextPending := [] }
        [.back (.image (if lifecycle.loginGate then lifecycle.loginAttempts else 1) samples)]
        (.firstImage accepted error)
  | secondImage {octets : List UInt8} {samples : List UInt16} (accepted : Bool)
      (error : Option GError) (phase : lifecycle.phase = .secondB0)
      (complete : Completes lifecycle octets samples) :
      Delivered lifecycle [.plaintext octets] { lifecycle with plaintextPending := [] }
        [.back (.image 2 samples)] (.secondImage accepted error)
  | contactOver {frame : List UInt8} (phase : lifecycle.phase = .releaseNav)
      (nav : IsNav frame) :
      Delivered lifecycle [.a0 frame]
        { lifecycle with
          phase :=
            if lifecycle.material.captureProfile = .singleAcquisition then .stop
            else .rearmGate }
        [.back .releaseTail, .back .fingerUp] .rearm

/-! ## Every delivery is one of these -/

/-- An outcome that one of the moves describes. -/
def Delivers (lifecycle : Lifecycle) (outcome : Outcome) : Prop :=
  Delivered lifecycle outcome.noted outcome.lifecycle outcome.callouts outcome.rest

theorem Prompt.running {lifecycle accepted : Lifecycle} {heard : List Noted} {control : UInt8}
    {body : List UInt8} {next : Phase}
    (prompt : Prompt lifecycle heard accepted control body next) :
    lifecycle.phase ≠ .terminal ∧ next ≠ .terminal := by
  cases prompt <;> simp_all

theorem Prompt.alike {lifecycle accepted : Lifecycle} {heard : List Noted} {control : UInt8}
    {body : List UInt8} {next : Phase}
    (prompt : Prompt lifecycle heard accepted control body next) : Alike lifecycle accepted := by
  have running := prompt.running.1
  cases prompt with
  | baselineImage phase complete => exact ⟨nofun, rfl, rfl, rfl, rfl, rfl, rfl, by rw [phase]; nofun⟩
  | _ => exact ⟨running, rfl, rfl, rfl, rfl, rfl, rfl, running⟩

/-- A prompt is followed by its command or by a failure. -/
theorem Prompt.delivers {lifecycle accepted : Lifecycle} {heard : List Noted} {control : UInt8}
    {body : List UInt8} {next : Phase}
    (prompt : Prompt lifecycle heard accepted control body next) :
    Delivers lifecycle ((accepted.submitOrFail control body next).after heard) := by
  rcases submitOrFail_cases prompt.alike prompt.running.2 control body with
    ⟨packet, sends, result⟩ | ⟨reason, after, fallen, result⟩
  · rw [result]
    exact .sent prompt sends
  · rw [result]
    exact .unsent prompt fallen

theorem rejects {lifecycle changed : Lifecycle} (alike : Alike lifecycle changed)
    (frame : List UInt8) (error : Option GError) :
    Delivers lifecycle ((changed.fail error).after [.a0 frame]) := by
  obtain ⟨reason, after, fallen, result⟩ := fail_fallen alike error
  rw [result]
  exact .rejectedFrame frame fallen

theorem rejectsPlaintext {lifecycle changed : Lifecycle} (alike : Alike lifecycle changed)
    (octets : List UInt8) (error : Option GError) :
    Delivers lifecycle ((changed.fail error).after [.plaintext octets]) := by
  obtain ⟨reason, after, fallen, result⟩ := fail_fallen alike error
  rw [result]
  exact .rejectedPlaintext octets fallen

section

variable {lifecycle : Lifecycle} {frame : List UInt8} {message : A0Message}
  (running : lifecycle.phase ≠ .terminal)

include running

theorem onAck_delivers (received : Received frame message) {accept : Lifecycle → Outcome}
    (accepts : lifecycle.ackSeen = false → IsAck lifecycle.expectedAck frame →
      Delivers lifecycle ((accept { lifecycle with ackSeen := true }).after [.a0 frame])) :
    Delivers lifecycle ((lifecycle.onAck message accept).after [.a0 frame]) := by
  unfold Lifecycle.onAck
  split
  · exact rejects (.refl running) frame _
  · rename_i control
    split
    · exact rejects (.refl running) frame _
    · rename_i proper
      simp only [not_or, Bool.not_eq_true, not_not] at proper control
      refine accepts proper.1 ?_
      have same : message = { control := 0xb0, body := [lifecycle.expectedAck, 0x01] } := by
        rw [← control, ← proper.2]
      rw [same] at received
      exact received

theorem onAckTo_delivers (received : Received frame message) {next : Phase}
    (advances : afterAck lifecycle.phase = some next) :
    Delivers lifecycle ((lifecycle.onAckTo message next).after [.a0 frame]) :=
  onAck_delivers running received fun fresh ack => .acked advances fresh ack

theorem acceptBaseline_delivers (received : Received frame message)
    {accept : Lifecycle → Outcome}
    (accepts : ∀ event table,
      IsBaseline (if lifecycle.phase = .fdtIrq100_1 then .baselineFirstSample
        else .baselineSample) event frame →
      lifecycle.fdtRaw.length < 3 →
      (if lifecycle.phase = .fdtIrq100_1 then
        deriveFirstBaselineTable event.raw event.flags lifecycle.currentFdtTable
      else deriveBaselineTable event.raw event.flags lifecycle.currentFdtTable) = (true, table) →
      Delivers lifecycle ((accept { lifecycle with
        fdtRaw := lifecycle.fdtRaw ++ [channelWords event.raw]
        currentFdtTable := table }).after [.a0 frame])) :
    Delivers lifecycle ((lifecycle.acceptBaseline message accept).after [.a0 frame]) := by
  unfold Lifecycle.acceptBaseline
  simp only [decide_eq_true_eq]
  cases fields : eventFields message with
  | none => exact rejects (.refl running) frame _
  | some event =>
    by_cases improper : message.control ≠ 0x36 ∨ event.irq ≠ 0x0100 ∨
        irqFlagsValid (if lifecycle.phase = .fdtIrq100_1 then .baselineFirstSample
          else .baselineSample) event.flags = false
    · simp only [improper, if_true]
      exact rejects (.refl running) frame _
    · simp only [improper, if_false]
      simp only [not_or, Bool.not_eq_false, not_not] at improper
      obtain ⟨control, irq, flags⟩ := improper
      have baseline := And.intro (⟨message, received, control, fields, irq⟩ :
        IsEvent 0x36 0x0100 event frame) flags
      by_cases full : lifecycle.fdtRaw.length ≥ 3
      · simp only [Lifecycle.recordFdtRaw, full, if_true]
        exact rejects (.refl running) frame _
      · simp only [Lifecycle.recordFdtRaw, full, if_false]
        generalize derivation :
          (if lifecycle.phase = .fdtIrq100_1 then
            deriveFirstBaselineTable event.raw event.flags lifecycle.currentFdtTable
          else deriveBaselineTable event.raw event.flags lifecycle.currentFdtTable) = derived
        obtain ⟨succeeded, table⟩ := derived
        cases succeeded with
        | true => exact accepts event table baseline (by omega) derivation
        | false =>
          have alike : Alike lifecycle { lifecycle with
              fdtRaw := lifecycle.fdtRaw ++ [channelWords event.raw]
              currentFdtTable := table } := ⟨running, rfl, rfl, rfl, rfl, rfl, rfl, running⟩
          exact rejects alike frame _

end

theorem thirdSample_delivers {lifecycle : Lifecycle} {frame : List UInt8} {message : A0Message}
    {event : Event} {table : Block 12}
    (phase : lifecycle.phase = .fdtIrq100_3)
    (baseline : IsBaseline .baselineSample event frame) (room : lifecycle.fdtRaw.length < 3)
    (derived : deriveBaselineTable event.raw event.flags lifecycle.currentFdtTable =
      (true, table)) :
    Delivers lifecycle (({ lifecycle with
      fdtRaw := lifecycle.fdtRaw ++ [channelWords event.raw]
      currentFdtTable := table }.learn message).after [.a0 frame]) := by
  have running : lifecycle.phase ≠ .terminal := by
    rw [phase]
    nofun
  have alike : Alike lifecycle { lifecycle with
      fdtRaw := lifecycle.fdtRaw ++ [channelWords event.raw]
      currentFdtTable := table } := ⟨running, rfl, rfl, rfl, rfl, rfl, rfl, running⟩
  unfold Lifecycle.learn
  by_cases classified : lifecycle.fdtDeltaClassified = false
  · rw [if_pos classified]
    exact rejects alike frame _
  · rw [if_neg classified]
    simp only [Bool.not_eq_false] at classified
    unfold Lifecycle.classifyFdtDelta
    by_cases unready : lifecycle.fdtThresholdValid = false ∨
        2 ≥ (lifecycle.fdtRaw ++ [channelWords event.raw]).length ∨ 1 ≥ 2
    · simp only [unready, if_true]
      exact rejects alike frame _
    · simp only [unready, if_false]
      simp only [not_or, Bool.not_eq_false, List.length_append, List.length_singleton] at unready
      cases within : withinThreshold lifecycle.fdtThreshold
          ((lifecycle.fdtRaw ++ [channelWords event.raw]).getD 1 [])
          ((lifecycle.fdtRaw ++ [channelWords event.raw]).getD 2 []) with
      | true =>
        have prompt := (Prompt.thirdSample phase baseline room derived classified unready.1
          (by omega) within).delivers
        simp only [if_true]
        have same : { lifecycle with
            fdtRaw := lifecycle.fdtRaw ++ [channelWords event.raw]
            currentFdtTable := table
            learnedFdtTable := table
            learnedFdtValid := true
            fdtDeltaClassified := true } = { lifecycle with
            fdtRaw := lifecycle.fdtRaw ++ [channelWords event.raw]
            currentFdtTable := table
            learnedFdtTable := table
            learnedFdtValid := true } := by
          rw [← classified]
        rw [← same] at prompt
        exact prompt
      | false =>
        have alike : Alike lifecycle { lifecycle with
            fdtRaw := lifecycle.fdtRaw ++ [channelWords event.raw]
            currentFdtTable := table
            fdtDeltaClassified := true } := ⟨running, rfl, rfl, rfl, rfl, rfl, rfl, running⟩
        exact rejects alike frame _

section

variable {lifecycle : Lifecycle} {frame : List UInt8} {message : A0Message}
  (received : Received frame message)

include received

theorem acceptThreshold_delivers (phase : lifecycle.phase = .fdt_82)
    (seen : lifecycle.ackSeen = true) :
    Delivers lifecycle ((lifecycle.acceptThreshold message).after [.a0 frame]) := by
  have running : lifecycle.phase ≠ .terminal := by
    rw [phase]
    nofun
  unfold Lifecycle.acceptThreshold
  by_cases improper : message.control ≠ 0x82 ∨ message.body.length ≠ 2
  · simp only [improper, if_true]
    exact rejects (.refl running) frame _
  · simp only [improper, if_false]
    simp only [not_or, not_not] at improper
    unfold Lifecycle.classifyFdtDelta
    by_cases unready : true = false ∨ 1 ≥ lifecycle.fdtRaw.length ∨ 0 ≥ 1
    · simp only [unready, if_true]
      have alike : Alike lifecycle { lifecycle with
          fdtThreshold := message.body.getD 1 0
          fdtThresholdValid := true } := ⟨running, rfl, rfl, rfl, rfl, rfl, rfl, running⟩
      exact rejects alike frame _
    · simp only [unready, if_false]
      cases within : withinThreshold (message.body.getD 1 0) (lifecycle.fdtRaw.getD 0 [])
          (lifecycle.fdtRaw.getD 1 []) with
      | true =>
        simp only [if_true]
        exact (Prompt.threshold phase seen ⟨message, received, improper.1, improper.2, rfl⟩
          (by omega) within).delivers
      | false =>
        have alike : Alike lifecycle { lifecycle with
            fdtThreshold := message.body.getD 1 0
            fdtThresholdValid := true
            fdtDeltaClassified := true } := ⟨running, rfl, rfl, rfl, rfl, rfl, rfl, running⟩
        exact rejects alike frame _

theorem acceptFirstArm_delivers (phase : lifecycle.phase = .firstArm) (answer : Answer) :
    Delivers lifecycle ((lifecycle.acceptFirstArm message answer).after [.a0 frame]) := by
  have running : lifecycle.phase ≠ .terminal := by
    rw [phase]
    nofun
  unfold Lifecycle.acceptFirstArm
  split
  · exact rejects (.refl running) frame _
  · rename_i ready
    refine onAck_delivers running received fun fresh ack => ?_
    by_cases pending : lifecycle.irq80RearmPending = true
    · rw [if_pos pending]
      simp only [pending, true_and, not_or, Bool.not_eq_true, not_not] at ready
      exact .rearmed phase fresh ack pending ready.1 ready.2
    · rw [if_neg pending]
      simp only [Bool.not_eq_true] at pending
      by_cases configured : lifecycle.firstArmHandoff = true
      · rw [if_pos configured]
        by_cases busy : lifecycle.outPending = true ∨ lifecycle.backend.outOutstanding ≠ 0 ∨
            lifecycle.backendCallbackOwned = false
        · rw [if_pos busy]
          have alike : Alike lifecycle { lifecycle with ackSeen := true } :=
            ⟨running, rfl, rfl, rfl, rfl, rfl, rfl, running⟩
          exact rejects alike frame _
        · rw [if_neg busy]
          simp only [not_or, Bool.not_eq_true, Bool.not_eq_false, not_not] at busy
          exact .handoff answer.accepted answer.error phase fresh ack pending configured busy.1
            busy.2.1 busy.2.2
      · rw [if_neg configured]
        exact .armed phase fresh ack pending (by simpa using configured)

omit received in
theorem acceptIrq80_delivers {event : Event} (answer : Answer)
    (phase : lifecycle.phase = .firstIrq2)
    (allowed : lifecycle.loginGate = true → lifecycle.loginAuthorized = true)
    (irq80 : IsIrq80 event frame) :
    Delivers lifecycle ((lifecycle.acceptIrq80 message event answer).after [.a0 frame]) := by
  have running : lifecycle.phase ≠ .terminal := by
    rw [phase]
    nofun
  unfold Lifecycle.acceptIrq80
  split
  · exact rejects (.refl running) frame _
  · rename_i below
    simp only
    split
    · exact rejects (.refl running) frame _
    · rename_i ready
      simp only [not_or, Bool.not_eq_true, Bool.not_eq_false] at ready
      exact (Prompt.irq80 answer.timestamp phase allowed irq80 (by omega)
        (Prod.ext ready.2.1 rfl)).delivers

theorem acceptFinger_delivers {event : Event} (fields : eventFields message = some event)
    (phase : lifecycle.phase = .firstIrq2 ∨ lifecycle.phase = .secondIrq2)
    (allowed : lifecycle.loginGate = true → lifecycle.loginAuthorized = true) :
    Delivers lifecycle ((lifecycle.acceptFinger message event).after [.a0 frame]) := by
  have running : lifecycle.phase ≠ .terminal := by
    rcases phase with first | second
    · rw [first]
      nofun
    · rw [second]
      nofun
  unfold Lifecycle.acceptFinger
  split
  · exact rejects (.refl running) frame _
  · rename_i proper
    simp only [not_or, Bool.not_eq_false, not_not] at proper
    obtain ⟨control, irq, flags⟩ := proper
    have down : IsFingerDown event frame := ⟨⟨message, received, control, fields, irq⟩, flags⟩
    split
    · rename_i first
      generalize derivation : deriveUpTable event.raw event.flags 0x1d lifecycle.firstUpTable =
        derived
      obtain ⟨succeeded, table⟩ := derived
      cases succeeded with
      | true => exact .firstFinger first allowed down derivation
      | false =>
        have alike : Alike lifecycle { lifecycle with firstUpTable := table } :=
          ⟨running, rfl, rfl, rfl, rfl, rfl, rfl, running⟩
        exact rejects alike frame _
    · rename_i other
      exact .secondFinger (phase.resolve_left other) allowed down

theorem acceptContact_delivers (answer : Answer)
    (phase : lifecycle.phase = .firstIrq2 ∨ lifecycle.phase = .secondIrq2) :
    Delivers lifecycle ((lifecycle.acceptContact message answer).after [.a0 frame]) := by
  have running : lifecycle.phase ≠ .terminal := by
    rcases phase with first | second
    · rw [first]
      nofun
    · rw [second]
      nofun
  unfold Lifecycle.acceptContact
  split
  · exact rejects (.refl running) frame _
  · rename_i gate
    have allowed : lifecycle.loginGate = true → lifecycle.loginAuthorized = true := by
      simpa using gate
    split
    · exact rejects (.refl running) frame _
    · rename_i event fields
      split
      · rename_i irq80
        obtain ⟨first, control, irq, flags⟩ := irq80
        exact acceptIrq80_delivers answer first allowed
          ⟨⟨message, received, control, fields, irq⟩, flags⟩
      · exact acceptFinger_delivers received fields phase allowed

theorem acceptRelease_delivers (phase : lifecycle.phase = .releaseIrq200) :
    Delivers lifecycle ((lifecycle.acceptRelease message).after [.a0 frame]) := by
  have running : lifecycle.phase ≠ .terminal := by
    rw [phase]
    nofun
  unfold Lifecycle.acceptRelease
  split
  · exact rejects (.refl running) frame _
  · rename_i event fields
    split
    · exact rejects (.refl running) frame _
    · rename_i proper
      simp only [not_or, not_not] at proper
      generalize derivation : deriveDownTable event.raw event.flags lifecycle.freshDownTable =
        derived
      obtain ⟨succeeded, table⟩ := derived
      cases succeeded with
      | true =>
        have flags : irqFlagsValid .fingerUp event.flags = true := by
          unfold deriveDownTable at derivation
          split at derivation
          · assumption
          · cases derivation
        exact (Prompt.fingerUp phase ⟨⟨message, received, proper.1, fields, proper.2⟩, flags⟩
          derivation).delivers
      | false =>
        have alike : Alike lifecycle { lifecycle with freshDownTable := table } :=
          ⟨running, rfl, rfl, rfl, rfl, rfl, rfl, running⟩
        exact rejects alike frame _

end

/-- The message of a frame where no NAV is expected. -/
theorem message_received {lifecycle : Lifecycle} {frame : List UInt8} {message : A0Message}
    (ordinary : ¬ ((lifecycle.phase = .fdtNav_1 ∧ lifecycle.ackSeen = true) ∨
      lifecycle.phase = .releaseNav))
    (parsed : lifecycle.message frame = .ok message) : Received frame message := by
  unfold Lifecycle.message at parsed
  rw [if_neg ordinary] at parsed
  split at parsed
  · cases parsed
  · rename_i long
    cases result : parseReceived frame with
    | error problem =>
      rw [result] at parsed
      cases parsed
    | ok found =>
      rw [result] at parsed
      cases parsed
      exact ⟨by omega, result⟩

/-- Where a NAV is expected, nothing else is parsed. -/
theorem message_nav {lifecycle : Lifecycle} {frame : List UInt8} {message : A0Message}
    (expected : (lifecycle.phase = .fdtNav_1 ∧ lifecycle.ackSeen = true) ∨
      lifecycle.phase = .releaseNav)
    (parsed : lifecycle.message frame = .ok message) : IsNav frame := by
  unfold Lifecycle.message at parsed
  rw [if_pos expected] at parsed
  unfold IsNav
  split at parsed
  · cases parsed
  · rename_i found nav
    rw [nav]
    rfl

theorem handleA0_delivers (lifecycle : Lifecycle) (frame : List UInt8) (answer : Answer) :
    Delivers lifecycle (lifecycle.handleA0 frame answer) := by
  unfold Lifecycle.handleA0
  split
  · rename_i idle
    exact .ignored idle
  · rename_i live
    simp only [not_or] at live
    have running := live.1
    split
    · exact rejects (.refl running) frame _
    · rename_i message parsed
      by_cases nav : (lifecycle.phase = .fdtNav_1 ∧ lifecycle.ackSeen = true) ∨
          lifecycle.phase = .releaseNav
      · have isNav := message_nav nav parsed
        unfold Lifecycle.accept
        rcases nav with ⟨first, seen⟩ | release
        · rw [first]
          simp only [seen, Bool.true_eq_false, if_false]
          split
          · exact rejects (.refl running) frame _
          · exact (Prompt.nav first seen isNav).delivers
        · rw [release]
          simp only [Lifecycle.acceptReleaseNav]
          split
          · exact rejects (.refl running) frame _
          · exact .contactOver release isNav
      · have received := message_received nav parsed
        unfold Lifecycle.accept
        cases phase : lifecycle.phase with
        | d4 =>
          exact onAck_delivers running received fun fresh ack =>
            (Prompt.d4 phase fresh ack).delivers
        | af =>
          simp only
          split
          · exact rejects (.refl running) frame _
          · rename_i proper
            simp only [not_or, not_not] at proper
            exact (Prompt.controllerState phase
              ⟨message, received, proper.1, proper.2.1, proper.2.2.1, proper.2.2.2⟩).delivers
        | fdtIrq100_1 =>
          refine acceptBaseline_delivers running received ?_
          intro event table baseline room derived
          simp only [phase, if_true] at baseline derived
          exact (Prompt.firstSample phase baseline room derived).delivers
        | fdtIrq100_2 =>
          refine acceptBaseline_delivers running received ?_
          intro event table baseline room derived
          simp only [phase, reduceCtorEq, if_false] at baseline derived
          exact (Prompt.secondSample phase baseline room derived).delivers
        | fdtIrq100_3 =>
          refine acceptBaseline_delivers running received ?_
          intro event table baseline room derived
          simp only [phase, reduceCtorEq, if_false] at baseline derived
          exact thirdSample_delivers phase baseline room derived
        | fdtNav_1 =>
          have unseen : lifecycle.ackSeen = false := by
            simpa [phase] using nav
          simp only [unseen, if_true]
          exact onAckTo_delivers running received (by rw [phase]; rfl)
        | fdt_82 =>
          simp only
          split
          · exact onAckTo_delivers running received (by rw [phase]; rfl)
          · rename_i seen
            exact acceptThreshold_delivers received phase (by simpa using seen)
        | firstArm => exact acceptFirstArm_delivers received phase answer
        | firstIrq2 => exact acceptContact_delivers received answer (.inl phase)
        | secondIrq2 => exact acceptContact_delivers received answer (.inr phase)
        | releaseIrq200 => exact acceptRelease_delivers received phase
        | releaseNav => exact absurd (.inr phase) nav
        | fdt36_1 | fdt36_2 | fdt36_3 | fdt_20 | first_22 | release_34 | release_20
        | release_50 | secondArm | second_22 =>
          exact onAckTo_delivers running received (by rw [phase]; rfl)
        | notStarted | fdtB0 | firstB0 | releaseB0 | rearmGate | secondB0 | stop | terminal =>
          exact rejects (.refl running) frame _

section

variable {lifecycle : Lifecycle} {samples : List UInt16} {answer : Answer}

theorem acceptImage_baseline (phase : lifecycle.phase = .fdtB0) :
    lifecycle.acceptImage samples answer =
      { lifecycle with
        baselineSamples := samples
        baselineValid := true
        phase := .fdt36_3 }.submitFdt36 .fdt36_3 := by
  simp only [Lifecycle.acceptImage, phase]

theorem acceptImage_first (phase : lifecycle.phase = .firstB0) :
    lifecycle.acceptImage samples answer =
      { lifecycle
        callouts := [.back (.image (if lifecycle.loginGate then lifecycle.loginAttempts else 1)
          samples)]
        rest := .firstImage answer.accepted answer.error } := by
  simp only [Lifecycle.acceptImage, phase]

theorem acceptImage_second (phase : lifecycle.phase = .secondB0) :
    lifecycle.acceptImage samples answer =
      { lifecycle
        callouts := [.back (.image 2 samples)]
        rest := .secondImage answer.accepted answer.error } := by
  simp only [Lifecycle.acceptImage, phase]

end

theorem acceptChunk_delivers {lifecycle : Lifecycle} (octets : List UInt8) (answer : Answer)
    (slot : lifecycle.phase = .fdtB0 ∨ lifecycle.phase = .firstB0 ∨
      lifecycle.phase = .secondB0) :
    Delivers lifecycle ((lifecycle.acceptChunk octets answer).after [.plaintext octets]) := by
  have running : lifecycle.phase ≠ .terminal := by
    rcases slot with phase | phase | phase <;> rw [phase] <;> nofun
  have grown : Alike lifecycle { lifecycle with
      plaintextPending := lifecycle.plaintextPending ++ octets } :=
    ⟨running, rfl, rfl, rfl, rfl, rfl, rfl, running⟩
  have cleared : Alike lifecycle { lifecycle with plaintextPending := [] } :=
    ⟨running, rfl, rfl, rfl, rfl, rfl, rfl, running⟩
  unfold Lifecycle.acceptChunk
  split
  · exact rejectsPlaintext (.refl running) octets _
  · simp only
    split
    · rename_i short
      exact .chunk slot (lt_trans short (by decide))
    · split
      · exact rejectsPlaintext grown octets _
      · rename_i proper
        simp only [not_or, not_not] at proper
        split
        · rename_i short
          exact .chunk slot (proper.1 ▸ short)
        · split
          · exact rejectsPlaintext cleared octets _
          · rename_i samples decoded
            rcases slot with phase | phase | phase
            · rw [acceptImage_baseline (by exact phase)]
              exact (Prompt.baselineImage phase decoded).delivers
            · rw [acceptImage_first (by exact phase)]
              exact .firstImage answer.accepted answer.error phase decoded
            · rw [acceptImage_second (by exact phase)]
              exact .secondImage answer.accepted answer.error phase decoded

theorem handlePlaintext_delivers (lifecycle : Lifecycle) (octets : List UInt8)
    (answer : Answer) : Delivers lifecycle (lifecycle.handlePlaintext octets answer) := by
  unfold Lifecycle.handlePlaintext
  split
  · rename_i idle
    exact .ignored idle
  · rename_i live
    simp only [not_or] at live
    split
    · rename_i released
      exact (Prompt.released released).delivers
    · split
      · exact rejectsPlaintext (.refl live.1) octets _
      · rename_i slot
        refine acceptChunk_delivers octets answer ?_
        tauto

/-! ## Other moves -/

/-- What is left of a delivery that has no command to send. -/
def Rest.light : Rest → Bool
  | .nothing | .rearm | .handedOff _ _ => true
  | .imageCommand _ | .firstImage _ _ | .secondImage _ _ => false

/-- What a delivery does when the callback it waited for has returned. -/
inductive Finished (lifecycle : Lifecycle) : Rest → List Noted → Lifecycle → List Callout → Prop where
  | nothing (rest : Rest) (idle : lifecycle.phase = .terminal ∨ rest.light = true) :
      Finished lifecycle rest [] lifecycle []
  | failed {rest : Rest} {reason : GError} {after : Lifecycle}
      (fallen : Fallen lifecycle reason after) :
      Finished lifecycle rest [.failed reason] after (farewell lifecycle reason)
  | imageCommand {second : Bool} {packet : List UInt8}
      (sends : Sends lifecycle 0x22 Lifecycle.simpleBody packet) :
      Finished lifecycle (.imageCommand second) [.submitted 0x22 packet]
        (lifecycle.sentWith 0x22 (Lifecycle.imagePhase second)) []
  | firstImage {error : Option GError} {packet : List UInt8}
      (sends : Sends lifecycle 0x34 ([0x0a, 0x01] ++ lifecycle.firstUpTable.val) packet) :
      Finished lifecycle (.firstImage true error) [.submitted 0x34 packet]
        (lifecycle.sentWith 0x34 .release_34) []
  | secondImage {error : Option GError} :
      Finished lifecycle (.secondImage true error) [] { lifecycle with phase := .stop } []
  | rearm {packet : List UInt8} (phase : lifecycle.phase = .rearmGate)
      (awaits : lifecycle.frameworkAwait = true) (fresh : lifecycle.freshDownValid = true)
      (first : lifecycle.rearmSubmitted = false)
      (sends : Sends lifecycle 0x32 (lifecycle.armBody true) packet) :
      Finished lifecycle .rearm [.submitted 0x32 packet]
        ({ lifecycle with rearmSubmitted := true }.sentWith 0x32 .secondArm) []

/-- Two backends that are alike on the side of the OUTs. -/
structure SameOut (first second : Backend Owner) : Prop where
  generation : second.generation = first.generation
  outGeneration : second.outGeneration = first.outGeneration
  outstanding : second.outOutstanding = first.outOutstanding
  fence : second.terminalFence = first.terminalFence
  sync : second.preSessionSyncActive = first.preSessionSyncActive
  callback : second.outCompletedCallback = first.outCompletedCallback

/-- What every other call does up to its callbacks. -/
inductive Performed (lifecycle : Lifecycle) : List Noted → Lifecycle → List Callout → Prop where
  | nothing : Performed lifecycle [] lifecycle []
  | refused (error : GError) : Performed lifecycle [.refused error] lifecycle []
  | configured (phase : lifecycle.phase = .notStarted) (handoff gate : Bool)
      (kept : lifecycle.loginGate = true → gate = true) :
      Performed lifecycle []
        { lifecycle with firstArmHandoff := handoff, loginGate := gate } []
  | started {packet : List UInt8} (phase : lifecycle.phase = .notStarted)
      (sends : Sends lifecycle 0xd4 [0x00, 0x00] packet) :
      Performed lifecycle [.submitted 0xd4 packet]
        ({ lifecycle with
          backend := { lifecycle.backend with outCompletedCallback := some .postTlsLifecycle }
          backendCallbackOwned := true }.sentWith 0xd4 .d4) []
  | unstarted {after : Lifecycle} (error : GError) (phase : lifecycle.phase = .notStarted)
      (unsent : Unsent { lifecycle with
        backend := { lifecycle.backend with outCompletedCallback := some .postTlsLifecycle }
        backendCallbackOwned := true } 0xd4 .d4 after) :
      Performed lifecycle [.refused error] after []
  | failed {reason : GError} {after : Lifecycle} (fallen : Fallen lifecycle reason after) :
      Performed lifecycle [.failed reason] after (farewell lifecycle reason)
  | awaits (awaiting : Bool) (running : lifecycle.phase ≠ .terminal)
      (unstopped : lifecycle.phase ≠ .stop) :
      Performed lifecycle [.awaiting awaiting] { lifecycle with frameworkAwait := awaiting } []
  | rearmed {packet : List UInt8} (phase : lifecycle.phase = .rearmGate)
      (fresh : lifecycle.freshDownValid = true) (first : lifecycle.rearmSubmitted = false)
      (sends : Sends lifecycle 0x32 (lifecycle.armBody true) packet) :
      Performed lifecycle [.awaiting true, .submitted 0x32 packet]
        ({ lifecycle with frameworkAwait := true, rearmSubmitted := true }.sentWith 0x32 .secondArm)
        []
  | unrearmed {reason : GError} {after : Lifecycle} (phase : lifecycle.phase = .rearmGate)
      (fallen : Fallen lifecycle reason after) :
      Performed lifecycle [.awaiting true, .failed reason] after (farewell lifecycle reason)
  | authorized (gate : lifecycle.loginGate = true) (first : lifecycle.loginAuthorized = false)
      (phase : lifecycle.phase = .firstIrq2) :
      Performed lifecycle [.authorized]
        { lifecycle with loginAuthorized := true, loginAttempts := 1 } []
  | nextLogin {next : Lifecycle} {packet : List UInt8} (timestamp : UInt16)
      (gate : lifecycle.loginGate = true) (authorized : lifecycle.loginAuthorized = true)
      (below : lifecycle.loginAttempts < 3) (phase : lifecycle.phase = .stop)
      (fresh : lifecycle.freshDownValid = true)
      (profile : lifecycle.material.captureProfile = .singleAcquisition)
      (drained : lifecycle.backend.isDrained = true)
      (prepared : next = { lifecycle with
        loginAttempts := lifecycle.loginAttempts + 1
        firstContactIrq80Count := 0
        currentFdtTable := lifecycle.freshDownTable
        freshDownValid := false
        material := { lifecycle.material with firstArmTimestamp := timestamp }
        phase := .rearmGate })
      (sends : Sends next 0x32 (next.armBody false) packet) :
      Performed lifecycle [.nextLogin, .submitted 0x32 packet] (next.sentWith 0x32 .firstArm) []
  | noNextLogin {next after : Lifecycle} (timestamp : UInt16) (error : GError)
      (gate : lifecycle.loginGate = true) (authorized : lifecycle.loginAuthorized = true)
      (below : lifecycle.loginAttempts < 3) (phase : lifecycle.phase = .stop)
      (fresh : lifecycle.freshDownValid = true)
      (profile : lifecycle.material.captureProfile = .singleAcquisition)
      (drained : lifecycle.backend.isDrained = true)
      (prepared : next = { lifecycle with
        loginAttempts := lifecycle.loginAttempts + 1
        firstContactIrq80Count := 0
        currentFdtTable := lifecycle.freshDownTable
        freshDownValid := false
        material := { lifecycle.material with firstArmTimestamp := timestamp }
        phase := .rearmGate })
      (unsent : Unsent next 0x32 .firstArm after) :
      Performed lifecycle [.nextLogin, .refused error] after []
  | outDone {backend : Backend Owner} (generation : Nat)
      (took : lifecycle.backend.takeOut generation = some backend)
      (mine : generation = lifecycle.generation) (pending : lifecycle.outPending = true)
      (running : lifecycle.phase ≠ .terminal)
      (callback : lifecycle.backend.outCompletedCallback = some .postTlsLifecycle) :
      Performed lifecycle [.outCompleted none] { lifecycle with backend, outPending := false }
        [.drained]
  | outFailed {backend : Backend Owner} {reason : GError} {after : Lifecycle} (generation : Nat)
      (took : lifecycle.backend.takeOut generation = some backend)
      (fallen : Fallen { lifecycle with backend } reason after) :
      Performed lifecycle [.outCompleted (some reason), .failed reason] after
        (farewell lifecycle reason ++ [.drained])
  | outIgnored {backend : Backend Owner} (generation : Nat) (error : Option GError)
      (took : lifecycle.backend.takeOut generation = some backend)
      (deaf : lifecycle.backend.outCompletedCallback = some .postTlsLifecycle →
        generation ≠ lifecycle.generation ∨ lifecycle.outPending = false ∨
          lifecycle.phase = .terminal) :
      Performed lifecycle [.outCompleted error] { lifecycle with backend } [.drained]
  | fenced (unfenced : lifecycle.backend.terminalFence = false) :
      Performed lifecycle [] { lifecycle with backend := lifecycle.backend.fence } [.drained]
  | received {backend : Backend Owner} (callouts : List Callout)
      (same : SameOut lifecycle.backend backend) (due : callouts = [] ∨ callouts = [.drained]) :
      Performed lifecycle [] { lifecycle with backend } callouts

/-- The moves of a lifecycle among its surroundings. -/
inductive Move : Desk → List Noted → Desk → Prop where
  | delivered {desk : Desk} {noted : List Noted} {after : Lifecycle} {callouts : List Callout}
      {rest : Rest} (idle : desk.delivery = none)
      (delivered : Delivered desk.lifecycle noted after callouts rest) :
      Move desk noted { lifecycle := after, delivery := some rest }
  | finished {desk : Desk} {rest : Rest} {noted : List Noted} {after : Lifecycle}
      {callouts : List Callout} (waits : desk.delivery = some rest)
      (finished : Finished desk.lifecycle rest noted after callouts) :
      Move desk noted { lifecycle := after, delivery := none }
  | performed {desk : Desk} {noted : List Noted} {after : Lifecycle} {callouts : List Callout}
      (performed : Performed desk.lifecycle noted after callouts) :
      Move desk noted { desk with lifecycle := after }
  | copied (desk : Desk) : Move desk [.copied desk.lifecycle.copyLearnedFdt] desk
  | called (desk : Desk) (callback : Callback) : Move desk [.called callback] desk
  | drained (desk : Desk) : Move desk [.drained] { desk with lifecycle.backend.drainNotified := true }

/-! ## Every step is made of moves -/

/-- An outcome of a call that one of the moves describes. -/
def Performs (lifecycle : Lifecycle) (outcome : Outcome) : Prop :=
  Performed lifecycle outcome.noted outcome.lifecycle outcome.callouts

/-- The end of a delivery that one of the moves describes. -/
def Finishes (lifecycle : Lifecycle) (rest : Rest) (outcome : Outcome) : Prop :=
  Finished lifecycle rest outcome.noted outcome.lifecycle outcome.callouts

theorem fail_finishes (lifecycle : Lifecycle) (rest : Rest) (error : Option GError) :
    Finishes lifecycle rest (lifecycle.fail error) := by
  by_cases ended : lifecycle.phase = .terminal
  · rw [fail_terminal ended]
    exact .nothing rest (.inl ended)
  · obtain ⟨reason, after, fallen, result⟩ := fail_fallen (.refl ended) error
    rw [result]
    exact .failed fallen

/-- Without a lifecycle that runs there is no submission and no further failure. -/
theorem submitOrFail_terminal {lifecycle : Lifecycle} (ended : lifecycle.phase = .terminal)
    (control : UInt8) (body : List UInt8) (next : Phase) :
    lifecycle.submitOrFail control body next = { lifecycle } := by
  unfold Lifecycle.submitOrFail Lifecycle.submitCommand
  simp only [ended, or_true, true_or, if_true]
  exact fail_terminal ended _

theorem submitOrFail_finishes {lifecycle : Lifecycle} {rest : Rest} {control : UInt8}
    {body : List UInt8} {next : Phase} (lasting : next ≠ .terminal)
    (sent : ∀ packet, Sends lifecycle control body packet →
      Finished lifecycle rest [.submitted control packet] (lifecycle.sentWith control next) []) :
    Finishes lifecycle rest (lifecycle.submitOrFail control body next) := by
  by_cases ended : lifecycle.phase = .terminal
  · rw [submitOrFail_terminal ended]
    exact .nothing rest (.inl ended)
  · rcases submitOrFail_cases (.refl ended) lasting control body with
      ⟨packet, sends, result⟩ | ⟨reason, after, fallen, result⟩
    · rw [result]
      exact sent packet sends
    · rw [result]
      exact .failed fallen

theorem maybeSubmitRearm_cases (lifecycle : Lifecycle) :
    lifecycle.maybeSubmitRearm = { lifecycle } ∨
    ((lifecycle.phase = .rearmGate ∧ lifecycle.frameworkAwait = true ∧
        lifecycle.freshDownValid = true ∧ lifecycle.rearmSubmitted = false) ∧
      ((∃ packet, Sends lifecycle 0x32 (lifecycle.armBody true) packet ∧
        lifecycle.maybeSubmitRearm =
          { lifecycle := { lifecycle with rearmSubmitted := true }.sentWith 0x32 .secondArm
            noted := [.submitted 0x32 packet] }) ∨
      ∃ reason after, Fallen lifecycle reason after ∧
        lifecycle.maybeSubmitRearm =
          { lifecycle := after
            noted := [.failed reason]
            callouts := farewell lifecycle reason })) := by
  unfold Lifecycle.maybeSubmitRearm
  split
  · exact .inl rfl
  · rename_i ready
    simp only [not_or, Bool.not_eq_false, Bool.not_eq_true, not_not] at ready
    obtain ⟨phase, awaits, fresh, first⟩ := ready
    refine .inr ⟨⟨phase, awaits, fresh, first⟩, ?_⟩
    have alike : Alike lifecycle { lifecycle with rearmSubmitted := true } :=
      ⟨by rw [phase]; nofun, rfl, rfl, rfl, rfl, rfl, rfl, by rw [phase]; nofun⟩
    have lasting : Phase.secondArm ≠ .terminal := nofun
    rcases submitOrFail_cases alike lasting 0x32 (lifecycle.armBody true) with
      ⟨packet, sends, result⟩ | ⟨reason, after, fallen, result⟩
    · exact .inl ⟨packet, ⟨sends.built, sends.free, sends.running, sends.unstopped,
        sends.unfenced, sends.idle⟩, result⟩
    · exact .inr ⟨reason, after, fallen, result⟩

theorem finish_finishes (lifecycle : Lifecycle) (rest : Rest) :
    Finishes lifecycle rest (lifecycle.finish rest) := by
  cases rest with
  | nothing => exact .nothing _ (.inr rfl)
  | imageCommand second =>
    refine submitOrFail_finishes ?_ fun packet sends => .imageCommand sends
    cases second <;> nofun
  | firstImage accepted error =>
    cases accepted with
    | true => exact submitOrFail_finishes nofun fun packet sends => .firstImage sends
    | false => exact fail_finishes lifecycle _ error
  | secondImage accepted error =>
    cases accepted with
    | true => exact .secondImage
    | false => exact fail_finishes lifecycle _ error
  | rearm =>
    show Finishes lifecycle .rearm lifecycle.maybeSubmitRearm
    rcases maybeSubmitRearm_cases lifecycle with
      result | ⟨⟨phase, awaits, fresh, first⟩, ⟨packet, sends, result⟩ | ⟨reason, after, fallen, result⟩⟩
    · rw [result]
      exact .nothing _ (.inr rfl)
    · rw [result]
      exact .rearm phase awaits fresh first sends
    · rw [result]
      exact .failed fallen
  | handedOff accepted error =>
    cases accepted with
    | true => exact .nothing _ (.inr rfl)
    | false => exact fail_finishes lifecycle _ error

theorem fail_performs {lifecycle : Lifecycle} (error : Option GError) :
    Performs lifecycle (lifecycle.fail error) := by
  by_cases ended : lifecycle.phase = .terminal
  · rw [fail_terminal ended]
    exact .nothing
  · obtain ⟨reason, after, fallen, result⟩ := fail_fallen (.refl ended) error
    rw [result]
    exact .failed fallen

theorem start_performs (lifecycle : Lifecycle) : Performs lifecycle lifecycle.start := by
  unfold Lifecycle.start
  split
  · exact .refused _
  · rename_i phase
    simp only [not_not] at phase
    let owning : Lifecycle :=
      { lifecycle with
        backend := { lifecycle.backend with outCompletedCallback := some .postTlsLifecycle }
        backendCallbackOwned := true }
    have running : owning.phase ≠ .terminal := by show lifecycle.phase ≠ _; rw [phase]; nofun
    have unstopped : owning.phase ≠ .stop := by show lifecycle.phase ≠ _; rw [phase]; nofun
    have short : ([0x00, 0x00] : List UInt8).length ≤ 56 := by decide
    rcases submitOrRefuse_cases running unstopped 0xd4 short .d4 with
      ⟨packet, sends, result⟩ | ⟨error, after, unsent, result⟩
    · rw [result]
      exact .started phase ⟨sends.built, sends.free, sends.running, sends.unstopped,
        sends.unfenced, sends.idle⟩
    · rw [result]
      exact .unstarted error phase unsent

theorem setFrameworkAwaitFingerOn_performs (lifecycle : Lifecycle) (generation : Nat)
    (awaiting : Bool) :
    Performs lifecycle (lifecycle.setFrameworkAwaitFingerOn generation awaiting) := by
  unfold Lifecycle.setFrameworkAwaitFingerOn
  split
  · exact .nothing
  · rename_i live
    simp only [not_or] at live
    obtain ⟨-, running, unstopped⟩ := live
    rcases maybeSubmitRearm_cases { lifecycle with frameworkAwait := awaiting } with
      result | ⟨⟨phase, awaits, fresh, first⟩, ⟨packet, sends, result⟩ | ⟨reason, after, fallen, result⟩⟩
    · rw [result]
      exact .awaits awaiting running unstopped
    · rw [result]
      obtain rfl : awaiting = true := awaits
      exact .rearmed phase fresh first ⟨sends.built, sends.free, sends.running,
        sends.unstopped, sends.unfenced, sends.idle⟩
    · rw [result]
      obtain rfl : awaiting = true := awaits
      exact .unrearmed phase ⟨fallen.phase, fallen.backend, fallen.error, fallen.learned,
        fallen.down, fallen.pending, fallen.gate, fallen.authorized, fallen.profile,
        fallen.generation, fallen.listeners, fallen.running⟩

theorem length_armBody (lifecycle : Lifecycle) (second : Bool) :
    (lifecycle.armBody second).length ≤ 56 := by
  simp [Lifecycle.armBody]

theorem nextLogin_performs (lifecycle : Lifecycle) (timestamp : UInt16) :
    Performs lifecycle (lifecycle.nextLogin timestamp) := by
  unfold Lifecycle.nextLogin
  split
  · exact .refused _
  · rename_i granted
    simp only [not_or, Bool.not_eq_false, not_not, Nat.not_le, ge_iff_le] at granted
    obtain ⟨gate, authorized, below, phase, fresh, profile, drained⟩ := granted
    simp only
    let attempt : Lifecycle :=
      { lifecycle with
        loginAttempts := lifecycle.loginAttempts + 1
        firstContactIrq80Count := 0
        currentFdtTable := lifecycle.freshDownTable
        freshDownValid := false
        material := { lifecycle.material with firstArmTimestamp := timestamp }
        phase := .rearmGate }
    have running : attempt.phase ≠ .terminal := nofun
    have unstopped : attempt.phase ≠ .stop := nofun
    rcases submitOrRefuse_cases running unstopped 0x32 (length_armBody attempt false) .firstArm with
      ⟨packet, sends, result⟩ | ⟨error, after, unsent, result⟩
    · rw [result]
      exact .nextLogin timestamp gate authorized below phase fresh profile drained rfl sends
    · rw [result]
      exact .noNextLogin timestamp error gate authorized below phase fresh profile drained rfl
        unsent

theorem completeOut_performs (lifecycle : Lifecycle) (generation : Nat)
    (error : Option GError) : Performs lifecycle (lifecycle.completeOut generation error) := by
  unfold Lifecycle.completeOut
  cases took : lifecycle.backend.takeOut generation with
  | none => exact .nothing
  | some backend =>
    have callback : backend.outCompletedCallback = lifecycle.backend.outCompletedCallback := by
      unfold Backend.takeOut at took
      split at took
      · cases took
      · cases took
        rfl
    have fence : backend.terminalFence = lifecycle.backend.terminalFence := by
      unfold Backend.takeOut at took
      split at took
      · cases took
      · cases took
        rfl
    simp only
    by_cases mine : backend.outCompletedCallback = some .postTlsLifecycle
    · rw [if_pos mine]
      unfold Lifecycle.outComplete
      by_cases deaf : generation ≠ lifecycle.generation ∨ lifecycle.outPending = false ∨
          lifecycle.phase = .terminal
      · rw [if_pos deaf]
        exact .outIgnored generation error took fun _ => deaf
      · rw [if_neg deaf]
        simp only [not_or, not_not, Bool.not_eq_false] at deaf
        obtain ⟨same, pending, running⟩ := deaf
        cases error with
        | none =>
          exact .outDone generation took same pending running (callback ▸ mine)
        | some error =>
          have alike : Alike { lifecycle with backend }
              { lifecycle with backend, outPending := false } :=
            ⟨running, rfl, rfl, rfl, rfl, rfl, rfl, running⟩
          obtain ⟨after, fallen, result⟩ := fail_some_fallen alike error
          have goodbye : farewell { lifecycle with backend } error = farewell lifecycle error := by
            simp only [farewell, fence]
          show Performs lifecycle
            { ({ lifecycle with backend, outPending := false }.fail (some error)) with
              noted := .outCompleted (some error) ::
                ({ lifecycle with backend, outPending := false }.fail (some error)).noted
              callouts :=
                ({ lifecycle with backend, outPending := false }.fail (some error)).callouts ++
                  [.drained] }
          rw [result, goodbye]
          exact .outFailed generation took fallen
    · rw [if_neg mine]
      exact .outIgnored generation error took fun owner => absurd (callback ▸ owner) mine

theorem takeReceive_same {backend after : Backend Owner} {generation : Nat}
    {purpose : ReceivePurpose} (took : backend.takeReceive generation = some (after, purpose)) :
    SameOut backend after := by
  unfold Backend.takeReceive at took
  split at took
  · cases took
  · cases took
    exact ⟨rfl, rfl, rfl, rfl, rfl, rfl⟩

namespace Desk

/-- What a call does before its callbacks, and the work it then has. -/
inductive Called (desk : Desk) : Desk → List Noted → List Work → Prop where
  | nothing : Called desk desk [] []
  | delivered {noted : List Noted} {after : Lifecycle} {callouts : List Callout} {rest : Rest}
      (idle : desk.delivery = none) (delivered : Delivered desk.lifecycle noted after callouts rest) :
      Called desk { lifecycle := after, delivery := some rest } noted [.callouts callouts, .resume]
  | performed {noted : List Noted} {after : Lifecycle} {callouts : List Callout}
      (performed : Performed desk.lifecycle noted after callouts) :
      Called desk { desk with lifecycle := after } noted [.callouts callouts]
  | received {backend : Backend Owner} (same : SameOut desk.lifecycle.backend backend) :
      Called desk { desk with lifecycle.backend := backend } [] []
  | copied : Called desk desk [.copied desk.lifecycle.copyLearnedFdt] []

/-- A call, its piece of work and what is noted of both. -/
abbrev Calls (desk : Desk) (called : Desk × List Noted × List Work) : Prop :=
  Called desk called.1 called.2.1 called.2.2

theorem perform_called {desk : Desk} {outcome : Outcome}
    (performs : Performs desk.lifecycle outcome) : desk.Calls (desk.perform outcome) :=
  .performed performs

theorem deliver_called {desk : Desk} {outcome : Outcome}
    (delivers : Delivers desk.lifecycle outcome) : desk.Calls (desk.deliver outcome) := by
  unfold deliver
  split
  · exact .nothing
  · rename_i idle
    exact .delivered (by simpa using idle) delivers

theorem call_called (desk : Desk) (call : Call) : desk.Calls (desk.call call) := by
  cases call with
  | setFirstArmHandoff =>
    apply perform_called
    unfold Lifecycle.setFirstArmHandoff
    split
    · exact .refused _
    · rename_i ready
      simp only [not_or, not_not] at ready
      exact .configured ready.1 true desk.lifecycle.loginGate id
  | prepareLogin =>
    apply perform_called
    unfold Lifecycle.prepareLogin
    split
    · exact .nothing
    · rename_i phase
      exact .configured (by simpa using phase) desk.lifecycle.firstArmHandoff true fun _ => rfl
  | start => exact perform_called (start_performs desk.lifecycle)
  | handleA0 frame answer => exact deliver_called (handleA0_delivers desk.lifecycle frame answer)
  | handlePlaintext octets answer =>
    exact deliver_called (handlePlaintext_delivers desk.lifecycle octets answer)
  | setFrameworkAwaitFingerOn generation awaiting =>
    exact perform_called (setFrameworkAwaitFingerOn_performs desk.lifecycle generation awaiting)
  | cancel reason => exact perform_called (fail_performs _)
  | timeout =>
    apply perform_called
    unfold Lifecycle.timeout
    split
    · exact .nothing
    · exact fail_performs _
  | authorizeLogin =>
    apply perform_called
    unfold Lifecycle.authorizeLogin
    split
    · exact .nothing
    · rename_i ready
      simp only [not_or, Bool.not_eq_false, Bool.not_eq_true, not_not] at ready
      exact .authorized ready.1 ready.2.1 ready.2.2
  | nextLogin timestamp => exact perform_called (nextLogin_performs desk.lifecycle timestamp)
  | copyLearnedFdt => exact .copied
  | completeOut generation error =>
    exact perform_called (completeOut_performs desk.lifecycle generation error)
  | fence =>
    simp only [Calls, call]
    split
    · exact .nothing
    · rename_i unfenced
      exact .performed (.fenced (by simpa using unfenced))
  | armReceive =>
    simp only [Calls, call]
    split
    · exact .nothing
    · exact .received ⟨rfl, rfl, rfl, rfl, rfl, rfl⟩
  | completeReceive generation =>
    simp only [Calls, call]
    split
    · exact .nothing
    · rename_i backend purpose took
      exact .performed (.received [.drained] (takeReceive_same took) (.inr rfl))

open Traces

theorem callOut_moves (desk : Desk) (callouts : List Callout) :
    Moves Move desk (desk.callOut callouts).2.1 (desk.callOut callouts).1 := by
  induction callouts with
  | nil => exact .refl desk
  | cons callout callouts ih =>
    cases callout with
    | drained =>
      unfold callOut
      split
      · exact .single (.drained desk)
      · exact ih
    | back callback =>
      unfold callOut
      split
      · exact .single (.called desk callback)
      · exact ih

theorem Called.moves {desk after : Desk} {noted : List Noted} {works : List Work}
    (called : Called desk after noted works) : Moves Move desk noted after := by
  cases called with
  | nothing => exact .refl desk
  | delivered idle delivered => exact .single (.delivered idle delivered)
  | performed performed => exact .single (.performed performed)
  | received same => exact .single (.performed (.received [] same (.inl rfl)))
  | copied => exact .single (.copied desk)

theorem turn_moves (desk : Desk) (work : Work) :
    Moves Move desk (desk.turn work).2.1 (desk.turn work).1 := by
  cases work with
  | callouts callouts => exact callOut_moves desk callouts
  | resume =>
    simp only [turn]
    split
    · exact .refl desk
    · rename_i rest waits
      have finished := Move.finished waits (finish_finishes desk.lifecycle rest)
      exact (Moves.single finished).trans (callOut_moves _ _)

end Desk

/-- What every move keeps holds in every run. -/
theorem run_invariant {invariant : List Noted → Desk → Prop} {start : Lifecycle}
    (initially : invariant [] ⟨start, none⟩)
    (kept : ∀ log before noted after, invariant log before → Move before noted after →
      invariant (log ++ noted) after)
    (actions : List (Callbacks.Action Call)) :
    invariant (Machines.run Desk.program.step ⟨⟨start, none⟩, []⟩ actions).2
      (Machines.run Desk.program.step ⟨⟨start, none⟩, []⟩ actions).1.state := by
  refine @Callbacks.Program.run_invariant _ _ _ _ Desk.program
    (fun log desk _ => invariant log desk) ?_ ?_ ⟨start, none⟩ initially actions
  · intro log desk work _ holds
    exact (Desk.turn_moves desk work).invariant invariant kept log holds
  · intro log desk call _ holds
    exact (Desk.call_called desk call).moves.invariant invariant kept log holds

end Goodix.PostTls
