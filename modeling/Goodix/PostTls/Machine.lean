import Goodix.A0Protocol
import Goodix.FdtIrqPolicy
import Goodix.ImageDecoder
import Goodix.Usb.Backend

/-! # The post-TLS lifecycle

`goodix_post_tls_lifecycle.c`: the commands that bring the sensor up after the TLS
handshake, and the acquisition of one contact after another.  Its frames and plaintexts
come from the router and the TLS server, one at a time: the next one is not given to it
before it has returned from the last.  What it calls back may call it again.
-/

namespace Goodix.PostTls

open Octets A0Protocol FdtIrqPolicy ImageDecoder Usb

inductive Phase where
  | notStarted
  | d4
  | af
  | fdt36_1
  | fdtIrq100_1
  | fdtNav_1
  | fdt36_2
  | fdtIrq100_2
  | fdt_82
  | fdt_20
  | fdtB0
  | fdt36_3
  | fdtIrq100_3
  | firstArm
  | firstIrq2
  | first_22
  | firstB0
  | release_34
  | releaseIrq200
  | release_20
  | releaseB0
  | release_50
  | releaseNav
  | rearmGate
  | secondArm
  | secondIrq2
  | second_22
  | secondB0
  | stop
  | terminal
  deriving DecidableEq, Repr

inductive CaptureProfile where
  | twoAcquisition
  | singleAcquisition
  deriving DecidableEq, Repr

inductive FdtSeedMode where
  | provided
  | absentZero
  deriving DecidableEq, Repr

structure Material where
  initialFdtTable : Block 12
  afTimestamp : UInt16
  firstArmTimestamp : UInt16
  secondArmTimestamp : UInt16
  captureProfile : CaptureProfile
  fdtSeedMode : FdtSeedMode
  /-- Whether there is a function that gives fresh timestamps. -/
  nextTimestamp : Bool

/-- The callbacks of the lifecycle, with what they are told. -/
inductive Callback where
  | image (acquisition : Nat) (samples : List UInt16)
  | fingerDown
  | loginReady
  | releaseTail
  | fingerUp
  | firstArmHandoff
  | terminal (error : GError)
  deriving DecidableEq

/-- Which of the callbacks that may be absent are there. -/
structure Listeners where
  fingerDown : Bool
  releaseTail : Bool
  fingerUp : Bool
  terminal : Bool

structure Lifecycle where
  backend : Backend Owner
  generation : Nat
  material : Material
  phase : Phase
  listeners : Listeners
  loginGate : Bool
  loginAuthorized : Bool
  loginAttempts : Nat
  firstContactIrq80Count : Nat
  irq80RearmPending : Bool
  firstArmHandoff : Bool
  error : Option GError
  outPending : Bool
  backendCallbackOwned : Bool
  expectedAck : UInt8
  ackSeen : Bool
  frameworkAwait : Bool
  rearmSubmitted : Bool
  freshDownValid : Bool
  learnedFdtValid : Bool
  currentFdtTable : Block 12
  learnedFdtTable : Block 12
  firstUpTable : Block 12
  freshDownTable : Block 12
  /-- The samples recorded so far; `fdt_raw_count` is their number. -/
  fdtRaw : List (List UInt16)
  fdtThreshold : UInt8
  fdtThresholdValid : Bool
  fdtDeltaClassified : Bool
  baselineSamples : List UInt16
  baselineValid : Bool
  plaintextPending : List UInt8

/-- What the lifecycle takes in and what it does. -/
inductive Noted where
  /-- A frame, unless the phase ignores it. -/
  | a0 (frame : List UInt8)
  /-- A plaintext, unless the phase ignores it. -/
  | plaintext (octets : List UInt8)
  | submitted (control : UInt8) (packet : List UInt8)
  /-- The backend has an OUT back. -/
  | outCompleted (error : Option GError)
  | awaiting (awaiting : Bool)
  | authorized
  /-- `next_login` is granted. -/
  | nextLogin
  | learned (table : Block 12)
  | copied (table : Option (Block 12))
  | failed (error : GError)
  /-- The caller is told that his call failed. -/
  | refused (error : GError)
  | called (callback : Callback)
  | drained

/-- What a piece of code calls: the backend's drained callback, if it is due, or a callback of
the lifecycle, if it is there. -/
inductive Callout where
  | drained
  | back (callback : Callback)

/-- What a delivery has left to do when it waits for a callback. -/
inductive Rest where
  | nothing
  /-- After `finger_down`. -/
  | imageCommand (second : Bool)
  /-- After `image`; the callback's answer. -/
  | firstImage (accepted : Bool) (error : Option GError)
  | secondImage (accepted : Bool) (error : Option GError)
  /-- After `finger_up`. -/
  | rearm
  /-- After the handoff; the callback's answer. -/
  | handedOff (accepted : Bool) (error : Option GError)

structure Outcome where
  lifecycle : Lifecycle
  noted : List Noted := []
  callouts : List Callout := []
  rest : Rest := .nothing

/-- What the outside answers within one delivery: `next_timestamp`, and the callback that may
refuse. -/
structure Answer where
  timestamp : UInt16
  accepted : Bool
  error : Option GError

def Outcome.after (outcome : Outcome) (noted : List Noted) : Outcome :=
  { outcome with noted := noted ++ outcome.noted }

/-! ## Errors -/

def lifecycleError (code : Nat) (message : String) : GError :=
  ⟨"goodix-post-tls-lifecycle-error", code, message⟩

def errorArgument : Nat := 0
def errorState : Nat := 1
def errorProtocol : Nat := 2
def errorImage : Nat := 4

def ioError (code : Nat) (message : String) : GError := ⟨"g-io-error-quark", code, message⟩

/-- `G_IO_ERROR_CLOSED`, `G_IO_ERROR_CANCELLED` and `G_IO_ERROR_TIMED_OUT`. -/
def ioClosed : Nat := 18
def ioCancelled : Nat := 19
def ioTimedOut : Nat := 24

/-- `goodix_post_tls_phase_name` -/
def Phase.name : Phase → String
  | .notStarted => "NOT_STARTED"
  | .d4 => "D4"
  | .af => "AF"
  | .fdt36_1 => "FDT36_1"
  | .fdtIrq100_1 => "FDT_IRQ100_1"
  | .fdtNav_1 => "FDT_NAV_1"
  | .fdt36_2 => "FDT36_2"
  | .fdtIrq100_2 => "FDT_IRQ100_2"
  | .fdt_82 => "FDT_82"
  | .fdt_20 => "FDT_20"
  | .fdtB0 => "FDT_B0"
  | .fdt36_3 => "FDT36_3"
  | .fdtIrq100_3 => "FDT_IRQ100_3"
  | .firstArm => "FIRST_ARM"
  | .firstIrq2 => "FIRST_IRQ2"
  | .first_22 => "FIRST_22"
  | .firstB0 => "FIRST_B0"
  | .release_34 => "RELEASE_34"
  | .releaseIrq200 => "RELEASE_IRQ200"
  | .release_20 => "RELEASE_20"
  | .releaseB0 => "RELEASE_B0"
  | .release_50 => "RELEASE_50"
  | .releaseNav => "RELEASE_NAV"
  | .rearmGate => "REARM_GATE"
  | .secondArm => "SECOND_ARM"
  | .secondIrq2 => "SECOND_IRQ2"
  | .second_22 => "SECOND_22"
  | .secondB0 => "SECOND_B0"
  | .stop => "STOP"
  | .terminal => "TERMINAL"

/-- `expected_a0_event` -/
def expectedA0Event (phase : Phase) (ackSeen : Bool) : String :=
  match phase with
  | .af => "AE_CONTROLLER_STATE"
  | .fdtIrq100_1 | .fdtIrq100_2 | .fdtIrq100_3 => "BASELINE_IRQ0100"
  | .firstIrq2 | .secondIrq2 => "FINGER_DOWN_IRQ0002"
  | .releaseIrq200 => "FINGER_UP_IRQ0200"
  | .fdtNav_1 => if ackSeen then "NAV" else "ACK"
  | .fdt_82 => if ackSeen then "FDT_THRESHOLD" else "ACK"
  | .releaseNav => "NAV"
  | .d4 | .fdt36_1 | .fdt36_2 | .fdt36_3 | .fdt_20 | .firstArm | .first_22 | .release_34
  | .release_20 | .release_50 | .secondArm | .second_22 => "ACK"
  | .notStarted | .fdtB0 | .firstB0 | .releaseB0 | .rearmGate | .secondB0 | .stop
  | .terminal => "NO_A0"

/-- A number in hexadecimal with at least `width` digits. -/
def hex (width value : Nat) : String :=
  let digits := Nat.toDigits 16 value
  String.ofList (List.replicate (width - digits.length) '0' ++ digits)

/-! ## Frames -/

/-- A sixteen-octet interrupt. -/
structure Event where
  irq : UInt16
  flags : UInt16
  raw : Block 12

/-- `event_fields` -/
def eventFields (message : A0Message) : Option Event :=
  if length : message.body.length = 16 then
    some {
      irq := getU16Le [message.body.getD 0 0, message.body.getD 1 0]
      flags := getU16Le [message.body.getD 2 0, message.body.getD 3 0]
      raw := ⟨message.body.drop 4, by simp [length]⟩ }
  else none

/-- `parse_nav_no_check` -/
def parseNavNoCheck (frame : List UInt8) : Option A0Message :=
  let data (index : Nat) := frame.getD index 0
  if frame.length ≠ 2417 ∨ data 0 ≠ 0xa0 then none
  else if getU16Le [data 1, data 2] ≠ 2413 ∨ data 3 ≠ data 0 + data 1 + data 2 ∨
      data 4 ≠ 0x50 then none
  else if getU16Le [data 5, data 6] ≠ 2410 ∨ data 2416 ≠ 0x88 ∨ data 7 ≠ 0x50 ∨
      data 8 ≠ 0x01 then none
  else some { control := 0x50, body := (frame.drop 7).take 2409 }

/-- `fixed64_command` -/
def fixed64Command (control : UInt8) (body : List UInt8) : Except GError (List UInt8) :=
  match buildFrame control (control &&& 0xfe) body with
  | none => .error (a0Error 0 "A0 body is absent or too large")
  | some logical =>
    if logical.length > 64 then
      .error (lifecycleError errorProtocol "post-TLS command exceeds fixed64")
    else .ok (logical ++ List.replicate (64 - logical.length) 0)

/-- The six channels of a sample. -/
def channelWords (raw : Block 12) : List UInt16 := channels.map (word raw)

/-- Whether no channel of two samples differs by more than a threshold. -/
def withinThreshold (threshold : UInt8) (older newer : List UInt16) : Bool :=
  (older.zip newer).all fun (a, b) =>
    let difference := if a ≥ b then a.toNat - b.toNat else b.toNat - a.toNat
    difference ≤ threshold.toNat

namespace Lifecycle

/-- `goodix_post_tls_lifecycle_new` -/
def new (backend : Backend Owner) (generation : Nat) (material : Material)
    (listeners : Listeners) : Except GError Lifecycle :=
  if generation = 0 then
    .error (lifecycleError errorArgument "post-TLS lifecycle material or owner is absent")
  else if material.fdtSeedMode = .absentZero ∧ material.initialFdtTable.val.any (· ≠ 0) then
    .error (lifecycleError errorArgument "absent FDT seed must have an explicit zero table")
  else
    .ok {
      backend
      generation
      material
      phase := .notStarted
      listeners
      loginGate := false
      loginAuthorized := false
      loginAttempts := 0
      firstContactIrq80Count := 0
      irq80RearmPending := false
      firstArmHandoff := false
      error := none
      outPending := false
      backendCallbackOwned := false
      expectedAck := 0
      ackSeen := false
      frameworkAwait := false
      rearmSubmitted := false
      freshDownValid := false
      learnedFdtValid := false
      currentFdtTable :=
        if material.fdtSeedMode = .provided then material.initialFdtTable else Block.zero 12
      learnedFdtTable := Block.zero 12
      firstUpTable := Block.zero 12
      freshDownTable := Block.zero 12
      fdtRaw := []
      fdtThreshold := 0
      fdtThresholdValid := false
      fdtDeltaClassified := false
      baselineSamples := List.replicate canonicalImageSampleCount 0
      baselineValid := false
      plaintextPending := [] }

/-! ## Failing and sending -/

/-- `lifecycle_fail`; the backend is cancelled before the owner is told. -/
def fail (lifecycle : Lifecycle) (error : Option GError) : Outcome :=
  if lifecycle.phase = .terminal then { lifecycle }
  else
    let error := error.getD (lifecycleError errorState "post-TLS lifecycle failed")
    let fenced := lifecycle.backend.terminalFence
    { lifecycle := { lifecycle with
        phase := .terminal
        freshDownValid := false
        learnedFdtValid := false
        learnedFdtTable := Block.zero 12
        plaintextPending := []
        error := some error
        backend := if fenced then lifecycle.backend else lifecycle.backend.fence }
      noted := [.failed error]
      callouts := if fenced then [.back (.terminal error)] else [.drained, .back (.terminal error)] }

/-- `submit_command`.  When the backend refuses, the phase is the next one all the same. -/
def submitCommand (lifecycle : Lifecycle) (control : UInt8) (body : List UInt8)
    (nextPhase : Phase) : Lifecycle × Except GError (List UInt8) :=
  if lifecycle.outPending ∨ lifecycle.phase = .terminal ∨ lifecycle.phase = .stop then
    (lifecycle, .error (lifecycleError errorState "post-TLS OUT is duplicated or terminal"))
  else
    match fixed64Command control body with
    | .error error => (lifecycle, .error error)
    | .ok bytes =>
      let claimed := { lifecycle with
        phase := nextPhase
        expectedAck := control
        ackSeen := false }
      match lifecycle.backend.submitOut lifecycle.generation with
      | .error error => ({ claimed with outPending := false }, .error error)
      | .ok backend => ({ claimed with outPending := true, backend }, .ok bytes)

/-- `submit_or_fail` around `submit_command`. -/
def submitOrFail (lifecycle : Lifecycle) (control : UInt8) (body : List UInt8)
    (nextPhase : Phase) : Outcome :=
  match lifecycle.submitCommand control body nextPhase with
  | (lifecycle, .ok bytes) => { lifecycle, noted := [.submitted control bytes] }
  | (lifecycle, .error error) => lifecycle.fail (some error)

/-- A submission whose failure is the caller's to handle. -/
def submitOrRefuse (lifecycle : Lifecycle) (control : UInt8) (body : List UInt8)
    (nextPhase : Phase) : Outcome :=
  match lifecycle.submitCommand control body nextPhase with
  | (lifecycle, .ok bytes) => { lifecycle, noted := [.submitted control bytes] }
  | (lifecycle, .error error) => { lifecycle, noted := [.refused error] }

def simpleBody : List UInt8 := [0x01, 0x00]

/-- The body of `submit_fdt36`. -/
def fdt36Body (lifecycle : Lifecycle) : List UInt8 :=
  [0x09, 0x01] ++ lifecycle.currentFdtTable.val

/-- The body of `submit_arm`. -/
def armBody (lifecycle : Lifecycle) (second : Bool) : List UInt8 :=
  let timestamp :=
    if second then lifecycle.material.secondArmTimestamp
    else lifecycle.material.firstArmTimestamp
  let table := if second then lifecycle.freshDownTable else lifecycle.currentFdtTable
  [0x08, 0x01] ++ table.val ++ putU16Le timestamp

def armPhase (second : Bool) : Phase := if second then .secondArm else .firstArm

def imagePhase (second : Bool) : Phase := if second then .second_22 else .first_22

/-- `submit_fdt36` -/
def submitFdt36 (lifecycle : Lifecycle) (nextPhase : Phase) : Outcome :=
  lifecycle.submitOrFail 0x36 lifecycle.fdt36Body nextPhase

/-- `submit_arm` -/
def submitArm (lifecycle : Lifecycle) (second : Bool) : Outcome :=
  lifecycle.submitOrFail 0x32 (lifecycle.armBody second) (armPhase second)

/-- `submit_simple` -/
def submitSimple (lifecycle : Lifecycle) (control : UInt8) (nextPhase : Phase) : Outcome :=
  lifecycle.submitOrFail control simpleBody nextPhase

/-- `maybe_submit_rearm` -/
def maybeSubmitRearm (lifecycle : Lifecycle) : Outcome :=
  if lifecycle.phase ≠ .rearmGate ∨ lifecycle.frameworkAwait = false ∨
      lifecycle.freshDownValid = false ∨ lifecycle.rearmSubmitted then { lifecycle }
  else { lifecycle with rearmSubmitted := true }.submitArm true

/-! ## Samples -/

/-- `record_fdt_raw` -/
def recordFdtRaw (lifecycle : Lifecycle) (raw : Block 12) : Option Lifecycle :=
  if lifecycle.fdtRaw.length ≥ 3 then none
  else some { lifecycle with fdtRaw := lifecycle.fdtRaw ++ [channelWords raw] }

/-- `classify_fdt_delta` -/
def classifyFdtDelta (lifecycle : Lifecycle) (older newer : Nat) : Lifecycle × Bool :=
  if lifecycle.fdtThresholdValid = false ∨ newer ≥ lifecycle.fdtRaw.length ∨ older ≥ newer then
    (lifecycle, false)
  else
    ({ lifecycle with fdtDeltaClassified := true },
      withinThreshold lifecycle.fdtThreshold (lifecycle.fdtRaw.getD older [])
        (lifecycle.fdtRaw.getD newer []))

/-! ## Frames -/

/-- The error of a frame that is not expected. -/
def rejection (lifecycle : Lifecycle) (phaseAtEntry : Phase) (message : A0Message) : GError :=
  let irqMetadata :=
    match eventFields message with
    | some event =>
      if message.control = 0x32 ∨ message.control = 0x34 ∨ message.control = 0x36 then
        "irq=0x" ++ hex 4 event.irq.toNat ++ " flags=0x" ++ hex 4 event.flags.toNat
      else "irq=unclassified flags=unclassified"
    | none => "irq=unclassified flags=unclassified"
  lifecycleError errorProtocol
    ("unexpected post-TLS A0 frame or state: phase=" ++ phaseAtEntry.name ++
      " expected=" ++ expectedA0Event phaseAtEntry lifecycle.ackSeen ++
      " control=0x" ++ hex 2 message.control.toNat ++
      " body_length=" ++ toString message.body.length ++ " " ++ irqMetadata ++
      " ack_expected=0x" ++ hex 2 lifecycle.expectedAck.toNat ++
      " ack_seen=" ++ toString lifecycle.ackSeen.toNat ++
      " fdt_samples=" ++ toString lifecycle.fdtRaw.length ++
      " baseline_ready=" ++ toString lifecycle.baselineValid.toNat ++ " decision=reject")

/-- The label `unexpected` of `goodix_post_tls_lifecycle_handle_a0`. -/
def unexpected (lifecycle : Lifecycle) (phaseAtEntry : Phase) (message : A0Message) : Outcome :=
  lifecycle.fail (some (lifecycle.rejection phaseAtEntry message))

/-- `accept_ack` and what every phase that waits for an ACK does without one. -/
def onAck (lifecycle : Lifecycle) (message : A0Message) (accept : Lifecycle → Outcome) :
    Outcome :=
  if message.control ≠ 0xb0 then lifecycle.unexpected lifecycle.phase message
  else if lifecycle.ackSeen ∨ message.body ≠ [lifecycle.expectedAck, 0x01] then
    lifecycle.fail (some (lifecycleError errorProtocol "post-TLS ACK contract mismatch"))
  else accept { lifecycle with ackSeen := true }

/-- The message of a frame, `parse_message` or `parse_nav_no_check` as the phase demands. -/
def message (lifecycle : Lifecycle) (frame : List UInt8) :
    Except (Option GError) A0Message :=
  if (lifecycle.phase = .fdtNav_1 ∧ lifecycle.ackSeen) ∨ lifecycle.phase = .releaseNav then
    match parseNavNoCheck frame with
    | none =>
      .error (some (lifecycleError errorProtocol "OEM NAV no-check response mismatch"))
    | some message => .ok message
  else if frame.length < 5 then .error none
  else (parseReceived frame).mapError some

/-- The three phases that wait for IRQ0100. -/
def acceptBaseline (lifecycle : Lifecycle) (message : A0Message)
    (accept : Lifecycle → Outcome) : Outcome :=
  let firstSample : Bool := lifecycle.phase = .fdtIrq100_1
  let context := if firstSample then .baselineFirstSample else .baselineSample
  match eventFields message with
  | none => lifecycle.unexpected lifecycle.phase message
  | some event =>
    if message.control ≠ 0x36 ∨ event.irq ≠ 0x0100 ∨
        irqFlagsValid context event.flags = false then
      lifecycle.unexpected lifecycle.phase message
    else
      match lifecycle.recordFdtRaw event.raw with
      | none => lifecycle.unexpected lifecycle.phase message
      | some recorded =>
        let derived :=
          if firstSample then
            deriveFirstBaselineTable event.raw event.flags recorded.currentFdtTable
          else deriveBaselineTable event.raw event.flags recorded.currentFdtTable
        let recorded := { recorded with currentFdtTable := derived.2 }
        if derived.1 then accept recorded
        else recorded.unexpected lifecycle.phase message

/-- What follows the third sample. -/
def learn (lifecycle : Lifecycle) (message : A0Message) : Outcome :=
  if lifecycle.fdtDeltaClassified = false then lifecycle.unexpected lifecycle.phase message
  else
    let (classified, within) := lifecycle.classifyFdtDelta 1 2
    if within then
      ({ classified with
        learnedFdtTable := classified.currentFdtTable
        learnedFdtValid := true }.submitArm false).after
          [.learned classified.currentFdtTable]
    else classified.unexpected classified.phase message

/-- The answer to 0x82. -/
def acceptThreshold (lifecycle : Lifecycle) (message : A0Message) : Outcome :=
  if message.control ≠ 0x82 ∨ message.body.length ≠ 2 then
    lifecycle.unexpected lifecycle.phase message
  else
    let (classified, within) := { lifecycle with
      fdtThreshold := message.body.getD 1 0
      fdtThresholdValid := true }.classifyFdtDelta 0 1
    if within then classified.submitSimple 0x20 .fdt_20
    else classified.unexpected classified.phase message

/-- The ACK of the first arming command. -/
def acceptFirstArm (lifecycle : Lifecycle) (message : A0Message) (answer : Answer) : Outcome :=
  if lifecycle.irq80RearmPending ∧
      (lifecycle.outPending ∨ lifecycle.backend.outOutstanding ≠ 0) then
    lifecycle.unexpected lifecycle.phase message
  else
    lifecycle.onAck message fun lifecycle =>
      if lifecycle.irq80RearmPending then
        { lifecycle := { lifecycle with irq80RearmPending := false, phase := .firstIrq2 } }
      else if lifecycle.firstArmHandoff then
        if lifecycle.outPending ∨ lifecycle.backend.outOutstanding ≠ 0 ∨
            lifecycle.backendCallbackOwned = false then
          lifecycle.unexpected lifecycle.phase message
        else
          { lifecycle := { lifecycle with
              backend := { lifecycle.backend with outCompletedCallback := none }
              backendCallbackOwned := false
              phase := .stop }
            callouts := [.back .firstArmHandoff]
            rest := .handedOff answer.accepted answer.error }
      else
        { lifecycle := { lifecycle with phase := .firstIrq2 }
          callouts :=
            if lifecycle.loginGate ∧ lifecycle.loginAuthorized = false then
              [.back .loginReady]
            else [] }

/-- IRQ0080 before the first contact: the sensor is armed again. -/
def acceptIrq80 (lifecycle : Lifecycle) (message : A0Message) (event : Event)
    (answer : Answer) : Outcome :=
  if lifecycle.firstContactIrq80Count ≥ 2 then
    lifecycle.fail (some (lifecycleError errorProtocol
      "Goodix first-contact IRQ0080 limit exceeded"))
  else
    let down := deriveBaselineTable event.raw 0 (Block.zero 12)
    if lifecycle.outPending ∨ down.1 = false ∨ lifecycle.material.nextTimestamp = false then
      lifecycle.unexpected lifecycle.phase message
    else
      { lifecycle with
        currentFdtTable := down.2
        material := { lifecycle.material with firstArmTimestamp := answer.timestamp }
        firstContactIrq80Count := lifecycle.firstContactIrq80Count + 1
        irq80RearmPending := true }.submitArm false

/-- IRQ0002: a finger. -/
def acceptFinger (lifecycle : Lifecycle) (message : A0Message) (event : Event) : Outcome :=
  if message.control ≠ 0x32 ∨ event.irq ≠ 0x0002 ∨
      irqFlagsValid .fingerDown event.flags = false then
    lifecycle.unexpected lifecycle.phase message
  else if lifecycle.phase = .firstIrq2 then
    let up := deriveUpTable event.raw event.flags 0x1d lifecycle.firstUpTable
    let touched := { lifecycle with firstUpTable := up.2 }
    if up.1 = false then touched.unexpected lifecycle.phase message
    else
      { lifecycle := { touched with firstContactIrq80Count := 0 }
        callouts := [.back .fingerDown]
        rest := .imageCommand false }
  else { lifecycle, callouts := [.back .fingerDown], rest := .imageCommand true }

/-- The two phases that wait for a contact. -/
def acceptContact (lifecycle : Lifecycle) (message : A0Message) (answer : Answer) : Outcome :=
  if lifecycle.loginGate ∧ lifecycle.loginAuthorized = false then
    lifecycle.fail (some (ioError ioCancelled
      "Goodix login: contact before Verify; password required"))
  else
    match eventFields message with
    | none => lifecycle.unexpected lifecycle.phase message
    | some event =>
      if lifecycle.phase = .firstIrq2 ∧ message.control = 0x32 ∧ event.irq = 0x0080 ∧
          event.flags &&& ~~~touchMask = 0 then
        lifecycle.acceptIrq80 message event answer
      else lifecycle.acceptFinger message event

/-- IRQ0200: the finger is gone. -/
def acceptRelease (lifecycle : Lifecycle) (message : A0Message) : Outcome :=
  match eventFields message with
  | none => lifecycle.unexpected lifecycle.phase message
  | some event =>
    if message.control ≠ 0x34 ∨ event.irq ≠ 0x0200 then
      lifecycle.unexpected lifecycle.phase message
    else
      let down := deriveDownTable event.raw event.flags lifecycle.freshDownTable
      let released := { lifecycle with freshDownTable := down.2 }
      if down.1 = false then released.unexpected lifecycle.phase message
      else { released with freshDownValid := true }.submitSimple 0x20 .release_20

/-- The end of the release: the contact is over. -/
def acceptReleaseNav (lifecycle : Lifecycle) (message : A0Message) : Outcome :=
  if message.control ≠ 0x50 ∨ message.body.length ≠ 2409 then
    lifecycle.unexpected lifecycle.phase message
  else
    { lifecycle := { lifecycle with
        phase :=
          if lifecycle.material.captureProfile = .singleAcquisition then .stop
          else .rearmGate }
      callouts := [.back .releaseTail, .back .fingerUp]
      rest := .rearm }

/-- The body of 0xaf. -/
def afBody (lifecycle : Lifecycle) : List UInt8 :=
  [0x55] ++ putU16Le lifecycle.material.afTimestamp ++ [0x00, 0x00]

def body82 : List UInt8 := [0x00, 0x82, 0x00, 0x02, 0x00]

/-- The phase after an ACK that only moves the phase on. -/
def onAckTo (lifecycle : Lifecycle) (message : A0Message) (next : Phase) : Outcome :=
  lifecycle.onAck message fun lifecycle => { lifecycle := { lifecycle with phase := next } }

/-- The switch of `goodix_post_tls_lifecycle_handle_a0`. -/
def accept (lifecycle : Lifecycle) (message : A0Message) (answer : Answer) : Outcome :=
  match lifecycle.phase with
  | .d4 =>
    lifecycle.onAck message fun lifecycle => lifecycle.submitOrFail 0xaf lifecycle.afBody .af
  | .af =>
    let state := message.body.getD 1 0
    if message.control ≠ 0xae ∨ message.body.length ≠ 16 ∨ state &&& 0x01 ≠ 0 ∨
        state &&& 0x02 = 0 then
      lifecycle.unexpected lifecycle.phase message
    else lifecycle.submitFdt36 .fdt36_1
  | .fdt36_1 => lifecycle.onAckTo message .fdtIrq100_1
  | .fdt36_2 => lifecycle.onAckTo message .fdtIrq100_2
  | .fdt36_3 => lifecycle.onAckTo message .fdtIrq100_3
  | .fdtIrq100_1 =>
    lifecycle.acceptBaseline message fun lifecycle => lifecycle.submitSimple 0x50 .fdtNav_1
  | .fdtIrq100_2 =>
    lifecycle.acceptBaseline message fun lifecycle => lifecycle.submitOrFail 0x82 body82 .fdt_82
  | .fdtIrq100_3 => lifecycle.acceptBaseline message fun lifecycle => lifecycle.learn message
  | .fdtNav_1 =>
    if lifecycle.ackSeen = false then lifecycle.onAckTo message .fdtNav_1
    else if message.control ≠ 0x50 ∨ message.body.length ≠ 2409 then
      lifecycle.unexpected lifecycle.phase message
    else lifecycle.submitFdt36 .fdt36_2
  | .fdt_82 =>
    if lifecycle.ackSeen = false then lifecycle.onAckTo message .fdt_82
    else lifecycle.acceptThreshold message
  | .fdt_20 => lifecycle.onAckTo message .fdtB0
  | .firstArm => lifecycle.acceptFirstArm message answer
  | .firstIrq2 | .secondIrq2 => lifecycle.acceptContact message answer
  | .first_22 => lifecycle.onAckTo message .firstB0
  | .release_34 => lifecycle.onAckTo message .releaseIrq200
  | .releaseIrq200 => lifecycle.acceptRelease message
  | .release_20 => lifecycle.onAckTo message .releaseB0
  | .release_50 => lifecycle.onAckTo message .releaseNav
  | .releaseNav => lifecycle.acceptReleaseNav message
  | .secondArm => lifecycle.onAckTo message .secondIrq2
  | .second_22 => lifecycle.onAckTo message .secondB0
  | .notStarted | .fdtB0 | .firstB0 | .releaseB0 | .rearmGate | .secondB0 | .stop
  | .terminal => lifecycle.unexpected lifecycle.phase message

/-- `goodix_post_tls_lifecycle_handle_a0` -/
def handleA0 (lifecycle : Lifecycle) (frame : List UInt8) (answer : Answer) : Outcome :=
  if lifecycle.phase = .terminal ∨ lifecycle.phase = .stop then { lifecycle }
  else
    match lifecycle.message frame with
    | .error error => (lifecycle.fail error).after [.a0 frame]
    | .ok message => (lifecycle.accept message answer).after [.a0 frame]

/-! ## Plaintexts -/

/-- What follows a decoded image. -/
def acceptImage (lifecycle : Lifecycle) (samples : List UInt16) (answer : Answer) : Outcome :=
  match lifecycle.phase with
  | .fdtB0 =>
    { lifecycle with
      baselineSamples := samples
      baselineValid := true
      phase := .fdt36_3 }.submitFdt36 .fdt36_3
  | .firstB0 =>
    { lifecycle
      callouts := [.back (.image (if lifecycle.loginGate then lifecycle.loginAttempts else 1)
        samples)]
      rest := .firstImage answer.accepted answer.error }
  | _ =>
    { lifecycle
      callouts := [.back (.image 2 samples)]
      rest := .secondImage answer.accepted answer.error }

/-- The reassembly of an image. -/
def acceptChunk (lifecycle : Lifecycle) (octets : List UInt8) (answer : Answer) : Outcome :=
  if octets.length > imagePlaintextLength ∨
      lifecycle.plaintextPending.length > imagePlaintextLength - octets.length then
    lifecycle.fail (some (lifecycleError errorImage "image plaintext reassembly overflow"))
  else
    let pending := lifecycle.plaintextPending ++ octets
    let grown := { lifecycle with plaintextPending := pending }
    let expectedLength := (getU16Le [pending.getD 1 0, pending.getD 2 0]).toNat + 3
    if pending.length < 3 then { lifecycle := grown }
    else if expectedLength ≠ imagePlaintextLength ∨ pending.length > expectedLength then
      grown.fail (some (lifecycleError errorImage "image plaintext reassembly shape mismatch"))
    else if pending.length < expectedLength then { lifecycle := grown }
    else
      let cleared := { lifecycle with plaintextPending := [] }
      match decodePlaintext pending with
      | .error error => cleared.fail (some error)
      | .ok samples => cleared.acceptImage samples answer

/-- `goodix_post_tls_lifecycle_handle_plaintext` -/
def handlePlaintext (lifecycle : Lifecycle) (octets : List UInt8) (answer : Answer) : Outcome :=
  if lifecycle.phase = .terminal ∨ lifecycle.phase = .stop then { lifecycle }
  else if lifecycle.phase = .releaseB0 then
    (lifecycle.submitSimple 0x50 .release_50).after [.plaintext octets]
  else if lifecycle.phase ≠ .fdtB0 ∧ lifecycle.phase ≠ .firstB0 ∧
      lifecycle.phase ≠ .secondB0 then
    (lifecycle.fail (some (lifecycleError errorProtocol
      "TLS plaintext arrived outside a B0 slot"))).after [.plaintext octets]
  else (lifecycle.acceptChunk octets answer).after [.plaintext octets]

/-- What a delivery does after the callback it waited for. -/
def finish (lifecycle : Lifecycle) : Rest → Outcome
  | .nothing => { lifecycle }
  | .imageCommand second => lifecycle.submitSimple 0x22 (imagePhase second)
  | .firstImage accepted error =>
    if accepted then
      lifecycle.submitOrFail 0x34 ([0x0a, 0x01] ++ lifecycle.firstUpTable.val) .release_34
    else lifecycle.fail error
  | .secondImage accepted error =>
    if accepted then { lifecycle := { lifecycle with phase := .stop } }
    else lifecycle.fail error
  | .rearm => lifecycle.maybeSubmitRearm
  | .handedOff accepted error => if accepted then { lifecycle } else lifecycle.fail error

/-! ## Calls -/

/-- `goodix_post_tls_lifecycle_set_first_arm_handoff` -/
def setFirstArmHandoff (lifecycle : Lifecycle) : Outcome :=
  if lifecycle.phase ≠ .notStarted ∨ lifecycle.firstArmHandoff then
    { lifecycle
      noted := [.refused (lifecycleError errorState
        "first-arm handoff must be configured once before start")] }
  else { lifecycle := { lifecycle with firstArmHandoff := true } }

/-- `goodix_post_tls_lifecycle_prepare_login`, which warns and returns after the start. -/
def prepareLogin (lifecycle : Lifecycle) : Outcome :=
  if lifecycle.phase ≠ .notStarted then { lifecycle }
  else { lifecycle := { lifecycle with loginGate := true } }

/-- `goodix_post_tls_lifecycle_start` -/
def start (lifecycle : Lifecycle) : Outcome :=
  if lifecycle.phase ≠ .notStarted then
    { lifecycle
      noted := [.refused (lifecycleError errorState "post-TLS lifecycle cannot start twice")] }
  else
    { lifecycle with
      backend := { lifecycle.backend with outCompletedCallback := some .postTlsLifecycle }
      backendCallbackOwned := true }.submitOrRefuse 0xd4 [0x00, 0x00] .d4

/-- `backend_out_complete` -/
def outComplete (lifecycle : Lifecycle) (generation : Nat) (error : Option GError) : Outcome :=
  if generation ≠ lifecycle.generation ∨ lifecycle.outPending = false ∨
      lifecycle.phase = .terminal then { lifecycle }
  else
    match error with
    | none => { lifecycle := { lifecycle with outPending := false } }
    | some error => { lifecycle with outPending := false }.fail (some error)

/-- `goodix_fpi_usb_backend_complete_out`: the OUT callback, when it is the lifecycle's. -/
def completeOut (lifecycle : Lifecycle) (generation : Nat) (error : Option GError) : Outcome :=
  match lifecycle.backend.takeOut generation with
  | none => { lifecycle }
  | some backend =>
    let taken := { lifecycle with backend }
    let completed : Outcome :=
      if backend.outCompletedCallback = some .postTlsLifecycle then
        taken.outComplete generation error
      else { lifecycle := taken }
    { completed with
      noted := .outCompleted error :: completed.noted
      callouts := completed.callouts ++ [.drained] }

/-- `goodix_post_tls_lifecycle_set_framework_await_finger_on` -/
def setFrameworkAwaitFingerOn (lifecycle : Lifecycle) (generation : Nat) (awaiting : Bool) :
    Outcome :=
  if generation ≠ lifecycle.generation ∨ lifecycle.phase = .terminal ∨
      lifecycle.phase = .stop then { lifecycle }
  else
    ({ lifecycle with frameworkAwait := awaiting }.maybeSubmitRearm).after [.awaiting awaiting]

/-- `goodix_post_tls_lifecycle_cancel` -/
def cancel (lifecycle : Lifecycle) (reason : Option String) : Outcome :=
  lifecycle.fail (some (lifecycleError errorState
    (reason.getD "post-TLS lifecycle cancelled")))

/-- The phases of the FDT initialization, from D4 on. -/
def initializing : Phase → Bool
  | .d4 | .af | .fdt36_1 | .fdtIrq100_1 | .fdtNav_1 | .fdt36_2 | .fdtIrq100_2 | .fdt_82
  | .fdt_20 | .fdtB0 | .fdt36_3 | .fdtIrq100_3 => true
  | _ => false

/-- `goodix_post_tls_lifecycle_timeout` -/
def timeout (lifecycle : Lifecycle) : Outcome :=
  if initializing lifecycle.phase = false ∨ lifecycle.learnedFdtValid then { lifecycle }
  else
    lifecycle.fail (some (ioError ioTimedOut
      "post-TLS FDT initialization deadline expired"))

/-- `goodix_post_tls_lifecycle_authorize_login` -/
def authorizeLogin (lifecycle : Lifecycle) : Outcome :=
  if lifecycle.loginGate = false ∨ lifecycle.loginAuthorized ∨
      lifecycle.phase ≠ .firstIrq2 then { lifecycle }
  else
    { lifecycle := { lifecycle with loginAuthorized := true, loginAttempts := 1 }
      noted := [.authorized] }

/-- `goodix_post_tls_lifecycle_next_login` -/
def nextLogin (lifecycle : Lifecycle) (timestamp : UInt16) : Outcome :=
  if lifecycle.loginGate = false ∨ lifecycle.loginAuthorized = false ∨
      lifecycle.loginAttempts ≥ 3 ∨ lifecycle.phase ≠ .stop ∨
      lifecycle.freshDownValid = false ∨
      lifecycle.material.captureProfile ≠ .singleAcquisition ∨
      lifecycle.backend.isDrained = false then
    { lifecycle
      noted := [.refused (ioError ioClosed
        "Prepared login requires a completed release and remaining attempt")] }
  else
    let next := { lifecycle with
      loginAttempts := lifecycle.loginAttempts + 1
      firstContactIrq80Count := 0
      currentFdtTable := lifecycle.freshDownTable
      freshDownValid := false
      material := { lifecycle.material with firstArmTimestamp := timestamp }
      phase := .rearmGate }
    (next.submitOrRefuse 0x32 (next.armBody false) .firstArm).after [.nextLogin]

/-- `goodix_post_tls_lifecycle_copy_baseline` -/
def copyBaseline (lifecycle : Lifecycle) : Option (List UInt16) :=
  if lifecycle.baselineValid then some lifecycle.baselineSamples else none

/-- `goodix_post_tls_lifecycle_copy_learned_fdt` -/
def copyLearnedFdt (lifecycle : Lifecycle) : Option (Block 12) :=
  if lifecycle.learnedFdtValid = false ∨ lifecycle.fdtRaw.length ≠ 3 then none
  else some lifecycle.learnedFdtTable

/-- Whether a callback is there. -/
def listens (lifecycle : Lifecycle) : Callback → Bool
  | .fingerDown => lifecycle.listeners.fingerDown
  | .releaseTail => lifecycle.listeners.releaseTail
  | .fingerUp => lifecycle.listeners.fingerUp
  | .terminal _ => lifecycle.listeners.terminal
  | .image _ _ | .loginReady | .firstArmHandoff => true

end Lifecycle

/-! ## The lifecycle and its surroundings -/

/-- The lifecycle, and the delivery that waits for a callback. -/
structure Desk where
  lifecycle : Lifecycle
  delivery : Option Rest

/-- The calls of the device context and of the router, and what the backend does meanwhile. -/
inductive Call where
  | setFirstArmHandoff
  | prepareLogin
  | start
  | handleA0 (frame : List UInt8) (answer : Answer)
  | handlePlaintext (octets : List UInt8) (answer : Answer)
  | setFrameworkAwaitFingerOn (generation : Nat) (awaiting : Bool)
  | cancel (reason : Option String)
  | timeout
  | authorizeLogin
  | nextLogin (timestamp : UInt16)
  | copyLearnedFdt
  | completeOut (generation : Nat) (error : Option GError)
  /-- Somebody else cancels the backend. -/
  | fence
  | armReceive
  | completeReceive (generation : Nat)

inductive Work where
  | callouts (callouts : List Callout)
  | resume

namespace Desk

/-- The callbacks of a list, up to the first that is made. -/
def callOut (desk : Desk) : List Callout → Desk × List Noted × Option (List Work)
  | [] => (desk, [], none)
  | .drained :: callouts =>
    if desk.lifecycle.backend.mustNotifyDrained then
      ({ desk with lifecycle.backend.drainNotified := true }, [.drained],
        some [.callouts callouts])
    else desk.callOut callouts
  | .back callback :: callouts =>
    if desk.lifecycle.listens callback then
      (desk, [.called callback], some [.callouts callouts])
    else desk.callOut callouts

/-- A call that is no delivery. -/
def perform (desk : Desk) (outcome : Outcome) : Desk × List Noted × List Work :=
  ({ desk with lifecycle := outcome.lifecycle }, outcome.noted, [.callouts outcome.callouts])

/-- A delivery; while another one waits for a callback there is none. -/
def deliver (desk : Desk) (outcome : Outcome) : Desk × List Noted × List Work :=
  if desk.delivery.isSome then (desk, [], [])
  else
    ({ lifecycle := outcome.lifecycle, delivery := some outcome.rest }, outcome.noted,
      [.callouts outcome.callouts, .resume])

def call (desk : Desk) : Call → Desk × List Noted × List Work
  | .setFirstArmHandoff => desk.perform desk.lifecycle.setFirstArmHandoff
  | .prepareLogin => desk.perform desk.lifecycle.prepareLogin
  | .start => desk.perform desk.lifecycle.start
  | .handleA0 frame answer => desk.deliver (desk.lifecycle.handleA0 frame answer)
  | .handlePlaintext octets answer => desk.deliver (desk.lifecycle.handlePlaintext octets answer)
  | .setFrameworkAwaitFingerOn generation awaiting =>
    desk.perform (desk.lifecycle.setFrameworkAwaitFingerOn generation awaiting)
  | .cancel reason => desk.perform (desk.lifecycle.cancel reason)
  | .timeout => desk.perform desk.lifecycle.timeout
  | .authorizeLogin => desk.perform desk.lifecycle.authorizeLogin
  | .nextLogin timestamp => desk.perform (desk.lifecycle.nextLogin timestamp)
  | .copyLearnedFdt => (desk, [.copied desk.lifecycle.copyLearnedFdt], [])
  | .completeOut generation error => desk.perform (desk.lifecycle.completeOut generation error)
  | .fence =>
    let backend := desk.lifecycle.backend
    if backend.terminalFence then (desk, [], [])
    else ({ desk with lifecycle.backend := backend.fence }, [], [.callouts [.drained]])
  | .armReceive =>
    let backend := desk.lifecycle.backend
    if backend.refusesReceive backend.generation then (desk, [], [])
    else
      ({ desk with
        lifecycle.backend := backend.submitReceive backend.generation .protocolRx 0 }, [], [])
  | .completeReceive generation =>
    match desk.lifecycle.backend.takeReceive generation with
    | none => (desk, [], [])
    | some (backend, _) =>
      ({ desk with lifecycle.backend := backend }, [], [.callouts [.drained]])

def turn (desk : Desk) : Work → Desk × List Noted × Option (List Work)
  | .callouts callouts => desk.callOut callouts
  | .resume =>
    match desk.delivery with
    | none => (desk, [], none)
    | some rest =>
      let outcome := desk.lifecycle.finish rest
      let finished := Desk.callOut ⟨outcome.lifecycle, none⟩ outcome.callouts
      (finished.1, outcome.noted ++ finished.2.1, finished.2.2)

/-- The lifecycle as the rest of the driver meets it. -/
def program : Callbacks.Program Desk Call Work Noted := ⟨call, turn⟩

end Desk

/-! ## A lifecycle to run -/

/-- A backend that is handed over. -/
def handedOver : Backend Owner := { Backend.new with generation := 1 }

def plainMaterial : Material where
  initialFdtTable := Block.zero 12
  afTimestamp := 0x1234
  firstArmTimestamp := 1
  secondArmTimestamp := 2
  captureProfile := .singleAcquisition
  fdtSeedMode := .absentZero
  nextTimestamp := false

def d4Ack : List UInt8 := [0xa0, 0x06, 0x00, 0xa6, 0xb0, 0x03, 0x00, 0xd4, 0x01, 0x22]

end Goodix.PostTls
