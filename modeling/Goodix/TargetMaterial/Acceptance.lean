import Goodix.TargetMaterial.Load
import Goodix.SecureSession.Runs

/-! # What the secure session accepts of the loaded material

The loader and the session check one material with code of their own.  Here is what follows
from a load and a bind that succeed, and what the session asks for beyond it.
-/

namespace Goodix.TargetMaterial

open Octets SecureSession ActionBinding

/-! ## Reading -/

theorem readLoop_enough {available expectedLength offset : Nat} {reads : List ReadResult}
    (within : offset ≤ available) (enough : readLoop available expectedLength reads offset = true) :
    expectedLength ≤ available := by
  induction reads generalizing offset with
  | nil =>
    have read : expectedLength ≤ offset := by simpa [readLoop] using enough
    omega
  | cons result rest ih =>
    unfold readLoop at enough
    by_cases done : expectedLength ≤ offset
    · omega
    · rw [if_neg done] at enough
      cases result with
      | interrupted => exact ih within enough
      | failed => cases enough
      | count octets =>
        simp only at enough
        split at enough
        · cases enough
        · exact ih (by omega) enough

/-- A file that was read has a buffer of the expected length. -/
theorem readExactProtected_ok {policy : Policy} {expectedLength : Nat}
    {opened : Except String ProtectedFile} {octets : List UInt8}
    (read : readExactProtected policy expectedLength opened = .ok octets) :
    ∃ file, opened = .ok file ∧ octets = file.buffer expectedLength ∧
      octets.length = file.length expectedLength := by
  cases opened with
  | error reason => cases read
  | ok file =>
    unfold readExactProtected at read
    dsimp only at read
    split at read
    · cases read
    split at read
    · cases read
    split at read
    · cases read
    rename_i enough
    split at read
    · cases read
    split at read
    · cases read
    cases read
    have available := readLoop_enough (Nat.zero_le _) (by simpa using enough)
    exact ⟨file, rfl, rfl, by simp [ProtectedFile.buffer, available]⟩

/-! ## Two ways to check a configuration -/

theorem lor_shift (low high : Nat) (small : low < 256) :
    low ||| high <<< 8 = low + 256 * high := by
  have bounded : low < 2 ^ 8 := by simpa using small
  have disjoint := Nat.shiftLeft_add_eq_or_of_lt bounded high
  rw [Nat.lor_comm, ← disjoint, Nat.shiftLeft_eq]
  omega

theorem getU16Le_pair (low high : UInt8) :
    getU16Le [low, high] = low.toUInt16 ||| high.toUInt16 <<< 8 := by
  have small := low.toNat_lt
  have large := high.toNat_lt
  apply UInt16.toNat_inj.mp
  have shifted : (high.toUInt16 <<< 8).toNat = high.toNat <<< 8 := by
    rw [UInt16.toNat_shiftLeft]
    simp only [UInt8.toNat_toUInt16, UInt16.reduceToNat, Nat.shiftLeft_eq, Nat.reduceMod,
      Nat.reducePow]
    omega
  rw [UInt16.toNat_or, shifted, UInt8.toNat_toUInt16, lor_shift _ _ small]
  simp only [getU16Le, leValue, UInt16.toNat_ofNat']
  omega

theorem word_pair (low high : UInt8) :
    (getU16Le [low, high]).toUInt32 = low.toUInt32 ||| high.toUInt32 <<< 8 := by
  have small := low.toNat_lt
  have large := high.toNat_lt
  apply UInt32.toNat_inj.mp
  have shifted : (high.toUInt32 <<< 8).toNat = high.toNat <<< 8 := by
    rw [UInt32.toNat_shiftLeft]
    simp only [UInt8.toNat_toUInt32, UInt32.reduceToNat, Nat.shiftLeft_eq, Nat.reduceMod,
      Nat.reducePow]
    omega
  rw [UInt32.toNat_or, shifted, UInt8.toNat_toUInt32, lor_shift _ _ small]
  simp only [getU16Le, leValue, UInt16.toNat_toUInt32, UInt16.toNat_ofNat']
  omega

/-- The session checks the finalizer the loader has checked. -/
theorem configFinalizerValid_session {config : List UInt8} {policy : Policy}
    (valid : configFinalizerValid config policy = true) :
    validateConfigFinalizer config = true := by
  unfold configFinalizerValid at valid
  unfold validateConfigFinalizer
  simp only [Bool.and_eq_true, decide_eq_true_eq] at valid
  simp only [word_pair, decide_eq_true_eq]
  rw [getU16Le_pair]
  exact valid.1

theorem drop_take_four {config : List UInt8} {offset : Nat} (within : offset + 4 ≤ config.length) :
    (config.drop offset).take 4 =
      [config.getD offset 0, config.getD (offset + 1) 0] ++ (config.drop (offset + 2)).take 2 := by
  have first : config.drop offset = config.getD offset 0 :: config.drop (offset + 1) := by
    rw [List.getD_eq_getElem _ _ (by omega)]
    exact List.drop_eq_getElem_cons (by omega)
  have second : config.drop (offset + 1) =
      config.getD (offset + 1) 0 :: config.drop (offset + 2) := by
    rw [List.getD_eq_getElem _ _ (by omega)]
    exact List.drop_eq_getElem_cons (by omega)
  rw [first, second]
  rfl

theorem putU16Le_pair (value : UInt16) :
    putU16Le value = [value.toUInt8, (value >>> 8).toUInt8] := by
  have high : (value >>> 8).toUInt8 = UInt8.ofNat (value.toNat / 256) := by
    apply UInt8.toNat_inj.mp
    simp only [UInt16.toNat_toUInt8, UInt16.toNat_shiftRight, UInt16.reduceToNat, Nat.reduceMod,
      Nat.shiftRight_eq_div_pow, Nat.reducePow, UInt8.toNat_ofNat']
  rw [high]
  rfl

/-- The session finds the DAC values the loader has found. -/
theorem correlationValid_session {config : List UInt8} {policy : Policy} {material : SecureMaterial}
    (index : Fin 4) (registers : policy.dacRegisters = dacRegisters)
    (offsets : policy.dacOffsets = configDacOffsets) (sized : config.length = 224)
    (same : material.config90 = config) (values : material.dacValues = policy.dacValues)
    (valid : correlationValid config policy index = true) : dacCorrelated material index = true := by
  simp only [correlationValid, registers, offsets, Bool.and_eq_true, decide_eq_true_eq] at valid
  obtain ⟨⟨⟨within, low⟩, high⟩, value⟩ := valid
  simp only [dacCorrelated, same, values, decide_eq_true_eq]
  rw [drop_take_four (by omega), low, high, value, ← putU16Le_pair]

/-! ## Loading and binding -/

/-- What a material that was loaded has been checked for. -/
structure Loaded (crypto : Primitives) (policy : Policy) (files : Files) (material : Material)
    (manifestFile transportFile : ProtectedFile) (accepted : Policy) : Prop where
  shape : policyShapeValid policy = true
  manifest : files.manifest = .ok manifestFile
  transport : files.transport = .ok transportFile
  accepts : acceptManifest crypto policy (manifestFile.buffer policy.manifestLength) =
    some (accepted, material.expectedIdentity)
  validator : material.transportValidator.val = ((transportFile.buffer 88).drop 56).take 32
  sized : material.config90.length = 224
  digest : crypto.checksumSha256 material.config90 = accepted.config90Sha256
  finalizer : configFinalizerValid material.config90 policy = true
  pinned : material.policy =
    if policy.manifestLength = 0 then accepted.withDacValues material.config90 else accepted
  correlated : configCorrelationsValid material.config90 material.policy = true
  unbound : material.bound = false

theorem policyShapeValid_parts {policy : Policy} (shape : policyShapeValid policy = true) :
    policy.transportLength = 88 ∧ policy.config90Length = 224 ∧
      policy.dacRegisters = dacRegisters ∧ policy.dacOffsets = configDacOffsets := by
  simp only [policyShapeValid, Bool.and_eq_true, decide_eq_true_eq] at shape
  exact ⟨shape.1.1.1.2, shape.1.1.2, shape.1.2, shape.2⟩

theorem load_loaded {crypto : Primitives} {policy : Policy} {files : Files} {material : Material}
    (loaded : load crypto policy files = .ok material) :
    ∃ manifest transport accepted,
      Loaded crypto policy files material manifest transport accepted := by
  unfold load at loaded
  split at loaded
  · cases loaded
  rename_i shape
  have shaped : policyShapeValid policy = true := by simpa using shape
  obtain ⟨transportLength, configLength, -, -⟩ := policyShapeValid_parts shaped
  split at loaded
  · cases loaded
  rename_i manifestOctets readManifest
  split at loaded
  · cases loaded
  rename_i accepted identity accepts
  split at loaded
  · cases loaded
  rename_i transportOctets readTransport
  split at loaded
  · cases loaded
  split at loaded
  · cases loaded
  split at loaded
  · rename_i psk transportValidator isPsk isValidator
    split at loaded
    · cases loaded
    rename_i config readConfig
    split at loaded
    · cases loaded
    rename_i digest
    split at loaded
    · cases loaded
    rename_i finalizer
    dsimp only at loaded
    generalize pinned : (if policy.manifestLength = 0 then accepted.withDacValues config
      else accepted) = final at loaded
    split at loaded
    · cases loaded
    rename_i correlated
    cases loaded
    obtain ⟨manifest, openedManifest, rfl, -⟩ := readExactProtected_ok readManifest
    obtain ⟨transport, openedTransport, rfl, -⟩ := readExactProtected_ok readTransport
    obtain ⟨configFile, -, -, sized⟩ := readExactProtected_ok readConfig
    refine ⟨manifest, transport, accepted, shaped, openedManifest, openedTransport, accepts, ?_, ?_,
      not_not.mp digest, by simpa using finalizer, pinned.symm, by simpa using correlated, rfl⟩
    · rw [transportLength] at isValidator
      exact Block.ofList?_eq_some isValidator
    · rw [sized, configLength]
      rfl
  · cases loaded

/-- What a bind that succeeds has compared. -/
theorem bind_ok {crypto : Primitives} {ecb : ZeroKeyEcb} {material owner : Material}
    {seedA seedB : Seed} (bound : material.bind crypto ecb seedA seedB = .ok owner) :
    bindValidator crypto ecb material.psk seedA seedB = .ok material.transportValidator ∧
      (material.policy.e4ValidatorSha256.val.getD 0 0 = 0 ∨
        crypto.checksumSha256 material.transportValidator.val =
          material.policy.e4ValidatorSha256) ∧
      owner = { material with
        policy := { material.policy with
          e4ValidatorSha256 := crypto.checksumSha256 material.transportValidator.val },
        validator := some material.transportValidator, transportValidator := Block.zero 32,
        bound := true } := by
  unfold Material.bind at bound
  split at bound
  · cases bound
  split at bound
  · cases bound
  rename_i validator derived
  dsimp only at bound
  split at bound
  · cases bound
  rename_i compared
  simp only [Bool.or_eq_true, Bool.and_eq_true, decide_eq_true_eq, not_or, not_not, not_and]
    at compared
  obtain ⟨rfl, pin⟩ := compared
  cases bound
  exact ⟨derived, or_iff_not_imp_left.mpr pin, rfl⟩

theorem acceptManifest_supported {crypto : Primitives} {policy accepted : Policy}
    {manifest identity : List UInt8}
    (accepts : acceptManifest crypto policy manifest = some (accepted, identity)) :
    isSupportedIdentity identity = true := by
  unfold acceptManifest at accepts
  split at accepts
  · split at accepts
    · cases accepts
      rfl
    · cases accepts
  · obtain ⟨parsed, found, same⟩ := Option.map_eq_some_iff.mp accepts
    cases same
    obtain ⟨pairs, lists⟩ : ∃ pairs, Lists parsed pairs := by
      cases parseManifest_iff.mp found with
      | inl isManifest =>
        obtain ⟨pairs, -, lists⟩ := isManifest
        exact ⟨pairs, lists⟩
      | inr openEnded =>
        obtain ⟨pairs, -, -, -, -, -, -, -, lists⟩ := openEnded
        exact ⟨pairs, lists⟩
    obtain ⟨app, -, known⟩ := lists.app
    unfold identityOf at known
    split at known
    · rw [← Option.some.inj known]
      rfl
    split at known
    · rw [← Option.some.inj known]
      rfl
    · cases known

theorem acceptManifest_shape {crypto : Primitives} {policy accepted : Policy}
    {manifest identity : List UInt8}
    (accepts : acceptManifest crypto policy manifest = some (accepted, identity)) :
    accepted.dacRegisters = policy.dacRegisters ∧ accepted.dacOffsets = policy.dacOffsets ∧
      accepted.e4ValidatorSha256 = policy.e4ValidatorSha256 := by
  unfold acceptManifest at accepts
  split at accepts
  · split at accepts
    · cases accepts
      exact ⟨rfl, rfl, rfl⟩
    · cases accepts
  · obtain ⟨parsed, -, same⟩ := Option.map_eq_some_iff.mp accepts
    cases same
    exact ⟨rfl, rfl, rfl⟩

/-! ## What the session asks for -/

/-- The view of a bound material is one the secure session is started with. -/
def AcceptedBySession (crypto : Primitives) (owner : Material) : Prop :=
  ∃ view, owner.getSecureSessionMaterial = .ok view ∧ validateMaterial crypto view = .ok ()

/-- The digests that the manifest names are six. -/
local instance sixDigests : NeZero 6 := ⟨by decide⟩

/-- The manifest names no digest of zeros for the answers or CONFIG_90, and the validator in the
transport material has none. -/
def NamesDigests (crypto : Primitives) (files : Files) : Prop :=
  ∃ manifest transport named, files.manifest = .ok manifest ∧ files.transport = .ok transport ∧
    parseManifest (manifest.buffer 0) = some named ∧
    digestPresent (named.hashes 1) = true ∧ digestPresent (named.hashes 3) = true ∧
    digestPresent (named.hashes 4) = true ∧ digestPresent (named.hashes 5) = true ∧
    digestPresent (crypto.checksumSha256 (((transport.buffer 88).drop 56).take 32)) = true

/-- The validator that is derived is the one that the policy pins, if it pins one. -/
def PinHeld (crypto : Primitives) (ecb : ZeroKeyEcb) (policy : Policy) (psk : Psk)
    (seedA seedB : Seed) : Prop :=
  digestPresent policy.e4ValidatorSha256 = true →
    ∃ validator, bindValidator crypto ecb psk seedA seedB = .ok validator ∧
      crypto.checksumSha256 validator.val = policy.e4ValidatorSha256

/-- The pin is looked at, for its first octet, or there is none, or the validator in the transport
material has it. -/
def PinSeen (crypto : Primitives) (policy : Policy) (files : Files) : Prop :=
  policy.e4ValidatorSha256.val.getD 0 0 ≠ 0 ∨ digestPresent policy.e4ValidatorSha256 = false ∨
    ∃ transport, files.transport = .ok transport ∧
      crypto.checksumSha256 (((transport.buffer 88).drop 56).take 32) = policy.e4ValidatorSha256

/-- The view of a material that is bound with this validator. -/
def boundView (crypto : Primitives) (material : Material) (validator : Validator) :
    SecureMaterial where
  expectedIdentity := material.expectedIdentity
  e4Validator := validator.val
  e4ValidatorSha256 := crypto.checksumSha256 validator.val
  a2ResponseSha256 := material.policy.a2ResponseSha256
  chip82ResponseSha256 := material.policy.chip82ResponseSha256
  otpA6ResponseSha256 := material.policy.otpA6ResponseSha256
  dacValues := material.policy.dacValues
  config90 := material.config90
  config90Sha256 := material.policy.config90Sha256
  psk := material.psk.val

theorem getSecureSessionMaterial_bound {crypto : Primitives} {material : Material}
    (named : material.expectedIdentity.length ≠ 0) (validator : Validator) :
    Material.getSecureSessionMaterial { material with
        policy := { material.policy with
          e4ValidatorSha256 := crypto.checksumSha256 validator.val },
        validator := some validator, transportValidator := Block.zero 32, bound := true } =
      .ok (boundView crypto material validator) := by
  simp [Material.getSecureSessionMaterial, named, boundView]

/-- Of a material that was loaded and bound, the session checks anew only that the digests are
there. -/
theorem acceptedBySession_iff {crypto : Primitives} {ecb : ZeroKeyEcb} {policy accepted : Policy}
    {files : Files} {material owner : Material} {manifest transport : ProtectedFile}
    {seedA seedB : Seed}
    (loaded : Loaded crypto policy files material manifest transport accepted)
    (bound : material.bind crypto ecb seedA seedB = .ok owner) :
    AcceptedBySession crypto owner ↔
      digestPresent (crypto.checksumSha256 material.transportValidator.val) = true ∧
        digestPresent material.policy.a2ResponseSha256 = true ∧
        digestPresent material.policy.chip82ResponseSha256 = true ∧
        digestPresent material.policy.otpA6ResponseSha256 = true ∧
        digestPresent material.policy.config90Sha256 = true := by
  obtain ⟨-, -, rfl⟩ := bind_ok bound
  obtain ⟨-, -, registers, offsets⟩ := policyShapeValid_parts loaded.shape
  have supported := acceptManifest_supported loaded.accepts
  have named : material.expectedIdentity.length ≠ 0 := by
    intro none
    rw [List.length_eq_zero_iff.mp none] at supported
    cases supported
  have kept : material.policy.dacRegisters = dacRegisters ∧
      material.policy.dacOffsets = configDacOffsets ∧
      crypto.checksumSha256 material.config90 = material.policy.config90Sha256 := by
    have shaped := acceptManifest_shape loaded.accepts
    rw [loaded.pinned]
    split
    · exact ⟨shaped.1.trans registers, shaped.2.1.trans offsets, loaded.digest⟩
    · exact ⟨shaped.1.trans registers, shaped.2.1.trans offsets, loaded.digest⟩
  have finalizer := configFinalizerValid_session loaded.finalizer
  unfold AcceptedBySession
  rw [getSecureSessionMaterial_bound named]
  simp only [Except.ok.injEq, exists_eq_left']
  generalize isView : boundView crypto material material.transportValidator = view
  have correlated : (List.finRange 4).all (dacCorrelated view) = true := by
    refine List.all_eq_true.mpr fun index inside => ?_
    exact correlationValid_session index kept.1 kept.2.1 loaded.sized (by rw [← isView]; rfl)
      (by rw [← isView]; rfl) (List.all_eq_true.mp loaded.correlated index inside)
  unfold validateMaterial
  rw [correlated]
  subst isView
  simp only [boundView, supported, digestMatches, kept.2.2, finalizer, loaded.sized,
    Block.length_val]
  by_cases validator : digestPresent (crypto.checksumSha256 material.transportValidator.val) = true
  · by_cases a2 : digestPresent material.policy.a2ResponseSha256 = true
    · by_cases chip82 : digestPresent material.policy.chip82ResponseSha256 = true
      · by_cases otpA6 : digestPresent material.policy.otpA6ResponseSha256 = true
        · by_cases config : digestPresent material.policy.config90Sha256 = true
          · simp [validator, a2, chip82, otpA6, config]
          · simp [validator, a2, chip82, otpA6, config, materialError]
        · simp [validator, a2, chip82, otpA6, materialError]
      · simp [validator, a2, chip82, materialError]
    · simp [validator, a2, materialError]
  · simp [validator, materialError]

/-- The session takes what the production policy loads and binds exactly if no digest in it is
missing, and a pin is held exactly if its first octet is not zero, or there was nothing to hold. -/
theorem bound_material_accepted_iff (crypto : Primitives) (ecb : ZeroKeyEcb) (policy : Policy)
    (files : Files) (seedA seedB : Seed) (material owner : Material)
    (loaded : load crypto policy files = .ok material)
    (bound : material.bind crypto ecb seedA seedB = .ok owner) :
    (policy = production → (AcceptedBySession crypto owner ↔ NamesDigests crypto files)) ∧
      (PinHeld crypto ecb policy material.psk seedA seedB ↔ PinSeen crypto policy files) := by
  obtain ⟨manifest, transport, accepted, loaded⟩ := load_loaded loaded
  obtain ⟨derived, compared, -⟩ := bind_ok bound
  constructor
  · rintro rfl
    rw [acceptedBySession_iff loaded bound]
    obtain ⟨named, parsed, same⟩ := Option.map_eq_some_iff.mp loaded.accepts
    have pins : material.policy =
        (production.withHashes named.hashes).withDacValues material.config90 := by
      rw [loaded.pinned, ← (Prod.mk.inj same).1]
      rfl
    have validator := loaded.validator
    rw [pins, validator]
    constructor
    · rintro ⟨present, a2, chip82, otpA6, config⟩
      exact ⟨manifest, transport, named, loaded.manifest, loaded.transport, parsed, config, a2,
        chip82, otpA6, present⟩
    · rintro ⟨otherManifest, otherTransport, other, isManifest, isTransport, otherParsed, config, a2,
        chip82, otpA6, present⟩
      cases loaded.manifest.symm.trans isManifest
      cases loaded.transport.symm.trans isTransport
      cases parsed.symm.trans otherParsed
      exact ⟨present, a2, chip82, otpA6, config⟩
  · have pin : material.policy.e4ValidatorSha256 = policy.e4ValidatorSha256 := by
      have kept := (acceptManifest_shape loaded.accepts).2.2
      rw [loaded.pinned]
      split
      · exact kept
      · exact kept
    rw [pin] at compared
    have held : PinHeld crypto ecb policy material.psk seedA seedB ↔
        (digestPresent policy.e4ValidatorSha256 = true →
          crypto.checksumSha256 material.transportValidator.val = policy.e4ValidatorSha256) := by
      simp [PinHeld, derived]
    rw [held, loaded.validator]
    rw [loaded.validator] at compared
    constructor
    · intro same
      by_cases present : digestPresent policy.e4ValidatorSha256 = true
      · exact .inr (.inr ⟨transport, loaded.transport, same present⟩)
      · exact .inr (.inl (by simpa using present))
    · intro seen present
      rcases seen with first | missing | ⟨other, isTransport, same⟩
      · exact compared.resolve_left first
      · rw [missing] at present
        cases present
      · cases loaded.transport.symm.trans isTransport
        exact same

/-! ## Two loads -/

/-- A file with these octets, that is read at once. -/
def plainFile (content : List UInt8) : Except String ProtectedFile :=
  let status : Stat := ⟨true, 0, 0, 0o600, content.length, 0, 0⟩
  .ok ⟨some status, content, [.count content.length], some status⟩

/-- The digits of a digest of ones. -/
def plainDigits : List UInt8 := (List.replicate 32 [0x30, 0x31]).flatten

/-- The text of a manifest with this digest for the answer to A2, and others. -/
def plainManifest (a2 : List UInt8) : List UInt8 :=
  let member (key value : List UInt8) := Json.ascii "\"" ++ key ++ Json.ascii "\":\"" ++ value ++
    Json.ascii "\""
  let digits := plainDigits
  let values := [Json.ascii "goodix-5125-device-materials-v1", Json.ascii "27c6",
    Json.ascii "5125", Json.ascii "GF_ST411SEC_APP_12509", digits, digits, digits, a2, digits,
    digits]
  [Json.openBrace] ++ (List.intersperse [Json.comma] (List.zipWith member keys values)).flatten ++
    [Json.closeBrace]

def plainFiles (a2 : List UInt8) : Files where
  manifest := plainFile (plainManifest a2)
  transport := plainFile (transportHeader ++ List.replicate 32 7 ++ List.replicate 32 0)
  config90 := plainFile plainConfig

/-- A cipher that gives zeros. -/
def plainEcb : ZeroKeyEcb := fun _ _ _ => some (Block.zero 16)

def plainSeed : Seed := Block.zero 6

theorem exists_bound {crypto : Primitives} {ecb : ZeroKeyEcb} {policy : Policy} {files : Files}
    {seedA seedB : Seed}
    (binds : ((load crypto policy files).toOption.bind fun material =>
      (material.bind crypto ecb seedA seedB).toOption).isSome = true) :
    ∃ material owner, load crypto policy files = .ok material ∧
      material.bind crypto ecb seedA seedB = .ok owner := by
  cases loaded : load crypto policy files with
  | error error => simp [loaded, Except.toOption] at binds
  | ok material =>
    cases bound : material.bind crypto ecb seedA seedB with
    | error error => simp [loaded, bound, Except.toOption] at binds
    | ok owner => exact ⟨material, owner, rfl, bound⟩

theorem exists_refused {crypto : Primitives} {ecb : ZeroKeyEcb} {policy : Policy} {files : Files}
    {seedA seedB : Seed}
    (refused : ((load crypto policy files).toOption.bind fun material =>
      (material.bind crypto ecb seedA seedB).toOption.map fun owner =>
        (owner.getSecureSessionMaterial.toOption.map fun view =>
          (validateMaterial crypto view).toOption.isSome)) = some (some false)) :
    ∃ material owner, load crypto policy files = .ok material ∧
      material.bind crypto ecb seedA seedB = .ok owner ∧ ¬ AcceptedBySession crypto owner := by
  cases loaded : load crypto policy files with
  | error error => simp [loaded, Except.toOption] at refused
  | ok material =>
    cases bound : material.bind crypto ecb seedA seedB with
    | error error => simp [loaded, bound, Except.toOption] at refused
    | ok owner =>
      refine ⟨material, owner, rfl, bound, ?_⟩
      rintro ⟨view, isView, valid⟩
      simp [loaded, bound, isView, valid, Except.toOption] at refused

theorem bound_material_accepted_iff_plain :
    ∃ material owner, load plainCrypto production (plainFiles plainDigits) = .ok material ∧
      material.bind plainCrypto plainEcb plainSeed plainSeed = .ok owner ∧
      (AcceptedBySession plainCrypto owner ↔
        NamesDigests plainCrypto (plainFiles plainDigits)) := by
  have binds : ((load plainCrypto production (plainFiles plainDigits)).toOption.bind
      fun material => (material.bind plainCrypto plainEcb plainSeed plainSeed).toOption).isSome =
        true := by
    decide +kernel
  obtain ⟨material, owner, loaded, bound⟩ := exists_bound binds
  exact ⟨material, owner, loaded, bound, (bound_material_accepted_iff plainCrypto plainEcb
    production (plainFiles plainDigits) plainSeed plainSeed material owner loaded bound).1 rfl⟩

/-- A pin that begins with a zero. -/
def zeroFirstPolicy : Policy :=
  { production with e4ValidatorSha256 := ⟨0 :: List.replicate 31 2, rfl⟩ }

/-- A manifest with zeros for the digest of A2 is loaded and bound, and its view refused; and a pin
that begins with a zero is not compared with. -/
theorem zero_digests_slip_through :
    (∃ material owner,
      load plainCrypto production (plainFiles (List.replicate 64 0x30)) = .ok material ∧
        material.bind plainCrypto plainEcb plainSeed plainSeed = .ok owner ∧
        ¬ AcceptedBySession plainCrypto owner) ∧
      ∃ material owner,
        load plainCrypto zeroFirstPolicy (plainFiles plainDigits) = .ok material ∧
          material.bind plainCrypto plainEcb plainSeed plainSeed = .ok owner ∧
          ¬ PinHeld plainCrypto plainEcb zeroFirstPolicy material.psk plainSeed plainSeed := by
  constructor
  · refine exists_refused ?_
    decide +kernel
  · have binds : ((load plainCrypto zeroFirstPolicy (plainFiles plainDigits)).toOption.bind
        fun material => (material.bind plainCrypto plainEcb plainSeed plainSeed).toOption).isSome =
          true := by
      decide +kernel
    obtain ⟨material, owner, loaded, bound⟩ := exists_bound binds
    refine ⟨material, owner, loaded, bound, fun held => ?_⟩
    obtain ⟨validator, -, same⟩ := held (by decide)
    have differs : (⟨List.replicate 32 1, rfl⟩ : Digest) ≠ zeroFirstPolicy.e4ValidatorSha256 := by
      decide
    exact differs same

end Goodix.TargetMaterial
