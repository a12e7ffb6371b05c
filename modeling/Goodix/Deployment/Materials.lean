import Goodix.Deployment.Manifest
import Goodix.ImageDecoder
import Goodix.Library.Scripts

/-! # The installation of device materials

`materials.py`: the checks of a bundle, and its publication by way of a private directory beside
the destination.  Ownership, modes and the stability of what is read are left to the verdict on
the step that reads it, and so is the text of an error in the manifest.
-/

namespace Goodix.Deployment.Materials

open Json Octets Scripts Scripts.Script

/-- A dictionary of names and contents; a name counts where it comes first. -/
abbrev Files := List (String × List UInt8)

/-- `NAMES` -/
def names : List String :=
  ["target-material-manifest.json", "transport-material.bin", "target-config-90.bin", "gfusb.dll",
    "fdt-cache.bin"]

def dllSize : Nat := 5771496

/-- `DLL_SHA256` -/
def dllDigest : List UInt8 := ascii "904eab1d9dbfab2609da361aa6ddba549a9d503f85b4e439b0294908f4cbc7e2"

/-- `SIZES` -/
def sizes : String → Nat × Nat
  | "target-material-manifest.json" => (1, 4096)
  | "transport-material.bin" => (88, 88)
  | "target-config-90.bin" => (224, 224)
  | "gfusb.dll" => (dllSize, dllSize)
  | _ => (13520, 13520)

/-- `TRANSPORT_HEADER` -/
def transportHeader : List UInt8 :=
  ascii "G5125POC" ++ [1, 24, 0x27c6, 0x5125, 1, 32, 32, 0].flatMap (leOctets 2)

def require (condition : Bool) (message : String) : Except String Unit :=
  if condition then .ok () else .error message

/-- The octets from an offset on. -/
def slice (data : List UInt8) (offset length : Nat) : List UInt8 := (data.drop offset).take length

/-! ## The library of the manufacturer -/

structure Section where
  virtualSize : Nat
  virtualAddress : Nat
  rawSize : Nat
  rawOffset : Nat

/-- `struct.unpack_from('<4I', …)` -/
def sectionAt (data : List UInt8) (offset : Nat) : Section :=
  let word (index : Nat) := leValue (slice data (offset + 4 * index) 4)
  ⟨word 0, word 1, word 2, word 3⟩

/-- `rva_bytes` -/
def rvaBytes (data : List UInt8) (rva wanted : Nat) : List Section → Except String (List UInt8)
  | [] => .error "gfusb.dll producer RVA is not file-backed"
  | found :: sections =>
    if found.virtualAddress ≤ rva ∧
        rva + wanted ≤ found.virtualAddress + min found.virtualSize found.rawSize then do
      let offset := found.rawOffset + rva - found.virtualAddress
      require (offset + wanted ≤ data.length) "gfusb.dll producer RVA exceeds file bounds"
      return slice data offset wanted
    else rvaBytes data rva wanted sections

/-- `data.find(pattern)` in what is left of the data. -/
def find (pattern : List UInt8) : List UInt8 → Option Nat
  | [] => if pattern.isEmpty then some 0 else none
  | octet :: rest =>
    if pattern.isPrefixOf (octet :: rest) then some 0 else (find pattern rest).map (· + 1)

/-- `data.find(pattern, first + 1)` finds nothing. -/
def isOnly (pattern data : List UInt8) (first : Nat) : Bool :=
  (find pattern (data.drop (first + 1))).isNone

/-- `validate_pe` -/
def validatePe (sha256 : List UInt8 → List UInt8) (data : List UInt8) : Except String Unit := do
  require (data.length = dllSize && sha256 data = dllDigest)
    "gfusb.dll does not match the supported OEM compatibility identity"
  require (data.take 2 = ascii "MZ") "gfusb.dll DOS header is invalid"
  let pe := leValue (slice data 0x3c 4)
  require (pe + 24 ≤ data.length && slice data pe 4 = ascii "PE" ++ [0, 0])
    "gfusb.dll PE header is invalid"
  let count := leValue (slice data (pe + 6) 2)
  let optional := leValue (slice data (pe + 20) 2)
  let table := pe + 24 + optional
  require (1 ≤ count && count ≤ 96 && table + 40 * count ≤ data.length)
    "gfusb.dll PE section table is invalid"
  let sections := (List.range count).map fun index => sectionAt data (table + 40 * index + 8)
  let _ ← rvaBytes data 0x56f030 6 sections
  let instruction ← rvaBytes data 0x69d0 14 sections
  require (instruction.take 3 = [0xc7, 0x45, 0x9f] && slice instruction 7 3 = [0xc7, 0x45, 0xa3])
    "gfusb.dll producer instruction is invalid"
  let pattern := instruction.take 12
  match find pattern data with
  | some first =>
    require (isOnly pattern data first) "gfusb.dll producer instruction is ambiguous"
  | none => .error "gfusb.dll producer instruction is ambiguous"

/-! ## The bundle -/

/-- `set(files) == set(NAMES)` -/
def namesExactly (files : Files) : Bool :=
  (files.all fun entry => names.contains entry.1) &&
    names.all fun name => (files.map Prod.fst).contains name

/-- `files[name]` -/
def content (files : Files) (name : String) : List UInt8 := (files.lookup name).getD []

/-- `str.lower` -/
def lower (text : List UInt8) : List UInt8 :=
  text.map fun octet => if 0x41 ≤ octet && octet ≤ 0x5a then octet + 0x20 else octet

/-- `manifest[key].lower()` -/
def digestOf (manifest : Json.Pairs) (key : String) : List UInt8 :=
  match manifest.lookup (ascii key) with
  | some (.string text) => lower text
  | _ => []

/-- The registers of the configuration, and where they stand. -/
def dacLayout : List (Nat × Nat) := [(117, 0x0220), (121, 0x0236), (125, 0x0238), (129, 0x023a)]

/-- `sum(struct.unpack('<112H', config))` -/
def sumOfWords (config : List UInt8) : Nat :=
  ((List.range 112).map fun index => leValue (slice config (2 * index) 2)).sum

/-- `validate_bytes` -/
def validateBytes (sha256 : List UInt8 → List UInt8) (files : Files) : Except String Json.Pairs := do
  require (namesExactly files) "exactly the five named device files are required"
  names.forM fun name => require
    ((sizes name).1 ≤ (content files name).length && (content files name).length ≤ (sizes name).2)
    (name ++ ": invalid file size")
  match parseManifest (content files "target-material-manifest.json") with
  | none => .error "manifest"
  | some manifest => do
    [("transport-material.bin", "transport_sha256"), ("target-config-90.bin", "config90_sha256"),
      ("fdt-cache.bin", "fdt_cache_sha256")].forM fun (name, key) => require
        (sha256 (content files name) = digestOf manifest key) (name ++ ": manifest digest mismatch")
    let transport := content files "transport-material.bin"
    let config := content files "target-config-90.bin"
    let cache := content files "fdt-cache.bin"
    require (transport.take 24 = transportHeader) "transport material header is invalid"
    require ((sumOfWords config + 0xa5a5) % 0x10000 = 0) "configuration finalizer is invalid"
    dacLayout.forM fun (offset, register) => require (leValue (slice config offset 2) = register)
      "configuration DAC register layout is invalid"
    require (leValue (slice cache 13516 4) = (ImageDecoder.crc32Mpeg2 (cache.take 13516)).toNat)
      "FDT cache CRC-32/MPEG-2 is invalid"
    require (sha256 (cache.take 64) = digestOf manifest "otp_a6_response_sha256")
      "FDT cache OTP binding is invalid"
    require ((slice cache 64 12).any (· ≠ 0)) "FDT cache seed is absent"
    validatePe sha256 (content files "gfusb.dll")
    return manifest

/-! ### What is accepted -/

section Accepted

variable {α : Type}

theorem ok_bind {β : Type} (value : α) (next : α → Except String β) :
    (Except.ok value >>= next) = next value := rfl

theorem require_true (message : String) : require true message = .ok () := rfl

theorem forM_require {items : List α} {condition : α → Bool} {message : α → String}
    (each : ∀ item ∈ items, condition item = true) :
    (items.forM fun item => require (condition item) (message item)) = .ok () := by
  induction items with
  | nil => rfl
  | cons item items ih =>
    show (require (condition item) (message item) >>= fun _ => items.forM _) = _
    rw [each item List.mem_cons_self, require_true, ok_bind]
    exact ih fun later inside => each later (List.mem_cons_of_mem _ inside)

/-- Five files, each as it must be, are accepted. -/
theorem validateBytes_accepts {sha256 : List UInt8 → List UInt8} {files : Files}
    {text transport config dll cache digest : List UInt8} {manifest : Json.Pairs}
    (exactly : namesExactly files = true)
    (isText : content files "target-material-manifest.json" = text)
    (isTransport : content files "transport-material.bin" = transport)
    (isConfig : content files "target-config-90.bin" = config)
    (isDll : content files "gfusb.dll" = dll) (isCache : content files "fdt-cache.bin" = cache)
    (short : 1 ≤ text.length ∧ text.length ≤ 4096)
    (sized : transport.length = 88 ∧ config.length = 224 ∧ dll.length = dllSize ∧
      cache.length = 13520)
    (parsed : parseManifest text = some manifest)
    (named : ∀ key ∈ ["transport_sha256", "config90_sha256", "fdt_cache_sha256",
      "otp_a6_response_sha256"], digestOf manifest key = digest)
    (digests : sha256 transport = digest ∧ sha256 config = digest ∧ sha256 cache = digest ∧
      sha256 (cache.take 64) = digest)
    (header : transport.take 24 = transportHeader)
    (finalizer : (sumOfWords config + 0xa5a5) % 0x10000 = 0)
    (registers : ∀ entry ∈ dacLayout, leValue (slice config entry.1 2) = entry.2)
    (crc : leValue (slice cache 13516 4) = (ImageDecoder.crc32Mpeg2 (cache.take 13516)).toNat)
    (seed : (slice cache 64 12).any (· ≠ 0) = true) (library : validatePe sha256 dll = .ok ()) :
    validateBytes sha256 files = .ok manifest := by
  simp only [List.mem_cons, List.not_mem_nil, or_false, forall_eq_or_imp, forall_eq] at named
  obtain ⟨transportKey, configKey, cacheKey, otpKey⟩ := named
  obtain ⟨transportSize, configSize, dllLength, cacheSize⟩ := sized
  have fits : (names.forM fun name => require
      ((sizes name).1 ≤ (content files name).length && (content files name).length ≤ (sizes name).2)
      (name ++ ": invalid file size")) = .ok () := by
    apply forM_require
    simp [names, sizes, isText, isTransport, isConfig, isDll, isCache, short, transportSize,
      configSize, dllLength, cacheSize]
  have matched : ([("transport-material.bin", "transport_sha256"),
      ("target-config-90.bin", "config90_sha256"), ("fdt-cache.bin", "fdt_cache_sha256")].forM
        fun (name, key) => require (sha256 (content files name) = digestOf manifest key)
          (name ++ ": manifest digest mismatch")) = .ok () := by
    apply forM_require
    simp [isTransport, isConfig, isCache, transportKey, configKey, cacheKey, digests]
  have placed : (dacLayout.forM fun (offset, register) =>
      require (leValue (slice config offset 2) = register)
        "configuration DAC register layout is invalid") = .ok () := by
    apply forM_require
    simpa using registers
  unfold validateBytes
  simp only [isTransport, isConfig, isText, isDll, isCache, exactly, parsed, fits, matched, placed,
    header, finalizer, crc, otpKey, digests.2.2.2, seed, library, decide_true, require_true, ok_bind]
  rfl

end Accepted

/-! ## The host -/

/-- A directory of files, or something else at a path. -/
inductive Held where
  | directory (files : Files)
  | special (kind : Nat)
  deriving DecidableEq

/-- The private directory. -/
structure Stage where
  inode : Nat
  files : Files
  deriving DecidableEq

/-- The destination, the staging beside it, and what others do: before every step another process
may publish something where the destination is absent, and the native check may leave the staging
changed. -/
structure Vault where
  destination : Option Held
  stage : Option Stage
  nextInode : Nat
  rivals : List (Option Held)
  meddling : Files → Files

inductive Op where
  /-- A call that changes no content. -/
  | inspect
  | mkdtemp
  | create (name : String)
  | write (name : String) (data : List UInt8)
  | nativeCheck
  /-- The native check of the destination. -/
  | checkDestination
  /-- `renameat2` with `RENAME_NOREPLACE` -/
  | rename
  | unlink (name : String)
  | rmdir
  deriving DecidableEq

inductive Error where
  | os
  /-- `MaterialError` -/
  | material (message : String)
  /-- An interrupt, or what a native check raises. -/
  | other
  deriving DecidableEq

/-- Another process has its turn. -/
def Vault.rival (vault : Vault) : Vault :=
  match vault.rivals with
  | [] => vault
  | found :: rivals => { vault with destination := vault.destination.or found, rivals }

/-- The vault with other files in the staging. -/
def Vault.restage (vault : Vault) (change : Files → Files) : Vault :=
  { vault with stage := vault.stage.map fun stage => { stage with files := change stage.files } }

def Op.perform : Op → Vault → Vault
  | .inspect, vault | .checkDestination, vault => vault
  | .mkdtemp, vault =>
    { vault with stage := some ⟨vault.nextInode, []⟩, nextInode := vault.nextInode + 1 }
  | .create name, vault => vault.restage (· ++ [(name, [])])
  | .write name data, vault => vault.restage fun files => files.dropLast ++ [(name, data)]
  | .nativeCheck, vault => vault.restage vault.meddling
  -- the rename is atomic, and does not replace
  | .rename, vault =>
    match vault.destination, vault.stage with
    | none, some stage => { vault with destination := some (.directory stage.files), stage := none }
    | _, _ => vault
  | .unlink name, vault => vault.restage fun files => files.filter fun entry => entry.1 ≠ name
  | .rmdir, vault => { vault with stage := none }

def Op.effect (op : Op) (vault : Vault) : Vault := op.perform vault.rival

/-- A system call that fails has no effect, unless an interrupt came behind it. -/
def Op.leaves : Op → Error → Bool
  | .write _ _, _ | .nativeCheck, _ | .checkDestination, _ => true
  | _, error => error = .other

abbrev Step := Event Op Error Vault
abbrev Import (α : Type) := Script Op Error Vault α

def act (op : Op) : Import Unit := .step op op.effect id op.leaves

def refuse {α : Type} (message : String) : Import α := .raise .inspect (.material message)

/-- `require` in a script. -/
def demand {α : Type} (checked : Except String α) : Import α :=
  match checked with
  | .ok value => pure value
  | .error message => refuse message

/-- Python compares dictionaries by their values. -/
def sameFiles (first second : Files) : Bool :=
  (first.all fun entry => first.lookup entry.1 = second.lookup entry.1) &&
    second.all fun entry => first.lookup entry.1 = second.lookup entry.1

inductive Place where
  | destination
  | stage

/-- The files of a directory, if there is one. -/
def Place.files (vault : Vault) : Place → Option Files
  | .destination =>
    match vault.destination with
    | some (.directory files) => some files
    | _ => none
  | .stage => vault.stage.map Stage.files

/-- `validate_bundle` of a directory that is installed or staged. -/
def validateBundle (sha256 : List UInt8 → List UInt8) (place : Place) : Import Files := do
  act .inspect
  let vault ← get
  match place.files vault with
  | none => raise .inspect .os
  | some files => do
    let _ ← demand (validateBytes sha256 files)
    pure files

/-- `publish_without_replace` -/
def publishWithoutReplace : Import Unit := do
  act .rename
  let vault ← get
  if vault.stage.isSome then
    refuse "material destination appeared during import; it was preserved"
  else pure ()

/-- `shutil.rmtree` -/
def removeTree : Files → Import Unit
  | [] => act .rmdir
  | (name, _) :: rest => do
    act (.unlink name)
    removeTree rest

/-- The end of `install_materials` with a staging that is not published: its inode, if that was
read. -/
def discard (identity : Option Nat) : Import Unit := do
  -- `os.close(parent_fd)`
  act .inspect
  act .inspect
  let vault ← get
  match vault.stage with
  | none => raise .inspect .os
  | some stage =>
    if identity = some stage.inode then removeTree stage.files
    else refuse "material staging path changed; retained for review"

/-- `finally` -/
def finallyDo {α : Type} (cleanup : Import Unit) (script : Import α) : Import α :=
  script.handle fun error => do
    cleanup
    rethrow error

/-- The files are written one behind the other. -/
def writeFiles (bundle : Files) : Import Unit :=
  forEach names fun name => do
    act (.create name)
    -- owner and mode
    act .inspect
    act (.write name (content bundle name))
    act .inspect

/-- What is done in the staging. -/
def fillStage (sha256 : List UInt8 → List UInt8) (bundle : Files) : Import Unit := do
  act .inspect
  writeFiles bundle
  let _ ← validateBundle sha256 .stage
  act .nativeCheck
  let staged ← validateBundle sha256 .stage
  if !sameFiles staged bundle then refuse "material staging changed before publication"
  else do
    act .inspect
    publishWithoutReplace

/-- The import of a bundle where there is no destination. -/
def stageMaterials (sha256 : List UInt8 → List UInt8) (bundle : Files) : Import Unit := do
  act .inspect
  finallyDo (act .inspect) (act .mkdtemp)
  -- the staging is known before its identity
  finallyDo (discard none) (act .inspect)
  let vault ← get
  let identity := vault.stage.map Stage.inode
  finallyDo (discard identity) (fillStage sha256 bundle)
  finallyDo (act .inspect) (act .inspect)
  act .inspect

/-- `install_materials` -/
def installMaterials (sha256 : List UInt8 → List UInt8) (bundle : Files) : Import Bool := do
  let _ ← demand (validateBytes sha256 bundle)
  -- `trusted_destination_parent`
  act .inspect
  act .inspect
  let vault ← get
  match vault.destination with
  | some _ => do
    let existing ← validateBundle sha256 .destination
    if !sameFiles existing bundle then
      refuse "existing installed material differs; it was preserved"
    else do
      act .checkDestination
      pure false
  | none => do
    stageMaterials sha256 bundle
    pure true

end Goodix.Deployment.Materials
