import Goodix.Library.Values

/-! # Releases

`verify_release.py` decides which release may be published, and `model.py` of the Manager which it
offers.  Both read the metadata of a release, which may be any JSON value.
-/

namespace Goodix.Manager

open Decimals Values

def repository : String := "https://github.com/sorguido/goodix-27c6-5125"

/-! ## Texts -/

/-- `str.replace`: every occurrence from the left, of which some points are to be passed over. -/
def replaceBehind (old new : Text) : Nat → Text → Text
  | _, [] => []
  | passed + 1, _ :: rest => replaceBehind old new passed rest
  | 0, point :: rest =>
    if old.isPrefixOf (point :: rest) then new ++ replaceBehind old new (old.length - 1) rest
    else point :: replaceBehind old new 0 rest

def replace (old new : Text) (words : Text) : Text := replaceBehind old new 0 words

/-- `re.fullmatch('v' + VERSION, tag)` -/
def isTag : Text → Bool
  | 118 :: version => isVersion version
  | _ => false

/-- `[1-9][0-9]{0,5}` -/
def isRevision (digits : Text) : Bool := isPositive digits && digits.length ≤ 6

def binaryPrefix (version : Text) : Text := text "goodix-manager-" ++ version ++ text "-"

def binarySuffix : Text := text ".fc44.x86_64.rpm"

/-- The group of `goodix-manager-<version>-([1-9][0-9]{0,5})\.fc44\.x86_64\.rpm`, where it matches
a whole name. -/
def revisionOf (version name : Text) : Option Text :=
  match name.dropPrefix? (binaryPrefix version) with
  | some rest =>
    match rest.dropSuffix? binarySuffix with
    | some digits => if isRevision digits then some digits else none
    | none => none
  | none => none

/-- `sha256:[0-9a-f]{64}` -/
def isDigest (words : Text) : Bool :=
  match words.dropPrefix? (text "sha256:") with
  | some digest => isHexOf 64 digest
  | none => false

def pageUrl (tag : Text) : Text := text repository ++ text "/releases/tag/" ++ tag

def downloadUrl (tag name : Text) : Text :=
  text repository ++ text "/releases/download/" ++ tag ++ text "/" ++ name

/-! ## The gate of a publication -/

inductive Mode where
  | draft
  /-- `'public'` -/
  | released
  deriving DecidableEq

/-- What the gate found: the texts of the version and of the revision, and both assets. -/
structure Published where
  version : Text
  revision : Text
  binary : Value
  source : Value

/-- `require` -/
def require (condition : Prop) [Decidable condition] (message : String) : Except String Unit :=
  if condition then .ok () else .error message

/-- `asset['name']`, if it is a text -/
def assetName? (asset : Value) : Option Text :=
  match asset.get "name" with
  | .string name => some name
  | _ => none

/-- The loop over the assets. -/
def scanAssets (version : Text) : List Value → List Text → List Value →
    Except String (List Text × List Value)
  | [], names, binaries => .ok (names, binaries)
  | asset :: assets, names, binaries =>
    match assetName? asset with
    | none => .error "malformed asset"
    | some name =>
      if name ∈ names then .error "duplicate asset name"
      else scanAssets version assets (names ++ [name])
        (if (revisionOf version name).isSome then binaries ++ [asset] else binaries)

/-- `type(asset.get('size')) is int and asset['size'] > 0` -/
def hasSize (asset : Value) : Bool :=
  match asset.get "size" with
  | .int size => 0 < size
  | _ => false

/-- `isinstance(asset.get('digest'), str)`, with a digest of SHA-256 -/
def hasDigest (asset : Value) : Bool :=
  match asset.get "digest" with
  | .string digest => isDigest digest
  | _ => false

/-- The checks of the binary and of its source. -/
def checkAsset (tag : Text) (asset : Value) : Except String Unit := do
  require ((asset.get "state").equals (.string (text "uploaded"))) "asset upload incomplete"
  require (hasSize asset) "invalid asset size"
  require (hasDigest asset) "missing or invalid asset SHA-256 digest"
  require ((asset.get "browser_download_url").equals
    (.string (downloadUrl tag ((assetName? asset).getD [])))) "untrusted download URL"

/-- Two lists as sets. -/
def sameSet (first second : List Text) : Bool :=
  first.all second.contains && second.all first.contains

/-- The pair that is published, of the assets that were found. -/
def publishedPair (tag version : Text) (assets : List Value) (names : List Text) :
    List Value → Except String Published
  | [binary] => do
    let name := (assetName? binary).getD []
    let sourceName := replace (text ".x86_64.rpm") (text ".src.rpm") name
    match assets.filter fun asset => assetName? asset = some sourceName with
    | [source] => do
      require (sameSet (names.filter fun name => (text ".rpm").isSuffixOf name) [name, sourceName])
        "unexpected or inconsistent RPM asset"
      checkAsset tag binary
      checkAsset tag source
      let behind := (name.dropPrefix? (binaryPrefix version)).getD name
      pure ⟨version, (behind.splitOn stop).headD [], binary, source⟩
    | _ => .error "missing corresponding SRPM"
  | _ => .error "expected one compatible binary RPM"

/-- `release_assets` -/
def releaseAssets (mode : Mode) (data : Value) : Except String Published := do
  require data.isDict "release must be an object"
  require ((data.get "draft").isBool (mode = .draft)) "draft/public mode mismatch"
  require ((data.get "prerelease").isBool false) "prerelease cannot pass this gate"
  match data.get "tag_name" with
  | .string tag => do
    require (tag.length ≤ 49 ∧ isTag tag) "missing or invalid stable version tag"
    let version := tag.tail
    require ((data.get "html_url").equals (.string (pageUrl tag))) "untrusted release URL"
    match data.get "assets" with
    | .list assets => do
      require (assets.length ≤ 128) "invalid asset list"
      let (names, binaries) ← scanAssets version assets [] []
      publishedPair tag version assets names binaries
    | _ => .error "invalid asset list"
  | _ => .error "missing or invalid stable version tag"

/-! ## The releases of the Manager -/

inductive Refusal where
  | invalid (message : String)
  /-- `NoCompatibleRelease` -/
  | incompatible (message : String)
  deriving DecidableEq

/-- `version_tuple`, of a text -/
def versionTuple (version : Text) : Except Refusal (List Nat) :=
  if version.length ≤ 48 ∧ isVersion version then .ok (components version)
  else .error (.invalid "invalid stable version")

/-- A version and a revision that are there. -/
structure LocalPackage where
  version : Text
  revision : Nat
  deriving DecidableEq

structure Release where
  version : Text
  packagingRelease : Nat
  pageUrl : Text
  assetUrl : Text
  deriving DecidableEq

/-- The loop over the assets: the revisions and their downloads. -/
def findBinaries (tag version : Text) : List Value → List (Nat × Text) →
    Except Refusal (List (Nat × Text))
  | [], found => .ok found
  | asset :: assets, found =>
    match assetName? asset with
    | none => .error (.invalid "malformed asset")
    | some name =>
      match revisionOf version name with
      | none => findBinaries tag version assets found
      | some digits =>
        let url := downloadUrl tag name
        match asset.get "size" with
        | .int size =>
          if ¬ (asset.get "browser_download_url").equals (.string url) then
            .error (.invalid "invalid download")
          else if ¬ (asset.get "state").equals (.string (text "uploaded")) ∨ size ≤ 0 then
            .error (.incompatible "compatible download is incomplete")
          else findBinaries tag version assets (found ++ [(value digits, url)])
        | _ => .error (.invalid "invalid download")

/-- The order of the pairs: by the revision, and then by the text. -/
def exceeds (first second : Nat × Text) : Bool :=
  second.1 < first.1 || (first.1 = second.1 && second.2 < first.2)

/-- `max`, of a list that is not empty -/
def maxFound (first : Nat × Text) (rest : List (Nat × Text)) : Nat × Text :=
  rest.foldl (fun best item => if exceeds item best then item else best) first

/-- `Release.parse` -/
def Release.parse (data : Value) : Except Refusal Release :=
  match data.get "draft", data.get "prerelease" with
  | .bool draft, .bool prerelease =>
    if draft || prerelease then .error (.incompatible "not a stable public release")
    else
      match data.get "tag_name" with
      | .string tag => do
        let version := if (text "v").isPrefixOf tag then tag.tail else tag
        let _ ← versionTuple version
        if ¬ (data.get "html_url").equals (.string (Manager.pageUrl tag)) then
          .error (.invalid "untrusted release URL")
        else
          match data.get "assets" with
          | .list assets =>
            if 128 < assets.length then .error (.invalid "invalid assets")
            else do
              match ← findBinaries tag version assets [] with
              | [] => .error (.incompatible "no compatible RPM")
              | first :: rest =>
                if ¬ ((first :: rest).map Prod.fst).Nodup then
                  .error (.invalid "ambiguous compatible RPM")
                else
                  let best := maxFound first rest
                  .ok ⟨version, best.1, Manager.pageUrl tag, best.2⟩
          | _ => .error (.invalid "invalid assets")
      | _ => .error (.invalid "missing tag")
  | _, _ => .error (.invalid "malformed release status")

/-- `package_version` -/
def Release.packageVersion (release : Release) : Text :=
  release.version ++ text "-" ++ decimal release.packagingRelease ++ text ".fc44"

/-- `LocalPackage.from_status`, of both versions of a status.  No version has a hyphen, so the
expression matches where the text before the first hyphen is a version. -/
def LocalPackage.fromStatus (payloadVersion packageVersion : Text) : Except Refusal LocalPackage := do
  let _ ← versionTuple payloadVersion
  let version := packageVersion.takeWhile (· ≠ 45)
  match (packageVersion.drop (version.length + 1)).dropSuffix? (text ".fc44") with
  | some digits =>
    if packageVersion.length ≤ version.length ∨ ¬ isVersion version ∨ ¬ isPositive digits ∨
        version ≠ payloadVersion then
      .error (.invalid "verified package metadata unavailable")
    else .ok ⟨payloadVersion, value digits⟩
  | none => .error (.invalid "verified package metadata unavailable")

/-- `newer_than` -/
def Release.newerThan (release : Release) (package : LocalPackage) : Except Refusal Bool := do
  let candidate ← versionTuple release.version
  let installed ← versionTuple package.version
  pure (installed < candidate ||
    (installed = candidate && package.revision < release.packagingRelease))

end Goodix.Manager
