import Goodix.Manager.Release

/-! # What is published is discoverable

A release that passes the gate of a publication is one that the Manager offers, under the same
version and revision, and two of them are ordered by their numbers.
-/

namespace Goodix.Manager

open Decimals Values

variable {α β ε : Type} {tag version name digits : Text} {data asset binary : Value}
  {assets binaries : List Value} {names : List Text} {published : Published} {message : String}

/-! ## Checks -/

theorem require_ok {condition : Prop} [Decidable condition] {result : Unit} :
    require condition message = .ok result ↔ condition := by
  unfold require
  split
  · rename_i holds
    exact ⟨fun _ => holds, fun _ => rfl⟩
  · rename_i fails
    exact ⟨nofun, fun holds => absurd holds fails⟩

/-! ## Names -/

theorem dropPrefix_append (leading rest : Text) : (leading ++ rest).dropPrefix? leading = some rest := by
  rw [List.dropPrefix?_eq_some_iff]
  exact ⟨leading, rfl, by simp⟩

theorem revisionOf_eq_some : revisionOf version name = some digits ↔
    isRevision digits = true ∧ name = binaryPrefix version ++ (digits ++ binarySuffix) := by
  unfold revisionOf
  constructor
  · intro found
    split at found
    · rename_i rest dropped
      split at found
      · rename_i middle behind
        split at found
        · rename_i revision
          cases found
          obtain ⟨before, whole, same⟩ := List.dropPrefix?_eq_some_iff.mp dropped
          obtain ⟨after, parts, equal⟩ := List.dropSuffix?_eq_some_iff.mp behind
          rw [beq_iff_eq] at same equal
          exact ⟨revision, by rw [whole, parts, same, equal]⟩
        · cases found
      · cases found
    · cases found
  · rintro ⟨revision, rfl⟩
    have behind : (digits ++ binarySuffix).dropSuffix? binarySuffix = some digits := by
      rw [List.dropSuffix?_eq_some_iff]
      exact ⟨binarySuffix, rfl, by simp⟩
    simp only [dropPrefix_append, behind, revision, if_true]

/-- Whether an asset is the binary of a version. -/
def isBinary (version : Text) (asset : Value) : Bool :=
  match assetName? asset with
  | some name => (revisionOf version name).isSome
  | none => false

theorem isBinary_iff : isBinary version asset = true ↔
    ∃ name digits, assetName? asset = some name ∧ revisionOf version name = some digits := by
  unfold isBinary
  cases assetName? asset with
  | none => simp
  | some name => simp [Option.isSome_iff_exists]

/-! ## The gate -/

/-- The gate goes through all assets, and keeps the binaries. -/
theorem scanAssets_ok {result : List Text × List Value}
    (passed : scanAssets version assets names binaries = .ok result) :
    (∀ asset ∈ assets, ∃ name, assetName? asset = some name) ∧
      result.2 = binaries ++ assets.filter (isBinary version) := by
  induction assets generalizing names binaries with
  | nil =>
    cases passed
    exact ⟨by simp, by simp⟩
  | cons asset assets ih =>
    unfold scanAssets at passed
    cases named : assetName? asset with
    | none =>
      rw [named] at passed
      cases passed
    | some name =>
      rw [named] at passed
      by_cases known : name ∈ names
      · simp only [known, if_true] at passed
        cases passed
      · simp only [known, if_false] at passed
        obtain ⟨each, found⟩ := ih passed
        refine ⟨fun other inside => ?_, ?_⟩
        · obtain rfl | later := List.mem_cons.mp inside
          · exact ⟨name, named⟩
          · exact each other later
        · have same : isBinary version asset = (revisionOf version name).isSome := by
            simp only [isBinary, named]
          rw [found, List.filter_cons, same]
          cases (revisionOf version name).isSome <;> simp

/-- What an asset has to be for the gate, as far as the Manager looks at it too. -/
structure Uploaded (tag : Text) (asset : Value) : Prop where
  state : asset.get "state" = .string (text "uploaded")
  size : ∃ size, asset.get "size" = .int size ∧ 0 < size
  url : asset.get "browser_download_url" =
    .string (downloadUrl tag ((assetName? asset).getD []))

theorem checkAsset_ok (passed : checkAsset tag asset = .ok ()) : Uploaded tag asset := by
  simp only [checkAsset, bind_ok, require_ok, Value.equals_string] at passed
  obtain ⟨-, state, -, sized, -, -, url⟩ := passed
  refine ⟨state, ?_, url⟩
  unfold hasSize at sized
  split at sized
  · rename_i size found
    exact ⟨size, found, of_decide_eq_true sized⟩
  · cases sized

/-- What the gate has seen of a release that it lets pass. -/
structure Passes (data : Value) (published : Published) (tag : Text) (assets : List Value) :
    Prop where
  draft : data.get "draft" = .bool false
  prerelease : data.get "prerelease" = .bool false
  tagged : data.get "tag_name" = .string tag
  length : tag.length ≤ 49
  stable : isTag tag = true
  page : data.get "html_url" = .string (pageUrl tag)
  listed : data.get "assets" = .list assets
  few : assets.length ≤ 128
  named : ∀ asset ∈ assets, ∃ name, assetName? asset = some name
  binaries : assets.filter (isBinary tag.tail) = [published.binary]
  uploaded : Uploaded tag published.binary
  version : published.version = tag.tail
  revision : published.revision =
    (((((assetName? published.binary).getD []).dropPrefix? (binaryPrefix tag.tail)).getD
      ((assetName? published.binary).getD [])).splitOn stop).headD []

theorem releaseAssets_ok (passed : releaseAssets .released data = .ok published) :
    ∃ tag assets, Passes data published tag assets := by
  unfold releaseAssets at passed
  simp only [bind_ok, require_ok, Value.isBool_iff, reduceCtorEq, decide_false] at passed
  obtain ⟨-, -, -, draft, -, prerelease, passed⟩ := passed
  split at passed
  · rename_i tag tagged
    simp only [bind_ok, require_ok, Value.equals_string] at passed
    obtain ⟨-, ⟨length, stable⟩, -, page, passed⟩ := passed
    split at passed
    · rename_i assets listed
      simp only [bind_ok, require_ok] at passed
      obtain ⟨-, few, ⟨names, binaries⟩, scanned, passed⟩ := passed
      obtain ⟨named, found⟩ := scanAssets_ok scanned
      dsimp only at passed found
      unfold publishedPair at passed
      split at passed
      · dsimp only at passed
        split at passed
        · simp only [bind_ok, require_ok] at passed
          obtain ⟨⟨⟩, -, ⟨⟩, checked, ⟨⟩, -, passed⟩ := passed
          cases passed
          exact ⟨tag, assets, {
            draft, prerelease, tagged, length, stable, page, listed, few, named
            binaries := by simpa using found.symm
            uploaded := checkAsset_ok checked
            version := rfl
            revision := rfl }⟩
        · cases passed
      · cases passed
    · cases passed
  · cases passed

/-! ## The Manager -/

/-- What the Manager notes of a binary. -/
def noted (tag version : Text) (asset : Value) : Nat × Text :=
  (value ((revisionOf version ((assetName? asset).getD [])).getD []),
    downloadUrl tag ((assetName? asset).getD []))

/-- Where all binaries are uploaded, the Manager finds them all. -/
theorem findBinaries_ok {found : List (Nat × Text)}
    (named : ∀ asset ∈ assets, ∃ name, assetName? asset = some name)
    (uploaded : ∀ asset ∈ assets.filter (isBinary version), Uploaded tag asset) :
    findBinaries tag version assets found =
      .ok (found ++ (assets.filter (isBinary version)).map (noted tag version)) := by
  induction assets generalizing found with
  | nil => simp [findBinaries]
  | cons asset assets ih =>
    obtain ⟨name, known⟩ := named asset List.mem_cons_self
    have later := fun other inside => named other (List.mem_cons_of_mem asset inside)
    have same : isBinary version asset = (revisionOf version name).isSome := by
      simp only [isBinary, known]
    unfold findBinaries
    simp only [known]
    cases revision : revisionOf version name with
    | none =>
      have other : ¬ isBinary version asset = true := by simp [same, revision]
      rw [List.filter_cons_of_neg other] at uploaded ⊢
      exact ih later uploaded
    | some digits =>
      have binary : isBinary version asset = true := by simp [same, revision]
      rw [List.filter_cons_of_pos binary] at uploaded ⊢
      obtain ⟨state, ⟨size, sized, positive⟩, url⟩ := uploaded asset List.mem_cons_self
      rw [known, Option.getD_some] at url
      have fits : ¬ size ≤ 0 := by omega
      simp only [sized, url, state, Value.equals_string, not_true_eq_false, false_or, if_false, fits]
      rw [ih later fun other inside => uploaded other (List.mem_cons_of_mem asset inside)]
      simp [noted, known, revision]

/-! ## Versions and revisions -/

theorem isTag_iff : isTag tag = true ↔ ∃ version, tag = 118 :: version ∧ isVersion version = true := by
  unfold isTag
  split
  · simp
  · rename_i other
    refine ⟨nofun, ?_⟩
    rintro ⟨version, rfl, -⟩
    exact absurd rfl (other version)

theorem versionTuple_ok (fits : version.length ≤ 48) (stable : isVersion version = true) :
    versionTuple version = .ok (components version) := by
  unfold versionTuple
  rw [if_pos ⟨fits, stable⟩]

/-- The text before the first full stop of what follows the version is the revision. -/
theorem revision_text (revision : isRevision digits = true) :
    ((((binaryPrefix version ++ (digits ++ binarySuffix)).dropPrefix? (binaryPrefix version)).getD
      (binaryPrefix version ++ (digits ++ binarySuffix))).splitOn stop).headD [] = digits := by
  have positive : isPositive digits = true := by
    simp only [isRevision, Bool.and_eq_true] at revision
    exact revision.1
  have free : stop ∉ digits := by
    intro inside
    cases List.all_eq_true.mp (digits_of_positive positive) stop inside
  have begins : binarySuffix = stop :: text "fc44.x86_64.rpm" := by decide
  rw [dropPrefix_append, Option.getD_some, begins, List.splitOn_append_cons_self_of_not_mem free]
  rfl

/-- A release is offered under the version and the revision it was published with, and from where
its binary is. -/
structure Offers (published : Published) (release : Release) : Prop where
  version : release.version = published.version
  revision : published.revision = decimal release.packagingRelease
  url : published.binary.get "browser_download_url" = .string release.assetUrl
  length : release.version.length ≤ 48
  stable : isVersion release.version = true
  positive : 0 < release.packagingRelease

/-- Every release that passes the gate is one for the Manager. -/
theorem parse_of_passes (passes : Passes data published tag assets) :
    ∃ release, Release.parse data = .ok release ∧ Offers published release := by
  obtain ⟨version, rfl, stable⟩ := isTag_iff.mp passes.stable
  have fits : version.length ≤ 48 := by
    have := passes.length
    simp only [List.length_cons] at this
    omega
  have binary : published.binary ∈ assets.filter (isBinary version) := by
    rw [show assets.filter (isBinary version) = [published.binary] from passes.binaries]
    exact List.mem_singleton_self _
  obtain ⟨name, digits, named, revision⟩ := isBinary_iff.mp (List.mem_filter.mp binary).2
  obtain ⟨proper, rfl⟩ := revisionOf_eq_some.mp revision
  have positive : isPositive digits = true := by
    simp only [isRevision, Bool.and_eq_true] at proper
    exact proper.1
  have found := @findBinaries_ok (118 :: version) version assets [] passes.named (by
    intro asset inside
    rw [show assets.filter (isBinary version) = [published.binary] from passes.binaries] at inside
    rw [List.mem_singleton.mp inside]
    exact passes.uploaded)
  rw [show assets.filter (isBinary version) = [published.binary] from passes.binaries] at found
  have url := passes.uploaded.url
  have text_ := passes.revision
  simp only [noted, named, Option.getD_some, revision, List.map_cons, List.map_nil,
    List.nil_append, List.tail_cons, revision_text proper] at found url text_
  refine ⟨⟨version, value digits, pageUrl (118 :: version), _⟩, ?_, passes.version.symm, ?_, url, fits,
    stable, value_positive positive⟩
  · have leads : (text "v").isPrefixOf (118 :: version) = true := rfl
    unfold Release.parse
    simp only [passes.draft, passes.prerelease, passes.tagged, passes.page, passes.listed, leads,
      if_true, List.tail_cons, Bool.or_self, Bool.false_eq_true, if_false, Value.equals_string,
      not_true_eq_false]
    rw [versionTuple_ok fits stable]
    have few : ¬ 128 < assets.length := by
      have := passes.few
      omega
    show (if 128 < assets.length then _ else _) = _
    rw [if_neg few, found]
    simp only [bind, Except.bind, List.map_cons, List.map_nil]
    have alone : [value digits].Nodup := List.pairwise_singleton _ _
    rw [if_neg (not_not.mpr alone)]
    rfl
  · rw [text_, decimal_value positive]

/-! ## The order of releases -/

/-- The numbers of a release. -/
structure Numbers where
  major : Nat
  minor : Nat
  patch : Nat
  revision : Nat

/-- The order of the numbers, from the first to the last. -/
def Numbers.Below (first second : Numbers) : Prop :=
  first.major < second.major ∨ first.major = second.major ∧
    (first.minor < second.minor ∨ first.minor = second.minor ∧
      (first.patch < second.patch ∨ first.patch = second.patch ∧ first.revision < second.revision))

instance (first second : Numbers) : Decidable (first.Below second) :=
  inferInstanceAs (Decidable (_ ∨ _))

/-- A release bears its numbers. -/
structure Release.Bears (release : Release) (numbers : Numbers) : Prop where
  version : release.version = dotted numbers.major numbers.minor numbers.patch
  revision : release.packagingRelease = numbers.revision

theorem Offers.bears {release : Release} (offers : Offers published release) :
    ∃ numbers, release.Bears numbers := by
  obtain ⟨major, minor, patch, version⟩ := isVersion_iff.mp offers.stable
  exact ⟨⟨major, minor, patch, release.packagingRelease⟩, version, rfl⟩

theorem below_lists {first second : Numbers} :
    ([first.major, first.minor, first.patch] < [second.major, second.minor, second.patch] ∨
      [first.major, first.minor, first.patch] = [second.major, second.minor, second.patch] ∧
        first.revision < second.revision) ↔ first.Below second := by
  simp only [lower_iff, Lower, List.cons.injEq, and_true, Numbers.Below]
  omega

/-- The package that a release is installed as. -/
def Release.installed (release : Release) : LocalPackage := ⟨release.version, release.packagingRelease⟩

/-- A release is newer than another if its numbers are higher. -/
theorem newerThan_numbers {candidate installed : Release} {high low : Numbers}
    (first : candidate.Bears high) (second : installed.Bears low)
    (fits : candidate.version.length ≤ 48) (short : installed.version.length ≤ 48) :
    candidate.newerThan installed.installed = .ok (decide (low.Below high)) := by
  have stable (numbers : Numbers) : isVersion (dotted numbers.major numbers.minor numbers.patch) = true :=
    isVersion_iff.mpr ⟨_, _, _, rfl⟩
  have left : versionTuple candidate.version = .ok [high.major, high.minor, high.patch] := by
    rw [versionTuple_ok fits (first.version ▸ stable high), first.version, components_dotted]
  have right : versionTuple installed.version = .ok [low.major, low.minor, low.patch] := by
    rw [versionTuple_ok short (second.version ▸ stable low), second.version, components_dotted]
  unfold Release.newerThan
  simp only [Release.installed, left, right, first.revision, second.revision, bind, Except.bind, pure,
    Except.pure, Except.ok.injEq]
  rw [← Bool.coe_iff_coe]
  simp only [Bool.or_eq_true, Bool.and_eq_true, decide_eq_true_eq]
  exact below_lists

theorem no_hyphen (stable : isVersion version = true) : ∀ point ∈ version, point ≠ 45 := by
  obtain ⟨major, minor, patch, rfl⟩ := isVersion_iff.mp stable
  have digits (number : Nat) : ∀ point ∈ decimal number, point ≠ 45 := by
    rintro point inside rfl
    cases List.all_eq_true.mp (digits_of_numeral (isNumeral_decimal number)) 45 inside
  intro point inside
  simp only [dotted, List.mem_append, List.mem_cons] at inside
  obtain (first | rfl | second) | rfl | third := inside
  · exact digits _ _ first
  · decide
  · exact digits _ _ second
  · decide
  · exact digits _ _ third

/-- The status of an installed release says which it is. -/
theorem fromStatus_installed {release : Release} (offers : Offers published release) :
    LocalPackage.fromStatus release.version release.packageVersion = .ok release.installed := by
  have whole : release.packageVersion =
      release.version ++ 45 :: (decimal release.packagingRelease ++ text ".fc44") := by
    simp [Release.packageVersion, show text "-" = [45] from rfl]
  have version : release.packageVersion.takeWhile (· ≠ 45) = release.version := by
    rw [whole, List.takeWhile_append_of_pos (by simpa using no_hyphen offers.stable)]
    simp
  have behind : (release.packageVersion.drop (release.version.length + 1)).dropSuffix?
      (text ".fc44") = some (decimal release.packagingRelease) := by
    rw [whole, List.dropSuffix?_eq_some_iff]
    refine ⟨text ".fc44", ?_, by simp⟩
    rw [← List.drop_drop, List.drop_left, List.drop_succ_cons, List.drop_zero]
  have long : ¬ release.packageVersion.length ≤ release.version.length := by
    rw [whole, List.length_append, List.length_cons]
    omega
  unfold LocalPackage.fromStatus
  rw [versionTuple_ok offers.length offers.stable]
  simp only [bind, Except.bind, version, behind]
  rw [if_neg (by simp [long, offers.stable, isPositive_decimal offers.positive]), value_decimal]
  rfl

/-! ## Discovery -/

/-- Every release that may be published is one that the Manager offers, and of two such releases the
Manager takes the one with the higher numbers for the newer. -/
theorem published_is_discoverable {data other : Value} {published later : Published}
    (passed : releaseAssets .released data = .ok published)
    (passed_too : releaseAssets .released other = .ok later) :
    ∃ release candidate numbers higher,
      Release.parse data = .ok release ∧ Offers published release ∧ release.Bears numbers ∧
      Release.parse other = .ok candidate ∧ Offers later candidate ∧ candidate.Bears higher ∧
      LocalPackage.fromStatus release.version release.packageVersion = .ok release.installed ∧
      candidate.newerThan release.installed = .ok (decide (numbers.Below higher)) := by
  obtain ⟨tag, assets, passes⟩ := releaseAssets_ok passed
  obtain ⟨release, parsed, offers⟩ := parse_of_passes passes
  obtain ⟨numbers, bears⟩ := offers.bears
  obtain ⟨tag, assets, passes⟩ := releaseAssets_ok passed_too
  obtain ⟨candidate, parsed_too, offers_too⟩ := parse_of_passes passes
  obtain ⟨higher, bears_too⟩ := offers_too.bears
  exact ⟨release, candidate, numbers, higher, parsed, offers, bears, parsed_too, offers_too, bears_too,
    fromStatus_installed offers, newerThan_numbers bears_too bears offers_too.length offers.length⟩

/-- An uploaded asset of a release. -/
def sampleAsset (tag name : String) : Value := .dict
  [(text "name", .string (text name)), (text "state", .string (text "uploaded")), (text "size", .int 1),
    (text "digest", .string (text "sha256:" ++ List.replicate 64 48)),
    (text "browser_download_url", .string (downloadUrl (text tag) (text name)))]

/-- A release of a binary and its source. -/
def sampleRelease (tag binary source : String) : Value := .dict
  [(text "draft", .bool false), (text "prerelease", .bool false),
    (text "tag_name", .string (text tag)), (text "html_url", .string (pageUrl (text tag))),
    (text "assets", .list [sampleAsset tag source, sampleAsset tag binary])]

/-- 3.0.10 is offered to 3.0.9. -/
theorem published_is_discoverable_ten :
    ∃ release candidate numbers higher,
      Release.parse (sampleRelease "v3.0.9" "goodix-manager-3.0.9-1.fc44.x86_64.rpm"
        "goodix-manager-3.0.9-1.fc44.src.rpm") = .ok release ∧
      Release.parse (sampleRelease "v3.0.10" "goodix-manager-3.0.10-1.fc44.x86_64.rpm"
        "goodix-manager-3.0.10-1.fc44.src.rpm") = .ok candidate ∧
      release.Bears numbers ∧ candidate.Bears higher ∧
      candidate.newerThan release.installed = .ok (decide (numbers.Below higher)) := by
  have first : (releaseAssets .released (sampleRelease "v3.0.9"
      "goodix-manager-3.0.9-1.fc44.x86_64.rpm"
      "goodix-manager-3.0.9-1.fc44.src.rpm")).isOk = true := by decide +kernel
  have second : (releaseAssets .released (sampleRelease "v3.0.10"
      "goodix-manager-3.0.10-1.fc44.x86_64.rpm"
      "goodix-manager-3.0.10-1.fc44.src.rpm")).isOk = true := by decide +kernel
  obtain ⟨published, passed⟩ := exists_ok first
  obtain ⟨later, passed_too⟩ := exists_ok second
  obtain ⟨release, candidate, numbers, higher, parsed, -, bears, parsed_too, -, bears_too, -, newer⟩ :=
    published_is_discoverable passed passed_too
  exact ⟨release, candidate, numbers, higher, parsed, parsed_too, bears, bears_too, newer⟩

end Goodix.Manager
