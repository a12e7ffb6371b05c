import Goodix.TargetMaterial.Manifest

/-! # The manifest of a device bundle, as the installer reads it

`parse_manifest` of the installer goes through a JSON library.  Its manifest and the one
of the driver are of one grammar, but for a text without its closing brace, which only the
loop of the driver takes.
-/

namespace Goodix.Deployment

open Json TargetMaterial

/-- `IDENTITY` -/
def identity : List (List UInt8 × List UInt8) :=
  [(ascii "schema", ascii "goodix-5125-device-materials-v1"), (ascii "vid", ascii "27c6"),
    (ascii "pid", ascii "5125"), (ascii "app", ascii "GF_ST411SEC_APP_12509")]

/-- `HASH_FIELDS` -/
def hashFields : List (List UInt8) :=
  [ascii "transport_sha256", ascii "config90_sha256", ascii "fdt_cache_sha256",
    ascii "a2_response_sha256", ascii "chip82_response_sha256", ascii "otp_a6_response_sha256"]

def hashField (index : Fin 6) : List UInt8 := hashFields.get index

/-- `unique` accepts the pairs of an object whose names differ. -/
def unique (pairs : Json.Pairs) : Bool := decide (pairs.map Prod.fst).Nodup

/-- `re.fullmatch('[0-9a-fA-F]{64}', …)` -/
def matchesDigest (text : List UInt8) : Bool :=
  text.length = 64 && text.all fun octet =>
    0x30 ≤ octet && octet ≤ 0x39 || 0x61 ≤ octet && octet ≤ 0x66 || 0x41 ≤ octet && octet ≤ 0x46

/-- `set(value) == set(IDENTITY) | set(HASH_FIELDS)` -/
def hasFields (value : Json.Pairs) : Bool :=
  let fields := identity.map Prod.fst ++ hashFields
  value.all (fun pair => fields.contains pair.1) &&
    fields.all fun field => (value.map Prod.fst).contains field

/-- `value[key] == expected` -/
def isField (value : Json.Pairs) (pair : List UInt8 × List UInt8) : Bool :=
  match value.lookup pair.1 with
  | some (.string text) => text = pair.2
  | _ => false

/-- `isinstance(value[key], str) and re.fullmatch('[0-9a-fA-F]{64}', value[key])` -/
def isDigestField (value : Json.Pairs) (key : List UInt8) : Bool :=
  match value.lookup key with
  | some (.string text) => matchesDigest text
  | _ => false

/-- `parse_manifest`; an accepted manifest is the dictionary of its fields. -/
def parseManifest (data : List UInt8) : Option Json.Pairs :=
  if !(1 ≤ data.length && data.length ≤ 4096 && !data.contains backslash && !data.contains 0) then
    none
  -- `data.decode('ascii')`
  else if data.any (0x80 ≤ ·) then none
  else
    match loads unique data with
    | some (.object value) =>
      if !hasFields value then none
      else if !identity.all (isField value) then none
      else if !hashFields.all (isDigestField value) then none
      else some value
    | _ => none

/-- The installer accepts the manifest, with these digests. -/
def Accepts (data : List UInt8) (hashes : Fin 6 → Digest) : Prop :=
  ∃ value, parseManifest data = some value ∧
    ∀ index, ∃ text, value.lookup (hashField index) = some (.string text) ∧
      IsDigest text (hashes index)

/-! ## What the installer accepts -/

theorem fields_eq : identity.map Prod.fst ++ hashFields = keys := rfl

theorem hashField_eq (index : Fin 6) : hashField index = keyAt (hashIndex index) := by
  revert index
  decide +kernel

theorem matchesDigest_iff {text : List UInt8} :
    matchesDigest text = true ↔ text.length = 64 ∧ ∀ octet ∈ text, isXdigit octet = true := by
  simp only [matchesDigest, Bool.and_eq_true, decide_eq_true_eq, List.all_eq_true, isXdigit]

theorem xdigitValue_some {octet : UInt8} (digit : isXdigit octet = true) :
    ∃ value, xdigitValue octet = some value := by
  simp only [isXdigit, Bool.or_eq_true] at digit
  unfold xdigitValue
  split
  · exact ⟨_, rfl⟩
  split
  · exact ⟨_, rfl⟩
  split
  · exact ⟨_, rfl⟩
  · simp_all

theorem hexOctets_some {text : List UInt8} {count : Nat} (length : text.length = 2 * count)
    (digits : ∀ octet ∈ text, isXdigit octet = true) :
    ∃ octets, hexOctets text = some octets ∧ octets.length = count := by
  induction count generalizing text with
  | zero =>
    obtain rfl := List.length_eq_zero_iff.mp length
    exact ⟨[], rfl, rfl⟩
  | succ count ih =>
    match text with
    | [] | [_] =>
      simp only [List.length_nil, List.length_singleton] at length
      omega
    | first :: second :: rest =>
      simp only [List.length_cons] at length
      obtain ⟨octets, read, sized⟩ := ih (by omega : rest.length = _) fun octet inside =>
        digits octet (by simp [inside])
      obtain ⟨high, isHigh⟩ := xdigitValue_some (digits first (by simp))
      obtain ⟨low, isLow⟩ := xdigitValue_some (digits second (by simp))
      refine ⟨(high <<< 4 ||| low) :: octets, ?_, by simp [sized]⟩
      simp only [hexOctets, isHigh, isLow, read, Option.map_some]

/-- 64 hexadecimal digits stand for a digest. -/
theorem exists_digest {text : List UInt8} (length : text.length = 64)
    (digits : ∀ octet ∈ text, isXdigit octet = true) : ∃ digest, IsDigest text digest := by
  obtain ⟨octets, read, sized⟩ := hexOctets_some (by omega : text.length = 2 * 32) digits
  refine ⟨⟨octets, sized⟩, length, digits, ?_⟩
  unfold hexDigest
  rw [if_neg (by simp [length]), read]
  exact Octets.Block.ofList?_val ⟨octets, sized⟩

theorem isField_iff {value : Json.Pairs} {pair : List UInt8 × List UInt8} :
    isField value pair = true ↔ value.lookup pair.1 = some (.string pair.2) := by
  unfold isField
  split
  · rename_i text found
    simp [found]
  · rename_i other
    simp only [Bool.false_eq_true, false_iff]
    exact other pair.2

theorem isDigestField_iff {value : Json.Pairs} {key : List UInt8} :
    isDigestField value key = true ↔
      ∃ text, value.lookup key = some (.string text) ∧ matchesDigest text = true := by
  unfold isDigestField
  split
  · rename_i text found
    simp [found]
  · rename_i other
    simp only [Bool.false_eq_true, false_iff, not_exists, not_and]
    exact fun text found => absurd found (other text)

theorem hasFields_iff {value : Json.Pairs} :
    hasFields value = true ↔ ∀ key, key ∈ value.map Prod.fst ↔ key ∈ keys := by
  simp only [hasFields, fields_eq, Bool.and_eq_true, List.all_eq_true, List.contains_iff_mem]
  constructor
  · rintro ⟨known, complete⟩ key
    refine ⟨fun inside => ?_, complete key⟩
    obtain ⟨pair, member, rfl⟩ := List.mem_map.mp inside
    exact known pair member
  · intro same
    exact ⟨fun pair inside => (same _).mp (List.mem_map.mpr ⟨pair, inside, rfl⟩),
      fun key => (same key).mpr⟩

theorem identityOf_app12509 {app : List UInt8} :
    identityOf app = some LivePreflight.app12509Identity ↔ app = ascii "GF_ST411SEC_APP_12509" := by
  have differs : LivePreflight.app12508Identity ≠ LivePreflight.app12509Identity := by decide
  unfold identityOf
  split
  · rename_i same
    simp [same]
  · rename_i other
    split
    · simp [other, differs]
    · simp [other]

/-- What the installer has checked when it accepts a manifest. -/
theorem parseManifest_parts {data : List UInt8} {value : Json.Pairs}
    (parsed : parseManifest data = some value) :
    (1 ≤ data.length ∧ data.length ≤ 4096) ∧ loads unique data = some (.object value) ∧
      (∀ key, key ∈ value.map Prod.fst ↔ key ∈ keys) ∧
      (∀ pair ∈ identity, value.lookup pair.1 = some (.string pair.2)) ∧
      ∀ key ∈ hashFields, ∃ text, value.lookup key = some (.string text) ∧
        matchesDigest text = true := by
  unfold parseManifest at parsed
  split at parsed
  · cases parsed
  rename_i plain
  split at parsed
  · cases parsed
  split at parsed
  · rename_i found loaded
    split at parsed
    · cases parsed
    rename_i fields
    split at parsed
    · cases parsed
    rename_i fixed
    split at parsed
    · cases parsed
    rename_i hashed
    cases parsed
    simp only [Bool.not_eq_true, Bool.not_eq_false', Bool.and_eq_true, decide_eq_true_eq] at plain
    simp only [Bool.not_eq_true, Bool.not_eq_false', List.all_eq_true] at fields fixed hashed
    exact ⟨plain.1.1, loaded, hasFields_iff.mp fields,
      fun pair inside => isField_iff.mp (fixed pair inside),
      fun key inside => isDigestField_iff.mp (hashed key inside)⟩
  · cases parsed

/-- The fields of an accepted manifest are strings, each there once. -/
theorem parseManifest_strings {data : List UInt8} {value : Json.Pairs}
    (parsed : parseManifest data = some value) :
    ∃ pairs, value = strings pairs ∧ (pairs.map Prod.fst).Perm keys ∧ IsObject pairs data := by
  obtain ⟨-, loaded, complete, fixed, hashed⟩ := parseManifest_parts parsed
  have nonempty : value ≠ [] := by
    rintro rfl
    have listed := (complete (ascii "schema")).mpr (by decide +kernel)
    cases listed
  have once : (value.map Prod.fst).Nodup := by
    simpa [unique] using loads_admits unique nonempty loaded
  have valued : ∀ pair ∈ value, ∃ text, pair.2 = .string text := by
    intro pair inside
    have found := (lookup_iff once).mpr inside
    have known := (complete pair.1).mp (List.mem_map.mpr ⟨pair, inside, rfl⟩)
    rw [← fields_eq, List.mem_append] at known
    cases known with
    | inl ofIdentity =>
      obtain ⟨expected, listed, same⟩ := List.mem_map.mp ofIdentity
      have looked := fixed expected listed
      rw [same, found] at looked
      exact ⟨expected.2, Option.some.inj looked⟩
    | inr ofHash =>
      obtain ⟨text, looked, -⟩ := hashed pair.1 ofHash
      rw [found] at looked
      exact ⟨text, Option.some.inj looked⟩
  obtain ⟨pairs, rfl⟩ := exists_strings valued
  rw [map_fst_strings] at once complete
  have some_pairs : pairs ≠ [] := by
    rintro rfl
    exact nonempty rfl
  exact ⟨pairs, rfl, (List.perm_ext_iff_of_nodup once keys_nodup).mpr complete,
    ((loads_strings unique some_pairs).mp loaded).1⟩

/-- The installer accepts the manifests of the newer application, of up to 4096 octets. -/
theorem accepts_iff {data : List UInt8} {hashes : Fin 6 → Digest} :
    Accepts data hashes ↔ (1 ≤ data.length ∧ data.length ≤ 4096) ∧
      IsManifest ⟨LivePreflight.app12509Identity, hashes⟩ data := by
  have looked {pairs : List (List UInt8 × List UInt8)} {key text : List UInt8}
      (once : (pairs.map Prod.fst).Nodup) :
      (strings pairs).lookup key = some (.string text) ↔ (key, text) ∈ pairs := by
    rw [lookup_iff (by rwa [map_fst_strings]), mem_strings]
  constructor
  · rintro ⟨value, parsed, digests⟩
    obtain ⟨pairs, rfl, perm, isObject⟩ := parseManifest_strings parsed
    obtain ⟨bounded, -, -, fixed, -⟩ := parseManifest_parts parsed
    have once := perm.nodup_iff.mpr keys_nodup
    have field (pair : List UInt8 × List UInt8) (listed : pair ∈ identity) : pair ∈ pairs :=
      (looked once).mp (fixed pair listed)
    refine ⟨bounded, pairs, isObject, perm, field _ (by simp [identity]),
      field _ (by simp [identity]), field _ (by simp [identity]),
      ⟨_, field (ascii "app", ascii "GF_ST411SEC_APP_12509") (by simp [identity]),
        identityOf_app12509.mpr rfl⟩, fun index => ?_⟩
    obtain ⟨text, found, digest⟩ := digests index
    rw [hashField_eq] at found
    exact ⟨text, (looked once).mp found, digest⟩
  · rintro ⟨⟨some_data, bounded⟩, isManifest⟩
    have admitted := isManifest.admitted
    obtain ⟨pairs, isObject, lists⟩ := isManifest
    have once := lists.once.nodup_iff.mpr keys_nodup
    have some_pairs : pairs ≠ [] := by
      rintro rfl
      cases lists.schema
    have loaded : loads unique data = some (.object (strings pairs)) :=
      (loads_strings unique some_pairs).mpr ⟨isObject, by simpa [unique, map_fst_strings] using once⟩
    have plain (octet : UInt8) (refused : isAdmitted octet = false) : octet ∉ data := by
      intro inside
      rw [admitted octet inside] at refused
      cases refused
    have ascii_only : data.any (0x80 ≤ ·) = false := by
      refine List.any_eq_false.mpr fun octet inside => ?_
      have small := admitted octet inside
      simp only [isAdmitted, Bool.and_eq_true, decide_eq_true_eq] at small
      simpa using small.2
    have fields : hasFields (strings pairs) = true :=
      hasFields_iff.mpr fun key => by rw [map_fst_strings, lists.once.mem_iff]
    have fixed : identity.all (isField (strings pairs)) = true := by
      obtain ⟨app, listed, known⟩ := lists.app
      rw [identityOf_app12509.mp known] at listed
      simp only [identity, List.all_cons, List.all_nil, Bool.and_true, Bool.and_eq_true,
        isField_iff, looked once]
      exact ⟨lists.schema, lists.vid, lists.pid, listed⟩
    have hashed : hashFields.all (isDigestField (strings pairs)) = true := by
      refine List.all_eq_true.mpr fun key inside => ?_
      obtain ⟨index, rfl⟩ := List.mem_iff_get.mp inside
      obtain ⟨text, listed, digest⟩ := lists.hashes index
      refine isDigestField_iff.mpr ⟨text, (looked once).mpr ?_, ?_⟩
      · rw [show hashFields.get index = keyAt (hashIndex index) from hashField_eq index]
        exact listed
      · exact matchesDigest_iff.mpr ⟨digest.length, digest.digits⟩
    refine ⟨strings pairs, ?_, fun index => ?_⟩
    · unfold parseManifest
      rw [if_neg, ascii_only]
      · simp [loaded, fields, fixed, hashed]
      · simp [some_data, bounded, plain backslash rfl, plain 0 rfl]
    · obtain ⟨text, listed, digest⟩ := lists.hashes index
      rw [hashField_eq]
      exact ⟨text, (looked once).mpr listed, digest⟩

/-- What the installer accepts has digests. -/
theorem exists_accepts {data : List UInt8} (parsed : (parseManifest data).isSome = true) :
    ∃ hashes, Accepts data hashes := by
  obtain ⟨value, parsed⟩ := Option.isSome_iff_exists.mp parsed
  obtain ⟨-, -, -, -, hashed⟩ := parseManifest_parts parsed
  have digests (index : Fin 6) : ∃ text digest,
      value.lookup (hashField index) = some (.string text) ∧ IsDigest text digest := by
    obtain ⟨text, looked, matched⟩ := hashed (hashField index) (List.get_mem _ _)
    obtain ⟨length, digits⟩ := matchesDigest_iff.mp matched
    obtain ⟨digest, isDigest⟩ := exists_digest length digits
    exact ⟨text, digest, looked, isDigest⟩
  choose text hashes looked isDigest using digests
  exact ⟨hashes, value, parsed, fun index => ⟨text index, looked index, isDigest index⟩⟩

/-! ## The two parsers -/

/-- An object ends with its brace, so it is no text that breaks off behind a comma. -/
theorem IsObject_closed {pairs : List (List UInt8 × List UInt8)} {bytes : List UInt8}
    (isObject : IsObject pairs bytes) : lastSolid bytes = some closeBrace := by
  obtain ⟨inside, first, last, opens, spaced, members, ends⟩ := isObject
  have behind := (List.suffix_cons openBrace inside).trans opens.suffix
  exact lastSolid_suffix (by decide) ends
    (members.suffix.trans (spaced.suffix.trans behind))

theorem OpenEnded_comma {manifest : Manifest} {bytes : List UInt8}
    (openEnded : OpenEnded manifest bytes) : lastSolid bytes = some comma := by
  obtain ⟨pairs, inside, first, last, opens, spaced, members, ends, -⟩ := openEnded
  have behind := (List.suffix_cons openBrace inside).trans opens.suffix
  exact lastSolid_suffix (by decide) ends
    (members.suffix.trans (spaced.suffix.trans behind))

theorem openEnded_no_manifest {manifest other : Manifest} {bytes : List UInt8}
    (openEnded : OpenEnded manifest bytes) : ¬ IsManifest other bytes := by
  rintro ⟨pairs, isObject, -⟩
  have closed := IsObject_closed isObject
  rw [OpenEnded_comma openEnded] at closed
  cases closed

/-- The driver accepts the texts that are a manifest and no others, and the installer those of them
that name the newer application, with the same digests. -/
structure ParsersAgree (bytes : List UInt8) : Prop where
  driver : ∀ manifest, TargetMaterial.parseManifest bytes = some manifest ↔
    IsManifest manifest bytes
  installer : ∀ hashes, Accepts bytes hashes ↔
    TargetMaterial.parseManifest bytes = some ⟨LivePreflight.app12509Identity, hashes⟩
  accepted : (parseManifest bytes).isSome = true ↔
    ∃ hashes, TargetMaterial.parseManifest bytes = some ⟨LivePreflight.app12509Identity, hashes⟩

/-- The parsers agree on every text but those whose object breaks off behind a comma. -/
theorem parsers_agree_iff_closed (bytes : List UInt8)
    (sized : 1 ≤ bytes.length ∧ bytes.length ≤ 4096) :
    ParsersAgree bytes ↔ ¬ ∃ manifest, OpenEnded manifest bytes := by
  constructor
  · rintro ⟨driver, -, -⟩ ⟨manifest, openEnded⟩
    have isManifest := (driver manifest).mp (parseManifest_iff.mpr (.inr openEnded))
    exact openEnded_no_manifest openEnded isManifest
  · intro closed
    have driver (manifest : Manifest) :
        TargetMaterial.parseManifest bytes = some manifest ↔ IsManifest manifest bytes := by
      rw [parseManifest_iff]
      exact or_iff_left fun openEnded => closed ⟨manifest, openEnded⟩
    have installer (hashes : Fin 6 → Digest) : Accepts bytes hashes ↔
        TargetMaterial.parseManifest bytes = some ⟨LivePreflight.app12509Identity, hashes⟩ := by
      rw [driver, accepts_iff]
      exact and_iff_right sized
    refine ⟨driver, installer, fun parsed => ?_, fun ⟨hashes, parsed⟩ => ?_⟩
    · obtain ⟨hashes, accepts⟩ := exists_accepts parsed
      exact ⟨hashes, (installer hashes).mp accepts⟩
    · obtain ⟨value, accepted, -⟩ := (installer hashes).mpr parsed
      rw [accepted]
      rfl

/-- The text of a manifest, up to what follows its last member. -/
def plainMembers : List UInt8 :=
  ascii "\x7b\"schema\":\"goodix-5125-device-materials-v1\",\"vid\":\"27c6\",\"pid\":\"5125\"," ++
    ascii "\"app\":\"GF_ST411SEC_APP_12509\"" ++
    hashFields.flatMap fun field =>
      ascii ",\"" ++ field ++ ascii "\":\"" ++ List.replicate 64 0x61 ++ ascii "\""

theorem parsers_agree_iff_closed_braced :
    (1 ≤ (plainMembers ++ [closeBrace]).length ∧ (plainMembers ++ [closeBrace]).length ≤ 4096) ∧
      (ParsersAgree (plainMembers ++ [closeBrace]) ↔
        ¬ ∃ manifest, OpenEnded manifest (plainMembers ++ [closeBrace])) :=
  ⟨by decide +kernel, parsers_agree_iff_closed _ (by decide +kernel)⟩

/-- The driver accepts ten members and a comma, which are no object. -/
theorem parsers_disagree_behind_a_comma : ¬ ParsersAgree (plainMembers ++ [comma]) := by
  rintro ⟨driver, -, -⟩
  have accepted : (TargetMaterial.parseManifest (plainMembers ++ [comma])).isSome = true := by
    decide +kernel
  obtain ⟨manifest, parsed⟩ := Option.isSome_iff_exists.mp accepted
  obtain ⟨pairs, isObject, -⟩ := (driver manifest).mp parsed
  have closed := IsObject_closed isObject
  have ends : lastSolid (plainMembers ++ [comma]) = some comma := by decide +kernel
  rw [ends] at closed
  cases closed

end Goodix.Deployment
