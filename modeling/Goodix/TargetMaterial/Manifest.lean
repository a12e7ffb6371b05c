import Mathlib.Data.List.Nodup
import Mathlib.Data.List.Perm.Subperm
import Mathlib.Data.Fintype.Basic
import Goodix.Library.Json
import Goodix.LivePreflight.Evidence

/-! # The manifest of the target material

`parse_manifest` of the driver, a loop with a cursor over the octets of the file.  What it
accepts is described by the grammar of objects of strings.
-/

namespace Goodix.TargetMaterial

open Json Octets

/-- `g_ascii_xdigit_value` -/
def xdigitValue (octet : UInt8) : Option UInt8 :=
  if 0x30 ≤ octet && octet ≤ 0x39 then some (octet - 0x30)
  else if 0x61 ≤ octet && octet ≤ 0x66 then some (octet - 0x61 + 10)
  else if 0x41 ≤ octet && octet ≤ 0x46 then some (octet - 0x41 + 10)
  else none

def hexOctets : List UInt8 → Option (List UInt8)
  | high :: low :: rest =>
    match xdigitValue high, xdigitValue low with
    | some high, some low => (hexOctets rest).map fun octets => (high <<< 4 ||| low) :: octets
    | _, _ => none
  | [] => some []
  | [_] => none

/-- `hex_digest` -/
def hexDigest (value : List UInt8) : Option Digest :=
  if value.length ≠ 64 then none else (hexOctets value).bind (Block.ofList? 32)

/-- `manifest_skip_whitespace` -/
def manifestSkipWhitespace : List UInt8 → List UInt8
  | [] => []
  | octet :: rest =>
    if octet = 0x20 || octet = 0x09 || octet = 0x0d || octet = 0x0a then
      manifestSkipWhitespace rest
    else octet :: rest

/-- The loop of `manifest_parse_string`. -/
def parseStringTail : List UInt8 → Option (List UInt8 × List UInt8)
  | [] => none
  | octet :: rest =>
    if octet = quote then some ([], rest)
    else if octet = backslash || octet < 0x20 then none
    else (parseStringTail rest).map fun (value, rest) => (octet :: value, rest)

/-- `manifest_parse_string` -/
def manifestParseString : List UInt8 → Option (List UInt8 × List UInt8)
  | [] => none
  | octet :: rest => if octet ≠ quote then none else parseStringTail rest

/-- `keys` -/
def keys : List (List UInt8) :=
  [ascii "schema", ascii "vid", ascii "pid", ascii "app", ascii "transport_sha256",
    ascii "config90_sha256", ascii "fdt_cache_sha256", ascii "a2_response_sha256",
    ascii "chip82_response_sha256", ascii "otp_a6_response_sha256"]

def keyAt (index : Fin 10) : List UInt8 := keys.get index

/-- `values`, by the index of their keys. -/
abbrev Values := Fin 10 → Option (List UInt8)

def keyIndex (key : List UInt8) : Option (Fin 10) :=
  (List.finRange 10).find? fun index => keyAt index = key

/-- The loop over the members.  The fuel is one for each octet, and one for the end. -/
def parseMembers : Nat → Values → List UInt8 → Option (Values × List UInt8)
  | 0, _, _ => none
  -- `while (cursor < end)`
  | _, values, [] => some (values, [])
  | fuel + 1, values, text =>
    match manifestParseString text with
    | none => none
    | some (key, text) =>
      match keyIndex key with
      | none => none
      | some index =>
        if (values index).isSome then none
        else
          match manifestSkipWhitespace text with
          | [] => none
          | octet :: text =>
            if octet ≠ colon then none
            else
              match manifestParseString (manifestSkipWhitespace text) with
              | none => none
              | some (value, text) =>
                let values := Function.update values index (some value)
                match manifestSkipWhitespace text with
                | [] => none
                | octet :: text =>
                  if octet = closeBrace then some (values, text)
                  else if octet ≠ comma then none
                  else parseMembers fuel values (manifestSkipWhitespace text)

/-- What the manifest says: the identity it expects, and the digests in the order of
`hash_outputs`. -/
structure Manifest where
  expectedIdentity : List UInt8
  hashes : Fin 6 → Digest

def identityOf (app : List UInt8) : Option (List UInt8) :=
  if app = ascii "GF_ST411SEC_APP_12509" then some LivePreflight.app12509Identity
  else if app = ascii "GF_ST411SEC_APP_12508" then some LivePreflight.app12508Identity
  else none

/-- The key of a digest: `values[i + 4u]`. -/
def hashIndex (index : Fin 6) : Fin 10 := index.natAdd 4

def hexDigests (values : Values) : Option (Fin 6 → Digest) :=
  let outputs (index : Fin 6) := (values (hashIndex index)).bind hexDigest
  if complete : ∀ index, (outputs index).isSome then
    some fun index => (outputs index).get (complete index)
  else none

/-- The checks behind the loop. -/
def checkValues (values : Values) : Option Manifest :=
  if (List.finRange 10).any fun index => (values index).isNone then none
  else if values 0 ≠ some (ascii "goodix-5125-device-materials-v1") ||
      values 1 ≠ some (ascii "27c6") || values 2 ≠ some (ascii "5125") then none
  else
    match (values 3).bind identityOf with
    | none => none
    | some identity => (hexDigests values).map fun hashes => ⟨identity, hashes⟩

/-- `parse_manifest` -/
def parseManifest (bytes : List UInt8) : Option Manifest :=
  if bytes.length = 0 || bytes.contains 0 then none
  else
    match manifestSkipWhitespace bytes with
    | [] => none
    | octet :: text =>
      if octet ≠ openBrace then none
      else
        let text := manifestSkipWhitespace text
        if text = [] || text.head? = some closeBrace then none
        else
          match parseMembers (text.length + 1) (fun _ => none) text with
          | none => none
          | some (values, text) =>
            if manifestSkipWhitespace text ≠ [] then none else checkValues values

/-! ## What it says and what it accepts -/

def isXdigit (octet : UInt8) : Bool :=
  0x30 ≤ octet && octet ≤ 0x39 || 0x61 ≤ octet && octet ≤ 0x66 || 0x41 ≤ octet && octet ≤ 0x46

/-- 64 hexadecimal digits, and the digest they stand for. -/
structure IsDigest (value : List UInt8) (digest : Digest) : Prop where
  length : value.length = 64
  digits : ∀ octet ∈ value, isXdigit octet = true
  stands : hexDigest value = some digest

/-- The members of a manifest: the ten keys, each once, with the values of this one. -/
structure Lists (manifest : Manifest) (pairs : List (List UInt8 × List UInt8)) : Prop where
  once : (pairs.map Prod.fst).Perm keys
  schema : (ascii "schema", ascii "goodix-5125-device-materials-v1") ∈ pairs
  vid : (ascii "vid", ascii "27c6") ∈ pairs
  pid : (ascii "pid", ascii "5125") ∈ pairs
  app : ∃ app, (ascii "app", app) ∈ pairs ∧ identityOf app = some manifest.expectedIdentity
  hashes : ∀ index, ∃ value, (keyAt (hashIndex index), value) ∈ pairs ∧
    IsDigest value (manifest.hashes index)

/-- A text that is one object with the members of a manifest. -/
def IsManifest (manifest : Manifest) (bytes : List UInt8) : Prop :=
  ∃ pairs, IsObject pairs bytes ∧ Lists manifest pairs

/-- The members of a manifest with a comma behind the last one, and then nothing but space. -/
def OpenEnded (manifest : Manifest) (bytes : List UInt8) : Prop :=
  ∃ pairs inside first last, Spaced bytes (openBrace :: inside) ∧ Spaced inside first ∧
    Members pairs first (comma :: last) ∧ Spaced last [] ∧ Lists manifest pairs

/-! ## The pieces of the cursor loop -/

theorem skipWhitespace_eq (text : List UInt8) : manifestSkipWhitespace text = skipSpace text := by
  induction text with
  | nil => rfl
  | cons octet text ih =>
    unfold manifestSkipWhitespace skipSpace
    by_cases blank : isSpace octet = true
    · rw [List.dropWhile_cons_of_pos blank]
      rw [if_pos, ih, skipSpace]
      simp only [isSpace, Bool.or_eq_true, decide_eq_true_eq] at blank ⊢
      tauto
    · rw [List.dropWhile_cons_of_neg blank]
      rw [if_neg]
      simp only [isSpace, Bool.or_eq_true, decide_eq_true_eq] at blank ⊢
      tauto

theorem parseStringTail_eq (text : List UInt8) : parseStringTail text = scanString text := by
  induction text with
  | nil => rfl
  | cons octet text ih =>
    unfold parseStringTail scanString
    by_cases ends : octet = quote
    · rw [if_pos ends, if_pos ends]
    · rw [if_neg ends, if_neg ends, ih]
      by_cases plain : isPlain octet = true
      · rw [if_pos plain, if_neg]
        simp only [isPlain, Bool.and_eq_true, decide_eq_true_eq] at plain
        simp only [Bool.or_eq_true, decide_eq_true_eq, not_or, UInt8.not_lt]
        exact ⟨plain.1.2, plain.2⟩
      · rw [if_neg plain, if_pos]
        simp only [isPlain, Bool.and_eq_true, decide_eq_true_eq, not_and, UInt8.not_le] at plain
        by_cases escapes : octet = backslash
        · simp [escapes]
        · simp [plain ⟨ends, escapes⟩]

theorem parseString_eq (text : List UInt8) : manifestParseString text = scanQuoted text := by
  cases text with
  | nil => rfl
  | cons octet text =>
    unfold manifestParseString scanQuoted
    by_cases isQuote : octet = quote
    · simp only [isQuote, ne_eq, not_true_eq_false, if_false, if_true, parseStringTail_eq]
    · simp only [isQuote, ne_eq, not_false_eq_true, if_true, if_false]

/-- What one pass of the loop does with its member. -/
def enter (values : Values) (pair : List UInt8 × List UInt8) : Option Values :=
  match keyIndex pair.1 with
  | none => none
  | some index =>
    if (values index).isSome then none else some (Function.update values index (some pair.2))

theorem parseMembers_step (fuel : Nat) (values : Values) {text : List UInt8} (more : text ≠ []) :
    parseMembers (fuel + 1) values text =
      match scanMember text with
      | none => none
      | some (pair, next) =>
        match enter values pair with
        | none => none
        | some values =>
          match next with
          | [] => none
          | octet :: next =>
            if octet = closeBrace then some (values, next)
            else if octet ≠ comma then none
            else parseMembers fuel values (skipSpace next) := by
  cases text with
  | nil => exact absurd rfl more
  | cons octet text =>
    conv_lhs => unfold parseMembers
    unfold scanMember enter
    simp only [parseString_eq, skipWhitespace_eq]
    cases scanQuoted (octet :: text) with
    | none => rfl
    | some found =>
      obtain ⟨key, afterKey⟩ := found
      dsimp only
      cases skipSpace afterKey with
      | nil =>
        cases keyIndex key with
        | none => rfl
        | some index => simp
      | cons octet afterColon =>
        dsimp only
        by_cases isColon : octet = colon
        · simp only [isColon, ne_eq, not_true_eq_false, if_false]
          cases scanQuoted (skipSpace afterColon) with
          | none =>
            cases keyIndex key with
            | none => rfl
            | some index => simp
          | some found =>
            obtain ⟨value, afterValue⟩ := found
            dsimp only
            cases keyIndex key with
            | none => rfl
            | some index =>
              by_cases taken : (values index).isSome = true
              · simp only [if_pos taken]
              · simp only [if_neg taken]
        · simp only [isColon, ne_eq, not_false_eq_true, if_true]
          cases keyIndex key with
          | none => rfl
          | some index => simp

/-- The loop ends behind a brace, or with the text behind a comma. -/
theorem parseMembers_iff {fuel : Nat} {values after : Values} {text rest : List UInt8}
    (more : text ≠ []) (fuelled : text.length ≤ fuel) :
    parseMembers (fuel + 1) values text = some (after, rest) ↔
      ∃ pairs, pairs.foldlM enter values = some after ∧
        (Members pairs text (closeBrace :: rest) ∨
          rest = [] ∧ ∃ last, Members pairs text (comma :: last) ∧ Spaced last []) := by
  have solid (octet : UInt8) (mark : octet = closeBrace ∨ octet = comma) (rest : List UInt8) :
      ∀ first ∈ (octet :: rest).head?, isSpace first = false := by
    intro first isFirst
    cases isFirst
    cases mark with
    | inl mark => rw [mark]; decide
    | inr mark => rw [mark]; decide
  -- the fuel is at least the length of the text, of which every member takes some
  induction fuel generalizing values text with
  | zero => exact absurd (List.length_eq_zero_iff.mp (Nat.le_zero.mp fuelled)) more
  | succ fuel ih =>
    rw [parseMembers_step _ _ more]
    constructor
    · intro parsed
      split at parsed
      · cases parsed
      rename_i pair next scanned
      split at parsed
      · cases parsed
      rename_i entered taken
      split at parsed
      · cases parsed
      rename_i octet next
      have shorter := scanMember_shorter scanned
      have skips := length_skipSpace_le next
      simp only [List.length_cons] at shorter
      split at parsed
      · rename_i closes
        cases parsed
        subst closes
        refine ⟨[pair], by simp [taken], .inl ?_⟩
        exact (members_iff (solid _ (.inl rfl) _)).mpr ⟨pair, _, scanned, .inl ⟨rfl, rfl⟩⟩
      split at parsed
      · cases parsed
      rename_i goesOn
      obtain rfl : octet = comma := not_not.mp goesOn
      by_cases ends : skipSpace next = []
      · -- `while (cursor < end)` fails behind the comma
        rw [ends] at parsed
        cases parsed
        refine ⟨[pair], by simp [taken], .inr ⟨rfl, next, ?_, skipSpace_nil.mp ends⟩⟩
        exact (members_iff (solid _ (.inr rfl) _)).mpr ⟨pair, _, scanned, .inl ⟨rfl, rfl⟩⟩
      · obtain ⟨pairs, folded, found⟩ := (ih ends (by omega)).mp parsed
        refine ⟨pair :: pairs, by simp [taken, folded], ?_⟩
        cases found with
        | inl members =>
          exact .inl ((members_iff (solid _ (.inl rfl) _)).mpr
            ⟨pair, _, scanned, .inr ⟨next, pairs, rfl, rfl, members⟩⟩)
        | inr found =>
          obtain ⟨done, last, members, blank⟩ := found
          exact .inr ⟨done, last, (members_iff (solid _ (.inr rfl) _)).mpr
            ⟨pair, _, scanned, .inr ⟨next, pairs, rfl, rfl, members⟩⟩, blank⟩
    · rintro ⟨pairs, folded, members | ⟨rfl, last, members, blank⟩⟩
      · obtain ⟨pair, later, scanned, ⟨rfl, rfl⟩ | ⟨behind, others, rfl, rfl, follow⟩⟩ :=
          (members_iff (solid _ (.inl rfl) _)).mp members
        · have taken : enter values pair = some after := by simpa using folded
          simp only [scanned, taken, if_true]
        · obtain ⟨entered, taken, folded⟩ := Option.bind_eq_some_iff.mp
            ((List.foldlM_cons).symm.trans folded)
          have shorter := scanMember_shorter scanned
          have skips := length_skipSpace_le behind
          simp only [List.length_cons] at shorter
          have differs : comma ≠ closeBrace := by decide
          simp only [scanned, taken, if_neg differs, ne_eq, not_true_eq_false, if_false]
          obtain ⟨_, begins⟩ := follow.quoted
          exact (ih (by simp [begins]) (by omega)).mpr ⟨others, folded, .inl follow⟩
      · obtain ⟨pair, later, scanned, ⟨rfl, rfl⟩ | ⟨behind, others, rfl, rfl, follow⟩⟩ :=
          (members_iff (solid _ (.inr rfl) _)).mp members
        · have taken : enter values pair = some after := by simpa using folded
          have differs : comma ≠ closeBrace := by decide
          simp only [scanned, taken, if_neg differs, ne_eq, not_true_eq_false, if_false,
            skipSpace_nil.mpr blank]
          cases fuel with
          | zero =>
            have shorter := scanMember_shorter scanned
            simp only [List.length_cons] at shorter
            omega
          | succ fuel => rfl
        · obtain ⟨entered, taken, folded⟩ := Option.bind_eq_some_iff.mp
            ((List.foldlM_cons).symm.trans folded)
          have shorter := scanMember_shorter scanned
          have skips := length_skipSpace_le behind
          simp only [List.length_cons] at shorter
          have differs : comma ≠ closeBrace := by decide
          simp only [scanned, taken, if_neg differs, ne_eq, not_true_eq_false, if_false]
          obtain ⟨_, begins⟩ := follow.quoted
          exact (ih (by simp [begins]) (by omega)).mpr
            ⟨others, folded, .inr ⟨rfl, last, follow, blank⟩⟩

/-! ## The values behind the loop -/

theorem keyAt_injective {first second : Fin 10} : keyAt first = keyAt second → first = second := by
  have injective : ∀ first second, keyAt first = keyAt second → first = second := by
    decide +kernel
  exact injective first second

theorem keyIndex_iff {key : List UInt8} {index : Fin 10} :
    keyIndex key = some index ↔ keyAt index = key := by
  unfold keyIndex
  constructor
  · intro found
    simpa using List.find?_some found
  · intro known
    subst known
    cases found : (List.finRange 10).find? fun other => decide (keyAt other = keyAt index) with
    | none =>
      have none := List.find?_eq_none.mp found index (List.mem_finRange index)
      simp at none
    | some other =>
      have same : keyAt other = keyAt index := by simpa using List.find?_some found
      rw [keyAt_injective same]

theorem enter_iff {values after : Values} {pair : List UInt8 × List UInt8} :
    enter values pair = some after ↔
      ∃ index, keyAt index = pair.1 ∧ values index = none ∧
        after = Function.update values index (some pair.2) := by
  unfold enter
  constructor
  · intro taken
    split at taken
    · cases taken
    rename_i index found
    split at taken
    · cases taken
    rename_i vacant
    cases taken
    exact ⟨index, keyIndex_iff.mp found, by simpa using vacant, rfl⟩
  · rintro ⟨index, known, vacant, rfl⟩
    simp [keyIndex_iff.mpr known, vacant]

theorem update_vacant {values : Values} {index : Fin 10} (vacant : values index = none)
    (stored value : List UInt8) (other : Fin 10) :
    Function.update values index (some stored) other = some value ↔
      values other = some value ∨ (keyAt other, value) = (keyAt index, stored) := by
  by_cases same : other = index
  · subst same
    simp [vacant, eq_comm]
  · have differs : keyAt other ≠ keyAt index := fun keys => same (keyAt_injective keys)
    simp [same, differs]

/-- The loop takes known members, each once, and keeps their values. -/
theorem foldlM_enter {pairs : List (List UInt8 × List UInt8)} {values after : Values} :
    pairs.foldlM enter values = some after ↔
      (∀ pair ∈ pairs, ∃ index, keyAt index = pair.1 ∧ values index = none) ∧
        (pairs.map Prod.fst).Nodup ∧
        ∀ index value, after index = some value ↔
          values index = some value ∨ (keyAt index, value) ∈ pairs := by
  induction pairs generalizing values with
  | nil =>
    simp only [List.foldlM_nil, List.map_nil, List.nodup_nil, List.not_mem_nil, false_implies,
      implies_true, or_false, true_and]
    constructor
    · intro same
      cases same
      exact fun index value => Iff.rfl
    · intro same
      exact congrArg some (funext fun index => Option.ext fun value => (same index value).symm)
  | cons pair pairs ih =>
    rw [List.foldlM_cons]
    constructor
    · intro folded
      obtain ⟨entered, taken, folded⟩ := Option.bind_eq_some_iff.mp folded
      obtain ⟨index, known, vacant, rfl⟩ := enter_iff.mp taken
      obtain ⟨others, once, kept⟩ := ih.mp folded
      have elsewhere : ∀ other ∈ pairs, ∃ place, keyAt place = other.1 ∧ place ≠ index ∧
          values place = none := by
        intro other inside
        obtain ⟨place, keyed, free⟩ := others other inside
        by_cases same : place = index
        · simp [same] at free
        · exact ⟨place, keyed, same, by simpa [same] using free⟩
      refine ⟨?_, ?_, ?_⟩
      · intro other inside
        cases List.mem_cons.mp inside with
        | inl here => exact ⟨index, by rw [here, known], vacant⟩
        | inr later =>
          obtain ⟨place, keyed, -, free⟩ := elsewhere other later
          exact ⟨place, keyed, free⟩
      · rw [List.map_cons, List.nodup_cons]
        refine ⟨fun again => ?_, once⟩
        obtain ⟨other, inside, same⟩ := List.mem_map.mp again
        obtain ⟨place, keyed, differs, -⟩ := elsewhere other inside
        exact differs (keyAt_injective (by rw [keyed, same, known]))
      · intro place value
        rw [kept, update_vacant vacant, List.mem_cons, known, or_assoc]
    · rintro ⟨known, once, kept⟩
      rw [List.map_cons, List.nodup_cons] at once
      obtain ⟨index, keyed, vacant⟩ := known pair List.mem_cons_self
      refine Option.bind_eq_some_iff.mpr ⟨_, enter_iff.mpr ⟨index, keyed, vacant, rfl⟩, ?_⟩
      refine ih.mpr ⟨?_, once.2, ?_⟩
      · intro other inside
        obtain ⟨place, same, free⟩ := known other (List.mem_cons_of_mem _ inside)
        refine ⟨place, same, ?_⟩
        have differs : place ≠ index := by
          rintro rfl
          exact once.1 (List.mem_map.mpr ⟨other, inside, by rw [← same, keyed]⟩)
        simpa [differs] using free
      · intro place value
        rw [kept, update_vacant vacant, List.mem_cons, keyed, or_assoc]

theorem xdigitValue_isXdigit {octet value : UInt8} (digit : xdigitValue octet = some value) :
    isXdigit octet = true := by
  unfold xdigitValue at digit
  unfold isXdigit
  split at digit
  · simp_all
  split at digit
  · simp_all
  split at digit
  · simp_all
  · cases digit

theorem hexOctets_digits {value octets : List UInt8} (read : hexOctets value = some octets) :
    ∀ octet ∈ value, isXdigit octet = true := by
  fun_induction hexOctets value generalizing octets with
  | case1 first second rest high low isHigh isLow ih =>
    obtain ⟨others, found, -⟩ := Option.map_eq_some_iff.mp read
    intro octet inside
    cases List.mem_cons.mp inside with
    | inl here => exact here ▸ xdigitValue_isXdigit isLow
    | inr inside =>
      cases List.mem_cons.mp inside with
      | inl here => exact here ▸ xdigitValue_isXdigit isHigh
      | inr inside => exact ih found octet inside
  | case2 | case4 => cases read
  | case3 => simp

theorem hexDigest_iff {value : List UInt8} {digest : Digest} :
    hexDigest value = some digest ↔ IsDigest value digest := by
  constructor
  · intro read
    have stands := read
    unfold hexDigest at read
    split at read
    · cases read
    rename_i length
    obtain ⟨octets, found, -⟩ := Option.bind_eq_some_iff.mp read
    exact ⟨not_not.mp length, hexOctets_digits found, stands⟩
  · exact IsDigest.stands

theorem hexDigests_iff {values : Values} {hashes : Fin 6 → Digest} :
    hexDigests values = some hashes ↔
      ∀ index, (values (hashIndex index)).bind hexDigest = some (hashes index) := by
  unfold hexDigests
  constructor
  · intro read
    dsimp only at read
    split at read
    · cases read
      exact fun index => (Option.some_get _).symm
    · cases read
  · intro read
    have complete : ∀ index, ((values (hashIndex index)).bind hexDigest).isSome := by
      simp [read]
    simp only [complete, implies_true, dite_true, Option.some.injEq]
    funext index
    simp [read]

theorem keys_nodup : keys.Nodup := by decide +kernel

theorem mem_keys {key : List UInt8} : key ∈ keys ↔ ∃ index, keyAt index = key :=
  List.mem_iff_get

/-- The checks pass exactly on the values of a manifest. -/
theorem checkValues_iff {values : Values} {pairs : List (List UInt8 × List UInt8)}
    {manifest : Manifest} (known : ∀ pair ∈ pairs, pair.1 ∈ keys)
    (once : (pairs.map Prod.fst).Nodup)
    (kept : ∀ index value, values index = some value ↔ (keyAt index, value) ∈ pairs) :
    checkValues values = some manifest ↔ Lists manifest pairs := by
  unfold checkValues
  constructor
  · intro checked
    split at checked
    · cases checked
    rename_i complete
    split at checked
    · cases checked
    rename_i fixed
    simp only [Bool.or_eq_true, decide_eq_true_eq, not_or, not_not] at fixed
    split at checked
    · cases checked
    rename_i identity app
    obtain ⟨hashes, read, rfl⟩ := Option.map_eq_some_iff.mp checked
    obtain ⟨name, named, identified⟩ := Option.bind_eq_some_iff.mp app
    refine ⟨?_, (kept 0 _).mp fixed.1.1, (kept 1 _).mp fixed.1.2, (kept 2 _).mp fixed.2,
      ⟨name, (kept 3 _).mp named, identified⟩, ?_⟩
    · refine (List.perm_ext_iff_of_nodup once keys_nodup).mpr fun key => ⟨?_, ?_⟩
      · intro inside
        obtain ⟨pair, member, rfl⟩ := List.mem_map.mp inside
        exact known pair member
      · intro inside
        obtain ⟨index, rfl⟩ := mem_keys.mp inside
        cases stored : values index with
        | none =>
          refine absurd (List.any_eq_true.mpr ⟨index, List.mem_finRange index, ?_⟩) complete
          rw [stored]
          rfl
        | some value => exact List.mem_map.mpr ⟨_, (kept index value).mp stored, rfl⟩
    · intro index
      obtain ⟨value, stored, digest⟩ := Option.bind_eq_some_iff.mp (hexDigests_iff.mp read index)
      exact ⟨value, (kept _ _).mp stored, hexDigest_iff.mp digest⟩
  · intro lists
    obtain ⟨app, named, identified⟩ := lists.app
    have complete : ((List.finRange 10).any fun index => (values index).isNone) = false := by
      refine List.any_eq_false.mpr fun index _ => ?_
      obtain ⟨pair, inside, same⟩ := List.mem_map.mp
        (lists.once.mem_iff.mpr (mem_keys.mpr ⟨index, rfl⟩))
      have stored := (kept index pair.2).mpr (same ▸ inside)
      simp [stored]
    have schema := (kept 0 _).mpr lists.schema
    have vid := (kept 1 _).mpr lists.vid
    have pid := (kept 2 _).mpr lists.pid
    have identity : (values 3).bind identityOf = some manifest.expectedIdentity := by
      rw [(kept 3 _).mpr named]
      exact identified
    have hashes : hexDigests values = some manifest.hashes := by
      refine hexDigests_iff.mpr fun index => ?_
      obtain ⟨value, stored, digest⟩ := lists.hashes index
      rw [(kept _ _).mpr stored]
      exact hexDigest_iff.mpr digest
    simp [complete, schema, vid, pid, identity, hashes]

/-- The loop and the checks take exactly the members of a manifest. -/
theorem lists_iff {pairs : List (List UInt8 × List UInt8)} {manifest : Manifest} :
    (∃ values, pairs.foldlM enter (fun _ => none) = some values ∧
      checkValues values = some manifest) ↔ Lists manifest pairs := by
  constructor
  · rintro ⟨values, folded, checked⟩
    obtain ⟨known, once, kept⟩ := foldlM_enter.mp folded
    refine (checkValues_iff ?_ once fun index value => ?_).mp checked
    · intro pair inside
      obtain ⟨index, same, -⟩ := known pair inside
      exact mem_keys.mpr ⟨index, same⟩
    · simpa using kept index value
  · intro lists
    have once := lists.once.nodup_iff.mpr keys_nodup
    have known : ∀ pair ∈ pairs, pair.1 ∈ keys := fun pair inside =>
      lists.once.mem_iff.mp (List.mem_map.mpr ⟨pair, inside, rfl⟩)
    have kept (index : Fin 10) (value : List UInt8) :
        pairs.lookup (keyAt index) = some value ↔ (keyAt index, value) ∈ pairs :=
      lookup_iff once
    refine ⟨fun index => pairs.lookup (keyAt index), foldlM_enter.mpr ⟨?_, once, ?_⟩,
      (checkValues_iff known once kept).mpr lists⟩
    · intro pair inside
      obtain ⟨index, same⟩ := mem_keys.mp (known pair inside)
      exact ⟨index, same, rfl⟩
    · intro index value
      simpa using kept index value

/-! ## The octets of a manifest -/

/-- Octets of ASCII that a manifest may hold. -/
def isAdmitted (octet : UInt8) : Bool := octet ≠ 0 && octet ≠ backslash && octet < 0x80

theorem isSpace_isAdmitted {octet : UInt8} (blank : isSpace octet = true) :
    isAdmitted octet = true := by
  simp only [isSpace, Bool.or_eq_true, decide_eq_true_eq] at blank
  rcases blank with ((rfl | rfl) | rfl) | rfl <;> rfl

theorem isXdigit_isAdmitted {octet : UInt8} (digit : isXdigit octet = true) :
    isAdmitted octet = true := by
  have escape : backslash.toNat = 0x5c := rfl
  simp only [isXdigit, Bool.or_eq_true, Bool.and_eq_true, decide_eq_true_eq,
    UInt8.le_iff_toNat_le] at digit
  simp only [isAdmitted, Bool.and_eq_true, decide_eq_true_eq, ne_eq, ← UInt8.toNat_inj,
    UInt8.lt_iff_toNat_lt, escape]
  simp only [UInt8.reduceToNat] at digit ⊢
  omega

/-- Up to the rest, a text is of admitted octets. -/
def Leads (text rest : List UInt8) : Prop :=
  ∀ octet ∈ text, isAdmitted octet = true ∨ octet ∈ rest

theorem Leads.trans {text between rest : List UInt8} (leads : Leads text between)
    (later : Leads between rest) : Leads text rest := by
  intro octet inside
  cases leads octet inside with
  | inl admitted => exact .inl admitted
  | inr between => exact later octet between

theorem leads_append {octets : List UInt8} (admitted : ∀ octet ∈ octets, isAdmitted octet = true)
    (rest : List UInt8) : Leads (octets ++ rest) rest := fun octet inside =>
  (List.mem_append.mp inside).imp (admitted octet) id

theorem leads_cons {octet : UInt8} (admitted : isAdmitted octet = true) (rest : List UInt8) :
    Leads (octet :: rest) rest := by
  rw [← List.singleton_append]
  exact leads_append (by simpa using admitted) rest

theorem spaced_leads {text rest : List UInt8} (spaced : Spaced text rest) : Leads text rest := by
  obtain ⟨space, rfl, blank⟩ := spaced
  exact leads_append (fun octet inside => isSpace_isAdmitted (blank octet inside)) rest

theorem quoted_leads {value text rest : List UInt8}
    (admitted : ∀ octet ∈ value, isAdmitted octet = true) (quoted : Quoted value text rest) :
    Leads text rest := by
  rw [quoted.1]
  exact ((leads_cons rfl _).trans (leads_append admitted _)).trans (leads_cons rfl _)

theorem member_leads {key value text rest : List UInt8}
    (admitted : ∀ octet ∈ key ++ value, isAdmitted octet = true)
    (member : Member key value text rest) : Leads text rest := by
  obtain ⟨afterKey, afterColon, valueText, afterValue, quotedKey, behindKey, behindColon,
    quotedValue, behindValue⟩ := member
  have key := quoted_leads (fun octet inside => admitted octet (List.mem_append_left _ inside))
    quotedKey
  have value := quoted_leads (fun octet inside => admitted octet (List.mem_append_right _ inside))
    quotedValue
  have colon := (spaced_leads behindKey).trans (leads_cons rfl afterColon)
  exact (key.trans (colon.trans (spaced_leads behindColon))).trans
    (value.trans (spaced_leads behindValue))

theorem members_leads {pairs : List (List UInt8 × List UInt8)} {text rest : List UInt8}
    (members : Members pairs text rest)
    (admitted : ∀ pair ∈ pairs, ∀ octet ∈ pair.1 ++ pair.2, isAdmitted octet = true) :
    Leads text rest := by
  induction members with
  | last member => exact member_leads (admitted _ List.mem_cons_self) member
  | more member spaced members ih =>
    have first := member_leads (admitted _ List.mem_cons_self) member
    have behind := (leads_cons (by rfl : isAdmitted comma = true) _).trans (spaced_leads spaced)
    exact (first.trans behind).trans
      (ih fun pair inside => admitted pair (List.mem_cons_of_mem _ inside))

theorem Lists.unique {manifest : Manifest} {pairs : List (List UInt8 × List UInt8)}
    (lists : Lists manifest pairs) {key value other : List UInt8} (here : (key, value) ∈ pairs)
    (there : (key, other) ∈ pairs) : value = other := by
  have once := lists.once.nodup_iff.mpr keys_nodup
  have found := (lookup_iff once).mpr here
  rw [(lookup_iff once).mpr there] at found
  exact (Option.some.inj found).symm

theorem identityOf_admitted {app identity : List UInt8} (known : identityOf app = some identity) :
    ∀ octet ∈ app, isAdmitted octet = true := by
  unfold identityOf at known
  split at known
  · rename_i same
    rw [same]
    decide +kernel
  split at known
  · rename_i same
    rw [same]
    decide +kernel
  · cases known

/-- Names and values of a manifest are of admitted octets. -/
theorem Lists.admitted {manifest : Manifest} {pairs : List (List UInt8 × List UInt8)}
    (lists : Lists manifest pairs) :
    ∀ pair ∈ pairs, ∀ octet ∈ pair.1 ++ pair.2, isAdmitted octet = true := by
  have named : ∀ key ∈ keys, ∀ octet ∈ key, isAdmitted octet = true := by decide +kernel
  have valued (index : Fin 10) (value : List UInt8) (inside : (keyAt index, value) ∈ pairs) :
      ∀ octet ∈ value, isAdmitted octet = true := by
    have fixed {expected : List UInt8} (listed : (keyAt index, expected) ∈ pairs)
        (admitted : ∀ octet ∈ expected, isAdmitted octet = true) :
        ∀ octet ∈ value, isAdmitted octet = true :=
      lists.unique inside listed ▸ admitted
    have hashed (hash : Fin 6) (same : hashIndex hash = index) :
        ∀ octet ∈ value, isAdmitted octet = true := by
      obtain ⟨digits, listed, digest⟩ := lists.hashes hash
      exact fixed (same ▸ listed) fun octet inside =>
        isXdigit_isAdmitted (digest.digits octet inside)
    match index with
    | 0 => exact fixed lists.schema (by decide +kernel)
    | 1 => exact fixed lists.vid (by decide +kernel)
    | 2 => exact fixed lists.pid (by decide +kernel)
    | 3 =>
      obtain ⟨app, listed, known⟩ := lists.app
      exact fixed listed (identityOf_admitted known)
    | 4 => exact hashed 0 rfl
    | 5 => exact hashed 1 rfl
    | 6 => exact hashed 2 rfl
    | 7 => exact hashed 3 rfl
    | 8 => exact hashed 4 rfl
    | 9 => exact hashed 5 rfl
  intro pair inside octet member
  obtain ⟨key, value⟩ := pair
  have known : key ∈ keys := lists.once.mem_iff.mp (List.mem_map.mpr ⟨_, inside, rfl⟩)
  cases List.mem_append.mp member with
  | inl ofKey => exact named key known octet ofKey
  | inr ofValue =>
    obtain ⟨index, rfl⟩ := mem_keys.mp known
    exact valued index value inside octet ofValue

theorem IsManifest.admitted {manifest : Manifest} {bytes : List UInt8}
    (isManifest : IsManifest manifest bytes) : ∀ octet ∈ bytes, isAdmitted octet = true := by
  obtain ⟨pairs, ⟨inside, first, last, opens, spaced, members, ends⟩, lists⟩ := isManifest
  have begins := (spaced_leads opens).trans (leads_cons rfl _)
  have closes := (members_leads members lists.admitted).trans (leads_cons rfl _)
  have all := ((begins.trans (spaced_leads spaced)).trans closes).trans (spaced_leads ends)
  intro octet member
  exact (all octet member).resolve_right List.not_mem_nil

theorem OpenEnded.admitted {manifest : Manifest} {bytes : List UInt8}
    (openEnded : OpenEnded manifest bytes) : ∀ octet ∈ bytes, isAdmitted octet = true := by
  obtain ⟨pairs, inside, first, last, opens, spaced, members, ends, lists⟩ := openEnded
  have begins := (spaced_leads opens).trans (leads_cons rfl _)
  have closes := (members_leads members lists.admitted).trans (leads_cons rfl _)
  have all := ((begins.trans (spaced_leads spaced)).trans closes).trans (spaced_leads ends)
  intro octet member
  exact (all octet member).resolve_right List.not_mem_nil

/-! ## What the parser accepts -/

/-- The octets of a manifest are accepted with their closing brace, and with a comma in its place. -/
theorem parseManifest_iff {bytes : List UInt8} {manifest : Manifest} :
    parseManifest bytes = some manifest ↔
      IsManifest manifest bytes ∨ OpenEnded manifest bytes := by
  have blankless : isSpace openBrace = false := by decide
  constructor
  · intro parsed
    unfold parseManifest at parsed
    simp only [skipWhitespace_eq] at parsed
    split at parsed
    · cases parsed
    split at parsed
    · cases parsed
    rename_i octet inside begins
    split at parsed
    · cases parsed
    rename_i braced
    obtain rfl : octet = openBrace := not_not.mp braced
    split at parsed
    · cases parsed
    rename_i more
    simp only [Bool.or_eq_true, decide_eq_true_eq, not_or] at more
    split at parsed
    · cases parsed
    rename_i values rest looped
    split at parsed
    · cases parsed
    rename_i ends
    have opens := (skipSpace_cons blankless).mp begins
    have blank := skipSpace_nil.mp (not_not.mp ends)
    obtain ⟨pairs, folded, found⟩ := (parseMembers_iff more.1 le_rfl).mp looped
    have lists := lists_iff.mp ⟨values, folded, parsed⟩
    cases found with
    | inl members =>
      exact .inl ⟨pairs, ⟨inside, _, rest, opens, spaced_skipSpace inside, members, blank⟩, lists⟩
    | inr found =>
      obtain ⟨-, last, members, spaced⟩ := found
      exact .inr ⟨pairs, inside, _, last, opens, spaced_skipSpace inside, members, spaced, lists⟩
  · intro accepted
    have admitted : ∀ octet ∈ bytes, isAdmitted octet = true :=
      accepted.elim IsManifest.admitted OpenEnded.admitted
    have clean : bytes.contains 0 = false := by
      refine Bool.eq_false_iff.mpr fun zero => ?_
      have := admitted 0 (List.contains_iff_mem.mp zero)
      cases this
    obtain ⟨pairs, inside, first, rest, opens, spaced, lists, blank, found⟩ :
        ∃ pairs inside first rest, Spaced bytes (openBrace :: inside) ∧ Spaced inside first ∧
          Lists manifest pairs ∧ Spaced rest [] ∧ (Members pairs first (closeBrace :: rest) ∨
            rest = [] ∧ ∃ last, Members pairs first (comma :: last) ∧ Spaced last []) := by
      cases accepted with
      | inl accepted =>
        obtain ⟨pairs, ⟨inside, first, last, opens, spaced, members, ends⟩, lists⟩ := accepted
        exact ⟨pairs, inside, first, last, opens, spaced, lists, ends, .inl members⟩
      | inr accepted =>
        obtain ⟨pairs, inside, first, last, opens, spaced, members, ends, lists⟩ := accepted
        exact ⟨pairs, inside, first, [], opens, spaced, lists, spaced_refl [],
          .inr ⟨rfl, last, members, ends⟩⟩
    obtain ⟨behind, rfl⟩ : ∃ behind, first = quote :: behind := by
      cases found with
      | inl members => exact members.quoted
      | inr found =>
        obtain ⟨-, last, members, -⟩ := found
        exact members.quoted
    obtain ⟨values, folded, checked⟩ := lists_iff.mpr lists
    have begins := (skipSpace_cons blankless).mpr opens
    have atFirst : skipSpace inside = quote :: behind := (skipSpace_cons (by decide)).mpr spaced
    have looped := (parseMembers_iff (List.cons_ne_nil quote behind) le_rfl).mpr
      ⟨pairs, folded, found⟩
    have some_bytes : bytes.length ≠ 0 := by
      intro none
      rw [List.length_eq_zero_iff.mp none] at begins
      cases begins
    have isOpen : quote ≠ closeBrace := by decide
    unfold parseManifest
    simp only [skipWhitespace_eq, some_bytes, clean, begins, atFirst, looped,
      skipSpace_nil.mpr blank, checked]
    simp [isOpen]

end Goodix.TargetMaterial
