import Mathlib.Data.List.Basic
import Mathlib.Data.List.Nodup
import Mathlib.Data.List.Infix
import Mathlib.Data.List.TakeWhile

/-! # JSON texts of octets

A scanner of JSON texts in the manner of the usual libraries: a value, and what follows
it.  Strings are taken as they stand, without escapes.  The grammar of objects whose
values are all strings is stated beside it, by what a construct leaves of the text, and
the scanner finds such an object exactly where the grammar does.
-/

namespace Json

def quote : UInt8 := 0x22
def comma : UInt8 := 0x2c
def colon : UInt8 := 0x3a
def backslash : UInt8 := 0x5c
def openBrace : UInt8 := 0x7b
def closeBrace : UInt8 := 0x7d
def openBracket : UInt8 := 0x5b
def closeBracket : UInt8 := 0x5d

def isSpace (octet : UInt8) : Bool :=
  octet = 0x20 || octet = 0x09 || octet = 0x0a || octet = 0x0d

/-- An octet that stands for itself in a string. -/
def isPlain (octet : UInt8) : Bool := octet ≠ quote && octet ≠ backslash && 0x20 ≤ octet

def isDigit (octet : UInt8) : Bool := 0x30 ≤ octet && octet ≤ 0x39

def skipSpace (text : List UInt8) : List UInt8 := text.dropWhile isSpace

/-- The rest of a string, behind its opening quote. -/
def scanString : List UInt8 → Option (List UInt8 × List UInt8)
  | [] => none
  | octet :: rest =>
    if octet = quote then some ([], rest)
    else if isPlain octet then (scanString rest).map fun (value, rest) => (octet :: value, rest)
    else none

/-- The end of a number: a fraction and an exponent, if they are complete. -/
def scanFraction (text : List UInt8) : List UInt8 :=
  match text with
  | 0x2e :: rest => if (rest.takeWhile isDigit).isEmpty then text else rest.dropWhile isDigit
  | _ => text

def scanExponent (text : List UInt8) : List UInt8 :=
  match text with
  | [] => []
  | octet :: rest =>
    let digits := if rest.head? = some 0x2b || rest.head? = some 0x2d then rest.tail else rest
    if (octet = 0x65 || octet = 0x45) && !(digits.takeWhile isDigit).isEmpty then
      digits.dropWhile isDigit
    else text

/-- What follows a number. -/
def scanNumber (text : List UInt8) : Option (List UInt8) :=
  let unsigned := if text.head? = some 0x2d then text.tail else text
  match unsigned with
  | [] => none
  | octet :: rest =>
    if octet = 0x30 then some (scanExponent (scanFraction rest))
    else if isDigit octet then some (scanExponent (scanFraction (rest.dropWhile isDigit)))
    else none

def ascii (text : String) : List UInt8 := text.toList.map fun char => UInt8.ofNat char.toNat

/-- The words a value may be. -/
def words : List (List UInt8) :=
  [ascii "null", ascii "true", ascii "false", ascii "NaN", ascii "Infinity", ascii "-Infinity"]

/-- A value.  Of numbers and words only the place in the text matters here. -/
inductive Value where
  | string (octets : List UInt8)
  | object (pairs : List (List UInt8 × Value))
  | array (items : List Value)
  | scalar

abbrev Pairs := List (List UInt8 × Value)

mutual

/-- One value and what follows it; `admits` is asked about the pairs of every object.  The fuel is
one for each octet. -/
def scanValue (admits : Pairs → Bool) : Nat → List UInt8 → Option (Value × List UInt8)
  | 0, _ => none
  | _, [] => none
  | fuel + 1, octet :: rest =>
    if octet = quote then (scanString rest).map fun (value, rest) => (.string value, rest)
    else if octet = openBrace then
      let inside := skipSpace rest
      let scanned :=
        if inside.head? = some closeBrace then some ([], inside.tail)
        else scanPairs admits fuel inside
      match scanned with
      | none => none
      | some (pairs, rest) => if admits pairs then some (.object pairs, rest) else none
    else if octet = openBracket then
      let inside := skipSpace rest
      if inside.head? = some closeBracket then some (.array [], inside.tail)
      else (scanItems admits fuel inside).map fun (items, rest) => (.array items, rest)
    else
      match words.find? fun word => word.isPrefixOf (octet :: rest) with
      | some word => some (.scalar, (octet :: rest).drop word.length)
      | none => (scanNumber (octet :: rest)).map fun rest => (.scalar, rest)

/-- The pairs of an object, up to its brace. -/
def scanPairs (admits : Pairs → Bool) : Nat → List UInt8 → Option (Pairs × List UInt8)
  | 0, _ => none
  | _, [] => none
  | fuel + 1, octet :: text =>
    if octet ≠ quote then none
    else
      match scanString text with
      | none => none
      | some (key, text) =>
        match skipSpace text with
        | [] => none
        | octet :: text =>
          if octet ≠ colon then none
          else
            match scanValue admits fuel (skipSpace text) with
            | none => none
            | some (value, text) =>
              match skipSpace text with
              | [] => none
              | octet :: text =>
                if octet = closeBrace then some ([(key, value)], text)
                else if octet = comma then
                  (scanPairs admits fuel (skipSpace text)).map fun (pairs, text) =>
                    ((key, value) :: pairs, text)
                else none

/-- The items of an array, up to its bracket. -/
def scanItems (admits : Pairs → Bool) : Nat → List UInt8 → Option (List Value × List UInt8)
  | 0, _ => none
  | fuel + 1, text =>
    match scanValue admits fuel text with
    | none => none
    | some (value, text) =>
      match skipSpace text with
      | [] => none
      | octet :: text =>
        if octet = closeBracket then some ([value], text)
        else if octet = comma then
          (scanItems admits fuel (skipSpace text)).map fun (items, text) => (value :: items, text)
        else none

end

/-- A text that is one value, with space around it. -/
def loads (admits : Pairs → Bool) (text : List UInt8) : Option Value :=
  match scanValue admits (text.length + 1) (skipSpace text) with
  | none => none
  | some (value, rest) => if skipSpace rest = [] then some value else none

example : (loads (fun _ => true) (ascii " [1.5e3, -0, {}, true] ")).isSome = true := by
  decide +kernel

/-! ## The grammar of objects of strings -/

/-- Space, and what follows it. -/
def Spaced (text rest : List UInt8) : Prop :=
  ∃ space, text = space ++ rest ∧ ∀ octet ∈ space, isSpace octet = true

/-- A string, and what follows it. -/
def Quoted (value text rest : List UInt8) : Prop :=
  text = quote :: (value ++ quote :: rest) ∧ ∀ octet ∈ value, isPlain octet = true

/-- A name and a string, with the space behind them, and what follows. -/
def Member (key value text rest : List UInt8) : Prop :=
  ∃ afterKey afterColon valueText afterValue,
    Quoted key text afterKey ∧ Spaced afterKey (colon :: afterColon) ∧
      Spaced afterColon valueText ∧ Quoted value valueText afterValue ∧ Spaced afterValue rest

/-- Members with commas between them, and what follows the last one. -/
inductive Members : List (List UInt8 × List UInt8) → List UInt8 → List UInt8 → Prop where
  | last {key value text rest : List UInt8} (member : Member key value text rest) :
      Members [(key, value)] text rest
  | more {key value text later next rest : List UInt8} {pairs : List (List UInt8 × List UInt8)}
      (member : Member key value text (comma :: later)) (spaced : Spaced later next)
      (members : Members pairs next rest) : Members ((key, value) :: pairs) text rest

/-- A text that is one object of these strings, with space around its tokens. -/
def IsObject (pairs : List (List UInt8 × List UInt8)) (text : List UInt8) : Prop :=
  ∃ inside first last, Spaced text (openBrace :: inside) ∧ Spaced inside first ∧
    Members pairs first (closeBrace :: last) ∧ Spaced last []

/-- Where every name stands once, looking a name up is finding its pair. -/
theorem lookup_iff {β : Type} {pairs : List (List UInt8 × β)} {key : List UInt8} {value : β}
    (once : (pairs.map Prod.fst).Nodup) :
    pairs.lookup key = some value ↔ (key, value) ∈ pairs := by
  induction pairs with
  | nil => simp
  | cons pair pairs ih =>
    obtain ⟨first, stored⟩ := pair
    rw [List.map_cons, List.nodup_cons] at once
    by_cases same : key = first
    · subst same
      have absent : (key, value) ∉ pairs := fun inside =>
        once.1 (List.mem_map.mpr ⟨_, inside, rfl⟩)
      simp [absent, eq_comm]
    · have skips : (key == first) = false := by simpa using same
      rw [List.lookup_cons, skips]
      simp [ih once.2, same]

/-! ## Scanning what the grammar describes -/

theorem spaced_refl (text : List UInt8) : Spaced text text := ⟨[], rfl, by simp⟩

theorem spaced_skipSpace (text : List UInt8) : Spaced text (skipSpace text) :=
  ⟨text.takeWhile isSpace, List.takeWhile_append_dropWhile.symm, fun _ inside =>
    List.mem_takeWhile_imp inside⟩

/-- Space is skipped up to the first octet that is none. -/
theorem skipSpace_spaced {text rest : List UInt8} (spaced : Spaced text rest)
    (solid : ∀ octet ∈ rest.head?, isSpace octet = false) : skipSpace text = rest := by
  obtain ⟨space, rfl, blank⟩ := spaced
  unfold skipSpace
  induction space with
  | nil =>
    cases rest with
    | nil => rfl
    | cons octet rest => simp [solid octet rfl]
  | cons octet space ih =>
    rw [List.cons_append, List.dropWhile_cons_of_pos (blank octet List.mem_cons_self)]
    exact ih fun other inside => blank other (List.mem_cons_of_mem _ inside)

theorem skipSpace_solid (text : List UInt8) :
    ∀ octet ∈ (skipSpace text).head?, isSpace octet = false := by
  intro octet first
  have stops := List.head?_dropWhile_not isSpace text
  unfold skipSpace at first
  rw [Option.mem_def] at first
  rw [first] at stops
  simpa using stops

theorem length_skipSpace_le (text : List UInt8) : (skipSpace text).length ≤ text.length :=
  (List.dropWhile_sublist isSpace).length_le

/-- Before an octet that is no space, the space that is skipped is the space there is. -/
theorem skipSpace_cons {text rest : List UInt8} {octet : UInt8} (solid : isSpace octet = false) :
    skipSpace text = octet :: rest ↔ Spaced text (octet :: rest) := by
  constructor
  · intro skipped
    rw [← skipped]
    exact spaced_skipSpace text
  · intro spaced
    exact skipSpace_spaced spaced fun other first => by
      cases first
      exact solid

theorem skipSpace_nil {text : List UInt8} : skipSpace text = [] ↔ Spaced text [] := by
  constructor
  · intro skipped
    rw [← skipped]
    exact spaced_skipSpace text
  · intro spaced
    exact skipSpace_spaced spaced (by simp)

theorem scanString_iff {text value rest : List UInt8} :
    scanString text = some (value, rest) ↔
      text = value ++ quote :: rest ∧ ∀ octet ∈ value, isPlain octet = true := by
  induction text generalizing value with
  | nil => simp [scanString]
  | cons octet text ih =>
    unfold scanString
    by_cases ends : octet = quote
    · subst ends
      rw [if_pos rfl]
      constructor
      · intro scanned
        cases scanned
        exact ⟨rfl, by simp⟩
      · rintro ⟨same, plain⟩
        cases value with
        | nil =>
          cases same
          rfl
        | cons first value =>
          cases same
          have first := plain quote List.mem_cons_self
          exact absurd first (by decide)
    · rw [if_neg ends]
      by_cases plain : isPlain octet = true
      · rw [if_pos plain]
        constructor
        · intro scanned
          obtain ⟨⟨inner, after⟩, found, same⟩ := Option.map_eq_some_iff.mp scanned
          cases same
          obtain ⟨rfl, inside⟩ := ih.mp found
          refine ⟨rfl, fun other member => ?_⟩
          cases List.mem_cons.mp member with
          | inl here => exact here ▸ plain
          | inr later => exact inside other later
        · rintro ⟨same, inside⟩
          cases value with
          | nil =>
            cases same
            exact absurd rfl ends
          | cons first value =>
            cases same
            have found := ih.mpr ⟨rfl, fun other member =>
              inside other (List.mem_cons_of_mem _ member)⟩
            rw [found]
            rfl
      · rw [if_neg plain]
        constructor
        · intro scanned
          cases scanned
        · rintro ⟨same, inside⟩
          cases value with
          | nil =>
            cases same
            exact absurd rfl ends
          | cons first value =>
            cases same
            exact absurd (inside octet List.mem_cons_self) plain

/-- A string with its quotes, and what follows it. -/
def scanQuoted : List UInt8 → Option (List UInt8 × List UInt8)
  | [] => none
  | octet :: rest => if octet = quote then scanString rest else none

theorem scanQuoted_iff {text value rest : List UInt8} :
    scanQuoted text = some (value, rest) ↔ Quoted value text rest := by
  cases text with
  | nil => simp [scanQuoted, Quoted]
  | cons octet text =>
    unfold scanQuoted Quoted
    by_cases opens : octet = quote
    · subst opens
      simp only [if_true, scanString_iff, List.cons.injEq, true_and]
    · simp [opens]

/-- A name and a string, up to the next token. -/
def scanMember (text : List UInt8) : Option ((List UInt8 × List UInt8) × List UInt8) :=
  match scanQuoted text with
  | none => none
  | some (key, text) =>
    match skipSpace text with
    | [] => none
    | octet :: text =>
      if octet ≠ colon then none
      else
        match scanQuoted (skipSpace text) with
        | none => none
        | some (value, text) => some ((key, value), skipSpace text)

theorem Quoted.solid {value text rest : List UInt8} (quoted : Quoted value text rest) :
    ∀ octet ∈ text.head?, isSpace octet = false := by
  intro octet first
  rw [quoted.1] at first
  cases first
  decide

theorem Member.solid {key value text rest : List UInt8} (member : Member key value text rest) :
    ∀ octet ∈ text.head?, isSpace octet = false := by
  obtain ⟨afterKey, afterColon, valueText, afterValue, quoted, -⟩ := member
  exact quoted.solid

theorem scanMember_iff {text key value rest : List UInt8}
    (solid : ∀ octet ∈ rest.head?, isSpace octet = false) :
    scanMember text = some ((key, value), rest) ↔ Member key value text rest := by
  constructor
  · intro scanned
    unfold scanMember at scanned
    split at scanned
    · cases scanned
    rename_i first afterKey quoted
    split at scanned
    · cases scanned
    rename_i octet afterColon skipped
    split at scanned
    · cases scanned
    rename_i isColon
    obtain rfl : octet = colon := by simpa using isColon
    split at scanned
    · cases scanned
    rename_i second afterValue quotedValue
    cases scanned
    exact ⟨afterKey, afterColon, skipSpace afterColon, afterValue, scanQuoted_iff.mp quoted,
      skipped ▸ spaced_skipSpace afterKey, spaced_skipSpace afterColon,
      scanQuoted_iff.mp quotedValue, spaced_skipSpace afterValue⟩
  · rintro ⟨afterKey, afterColon, valueText, afterValue, quoted, behindKey, behindColon,
      quotedValue, behindValue⟩
    have atColon : skipSpace afterKey = colon :: afterColon :=
      (skipSpace_cons (by decide)).mpr behindKey
    have atValue := skipSpace_spaced behindColon quotedValue.solid
    have atRest := skipSpace_spaced behindValue solid
    unfold scanMember
    rw [scanQuoted_iff.mpr quoted]
    simp only [atColon, ne_eq, not_true_eq_false, if_false, atValue,
      scanQuoted_iff.mpr quotedValue, atRest]

theorem scanMember_solid {text rest : List UInt8} {pair : List UInt8 × List UInt8}
    (scanned : scanMember text = some (pair, rest)) :
    ∀ octet ∈ rest.head?, isSpace octet = false := by
  unfold scanMember at scanned
  split at scanned
  · cases scanned
  split at scanned
  · cases scanned
  split at scanned
  · cases scanned
  split at scanned
  · cases scanned
  cases scanned
  exact skipSpace_solid _

/-- Members begin with the first of them, and go on behind a comma. -/
theorem members_iff {pairs : List (List UInt8 × List UInt8)} {text rest : List UInt8}
    (solid : ∀ octet ∈ rest.head?, isSpace octet = false) :
    Members pairs text rest ↔
      ∃ pair later, scanMember text = some (pair, later) ∧
        (pairs = [pair] ∧ later = rest ∨
          ∃ behind others, later = comma :: behind ∧ pairs = pair :: others ∧
            Members others (skipSpace behind) rest) := by
  have isSolid (behind : List UInt8) :
      ∀ octet ∈ (comma :: behind).head?, isSpace octet = false := by
    intro octet first
    cases first
    decide
  constructor
  · intro members
    cases members with
    | @last key value _ _ member =>
      exact ⟨(key, value), rest, (scanMember_iff solid).mpr member, .inl ⟨rfl, rfl⟩⟩
    | @more key value _ later next _ others member spaced members =>
      have begins : ∀ octet ∈ next.head?, isSpace octet = false := by
        cases members with
        | last member => exact member.solid
        | more member spaced members => exact member.solid
      refine ⟨(key, value), comma :: later, (scanMember_iff (isSolid later)).mpr member,
        .inr ⟨later, others, rfl, rfl, ?_⟩⟩
      rw [skipSpace_spaced spaced begins]
      exact members
  · rintro ⟨⟨key, value⟩, later, scanned, ⟨rfl, rfl⟩ | ⟨behind, others, rfl, rfl, members⟩⟩
    · exact .last ((scanMember_iff solid).mp scanned)
    · exact .more ((scanMember_iff (isSolid behind)).mp scanned) (spaced_skipSpace behind) members

theorem Spaced.suffix {text rest : List UInt8} (spaced : Spaced text rest) : rest <:+ text := by
  obtain ⟨space, rfl, -⟩ := spaced
  exact List.suffix_append space rest

theorem Quoted.suffix {value text rest : List UInt8} (quoted : Quoted value text rest) :
    rest <:+ text := by
  rw [quoted.1]
  exact ⟨quote :: (value ++ [quote]), by simp⟩

theorem Members.suffix {pairs : List (List UInt8 × List UInt8)} {text rest : List UInt8}
    (members : Members pairs text rest) : rest <:+ text := by
  have first {key value text rest : List UInt8} (member : Member key value text rest) :
      rest <:+ text := by
    obtain ⟨afterKey, afterColon, valueText, afterValue, quotedKey, behindKey, behindColon,
      quotedValue, behindValue⟩ := member
    have colon := (List.suffix_cons colon afterColon).trans behindKey.suffix
    have value := behindValue.suffix.trans quotedValue.suffix
    exact value.trans (behindColon.suffix.trans (colon.trans quotedKey.suffix))
  induction members with
  | last member => exact first member
  | more member spaced members ih =>
    have later := (List.suffix_cons comma _).trans (first member)
    exact ih.trans (spaced.suffix.trans later)

/-- The last octet of a text that is no space. -/
def lastSolid (text : List UInt8) : Option UInt8 := (skipSpace text.reverse).head?

theorem lastSolid_suffix {text last : List UInt8} {octet : UInt8} (solid : isSpace octet = false)
    (blank : Spaced last []) (behind : octet :: last <:+ text) : lastSolid text = some octet := by
  obtain ⟨before, rfl⟩ := behind
  obtain ⟨space, same, isBlank⟩ := blank
  rw [List.append_nil] at same
  subst same
  have spaced : Spaced (before ++ octet :: last).reverse (octet :: before.reverse) :=
    ⟨last.reverse, by simp, fun other inside => isBlank other (List.mem_reverse.mp inside)⟩
  unfold lastSolid
  rw [(skipSpace_cons solid).mpr spaced]
  rfl

/-- The text gets shorter with every member. -/
theorem scanMember_shorter {text rest : List UInt8} {pair : List UInt8 × List UInt8}
    (scanned : scanMember text = some (pair, rest)) : rest.length < text.length := by
  obtain ⟨key, value⟩ := pair
  obtain ⟨afterKey, afterColon, valueText, afterValue, quoted, ⟨space, same, -⟩,
    ⟨space', same', -⟩, quotedValue, ⟨space'', same'', -⟩⟩ :=
    (scanMember_iff (scanMember_solid scanned)).mp scanned
  rw [quoted.1, same, same', quotedValue.1, same'']
  simp only [List.length_cons, List.length_append]
  omega

/-! ## Scanning objects of strings -/

section
variable (admits : Pairs → Bool)

theorem scanValue_string {fuel : Nat} {text value rest : List UInt8} :
    scanValue admits (fuel + 1) text = some (.string value, rest) ↔
      scanQuoted text = some (value, rest) := by
  cases text with
  | nil => simp [scanValue, scanQuoted]
  | cons octet text =>
    unfold scanValue scanQuoted
    by_cases isQuote : octet = quote
    · simp only [if_pos isQuote, Option.map_eq_some_iff, Prod.mk.injEq, Value.string.injEq]
      constructor
      · rintro ⟨⟨found, after⟩, scanned, rfl, rfl⟩
        exact scanned
      · intro scanned
        exact ⟨(value, rest), scanned, rfl, rfl⟩
    · simp only [if_neg isQuote]
      constructor
      · intro scanned
        -- every other value is no string
        split at scanned
        · split at scanned
          · cases scanned
          · split at scanned <;> cases scanned
        · split at scanned
          · split at scanned
            · cases scanned
            · obtain ⟨_, -, same⟩ := Option.map_eq_some_iff.mp scanned
              cases same
          · split at scanned
            · cases scanned
            · obtain ⟨_, -, same⟩ := Option.map_eq_some_iff.mp scanned
              cases same
      · intro scanned
        cases scanned

/-- The first pair of an object whose value is a string is a member of the grammar. -/
theorem scanPairs_cons {fuel : Nat} {text key value rest : List UInt8} {pairs : Pairs} :
    scanPairs admits (fuel + 2) text = some ((key, .string value) :: pairs, rest) ↔
      ∃ next, scanMember text = some ((key, value), next) ∧
        (next = closeBrace :: rest ∧ pairs = [] ∨
          ∃ behind, next = comma :: behind ∧
            scanPairs admits (fuel + 1) (skipSpace behind) = some (pairs, rest)) := by
  constructor
  · intro scanned
    cases text with
    | nil => cases scanned
    | cons octet text =>
      unfold scanPairs at scanned
      split at scanned
      · cases scanned
      rename_i isQuote
      obtain rfl : octet = quote := by simpa using isQuote
      split at scanned
      · cases scanned
      rename_i first afterKey scannedKey
      split at scanned
      · cases scanned
      rename_i octet afterColon skipped
      split at scanned
      · cases scanned
      rename_i isColon
      obtain rfl : octet = colon := by simpa using isColon
      split at scanned
      · cases scanned
      rename_i found afterValue scannedValue
      split at scanned
      · cases scanned
      rename_i octet behind skippedValue
      have quotedKey : scanQuoted (quote :: text) = some (first, afterKey) := scannedKey
      split at scanned
      · rename_i closes
        cases scanned
        have quoted := (scanValue_string admits).mp scannedValue
        refine ⟨closeBrace :: rest, ?_, .inl ⟨rfl, rfl⟩⟩
        simp only [scanMember, quotedKey, skipped, ne_eq, not_true_eq_false, if_false, quoted,
          skippedValue, closes]
      · split at scanned
        · rename_i goesOn
          obtain ⟨⟨others, after⟩, scannedOthers, same⟩ := Option.map_eq_some_iff.mp scanned
          cases same
          have quoted := (scanValue_string admits).mp scannedValue
          refine ⟨comma :: behind, ?_, .inr ⟨behind, rfl, scannedOthers⟩⟩
          simp only [scanMember, quotedKey, skipped, ne_eq, not_true_eq_false, if_false, quoted,
            skippedValue, goesOn]
        · cases scanned
  · rintro ⟨next, scanned, next_is⟩
    unfold scanMember at scanned
    split at scanned
    · cases scanned
    rename_i first afterKey quotedKey
    split at scanned
    · cases scanned
    rename_i octet afterColon skipped
    split at scanned
    · cases scanned
    rename_i isColon
    split at scanned
    · cases scanned
    rename_i second afterValue quotedValue
    cases scanned
    cases text with
    | nil => cases quotedKey
    | cons opening text =>
      by_cases isQuote : opening = quote
      · simp only [scanQuoted, if_pos isQuote] at quotedKey
        have valued : scanValue admits (fuel + 1) _ = _ :=
          (scanValue_string admits).mpr quotedValue
        unfold scanPairs
        simp only [ne_eq, isQuote, not_true_eq_false, if_false, quotedKey, skipped, isColon, valued]
        obtain ⟨closes, rfl⟩ | ⟨behind, goesOn, others⟩ := next_is
        · simp only [closes, if_true]
        · have differs : comma ≠ closeBrace := by decide
          simp only [goesOn, if_neg differs, if_true, others, Option.map_some]
      · simp only [scanQuoted, if_neg isQuote] at quotedKey
        cases quotedKey

/-- There is no object of no pairs behind a brace that does not close at once. -/
theorem scanPairs_some {fuel : Nat} {text rest : List UInt8} :
    scanPairs admits fuel text ≠ some ([], rest) := by
  intro scanned
  cases fuel with
  | zero => cases scanned
  | succ fuel =>
    cases text with
    | nil => cases scanned
    | cons octet text =>
      unfold scanPairs at scanned
      split at scanned
      · cases scanned
      split at scanned
      · cases scanned
      split at scanned
      · cases scanned
      split at scanned
      · cases scanned
      split at scanned
      · cases scanned
      split at scanned
      · cases scanned
      split at scanned
      · cases scanned
      · split at scanned
        · obtain ⟨_, -, same⟩ := Option.map_eq_some_iff.mp scanned
          cases same
        · cases scanned

/-- Pairs of strings, as values. -/
def strings (pairs : List (List UInt8 × List UInt8)) : Pairs :=
  pairs.map fun pair => (pair.1, .string pair.2)

theorem map_fst_strings (pairs : List (List UInt8 × List UInt8)) :
    (strings pairs).map Prod.fst = pairs.map Prod.fst := by
  simp [strings]

theorem mem_strings {pairs : List (List UInt8 × List UInt8)} {key value : List UInt8} :
    (key, .string value) ∈ strings pairs ↔ (key, value) ∈ pairs := by
  simp [strings]

theorem exists_strings {pairs : Pairs} (valued : ∀ pair ∈ pairs, ∃ text, pair.2 = .string text) :
    ∃ texts, pairs = strings texts := by
  induction pairs with
  | nil => exact ⟨[], rfl⟩
  | cons pair pairs ih =>
    obtain ⟨key, value⟩ := pair
    obtain ⟨text, rfl⟩ := valued _ List.mem_cons_self
    obtain ⟨texts, rfl⟩ := ih fun pair inside => valued pair (List.mem_cons_of_mem _ inside)
    exact ⟨(key, text) :: texts, rfl⟩

/-- The scanner finds pairs of strings exactly where the grammar has such members. -/
theorem scanPairs_strings {fuel : Nat} {text rest : List UInt8}
    {pairs : List (List UInt8 × List UInt8)} (fuelled : text.length ≤ fuel) :
    scanPairs admits (fuel + 1) text = some (strings pairs, rest) ↔
      Members pairs text (closeBrace :: rest) := by
  have solid : ∀ octet ∈ (closeBrace :: rest).head?, isSpace octet = false := by
    intro octet first
    cases first
    decide
  induction fuel generalizing text pairs with
  | zero =>
    obtain rfl := List.length_eq_zero_iff.mp (Nat.le_zero.mp fuelled)
    constructor
    · intro scanned
      cases scanned
    · intro members
      obtain ⟨pair, later, scanned, -⟩ := (members_iff solid).mp members
      cases scanned
  | succ fuel ih =>
    rw [members_iff solid]
    constructor
    · intro scanned
      cases pairs with
      | nil => exact absurd scanned (scanPairs_some admits)
      | cons pair others =>
        obtain ⟨next, member, ⟨rfl, none⟩ | ⟨behind, rfl, scannedOthers⟩⟩ :=
          (scanPairs_cons admits).mp scanned
        · obtain rfl := List.map_eq_nil_iff.mp none
          exact ⟨pair, _, member, .inl ⟨rfl, rfl⟩⟩
        · have shorter := scanMember_shorter member
          have skips := length_skipSpace_le behind
          simp only [List.length_cons] at shorter
          exact ⟨pair, _, member, .inr ⟨behind, others, rfl, rfl,
            (ih (by omega)).mp scannedOthers⟩⟩
    · rintro ⟨pair, later, member, ⟨rfl, rfl⟩ | ⟨behind, others, rfl, rfl, members⟩⟩
      · exact (scanPairs_cons admits).mpr ⟨_, member, .inl ⟨rfl, rfl⟩⟩
      · have shorter := scanMember_shorter member
        have skips := length_skipSpace_le behind
        simp only [List.length_cons] at shorter
        exact (scanPairs_cons admits).mpr ⟨_, member, .inr ⟨behind, rfl,
          (ih (by omega)).mpr members⟩⟩

/-- Members begin with a quote. -/
theorem Members.quoted {pairs : List (List UInt8 × List UInt8)} {text rest : List UInt8}
    (members : Members pairs text rest) : ∃ behind, text = quote :: behind := by
  cases members with
  | last member =>
    obtain ⟨_, _, _, _, quoted, -⟩ := member
    exact ⟨_, quoted.1⟩
  | more member =>
    obtain ⟨_, _, _, _, quoted, -⟩ := member
    exact ⟨_, quoted.1⟩

/-- A value is an object of some pairs exactly if a brace and such pairs stand there. -/
theorem scanValue_object {fuel : Nat} {text rest : List UInt8} {pairs : Pairs}
    (nonempty : pairs ≠ []) :
    scanValue admits (fuel + 1) text = some (.object pairs, rest) ↔
      ∃ inside, text = openBrace :: inside ∧ (skipSpace inside).head? ≠ some closeBrace ∧
        scanPairs admits fuel (skipSpace inside) = some (pairs, rest) ∧ admits pairs = true := by
  have differs : openBrace ≠ quote := by decide
  constructor
  · intro scanned
    cases text with
    | nil => cases scanned
    | cons octet inside =>
      unfold scanValue at scanned
      split at scanned
      · obtain ⟨_, -, same⟩ := Option.map_eq_some_iff.mp scanned
        cases same
      split at scanned
      · rename_i braced
        dsimp only at scanned
        split at scanned
        · cases scanned
        rename_i found after foundPairs
        split at scanned
        · rename_i admitted
          cases scanned
          split at foundPairs
          · cases foundPairs
            exact absurd rfl nonempty
          · rename_i isOpen
            exact ⟨inside, by rw [braced], isOpen, foundPairs, admitted⟩
        · cases scanned
      split at scanned
      · dsimp only at scanned
        split at scanned
        · cases scanned
        · obtain ⟨_, -, same⟩ := Option.map_eq_some_iff.mp scanned
          cases same
      · split at scanned
        · cases scanned
        · obtain ⟨_, -, same⟩ := Option.map_eq_some_iff.mp scanned
          cases same
  · rintro ⟨inside, rfl, isOpen, found, admitted⟩
    unfold scanValue
    simp only [if_neg differs, if_true, if_neg isOpen, found, admitted]

/-- The pairs of an object were admitted. -/
theorem loads_admits {text : List UInt8} {pairs : Pairs} (nonempty : pairs ≠ [])
    (loaded : loads admits text = some (.object pairs)) : admits pairs = true := by
  unfold loads at loaded
  split at loaded
  · cases loaded
  rename_i value rest scanned
  split at loaded
  · cases loaded
    obtain ⟨-, -, -, -, admitted⟩ := (scanValue_object admits nonempty).mp scanned
    exact admitted
  · cases loaded

/-- A text is read as an object of strings exactly if it is one that is admitted. -/
theorem loads_strings {text : List UInt8} {pairs : List (List UInt8 × List UInt8)}
    (nonempty : pairs ≠ []) :
    loads admits text = some (.object (strings pairs)) ↔
      IsObject pairs text ∧ admits (strings pairs) = true := by
  have blankless : isSpace openBrace = false := by decide
  have some_pairs : strings pairs ≠ [] := fun none => nonempty (List.map_eq_nil_iff.mp none)
  have shorter := length_skipSpace_le text
  -- the brace leaves one octet of fuel too many for the pairs
  have fuelled {inside : List UInt8} (begins : skipSpace text = openBrace :: inside) :
      ∃ fuel, text.length = fuel + 1 ∧ (skipSpace inside).length ≤ fuel := by
    have skips := length_skipSpace_le inside
    rw [begins, List.length_cons] at shorter
    exact ⟨text.length - 1, by omega, by omega⟩
  unfold loads
  constructor
  · intro loaded
    split at loaded
    · cases loaded
    rename_i value rest scanned
    split at loaded
    · rename_i ends
      cases loaded
      obtain ⟨inside, begins, -, found, admitted⟩ := (scanValue_object admits some_pairs).mp scanned
      obtain ⟨fuel, length, enough⟩ := fuelled begins
      rw [length] at found
      exact ⟨⟨inside, skipSpace inside, rest, (skipSpace_cons blankless).mp begins,
        spaced_skipSpace inside, (scanPairs_strings admits enough).mp found,
        skipSpace_nil.mp ends⟩, admitted⟩
    · cases loaded
  · rintro ⟨⟨inside, first, last, opens, spaced, members, ends⟩, admitted⟩
    obtain ⟨behind, rfl⟩ := members.quoted
    have begins := (skipSpace_cons blankless).mpr opens
    have atFirst : skipSpace inside = quote :: behind := (skipSpace_cons (by decide)).mpr spaced
    obtain ⟨fuel, length, enough⟩ := fuelled begins
    have scanned : scanValue admits (text.length + 1) _ = some (_, last) :=
      (scanValue_object admits some_pairs).mpr ⟨inside, begins, by simp [atFirst, quote, closeBrace], by
        rw [length, scanPairs_strings admits enough, atFirst]
        exact members, admitted⟩
    rw [scanned]
    simp only [skipSpace_nil.mpr ends, if_true]

end

end Json
