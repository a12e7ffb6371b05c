import Mathlib.Data.List.Basic
import Mathlib.Data.List.Infix

/-! # Reading a stream in pieces

A grammar says what the front of a stream holds: not yet enough, something
malformed, or one item of a known length.  As long as more input never takes a
verdict back, a reader that is fed the stream piece by piece finds what one parse of
the whole stream finds.
-/

namespace Streams

/-- What the front of a stream holds. -/
inductive Front (ε : Type*) where
  | short
  | malformed (error : ε)
  | item (length : Nat)
  deriving DecidableEq, Repr

/-- A grammar of items: its verdicts are never taken back by more input. -/
structure Grammar (α ε : Type*) where
  front : List α → Front ε
  item_inside : ∀ {stream length}, front stream = .item length →
    0 < length ∧ length ≤ stream.length
  extend_malformed : ∀ {stream error} more, front stream = .malformed error →
    front (stream ++ more) = .malformed error
  extend_item : ∀ {stream length} more, front stream = .item length →
    front (stream ++ more) = .item length

/-- What a parse makes of a stream: its items, what is left behind the last of them,
and the error that ended it. -/
structure Parsed (α ε : Type*) where
  items : List (List α)
  rest : List α
  failure : Option ε
  deriving DecidableEq, Repr

/-- Items in front of a parse. -/
def Parsed.behind {α ε : Type*} (items : List (List α)) (parsed : Parsed α ε) : Parsed α ε :=
  { parsed with items := items ++ parsed.items }

namespace Grammar

variable {α ε : Type*} (grammar : Grammar α ε)

/-- The parse of a whole stream. -/
def parse (stream : List α) : Parsed α ε :=
  match _front : grammar.front stream with
  | .short => ⟨[], stream, none⟩
  | .malformed error => ⟨[], stream, some error⟩
  | .item length =>
    let later := parse (stream.drop length)
    { later with items := stream.take length :: later.items }
termination_by stream.length
decreasing_by
  have inside := grammar.item_inside _front
  simp only [List.length_drop]
  omega

variable {grammar}

theorem parse_short {stream : List α} (short : grammar.front stream = .short) :
    grammar.parse stream = ⟨[], stream, none⟩ := by
  rw [parse]
  split <;> simp_all

theorem parse_malformed {stream : List α} {error : ε}
    (malformed : grammar.front stream = .malformed error) :
    grammar.parse stream = ⟨[], stream, some error⟩ := by
  rw [parse]
  split <;> simp_all

theorem parse_item {stream : List α} {length : Nat} (item : grammar.front stream = .item length) :
    grammar.parse stream =
      { grammar.parse (stream.drop length) with
        items := stream.take length :: (grammar.parse (stream.drop length)).items } := by
  rw [parse]
  split
  · simp_all
  · simp_all
  · rename_i found
    rw [item] at found
    cases found
    rfl

variable (grammar)

/-- Feeding more input: after an error it is only kept, before one it is parsed behind what
was left. -/
theorem parse_append (stream more : List α) :
    grammar.parse (stream ++ more) =
      match (grammar.parse stream).failure with
      | some error =>
        ⟨(grammar.parse stream).items, (grammar.parse stream).rest ++ more, some error⟩
      | none =>
        Parsed.behind (grammar.parse stream).items
          (grammar.parse ((grammar.parse stream).rest ++ more)) := by
  induction stream using parse.induct grammar with
  | case1 stream short =>
    rw [parse_short short]
    simp [Parsed.behind]
  | case2 stream error malformed =>
    rw [parse_malformed malformed, parse_malformed (grammar.extend_malformed more malformed)]
  | case3 stream length item ih =>
    have inside := grammar.item_inside item
    rw [parse_item (grammar.extend_item more item), parse_item item,
      List.drop_append_of_le_length inside.2, List.take_append_of_le_length inside.2, ih]
    cases (grammar.parse (stream.drop length)).failure <;> simp [Parsed.behind]

/-- What is left is what the items leave. -/
theorem parse_conserves (stream : List α) :
    (grammar.parse stream).items.flatten ++ (grammar.parse stream).rest = stream := by
  induction stream using parse.induct grammar with
  | case1 stream short => simp [parse_short short]
  | case2 stream error malformed => simp [parse_malformed malformed]
  | case3 stream length item ih =>
    rw [parse_item item]
    simp only [List.flatten_cons, List.append_assoc, ih, List.take_append_drop]

/-- A stream that starts with whole items is parsed into them. -/
theorem parse_flatten {items : List (List α)}
    (whole : ∀ item ∈ items, ∀ more, grammar.front (item ++ more) = .item item.length)
    (tail : List α) :
    grammar.parse (items.flatten ++ tail) = Parsed.behind items (grammar.parse tail) := by
  induction items with
  | nil => rfl
  | cons item items ih =>
    have first := whole item (by simp) (items.flatten ++ tail)
    rw [List.flatten_cons, List.append_assoc, parse_item first, List.drop_left, List.take_left,
      ih fun later listed => whole later (List.mem_cons_of_mem _ listed)]
    rfl

/-- The parse stops where there is not yet enough, or at its error. -/
theorem front_rest (stream : List α) :
    grammar.front (grammar.parse stream).rest =
      match (grammar.parse stream).failure with
      | none => .short
      | some error => .malformed error := by
  induction stream using parse.induct grammar with
  | case1 stream short => rwa [parse_short short]
  | case2 stream error malformed => rwa [parse_malformed malformed]
  | case3 stream length item ih => rwa [parse_item item]

end Grammar

end Streams
