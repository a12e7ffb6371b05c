import Goodix.Primitives

/-! # FDT interrupt flags and tables

`goodix_fdt_irq_policy.c`: which touch flags an interrupt may carry, and the tables
derived from its six channel readings.
-/

namespace Goodix.FdtIrqPolicy

open Octets

inductive FlagsContext where
  | baselineSample
  | baselineFirstSample
  | fingerDown
  | contactSample
  | fingerUp
  deriving DecidableEq, Repr

def touchMask : UInt16 := 0x003f

/-- `goodix_fdt_irq_flags_valid` -/
def irqFlagsValid (context : FlagsContext) (flags : UInt16) : Bool :=
  match context with
  | .baselineSample | .fingerUp => flags = 0
  | .baselineFirstSample => flags &&& ~~~touchMask = 0
  | .fingerDown | .contactSample => flags ≠ 0 ∧ flags &&& ~~~touchMask = 0

/-- The reading of a channel. -/
def word (raw : Block 12) (channel : Nat) : UInt16 :=
  getU16Le [raw.val.getD (channel * 2) 0, raw.val.getD (channel * 2 + 1) 0]

/-- The entry of a channel in a table. -/
def putComponent (table : Block 12) (channel : Nat) (value : UInt8) : Block 12 :=
  (table.set (channel * 2) 0x80).set (channel * 2 + 1) value

/-- The loop of every derivation.  It writes into the caller's table as it goes; what a failure
leaves there is the second part of its result. -/
def deriveChannels (component : Nat → UInt16 → Option UInt8) (raw : Block 12) :
    List Nat → Block 12 → Bool × Block 12
  | [], table => (true, table)
  | channel :: channels, table =>
    match component channel (word raw channel) with
    | none => (false, table)
    | some value => deriveChannels component raw channels (putComponent table channel value)

def channels : List Nat := [0, 1, 2, 3, 4, 5]

/-- A value that fits into an octet. -/
def octet? (value : Nat) : Option UInt8 :=
  if value > 255 then none else some (UInt8.ofNat value)

def upComponent (touchFlags : UInt16) (delta : UInt8) (channel : Nat) (reading : UInt16) :
    Option UInt8 :=
  if touchFlags &&& (1 <<< UInt16.ofNat channel) ≠ 0 then
    octet? ((reading >>> 1).toNat + delta.toNat)
  else octet? (delta.toNat - 2)

/-- `goodix_fdt_derive_up_table` -/
def deriveUpTable (raw : Block 12) (touchFlags : UInt16) (delta : UInt8) (table : Block 12) :
    Bool × Block 12 :=
  if delta < 2 ∨ irqFlagsValid .fingerDown touchFlags = false then (false, table)
  else deriveChannels (upComponent touchFlags delta) raw channels table

/-- `derive_zero_touch_table` -/
def deriveZeroTouchTable (raw table : Block 12) : Bool × Block 12 :=
  deriveChannels (fun _ reading => octet? (reading >>> 1).toNat) raw channels table

def baselineComponent (_ : Nat) (reading : UInt16) : Option UInt8 :=
  let component := (reading >>> 1).toUInt8
  if component = 0 ∨ component = 0xff then none else some component

/-- `derive_baseline_table` -/
def deriveBaseline (raw : Block 12) (touchFlags : UInt16) (context : FlagsContext)
    (table : Block 12) : Bool × Block 12 :=
  if irqFlagsValid context touchFlags = false then (false, table)
  else deriveChannels baselineComponent raw channels table

/-- `goodix_fdt_derive_baseline_table` -/
def deriveBaselineTable (raw : Block 12) (touchFlags : UInt16) (table : Block 12) :
    Bool × Block 12 :=
  deriveBaseline raw touchFlags .baselineSample table

/-- `goodix_fdt_derive_first_baseline_table` -/
def deriveFirstBaselineTable (raw : Block 12) (touchFlags : UInt16) (table : Block 12) :
    Bool × Block 12 :=
  deriveBaseline raw touchFlags .baselineFirstSample table

/-- `goodix_fdt_derive_down_table` -/
def deriveDownTable (raw : Block 12) (touchFlags : UInt16) (table : Block 12) :
    Bool × Block 12 :=
  if irqFlagsValid .fingerUp touchFlags then deriveZeroTouchTable raw table else (false, table)

/-! ## What a derivation leaves -/

/-- The tables agree except in the entries of some channels. -/
def AgreeExcept (channels : List Nat) (first second : Block 12) : Prop :=
  ∀ index, index / 2 ∈ channels ∨ first.val[index]? = second.val[index]?

theorem agreeExcept_putComponent {channel : Nat} {rest : List Nat} {first second : Block 12}
    (agree : AgreeExcept (channel :: rest) first second) (value : UInt8) :
    AgreeExcept rest (putComponent first channel value) (putComponent second channel value) := by
  intro index
  have lengths : first.val.length = second.val.length := by simp
  rcases agree index with inside | same
  · rcases List.mem_cons.mp inside with here | later
    · -- the two octets of the channel are written
      have position : index = channel * 2 ∨ index = channel * 2 + 1 := by omega
      refine .inr ?_
      rcases position with rfl | rfl <;> simp [putComponent, Block.set, List.getElem?_set]
    · exact .inl later
  · refine .inr ?_
    simp only [putComponent, Block.set, List.getElem?_set, List.length_set, lengths, same]

theorem deriveChannels_agree {component : Nat → UInt16 → Option UInt8} {raw : Block 12}
    (channels : List Nat) (first second : Block 12) (agree : AgreeExcept channels first second)
    (succeeds : (deriveChannels component raw channels first).1 = true) :
    deriveChannels component raw channels second =
      deriveChannels component raw channels first := by
  induction channels generalizing first second with
  | nil =>
    have same : first = second := by
      apply Subtype.ext
      apply List.ext_getElem?
      intro index
      simpa using agree index
    rw [same]
  | cons channel rest ih =>
    unfold deriveChannels at succeeds ⊢
    cases computed : component channel (word raw channel) with
    | none =>
      rw [computed] at succeeds
      cases succeeds
    | some value =>
      rw [computed] at succeeds
      exact ih _ _ (agreeExcept_putComponent agree value) succeeds

/-- A derivation that succeeds writes every entry: what the table was before does not matter. -/
theorem deriveChannels_whole {component : Nat → UInt16 → Option UInt8} {raw : Block 12}
    {first : Block 12} (succeeds : (deriveChannels component raw channels first).1 = true)
    (second : Block 12) :
    deriveChannels component raw channels second =
      deriveChannels component raw channels first := by
  refine deriveChannels_agree channels first second (fun index => ?_) succeeds
  by_cases inside : index < 12
  · left
    have entry : index / 2 < 6 := by omega
    simp only [channels, List.mem_cons, List.not_mem_nil, or_false]
    omega
  · right
    have beyond : 12 ≤ index := by omega
    simp [beyond]

theorem deriveBaseline_whole {raw : Block 12} {flags : UInt16} {context : FlagsContext}
    {first : Block 12} (succeeds : (deriveBaseline raw flags context first).1 = true)
    (second : Block 12) :
    deriveBaseline raw flags context second = deriveBaseline raw flags context first := by
  unfold deriveBaseline at succeeds ⊢
  split at succeeds
  · cases succeeds
  · rename_i allowed
    simp only [allowed]
    exact deriveChannels_whole succeeds second

theorem deriveBaselineTable_whole {raw : Block 12} {flags : UInt16} {first : Block 12}
    (succeeds : (deriveBaselineTable raw flags first).1 = true) (second : Block 12) :
    deriveBaselineTable raw flags second = deriveBaselineTable raw flags first :=
  deriveBaseline_whole succeeds second

theorem deriveUpTable_whole {raw : Block 12} {flags : UInt16} {delta : UInt8} {first : Block 12}
    (succeeds : (deriveUpTable raw flags delta first).1 = true) (second : Block 12) :
    deriveUpTable raw flags delta second = deriveUpTable raw flags delta first := by
  unfold deriveUpTable at succeeds ⊢
  split at succeeds
  · cases succeeds
  · rename_i allowed
    rw [if_neg allowed, if_neg allowed]
    exact deriveChannels_whole succeeds second

theorem deriveDownTable_whole {raw : Block 12} {flags : UInt16} {first : Block 12}
    (succeeds : (deriveDownTable raw flags first).1 = true) (second : Block 12) :
    deriveDownTable raw flags second = deriveDownTable raw flags first := by
  unfold deriveDownTable at succeeds ⊢
  split at succeeds
  · rename_i allowed
    rw [if_pos allowed, if_pos allowed]
    exact deriveChannels_whole succeeds second
  · cases succeeds

/-- The table of a derivation, if it succeeds. -/
def derived (derivation : Block 12 → Bool × Block 12) : Option (Block 12) :=
  match derivation (Block.zero 12) with
  | (true, table) => some table
  | (false, _) => none

theorem derived_of_eq {derivation : Block 12 → Bool × Block 12} {table : Block 12}
    (succeeds : derivation (Block.zero 12) = (true, table)) : derived derivation = some table := by
  simp [derived, succeeds]

theorem derived_baseline {raw first table : Block 12} {flags : UInt16}
    (succeeds : deriveBaselineTable raw flags first = (true, table)) :
    derived (deriveBaselineTable raw flags) = some table := by
  have verdict : (deriveBaselineTable raw flags first).1 = true := by rw [succeeds]
  exact derived_of_eq ((deriveBaselineTable_whole verdict _).trans succeeds)

theorem derived_firstBaseline {raw first table : Block 12} {flags : UInt16}
    (succeeds : deriveFirstBaselineTable raw flags first = (true, table)) :
    derived (deriveFirstBaselineTable raw flags) = some table := by
  have verdict : (deriveFirstBaselineTable raw flags first).1 = true := by rw [succeeds]
  exact derived_of_eq ((deriveBaseline_whole verdict _).trans succeeds)

theorem derived_up {raw first table : Block 12} {flags : UInt16} {delta : UInt8}
    (succeeds : deriveUpTable raw flags delta first = (true, table)) :
    derived (deriveUpTable raw flags delta) = some table := by
  have verdict : (deriveUpTable raw flags delta first).1 = true := by rw [succeeds]
  exact derived_of_eq ((deriveUpTable_whole verdict _).trans succeeds)

theorem derived_down {raw first table : Block 12} {flags : UInt16}
    (succeeds : deriveDownTable raw flags first = (true, table)) :
    derived (deriveDownTable raw flags) = some table := by
  have verdict : (deriveDownTable raw flags first).1 = true := by rw [succeeds]
  exact derived_of_eq ((deriveDownTable_whole verdict _).trans succeeds)

end Goodix.FdtIrqPolicy
