import EntryFilter.Json.Fields

/-! # Settings

Limits on the size of a filter, and whether literals must have the declared types of their
fields. Settings are read from an object in which every part may be missing. -/

namespace EntryFilter

/-- How many groups may be open inside each other and how many conditions a filter may have. -/
structure Limits where
  depth : Nat
  conditions : Nat
  deriving DecidableEq

namespace Limits

/-- The limits that hold unless others are set. -/
def standard : Limits := ⟨64, 512⟩

/-- A count of at most 64 bits. -/
def count? : Json → Option Nat
  | .integer n => if 0 ≤ n ∧ n.toNat < UInt64.size then some n.toNat else none
  | _ => none

/-- The part with a fallback for when it is missing. -/
def partOr {α : Type} (fallback : α) (read? : Json → Option α) : Option Json → Option α
  | none => some fallback
  | some json => read? json

/-- The limits that a tree describes. -/
def ofJson? (json : Json) : Option Limits := do
  match ← json.fields? ["max_depth", "max_terms"] with
  | [depth, conditions] =>
    let depth ← partOr standard.depth count? depth
    let conditions ← partOr standard.conditions count? conditions
    return ⟨depth, conditions⟩
  | _ => none

end Limits

structure Settings where
  limits : Limits
  strict : Bool
  deriving DecidableEq

namespace Settings

/-- The settings that hold unless others are set. -/
def standard : Settings := ⟨Limits.standard, false⟩

/-- A truth value. -/
def switch? : Json → Option Bool
  | .bool b => some b
  | _ => none

/-- Whether a tree asks for strict compilation. -/
def strictOfJson? (json : Json) : Option Bool := do
  match ← json.fields? ["strict"] with
  | [strict] => Limits.partOr standard.strict switch? strict
  | _ => none

/-- The settings that a tree describes. -/
def ofJson? (json : Json) : Option Settings := do
  match ← json.fields? ["parser", "compile"] with
  | [limits, compilation] =>
    let limits ← Limits.partOr standard.limits Limits.ofJson? limits
    let strict ← Limits.partOr standard.strict strictOfJson? compilation
    return ⟨limits, strict⟩
  | _ => none

end Settings

end EntryFilter
