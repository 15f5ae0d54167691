import EntryFilter.Filter.Literal
import EntryFilter.Operator

/-! # Filters

A filter is a tree of conditions on fields. Chains of `and` and `or` lean to the left. The parser
gives an operand exactly to the operators that are not checks; a tree that comes from elsewhere
may have one missing or one too many. -/

namespace EntryFilter

inductive Filter where
  /-- The blank filter, which every entry passes. -/
  | blank
  | condition (field : String) (operator : Operator) (operand : Option Literal)
  | and (left right : Filter)
  | or (left right : Filter)
  deriving DecidableEq

namespace Filter

/-- Whether this is the blank filter. -/
def isBlank : Filter → Bool
  | blank => true
  | _ => false

/-- The fields of all conditions from left to right. -/
def conditionFields : Filter → List String
  | blank => []
  | condition field _ _ => [field]
  | and left right => left.conditionFields ++ right.conditionFields
  | or left right => left.conditionFields ++ right.conditionFields

/-- The names of a list without repetitions, each where it comes first. -/
def firstUses (names : List String) : List String :=
  (names.foldl (fun seen name => if seen.contains name then seen else name :: seen) []).reverse

/-- The fields on which the filter depends, in the order of their first use. -/
def fields (f : Filter) : List String := firstUses f.conditionFields

/-- The number of conditions. -/
def size (f : Filter) : Nat := f.conditionFields.length

end Filter

end EntryFilter
