import EntryFilter.Dictionary
import EntryFilter.Operator
import EntryFilter.Value.Basic

/-! # Predicates

A predicate is what a filter becomes: conditions on the keys of stored entries, joined by
conjunctions and disjunctions of any length. The keys are those under which entries are stored. -/

namespace EntryFilter

inductive Predicate where
  /-- Holds for every entry. -/
  | all
  /-- The value under the key compares with the operand. -/
  | compare (comparison : Comparison) (key : String) (operand : Value)
  /-- The value under the key is text in which the pattern matches somewhere. -/
  | matching (key : String) (pattern : String) (ignoreCase : Bool)
  /-- A value, null included, is stored under the key, or none is. -/
  | present (key : String) (expected : Bool)
  | and (operands : List Predicate)
  | or (operands : List Predicate)

namespace Predicate

/-- Whether this is the predicate that holds for every entry by its form. -/
def isAll : Predicate → Bool
  | all => true
  | _ => false

mutual

/-- The keys of all conditions from left to right. -/
def keys : Predicate → List String
  | all => []
  | compare _ key _ => [key]
  | matching key _ _ => [key]
  | present key _ => [key]
  | and operands => keysOfAll operands
  | or operands => keysOfAll operands

def keysOfAll : List Predicate → List String
  | [] => []
  | operand :: rest => operand.keys ++ keysOfAll rest

end

/-- The keys on which the predicate depends, each once, in increasing order. -/
def distinctKeys (p : Predicate) : List String := orderNames p.keys

end Predicate

end EntryFilter
