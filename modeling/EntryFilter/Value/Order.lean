import EntryFilter.Operator
import EntryFilter.Value.Basic

/-! # Comparing values

An integer and a float are compared as binary numbers, two integers exactly. Text is ordered by
its characters, and false comes before true. All other pairs of values have no order. -/

namespace EntryFilter

namespace Value

/-- Equality of two values. An integer equals a float if the nearest binary number does; inside
lists and dictionaries the two kinds of number stay apart. -/
def equals : Value → Value → Bool
  | int a, float b => (Binary64.ofInt a.toInt).same b
  | float a, int b => a.same (.ofInt b.toInt)
  | a, b => a.same b

/-- The order of two values, if they have one. -/
def order? : Value → Value → Option Ordering
  | int a, int b => some (compare a.toInt b.toInt)
  | int a, float b => (Binary64.ofInt a.toInt).compare? b
  | float a, int b => a.compare? (.ofInt b.toInt)
  | float a, float b => a.compare? b
  | text a, text b => some (compare a b)
  | bool a, bool b => some (compare a b)
  | _, _ => none

end Value

namespace Comparison

/-- Whether the stored value of a field, which may be missing, compares with an operand in the
given way. A missing value equals nothing, null included, and has no order. -/
def holds (c : Comparison) (stored : Option Value) (operand : Value) : Bool :=
  let equal := stored.any (·.equals operand)
  let ordered (accept : Ordering → Bool) := (stored.bind (·.order? operand)).any accept
  match c with
  | eq => equal
  | ne => !equal
  | gt => ordered Ordering.isGT
  | lt => ordered Ordering.isLT
  | gte => ordered Ordering.isGE
  | lte => ordered Ordering.isLE

end Comparison

end EntryFilter
