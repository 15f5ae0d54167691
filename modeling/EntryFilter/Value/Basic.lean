import EntryFilter.Dictionary
import EntryFilter.Number.Binary64

/-! # Values

What a field of an entry may hold. `null` is a value of its own and not the same as a field that
is missing. The members of a `dict` are ordered by name. -/

namespace EntryFilter

inductive Value where
  | null
  | bool (value : Bool)
  | int (value : Int64)
  | float (value : Binary64)
  | text (value : String)
  | list (items : List Value)
  | dict (members : List (String × Value))

namespace Value

/-- The name of the kind of value, as messages give it. -/
def kind : Value → String
  | null => "null"
  | bool _ => "bool"
  | int _ => "int"
  | float _ => "float"
  | text _ => "string"
  | list _ => "list"
  | dict _ => "dict"

def isNull : Value → Bool
  | null => true
  | _ => false

/-- Null or the empty text: both count as having no value. -/
def isBlank : Value → Bool
  | null => true
  | text s => s == ""
  | _ => false

def isNumber : Value → Bool
  | int _ => true
  | float _ => true
  | _ => false

def asBool? : Value → Option Bool
  | bool b => some b
  | _ => none

def asInt? : Value → Option Int64
  | int n => some n
  | _ => none

/-- The number held, an integer as the nearest binary number. -/
def asFloat? : Value → Option Binary64
  | int n => some (.ofInt n.toInt)
  | float x => some x
  | _ => none

def asText? : Value → Option String
  | text s => some s
  | _ => none

mutual

/-- Equality of the same kinds of value, part by part. Floats are equal as numbers, so NaN differs
from itself; an integer is never equal to a float here. -/
def same : Value → Value → Bool
  | null, null => true
  | bool a, bool b => a == b
  | int a, int b => a == b
  | float a, float b => a.same b
  | text a, text b => a == b
  | list as, list bs => sameItems as bs
  | dict as, dict bs => sameMembers as bs
  | _, _ => false

def sameItems : List Value → List Value → Bool
  | [], [] => true
  | a :: as, b :: bs => same a b && sameItems as bs
  | _, _ => false

def sameMembers : List (String × Value) → List (String × Value) → Bool
  | [], [] => true
  | (m, a) :: as, (n, b) :: bs => m == n && same a b && sameMembers as bs
  | _, _ => false

end

end Value

end EntryFilter
