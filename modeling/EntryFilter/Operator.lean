/-! # Operators

The operators of a condition. Six of them compare a field with a value, three look for text in a
field, and four check a field without any value. Each has a name for programs and a form in which
it is written in a filter. -/

namespace EntryFilter

/-- The six ways to compare two values. -/
inductive Comparison where
  | eq
  | ne
  | gt
  | lt
  | gte
  | lte
  deriving DecidableEq

namespace Comparison

def all : List Comparison := [eq, ne, gt, lt, gte, lte]

def name : Comparison → String
  | eq => "eq"
  | ne => "ne"
  | gt => "gt"
  | lt => "lt"
  | gte => "gte"
  | lte => "lte"

def symbol : Comparison → String
  | eq => "="
  | ne => "!="
  | gt => ">"
  | lt => "<"
  | gte => ">="
  | lte => "<="

/-- The comparison with the given name. -/
def ofName? (name : String) : Option Comparison := all.find? fun c => c.name == name

end Comparison

inductive Operator where
  | compare (comparison : Comparison)
  | contains
  | startsWith
  | endsWith
  | isNull
  | isNotNull
  | isEmpty
  | isNotEmpty
  deriving DecidableEq

namespace Operator

def all : List Operator :=
  Comparison.all.map compare ++
    [contains, startsWith, endsWith, isNull, isNotNull, isEmpty, isNotEmpty]

/-- Whether the operator checks a field without any value. -/
def isCheck : Operator → Bool
  | isNull => true
  | isNotNull => true
  | isEmpty => true
  | isNotEmpty => true
  | _ => false

/-- The name for programs. -/
def name : Operator → String
  | compare c => c.name
  | contains => "contains"
  | startsWith => "startswith"
  | endsWith => "endswith"
  | isNull => "is_null"
  | isNotNull => "is_not_null"
  | isEmpty => "is_empty"
  | isNotEmpty => "is_not_empty"

/-- The form in a filter. -/
def symbol : Operator → String
  | compare c => c.symbol
  | contains => "contains"
  | startsWith => "startswith"
  | endsWith => "endswith"
  | isNull => "is null"
  | isNotNull => "is not null"
  | isEmpty => "is empty"
  | isNotEmpty => "is not empty"

/-- The operator with the given name. -/
def ofName? (name : String) : Option Operator := all.find? fun o => o.name == name

end Operator

end EntryFilter
