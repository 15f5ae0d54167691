import EntryFilter.Value.Text

/-! # Literals

What stands behind the operator of a condition: quoted text, a number or a truth value. The
language has only one kind of number. -/

namespace EntryFilter

inductive Literal where
  | text (value : String)
  | number (value : Binary64)
  | bool (value : Bool)
  deriving DecidableEq

namespace Literal

/-- The name of the kind of literal. -/
def kind : Literal → String
  | text _ => "string"
  | number _ => "number"
  | bool _ => "bool"

/-- The literal as a value that may be stored. -/
def toValue : Literal → Value
  | text s => .text s
  | number x => .float x
  | bool b => .bool b

/-- The literal as messages show it. -/
def display (l : Literal) : String := l.toValue.display

/-- The JSON tree of a literal. -/
def toJson (l : Literal) : Json := l.toValue.toJson

/-- The literal that a tree describes. Integers become numbers like all others. -/
def ofJson? : Json → Option Literal
  | .string s => some (text s)
  | .integer n => some (number (.ofInt n))
  | .decimal x => some (number x)
  | .bool b => some (bool b)
  | _ => none

/-- The literal that a JSON text describes. -/
def ofJsonText? (source : String) : Option Literal :=
  match Json.ofText? source with
  | some json => if json.fits Json.maxNesting then ofJson? json else none
  | none => none

end Literal

end EntryFilter
