import EntryFilter.Number.Layout

/-! # JSON trees

A tree keeps the members of an object in the order in which they were written, repeated names
included. Integers are kept apart from other numbers. A number too large for the binary format is
kept as an infinity, which `fits` refuses. -/

namespace EntryFilter

inductive Json where
  | null
  | bool (value : Bool)
  | integer (value : Int)
  | decimal (value : Binary64)
  | string (text : String)
  | array (items : List Json)
  | object (members : List (String × Json))

namespace Json

/-- How many arrays and objects may stand inside each other in a text that is read. -/
def maxNesting : Nat := 127

mutual

/-- Whether all numbers are finite and at most `room` arrays and objects are nested. -/
def fits : Nat → Json → Bool
  | _, null => true
  | _, bool _ => true
  | _, integer _ => true
  | _, decimal value => value.isFinite
  | _, string _ => true
  | 0, array _ => false
  | room + 1, array items => itemsFit room items
  | 0, object _ => false
  | room + 1, object members => membersFit room members

def itemsFit (room : Nat) : List Json → Bool
  | [] => true
  | item :: rest => fits room item && itemsFit room rest

def membersFit (room : Nat) : List (String × Json) → Bool
  | [] => true
  | (_, value) :: rest => fits room value && membersFit room rest

end

end Json

end EntryFilter
