import EntryFilter.Json.Basic

/-! # Fields of an object

A structure is read from an object with named members, of which unknown ones are passed over and
none may come twice, or from an array with its fields in order. -/

namespace EntryFilter.Json

/-- The member with the given name: `some none` if it is missing, nothing if it comes twice. -/
def member? (name : String) (members : List (String × Json)) : Option (Option Json) :=
  match members.filter (·.1 == name) with
  | [] => some none
  | [(_, value)] => some (some value)
  | _ => none

/-- The fields with the given names, of which some may be missing. -/
def fields? (names : List String) : Json → Option (List (Option Json))
  | .object members => names.mapM fun name => member? name members
  | .array items =>
    if items.length ≤ names.length then
      some (items.map some ++ List.replicate (names.length - items.length) none)
    else none
  | _ => none

/-- The text of a string. -/
def text? : Json → Option String
  | .string text => some text
  | _ => none

end EntryFilter.Json
