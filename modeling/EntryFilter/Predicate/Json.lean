import EntryFilter.Json.Fields
import EntryFilter.Predicate.Basic
import EntryFilter.Value.Json

/-! # Predicates as JSON

A predicate is an object with one member, which is named for the kind of predicate and holds its
parts. The predicate that holds for every entry is the word `all`. -/

namespace EntryFilter

namespace Predicate

mutual

/-- The tree of a predicate. -/
def toJson : Predicate → Json
  | all => .string "all"
  | compare c key operand =>
    .object [(c.name, .object [("key", .string key), ("value", operand.toJson)])]
  | matching key pattern ignoreCase =>
    .object [("regex", .object [
      ("key", .string key), ("pattern", .string pattern), ("case_insensitive", .bool ignoreCase)])]
  | present key expected =>
    .object [("exists", .object [("key", .string key), ("exists", .bool expected)])]
  | and operands => .object [("and", .array (operandsToJson operands))]
  | or operands => .object [("or", .array (operandsToJson operands))]

def operandsToJson : List Predicate → List Json
  | [] => []
  | operand :: rest => operand.toJson :: operandsToJson rest

end

/-- A comparison with the given parts, of which at most `room` may be nested. -/
def comparison? (room : Nat) (c : Comparison) (parts : Json) : Option Predicate := do
  match ← parts.fields? ["key", "value"] with
  | [some (.string key), some operand] =>
    if operand.fits room then (Value.decode? operand).map (compare c key) else none
  | _ => none

/-- A pattern condition with the given parts. -/
def patternCondition? (parts : Json) : Option Predicate := do
  match ← parts.fields? ["key", "pattern", "case_insensitive"] with
  | [some (.string key), some (.string text), some (.bool ignoreCase)] =>
    some (matching key text ignoreCase)
  | _ => none

/-- A condition on the presence of a key with the given parts. -/
def presence? (parts : Json) : Option Predicate := do
  match ← parts.fields? ["key", "exists"] with
  | [some (.string key), some (.bool expected)] => some (present key expected)
  | _ => none

/-- The condition of the named kind with the given parts. -/
def condition? (room : Nat) (kind : String) (parts : Json) : Option Predicate :=
  match kind with
  | "regex" => patternCondition? parts
  | "exists" => presence? parts
  | _ => (Comparison.ofName? kind).bind fun c => comparison? room c parts

mutual

/-- The predicate that a tree describes, if at most `room` arrays and objects are nested. -/
def ofJson? : Nat → Json → Option Predicate
  | _, .string text => if text = "all" then some all else none
  | _ + 1, .object [("all", .null)] => some all
  | room + 2, .object [("and", .array operands)] => (operandsOfJson? room operands).map and
  | room + 2, .object [("or", .array operands)] => (operandsOfJson? room operands).map or
  | room + 2, .object [(kind, parts)] => condition? room kind parts
  | _, _ => none

def operandsOfJson? (room : Nat) : List Json → Option (List Predicate)
  | [] => some []
  | operand :: rest =>
    match ofJson? room operand, operandsOfJson? room rest with
    | some first, some others => some (first :: others)
    | _, _ => none

end

/-- The predicate that a JSON text describes. -/
def ofJsonText? (source : String) : Option Predicate :=
  (Json.ofText? source).bind (ofJson? Json.maxNesting)

end Predicate

end EntryFilter
