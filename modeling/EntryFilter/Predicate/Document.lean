import EntryFilter.Predicate.Basic
import EntryFilter.Value.Json

/-! # Store documents

A document store takes a predicate as a document: a condition is an object with its key as the
only member, and conjunctions and disjunctions list the documents of their operands. -/

namespace EntryFilter

/-- A condition under a key. -/
def conditionDocument (key : String) (condition : Json) : Json := .object [(key, condition)]

/-- The condition of a comparison. Equality has no operator of its own. -/
def Comparison.document (c : Comparison) (operand : Json) : Json :=
  match c with
  | eq => operand
  | ne => .object [("$ne", operand)]
  | gt => .object [("$gt", operand)]
  | lt => .object [("$lt", operand)]
  | gte => .object [("$gte", operand)]
  | lte => .object [("$lte", operand)]

namespace Predicate

/-- The condition that a text contains a match of a pattern. -/
def patternDocument (pattern : String) (ignoreCase : Bool) : Json :=
  if ignoreCase then .object [("$options", .string "i"), ("$regex", .string pattern)]
  else .object [("$regex", .string pattern)]

mutual

/-- The document of a predicate; the members of every object are ordered by name. -/
def document : Predicate → Json
  | all => .object []
  | compare c key operand => conditionDocument key (c.document operand.toJson)
  | matching key pattern ignoreCase => conditionDocument key (patternDocument pattern ignoreCase)
  | present key expected => conditionDocument key (.object [("$exists", .bool expected)])
  | and operands => .object [("$and", .array (documents operands))]
  | or operands => .object [("$or", .array (documents operands))]

def documents : List Predicate → List Json
  | [] => []
  | operand :: rest => operand.document :: documents rest

end

end Predicate

end EntryFilter
