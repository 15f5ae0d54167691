import EntryFilter.Filter.Basic
import EntryFilter.Json.Fields

/-! # Filters as JSON

A filter is an object whose member `type` tells which kind it is; its parts are the other members.
It is also read from an array that has the kind in front and the parts in order. Inside a filter
the kind may be given by its number. -/

namespace EntryFilter

namespace Filter

/-- The tree of a filter. -/
def toJson : Filter → Json
  | blank => .object [("type", .string "empty")]
  | condition field operator operand =>
    .object [
      ("type", .string "comparison"),
      ("field", .string field),
      ("operator", .string operator.name),
      ("value", (operand.map Literal.toJson).getD .null)]
  | and left right =>
    .object [("type", .string "and"), ("left", left.toJson), ("right", right.toJson)]
  | or left right =>
    .object [("type", .string "or"), ("left", left.toJson), ("right", right.toJson)]

/-- The kinds of filter, in the order of their numbers. -/
inductive Kind where
  | blank
  | condition
  | and
  | or

namespace Kind

/-- The kind with the given name. -/
def ofName? : String → Option Kind
  | "empty" => some blank
  | "comparison" => some condition
  | "and" => some and
  | "or" => some or
  | _ => none

/-- The kind that a tree names, or numbers if that is allowed. -/
def ofJson? (byNumber : Bool) : Json → Option Kind
  | .string name => ofName? name
  | .integer n => if byNumber ∧ 0 ≤ n then [blank, condition, and, or][n.toNat]? else none
  | _ => none

end Kind

/-- The operator that a tree names, perhaps as the only member of an object. -/
def operatorOfJson? : Json → Option Operator
  | .string name => Operator.ofName? name
  | .object [(name, .null)] => Operator.ofName? name
  | .object [(name, .object [])] => Operator.ofName? name
  | _ => none

/-- The operand that a tree describes; null is none. -/
def operandOfJson? : Json → Option (Option Literal)
  | .null => some none
  | json => (Literal.ofJson? json).map some

/-- The condition with the given parts. -/
def conditionOfJson? (field operator operand : Json) : Option Filter := do
  let field ← field.text?
  let operator ← operatorOfJson? operator
  let operand ← operandOfJson? operand
  return condition field operator operand

/-- The kind of a filter and its parts in order. A condition without an operand has null in its
place, but only if the parts have names. -/
def parts? (nested : Bool) : Json → Option (Kind × List Json)
  | .array (kind :: parts) => (Kind.ofJson? nested kind).map fun k => (k, parts)
  | .object members => do
    let kind ← ← Json.member? "type" members
    match ← Kind.ofJson? nested kind with
    | .blank => return (.blank, [])
    | .condition =>
      let field ← ← Json.member? "field" members
      let operator ← ← Json.member? "operator" members
      let operand ← Json.member? "value" members
      return (.condition, [field, operator, operand.getD .null])
    | .and => sides? .and members
    | .or => sides? .or members
  | _ => none
where
  /-- A kind with the two sides of a conjunction or disjunction. -/
  sides? (kind : Kind) (members : List (String × Json)) : Option (Kind × List Json) := do
    let left ← ← Json.member? "left" members
    let right ← ← Json.member? "right" members
    return (kind, [left, right])

/-- The filter that a tree describes, if filters stand at most `room` deep in each other. -/
def ofJson? : Nat → Bool → Json → Option Filter
  | 0, _, _ => none
  | room + 1, nested, json =>
    match parts? nested json with
    | some (.blank, []) => some blank
    | some (.condition, [field, operator, operand]) => conditionOfJson? field operator operand
    | some (.and, [left, right]) => do
      let left ← ofJson? room true left
      let right ← ofJson? room true right
      return and left right
    | some (.or, [left, right]) => do
      let left ← ofJson? room true left
      let right ← ofJson? room true right
      return or left right
    | _ => none

/-- The filter that a JSON text describes. -/
def ofJsonText? (source : String) : Option Filter :=
  match Json.ofText? source with
  | some json => if json.fits Json.maxNesting then ofJson? Json.maxNesting false json else none
  | none => none

end Filter

end EntryFilter
