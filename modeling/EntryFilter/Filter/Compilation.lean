import EntryFilter.Entry.Basic
import EntryFilter.Filter.Basic
import EntryFilter.Pattern.Engine
import EntryFilter.Predicate.Basic
import EntryFilter.Schema.Basic
import EntryFilter.Schema.Coercion

/-! # Compiling filters

A filter is compiled for a schema into a predicate. Operands of fields that are declared as
numbers or truth values are coerced to the declared type. Where that fails, lenient compilation
keeps the literal as it is written, and strict compilation is refused. -/

namespace EntryFilter

/-- A literal that does not have the declared type of its field. -/
structure TypeMismatch where
  field : String
  expected : FieldType
  literal : Literal

namespace TypeMismatch

def message (e : TypeMismatch) : String :=
  "type mismatch on field '" ++ e.field ++ "': expected " ++ e.expected.code ++ ", got " ++
    e.literal.display

end TypeMismatch

namespace Filter

/-- Whether literals of such a field are coerced. Fields of all other types are compared with the
literal as it is written. -/
def coercesTo : FieldType → Bool
  | .int => true
  | .dec => true
  | .bool => true
  | _ => false

/-- The operand that a literal stands for, if its field has the given type. -/
def coercedOperand (target : FieldType) (literal : Literal) : Except CoercionError Value :=
  if coercesTo target then
    match literal.toValue.coerce target with
    | .ok (some value) => .ok value
    | .ok none => .ok literal.toValue
    | .error e => .error e
  else .ok literal.toValue

/-- The operand of a literal; strict compilation refuses one that cannot be coerced. -/
def operandOf (schema : Schema) (strict : Bool) (field : String) (literal : Literal) :
    Except TypeMismatch Value :=
  match coercedOperand (schema.resolve field) literal with
  | .ok value => .ok value
  | .error _ =>
    if strict then .error ⟨field, schema.resolve field, literal⟩ else .ok literal.toValue

/-- The pattern of a text operator. -/
def matchOperator (key : String) (pattern : List Char) : Predicate :=
  .matching key (String.ofList pattern) true

/-- The predicate of a condition on a key. A field is empty if it is null, empty text or missing. -/
def conditionPredicate (key : String) (operator : Operator) (operand : Value) : Predicate :=
  let escaped := Pattern.escape operand.toText.toList
  match operator with
  | .compare c => .compare c key operand
  | .contains => matchOperator key escaped
  | .startsWith => matchOperator key ('^' :: escaped)
  | .endsWith => matchOperator key (escaped ++ ['$'])
  | .isNull => .compare .eq key .null
  | .isNotNull => .compare .ne key .null
  | .isEmpty =>
    .or [.compare .eq key .null, .compare .eq key (.text ""), .present key false]
  | .isNotEmpty =>
    .and [.compare .ne key .null, .compare .ne key (.text ""), .present key true]

/-- The value with which a condition compares. A check has none, and a missing operand is null. -/
def operandValue (schema : Schema) (strict : Bool) (field : String) (operator : Operator) :
    Option Literal → Except TypeMismatch Value
  | none => .ok .null
  | some literal =>
    if operator.isCheck then .ok .null else operandOf schema strict field literal

/-- The predicate of a filter, or the first literal from the left that is refused. -/
def compile (schema : Schema) (strict : Bool) : Filter → Except TypeMismatch Predicate
  | blank => .ok .all
  | condition field operator operand => do
    let value ← operandValue schema strict field operator operand
    return conditionPredicate (fieldKey field) operator value
  | and left right => do
    let left ← compile schema strict left
    let right ← compile schema strict right
    return .and [left, right]
  | or left right => do
    let left ← compile schema strict left
    let right ← compile schema strict right
    return .or [left, right]

end Filter

end EntryFilter
