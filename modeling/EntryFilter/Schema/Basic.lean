import EntryFilter.Dictionary
import EntryFilter.Json.Reader
import EntryFilter.Schema.FieldType
import EntryFilter.Text.Cut

/-! # Schemas

A schema declares the types of some fields; every other field is text. It is read from a JSON
object or from pairs such as `age:INT,name:STR`, where the last colon of a pair counts. -/

namespace EntryFilter

/-- Declared types by field name. -/
abbrev Schema := Dictionary FieldType

/-- Why a declaration of types is refused. -/
inductive SchemaError where
  | unknownType (code : String)
  | notAPair (entry : String)
  | notJson
  deriving DecidableEq

namespace SchemaError

/-- The message for the user. What exactly is wrong with a JSON text is not said. -/
def message : SchemaError → String
  | unknownType code =>
    "unknown field type '" ++ code ++
      "' (expected one of BOOL, INT, DEC, STR, DATE, EMAIL, URL, DICT, LIST)"
  | notAPair entry => "invalid field type entry '" ++ entry ++ "' (expected name:TYPE)"
  | notJson => "deserialization error: "

end SchemaError

/-- The type named by a text, or the error that repeats the text. -/
def FieldType.ofText (text : List Char) : Except SchemaError FieldType :=
  match FieldType.read? text with
  | some t => .ok t
  | none => .error (.unknownType (String.ofList text))

namespace Schema

/-- The type of a field; an undeclared field is text. -/
def resolve (schema : Schema) (field : String) : FieldType := (schema.get? field).getD .str

/-- A pair of name and type, given without blanks around it. -/
def pairOfText (entry : List Char) : Except SchemaError (String × FieldType) :=
  match Text.cutLast? ':' entry with
  | none => .error (.notAPair (String.ofList entry))
  | some (name, code) =>
    let name := Text.trim name
    if name.isEmpty then .error (.notAPair (String.ofList entry))
    else (FieldType.ofText code).map fun t => (String.ofList name, t)

/-- The entries between commas that are not blank, without the blanks around them. -/
def pairTexts (spec : List Char) : List (List Char) :=
  ((Text.splitAll ',' spec).map Text.trim).filter (!·.isEmpty)

/-- The schema of pairs between commas; the first pair at fault is reported. -/
def ofPairs (spec : String) : Except SchemaError Schema :=
  ((pairTexts spec.toList).mapM pairOfText).map Dictionary.ofList

/-- The type that a JSON tree names. -/
def typeOfJson? : Json → Option FieldType
  | .string code => FieldType.ofCode? code
  | .object [(code, .null)] => FieldType.ofCode? code
  | _ => none

/-- The pair that a member of a JSON object declares. -/
def pairOfMember? (member : String × Json) : Option (String × FieldType) :=
  (typeOfJson? member.2).map fun t => (member.1, t)

/-- The schema of a JSON object. -/
def ofJsonText? (source : String) : Option Schema :=
  match Json.ofText? source with
  | some (.object members) => (members.mapM pairOfMember?).map Dictionary.ofList
  | _ => none

/-- The JSON tree of a schema. -/
def toJson (schema : Schema) : Json :=
  .object (schema.entries.map fun (name, t) => (name, .string t.code))

end Schema

end EntryFilter
