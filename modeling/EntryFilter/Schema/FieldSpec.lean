import EntryFilter.Schema.Basic

/-! # Field specifications

A field and a type with a colon between them, such as `age:INT`, as a single argument. The last
colon counts, since the names of fields may have colons too. -/

namespace EntryFilter

/-- Why a field specification is refused. -/
inductive FieldSpecError where
  | malformed (spec : String)
  | unknownType (code : String)
  deriving DecidableEq

namespace FieldSpecError

def message : FieldSpecError → String
  | malformed spec => "expected FIELD:TYPE, got '" ++ spec ++ "'"
  | unknownType code => (SchemaError.unknownType code).message

end FieldSpecError

structure FieldSpec where
  field : String
  type : FieldType
  deriving DecidableEq

namespace FieldSpec

/-- The specification that a text spells. -/
def read (spec : String) : Except FieldSpecError FieldSpec :=
  match Text.cutLast? ':' spec.toList with
  | none => .error (.malformed spec)
  | some (name, code) =>
    let name := Text.trim name
    if name.isEmpty then .error (.malformed spec)
    else
      match FieldType.read? code with
      | some t => .ok ⟨String.ofList name, t⟩
      | none => .error (.unknownType (String.ofList code))

end FieldSpec

end EntryFilter
