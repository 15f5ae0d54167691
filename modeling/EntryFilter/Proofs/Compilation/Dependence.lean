import EntryFilter.Proofs.Dictionary.Lookup
import EntryFilter.Proofs.Filter.Fields

/-! # What compilation takes from a schema

Compilation asks a schema for the types of the fields that the filter names and for nothing else,
and it tells two types apart only if literals are coerced to one of them. So a compiled filter
outlives every change of the schema that keeps these types. -/

namespace EntryFilter

namespace Schema

/-- The schemas declare the field alike: with the same type, or both with a type to which literals
are not coerced. -/
def AlikeOn (schema other : Schema) (field : String) : Prop :=
  schema.resolve field = other.resolve field ∨
    schema.resolve field ∉ [FieldType.int, .dec, .bool] ∧
      other.resolve field ∉ [FieldType.int, .dec, .bool]

instance (schema other : Schema) (field : String) : Decidable (AlikeOn schema other field) :=
  inferInstanceAs (Decidable (_ ∨ _))

theorem resolve_insert (schema : Schema) (field : String) (declared : FieldType) (name : String) :
    Schema.resolve (schema.insert field declared) name =
      if name = field then declared else schema.resolve name := by
  rw [resolve, Dictionary.get?_insert]
  split
  · rfl
  · rfl

end Schema

namespace Filter

variable {schema other : Schema}

/-! ## Operands -/

theorem coercedOperand_of_not_mem {target : FieldType}
    (h : target ∉ [FieldType.int, .dec, .bool]) (literal : Literal) :
    coercedOperand target literal = .ok literal.toValue := by
  have hcoerces : ¬ coercesTo target = true := by rwa [coercesTo_iff]
  rw [coercedOperand, if_neg hcoerces]

theorem operandOf_congr {field : String} (h : schema.AlikeOn other field) (strict : Bool)
    (literal : Literal) :
    operandOf schema strict field literal = operandOf other strict field literal := by
  rcases h with hsame | ⟨hschema, hother⟩
  · rw [operandOf, operandOf, hsame]
  · rw [operandOf, operandOf, coercedOperand_of_not_mem hschema, coercedOperand_of_not_mem hother]

theorem operandValue_congr {field : String} (h : schema.AlikeOn other field) (strict : Bool)
    (operator : Operator) (operand : Option Literal) :
    operandValue schema strict field operator operand =
      operandValue other strict field operator operand := by
  cases operand with
  | none => rfl
  | some literal => rw [operandValue, operandValue, operandOf_congr h]

/-! ## Filters -/

/-- The left side is compiled first under both schemas, so the first refusal is the same one. -/
theorem compile_congr {f : Filter} (h : ∀ field ∈ f.conditionFields, schema.AlikeOn other field)
    (strict : Bool) : f.compile schema strict = f.compile other strict := by
  induction f with
  | blank => rfl
  | condition field operator operand =>
      have hfield : schema.AlikeOn other field := h field (List.mem_singleton_self field)
      rw [compile, compile, operandValue_congr hfield]
  | and left right ihl ihr =>
      have hleft := ihl fun field hfield => h field (List.mem_append_left _ hfield)
      have hright := ihr fun field hfield => h field (List.mem_append_right _ hfield)
      rw [compile, compile, hleft, hright]
  | or left right ihl ihr =>
      have hleft := ihl fun field hfield => h field (List.mem_append_left _ hfield)
      have hright := ihr fun field hfield => h field (List.mem_append_right _ hfield)
      rw [compile, compile, hleft, hright]

/-- Declaring a field anew changes no filter that does not name it, and no filter at all if literals
are coerced neither to its old type nor to its new one. -/
theorem compile_insert {f : Filter} {field : String} {declared : FieldType}
    (h : field ∈ f.fields → schema.resolve field ∉ [FieldType.int, .dec, .bool] ∧
      declared ∉ [FieldType.int, .dec, .bool]) (strict : Bool) :
    f.compile (schema.insert field declared) strict = f.compile schema strict := by
  apply compile_congr
  intro name hname
  rw [Schema.AlikeOn, Schema.resolve_insert]
  by_cases hfield : name = field
  · subst hfield
    obtain ⟨hold, hnew⟩ := h (mem_fields.2 hname)
    rw [if_pos rfl]
    exact .inr ⟨hnew, hold⟩
  · rw [if_neg hfield]
    exact .inl rfl

end Filter

/-- Compilation, lenient or strict, depends on a schema only through the fields that the filter
names, and there only through the types to which literals are coerced: two schemas that declare each
of these fields alike give the same predicate or the same error. -/
theorem compilation_depends_on_named_fields {schema other : Schema} {f : Filter}
    (h : ∀ field ∈ f.fields, schema.AlikeOn other field) :
    ∀ strict, f.compile schema strict = f.compile other strict := by
  intro strict
  apply Filter.compile_congr
  intro field hfield
  exact h field (Filter.mem_fields.2 hfield)

/-- Strict compilation refuses the text for `age` under both schemas, although `mail` changes from
undeclared to an address and a flag is added. -/
theorem compilation_depends_on_age :
    (Filter.and (.condition "mail" .contains (some (.text "@")))
        (.condition "age" (.compare .eq) (some (.text "x")))).compile
          (.ofList [("age", .int)]) true =
      (Filter.and (.condition "mail" .contains (some (.text "@")))
        (.condition "age" (.compare .eq) (some (.text "x")))).compile
          (.ofList [("age", .int), ("flag", .bool), ("mail", .email)]) true :=
  compilation_depends_on_named_fields (by decide +kernel) true

end EntryFilter
