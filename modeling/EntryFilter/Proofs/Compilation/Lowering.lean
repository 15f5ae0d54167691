import EntryFilter.Filter.Compilation

/-! # Lowering filters

How the predicate of a filter is put together from the predicates of its parts, and which operand
a condition gets. -/

namespace EntryFilter.Filter

variable {schema : Schema}

/-! ## Operands -/

theorem coercesTo_iff (target : FieldType) :
    coercesTo target = true ↔ target ∈ [FieldType.int, .dec, .bool] := by
  cases target <;> simp [coercesTo]

theorem coercedOperand_error {target : FieldType} {literal : Literal} {e : CoercionError} :
    coercedOperand target literal = .error e ↔
      target ∈ [FieldType.int, .dec, .bool] ∧ literal.toValue.coerce target = .error e := by
  rw [← coercesTo_iff, coercedOperand]
  split
  · rename_i h
    split <;> simp_all
  · rename_i h
    simp [h]

/-! ## Predicates -/

theorem compile_condition {strict : Bool} {field : String} {operator : Operator}
    {operand : Option Literal} {value : Value}
    (h : operandValue schema strict field operator operand = .ok value) :
    (condition field operator operand).compile schema strict =
      .ok (conditionPredicate (fieldKey field) operator value) := by
  rw [compile, h]
  rfl

theorem compile_condition_error {strict : Bool} {field : String} {operator : Operator}
    {operand : Option Literal} {e : TypeMismatch}
    (h : operandValue schema strict field operator operand = .error e) :
    (condition field operator operand).compile schema strict = .error e := by
  rw [compile, h]
  rfl

theorem compile_and {strict : Bool} {left right : Filter} {p q : Predicate}
    (hl : left.compile schema strict = .ok p) (hr : right.compile schema strict = .ok q) :
    (and left right).compile schema strict = .ok (.and [p, q]) := by
  rw [compile, hl, hr]
  rfl

theorem compile_or {strict : Bool} {left right : Filter} {p q : Predicate}
    (hl : left.compile schema strict = .ok p) (hr : right.compile schema strict = .ok q) :
    (or left right).compile schema strict = .ok (.or [p, q]) := by
  rw [compile, hl, hr]
  rfl

theorem exists_operandValue_lenient (field : String) (operator : Operator)
    (operand : Option Literal) :
    ∃ value, operandValue schema false field operator operand = .ok value := by
  cases operand with
  | none => exact ⟨.null, rfl⟩
  | some literal =>
      simp only [operandValue, operandOf]
      split
      · exact ⟨.null, rfl⟩
      · cases coercedOperand (schema.resolve field) literal with
        | ok value => exact ⟨value, rfl⟩
        | error e => exact ⟨literal.toValue, rfl⟩

/-- Lenient compilation never fails. -/
theorem exists_compile_lenient (schema : Schema) (f : Filter) :
    ∃ p, f.compile schema false = .ok p := by
  induction f with
  | blank => exact ⟨.all, rfl⟩
  | condition field operator operand =>
      obtain ⟨value, hvalue⟩ := exists_operandValue_lenient field operator operand
      exact ⟨_, compile_condition hvalue⟩
  | and left right ihl ihr =>
      obtain ⟨p, hp⟩ := ihl
      obtain ⟨q, hq⟩ := ihr
      exact ⟨_, compile_and hp hq⟩
  | or left right ihl ihr =>
      obtain ⟨p, hp⟩ := ihl
      obtain ⟨q, hq⟩ := ihr
      exact ⟨_, compile_or hp hq⟩

end EntryFilter.Filter
