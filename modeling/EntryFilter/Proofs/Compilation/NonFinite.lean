import EntryFilter.Proofs.Meaning.OperatorLaws

/-! # Operands that are no finite numbers

An infinity or NaN gets into a filter in two ways: as a number with too many digits for the format,
and as text that coercion to a decimal reads as a number. -/

namespace EntryFilter

open EntryFilter.Text

/-- The value is an infinity or NaN. -/
def Value.IsNonFinite : Value → Prop
  | float x => x.isFinite = false
  | _ => False

/-- On a field of the declared type, the literal is compared as an infinity or NaN: it is a number
too large for the format, or text that a decimal field reads as such. -/
def Literal.IsNonFinite (declared : FieldType) : Literal → Prop
  | number x => x.isFinite = false ∧ declared ≠ .bool
  | text s => declared = .dec ∧ ∃ x, Binary64.read? (trim s.toList) = some x ∧ x.isFinite = false
  | bool _ => False

theorem Value.toJson_eq_null_iff {v : Value} (h : v.IsOrderable) :
    v.toJson = .null ↔ v.IsNonFinite := by
  cases v with
  | null => exact h.elim
  | list items => exact h.elim
  | dict members => exact h.elim
  | float x => simp [toJson, floatToJson, IsNonFinite]
  | _ => simp [toJson, IsNonFinite]

/-- The tree of a value without parts has no parts. -/
theorem Value.toJson_of_no_parts {v : Value} (hlist : ∀ items, v ≠ .list items)
    (hdict : ∀ members, v ≠ .dict members) :
    (∀ items, v.toJson ≠ .array items) ∧ ∀ members, v.toJson ≠ .object members := by
  cases v with
  | list items => exact absurd rfl (hlist items)
  | dict members => exact absurd rfl (hdict members)
  | float x =>
      rw [toJson, floatToJson]
      split <;> simp
  | _ => simp [toJson]

namespace Filter

/-- The operand is the literal as it is written, or what coercion makes of it if it succeeds. -/
theorem meantOperand_cases (schema : Schema) (field : String) (literal : Literal) :
    meantOperand schema field (some literal) = literal.toValue ∧
        (schema.resolve field ∈ [FieldType.int, .dec, .bool] →
          ∀ value, literal.toValue.coerce (schema.resolve field) ≠ .ok (some value)) ∨
      schema.resolve field ∈ [FieldType.int, .dec, .bool] ∧
        literal.toValue.coerce (schema.resolve field) =
          .ok (some (meantOperand schema field (some literal))) := by
  simp only [meantOperand]
  split
  · rename_i hdeclared
    split
    · rename_i value hvalue
      exact .inr ⟨hdeclared, hvalue⟩
    · rename_i hnone
      exact .inl ⟨rfl, fun _ value hvalue => hnone value hvalue⟩
  · rename_i hdeclared
    exact .inl ⟨rfl, fun h => absurd h hdeclared⟩

end Filter

namespace Literal

variable {literal : Literal} {value : Value}

theorem isNonFinite_toValue {declared : FieldType} (hdec : declared = .dec →
      ∀ value, literal.toValue.coerce .dec ≠ .ok (some value))
    (hbool : declared = .bool → ∀ value, literal.toValue.coerce .bool ≠ .ok (some value)) :
    literal.toValue.IsNonFinite ↔ literal.IsNonFinite declared := by
  cases literal with
  | number x =>
      refine (and_iff_left ?_).symm
      rintro rfl
      exact hbool rfl _ rfl
  | bool b => exact Iff.rfl
  | text s =>
      refine iff_of_false id ?_
      rintro ⟨rfl, x, hread, -⟩
      refine hdec rfl (.float x) ?_
      rw [toValue, Value.coerce_text_dec, hread]

theorem not_isNonFinite_of_coerce_int (h : literal.toValue.coerce .int = .ok (some value)) :
    ¬ value.IsNonFinite ∧ ¬ literal.IsNonFinite .int := by
  obtain ⟨n, rfl⟩ := Coercion.exists_int_of_toInt (Value.outcome_of_coerce h)
  refine ⟨id, ?_⟩
  cases literal with
  | number x =>
      rintro ⟨hx, -⟩
      rw [toValue, Value.coerce_float_int, Coercion.integral?_eq_none hx] at h
      cases h
  | text s => exact fun hs => nomatch hs.1
  | bool b => exact id

theorem isNonFinite_coerce_dec (h : literal.toValue.coerce .dec = .ok (some value)) :
    value.IsNonFinite ↔ literal.IsNonFinite .dec := by
  cases literal with
  | number x =>
      obtain rfl : Value.float x = value := Option.some.inj (Except.ok.inj h)
      exact (and_iff_left FieldType.noConfusion).symm
  | text s =>
      rw [toValue, Value.coerce_text_dec] at h
      cases hread : Binary64.read? (trim s.toList) with
      | none =>
          simp only [hread] at h
          split at h <;> cases h
      | some x =>
          simp only [hread] at h
          obtain rfl : Value.float x = value := Option.some.inj (Except.ok.inj h)
          simp [Value.IsNonFinite, IsNonFinite, hread]
  | bool b =>
      have hfinite : (Binary64.ofInt (if b then 1 else 0)).isFinite = true := by
        cases b <;> decide +kernel
      obtain rfl : Value.float (.ofInt (if b then 1 else 0)) = value :=
        Option.some.inj (Except.ok.inj h)
      simp [Value.IsNonFinite, IsNonFinite, hfinite]

theorem not_isNonFinite_of_coerce_bool (h : literal.toValue.coerce .bool = .ok (some value)) :
    ¬ value.IsNonFinite ∧ ¬ literal.IsNonFinite .bool := by
  obtain ⟨b, rfl⟩ := Coercion.exists_bool_of_toBool (Value.outcome_of_coerce h)
  refine ⟨id, ?_⟩
  cases literal with
  | number x => exact fun hx => hx.2 rfl
  | text s => exact fun hs => nomatch hs.1
  | bool b => exact id

end Literal

/-- A condition compares its field with an infinity or NaN exactly if its literal stands for one. -/
theorem Filter.isNonFinite_meantOperand (schema : Schema) (field : String) (literal : Literal) :
    (meantOperand schema field (some literal)).IsNonFinite ↔
      literal.IsNonFinite (schema.resolve field) := by
  rcases meantOperand_cases schema field literal with ⟨hvalue, hnone⟩ | ⟨hdeclared, hcoerce⟩
  · rw [hvalue]
    refine Literal.isNonFinite_toValue (fun h => ?_) (fun h => ?_)
    · rw [← h]
      exact hnone (by simp [h])
    · rw [← h]
      exact hnone (by simp [h])
  · generalize meantOperand schema field (some literal) = value at *
    generalize schema.resolve field = declared at *
    cases declared with
    | int =>
        obtain ⟨hvalue, hliteral⟩ := Literal.not_isNonFinite_of_coerce_int hcoerce
        exact iff_of_false hvalue hliteral
    | dec => exact Literal.isNonFinite_coerce_dec hcoerce
    | bool =>
        obtain ⟨hvalue, hliteral⟩ := Literal.not_isNonFinite_of_coerce_bool hcoerce
        exact iff_of_false hvalue hliteral
    | _ => simp at hdeclared

/-- The condition compares its field with an infinity or NaN. -/
def Condition.ComparesNonFinite (schema : Schema) (c : Condition) : Prop :=
  ∃ comparison literal, c.operator = .compare comparison ∧ c.operand = some literal ∧
    literal.IsNonFinite (schema.resolve c.field)

end EntryFilter
