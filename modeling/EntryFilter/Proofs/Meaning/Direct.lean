import EntryFilter.Proofs.Compilation.Strictness
import EntryFilter.Proofs.Pattern.Piece
import EntryFilter.Value.Order

/-! # What a filter means

The meaning of a filter is told by its tree, the schema and the fields of an entry, without a
predicate and without patterns. A pattern engine only tells where a filter cannot be evaluated. -/

namespace EntryFilter

open EntryFilter.Pattern

namespace Comparison

/-- A field, which may be missing, compares with an operand in the given way. -/
def Relates (stored : Option Value) (operand : Value) : Comparison → Prop
  | eq => ∃ v, stored = some v ∧ v.equals operand = true
  | ne => ¬ ∃ v, stored = some v ∧ v.equals operand = true
  | gt => ∃ v, stored = some v ∧ v.order? operand = some .gt
  | lt => ∃ v, stored = some v ∧ v.order? operand = some .lt
  | gte => ∃ v o, stored = some v ∧ v.order? operand = some o ∧ o ≠ .lt
  | lte => ∃ v o, stored = some v ∧ v.order? operand = some o ∧ o ≠ .gt

theorem holds_iff {stored : Option Value} {operand : Value} {c : Comparison} :
    c.holds stored operand = true ↔ c.Relates stored operand := by
  cases stored with
  | none => cases c <;> simp [holds, Relates]
  | some v =>
      cases h : v.order? operand with
      | none => cases c <;> simp [holds, Relates, h]
      | some o => cases c <;> cases o <;> simp [holds, Relates, h]

end Comparison

namespace Operator

/-- A field, which may be missing, passes a condition with the operand. -/
def Holds (stored : Option Value) (operand : Value) : Operator → Prop
  | compare c => c.Relates stored operand
  | contains => ∃ s piece, stored = some (.text s) ∧ piece <:+: s.toList ∧
      SameUpToCase piece operand.toText.toList
  | startsWith => ∃ s piece, stored = some (.text s) ∧ piece <+: s.toList ∧
      SameUpToCase piece operand.toText.toList
  | endsWith => ∃ s piece, stored = some (.text s) ∧ piece <:+ s.toList ∧
      SameUpToCase piece operand.toText.toList
  | isNull => stored = some .null
  | isNotNull => stored ≠ some .null
  | isEmpty => stored = none ∨ stored = some .null ∨ stored = some (.text "")
  | isNotEmpty => ¬ (stored = none ∨ stored = some .null ∨ stored = some (.text ""))

/-- Whether a text operator looks at the start alone, and whether at the end alone. -/
def ends? : Operator → Option (Bool × Bool)
  | contains => some (false, false)
  | startsWith => some (true, false)
  | endsWith => some (false, true)
  | _ => none

end Operator

namespace Filter

/-- The value with which a condition compares its field. A literal is coerced to a number or truth
value if the field is declared so and the coercion yields one. -/
def meantOperand (schema : Schema) (field : String) : Option Literal → Value
  | none => .null
  | some literal =>
    if schema.resolve field ∈ [FieldType.int, .dec, .bool] then
      match literal.toValue.coerce (schema.resolve field) with
      | .ok (some value) => value
      | _ => literal.toValue
    else literal.toValue

/-- The filter holds for an entry. -/
def Holds (schema : Schema) (entry : Entry) : Filter → Prop
  | blank => True
  | condition field operator operand =>
    operator.Holds (entry.value? field) (meantOperand schema field operand)
  | and left right => left.Holds schema entry ∧ right.Holds schema entry
  | or left right => left.Holds schema entry ∨ right.Holds schema entry

end Filter

section

variable [engine : PatternEngine]

/-- A condition looks in stored text for a text whose pattern the engine refuses. -/
def Condition.PatternRefused (schema : Schema) (entry : Entry) (c : Condition)
    (reason : PatternError) : Prop :=
  ∃ atStart atEnd s, c.operator.ends? = some (atStart, atEnd) ∧
    entry.value? c.field = some (.text s) ∧
    PatternEngine.compile true (String.ofList (piecePattern atStart atEnd
      (Filter.meantOperand schema c.field c.operand).toText.toList)) = .error reason

theorem Condition.PatternRefused.exists_limit (hengine : engine.FindsPieces) {schema : Schema}
    {entry : Entry} {c : Condition} {reason : PatternError}
    (h : c.PatternRefused schema entry reason) : ∃ limit, reason = .tooLarge limit := by
  obtain ⟨_, _, _, -, -, hrefused⟩ := h
  exact hengine.refuses hrefused

namespace Filter

/-- From left to right, and no further than it takes to know whether the filter holds, a condition
is reached whose pattern the engine refuses. -/
def StopsAt (schema : Schema) (entry : Entry) : Filter → PatternError → Prop
  | blank, _ => False
  | condition field operator operand, reason =>
    Condition.PatternRefused schema entry ⟨field, operator, operand⟩ reason
  | and left right, reason => left.StopsAt schema entry reason ∨
    (∀ other, ¬ left.StopsAt schema entry other) ∧ left.Holds schema entry ∧
      right.StopsAt schema entry reason
  | or left right, reason => left.StopsAt schema entry reason ∨
    (∀ other, ¬ left.StopsAt schema entry other) ∧ ¬ left.Holds schema entry ∧
      right.StopsAt schema entry reason

theorem StopsAt.exists_refused {schema : Schema} {entry : Entry} {f : Filter}
    {reason : PatternError} (h : f.StopsAt schema entry reason) :
    ∃ c ∈ f.conditions, c.PatternRefused schema entry reason := by
  induction f with
  | blank => exact h.elim
  | condition field operator operand => exact ⟨_, List.mem_singleton_self _, h⟩
  | and left right ihl ihr =>
      rcases h with h | ⟨-, -, h⟩
      · obtain ⟨c, hc, hrefused⟩ := ihl h
        exact ⟨c, List.mem_append_left _ hc, hrefused⟩
      · obtain ⟨c, hc, hrefused⟩ := ihr h
        exact ⟨c, List.mem_append_right _ hc, hrefused⟩
  | or left right ihl ihr =>
      rcases h with h | ⟨-, -, h⟩
      · obtain ⟨c, hc, hrefused⟩ := ihl h
        exact ⟨c, List.mem_append_left _ hc, hrefused⟩
      · obtain ⟨c, hc, hrefused⟩ := ihr h
        exact ⟨c, List.mem_append_right _ hc, hrefused⟩

end Filter

end

end EntryFilter
