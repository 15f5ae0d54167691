import EntryFilter.Proofs.Meaning.OperatorLaws
import EntryFilter.Proofs.Schema.TypeChange

/-! # Having a value

Filters and reports on a change of type agree on what it is for an entry to have a value. The checks
select the entries with a value and those without one, and a report counts the former. -/

namespace EntryFilter

variable {entry : Entry} {field : String} {value : Value}

/-! ## One entry -/

theorem Entry.not_hasValue_iff : ¬ entry.HasValue field ↔
    entry.value? field = none ∨ entry.value? field = some .null ∨
      entry.value? field = some (.text "") := by
  rw [Entry.HasValue]
  simp only [Entry.Holds]
  cases entry.value? field with
  | none => simp
  | some v =>
      simp only [Option.some.injEq, reduceCtorEq, false_or]
      constructor
      · intro h
        by_contra hnot
        obtain ⟨hnull, hempty⟩ := not_or.1 hnot
        exact h ⟨v, rfl, hnull, hempty⟩
      · rintro h ⟨w, rfl, hnull, hempty⟩
        exact h.elim hnull hempty

theorem Operator.holds_isEmpty_iff :
    Operator.isEmpty.Holds (entry.value? field) value ↔ ¬ entry.HasValue field :=
  Entry.not_hasValue_iff.symm

theorem Operator.holds_isNotEmpty_iff :
    Operator.isNotEmpty.Holds (entry.value? field) value ↔ entry.HasValue field :=
  (not_congr Entry.not_hasValue_iff).symm.trans not_not

/-! ## All entries -/

/-- A check compiles, and its predicate selects the entries that pass it. -/
theorem Filter.exists_select_of_check [PatternEngine] {operator : Operator}
    (hcheck : operator.isCheck = true) (passes : Entry → Bool)
    (hpasses : ∀ (entry : Entry) operand,
      operator.Holds (entry.value? field) operand ↔ passes entry = true)
    (schema : Schema) (strict : Bool) (operand : Option Literal) :
    ∃ p, (condition field operator operand).compile schema strict = .ok p ∧
      ∀ entries, p.select entries = .ok (entries.filter passes) := by
  have hvalue : operandValue schema strict field operator operand = .ok .null := by
    cases operand with
    | none => rfl
    | some literal => rw [operandValue, if_pos hcheck]
  have hcompile := compile_condition hvalue
  refine ⟨_, hcompile, fun entries => Predicate.select_eq_filter fun entry _ => ?_⟩
  obtain ⟨b, hb, hholds⟩ := exists_evaluate (Operator.ends_of_isCheck hcheck) hcompile entry
  rw [hb, Bool.eq_iff_iff.2 (hholds.trans (hpasses entry _))]

/-- The checks for emptiness agree with the report on a change of type: for every field, type and
schema, the entries that are not empty in the field are as many as the report counts with a value,
and the entries that are empty there are all others. -/
theorem emptiness_agrees_with_report [PatternEngine] (entries : List Entry) (field : String)
    (target : FieldType) (schema : Schema) (strict : Bool) (operand : Option Literal) :
    ∃ p q kept rest,
      (Filter.condition field .isNotEmpty operand).compile schema strict = .ok p ∧
      (Filter.condition field .isEmpty operand).compile schema strict = .ok q ∧
      p.select entries = .ok kept ∧ q.select entries = .ok rest ∧
      (TypeChange.report entries field target).withValue = kept.length ∧
      (TypeChange.report entries field target).withValue ≤
        (TypeChange.report entries field target).total ∧
      (TypeChange.report entries field target).total -
        (TypeChange.report entries field target).withValue = rest.length := by
  have hkept : ∀ (entry : Entry) operand,
      Operator.isNotEmpty.Holds (entry.value? field) operand ↔ decide (entry.HasValue field) := by
    intro entry operand
    rw [Operator.holds_isNotEmpty_iff, decide_eq_true_iff]
  have hrest : ∀ (entry : Entry) operand,
      Operator.isEmpty.Holds (entry.value? field) operand ↔ decide (¬ entry.HasValue field) := by
    intro entry operand
    rw [Operator.holds_isEmpty_iff, decide_eq_true_iff]
  obtain ⟨p, hp, hkept⟩ := Filter.exists_select_of_check rfl _ hkept schema strict operand
  obtain ⟨q, hq, hrest⟩ := Filter.exists_select_of_check rfl _ hrest schema strict operand
  have hreport := TypeChange.isReport_report entries field target
  have hsplit := List.length_eq_countP_add_countP (p := (·.HasValue field)) (l := entries)
  refine ⟨p, q, _, _, hp, hq, hkept entries, hrest entries, ?_, ?_, ?_⟩
  · rw [hreport.withValue, List.countP_eq_length_filter]
  · rw [hreport.withValue, hreport.total]
    exact List.countP_le_length
  · rw [hreport.withValue, hreport.total, ← List.countP_eq_length_filter]
    simp only [decide_eq_true_eq] at hsplit
    omega

end EntryFilter
