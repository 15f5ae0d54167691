import EntryFilter.Pattern.Meaning
import EntryFilter.Proofs.Dictionary.Order
import EntryFilter.Proofs.Filter.Fields
import EntryFilter.Proofs.Meaning.Evaluation

/-! # What a filter can observe

A predicate sees an entry through its keys alone, and the keys of a compiled filter are those of
the fields that the filter names. So entries that agree on these fields pass the filter together,
whatever else they hold. -/

namespace EntryFilter

/-! ## The keys of a compiled filter -/

namespace Filter

variable {schema : Schema} {strict : Bool} {p : Predicate}

theorem mem_keys_conditionPredicate {key k : String} (operator : Operator) (operand : Value) :
    k ∈ (conditionPredicate key operator operand).keys ↔ k = key := by
  cases operator <;>
    simp [conditionPredicate, matchOperator, Predicate.keys, Predicate.keysOfAll]

theorem eq_of_compile_condition {field : String} {operator : Operator} {operand : Option Literal}
    (h : (condition field operator operand).compile schema strict = .ok p) :
    ∃ value, p = conditionPredicate (fieldKey field) operator value := by
  cases hvalue : operandValue schema strict field operator operand with
  | error e =>
      rw [compile_condition_error hvalue] at h
      cases h
  | ok value =>
      rw [compile_condition hvalue] at h
      exact ⟨value, (Except.ok.inj h).symm⟩

/-- A compiled connective has the compiled sides for its operands, whichever connective it is. -/
theorem exists_of_join {left right : Except TypeMismatch Predicate}
    {combine : Predicate → Predicate → Predicate}
    (h : (do
      let p ← left
      let q ← right
      return combine p q) = .ok p) :
    ∃ l r, left = .ok l ∧ right = .ok r ∧ p = combine l r := by
  cases left with
  | error e => cases h
  | ok l =>
      cases right with
      | error e => cases h
      | ok r => exact ⟨l, r, rfl, rfl, (Except.ok.inj h).symm⟩

/-- The keys of a compiled filter are the keys of its fields. -/
theorem mem_keys_of_compile {f : Filter} (h : f.compile schema strict = .ok p) (key : String) :
    key ∈ p.keys ↔ ∃ field ∈ f.conditionFields, key = fieldKey field := by
  induction f generalizing p with
  | blank =>
      obtain rfl : Predicate.all = p := Except.ok.inj h
      simp [Predicate.keys, conditionFields]
  | condition field operator operand =>
      obtain ⟨value, rfl⟩ := eq_of_compile_condition h
      simp [mem_keys_conditionPredicate, conditionFields]
  | and left right ihl ihr =>
      obtain ⟨l, r, hl, hr, rfl⟩ := exists_of_join h
      simp [Predicate.keys, Predicate.keysOfAll, conditionFields, ihl hl, ihr hr, or_and_right,
        exists_or]
  | or left right ihl ihr =>
      obtain ⟨l, r, hl, hr, rfl⟩ := exists_of_join h
      simp [Predicate.keys, Predicate.keysOfAll, conditionFields, ihl hl, ihr hr, or_and_right,
        exists_or]

end Filter

/-! ## What evaluation looks at -/

namespace Predicate

variable [PatternEngine] {entry entry' : Entry}

mutual

/-- The result of a predicate, errors included, is determined by the values under its keys. -/
theorem evaluate_congr : ∀ p : Predicate,
    (∀ key ∈ p.keys, entry.lookup? key = entry'.lookup? key) →
      p.evaluate entry = p.evaluate entry'
  | all, _ => rfl
  | compare c key operand, h => by
      rw [evaluate, evaluate, h key (List.mem_singleton_self key)]
  | matching key pattern ignoreCase, h => by
      rw [evaluate, evaluate, h key (List.mem_singleton_self key)]
  | present key expected, h => by
      rw [evaluate, evaluate, h key (List.mem_singleton_self key)]
  | and operands, h => evaluateAll_congr operands h
  | or operands, h => evaluateAny_congr operands h

theorem evaluateAll_congr : ∀ operands : List Predicate,
    (∀ key ∈ keysOfAll operands, entry.lookup? key = entry'.lookup? key) →
      evaluateAll operands entry = evaluateAll operands entry'
  | [], _ => rfl
  | operand :: rest, h => by
      have hfirst := evaluate_congr operand fun key hkey => h key (List.mem_append_left _ hkey)
      have hrest := evaluateAll_congr rest fun key hkey => h key (List.mem_append_right _ hkey)
      rw [evaluateAll, evaluateAll, hfirst, hrest]

theorem evaluateAny_congr : ∀ operands : List Predicate,
    (∀ key ∈ keysOfAll operands, entry.lookup? key = entry'.lookup? key) →
      evaluateAny operands entry = evaluateAny operands entry'
  | [], _ => rfl
  | operand :: rest, h => by
      have hfirst := evaluate_congr operand fun key hkey => h key (List.mem_append_left _ hkey)
      have hrest := evaluateAny_congr rest fun key hkey => h key (List.mem_append_right _ hkey)
      rw [evaluateAny, evaluateAny, hfirst, hrest]

end

end Predicate

/-- A filter observes only the fields that it names. It has a predicate, at least from lenient
compilation, and every such predicate has the keys of these fields and no others, each once. No
predicate distinguishes entries that agree on its keys. So entries that agree on the fields of a
filter give the same result, whatever their identifiers, timestamps and other fields are. -/
theorem filter_observes_its_fields [PatternEngine] :
    (∀ (schema : Schema) (f : Filter), ∃ p, f.compile schema false = .ok p) ∧
    (∀ (schema : Schema) (strict : Bool) (f : Filter) (p : Predicate),
      f.compile schema strict = .ok p →
        p.distinctKeys.Nodup ∧
        ∀ key, key ∈ p.distinctKeys ↔ ∃ field ∈ f.fields, key = fieldKey field) ∧
    (∀ (p : Predicate) (entry entry' : Entry),
      (∀ key ∈ p.distinctKeys, entry.lookup? key = entry'.lookup? key) →
        p.evaluate entry = p.evaluate entry') ∧
    ∀ (schema : Schema) (strict : Bool) (f : Filter) (p : Predicate) (entry entry' : Entry),
      f.compile schema strict = .ok p →
      (∀ field ∈ f.fields, entry.value? field = entry'.value? field) →
        p.evaluate entry = p.evaluate entry' := by
  refine ⟨Filter.exists_compile_lenient, ?_, ?_, ?_⟩
  · intro schema strict f p h
    refine ⟨orderNames_nodup p.keys, fun key => ?_⟩
    simp only [Predicate.distinctKeys, mem_orderNames, Filter.mem_fields]
    exact Filter.mem_keys_of_compile h key
  · intro p entry entry' h
    exact p.evaluate_congr fun key hkey => h key (mem_orderNames.2 hkey)
  · intro schema strict f p entry entry' hcompile h
    refine p.evaluate_congr fun key hkey => ?_
    obtain ⟨field, hfield, rfl⟩ := (Filter.mem_keys_of_compile hcompile key).1 hkey
    rw [entry.lookup_fieldKey, entry'.lookup_fieldKey]
    exact h field (Filter.mem_fields.2 hfield)

/-- A condition on a field with the name `id` does not see the identifiers of entries. -/
theorem filter_observes_field_id :
    (Predicate.compare .eq "values.id" (.text "x")).evaluate
        ⟨"x", .ofList [("id", .text "y")], .epoch, .epoch⟩ =
      (Predicate.compare .eq "values.id" (.text "x")).evaluate
        ⟨"z", .ofList [("id", .text "y")], .epoch, .epoch⟩ := by
  refine filter_observes_its_fields.2.2.2 .empty true
    (.condition "id" (.compare .eq) (some (.text "x"))) _ _ _ rfl ?_
  intro field hfield
  rfl

end EntryFilter
