import EntryFilter.Proofs.Meaning.Evaluation
import EntryFilter.Proofs.Pattern.Matching

/-! # Compilation preserves the meaning of a filter

The predicate of a filter looks its keys up, compares, and matches patterns; it comes to what the
filter means. Only a pattern that is too large for the engine keeps it from a result. -/

namespace EntryFilter

open EntryFilter.Pattern

/-! ## Operands -/

namespace Filter

theorem operandOf_lenient (schema : Schema) (field : String) (literal : Literal) :
    operandOf schema false field literal = .ok (meantOperand schema field (some literal)) := by
  have hcoerces := coercesTo_iff (schema.resolve field)
  simp only [operandOf, coercedOperand, meantOperand]
  by_cases h : schema.resolve field ∈ [FieldType.int, .dec, .bool]
  · rw [if_pos (hcoerces.2 h), if_pos h]
    cases literal.toValue.coerce (schema.resolve field) with
    | error e => rfl
    | ok value => cases value <;> rfl
  · rw [if_neg fun hc => h (hcoerces.1 hc), if_neg h]

/-- Lenient compilation gives a condition the operand that is meant; a check needs none. -/
theorem operandValue_lenient (schema : Schema) (field : String) (operator : Operator)
    (operand : Option Literal) : ∃ value, operandValue schema false field operator operand =
      .ok value ∧ (operator.isCheck = false → value = meantOperand schema field operand) := by
  cases operand with
  | none => exact ⟨.null, rfl, fun _ => rfl⟩
  | some literal =>
      cases h : operator.isCheck with
      | true => exact ⟨.null, by simp [operandValue, h], nofun⟩
      | false =>
          exact ⟨_, by simp [operandValue, h, operandOf_lenient], fun _ => rfl⟩

end Filter

/-! ## Conditions -/

namespace Value

theorem equals_null {v : Value} : v.equals .null = true ↔ v = .null := by
  cases v <;> simp [equals, same]

theorem equals_empty {v : Value} : v.equals (.text "") = true ↔ v = .text "" := by
  cases v <;> simp [equals, same]

end Value

namespace Predicate

variable [engine : PatternEngine] (field : String) (operand : Value) (entry : Entry)

theorem decides_isEmpty :
    (Filter.conditionPredicate (fieldKey field) .isEmpty operand).Decides entry (fun _ => False)
      (Operator.isEmpty.Holds (entry.value? field) operand) := by
  have hlookup := entry.lookup_fieldKey field
  simp only [Operator.Holds]
  cases hv : entry.value? field with
  | none =>
      rw [hv] at hlookup
      refine .of_ok (b := true) ?_ (by simp)
      simp [Filter.conditionPredicate, evaluate, evaluateAny, Comparison.holds, hlookup]
  | some v =>
      rw [hv] at hlookup
      refine .of_ok (b := v.equals .null || v.equals (.text "")) ?_ ?_
      · cases hnull : v.equals .null <;> cases hempty : v.equals (.text "") <;>
          simp [Filter.conditionPredicate, evaluate, evaluateAny, Comparison.holds, hlookup, hnull,
            hempty]
      · simp [Value.equals_null, Value.equals_empty]

theorem decides_isNotEmpty :
    (Filter.conditionPredicate (fieldKey field) .isNotEmpty operand).Decides entry (fun _ => False)
      (Operator.isNotEmpty.Holds (entry.value? field) operand) := by
  have hlookup := entry.lookup_fieldKey field
  simp only [Operator.Holds]
  cases hv : entry.value? field with
  | none =>
      rw [hv] at hlookup
      refine .of_ok (b := false) ?_ (by simp)
      simp [Filter.conditionPredicate, evaluate, evaluateAll, Comparison.holds, hlookup]
  | some v =>
      rw [hv] at hlookup
      refine .of_ok (b := !(v.equals .null || v.equals (.text ""))) ?_ ?_
      · cases hnull : v.equals .null <;> cases hempty : v.equals (.text "") <;>
          simp [Filter.conditionPredicate, evaluate, evaluateAll, Comparison.holds, hlookup, hnull,
            hempty]
      · simp [← Value.equals_null, ← Value.equals_empty]

theorem decides_text (hengine : engine.FindsPieces) {operator : Operator} {atStart atEnd : Bool}
    {q : List Char → List Char → Prop} (hends : operator.ends? = some (atStart, atEnd))
    (hq : ∀ piece text, IsPiece atStart atEnd piece text ↔ q piece text)
    {schema : Schema} {literal : Option Literal} :
    (Filter.matchOperator (fieldKey field) (piecePattern atStart atEnd
      (Filter.meantOperand schema field literal).toText.toList)).Decides entry
      (Condition.PatternRefused schema entry ⟨field, operator, literal⟩)
      (∃ s piece, entry.value? field = some (.text s) ∧ q piece s.toList ∧
        SameUpToCase piece (Filter.meantOperand schema field literal).toText.toList) := by
  refine (Decides.matching hengine atStart atEnd field _ entry).congr (fun reason => ?_) ?_
  · constructor
    · rintro ⟨s, hs, hrefused⟩
      exact ⟨atStart, atEnd, s, hends, hs, hrefused⟩
    · rintro ⟨start', end', s, hends', hs, hrefused⟩
      obtain ⟨rfl, rfl⟩ := Prod.mk.inj (Option.some.inj (hends.symm.trans hends'))
      exact ⟨s, hs, hrefused⟩
  · simp only [hq]

end Predicate

namespace Filter

variable (key : String) (operand : Value)

theorem conditionPredicate_contains : conditionPredicate key .contains operand =
    matchOperator key (piecePattern false false operand.toText.toList) := by
  simp [conditionPredicate, piecePattern]

theorem conditionPredicate_startsWith : conditionPredicate key .startsWith operand =
    matchOperator key (piecePattern true false operand.toText.toList) := by
  simp [conditionPredicate, piecePattern]

theorem conditionPredicate_endsWith : conditionPredicate key .endsWith operand =
    matchOperator key (piecePattern false true operand.toText.toList) := by
  simp [conditionPredicate, piecePattern]

end Filter

section

variable [engine : PatternEngine]

/-- The predicate of a condition without a pattern tells whether the condition holds. -/
theorem decides_plain (schema : Schema) (entry : Entry) (field : String) {operator : Operator}
    (hends : operator.ends? = none) (literal : Option Literal) {operand : Value}
    (h : operator.isCheck = false → operand = Filter.meantOperand schema field literal) :
    (Filter.conditionPredicate (fieldKey field) operator operand).Decides entry (fun _ => False)
      (operator.Holds (entry.value? field) (Filter.meantOperand schema field literal)) := by
  cases operator with
  | compare c =>
      obtain rfl := h rfl
      exact Predicate.Decides.compare c field _ entry
  | contains => cases hends
  | startsWith => cases hends
  | endsWith => cases hends
  | isNull =>
      refine (Predicate.Decides.compare .eq field .null entry).congr (fun _ => Iff.rfl) ?_
      simp [Comparison.Relates, Operator.Holds, Value.equals_null]
  | isNotNull =>
      refine (Predicate.Decides.compare .ne field .null entry).congr (fun _ => Iff.rfl) ?_
      simp [Comparison.Relates, Operator.Holds, Value.equals_null]
  | isEmpty => exact Predicate.decides_isEmpty field operand entry
  | isNotEmpty => exact Predicate.decides_isNotEmpty field operand entry

/-- The predicate of a condition tells whether the condition holds, unless the engine refuses its
pattern. -/
theorem decides_condition (hengine : engine.FindsPieces) (schema : Schema) (entry : Entry)
    (field : String) (operator : Operator) (literal : Option Literal) {operand : Value}
    (h : operator.isCheck = false → operand = Filter.meantOperand schema field literal) :
    (Filter.conditionPredicate (fieldKey field) operator operand).Decides entry
      (Condition.PatternRefused schema entry ⟨field, operator, literal⟩)
      (operator.Holds (entry.value? field) (Filter.meantOperand schema field literal)) := by
  have hnone (hends : operator.ends? = none) (reason : PatternError) :
      False ↔ Condition.PatternRefused schema entry ⟨field, operator, literal⟩ reason := by
    simp [Condition.PatternRefused, hends]
  cases operator with
  | contains =>
      obtain rfl := h rfl
      rw [Filter.conditionPredicate_contains]
      exact Predicate.decides_text field entry hengine rfl fun _ _ => isPiece_anywhere
  | startsWith =>
      obtain rfl := h rfl
      rw [Filter.conditionPredicate_startsWith]
      exact Predicate.decides_text field entry hengine rfl fun _ _ => isPiece_start
  | endsWith =>
      obtain rfl := h rfl
      rw [Filter.conditionPredicate_endsWith]
      exact Predicate.decides_text field entry hengine rfl fun _ _ => isPiece_end
  | _ => exact (decides_plain schema entry field rfl literal h).congr (hnone rfl) Iff.rfl

/-- The predicate of a filter tells whether the filter holds, unless it stops at a pattern that the
engine refuses. -/
theorem Filter.exists_decides (hengine : engine.FindsPieces) (schema : Schema) (entry : Entry)
    (f : Filter) : ∃ p, f.compile schema false = .ok p ∧
      p.Decides entry (f.StopsAt schema entry) (f.Holds schema entry) := by
  induction f with
  | blank => exact ⟨.all, rfl, .of_ok rfl (by simp [Holds])⟩
  | condition field operator literal =>
      obtain ⟨operand, hoperand, hmeant⟩ := operandValue_lenient schema field operator literal
      exact ⟨_, compile_condition hoperand,
        decides_condition hengine schema entry field operator literal hmeant⟩
  | and left right ihl ihr =>
      obtain ⟨p, hp, hleft⟩ := ihl
      obtain ⟨q, hq, hright⟩ := ihr
      exact ⟨_, compile_and hp hq, hleft.and hright⟩
  | or left right ihl ihr =>
      obtain ⟨p, hp, hleft⟩ := ihl
      obtain ⟨q, hq, hright⟩ := ihr
      exact ⟨_, compile_or hp hq, hleft.or hright⟩

end

/-- The predicate that lenient compilation makes of a filter has for every entry the value that
the filter means. It has none exactly where evaluation reaches a condition whose pattern the engine
refuses. The error is that refusal, for which there is no reason but the size of the pattern. -/
theorem lenient_compilation_spec [engine : PatternEngine] (hengine : engine.FindsPieces)
    (f : Filter) (schema : Schema) (entry : Entry) : ∃ p, f.compile schema false = .ok p ∧
      (∀ b, p.evaluate entry = .ok b ↔
        (∀ reason, ¬ f.StopsAt schema entry reason) ∧ (b = true ↔ f.Holds schema entry)) ∧
      (∀ reason, p.evaluate entry = .error (.invalidPattern reason) ↔
        f.StopsAt schema entry reason) ∧
      ∀ reason, f.StopsAt schema entry reason → (∃ limit, reason = .tooLarge limit) ∧
        ∃ c ∈ f.conditions, c.PatternRefused schema entry reason := by
  obtain ⟨p, hp, hdecides⟩ := f.exists_decides hengine schema entry
  refine ⟨p, hp, fun _ => hdecides.evaluate_eq_ok_iff, fun _ => hdecides.evaluate_eq_error_iff, ?_⟩
  intro reason hstop
  obtain ⟨c, hc, hrefused⟩ := hstop.exists_refused
  exact ⟨hrefused.exists_limit hengine, c, hc, hrefused⟩

/-- A piece is found in any case, and a point in it stands for itself. -/
theorem lenient_compilation_of_contains : engine.FindsPieces ∧ ∃ p,
    (Filter.condition "name" .contains (some (.text "a.b"))).compile .empty false = .ok p ∧
    p.evaluate ⟨"a", .ofList [("name", .text "xA.Bx")], .epoch, .epoch⟩ = .ok true := by
  obtain ⟨p, hp, hresult, -⟩ := lenient_compilation_spec engine_findsPieces
    (.condition "name" .contains (some (.text "a.b"))) .empty
    ⟨"a", .ofList [("name", .text "xA.Bx")], .epoch, .epoch⟩
  have hsize : pieceSize false false ['a', '.', 'b'] ≤ maxMachineSize := by decide +kernel
  refine ⟨engine_findsPieces, p, hp, (hresult true).2 ⟨?_, iff_of_true rfl ?_⟩⟩
  · rintro reason ⟨atStart, atEnd, s, hends, -, hrefused⟩
    obtain ⟨rfl, rfl⟩ := Prod.mk.inj (Option.some.inj hends)
    exact Nat.not_lt.2 hsize (engine_compile_eq_error_iff.1 hrefused).2
  · refine ⟨"xA.Bx", ['A', '.', 'B'], rfl, ⟨['x'], ['x'], rfl⟩, ?_⟩
    change List.map _ _ = List.map _ _
    decide +kernel

/-- The engine of the program refuses very many letters `k`. -/
theorem evaluate_replicate {n : Nat} (hn : maxMachineSize < n * 236) : ∃ p,
    (Filter.condition "name" .contains
      (some (.text (String.ofList (List.replicate n 'k'))))).compile .empty false = .ok p ∧
    p.evaluate ⟨"a", .ofList [("name", .text "x")], .epoch, .epoch⟩ =
      .error (.invalidPattern (.tooLarge maxMachineSize)) := by
  have hk : PatternSyntax.literalSize true 'k' = 236 := by decide +kernel
  have hsize : maxMachineSize < pieceSize false false (List.replicate n 'k') := by
    simp only [pieceSize, Bool.false_eq_true, if_false, textSize_replicate, hk]
    omega
  obtain ⟨p, hp, hdecides⟩ := Filter.exists_decides engine_findsPieces .empty
    ⟨"a", .ofList [("name", .text "x")], .epoch, .epoch⟩
    (.condition "name" .contains (some (.text (String.ofList (List.replicate n 'k')))))
  have htext : (Filter.meantOperand .empty "name"
      (some (.text (String.ofList (List.replicate n 'k'))))).toText.toList =
      List.replicate n 'k' := String.toList_ofList
  refine ⟨p, hp, hdecides.stopped _ ⟨false, false, "x", rfl, rfl, ?_⟩⟩
  rw [htext, engine_compile_eq_error_iff]
  exact ⟨rfl, hsize⟩

/-- A hundred thousand of them are too many. -/
theorem evaluate_long_text : ∃ p,
    (Filter.condition "name" .contains
      (some (.text (String.ofList (List.replicate 100000 'k'))))).compile .empty false = .ok p ∧
    p.evaluate ⟨"a", .ofList [("name", .text "x")], .epoch, .epoch⟩ =
      .error (.invalidPattern (.tooLarge maxMachineSize)) :=
  evaluate_replicate (by decide)

end EntryFilter
