import EntryFilter.Pattern.Meaning
import EntryFilter.Predicate.Document
import EntryFilter.Predicate.Evaluation
import EntryFilter.Proofs.Compilation.NonFinite
import EntryFilter.Proofs.Grammar.Operands

/-! # Null in store documents

The document of a filter compares with null where the filter checks a field. JSON has no form for
an infinity or NaN, so a literal that stands for one of these becomes null as well, and its
condition looks like a check. -/

namespace EntryFilter

open EntryFilter.Text

/-! ## Documents that compare with null -/

/-- Somewhere in the document, a key is compared with null. -/
inductive Json.ComparesWithNull : Json → Prop where
  | comparison (c : Comparison) (key : String) :
      ComparesWithNull (conditionDocument key (c.document .null))
  | operand {word : String} {documents : List Json} {d : Json} : d ∈ documents →
      ComparesWithNull d → ComparesWithNull (.object [(word, .array documents)])

/-- A conjunction or disjunction compares with null where one of its operands does. -/
theorem Json.comparesWithNull_join {word : String} {documents : List Json} :
    (Json.object [(word, .array documents)]).ComparesWithNull ↔
      ∃ d ∈ documents, d.ComparesWithNull := by
  constructor
  · intro h
    generalize hd : Json.object [(word, .array documents)] = d at h
    cases h with
    | comparison c key => cases c <;> simp [conditionDocument, Comparison.document] at hd
    | operand hmem hnull =>
        simp only [Json.object.injEq, List.cons.injEq, Prod.mk.injEq, Json.array.injEq] at hd
        obtain ⟨⟨-, rfl⟩, -⟩ := hd
        exact ⟨_, hmem, hnull⟩
  · rintro ⟨d, hmem, hnull⟩
    exact .operand hmem hnull

namespace Predicate

theorem comparesWithNull_compare (c : Comparison) (key : String) {operand : Value}
    (h : operand.IsOrderable) :
    (compare c key operand).document.ComparesWithNull ↔ operand.IsNonFinite := by
  rw [← Value.toJson_eq_null_iff h]
  constructor
  · intro hnull
    generalize hd : (compare c key operand).document = d at hnull
    obtain ⟨harray, hobject⟩ := Value.toJson_of_no_parts (v := operand)
      (by rintro _ rfl; exact h) (by rintro _ rfl; exact h)
    cases hnull with
    | comparison c' key' =>
        simp only [document, conditionDocument, Json.object.injEq, List.cons.injEq,
          Prod.mk.injEq, and_true] at hd
        cases c <;> cases c' <;> simp_all [Comparison.document]
    | operand hmem hnull =>
        simp only [document, conditionDocument, Json.object.injEq, List.cons.injEq,
          Prod.mk.injEq, and_true] at hd
        cases c <;> simp_all [Comparison.document]
  · intro hnull
    rw [document, hnull]
    exact .comparison c key

end Predicate

namespace Condition

/-- The document of a condition. -/
def document (schema : Schema) (c : Condition) : Json :=
  (Filter.conditionPredicate (fieldKey c.field) c.operator
    (Filter.meantOperand schema c.field c.operand)).document

theorem not_comparesWithNull_matching (key pattern : String) :
    ¬ (Predicate.matching key pattern true).document.ComparesWithNull := by
  intro hnull
  generalize hd : (Predicate.matching key pattern true).document = d at hnull
  cases hnull with
  | comparison c key' =>
      cases c <;> simp [Predicate.document, Predicate.patternDocument, conditionDocument,
        Comparison.document] at hd
  | operand => simp [Predicate.document, Predicate.patternDocument, conditionDocument] at hd

/-- A condition of a source looks in its document like a check if it is one, or if its literal is
no finite number. -/
theorem comparesWithNull_document_iff (schema : Schema) {c : Condition}
    (h : c.operand.isSome = !c.operator.isCheck) :
    (c.document schema).ComparesWithNull ↔
      c.operator.isCheck = true ∨ c.ComparesNonFinite schema := by
  obtain ⟨field, operator, operand⟩ := c
  cases operator with
  | compare comparison =>
      obtain ⟨literal, rfl⟩ := Option.isSome_iff_exists.1 h
      have hvalue := Predicate.comparesWithNull_compare comparison (fieldKey field)
        (Filter.isOrderable_meantOperand schema field literal)
      rw [Filter.isNonFinite_meantOperand] at hvalue
      refine hvalue.trans ⟨fun hliteral => .inr ⟨_, _, rfl, rfl, hliteral⟩, ?_⟩
      rintro (hcheck | ⟨_, _, -, heq, hliteral⟩)
      · cases hcheck
      · obtain rfl := Option.some.inj heq
        exact hliteral
  | contains =>
      exact iff_of_false (not_comparesWithNull_matching _ _)
        (by simp [ComparesNonFinite, Operator.isCheck])
  | startsWith =>
      exact iff_of_false (not_comparesWithNull_matching _ _)
        (by simp [ComparesNonFinite, Operator.isCheck])
  | endsWith =>
      exact iff_of_false (not_comparesWithNull_matching _ _)
        (by simp [ComparesNonFinite, Operator.isCheck])
  | isNull => exact iff_of_true (.comparison .eq _) (.inl rfl)
  | isNotNull => exact iff_of_true (.comparison .ne _) (.inl rfl)
  | isEmpty => exact iff_of_true (.operand List.mem_cons_self (.comparison .eq _)) (.inl rfl)
  | isNotEmpty => exact iff_of_true (.operand List.mem_cons_self (.comparison .ne _)) (.inl rfl)

end Condition

namespace Filter

/-- A document put together from documents of the conditions as the filter is. -/
def assemble (documentOf : Condition → Json) : Filter → Json
  | blank => .object []
  | condition field operator operand => documentOf ⟨field, operator, operand⟩
  | and left right =>
    .object [("$and", .array [left.assemble documentOf, right.assemble documentOf])]
  | or left right =>
    .object [("$or", .array [left.assemble documentOf, right.assemble documentOf])]

variable {schema : Schema} {documentOf : Condition → Json} {f : Filter} {p : Predicate}

/-- A check does without its operand. -/
theorem conditionPredicate_check {operator : Operator} (h : operator.isCheck = true) (key : String)
    (value value' : Value) :
    conditionPredicate key operator value = conditionPredicate key operator value' := by
  cases operator with
  | compare | contains | startsWith | endsWith => cases h
  | _ => rfl

theorem document_condition {field : String} {operator : Operator} {operand : Option Literal}
    (h : (condition field operator operand).compile schema false = .ok p) :
    p.document = Condition.document schema ⟨field, operator, operand⟩ := by
  obtain ⟨value, hvalue, hmeant⟩ := operandValue_lenient schema field operator operand
  obtain rfl := Except.ok.inj ((compile_condition hvalue).symm.trans h)
  rw [Condition.document]
  cases hcheck : operator.isCheck with
  | true => rw [conditionPredicate_check hcheck]
  | false => rw [hmeant hcheck]

/-- The document of a filter is put together from those of its conditions. -/
theorem document_of_compile (h : f.compile schema false = .ok p) :
    p.document = f.assemble (Condition.document schema) := by
  induction f generalizing p with
  | blank =>
      obtain rfl := Except.ok.inj h
      rfl
  | condition field operator operand => exact document_condition h
  | and left right ihl ihr =>
      obtain ⟨p₁, h₁⟩ := exists_compile_lenient schema left
      obtain ⟨p₂, h₂⟩ := exists_compile_lenient schema right
      obtain rfl := Except.ok.inj ((compile_and h₁ h₂).symm.trans h)
      rw [assemble, ← ihl h₁, ← ihr h₂]
      rfl
  | or left right ihl ihr =>
      obtain ⟨p₁, h₁⟩ := exists_compile_lenient schema left
      obtain ⟨p₂, h₂⟩ := exists_compile_lenient schema right
      obtain rfl := Except.ok.inj ((compile_or h₁ h₂).symm.trans h)
      rw [assemble, ← ihl h₁, ← ihr h₂]
      rfl

theorem comparesWithNull_assemble (documentOf : Condition → Json) (f : Filter) :
    (f.assemble documentOf).ComparesWithNull ↔
      ∃ c ∈ f.conditions, (documentOf c).ComparesWithNull := by
  induction f with
  | blank =>
      refine iff_of_false (fun h => ?_) (by simp [conditions])
      generalize hd : (blank.assemble documentOf) = d at h
      cases h <;> simp [assemble, conditionDocument] at hd
  | condition field operator operand => simp [assemble, conditions]
  | and left right ihl ihr =>
      simp [assemble, conditions, Json.comparesWithNull_join, ihl, ihr, or_and_right, exists_or]
  | or left right ihl ihr =>
      simp [assemble, conditions, Json.comparesWithNull_join, ihl, ihr, or_and_right, exists_or]

end Filter

/-! ## Documents of sources -/

/-- The document of a source is put together from the documents of its conditions, in both kinds
of compilation. One of these compares with null if the condition is a check. It also does so if the
literal of a comparison is a number too large for the format, or text that a decimal field reads
as an infinity or NaN. Nothing else in the document compares with null. -/
theorem null_in_document_spec {settings : Settings} {schema : Schema} {source : String}
    {p : Predicate} (h : compileSource settings schema source = .ok p) :
    ∃ f, Filter.parse settings.limits source = .ok f ∧
      p.document = f.assemble (Condition.document schema) ∧
      (∀ c ∈ f.conditions, (c.document schema).ComparesWithNull ↔
        c.operator.isCheck = true ∨ c.ComparesNonFinite schema) ∧
      (p.document.ComparesWithNull ↔
        ∃ c ∈ f.conditions, c.operator.isCheck = true ∨ c.ComparesNonFinite schema) := by
  obtain ⟨f, hparse, hcompile⟩ := exists_lenient_of_compileSource h
  have hdocument := Filter.document_of_compile hcompile
  have hconditions : ∀ c ∈ f.conditions, (c.document schema).ComparesWithNull ↔
      c.operator.isCheck = true ∨ c.ComparesNonFinite schema := fun c hc =>
    Condition.comparesWithNull_document_iff schema (Filter.operand_isSome_of_parse hparse c hc)
  refine ⟨f, hparse, hdocument, hconditions, ?_⟩
  rw [hdocument, Filter.comparesWithNull_assemble]
  exact exists_congr fun c => and_congr_right fun hc => hconditions c hc

/-- The text `nan` on a decimal field is searched for as NaN, which its document writes as null. -/
theorem null_in_document_of_nan :
    ∃ p, compileSource .standard (.ofList [("price", .dec)]) "price = \"nan\"" = .ok p ∧
      p.document.ComparesWithNull := by
  have hparse : Filter.parse .standard "price = \"nan\"" =
      .ok (.condition "price" (.compare .eq) (some (.text "nan"))) := by
    decide +kernel
  have hcompile : compileSource .standard (.ofList [("price", .dec)]) "price = \"nan\"" =
      .ok (.compare .eq "values.price" (.float .nan)) := by
    simp only [compileSource, Settings.standard, hparse]
    rfl
  obtain ⟨f, hf, -, -, hnull⟩ := null_in_document_spec hcompile
  obtain rfl := Except.ok.inj (hparse.symm.trans hf)
  have hread : Binary64.read? (trim "nan".toList) = some .nan := by decide
  exact ⟨_, hcompile, hnull.2 ⟨_, List.mem_singleton_self _,
    .inr ⟨.eq, .text "nan", rfl, rfl, rfl, .nan, hread, rfl⟩⟩⟩

/-- An entry without a price is not found by the search for `nan`, but the document finds it. -/
theorem document_of_nan_eq_isNull : ∃ p q,
    compileSource .standard (.ofList [("price", .dec)]) "price = \"nan\"" = .ok p ∧
    compileSource .standard (.ofList [("price", .dec)]) "price is null" = .ok q ∧
    p.document = q.document ∧
    p.evaluate ⟨"a", .ofList [("price", .null)], .epoch, .epoch⟩ = .ok false ∧
    q.evaluate ⟨"a", .ofList [("price", .null)], .epoch, .epoch⟩ = .ok true := by
  have hnan : Filter.parse .standard "price = \"nan\"" =
      .ok (.condition "price" (.compare .eq) (some (.text "nan"))) := by
    decide +kernel
  have hnull : Filter.parse .standard "price is null" = .ok (.condition "price" .isNull none) := by
    decide +kernel
  refine ⟨.compare .eq "values.price" (.float .nan), .compare .eq "values.price" .null, ?_, ?_,
    rfl, rfl, rfl⟩
  · simp only [compileSource, Settings.standard, hnan]
    rfl
  · simp only [compileSource, Settings.standard, hnull]
    rfl

end EntryFilter
