import EntryFilter.Language.Validation
import EntryFilter.Proofs.Compilation.Lowering

/-! # Strict and lenient compilation

Both kinds of compilation lower a filter in the same way and differ in one point: a literal that
the declared type of its field refuses. Lenient compilation keeps it, strict compilation stops at
the leftmost one. A source is valid exactly if lenient compilation gets through. -/

namespace EntryFilter

/-- A condition as it stands in a filter. -/
structure Condition where
  field : String
  operator : Operator
  operand : Option Literal

namespace Filter

/-- The conditions from left to right. -/
def conditions : Filter → List Condition
  | blank => []
  | condition field operator operand => [⟨field, operator, operand⟩]
  | and left right => left.conditions ++ right.conditions
  | or left right => left.conditions ++ right.conditions

end Filter

namespace Condition

/-- The condition compares a field that is declared as a number or truth value with a literal that
cannot be coerced to the declared type. -/
structure Refused (schema : Schema) (c : Condition) (literal : Literal) : Prop where
  operand : c.operand = some literal
  compares : c.operator.isCheck = false
  declared : schema.resolve c.field ∈ [FieldType.int, .dec, .bool]
  rejected : ∃ e, literal.toValue.coerce (schema.resolve c.field) = .error e

/-- No condition of the list has a literal that is refused. -/
def Accepted (schema : Schema) (cs : List Condition) : Prop :=
  ∀ c ∈ cs, ∀ literal, ¬ Refused schema c literal

theorem accepted_nil {schema : Schema} : Accepted schema [] := by
  simp [Accepted]

theorem accepted_append {schema : Schema} {cs ds : List Condition} :
    Accepted schema (cs ++ ds) ↔ Accepted schema cs ∧ Accepted schema ds := by
  simp only [Accepted, List.mem_append]
  exact ⟨fun h => ⟨fun c hc => h c (.inl hc), fun c hc => h c (.inr hc)⟩,
    fun h c hc => hc.elim (h.1 c) (h.2 c)⟩

theorem accepted_singleton {schema : Schema} {c : Condition} :
    Accepted schema [c] ↔ ∀ literal, ¬ Refused schema c literal := by
  simp [Accepted]

/-- The leftmost condition with a refused literal, and that literal. -/
def LeftmostRefused (schema : Schema) (cs : List Condition) (c : Condition) (literal : Literal) :
    Prop :=
  ∃ front rest, cs = front ++ c :: rest ∧ Accepted schema front ∧ Refused schema c literal

theorem LeftmostRefused.append_right {schema : Schema} {cs : List Condition} {c : Condition}
    {literal : Literal} (h : LeftmostRefused schema cs c literal) (ds : List Condition) :
    LeftmostRefused schema (cs ++ ds) c literal := by
  obtain ⟨front, rest, rfl, hfront, hc⟩ := h
  exact ⟨front, rest ++ ds, by simp, hfront, hc⟩

theorem LeftmostRefused.append_left {schema : Schema} {cs ds : List Condition} {c : Condition}
    {literal : Literal} (hcs : Accepted schema cs) (h : LeftmostRefused schema ds c literal) :
    LeftmostRefused schema (cs ++ ds) c literal := by
  obtain ⟨front, rest, rfl, hfront, hc⟩ := h
  exact ⟨cs ++ front, rest, by simp, accepted_append.2 ⟨hcs, hfront⟩, hc⟩

theorem LeftmostRefused.not_accepted {schema : Schema} {cs : List Condition} {c : Condition}
    {literal : Literal} (h : LeftmostRefused schema cs c literal) : ¬ Accepted schema cs := by
  obtain ⟨front, rest, rfl, _, hc⟩ := h
  intro ha
  exact ha c (by simp) literal hc

end Condition

namespace Filter

open Condition

variable {schema : Schema}

/-- What both kinds of compilation make of a row of conditions: the same predicate if none of them
is refused, and else strict compilation reports the leftmost refusal. -/
def Agrees (schema : Schema) (cs : List Condition)
    (lower : Bool → Except TypeMismatch Predicate) : Prop :=
  (∃ p, (∀ strict, lower strict = .ok p) ∧ Accepted schema cs) ∨
    ∃ c literal, LeftmostRefused schema cs c literal ∧
      lower true = .error ⟨c.field, schema.resolve c.field, literal⟩

/-- The left side comes first: what it refuses is reported before the right side is lowered. -/
theorem Agrees.join {cs ds : List Condition} {left right : Bool → Except TypeMismatch Predicate}
    (hl : Agrees schema cs left) (hr : Agrees schema ds right)
    (combine : Predicate → Predicate → Predicate) :
    Agrees schema (cs ++ ds) fun strict => do
      let p ← left strict
      let q ← right strict
      return combine p q := by
  rcases hl with ⟨p, hp, hcs⟩ | ⟨c, literal, hc, he⟩
  · rcases hr with ⟨q, hq, hds⟩ | ⟨c, literal, hc, he⟩
    · refine .inl ⟨combine p q, fun strict => ?_, accepted_append.2 ⟨hcs, hds⟩⟩
      simp only [hp, hq]
      rfl
    · refine .inr ⟨c, literal, hc.append_left hcs, ?_⟩
      simp only [hp, he]
      rfl
  · refine .inr ⟨c, literal, hc.append_right ds, ?_⟩
    simp only [he]
    rfl

theorem agrees_condition (field : String) (operator : Operator) (operand : Option Literal) :
    Agrees schema [⟨field, operator, operand⟩] fun strict =>
      (condition field operator operand).compile schema strict := by
  cases operand with
  | none =>
      refine .inl ⟨_, fun strict => compile_condition rfl, accepted_singleton.2 ?_⟩
      exact fun literal h => nomatch h.operand
  | some literal =>
      cases hcheck : operator.isCheck with
      | true =>
          have hvalue (strict : Bool) :
              operandValue schema strict field operator (some literal) = .ok .null := by
            simp [operandValue, hcheck]
          refine .inl ⟨_, fun strict => compile_condition (hvalue strict), ?_⟩
          exact accepted_singleton.2 fun other h => by simpa [hcheck] using h.compares
      | false =>
          cases hcoerced : coercedOperand (schema.resolve field) literal with
          | ok value =>
              have hvalue (strict : Bool) :
                  operandValue schema strict field operator (some literal) = .ok value := by
                simp [operandValue, hcheck, operandOf, hcoerced]
              refine .inl ⟨_, fun strict => compile_condition (hvalue strict), ?_⟩
              refine accepted_singleton.2 fun other h => ?_
              obtain rfl : literal = other := Option.some.inj h.operand
              obtain ⟨e, he⟩ := h.rejected
              simp [coercedOperand_error.2 ⟨h.declared, he⟩] at hcoerced
          | error e =>
              obtain ⟨hdeclared, hrejected⟩ := coercedOperand_error.1 hcoerced
              have hvalue : operandValue schema true field operator (some literal) =
                  .error ⟨field, schema.resolve field, literal⟩ := by
                simp [operandValue, hcheck, operandOf, hcoerced]
              have hrefused : Refused schema ⟨field, operator, some literal⟩ literal :=
                ⟨rfl, hcheck, hdeclared, e, hrejected⟩
              exact .inr ⟨_, literal, ⟨[], [], rfl, accepted_nil, hrefused⟩,
                compile_condition_error hvalue⟩

theorem agrees_compile (schema : Schema) (f : Filter) :
    Agrees schema f.conditions fun strict => f.compile schema strict := by
  induction f with
  | blank => exact .inl ⟨.all, fun _ => rfl, accepted_nil⟩
  | condition field operator operand => exact agrees_condition field operator operand
  | and left right ihl ihr => exact ihl.join ihr fun p q => .and [p, q]
  | or left right ihl ihr => exact ihl.join ihr fun p q => .or [p, q]

theorem compile_cases (schema : Schema) (f : Filter) :
    (∃ p, (∀ strict, f.compile schema strict = .ok p) ∧ Accepted schema f.conditions) ∨
      ∃ c literal, LeftmostRefused schema f.conditions c literal ∧
        f.compile schema true = .error ⟨c.field, schema.resolve c.field, literal⟩ :=
  agrees_compile schema f

theorem exists_compile_strict_iff (schema : Schema) (f : Filter) :
    (∃ p, f.compile schema true = .ok p) ↔ Accepted schema f.conditions := by
  rcases compile_cases schema f with ⟨p, hp, ha⟩ | ⟨c, literal, hc, he⟩
  · exact ⟨fun _ => ha, fun _ => ⟨p, hp true⟩⟩
  · refine ⟨fun ⟨p, hp⟩ => ?_, fun ha => absurd ha hc.not_accepted⟩
    rw [he] at hp
    cases hp

theorem compile_lenient_of_strict {f : Filter} {p : Predicate}
    (h : f.compile schema true = .ok p) : f.compile schema false = .ok p := by
  rcases compile_cases schema f with ⟨q, hq, _⟩ | ⟨c, literal, _, he⟩
  · rw [← h, hq true, hq false]
  · rw [he] at h
    cases h

theorem leftmostRefused_of_compile_strict {f : Filter} {e : TypeMismatch}
    (h : f.compile schema true = .error e) :
    ∃ c literal, LeftmostRefused schema f.conditions c literal ∧
      e = ⟨c.field, schema.resolve c.field, literal⟩ := by
  rcases compile_cases schema f with ⟨q, hq, _⟩ | ⟨c, literal, hc, he⟩
  · rw [hq true] at h
    cases h
  · rw [he] at h
    exact ⟨c, literal, hc, (Except.error.inj h).symm⟩

end Filter

/-! ## Validation -/

theorem Validation.isValid_iff (limits : Limits) (schema : Schema) (source : String) :
    (Validation.ofSource limits source).isValid = true ↔
      ∃ p, compileSource ⟨limits, false⟩ schema source = .ok p := by
  cases hparse : Filter.parse limits source with
  | error e => simp [Validation.ofSource, compileSource, hparse, Validation.isValid]
  | ok f =>
      obtain ⟨p, hp⟩ := Filter.exists_compile_lenient schema f
      simp [Validation.ofSource, compileSource, hparse, Validation.isValid, hp]

theorem compileSource_of_invalid {limits : Limits} {source : String} {m : String}
    (h : Validation.ofSource limits source = .invalid m) (schema : Schema) (strict : Bool) :
    ∃ e, compileSource ⟨limits, strict⟩ schema source = .error (.syntaxError e) ∧
      e.message = m := by
  cases hparse : Filter.parse limits source with
  | error e =>
      simp only [Validation.ofSource, hparse, Validation.invalid.injEq] at h
      exact ⟨e, by simp [compileSource, hparse], h⟩
  | ok f => simp [Validation.ofSource, hparse] at h

/-- A source that becomes a predicate does so by lenient compilation, too. -/
theorem exists_lenient_of_compileSource {settings : Settings} {schema : Schema} {source : String}
    {p : Predicate} (h : compileSource settings schema source = .ok p) :
    ∃ f, Filter.parse settings.limits source = .ok f ∧ f.compile schema false = .ok p := by
  unfold compileSource at h
  split at h
  · cases h
  · rename_i f hparse
    split at h
    · cases h
    · rename_i q hcompile
      obtain rfl := Except.ok.inj h
      refine ⟨f, hparse, ?_⟩
      cases hstrict : settings.strict with
      | false => rwa [hstrict] at hcompile
      | true =>
          rw [hstrict] at hcompile
          exact Filter.compile_lenient_of_strict hcompile

/-- Lenient compilation always succeeds. Strict compilation succeeds exactly if no literal is
refused, and then with the same predicate; its error names field, declared type and literal of the
leftmost refusal. A source is valid exactly if lenient compilation succeeds; if it is not, both
kinds of compilation fail with the syntax error that validation reports. -/
theorem strict_compilation_spec (schema : Schema) :
    (∀ f : Filter,
      (∃ p, f.compile schema false = .ok p) ∧
      ((∃ p, f.compile schema true = .ok p) ↔
        ∀ c ∈ f.conditions, ∀ literal, ¬ Condition.Refused schema c literal) ∧
      (∀ p, f.compile schema true = .ok p → f.compile schema false = .ok p) ∧
      ∀ e, f.compile schema true = .error e →
        ∃ c literal, Condition.LeftmostRefused schema f.conditions c literal ∧
          e = ⟨c.field, schema.resolve c.field, literal⟩ ∧
          e.message = "type mismatch on field '" ++ c.field ++ "': expected " ++
            (schema.resolve c.field).code ++ ", got " ++ literal.display) ∧
    ∀ (limits : Limits) (source : String),
      ((Validation.ofSource limits source).isValid = true ↔
        ∃ p, compileSource ⟨limits, false⟩ schema source = .ok p) ∧
      ∀ m, Validation.ofSource limits source = .invalid m →
        ∀ strict, ∃ e, compileSource ⟨limits, strict⟩ schema source = .error (.syntaxError e) ∧
          e.message = m := by
  refine ⟨fun f => ⟨Filter.exists_compile_lenient schema f,
    Filter.exists_compile_strict_iff schema f, fun _ => Filter.compile_lenient_of_strict,
    fun e he => ?_⟩, fun limits source => ⟨Validation.isValid_iff limits schema source,
    fun _ h => compileSource_of_invalid h schema⟩⟩
  obtain ⟨c, literal, hc, rfl⟩ := Filter.leftmostRefused_of_compile_strict he
  exact ⟨c, literal, hc, rfl, rfl⟩

end EntryFilter
