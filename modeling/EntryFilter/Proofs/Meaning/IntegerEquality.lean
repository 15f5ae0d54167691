import EntryFilter.Language.Validation
import EntryFilter.Proofs.Grammar.WrittenCondition
import EntryFilter.Proofs.Grammar.WrittenInteger
import EntryFilter.Proofs.Meaning.OperatorLaws
import EntryFilter.Proofs.Schema.IntegralFloat

/-! # Searching for an integer

The language has one kind of number, so an integer that is searched for passes through the binary
format before it is compared with a stored one. The search is exact for the integers that are
numbers of the format; any other one stands for the number nearest to it. -/

namespace EntryFilter

open Binary64 Decimal EntryFilter.Text

/-! ## Integers of 64 bits in the binary format -/

namespace Binary64

/-- An integer of 64 bits that is a number of the format is at least half a step below the end. -/
theorem lt_of_isExact {n : Int64} (h : IsExact n.toInt) : n.toInt < 2 ^ 63 - 512 := by
  obtain ⟨-, -, htop⟩ := nearestInt_bounds n.le_toInt n.toInt_lt
  rw [nearestInt_of_isExact h] at htop
  exact htop.1 n.toInt_lt

theorem nearestInt_of_le {n : Int64} (h : 2 ^ 63 - 512 ≤ n.toInt) :
    nearestInt n.toInt = 2 ^ 63 := by
  obtain ⟨-, hhigh, htop⟩ := nearestInt_bounds n.le_toInt n.toInt_lt
  omega

end Binary64

/-- The number nearest to an integer of 64 bits is such an integer, except at the upper end. -/
theorem Coercion.integral_ofInt (n : Int64) : integral? (.ofInt n.toInt) =
    if n.toInt < 2 ^ 63 - 512 then some (.ofInt (nearestInt n.toInt)) else none := by
  obtain ⟨hlow, hhigh, htop⟩ := nearestInt_bounds n.le_toInt n.toInt_lt
  have hinside : isInt64 (nearestInt n.toInt) = true ↔ n.toInt < 2 ^ 63 - 512 := by
    simp only [isInt64, Bool.and_eq_true, decide_eq_true_eq]
    omega
  simp only [integral?_eq, toInt?_ofInt64, hinside]

/-! ## The operand of a written integer -/

namespace Filter

variable {schema : Schema} {name : String} {n : Int64}

theorem coercedOperand_number (x : Binary64) : coercedOperand .int (.number x) =
    match Coercion.integral? x with
    | some v => .ok (.int v)
    | none => .error ⟨.float x, .int⟩ := by
  have hcoerce : (Literal.number x).toValue.coerce .int = _ := Value.coerce_float_int x
  cases hintegral : Coercion.integral? x <;>
    simp [coercedOperand, coercesTo, hcoerce, hintegral]

/-- In both kinds of compilation the operand is the nearest number, if it is an integer. -/
theorem operandOf_written (hdeclared : schema.resolve name = .int) (h : n.toInt < 2 ^ 63 - 512)
    (strict : Bool) : operandOf schema strict name (.number (.ofInt n.toInt)) =
      .ok (.int (.ofInt (nearestInt n.toInt))) := by
  simp only [operandOf, hdeclared, coercedOperand_number, Coercion.integral_ofInt, if_pos h]

/-- The number `2 ^ 63` is refused by strict compilation and kept by lenient compilation. -/
theorem operandOf_written_of_le (hdeclared : schema.resolve name = .int)
    (h : 2 ^ 63 - 512 ≤ n.toInt) (strict : Bool) :
    operandOf schema strict name (.number (.ofInt n.toInt)) =
      if strict then .error ⟨name, .int, .number (.ofInt n.toInt)⟩
      else .ok (.float (.ofInt n.toInt)) := by
  simp only [operandOf, hdeclared, coercedOperand_number, Coercion.integral_ofInt,
    if_neg (Int.not_lt.2 h), Literal.toValue]

/-- An equality gives what its operand says. -/
theorem gives_equality [PatternEngine] {strict : Bool} {entry : Entry} {literal : Literal}
    {operand stored : Value} (hoperand : operandOf schema strict name literal = .ok operand)
    (hstored : entry.value? name = some stored) :
    (condition name (.compare .eq) (some literal)).Gives schema strict entry
      (stored.equals operand) := by
  refine ⟨_, compile_condition hoperand, ?_⟩
  simp [conditionPredicate, Predicate.evaluate, entry.lookup_fieldKey, Comparison.holds, hstored]

end Filter

/-! ## From the source to the result -/

/-- A source becomes a predicate that has the given truth value for an entry. -/
def SourceGives [PatternEngine] (settings : Settings) (schema : Schema) (source : String)
    (entry : Entry) (b : Bool) : Prop :=
  ∃ p, compileSource settings schema source = .ok p ∧ p.evaluate entry = .ok b

/-- The equality of a field and an integer, as it is written. -/
def equalitySource (name front back : String) (n : Int64) : String :=
  name ++ front ++ "=" ++ back ++ String.ofList (intText n.toInt)

variable {limits : Limits} {schema : Schema} {name front back : String} {n : Int64}

theorem parse_equalitySource (hlimits : 0 < limits.conditions) (hname : NamesField name)
    (hfront : ∀ b ∈ front.toList, isBlank b = true)
    (hback : ∀ b ∈ back.toList, isBlank b = true) (n : Int64) :
    Filter.parse limits (equalitySource name front back n) =
      .ok (.condition name (.compare .eq) (some (.number (.ofInt n.toInt)))) := by
  have hlow := n.le_toInt
  have hhigh := n.toInt_lt
  have hcount : digitCount n.toInt.natAbs ≤ 19 :=
    (Nat.length_toDigits_le_iff (by decide) (by decide)).2 (by omega)
  have htext : Lexes (String.ofList (intText n.toInt)).toList [.number (.ofInt n.toInt)] [] := by
    rw [String.toList_ofList]
    exact lexes_intText (Nat.le_trans hcount (by decide))
  have hhead : ∀ d ∈ (String.ofList (intText n.toInt)).toList.head?, d ≠ '=' := by
    rw [String.toList_ofList]
    exact head_intText n.toInt
  exact parse_condition hname .eq hfront hback htext hhead (.number _) hlimits

theorem sourceGives_of_parse [PatternEngine] {source : String} {f : Filter} {strict b : Bool}
    {entry : Entry} (hparse : Filter.parse limits source = .ok f)
    (h : f.Gives schema strict entry b) :
    SourceGives ⟨limits, strict⟩ schema source entry b := by
  obtain ⟨p, hp, hb⟩ := h
  exact ⟨p, by simp only [compileSource, hparse, hp], hb⟩

/-! The results for a source that is parsed as the equality of a field and an integer. -/

section Results

variable {source : String} {entry : Entry} {m : Int64}

theorem sourceGives_nearest [PatternEngine]
    (hparse : Filter.parse limits source =
      .ok (.condition name (.compare .eq) (some (.number (.ofInt n.toInt)))))
    (hdeclared : schema.resolve name = .int) (h : n.toInt < 2 ^ 63 - 512) (strict : Bool)
    (hm : entry.value? name = some (.int m)) :
    SourceGives ⟨limits, strict⟩ schema source entry
      (decide (m = .ofInt (nearestInt n.toInt))) := by
  have hgives := Filter.gives_equality (Filter.operandOf_written hdeclared h strict) hm
  have hequals : (Value.int m).equals (.int (.ofInt (nearestInt n.toInt))) =
      decide (m = .ofInt (nearestInt n.toInt)) := rfl
  rw [hequals] at hgives
  exact sourceGives_of_parse hparse hgives

theorem compileSource_refused
    (hparse : Filter.parse limits source =
      .ok (.condition name (.compare .eq) (some (.number (.ofInt n.toInt)))))
    (hdeclared : schema.resolve name = .int) (h : 2 ^ 63 - 512 ≤ n.toInt) :
    compileSource ⟨limits, true⟩ schema source =
      .error (.typeMismatch ⟨name, .int, .number (.ofInt n.toInt)⟩) := by
  have hrefused : (Filter.condition name (.compare .eq)
      (some (.number (.ofInt n.toInt)))).compile schema true =
        .error ⟨name, .int, .number (.ofInt n.toInt)⟩ :=
    Filter.compile_condition_error (Filter.operandOf_written_of_le hdeclared h true)
  simp only [compileSource, hparse, hrefused]

end Results

/-- The equality of a field that is declared as an integer with a written integer of 64 bits
matches exactly the entries that hold this integer, if it is a number of the binary format. Every
other integer stands for the number of the format nearest to it, of two that are equally near for
the one with the even significand. From half a step below `2 ^ 63` on this is `2 ^ 63` itself,
which strict compilation refuses. -/
theorem integer_equality_spec [PatternEngine] (hlimits : 0 < limits.conditions)
    (hname : NamesField name) (hdeclared : schema.resolve name = .int)
    (hfront : ∀ b ∈ front.toList, isBlank b = true) (hback : ∀ b ∈ back.toList, isBlank b = true)
    (n : Int64) :
    (IsExact n.toInt → ∀ strict entry m, entry.value? name = some (.int m) →
      SourceGives ⟨limits, strict⟩ schema (equalitySource name front back n) entry
        (decide (m = n))) ∧
    (n.toInt < 2 ^ 63 - 512 → ∃ v : Int64, v.toInt = nearestInt n.toInt ∧ IsExact v.toInt ∧
      (∀ other, IsExact other → (n.toInt - v.toInt).natAbs ≤ (n.toInt - other).natAbs) ∧
      ∀ strict entry m, entry.value? name = some (.int m) →
        SourceGives ⟨limits, strict⟩ schema (equalitySource name front back n) entry
          (decide (m = v))) ∧
    (2 ^ 63 - 512 ≤ n.toInt →
      ∃ e, compileSource ⟨limits, true⟩ schema (equalitySource name front back n) =
        .error (.typeMismatch e)) := by
  have hparse := parse_equalitySource hlimits hname hfront hback n
  refine ⟨fun hexact strict entry m hm => ?_, fun hinside => ?_, fun htop => ?_⟩
  · have hgives := sourceGives_nearest hparse hdeclared (lt_of_isExact hexact) strict hm
    rwa [nearestInt_of_isExact hexact, Int64.ofInt_toInt] at hgives
  · obtain ⟨hlow, -, hhigh⟩ := nearestInt_bounds n.le_toInt n.toInt_lt
    have hvalue : (Int64.ofInt (nearestInt n.toInt)).toInt = nearestInt n.toInt :=
      Int64.toInt_ofInt_of_le hlow (hhigh.2 hinside)
    refine ⟨.ofInt (nearestInt n.toInt), hvalue, ?_, ?_, ?_⟩
    · rw [hvalue]
      exact isExact_nearestInt n.toInt
    · rw [hvalue]
      exact fun other hother => nearestInt_nearest n.toInt hother
    · exact fun strict entry m hm => sourceGives_nearest hparse hdeclared hinside strict hm
  · exact ⟨_, compileSource_refused hparse hdeclared htop⟩

/-- A small integer is found exactly. The largest one is refused by strict compilation. -/
theorem integer_equality_of_small_and_largest :
    (∀ strict entry m, entry.value? "k" = some (.int m) →
      SourceGives ⟨.standard, strict⟩ (.ofList [("k", .int)]) "k = -42" entry
        (decide (m = -42))) ∧
    ∃ e, compileSource ⟨.standard, true⟩ (.ofList [("k", .int)]) "k = 9223372036854775807" =
      .error (.typeMismatch e) := by
  have hname : NamesField "k" := ⟨⟨'k', [], rfl, by decide +kernel, nofun⟩, by decide⟩
  have hspace : " ".toList.all isBlank = true := by decide +kernel
  have hblank := List.all_eq_true.1 hspace
  have hsmall : equalitySource "k" " " " " (-42) = "k = -42" := by
    decide +kernel
  have hlargest : equalitySource "k" " " " " 9223372036854775807 = "k = 9223372036854775807" := by
    decide +kernel
  have hlimits : 0 < Limits.standard.conditions := by decide
  have hdeclared : Schema.resolve (.ofList [("k", .int)]) "k" = .int := by decide
  have hspec := integer_equality_spec hlimits hname hdeclared hblank hblank
  obtain ⟨hexact, -, -⟩ := hspec (-42)
  obtain ⟨-, -, htop⟩ := hspec 9223372036854775807
  rw [hsmall] at hexact
  rw [hlargest] at htop
  exact ⟨hexact ⟨42, 0, by decide, by decide⟩, htop (by decide)⟩

/-- The first integer behind `2 ^ 53` is not found where it is stored, but one below. -/
theorem evaluate_beyond_format :
    SourceGives .standard (.ofList [("k", .int)]) "k = 9007199254740993"
      ⟨"a", .ofList [("k", .int 9007199254740993)], .epoch, .epoch⟩ false ∧
    SourceGives .standard (.ofList [("k", .int)]) "k = 9007199254740993"
      ⟨"a", .ofList [("k", .int 9007199254740992)], .epoch, .epoch⟩ true := by
  have hparse : Filter.parse .standard "k = 9007199254740993" =
      .ok (.condition "k" (.compare .eq)
        (some (.number (.ofInt (9007199254740993 : Int64).toInt)))) := by
    decide +kernel
  have hdeclared : Schema.resolve (.ofList [("k", .int)]) "k" = .int := by decide
  have hnearest : Int64.ofInt (nearestInt (9007199254740993 : Int64).toInt) =
      9007199254740992 := by decide +kernel
  have hgives (m : Int64) : SourceGives .standard (.ofList [("k", .int)]) "k = 9007199254740993"
      ⟨"a", .ofList [("k", .int m)], .epoch, .epoch⟩ (decide (m = 9007199254740992)) := by
    rw [← hnearest]
    exact sourceGives_nearest hparse hdeclared (by decide) false rfl
  exact ⟨hgives 9007199254740993, hgives 9007199254740992⟩

end EntryFilter
