import EntryFilter.Proofs.Meaning.IntegerEquality
import EntryFilter.Proofs.Schema.NumericCoercion
import EntryFilter.Proofs.Value.ExactComparison

/-! # Refused literals

Lenient compilation keeps a literal that cannot be coerced to the declared type of its field. It
equals no value of this type, with one exception: the float `2 ^ 63` is refused as an integer of 64
bits, and the largest of these integers are rounded to it. -/

namespace EntryFilter

open Binary64

/-- An integer is rounded to a float that is no integer of 64 bits only at the upper end. -/
theorem Binary64.isNearest_iff_of_refused {x : Binary64} (h : Coercion.integral? x = none)
    (n : Int64) :
    x.IsNearest n.toInt ↔ x.toRat? = some ((2 ^ 63 : Int) : ℚ) ∧ 2 ^ 63 - 512 ≤ n.toInt := by
  rw [(isNearest_ofInt n.toInt).iff_toRat?_eq (toRat?_ofInt64 n)]
  rw [Coercion.integral?_eq_none_iff] at h
  constructor
  · intro hx
    have htop : 2 ^ 63 - 512 ≤ n.toInt := by
      -- below the end the rounded integer has 64 bits, and so the float is not refused
      by_contra hinside
      obtain ⟨hlow, -, hhigh⟩ := nearestInt_bounds n.le_toInt n.toInt_lt
      have hvalue : (Int64.ofInt (nearestInt n.toInt)).toInt = nearestInt n.toInt :=
        Int64.toInt_ofInt_of_le hlow (hhigh.2 (Int.not_le.1 hinside))
      exact h (.ofInt (nearestInt n.toInt)) (by rw [hvalue, hx])
    rw [hx, nearestInt_of_le htop]
    exact ⟨rfl, htop⟩
  · rintro ⟨hx, htop⟩
    rw [hx, nearestInt_of_le htop]

namespace Value

variable {l : Literal} {m : Int64} {e : CoercionError}

/-- The literal is the float `2 ^ 63`, and the value is an integer that is rounded to it. -/
def MeetsEnd (v : Value) (l : Literal) : Prop :=
  ∃ m x, v = .int m ∧ l = .number x ∧ x.toRat? = some ((2 ^ 63 : Int) : ℚ) ∧
    2 ^ 63 - 512 ≤ m.toInt

theorem equals_refused_int (hrefused : l.toValue.coerce .int = .error e) :
    (int m).equals l.toValue = true ↔ (int m).MeetsEnd l := by
  cases l with
  | text s => exact iff_of_false Bool.false_ne_true (by simp [MeetsEnd])
  | bool b => exact iff_of_false Bool.false_ne_true (by simp [MeetsEnd])
  | number x =>
      have hnone : Coercion.integral? x = none := by
        cases hintegral : Coercion.integral? x with
        | none => rfl
        | some n =>
            have hcoerce := coerce_float_int x
            rw [hintegral] at hcoerce
            exact absurd (hcoerce.symm.trans hrefused) nofun
      have hnearest := isNearest_iff_of_refused hnone m
      exact equals_int_float.trans (hnearest.trans (by simp [MeetsEnd]))

/-- Floats and truth values are refused by no number and no truth value. -/
theorem equals_refused {target : FieldType} {v : Value}
    (htarget : target ∈ [FieldType.int, .dec, .bool])
    (hrefused : l.toValue.coerce target = .error e) (hform : v.HasForm target) :
    v.equals l.toValue = true ↔ target = .int ∧ v.MeetsEnd l := by
  cases target with
  | int =>
      cases v with
      | int m => exact (equals_refused_int hrefused).trans (by simp)
      | _ => exact hform.elim
  | dec =>
      refine iff_of_false ?_ nofun
      cases v with
      | float x =>
          cases l with
          | text s => exact Bool.false_ne_true
          | bool b => exact Bool.false_ne_true
          | number y => cases hrefused
      | _ => exact hform.elim
  | bool =>
      refine iff_of_false ?_ nofun
      cases v with
      | bool b =>
          cases l with
          | text s => exact Bool.false_ne_true
          | bool c => cases hrefused
          | number y => exact Bool.false_ne_true
      | _ => exact hform.elim
  | _ => simp at htarget

end Value

variable {schema : Schema} {field : String} {literal : Literal} {entry : Entry} {v : Value}
  {e : CoercionError}

/-- In lenient compilation the condition of a refused literal on a field and the opposite one both
have a result. The equality fails and the inequality holds for every stored value of the declared
type, except that the refused integer `2 ^ 63` equals the integers of 64 bits that are rounded to
it. -/
theorem refused_literal_spec [PatternEngine]
    (hdeclared : schema.resolve field ∈ [FieldType.int, .dec, .bool])
    (hrefused : literal.toValue.coerce (schema.resolve field) = .error e)
    (hstored : entry.value? field = some v) (hform : v.HasForm (schema.resolve field)) :
    ∃ b, (Filter.condition field (.compare .eq) (some literal)).Gives schema false entry b ∧
      (Filter.condition field (.compare .ne) (some literal)).Gives schema false entry (!b) ∧
      (b = true ↔ schema.resolve field = .int ∧ v.MeetsEnd literal) := by
  have hoperand : Filter.operandOf schema false field literal = .ok literal.toValue := by
    rw [Filter.operandOf_lenient, Filter.meantOperand, if_pos hdeclared, hrefused]
  have hequal := Filter.gives_equality hoperand hstored
  have hopposite : (Filter.ofOperator field literal (.compare .ne)).Gives schema false entry
      (!v.equals literal.toValue) := by
    rw [Filter.gives_opposite .eq_ne, Bool.not_not]
    exact hequal
  exact ⟨_, hequal, hopposite, Value.equals_refused hdeclared hrefused hform⟩

/-- A fraction is refused as an integer and equals no stored one. -/
theorem refused_literal_of_fraction :
    (Filter.condition "k" (.compare .eq) (some (.number (.ofRatio false 35 2)))).Gives
        (.ofList [("k", .int)]) false ⟨"a", .ofList [("k", .int 17)], .epoch, .epoch⟩ false ∧
      (Filter.condition "k" (.compare .ne) (some (.number (.ofRatio false 35 2)))).Gives
        (.ofList [("k", .int)]) false ⟨"a", .ofList [("k", .int 17)], .epoch, .epoch⟩ true := by
  have hresolve : Schema.resolve (.ofList [("k", .int)]) "k" = .int := by decide
  have hnone : Coercion.integral? (.ofRatio false 35 2) = none := by decide +kernel
  have hrefused : (Literal.number (.ofRatio false 35 2)).toValue.coerce
      (Schema.resolve (.ofList [("k", .int)]) "k") =
        .error ⟨.float (.ofRatio false 35 2), .int⟩ := by
    rw [hresolve, Literal.toValue, Value.coerce_float_int, hnone]
  have hdeclared : Schema.resolve (.ofList [("k", .int)]) "k" ∈
      [FieldType.int, .dec, .bool] := by decide
  have hstored : Entry.value? ⟨"a", .ofList [("k", .int 17)], .epoch, .epoch⟩ "k" =
      some (.int 17) := rfl
  obtain ⟨b, hequal, hopposite, hiff⟩ :=
    refused_literal_spec hdeclared hrefused hstored (by rw [hresolve]; trivial)
  have hb : b = false := by
    rw [← Bool.not_eq_true, hiff]
    rintro ⟨-, m, x, hm, -, -, htop⟩
    obtain rfl := Value.int.inj hm
    exact absurd htop (by decide)
  rw [hb] at hequal hopposite
  exact ⟨hequal, hopposite⟩

/-- The number `2 ^ 63` is refused as an integer and yet finds the largest integer of 64 bits. -/
theorem refused_end_finds_largest :
    Filter.parse .standard "k = 9223372036854775808" =
        .ok (.condition "k" (.compare .eq) (some (.number (.ofInt 9223372036854775808)))) ∧
      (Literal.number (.ofInt 9223372036854775808)).toValue.coerce .int =
        .error ⟨.float (.ofInt 9223372036854775808), .int⟩ ∧
      SourceGives .standard (.ofList [("k", .int)]) "k = 9223372036854775808"
        ⟨"a", .ofList [("k", .int 9223372036854775807)], .epoch, .epoch⟩ true := by
  have hparse : Filter.parse .standard "k = 9223372036854775808" =
      .ok (.condition "k" (.compare .eq) (some (.number (.ofInt 9223372036854775808)))) := by
    decide +kernel
  have hresolve : Schema.resolve (.ofList [("k", .int)]) "k" = .int := by decide
  have hnone : Coercion.integral? (.ofInt 9223372036854775808) = none := by decide +kernel
  have hrefused : (Literal.number (.ofInt 9223372036854775808)).toValue.coerce .int =
      .error ⟨.float (.ofInt 9223372036854775808), .int⟩ := by
    rw [Literal.toValue, Value.coerce_float_int, hnone]
  have hoperand : Filter.operandOf (.ofList [("k", .int)]) false "k"
      (.number (.ofInt 9223372036854775808)) = .ok (.float (.ofInt 9223372036854775808)) := by
    rw [Filter.operandOf_lenient, Filter.meantOperand, hresolve, if_pos (by decide), hrefused]
    rfl
  have hequals : (Value.int 9223372036854775807).equals
      (.float (.ofInt 9223372036854775808)) = true := by decide +kernel
  refine ⟨hparse, hrefused, sourceGives_of_parse hparse ?_⟩
  rw [← hequals]
  exact Filter.gives_equality hoperand rfl

end EntryFilter
