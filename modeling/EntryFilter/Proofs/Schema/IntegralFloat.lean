import EntryFilter.Proofs.Number.Order
import EntryFilter.Schema.Coercion

/-! # Floats that are integers

Whether a float is an integer of 64 bits is tested on the float itself: it is finite, nothing stands
behind its point, and it lies between the floats nearest to the ends of the range. The float is then
cast. What the tests come to is told by the integer that the float is. -/

namespace EntryFilter

namespace Binary64

variable {x y : Binary64} {m n : Int}

/-! ## The fraction -/

theorem toRat?_zero (negative : Bool) : (zero negative).toRat? = some 0 := by
  cases negative <;> simp [zero, ofParts, CanonicalParts, toRat?, signed]

/-- A part of a step of the format is not rounded to zero. -/
theorem two_zpow_le_div {num power : Nat} (hnum : num ≠ 0) (hpower : power ≤ 1074) :
    (2 : ℚ) ^ (-1074 : Int) ≤ num / (2 ^ power : Nat) := by
  have hone : (1 : ℚ) ≤ num := by exact_mod_cast Nat.one_le_iff_ne_zero.2 hnum
  calc (2 : ℚ) ^ (-1074 : Int) ≤ 2 ^ (-(power : Int)) :=
        zpow_le_zpow_right₀ one_le_two (by omega)
    _ = 1 / (2 ^ power : Nat) := by
        rw [zpow_neg, zpow_natCast, one_div, Nat.cast_pow, Nat.cast_ofNat]
    _ ≤ num / (2 ^ power : Nat) := by gcongr

/-- Nothing stands behind the point of a finite number exactly if the number is an integer. -/
theorem same_fract_iff (h : x.isFinite = true) :
    x.fract.same (zero false) = true ↔ ∃ n, x.toInt? = some n := by
  cases x with
  | nan => cases h
  | infinity negative => cases h
  | finite negative m e canonical =>
      by_cases hmod : m % Nat.pow 2 (-e).toNat = 0
      · simp only [fract, toInt?, if_pos hmod]
        exact iff_of_true (by decide +kernel) ⟨_, rfl⟩
      · simp only [fract, toInt?, if_neg hmod]
        refine iff_of_false (fun hsame => ?_) (by simp)
        have hnearest := isNearest_ofRatio (Nat.two_pow_pos (-e).toNat)
          (m % Nat.pow 2 (-e).toNat) negative
        have hpower : (-e).toNat ≤ 1074 := by
          have hleast := canonical.2.1
          omega
        rw [same_comm, same_iff_toRat?_eq (toRat?_zero false)] at hsame
        exact hnearest.ne_zero (two_zpow_le_div hmod hpower) hsame

/-! ## The range -/

/-- Two integers are compared as the numbers that they are. -/
theorem lt_iff_of_toInt? (hx : x.toInt? = some m) (hy : y.toInt? = some n) :
    x.lt y = true ↔ m < n := by
  rw [lt, compare?_of_toInt? hx hy, beq_iff_eq, Option.some.injEq, compare_lt_iff_lt]

theorem ge_iff_of_toInt? (hx : x.toInt? = some m) (hy : y.toInt? = some n) :
    x.ge y = true ↔ n ≤ m := by
  rw [ge, compare?_of_toInt? hx hy, Option.any_some, Ordering.isGE_iff_ne_lt, compare_lt_iff_lt,
    not_lt]

theorem toInt?_least : (ofInt Int64.minValue.toInt).toInt? = some (-2 ^ 63) := by decide +kernel

/-- The greatest integer of 64 bits is rounded to the one behind it. -/
theorem toInt?_greatest : (ofInt Int64.maxValue.toInt).toInt? = some (2 ^ 63) := by decide +kernel

/-- The range may be tested by comparing with the numbers nearest to its ends, if the upper end is
left out. -/
theorem isInt64_eq (h : x.toInt? = some n) : isInt64 n =
    (!x.lt (ofInt Int64.minValue.toInt) && !x.ge (ofInt Int64.maxValue.toInt)) := by
  have hlow := lt_iff_of_toInt? h toInt?_least
  have hhigh := ge_iff_of_toInt? h toInt?_greatest
  rw [Bool.eq_iff_iff, Bool.and_eq_true, Bool.not_eq_true', Bool.not_eq_true', Bool.eq_false_iff,
    Bool.eq_false_iff, ne_eq, ne_eq, hlow, hhigh]
  simp only [isInt64, Bool.and_eq_true, decide_eq_true_eq]
  omega

/-! ## The cast -/

/-- Casting an integer within the range changes nothing. -/
theorem toInt64_eq (h : x.toInt? = some n) (hn : isInt64 n = true) : x.toInt64 = .ofInt n := by
  have hclamp : max Int64.minValue.toInt (min n Int64.maxValue.toInt) = n := by
    simp only [isInt64, Bool.and_eq_true, decide_eq_true_eq] at hn
    have hmin : Int64.minValue.toInt = -9223372036854775808 := by decide
    have hmax : Int64.maxValue.toInt = 9223372036854775807 := by decide
    omega
  cases x with
  | nan => cases h
  | infinity negative => cases h
  | finite negative m e canonical =>
      simp only [toInt?] at h
      split at h
      · rw [← Option.some.inj h] at hclamp ⊢
        simp only [toInt64, hclamp]
      · cases h

end Binary64

namespace Coercion

open Binary64

variable {x : Binary64}

/-- The tests on a float come to a test of the integer that it is. -/
theorem integral?_eq (x : Binary64) : integral? x =
    match x.toInt? with
    | some n => if isInt64 n then some (.ofInt n) else none
    | none => none := by
  by_cases hfinite : x.isFinite = true
  · have hfract := same_fract_iff hfinite
    cases hn : x.toInt? with
    | none =>
        have hfalse : x.fract.same (zero false) = false := by
          rw [Bool.eq_false_iff, ne_eq, hfract, hn]
          nofun
        simp only [integral?, hfinite, hfalse, Bool.not_true, Bool.not_false, Bool.false_or,
          Bool.true_or, if_true]
    | some n =>
        have hrange := isInt64_eq hn
        rw [← Bool.not_or] at hrange
        simp only [integral?, hfinite, hfract.2 ⟨n, hn⟩, Bool.not_true, Bool.false_or]
        generalize (x.lt (ofInt Int64.minValue.toInt) || x.ge (ofInt Int64.maxValue.toInt)) =
          outside at hrange ⊢
        cases outside with
        | true =>
            rw [hrange]
            rfl
        | false =>
            rw [toInt64_eq hn hrange, hrange]
            rfl
  · cases x with
    | finite => exact absurd rfl hfinite
    | nan => rfl
    | infinity negative => rfl

theorem integral?_eq_some_iff {n : Int64} :
    integral? x = some n ↔ x.toRat? = some (n.toInt : ℚ) := by
  rw [← toInt?_eq_some_iff, integral?_eq]
  cases x.toInt? with
  | none => simp
  | some m =>
      by_cases hm : isInt64 m = true
      · simp only [if_pos hm, Option.some.injEq]
        constructor
        · rintro rfl
          exact (toInt_ofInt_of_isInt64 hm).symm
        · rintro rfl
          exact Int64.ofInt_toInt n
      · simp only [if_neg hm, Option.some.injEq, reduceCtorEq, false_iff]
        rintro rfl
        exact hm (isInt64_toInt n)

theorem integral?_eq_none_iff :
    integral? x = none ↔ ∀ n : Int64, x.toRat? ≠ some (n.toInt : ℚ) := by
  simp only [Option.eq_none_iff_forall_ne_some, ne_eq, integral?_eq_some_iff]

end Coercion

end EntryFilter
