import EntryFilter.Proofs.Number.Rounding
import Mathlib.Algebra.Order.Field.Power
import Mathlib.Algebra.Order.Field.Rat
import Mathlib.Tactic.FieldSimp
import Mathlib.Tactic.Linarith
import Mathlib.Tactic.Positivity

/-! # Exact values

A finite number of the binary format is a rational number: its significand times a power of two,
with a sign. Whether it is an integer, and which one, is a fact about this rational number. -/

namespace EntryFilter.Binary64

/-- A magnitude with its sign. -/
def signed (negative : Bool) (magnitude : ℚ) : ℚ := if negative then -magnitude else magnitude

/-- The rational number that a finite number is. -/
def toRat? : Binary64 → Option ℚ
  | finite negative significand exponent _ => some (signed negative (significand * 2 ^ exponent))
  | _ => none

@[simp] theorem signed_not (negative : Bool) (magnitude : ℚ) :
    signed (!negative) magnitude = -signed negative magnitude := by
  cases negative <;> simp [signed]

@[simp] theorem abs_signed (negative : Bool) (q : ℚ) : |signed negative q| = |q| := by
  cases negative
  · rfl
  · exact abs_neg q

theorem signed_le_abs (negative : Bool) (q : ℚ) : signed negative q ≤ |q| := by
  cases negative
  · exact le_abs_self q
  · exact neg_le_abs q

/-- An integer is its magnitude with its sign. -/
theorem signed_natAbs (n : Int) : signed (n < 0) n.natAbs = n := by
  have hcast : ((n.natAbs : Int) : ℚ) = n.natAbs := Int.cast_natCast _
  rw [signed, ← hcast]
  split
  · rename_i hneg
    rw [Int.ofNat_natAbs_of_nonpos (of_decide_eq_true hneg).le, Int.cast_neg, neg_neg]
  · rename_i hnonneg
    rw [Int.natAbs_of_nonneg (not_lt.1 fun hneg => hnonneg (decide_eq_true hneg))]

/-! ## Powers of two -/

/-- A power of two is a quotient of two whole ones, of which one is `1`. -/
theorem zpow_eq_div (e : Int) :
    (2 : ℚ) ^ e = (2 ^ e.toNat : Nat) / (2 ^ (-e).toNat : Nat) ∧
      ((2 ^ e.toNat : Nat) = 1 ∨ (2 ^ (-e).toNat : Nat) = 1) := by
  rcases Int.le_total 0 e with hnonneg | hneg
  · obtain ⟨k, rfl⟩ := Int.eq_ofNat_of_zero_le hnonneg
    simp
  · obtain ⟨k, hk⟩ := Int.eq_ofNat_of_zero_le (Int.neg_nonneg.2 hneg)
    obtain rfl : e = -(k : Int) := by omega
    simp

/-- A fraction of two whole numbers, one of which is `1`, is an integer if and only if the
denominator divides the significand. -/
theorem mul_div_eq_int_iff {significand num den : Nat} (hden : 0 < den) (hone : num = 1 ∨ den = 1)
    {magnitude : Nat} :
    (significand : ℚ) * (num / den) = magnitude ↔
      significand % den = 0 ∧ significand / den * num = magnitude := by
  have hden' : (den : ℚ) ≠ 0 := by exact_mod_cast hden.ne'
  rw [← mul_div_assoc, div_eq_iff hden']
  norm_cast
  rcases hone with rfl | rfl
  · rw [mul_one, mul_one]
    constructor
    · rintro rfl
      exact ⟨Nat.mul_mod_left _ _, Nat.mul_div_cancel _ hden⟩
    · rintro ⟨hmod, rfl⟩
      exact (Nat.div_mul_cancel (Nat.dvd_of_mod_eq_zero hmod)).symm
  · simp [Nat.mod_one]

/-! ## Integers among the numbers of the format -/

theorem signed_eq_int_iff {magnitude : ℚ} (h : 0 ≤ magnitude) (negative : Bool) {n : Int} :
    signed negative magnitude = n ↔
      ∃ k : Nat, magnitude = k ∧ n = if negative then -(k : Int) else k := by
  have hwhole (m : Int) : magnitude = m ↔ ∃ k : Nat, magnitude = k ∧ m = k := by
    constructor
    · rintro rfl
      obtain ⟨k, rfl⟩ := Int.eq_ofNat_of_zero_le (Int.cast_nonneg_iff.1 h)
      exact ⟨k, rfl, rfl⟩
    · rintro ⟨k, hk, rfl⟩
      exact hk
  cases negative
  · exact hwhole n
  · have hneg : signed true magnitude = n ↔ magnitude = (-n : Int) := by
      rw [signed, if_pos rfl, neg_eq_iff_eq_neg, Int.cast_neg]
    simp only [hneg, hwhole, neg_eq_iff_eq_neg, if_true]

/-- A number is turned into an integer exactly if it is that integer. -/
theorem toInt?_eq_some_iff {x : Binary64} {n : Int} :
    x.toInt? = some n ↔ x.toRat? = some (n : ℚ) := by
  cases x with
  | nan => simp [toInt?, toRat?]
  | infinity negative => simp [toInt?, toRat?]
  | finite negative significand exponent canonical =>
      obtain ⟨hpow, hone⟩ := zpow_eq_div exponent
      have hden : 0 < 2 ^ (-exponent).toNat := Nat.two_pow_pos _
      have hnonneg : (0 : ℚ) ≤ significand * 2 ^ exponent := by positivity
      rw [toRat?, Option.some.injEq, signed_eq_int_iff hnonneg, hpow]
      simp only [mul_div_eq_int_iff hden hone, toInt?, scaleUp, Nat.pow_eq]
      split
      · rename_i hmod
        simp [hmod, eq_comm]
      · rename_i hmod
        simp [hmod]

end EntryFilter.Binary64
