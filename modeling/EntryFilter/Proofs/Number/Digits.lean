import EntryFilter.Number.Layout
import EntryFilter.Number.Numeral
import Mathlib.Algebra.Group.Nat.Defs

/-! # Decimal digits

The digits of a natural number read back as the number, and they start with a zero only for zero
itself. How many there are tells the size of the number. -/

namespace EntryFilter.Decimal

open EntryFilter.Text

theorem isAsciiDigit_of_mem_natText {n : Nat} {d : Char} (h : d ∈ natText n) :
    isAsciiDigit d = true := by
  have hdigit := Nat.isDigit_of_mem_toDigits (by decide) (by decide) h
  simpa [Char.isDigit, isAsciiDigit, Char.le_def] using hdigit

theorem isAsciiDigit_of_mem_zeros {count : Nat} {d : Char} (h : d ∈ List.replicate count '0') :
    isAsciiDigit d = true := by
  rw [List.eq_of_mem_replicate h]
  decide

theorem natText_ne_nil (n : Nat) : natText n ≠ [] := Nat.toDigits_ne_nil

/-- The digits of a number read back as the number. -/
theorem ofDigits_natText (n : Nat) : ofDigits (natText n) = n := by
  have hread := Nat.ofDigitChars_ten_toDigits (n := n)
  rw [Nat.ofDigitChars_eq_foldl] at hread
  simp only [Nat.mul_comm 10] at hread
  exact hread

theorem natText_zero : natText 0 = ['0'] := rfl

/-- No positive number is written with a zero in front. -/
theorem head?_natText_ne {n : Nat} (h : n ≠ 0) : (natText n).head? ≠ some '0' := by
  have hlast : ∀ d < 10, d ≠ 0 → Nat.digitChar d ≠ '0' := by decide
  induction n using Nat.strongRecOn with
  | ind n ih =>
      by_cases hn : n < 10
      · rw [natText, Nat.toDigits_of_lt_base hn]
        simpa using hlast n hn h
      · have hfront := ih (n / 10) (by omega) (by omega)
        obtain ⟨d, digits, hcons⟩ := List.exists_cons_of_ne_nil (natText_ne_nil (n / 10))
        rw [hcons] at hfront
        rw [natText, Nat.toDigits_of_base_le (by decide) (by omega), ← natText, hcons]
        simpa using hfront

theorem digitCount_pos (n : Nat) : 0 < digitCount n := Nat.length_toDigits_pos

theorem lt_pow_digitCount (n : Nat) : n < 10 ^ digitCount n :=
  (Nat.length_toDigits_le_iff (by decide) (digitCount_pos n)).1 (Nat.le_refl _)

/-- A positive number is at least the power of ten that has as many digits. -/
theorem pow_le_of_lt_digitCount {n k : Nat} (hn : n ≠ 0) (hk : k < digitCount n) : 10 ^ k ≤ n := by
  by_cases hzero : k = 0
  · subst hzero
    simpa using Nat.one_le_iff_ne_zero.2 hn
  · have hiff := Nat.length_toDigits_le_iff (b := 10) (n := n) (k := k) (by decide) (by omega)
    have hlong : ¬ digitCount n ≤ k := by omega
    exact Nat.le_of_not_lt fun hlt => hlong (hiff.2 hlt)

end EntryFilter.Decimal
