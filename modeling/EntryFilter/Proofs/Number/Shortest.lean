import EntryFilter.Proofs.Number.Digits
import Mathlib.Data.List.TakeWhile

/-! # Shortest decimals

The shortest decimal of a positive number is positive: it lies among the numbers that round to it,
none of which is zero, and no digit but a zero at the end is cut off. -/

namespace EntryFilter.Decimal

theorem trimZeros_digits_ne_zero {d : Decimal} (h : d.digits ≠ 0) : d.trimZeros.digits ≠ 0 := by
  let isZero : Char → Bool := fun c => c = '0'
  let zeros := ((Nat.toDigits 10 d.digits).reverse.takeWhile isZero).length
  have hshort : zeros < digitCount d.digits := by
    have hle : zeros ≤ (natText d.digits).reverse.length :=
      (List.takeWhile_sublist isZero).length_le
    rw [List.length_reverse] at hle
    refine Nat.lt_of_le_of_ne hle fun heq => head?_natText_ne h ?_
    have hall : (natText d.digits).reverse.takeWhile isZero = (natText d.digits).reverse :=
      (List.takeWhile_sublist isZero).eq_of_length (by rw [List.length_reverse]; exact heq)
    obtain ⟨c, rest, hcons⟩ := List.exists_cons_of_ne_nil (natText_ne_nil d.digits)
    have hc := List.takeWhile_eq_self_iff.1 hall c (by simp [hcons])
    rw [hcons, of_decide_eq_true hc]
    rfl
  have hpow : 10 ^ zeros ≤ d.digits := pow_le_of_lt_digitCount h hshort
  have hquotient : 0 < d.digits / 10 ^ zeros := Nat.div_pos hpow (Nat.pow_pos (by decide))
  simp only [trimZeros, if_neg h]
  exact Nat.ne_of_gt hquotient

namespace Interval

variable {i : Interval} {d : Decimal} {tie : Tie}

theorem digits_ne_zero_of_holds (hbelow : 0 < i.below) (h : i.holds d = true) : d.digits ≠ 0 := by
  intro hzero
  have hscale : 0 < i.below * Nat.pow 10 (-d.exponent).toNat :=
    Nat.mul_pos hbelow (Nat.pow_pos (by decide))
  simp only [holds, hzero, Nat.zero_mul] at h
  split at h <;> simp only [Bool.and_eq_true, decide_eq_true_eq] at h <;> omega

theorem holds_of_nearest? {exponent : Int} (h : i.nearest? tie exponent = some d) :
    i.holds d = true := by
  unfold nearest? at h
  grind

/-- A grid that is no coarser than the value has a positive point below the value. -/
theorem gridBelow_pos (hvalue : 0 < i.value) (hunit : 0 < i.unit) {exponent : Int}
    (h : exponent ≤ i.floorLog10) : 0 < (i.gridBelow exponent).1 := by
  have hpow (k : Nat) : 0 < 10 ^ k := Nat.pow_pos (by decide)
  have hgrid : i.unit * 10 ^ exponent.toNat ≤ i.value * 10 ^ (-exponent).toNat := by
    simp only [floorLog10] at h
    split at h
    · rename_i hle
      have hquotient : 0 < i.value / i.unit := Nat.div_pos hle hunit
      have hcount := digitCount_pos (i.value / i.unit)
      have hdigits : 10 ^ exponent.toNat ≤ i.value / i.unit :=
        pow_le_of_lt_digitCount (by omega) (by omega)
      calc
        i.unit * 10 ^ exponent.toNat ≤ i.unit * (i.value / i.unit) :=
          Nat.mul_le_mul_left _ hdigits
        _ ≤ i.value := Nat.mul_div_le _ _
        _ ≤ i.value * 10 ^ (-exponent).toNat := Nat.le_mul_of_pos_right _ (hpow _)
    · have hcount := digitCount_pos (i.unit / i.value)
      split at h
      · rename_i hle
        have hzero : exponent.toNat = 0 := by omega
        rw [hzero, Nat.pow_zero, Nat.mul_one]
        exact Nat.le_trans hle (Nat.mul_le_mul_left _ (Nat.pow_le_pow_right (by decide) (by omega)))
      · have hzero : exponent.toNat = 0 := by omega
        have hlt : i.unit < i.value * 10 ^ digitCount (i.unit / i.value) :=
          Nat.mul_comm _ i.value ▸ (Nat.div_lt_iff_lt_mul hvalue).1 (lt_pow_digitCount _)
        have hmore : 10 ^ digitCount (i.unit / i.value) ≤ 10 ^ (-exponent).toNat :=
          Nat.pow_le_pow_right (by decide) (by omega)
        rw [hzero, Nat.pow_zero, Nat.mul_one]
        exact Nat.le_trans (Nat.le_of_lt hlt) (Nat.mul_le_mul_left _ hmore)
  exact Nat.div_pos hgrid (Nat.mul_pos hunit (hpow _))

theorem shortestFrom_digits_ne_zero (hvalue : 0 < i.value) (hunit : 0 < i.unit)
    (hbelow : 0 < i.below) (digits fuel : Nat) :
    (i.shortestFrom tie i.floorLog10 digits fuel).digits ≠ 0 := by
  induction fuel generalizing digits with
  | zero => exact Nat.ne_of_gt (gridBelow_pos hvalue hunit (by omega))
  | succ fuel ih =>
      rw [shortestFrom]
      split
      · rename_i hnearest
        exact digits_ne_zero_of_holds hbelow (holds_of_nearest? hnearest)
      · exact ih (digits + 1)

end Interval

/-- The shortest decimal of a number is zero for zero alone. -/
theorem digits_shortest_ne_zero (tie : Tie) {significand : Nat} (h : significand ≠ 0)
    (exponent : Int) : (shortest tie significand exponent).digits ≠ 0 := by
  have hscale {n : Nat} (hn : 0 < n) (e : Int) : 0 < Binary64.scaleUp n e :=
    Nat.mul_pos hn (Nat.pow_pos (by decide))
  rw [shortest, if_neg h]
  refine trimZeros_digits_ne_zero (Interval.shortestFrom_digits_ne_zero ?_ ?_ ?_ 1 17)
  · exact hscale (by omega) _
  · exact hscale (by omega) _
  · refine hscale ?_ _
    split <;> omega

end EntryFilter.Decimal
