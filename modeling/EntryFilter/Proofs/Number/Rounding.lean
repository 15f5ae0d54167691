import EntryFilter.Number.Binary64
import Mathlib.Algebra.Order.Ring.Int
import Mathlib.Tactic.Ring

/-! # Whole numbers in the binary format

Up to `2 ^ 53` every whole number is a number of the format. Beyond that the numbers of the format
lie ever further apart, and a whole number is rounded to the nearest of them. -/

namespace EntryFilter.Binary64

/-! ## Rounding to multiples -/

section Multiples

variable {num den : Nat}

theorem roundHalfEven_cases (num den : Nat) :
    roundHalfEven num den = num / den ∧ 2 * (num % den) ≤ den ∨
      roundHalfEven num den = num / den + 1 ∧ den ≤ 2 * (num % den) := by
  simp only [roundHalfEven]
  split
  · right
    omega
  · left
    omega

/-- No multiple is nearer than the one that is rounded to. -/
theorem roundHalfEven_nearest (hden : 0 < den) (k : Nat) :
    ((num : Int) - (roundHalfEven num den * den : Nat)).natAbs ≤
      ((num : Int) - (k * den : Nat)).natAbs := by
  have hdiv : num / den * den + num % den = num := Nat.div_add_mod' num den
  have hmod : num % den < den := Nat.mod_lt num hden
  have hnext : (num / den + 1) * den = num / den * den + den := Nat.succ_mul _ _
  have hk : k * den ≤ num / den * den ∨ (num / den + 1) * den ≤ k * den := by
    rcases Nat.lt_or_ge (num / den) k with hlt | hge
    · exact .inr (Nat.mul_le_mul_right den hlt)
    · exact .inl (Nat.mul_le_mul_right den hge)
  rcases roundHalfEven_cases num den with ⟨hround, hhalf⟩ | ⟨hround, hhalf⟩
  · rw [hround]
    omega
  · rw [hround, hnext]
    omega

theorem roundHalfEven_mul_of_dvd (h : den ∣ num) : roundHalfEven num den * den = num := by
  have hmod : num % den = 0 := Nat.mod_eq_zero_of_dvd h
  have hdiv : num / den * den = num := Nat.div_mul_cancel h
  rcases roundHalfEven_cases num den with ⟨hround, -⟩ | ⟨hround, hle⟩
  · rw [hround, hdiv]
  · have hden : den = 0 := by omega
    subst hden
    simpa using hdiv

theorem le_roundHalfEven {a : Nat} (hden : 0 < den) (h : a * den ≤ num) :
    a ≤ roundHalfEven num den := by
  have hdiv : a ≤ num / den := (Nat.le_div_iff_mul_le hden).2 h
  rcases roundHalfEven_cases num den with ⟨hround, -⟩ | ⟨hround, -⟩ <;> omega

theorem roundHalfEven_le {b : Nat} (hden : 0 < den) (h : num ≤ b * den) :
    roundHalfEven num den ≤ b := by
  have hdiv : num / den ≤ b := Nat.div_le_of_le_mul (Nat.mul_comm b den ▸ h)
  rcases roundHalfEven_cases num den with ⟨hround, -⟩ | ⟨hround, hhalf⟩
  · omega
  · have hne : num / den ≠ b := by
      rintro rfl
      have := Nat.div_add_mod' num den
      omega
    omega

end Multiples

/-! ## Whole numbers of the format -/

/-- The distance between the neighbours of a number in the format, if it is above one. -/
def spacing (n : Nat) : Nat := Nat.pow 2 (n.log2 - 52)

/-- The whole number to which the format rounds a natural number. -/
def nearestNat (n : Nat) : Nat := roundHalfEven n (spacing n) * spacing n

/-- The whole number to which the format rounds an integer. -/
def nearestInt (n : Int) : Int :=
  if n < 0 then -(nearestNat n.natAbs : Int) else nearestNat n.natAbs

/-- The integer is a number of the format: a significand of 53 bits, and then zeros. -/
def IsExact (n : Int) : Prop :=
  ∃ significand power : Nat, significand ≤ 2 ^ 53 ∧ n.natAbs = significand * 2 ^ power

theorem spacing_pos (n : Nat) : 0 < spacing n := Nat.pow_pos (by decide)

theorem spacing_eq (n : Nat) : spacing n = 2 ^ (n.log2 - 52) := rfl

/-- In terms of the spacing, a number from `2 ^ 52` on has 53 bits. -/
theorem bounds_spacing {n : Nat} (h : 2 ^ 52 ≤ n) :
    2 ^ 52 * spacing n ≤ n ∧ n ≤ 2 ^ 53 * spacing n := by
  have hn : n ≠ 0 := by
    rintro rfl
    simp at h
  have hlog : 52 ≤ n.log2 := (Nat.le_log2 hn).2 h
  have hlow : 52 + (n.log2 - 52) = n.log2 := by omega
  have hhigh : 53 + (n.log2 - 52) = n.log2 + 1 := by omega
  rw [spacing_eq, ← pow_add, ← pow_add, hlow, hhigh]
  exact ⟨Nat.log2_self_le hn, Nat.lt_log2_self.le⟩

theorem spacing_of_lt {n : Nat} (h : n < 2 ^ 53) : spacing n = 1 := by
  have hlog : n.log2 - 52 = 0 := by
    rcases Nat.eq_zero_or_pos n with rfl | hn
    · simp
    · have hlt := (Nat.log2_lt hn.ne').2 h
      omega
  rw [spacing_eq, hlog, pow_zero]

theorem nearestNat_of_dvd {n : Nat} (h : spacing n ∣ n) : nearestNat n = n :=
  roundHalfEven_mul_of_dvd h

theorem nearestNat_of_lt {n : Nat} (h : n < 2 ^ 53) : nearestNat n = n := by
  refine nearestNat_of_dvd ?_
  rw [spacing_of_lt h]
  exact one_dvd n

/-- A power of two times a significand of the format is a multiple of the spacing around it. -/
theorem spacing_dvd {significand power : Nat} (h : significand ≤ 2 ^ 53) :
    spacing (significand * 2 ^ power) ∣ significand * 2 ^ power := by
  rcases h.lt_or_eq with hlt | rfl
  · have hlog : (significand * 2 ^ power).log2 - 52 ≤ power := by
      rcases Nat.eq_zero_or_pos (significand * 2 ^ power) with hzero | hpos
      · simp [hzero]
      · have hbound : significand * 2 ^ power < 2 ^ (53 + power) := by
          rw [pow_add]
          exact Nat.mul_lt_mul_of_pos_right hlt (Nat.two_pow_pos power)
        have := (Nat.log2_lt hpos.ne').2 hbound
        omega
    exact (Nat.pow_dvd_pow 2 hlog).mul_left significand
  · rw [← pow_add, spacing_eq, Nat.log2_two_pow]
    exact Nat.pow_dvd_pow 2 (by omega)

theorem exists_nearestNat (n : Nat) :
    ∃ significand power, significand ≤ 2 ^ 53 ∧ nearestNat n = significand * 2 ^ power := by
  rcases Nat.lt_or_ge n (2 ^ 53) with hlt | hge
  · exact ⟨n, 0, hlt.le, by rw [nearestNat_of_lt hlt, pow_zero, mul_one]⟩
  · have hbound := (bounds_spacing (Nat.le_trans (by decide) hge)).2
    exact ⟨_, n.log2 - 52, roundHalfEven_le (spacing_pos n) hbound, rfl⟩

/-- No number of the format is nearer than the one that is rounded to. -/
theorem nearestNat_nearest (n power : Nat) {significand : Nat} (h : significand ≤ 2 ^ 53) :
    ((n : Int) - nearestNat n).natAbs ≤ ((n : Int) - (significand * 2 ^ power : Nat)).natAbs := by
  rcases Nat.lt_or_ge n (2 ^ 53) with hlt | hge
  · simp [nearestNat_of_lt hlt]
  · have hmultiple (k : Nat) :
        ((n : Int) - (roundHalfEven n (spacing n) * spacing n : Nat)).natAbs ≤
          ((n : Int) - (k * spacing n : Nat)).natAbs := roundHalfEven_nearest (spacing_pos n) k
    rcases Nat.lt_or_ge power (n.log2 - 52) with hsmall | hlarge
    · -- Here the other number lies below all that have as many digits as `n`.
      have hlow := (bounds_spacing (Nat.le_trans (by decide) hge)).1
      have hbelow : significand * 2 ^ power ≤ 2 ^ 52 * spacing n := by
        calc significand * 2 ^ power ≤ 2 ^ 53 * 2 ^ power := Nat.mul_le_mul_right _ h
          _ = 2 ^ 52 * 2 ^ (power + 1) := by ring
          _ ≤ 2 ^ 52 * spacing n :=
            Nat.mul_le_mul_left _ (Nat.pow_le_pow_right (by decide) hsmall)
      have hfirst := hmultiple (2 ^ 52)
      rw [nearestNat]
      omega
    · have hpower : 2 ^ power = 2 ^ (power - (n.log2 - 52)) * spacing n := by
        rw [spacing_eq, ← pow_add, Nat.sub_add_cancel hlarge]
      have hother := hmultiple (significand * 2 ^ (power - (n.log2 - 52)))
      rwa [mul_assoc, ← hpower] at hother

theorem natAbs_nearestInt (n : Int) : (nearestInt n).natAbs = nearestNat n.natAbs := by
  unfold nearestInt
  split <;> simp

theorem isExact_nearestInt (n : Int) : IsExact (nearestInt n) := by
  obtain ⟨significand, power, hs, hn⟩ := exists_nearestNat n.natAbs
  exact ⟨significand, power, hs, (natAbs_nearestInt n).trans hn⟩

theorem nearestInt_nearest (n : Int) {other : Int} (h : IsExact other) :
    (n - nearestInt n).natAbs ≤ (n - other).natAbs := by
  obtain ⟨significand, power, hs, hother⟩ := h
  have hnearest := nearestNat_nearest n.natAbs power hs
  have hzero := nearestNat_nearest n.natAbs 0 (Nat.zero_le _)
  rw [← hother] at hnearest
  unfold nearestInt
  split <;> omega

theorem nearestInt_of_isExact {n : Int} (h : IsExact n) : nearestInt n = n := by
  have := nearestInt_nearest n h
  omega

/-! ## The upper end of the integers of 64 bits -/

theorem nearestNat_le {n power : Nat} (h : n ≤ 2 ^ power) : nearestNat n ≤ 2 ^ power := by
  have hnearest := nearestNat_nearest n power (Nat.one_le_two_pow (n := 53))
  rw [one_mul] at hnearest
  omega

theorem nearestNat_of_log2 {n : Nat} (h : n.log2 = 62) :
    nearestNat n = roundHalfEven n 1024 * 1024 := by
  have hspacing : spacing n = 1024 := by
    rw [spacing_eq, h]
    decide
  rw [nearestNat, hspacing]

/-- Half a step below `2 ^ 63`, and from there on, numbers are rounded up to it. -/
theorem nearestNat_lt_iff {n : Nat} (h : n ≤ 2 ^ 63) :
    nearestNat n < 2 ^ 63 ↔ n < 2 ^ 63 - 512 := by
  rcases Nat.lt_or_ge n (2 ^ 62) with hsmall | hlarge
  · have hbound := nearestNat_le hsmall.le
    omega
  · rcases h.lt_or_eq with hlt | rfl
    · have hne : n ≠ 0 := by omega
      have hlog : n.log2 = 62 := by
        have hlow := (Nat.le_log2 hne).2 hlarge
        have hhigh := (Nat.log2_lt hne).2 hlt
        omega
      rw [nearestNat_of_log2 hlog]
      simp only [roundHalfEven]
      split <;> omega
    · have hexact : nearestNat (2 ^ 63) = 2 ^ 63 := by
        have hdvd : spacing (1 * 2 ^ 63) ∣ 1 * 2 ^ 63 := spacing_dvd (by decide)
        simpa using nearestNat_of_dvd hdvd
      omega

/-- What becomes of an integer of 64 bits: it stays in their range or becomes `2 ^ 63`. -/
theorem nearestInt_bounds {n : Int} (hlow : -2 ^ 63 ≤ n) (hhigh : n < 2 ^ 63) :
    -2 ^ 63 ≤ nearestInt n ∧ nearestInt n ≤ 2 ^ 63 ∧
      (nearestInt n < 2 ^ 63 ↔ n < 2 ^ 63 - 512) := by
  have habs : n.natAbs ≤ 2 ^ 63 := by omega
  have hbound := nearestNat_le habs
  have htop := nearestNat_lt_iff habs
  unfold nearestInt
  split <;> omega

/-! ## The value of a number -/

/-- The integer that a finite number equals, if it is one. -/
def toInt? : Binary64 → Option Int
  | finite negative significand exponent _ =>
    let divisor := Nat.pow 2 (-exponent).toNat
    if significand % divisor = 0 then
      let magnitude : Int := scaleUp (significand / divisor) exponent
      some (if negative then -magnitude else magnitude)
    else none
  | _ => none

/-- The sign put before a magnitude. -/
theorem toInt?_finite {negative : Bool} {significand : Nat} {exponent : Int}
    {canonical : CanonicalParts significand exponent} {magnitude : Nat}
    (h : scaleUp significand exponent = scaleUp magnitude (-exponent)) :
    toInt? (.finite negative significand exponent canonical) =
      some (if negative then -(magnitude : Int) else magnitude) := by
  simp only [scaleUp] at h
  simp only [toInt?, scaleUp]
  rcases Int.le_total 0 exponent with hnonneg | hneg
  · have hzero : (-exponent).toNat = 0 := by omega
    simp only [hzero, Nat.pow_eq, pow_zero, mul_one, Nat.mod_one, Nat.div_one, if_true] at h ⊢
    rw [h]
  · have hzero : exponent.toNat = 0 := by omega
    simp only [hzero, Nat.pow_eq, pow_zero, mul_one] at h ⊢
    have hpos : 0 < 2 ^ (-exponent).toNat := Nat.two_pow_pos _
    rw [h, Nat.mul_mod_left, if_pos rfl, Nat.mul_div_cancel _ hpos]

theorem floorLog2_one {n : Nat} (hn : n ≠ 0) : floorLog2 n 1 = n.log2 := by
  have hone : (1 : Nat).log2 = 0 := by decide
  have hle : scaleUp 1 n.log2 ≤ scaleUp n (-(n.log2 : Int)) := by
    have hzero : (-(n.log2 : Int)).toNat = 0 := by omega
    simp only [scaleUp, hzero, Int.toNat_natCast, Nat.pow_eq, pow_zero, mul_one, one_mul]
    exact Nat.log2_self_le hn
  simp only [floorLog2, hone, Int.natCast_zero, Int.sub_zero, if_pos hle]

/-- The digits of the number nearest to `n`, counted in units of its last place. -/
theorem significand_spec {n : Nat} (hn : n ≠ 0) :
    2 ^ 52 ≤ roundHalfEven (n * 2 ^ (52 - n.log2)) (spacing n) ∧
      roundHalfEven (n * 2 ^ (52 - n.log2)) (spacing n) ≤ 2 ^ 53 ∧
      roundHalfEven (n * 2 ^ (52 - n.log2)) (spacing n) * spacing n =
        nearestNat n * 2 ^ (52 - n.log2) := by
  rcases Nat.lt_or_ge n (2 ^ 52) with hlt | hge
  · have hlog : n.log2 < 52 := (Nat.log2_lt hn).2 hlt
    have hsmall : n < 2 ^ 53 := Nat.lt_trans hlt (by decide)
    have hexact : roundHalfEven (n * 2 ^ (52 - n.log2)) 1 = n * 2 ^ (52 - n.log2) := by
      simpa using roundHalfEven_mul_of_dvd (one_dvd (n * 2 ^ (52 - n.log2)))
    have hlow : 2 ^ n.log2 * 2 ^ (52 - n.log2) = 2 ^ 52 := by
      rw [← pow_add, Nat.add_sub_cancel' hlog.le]
    have hhigh : 2 ^ (n.log2 + 1) * 2 ^ (52 - n.log2) = 2 ^ 53 := by
      rw [← pow_add]
      congr 1
      omega
    rw [spacing_of_lt hsmall, nearestNat_of_lt hsmall, hexact, ← hlow, ← hhigh]
    exact ⟨Nat.mul_le_mul_right _ (Nat.log2_self_le hn),
      Nat.mul_le_mul_right _ Nat.lt_log2_self.le, mul_one _⟩
  · have hlog : 52 - n.log2 = 0 := Nat.sub_eq_zero_of_le ((Nat.le_log2 hn).2 hge)
    obtain ⟨hlow, hhigh⟩ := bounds_spacing hge
    rw [hlog, pow_zero, mul_one, mul_one]
    exact ⟨le_roundHalfEven (spacing_pos n) hlow, roundHalfEven_le (spacing_pos n) hhigh, rfl⟩

theorem scaleUp_halve {n value : Nat} {exponent : Int}
    (h : scaleUp (2 * n) exponent = scaleUp value (-exponent)) :
    scaleUp n (exponent + 1) = scaleUp value (-(exponent + 1)) := by
  simp only [scaleUp, Nat.pow_eq] at h ⊢
  rcases Int.lt_or_le exponent 0 with hneg | hnonneg
  · have hzero : exponent.toNat = 0 ∧ (exponent + 1).toNat = 0 := by omega
    have hsucc : (-exponent).toNat = (-(exponent + 1)).toNat + 1 := by omega
    rw [hzero.1, hsucc, pow_succ, ← mul_assoc] at h
    rw [hzero.2]
    omega
  · have hzero : (-exponent).toNat = 0 ∧ (-(exponent + 1)).toNat = 0 := by omega
    have hsucc : (exponent + 1).toNat = exponent.toNat + 1 := by omega
    rw [hzero.1] at h
    rw [hzero.2, hsucc, pow_succ, ← h]
    ring

/-- The number nearest to a whole number is whole. -/
theorem toInt?_ofRatio {n : Nat} (hn : n ≠ 0) (hlog : n.log2 ≤ 1000) (negative : Bool) :
    toInt? (ofRatio negative n 1) =
      some (if negative then -(nearestNat n : Int) else nearestNat n) := by
  obtain ⟨hlow, hhigh, hvalue⟩ := significand_spec hn
  have hexponent : max (-1074) ((n.log2 : Int) - 52) = n.log2 - 52 := max_eq_right (by omega)
  have hplaces : ((n.log2 : Int) - 52).toNat = n.log2 - 52 := by omega
  have hnum : scaleUp n (-((n.log2 : Int) - 52)) = n * 2 ^ (52 - n.log2) := by
    have htoNat : (-((n.log2 : Int) - 52)).toNat = 52 - n.log2 := by omega
    rw [scaleUp, htoNat, Nat.pow_eq]
  have hden : scaleUp 1 ((n.log2 : Int) - 52) = spacing n := by
    rw [scaleUp, hplaces, one_mul, spacing]
  have hscaled : scaleUp (roundHalfEven (n * 2 ^ (52 - n.log2)) (spacing n)) ((n.log2 : Int) - 52) =
      scaleUp (nearestNat n) (-((n.log2 : Int) - 52)) := by
    have htoNat : (-((n.log2 : Int) - 52)).toNat = 52 - n.log2 := by omega
    rw [scaleUp, scaleUp, hplaces, htoNat]
    exact hvalue
  simp only [ofRatio, if_neg hn, floorLog2_one hn, hexponent, hnum, hden]
  generalize roundHalfEven (n * 2 ^ (52 - n.log2)) (spacing n) = significand at *
  split
  · rename_i hcarry
    have hcanonical : CanonicalParts (Nat.pow 2 52) ((n.log2 : Int) - 52 + 1) := by
      exact ⟨by decide, by omega, by omega, .inl (Nat.le_refl _)⟩
    rw [hcarry] at hscaled
    rw [ofParts, dif_pos hcanonical]
    exact toInt?_finite (scaleUp_halve hscaled)
  · rename_i hfits
    have hcanonical : CanonicalParts significand ((n.log2 : Int) - 52) := by
      exact ⟨Nat.lt_of_le_of_ne hhigh hfits, by omega, by omega, .inl hlow⟩
    rw [ofParts, dif_pos hcanonical]
    exact toInt?_finite hscaled

/-- An integer is rounded to the nearest whole number of the format. -/
theorem toInt?_ofInt {n : Int} (h : n.natAbs < 2 ^ 64) :
    (ofInt n).toInt? = some (nearestInt n) := by
  rcases eq_or_ne n 0 with rfl | hn
  · decide +kernel
  · have habs : n.natAbs ≠ 0 := Int.natAbs_ne_zero.2 hn
    have hlog := (Nat.log2_lt habs).2 h
    rw [ofInt, toInt?_ofRatio habs (by omega)]
    simp [nearestInt]

end EntryFilter.Binary64
