import EntryFilter.Number.Decimal
import EntryFilter.Proofs.Number.Nearest
import EntryFilter.Proofs.Number.Rounding

/-! # Rounding quotients

A quotient is scaled so that its significand has 53 digits in front of the point, and then rounded
to a whole number. Nothing nearer is lost by this: numbers with larger exponents are multiples of
the step, and those with smaller ones lie below the quotient by more than it is rounded. -/

namespace EntryFilter.Binary64

/-! ## Rounding a quotient to a whole number -/

section Quotient

variable {num den : Nat}

/-- Halfway between two whole numbers the even one is taken. -/
theorem roundHalfEven_even (h : 2 * (num % den) = den) : roundHalfEven num den % 2 = 0 := by
  simp only [roundHalfEven]
  split <;> omega

/-- A quotient is rounded by at most a half, and by a half only to an even number. -/
theorem abs_sub_roundHalfEven_le (hden : 0 < den) (num : Nat) :
    |(num : ℚ) / den - roundHalfEven num den| ≤ 1 / 2 ∧
      (|(num : ℚ) / den - roundHalfEven num den| = 1 / 2 → roundHalfEven num den % 2 = 0) := by
  have hden' : (0 : ℚ) < den := by exact_mod_cast hden
  have hsplit : (num : ℚ) / den = (num / den : Nat) + (num % den : Nat) / den := by
    rw [div_eq_iff hden'.ne', add_mul, div_mul_cancel₀ _ hden'.ne']
    exact_mod_cast (Nat.div_add_mod' num den).symm
  have hhalf : ((num % den : Nat) : ℚ) / den = 1 / 2 → 2 * (num % den) = den := by
    rw [div_eq_div_iff hden'.ne' two_ne_zero, one_mul, mul_comm]
    exact_mod_cast id
  rcases roundHalfEven_cases num den with ⟨hround, hle⟩ | ⟨hround, hle⟩
  · have hlow : (0 : ℚ) ≤ (num % den : Nat) / den := by positivity
    have hhigh : ((num % den : Nat) : ℚ) / den ≤ 1 / 2 := by
      rw [div_le_div_iff₀ hden' two_pos, one_mul, mul_comm]
      exact_mod_cast hle
    have hdiff : (num : ℚ) / den - roundHalfEven num den = (num % den : Nat) / den := by
      rw [hround, hsplit, add_sub_cancel_left]
    rw [hdiff, abs_of_nonneg hlow]
    exact ⟨hhigh, fun heq => roundHalfEven_even (hhalf heq)⟩
  · have hlow : (1 : ℚ) / 2 ≤ (num % den : Nat) / den := by
      rw [div_le_div_iff₀ two_pos hden', one_mul, mul_comm]
      exact_mod_cast hle
    have hhigh : ((num % den : Nat) : ℚ) / den ≤ 1 := by
      rw [div_le_one hden']
      exact_mod_cast (Nat.mod_lt num hden).le
    have hdiff : (num : ℚ) / den - roundHalfEven num den = (num % den : Nat) / den - 1 := by
      rw [hround, hsplit]
      push_cast
      ring
    rw [hdiff, abs_of_nonpos (by linarith)]
    exact ⟨by linarith, fun heq => roundHalfEven_even (hhalf (by linarith))⟩

/-- Of the integers the one that a quotient is rounded to is preferred. -/
theorem preferred_roundHalfEven (hden : 0 < den) (num : Nat) (k : Int) :
    Preferred (num / den) (roundHalfEven num den) (roundHalfEven num den) k k := by
  obtain ⟨hhalf, heven⟩ := abs_sub_roundHalfEven_le hden num
  generalize (num : ℚ) / den = t at *
  generalize roundHalfEven num den = r at *
  by_cases hk : (r : Int) = k
  · exact .inr (.inl (by exact_mod_cast hk))
  · have hapart : (1 : ℚ) ≤ |(r : ℚ) - k| := by
      exact_mod_cast Int.one_le_abs (sub_ne_zero.2 hk)
    have htriangle : |(r : ℚ) - k| ≤ |t - r| + |t - k| := by
      rw [abs_sub_comm t r]
      exact abs_sub_le (r : ℚ) t k
    rcases lt_or_ge |t - r| |t - k| with hlt | hge
    · exact .inl hlt
    · -- Both are half a unit off, so they are neighbours.
      have heq : |t - r| = 1 / 2 := by linarith
      have heq' : |t - k| = 1 / 2 := by linarith
      have hone : |(r : Int) - k| = 1 := by
        have hle : |(r : ℚ) - k| ≤ 1 := by linarith
        exact_mod_cast hle.antisymm hapart
      have hr := heven heq
      refine .inr (.inr ⟨heq.trans heq'.symm, by omega, ?_⟩)
      rcases (abs_eq zero_le_one).1 hone with h | h <;> omega

/-! ## Scaled quotients -/

theorem scaleUp_div_scaleUp (num den : Nat) (e : Int) :
    (scaleUp num (-e) : ℚ) / scaleUp den e = num / den / 2 ^ e := by
  rw [(zpow_eq_div e).1]
  simp only [scaleUp, Nat.pow_eq, Nat.cast_mul]
  rw [div_div_eq_mul_div, div_mul_eq_mul_div, div_div]

theorem scaleUp_pos {n : Nat} (h : 0 < n) (e : Int) : 0 < scaleUp n e :=
  Nat.mul_pos h (Nat.two_pow_pos _)

theorem scaleUp_le_scaleUp_iff (hden : 0 < den) {e : Int} :
    scaleUp den e ≤ scaleUp num (-e) ↔ (2 : ℚ) ^ e ≤ num / den := by
  have hpos : (0 : ℚ) < scaleUp den e := by exact_mod_cast scaleUp_pos hden e
  have hpow : (0 : ℚ) < 2 ^ e := zpow_pos two_pos e
  rw [← one_le_div hpow, ← scaleUp_div_scaleUp, one_le_div hpos, Nat.cast_le]

/-- A positive quotient lies between two neighbouring powers of two. -/
theorem floorLog2_spec (hnum : num ≠ 0) (hden : 0 < den) :
    (2 : ℚ) ^ floorLog2 num den ≤ num / den ∧ (num : ℚ) / den < 2 ^ (floorLog2 num den + 1) := by
  have hden' : (0 : ℚ) < den := by exact_mod_cast hden
  have hnumLow : (2 : ℚ) ^ (num.log2 : Int) ≤ num := by
    exact_mod_cast Nat.log2_self_le hnum
  have hnumHigh : (num : ℚ) < 2 ^ (num.log2 + 1 : Int) := by
    exact_mod_cast Nat.lt_log2_self (n := num)
  have hdenLow : (2 : ℚ) ^ (den.log2 : Int) ≤ den := by
    exact_mod_cast Nat.log2_self_le hden.ne'
  have hdenHigh : (den : ℚ) < 2 ^ (den.log2 + 1 : Int) := by
    exact_mod_cast Nat.lt_log2_self (n := den)
  have hlow : (2 : ℚ) ^ (num.log2 - den.log2 - 1 : Int) ≤ num / den := by
    rw [le_div_iff₀ hden']
    calc (2 : ℚ) ^ (num.log2 - den.log2 - 1 : Int) * den
        ≤ 2 ^ (num.log2 - den.log2 - 1 : Int) * 2 ^ (den.log2 + 1 : Int) := by gcongr
      _ = 2 ^ (num.log2 : Int) := by
        rw [← zpow_add₀ two_ne_zero]
        congr 1
        ring
      _ ≤ num := hnumLow
  have hhigh : (num : ℚ) / den < 2 ^ (num.log2 - den.log2 + 1 : Int) := by
    rw [div_lt_iff₀ hden']
    calc (num : ℚ) < 2 ^ (num.log2 + 1 : Int) := hnumHigh
      _ = 2 ^ (num.log2 - den.log2 + 1 : Int) * 2 ^ (den.log2 : Int) := by
        rw [← zpow_add₀ two_ne_zero]
        congr 1
        ring
      _ ≤ 2 ^ (num.log2 - den.log2 + 1 : Int) * den := by gcongr
  simp only [floorLog2, scaleUp_le_scaleUp_iff hden]
  split
  · rename_i hle
    exact ⟨hle, hhigh⟩
  · rename_i hgt
    rw [sub_add_cancel]
    exact ⟨hlow, not_le.1 hgt⟩

end Quotient

/-! ## Steps of the format -/

theorem div_mul_step (q : ℚ) (step : Int) : q / 2 ^ step * 2 ^ step = q :=
  div_mul_cancel₀ q (zpow_pos two_pos step).ne'

/-- Numbers with a smaller exponent are smaller than those with 53 digits. -/
theorem mul_zpow_lt {m : Nat} {e step : Int} (hm : m < 2 ^ 53) (h : e < step) :
    (m : ℚ) * 2 ^ e < 2 ^ 52 * 2 ^ step := by
  have hm' : (m : ℚ) < 2 ^ 53 := by exact_mod_cast hm
  calc (m : ℚ) * 2 ^ e
      < 2 ^ 53 * 2 ^ e := by gcongr
    _ = 2 ^ 52 * 2 ^ (e + 1) := by
      rw [zpow_add_one₀ two_ne_zero]
      ring
    _ ≤ 2 ^ 52 * 2 ^ step := by
      gcongr
      · exact one_le_two
      · exact h

/-- Numbers with a larger exponent are multiples of the step, and odd ones only if their significand
is odd. -/
theorem exists_multiple (negative : Bool) (m : Nat) {e step : Int} (h : step ≤ e) :
    ∃ k : Int, signed negative (m * 2 ^ e) = k * 2 ^ step ∧ (k % 2 = 1 → m % 2 = 1) := by
  obtain ⟨places, hplaces⟩ := Int.eq_ofNat_of_zero_le (Int.sub_nonneg.2 h)
  obtain rfl : e = step + places := by omega
  have hodd : (m * 2 ^ places) % 2 = 1 → m % 2 = 1 := fun hmod =>
    Nat.odd_iff.1 (Nat.odd_mul.1 (Nat.odd_iff.2 hmod)).1
  have hvalue : (m : ℚ) * 2 ^ (step + places : Int) = (m * 2 ^ places : Nat) * 2 ^ step := by
    rw [zpow_add₀ two_ne_zero, zpow_natCast]
    push_cast
    ring
  rw [hvalue]
  cases negative
  · exact ⟨(m * 2 ^ places : Nat), rfl, fun hk => hodd (by omega)⟩
  · refine ⟨-(m * 2 ^ places : Nat), ?_, fun hk => hodd (by omega)⟩
    rw [signed, if_pos rfl, Int.cast_neg, neg_mul]
    rfl

/-- What is preferred among the multiples of a step is preferred among the numbers of the format, if
the step is the least one or the quotient has 53 digits in front of the point. -/
theorem preferred_of_step {q : ℚ} {s : Nat} {step : Int}
    (hlow : step = -1074 ∨ 2 ^ 52 * 2 ^ step ≤ q)
    (hround : ∀ k : Int, Preferred (q / 2 ^ step) s s k k) (negative : Bool) {m : Nat} {e : Int}
    (h : CanonicalParts m e) :
    Preferred q (s * 2 ^ step) s (signed negative (m * 2 ^ e)) m := by
  have hpos : (0 : ℚ) < 2 ^ step := zpow_pos two_pos step
  have hscaled (k : Int) : Preferred q (s * 2 ^ step) s (k * 2 ^ step) k := by
    have hk := (hround k).mul_right hpos
    rwa [div_mul_step] at hk
  rcases Int.lt_or_le e step with hsmall | hlarge
  · -- Here the other number lies below all that have as many digits as the quotient.
    have hlow : 2 ^ 52 * 2 ^ step ≤ q := hlow.resolve_left (by have := h.2.1; omega)
    have hother : signed negative (m * 2 ^ e) < 2 ^ 52 * 2 ^ step := by
      refine (signed_le_abs _ _).trans_lt ?_
      rw [abs_of_nonneg (by positivity)]
      exact mul_zpow_lt h.1 hsmall
    have hfirst := (hscaled (2 ^ 52)).le
    rw [Int.cast_pow, Int.cast_ofNat, abs_of_nonneg (sub_nonneg.2 hlow)] at hfirst
    exact .inl (hfirst.trans_lt ((sub_lt_sub_left hother q).trans_le (le_abs_self _)))
  · -- Here the other number is a multiple of the step.
    obtain ⟨k, hk, hodd⟩ := exists_multiple negative m hlarge
    rw [hk]
    rcases hscaled k with hlt | heq | ⟨heq, hs, hk⟩
    · exact .inl hlt
    · exact .inr (.inl heq)
    · exact .inr (.inr ⟨heq, hs, by have := hodd hk; omega⟩)

/-! ## The number nearest to a quotient -/

/-- The preferred magnitude is rounded to with either sign, and from the bound on the result is
infinite. -/
theorem isNearest_ofParts {q : ℚ} {m : Nat} {e : Int} (hq : 0 ≤ q)
    (hparts : m < 2 ^ 53 ∧ -1074 ≤ e ∧ (2 ^ 52 ≤ m ∨ e = -1074)) (hbound : e ≤ 971 ↔ q < bound)
    (hpreferred : ∀ negative' m' e', CanonicalParts m' e' →
      Preferred q (m * 2 ^ e) m (signed negative' (m' * 2 ^ e')) m')
    (negative : Bool) : (ofParts negative m e).IsNearest (signed negative q) := by
  obtain ⟨hm, hleast, hdigits⟩ := hparts
  rw [ofParts]
  split
  · rename_i hcanonical
    refine ⟨?_, fun negative' m' e' h' => ?_⟩
    · rw [abs_signed, abs_of_nonneg hq]
      exact hbound.1 hcanonical.2.2.1
    · cases negative
      · exact hpreferred negative' m' e' h'
      · have hmirror := (hpreferred (!negative') m' e' h').neg
        rwa [signed_not, neg_neg] at hmirror
  · rename_i hlarge
    have hge : bound ≤ q := not_lt.1 fun hlt => hlarge ⟨hm, hleast, hbound.2 hlt, hdigits⟩
    cases negative
    · exact hge
    · simpa [IsNearest, signed] using hge

section Preferred

variable {t : ℚ} {s n : Nat}

theorem le_of_preferred (hround : ∀ k : Int, Preferred t s s k k) (ht : n ≤ t) : n ≤ s := by
  have hdist := (hround n).le
  rw [Int.cast_natCast, abs_of_nonneg (sub_nonneg.2 ht)] at hdist
  have habs := le_abs_self (t - s)
  have hle : (n : ℚ) ≤ s := by linarith
  exact_mod_cast hle

/-- What lies below an even number is rounded up to it from half a unit below on. -/
theorem eq_iff_of_preferred (hround : ∀ k : Int, Preferred t s s k k) (hn : n % 2 = 0)
    (ht : t < n) : s ≤ n ∧ (s = n ↔ n - 1 / 2 ≤ t) := by
  have htop := hround n
  have hbelow := (hround (n - 1)).le
  rw [Int.cast_natCast] at htop
  push_cast at hbelow
  have hle : (s : ℚ) ≤ n := by
    have hdist := htop.le
    rw [abs_of_neg (sub_neg.2 ht)] at hdist
    have habs := neg_le_abs (t - s)
    linarith
  refine ⟨by exact_mod_cast hle, ?_, fun hhalf => ?_⟩
  · rintro rfl
    rw [abs_of_neg (sub_neg.2 ht)] at hbelow
    rcases abs_cases (t - (s - 1)) with ⟨habs, -⟩ | ⟨habs, -⟩ <;> linarith
  · by_contra hne
    have hlt : (s : ℚ) + 1 ≤ n := by
      have hle : s ≤ n := by exact_mod_cast hle
      exact_mod_cast Nat.lt_of_le_of_ne hle hne
    rw [Preferred, abs_of_neg (sub_neg.2 ht)] at htop
    have habs := le_abs_self (t - s)
    rcases htop with hdist | heq | ⟨-, -, hodd⟩
    · linarith
    · linarith
    · omega

end Preferred

section Step

variable {q : ℚ} {s : Nat} {step : Int}

/-- If the 53 digits carry over, the first number with the next exponent is rounded to. -/
theorem isNearest_of_carry (hq : 0 ≤ q) (hleast : -1074 ≤ step) (hhigh : q < 2 ^ 53 * 2 ^ step)
    (hhalf : 2 ^ 53 - 1 / 2 ≤ q / 2 ^ step)
    (hpreferred : ∀ negative' m' e', CanonicalParts m' e' →
      Preferred q ((2 ^ 53 : Nat) * 2 ^ step) (2 ^ 53 : Nat) (signed negative' (m' * 2 ^ e')) m')
    (negative : Bool) :
    (ofParts negative (Nat.pow 2 52) (step + 1)).IsNearest (signed negative q) := by
  have hvalue : ((2 ^ 53 : Nat) : ℚ) * 2 ^ step = (2 ^ 52 : Nat) * 2 ^ (step + 1) := by
    rw [zpow_add_one₀ two_ne_zero]
    push_cast
    ring
  refine isNearest_ofParts hq ⟨by decide, by omega, .inl le_rfl⟩ ⟨fun hstep => ?_, fun hlt => ?_⟩
    (fun negative' m' e' h => ?_) negative
  · refine lt_trans ?_ (mul_zpow_lt_bound (Nat.cast_nonneg (2 ^ 52)) (by norm_num) hstep)
    rw [← hvalue]
    exact_mod_cast hhigh
  · by_contra hlarge
    refine absurd hlt (not_lt.2 ?_)
    rw [← div_mul_step q step]
    exact bound_le_mul_zpow hhalf (by omega)
  · have heven := hpreferred negative' m' e' h
    rw [hvalue] at heven
    exact heven.of_even (by decide)

/-- If the digits do not carry over, they are the significand. -/
theorem isNearest_of_fit (hq : 0 ≤ q) (hleast : -1074 ≤ step)
    (hlow : step = -1074 ∨ 2 ^ 52 * 2 ^ step ≤ q) (hhalf : q / 2 ^ step < 2 ^ 53 - 1 / 2)
    (hs : s < 2 ^ 53) (hdigits : 2 ^ 52 ≤ s ∨ step = -1074)
    (hpreferred : ∀ negative' m' e', CanonicalParts m' e' →
      Preferred q (s * 2 ^ step) s (signed negative' (m' * 2 ^ e')) m') (negative : Bool) :
    (ofParts negative s step).IsNearest (signed negative q) := by
  refine isNearest_ofParts hq ⟨hs, hleast, hdigits⟩ ⟨fun hstep => ?_, fun hlt => ?_⟩ hpreferred
    negative
  · rw [← div_mul_step q step]
    exact mul_zpow_lt_bound (by positivity) hhalf hstep
  · by_contra hlarge
    have hlow := hlow.resolve_left (by omega)
    have hvalue : (2 : ℚ) ^ 52 * 2 ^ step = 2 ^ 53 * 2 ^ (step - 1) := by
      rw [zpow_sub_one₀ two_ne_zero]
      ring
    refine absurd hlt (not_lt.2 (le_trans ?_ hlow))
    rw [hvalue]
    exact bound_le_mul_zpow (by norm_num) (by omega)

/-- The preferred multiple of the step is rounded to. -/
theorem isNearest_of_step (hq : 0 ≤ q) (hleast : -1074 ≤ step)
    (hlow : step = -1074 ∨ 2 ^ 52 * 2 ^ step ≤ q) (hhigh : q < 2 ^ 53 * 2 ^ step)
    (hround : ∀ k : Int, Preferred (q / 2 ^ step) s s k k) (negative : Bool) :
    (if s = Nat.pow 2 53 then ofParts negative (Nat.pow 2 52) (step + 1)
      else ofParts negative s step).IsNearest (signed negative q) := by
  have hpos : (0 : ℚ) < 2 ^ step := zpow_pos two_pos step
  have hpreferred (negative' : Bool) (m' : Nat) (e' : Int) (h : CanonicalParts m' e') :
      Preferred q (s * 2 ^ step) s (signed negative' (m' * 2 ^ e')) m' :=
    preferred_of_step hlow hround negative' h
  have ht : q / 2 ^ step < (2 ^ 53 : Nat) := by
    rw [div_lt_iff₀ hpos]
    exact_mod_cast hhigh
  obtain ⟨hs, hcarry⟩ := eq_iff_of_preferred hround (by decide) ht
  have hdigits : 2 ^ 52 ≤ s ∨ step = -1074 := by
    refine hlow.symm.imp_left fun hlow => le_of_preferred hround ?_
    rw [le_div_iff₀ hpos]
    exact_mod_cast hlow
  split
  · rename_i hcarried
    obtain rfl : s = 2 ^ 53 := hcarried
    exact isNearest_of_carry hq hleast hhigh (by exact_mod_cast hcarry.1 rfl) hpreferred negative
  · rename_i hfits
    have hhalf := not_le.1 (mt hcarry.2 hfits)
    exact isNearest_of_fit hq hleast hlow (by exact_mod_cast hhalf) (Nat.lt_of_le_of_ne hs hfits)
      hdigits hpreferred negative

end Step

variable {num den : Nat}

/-- The exponent with which a quotient is rounded. -/
def stepOf (num den : Nat) : Int := max (-1074) (floorLog2 num den - 52)

theorem stepOf_spec (hnum : num ≠ 0) (hden : 0 < den) :
    (stepOf num den = -1074 ∨ (2 : ℚ) ^ 52 * 2 ^ stepOf num den ≤ num / den) ∧
      -1074 ≤ stepOf num den ∧ (num : ℚ) / den < 2 ^ 53 * 2 ^ stepOf num den := by
  obtain ⟨hlow, hhigh⟩ := floorLog2_spec hnum hden
  have hpow (digits : Nat) : (2 : ℚ) ^ digits * 2 ^ stepOf num den =
      2 ^ (digits + stepOf num den) := by
    rw [zpow_add₀ two_ne_zero, zpow_natCast]
  rw [hpow, hpow]
  refine ⟨?_, le_max_left _ _, ?_⟩
  · rcases max_choice (-1074) (floorLog2 num den - 52) with hleast | hstep
    · exact .inl hleast
    · right
      rw [stepOf, hstep]
      simpa using hlow
  · refine hhigh.trans_le (zpow_le_zpow_right₀ one_le_two ?_)
    have := le_max_right (-1074) (floorLog2 num den - 52)
    simp only [stepOf]
    omega

/-- What lies below half of the least step is rounded to zero. -/
theorem isNearest_zero {q : ℚ} (hq : 0 ≤ q) (hsmall : 2 * q < 2 ^ (-1074 : Int))
    (negative : Bool) : (zero negative).IsNearest (signed negative q) := by
  have hleast : (2 : ℚ) ^ (-1074 : Int) ≤ 1 := zpow_le_one_of_nonpos₀ one_le_two (by decide)
  have hone : (1 : ℚ) < bound := by
    have := mul_zpow_lt_bound (c := 1) (e := 0) zero_le_one (by norm_num) (by decide)
    simpa using this
  refine isNearest_ofParts hq ⟨by decide, le_rfl, .inr rfl⟩ (iff_of_true (by decide) ?_) ?_ negative
  · linarith
  · intro negative' m e h
    rw [Nat.cast_zero, zero_mul]
    rcases eq_or_ne m 0 with rfl | hm
    · right
      left
      cases negative' <;> simp [signed]
    · have hstep : (2 : ℚ) ^ (-1074 : Int) ≤ m * 2 ^ e := by
        calc (2 : ℚ) ^ (-1074 : Int) ≤ 2 ^ e := zpow_le_zpow_right₀ one_le_two h.2.1
          _ ≤ m * 2 ^ e := le_mul_of_one_le_left (zpow_pos two_pos e).le
            (by exact_mod_cast Nat.one_le_iff_ne_zero.2 hm)
      have hapart : |signed negative' (m * 2 ^ e)| ≤ |q - signed negative' (m * 2 ^ e)| + |q| := by
        rw [abs_sub_comm]
        simpa using abs_add_le (signed negative' (m * 2 ^ e) - q) q
      rw [abs_signed, abs_of_nonneg (by positivity : (0 : ℚ) ≤ m * 2 ^ e)] at hapart
      left
      rw [sub_zero]
      rw [abs_of_nonneg hq] at *
      linarith

/-- A quotient of two whole numbers is turned into the number nearest to it. -/
theorem isNearest_ofRatio (hden : 0 < den) (num : Nat) (negative : Bool) :
    (ofRatio negative num den).IsNearest (signed negative (num / den)) := by
  rcases eq_or_ne num 0 with rfl | hnum
  · rw [ofRatio, if_pos rfl, Nat.cast_zero, zero_div]
    exact isNearest_zero le_rfl (by rw [mul_zero]; exact zpow_pos two_pos _) negative
  · obtain ⟨hlow, hleast, hhigh⟩ := stepOf_spec hnum hden
    have hq : (0 : ℚ) ≤ num / den := by positivity
    have hround := preferred_roundHalfEven (scaleUp_pos hden (stepOf num den))
      (scaleUp num (-stepOf num den))
    rw [scaleUp_div_scaleUp] at hround
    simp only [ofRatio, if_neg hnum]
    rw [← stepOf]
    generalize roundHalfEven _ _ = s at *
    generalize stepOf num den = step at *
    generalize (num : ℚ) / den = q at *
    exact isNearest_of_step hq hleast hlow hhigh hround negative

theorem isNearest_ofInt (n : Int) : (ofInt n).IsNearest n := by
  have hnearest := isNearest_ofRatio Nat.one_pos n.natAbs (n < 0)
  rwa [Nat.cast_one, div_one, signed_natAbs] at hnearest

end EntryFilter.Binary64
