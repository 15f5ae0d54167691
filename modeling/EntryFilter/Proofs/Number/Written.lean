import EntryFilter.Proofs.Lexer.Readers
import EntryFilter.Proofs.Number.Digits
import EntryFilter.Proofs.Number.Quotient

/-! # Written numbers are rounded once

A decimal is a rational number, and the binary number that it is turned into is the one nearest to
it, whatever its length. A plain numeral, with a sign or none and with a point or none, is read as
the number nearest to the rational number that it writes. -/

namespace EntryFilter

open Binary64 EntryFilter.Text

/-! ## Decimals -/

namespace Decimal

/-- The rational number that a decimal is. -/
def toRat (d : Decimal) : ℚ := d.digits * 10 ^ d.exponent

theorem bound_le_pow_ten : bound ≤ 10 ^ (310 : Int) := by
  have hpow : (2 : ℚ) ^ 1024 ≤ 10 ^ 310 := by
    exact_mod_cast (by decide +kernel : 2 ^ 1024 ≤ 10 ^ 310)
  have hpos : (0 : ℚ) < 2 ^ 970 := pow_pos two_pos 970
  have hcast : (10 : ℚ) ^ (310 : Int) = 10 ^ 310 := zpow_natCast 10 310
  rw [bound, hcast]
  exact (sub_lt_self _ hpos).le.trans hpow

theorem two_mul_pow_ten_lt : 2 * (10 : ℚ) ^ (-331 : Int) < 2 ^ (-1074 : Int) := by
  have hpow : (2 : ℚ) ^ 1074 * 2 < 10 ^ 331 := by
    exact_mod_cast (by decide +kernel : 2 ^ 1074 * 2 < 10 ^ 331)
  have htwo : (2 : ℚ) ^ (-1074 : Int) = (2 ^ 1074)⁻¹ := zpow_neg 2 (1074 : Nat)
  have hten : (10 : ℚ) ^ (-331 : Int) = (10 ^ 331)⁻¹ := zpow_neg 10 (331 : Nat)
  rw [htwo, hten, mul_inv_lt_iff₀ (pow_pos (by norm_num) 331),
    lt_inv_mul_iff₀ (pow_pos two_pos 1074)]
  exact hpow

/-- A decimal lies between the powers of ten that its number of digits tells. -/
theorem toRat_bounds {d : Decimal} (h : d.digits ≠ 0) :
    (10 : ℚ) ^ (digitCount d.digits - 1 + d.exponent : Int) ≤ d.toRat ∧
      d.toRat < 10 ^ (digitCount d.digits + d.exponent : Int) := by
  have hpos : (0 : ℚ) < 10 ^ d.exponent := zpow_pos (by norm_num) _
  have hcount := digitCount_pos d.digits
  have hlow := pow_le_of_lt_digitCount h (Nat.sub_one_lt_of_lt hcount)
  have hhigh := lt_pow_digitCount d.digits
  have hcast : ((digitCount d.digits : Int) - 1) = (digitCount d.digits - 1 : Nat) := by omega
  rw [hcast, zpow_add₀ (by norm_num), zpow_add₀ (by norm_num), toRat, zpow_natCast, zpow_natCast]
  constructor
  · exact mul_le_mul_of_nonneg_right (by exact_mod_cast hlow) hpos.le
  · exact mul_lt_mul_of_pos_right (by exact_mod_cast hhigh) hpos

theorem toRat_nonneg (d : Decimal) : 0 ≤ d.toRat := by
  rw [toRat]
  positivity

/-- A decimal as a quotient of whole numbers. -/
theorem toRat_eq_div (d : Decimal) : d.toRat =
    (d.digits * Nat.pow 10 d.exponent.toNat : Nat) / (Nat.pow 10 (-d.exponent).toNat : Nat) := by
  rw [toRat, Nat.pow_eq, Nat.pow_eq]
  rcases Int.le_total 0 d.exponent with hnonneg | hneg
  · obtain ⟨k, hk⟩ := Int.eq_ofNat_of_zero_le hnonneg
    simp [hk]
  · obtain ⟨k, hk⟩ := Int.eq_ofNat_of_zero_le (Int.neg_nonneg.2 hneg)
    obtain hk : d.exponent = -(k : Int) := by omega
    simp [hk, div_eq_mul_inv]

/-- A decimal is turned into the number nearest to it. -/
theorem isNearest_toBinary64 (d : Decimal) (negative : Bool) :
    (d.toBinary64 negative).IsNearest (signed negative d.toRat) := by
  unfold toBinary64
  split
  · rename_i hzero
    have hrat : d.toRat = 0 := by rw [toRat, hzero, Nat.cast_zero, zero_mul]
    rw [hrat]
    exact isNearest_zero le_rfl (by rw [mul_zero]; exact zpow_pos two_pos _) negative
  · rename_i hne
    obtain ⟨hlow, hhigh⟩ := toRat_bounds hne
    dsimp only
    split
    · rename_i hlarge
      have hle : bound ≤ d.toRat := by
        refine bound_le_pow_ten.trans (le_trans ?_ hlow)
        exact zpow_le_zpow_right₀ (by norm_num) (by omega)
      cases negative
      · exact hle
      · simpa [IsNearest, signed] using hle
    · split
      · rename_i hsmall
        refine isNearest_zero d.toRat_nonneg (lt_trans ?_ two_mul_pow_ten_lt) negative
        refine mul_lt_mul_of_pos_left (hhigh.trans_le ?_) two_pos
        exact zpow_le_zpow_right₀ (by norm_num) (by omega)
      · rw [toRat_eq_div]
        exact isNearest_ofRatio (Nat.pow_pos (by decide)) _ negative

end Decimal

/-! ## Numerals -/

/-- The sign in front of a numeral, which may be missing. -/
inductive WritesSign : List Char → Bool → Prop where
  | none : WritesSign [] false
  | plus : WritesSign ['+'] false
  | minus : WritesSign ['-'] true

/-- A plain numeral and the rational number that it writes: a sign or none, digits, and a point with
digits behind it or none. -/
inductive WritesNumber : List Char → ℚ → Prop where
  | mk {sign negative whole point digits} : WritesSign sign negative →
      whole ≠ [] → (∀ d ∈ whole, isAsciiDigit d = true) → Fraction point digits →
      WritesNumber (sign ++ (whole ++ point)) (signed negative
        (Nat.ofDigitChars 10 whole 0 + Nat.ofDigitChars 10 digits 0 / 10 ^ digits.length))

theorem Decimal.ofDigits_eq (digits : List Char) :
    ofDigits digits = Nat.ofDigitChars 10 digits 0 := by
  rw [Nat.ofDigitChars_eq_foldl, ofDigits]
  simp only [Nat.mul_comm 10]

theorem Decimal.toRat_ofParts (whole digits : List Char) : (ofParts whole digits 0).toRat =
    Nat.ofDigitChars 10 whole 0 + Nat.ofDigitChars 10 digits 0 / 10 ^ digits.length := by
  have hpos : (10 : ℚ) ^ digits.length ≠ 0 := pow_ne_zero _ (by norm_num)
  rw [toRat, ofParts, ofDigits_eq, Nat.ofDigitChars_append, Nat.ofDigitChars_eq_ofDigitChars_zero]
  rw [zero_sub, zpow_neg, zpow_natCast, ← div_eq_mul_inv]
  push_cast
  field_simp

theorem read?_numeral {sign whole point digits : List Char} {negative : Bool}
    (hsign : WritesSign sign negative) (hne : whole ≠ [])
    (hwhole : ∀ d ∈ whole, isAsciiDigit d = true) (hpoint : Fraction point digits) :
    Binary64.read? (sign ++ (whole ++ point)) =
      some ((Decimal.ofParts whole digits 0).toBinary64 negative) := by
  cases hsign with
  | none => exact Lexeme.read_numeral (.inl ⟨rfl, rfl⟩) hne hwhole hpoint
  | minus => exact Lexeme.read_numeral (.inr ⟨rfl, rfl⟩) hne hwhole hpoint
  | plus =>
      have hread := Lexeme.readUnsigned_numeral hne hwhole hpoint
      simp [Binary64.read?, Decimal.takeSign, hread]

/-- A numeral is read as the number nearest to what it writes. -/
theorem WritesNumber.exists_read? {cs : List Char} {q : ℚ} (h : WritesNumber cs q) :
    ∃ x, Binary64.read? cs = some x ∧ x.IsNearest q := by
  obtain ⟨hsign, hne, hwhole, hpoint⟩ := h
  refine ⟨_, read?_numeral hsign hne hwhole hpoint, ?_⟩
  rw [← Decimal.toRat_ofParts]
  exact Decimal.isNearest_toBinary64 _ _

/-- An integer is written by its digits. -/
theorem writesNumber_intText (n : Int) : WritesNumber (Decimal.intText n) n := by
  have hwrites {sign : List Char} {negative : Bool} (hsign : WritesSign sign negative) :
      WritesNumber (sign ++ Decimal.natText n.natAbs) (signed negative n.natAbs) := by
    have hnumeral := WritesNumber.mk hsign (Decimal.natText_ne_nil n.natAbs)
      (fun _ h => Decimal.isAsciiDigit_of_mem_natText h) .none
    rwa [← Decimal.ofDigits_eq, Decimal.ofDigits_natText, List.append_nil, Nat.ofDigitChars_nil,
      Nat.cast_zero, zero_div, add_zero] at hnumeral
  rw [Decimal.intText]
  conv => rhs; rw [← signed_natAbs n]
  split
  · rename_i hneg
    rw [decide_eq_true hneg]
    exact hwrites .minus
  · rename_i hnonneg
    rw [decide_eq_false hnonneg]
    exact hwrites .none

end EntryFilter
