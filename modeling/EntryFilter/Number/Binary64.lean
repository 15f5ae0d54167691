/-! # Numbers of 64 bits

Integers of 64 bits with a sign, and numbers of the 64-bit binary format as exact values: a finite
one is a whole significand times a power of two, in a single canonical form. Rounding goes to the
nearest number, a tie to the even significand. Comparison and conversion work on the exact
values. -/

namespace EntryFilter

/-! ## Integers -/

/-- Whether 64 bits with a sign hold an integer. -/
def isInt64 (n : Int) : Bool := -9223372036854775808 ≤ n && n ≤ 9223372036854775807

theorem toInt_ofInt_of_isInt64 {n : Int} (h : isInt64 n) : (Int64.ofInt n).toInt = n := by
  simp only [isInt64, Bool.and_eq_true, decide_eq_true_eq] at h
  exact Int64.toInt_ofInt_of_le h.1 (Int.lt_add_one_of_le h.2)

theorem isInt64_toInt (n : Int64) : isInt64 n.toInt := by
  simp only [isInt64, Bool.and_eq_true, decide_eq_true_eq]
  exact ⟨n.le_toInt, Int.lt_add_one_iff.1 n.toInt_lt⟩

/-! ## Binary floating-point numbers -/

/-- A significand and exponent in canonical form: 53 bits unless the exponent is the least one. -/
def CanonicalParts (significand : Nat) (exponent : Int) : Prop :=
  significand < Nat.pow 2 53 ∧ -1074 ≤ exponent ∧ exponent ≤ 971 ∧
    (Nat.pow 2 52 ≤ significand ∨ exponent = -1074)

instance (significand : Nat) (exponent : Int) : Decidable (CanonicalParts significand exponent) :=
  inferInstanceAs (Decidable (_ ∧ _))

/-- A number of the 64-bit binary format. All NaNs count as one, and zero has a sign. -/
inductive Binary64 where
  | nan
  | infinity (negative : Bool)
  | finite (negative : Bool) (significand : Nat) (exponent : Int)
      (canonical : CanonicalParts significand exponent)
  deriving DecidableEq

namespace Binary64

/-- Neither NaN nor infinite. -/
def isFinite : Binary64 → Bool
  | finite .. => true
  | _ => false

/-- Zero of either sign. -/
def isZero : Binary64 → Bool
  | finite _ significand _ _ => significand == 0
  | _ => false

/-- The number with the given parts; infinite when they are too large for the format. -/
def ofParts (negative : Bool) (significand : Nat) (exponent : Int) : Binary64 :=
  if h : CanonicalParts significand exponent then finite negative significand exponent h
  else infinity negative

/-- Zero with a sign. -/
def zero (negative : Bool) : Binary64 := ofParts negative 0 (-1074)

/-- The number with the other sign. -/
def neg : Binary64 → Binary64
  | nan => nan
  | infinity negative => infinity (!negative)
  | finite negative significand exponent canonical =>
    finite (!negative) significand exponent canonical

/-- `2 ^ e * n`, kept whole by putting a negative power into a denominator. -/
def scaleUp (n : Nat) (e : Int) : Nat := n * Nat.pow 2 e.toNat

/-- The largest `k` with `2 ^ k ≤ num / den`, for positive `num` and `den`. -/
def floorLog2 (num den : Nat) : Int :=
  let k : Int := num.log2 - den.log2
  if scaleUp den k ≤ scaleUp num (-k) then k else k - 1

/-- `num / den` to the nearest whole number, a tie to the even one. -/
def roundHalfEven (num den : Nat) : Nat :=
  let quotient := num / den
  let remainder := num % den
  if den < 2 * remainder ∨ (den = 2 * remainder ∧ quotient % 2 = 1) then quotient + 1 else quotient

/-- The number nearest to `num / den`, for a positive `den`. -/
def ofRatio (negative : Bool) (num den : Nat) : Binary64 :=
  if num = 0 then zero negative
  else
    let exponent := max (-1074) (floorLog2 num den - 52)
    let significand := roundHalfEven (scaleUp num (-exponent)) (scaleUp den exponent)
    if significand = Nat.pow 2 53 then ofParts negative (Nat.pow 2 52) (exponent + 1)
    else ofParts negative significand exponent

/-- The number nearest to an integer. -/
def ofInt (n : Int) : Binary64 := ofRatio (n < 0) n.natAbs 1

/-- The number nearest to a natural number. -/
def ofNat (n : Nat) : Binary64 := ofRatio false n 1

/-- What a finite number has behind the point, with the sign of the number; zero if there is
nothing. -/
def fract : Binary64 → Binary64
  | finite negative significand exponent _ =>
    let divisor := Nat.pow 2 (-exponent).toNat
    if significand % divisor = 0 then zero false
    else ofRatio negative (significand % divisor) divisor
  | _ => nan

/-- The integer of 64 bits that is nearest to the number cut off at its point; zero for NaN. -/
def toInt64 : Binary64 → Int64
  | nan => 0
  | infinity negative => if negative then Int64.minValue else Int64.maxValue
  | finite negative significand exponent _ =>
    let magnitude : Int := scaleUp (significand / Nat.pow 2 (-exponent).toNat) exponent
    let whole := if negative then -magnitude else magnitude
    Int64.ofInt (max Int64.minValue.toInt (min whole Int64.maxValue.toInt))

/-- The exact value times `2 ^ 1074`, for a finite number. -/
def scaledValue (negative : Bool) (significand : Nat) (exponent : Int) : Int :=
  let magnitude : Int := scaleUp significand (exponent + 1074)
  if negative then -magnitude else magnitude

/-- Order of two numbers; nothing is ordered with NaN, and the zeros are equal. -/
def compare? : Binary64 → Binary64 → Option Ordering
  | nan, _ => none
  | _, nan => none
  | infinity a, infinity b =>
    some (if a == b then .eq else if a then .lt else .gt)
  | infinity a, finite .. => some (if a then .lt else .gt)
  | finite .., infinity b => some (if b then .gt else .lt)
  | finite a m e _, finite b n f _ => some (compare (scaledValue a m e) (scaledValue b n f))

/-- Equality of numbers, under which NaN differs from itself and the zeros are equal. -/
def same (x y : Binary64) : Bool := compare? x y == some .eq

/-- Whether the first number is less than the second. -/
def lt (x y : Binary64) : Bool := compare? x y == some .lt

/-- Whether the first number is greater than the second or equal to it. -/
def ge (x y : Binary64) : Bool := (compare? x y).any Ordering.isGE

/-- The number nearest to the product of two numbers, of which both are finite. -/
def mul : Binary64 → Binary64 → Binary64
  | finite a m e _, finite b n f _ =>
    ofRatio (a != b) (scaleUp (m * n) (e + f)) (scaleUp 1 (-(e + f)))
  | _, _ => nan

/-- The number nearest to the quotient of two finite numbers, the second not zero. -/
def div : Binary64 → Binary64 → Binary64
  | finite a m e _, finite b n f _ =>
    if n = 0 then nan else ofRatio (a != b) (scaleUp m (e - f)) (scaleUp n (f - e))
  | _, _ => nan

end Binary64

end EntryFilter
