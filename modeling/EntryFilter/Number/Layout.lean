import EntryFilter.Number.Decimal

/-! # Written numbers

Two layouts of the shortest decimal of a number. The plain one never uses an exponent and writes
whole numbers without a point. The one of JSON always shows that the number is not an integer: by
a point, or by an exponent outside the range from `1e-5` up to `1e16`. -/

namespace EntryFilter

namespace Decimal

/-- The digits of a natural number. -/
def natText (n : Nat) : List Char := Nat.toDigits 10 n

/-- The digits of an integer, after a minus sign if it is negative. -/
def intText (n : Int) : List Char :=
  if n < 0 then '-' :: natText n.natAbs else natText n.natAbs

/-- Positional notation, with no point in a whole number. -/
def positional (d : Decimal) : List Char :=
  let digits := natText d.digits
  if 0 ≤ d.exponent then digits ++ List.replicate d.exponent.toNat '0'
  else
    let places := (-d.exponent).toNat
    let whole := digits.length - places
    if digits.length ≤ places then
      '0' :: '.' :: (List.replicate (places - digits.length) '0' ++ digits)
    else digits.take whole ++ '.' :: digits.drop whole

/-- The exponent of the leading digit. -/
def leadingExponent (d : Decimal) : Int := digitCount d.digits - 1 + d.exponent

/-- Scientific notation: one digit before the point, and a sign in the exponent. -/
def scientific (d : Decimal) : List Char :=
  let power := d.leadingExponent
  let mark := if power < 0 then ['e', '-'] else ['e', '+']
  match natText d.digits with
  | [] => []
  | [digit] => digit :: mark ++ natText power.natAbs
  | digit :: more => digit :: '.' :: more ++ mark ++ natText power.natAbs

/-- A decimal as JSON writes a number that is not an integer. -/
def fractional (d : Decimal) : List Char :=
  if -5 ≤ d.leadingExponent ∧ d.leadingExponent < 16 then
    if 0 ≤ d.exponent then positional d ++ ['.', '0'] else positional d
  else scientific d

end Decimal

namespace Binary64

/-- The minus sign of a negative number. -/
def signText (negative : Bool) : List Char := if negative then ['-'] else []

/-- The plain text of a number. -/
def plainText : Binary64 → List Char
  | nan => ['N', 'a', 'N']
  | infinity negative => signText negative ++ ['i', 'n', 'f']
  | finite negative significand exponent _ =>
    signText negative ++ (Decimal.shortest .upward significand exponent).positional

/-- The text of a finite number in JSON. -/
def jsonText : Binary64 → List Char
  | finite negative significand exponent _ =>
    signText negative ++ (Decimal.shortest .toEven significand exponent).fractional
  | _ => ['n', 'u', 'l', 'l']

end Binary64

end EntryFilter
