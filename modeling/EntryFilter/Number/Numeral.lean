import EntryFilter.Number.Decimal
import EntryFilter.Text.Letter

/-! # Reading numbers

A numeral has an optional sign, digits with an optional point among or around them, and an
optional power of ten; the words `inf`, `infinity` and `nan` in any letter case are read too.
The result is the number nearest to what is written. -/

namespace EntryFilter

open EntryFilter.Text

namespace Decimal

/-- The number written by a row of digits. -/
def ofDigits (digits : List Char) : Nat :=
  digits.foldl (fun n c => n * 10 + (c.toNat - '0'.toNat)) 0

/-- The decimal with the given digits before and after the point, times a power of ten. -/
def ofParts (whole fraction : List Char) (power : Int) : Decimal :=
  ⟨ofDigits (whole ++ fraction), power - fraction.length⟩

/-- A sign and the text after it; without a sign the number is positive. -/
def takeSign : List Char → Bool × List Char
  | '-' :: rest => (true, rest)
  | '+' :: rest => (false, rest)
  | cs => (false, cs)

theorem takeSign_length (cs : List Char) : (takeSign cs).2.length ≤ cs.length := by
  unfold takeSign
  split <;> simp

/-- A power of ten such as `e-3`, which may be missing; nothing may follow it. -/
def readPower? : List Char → Option Int
  | [] => some 0
  | mark :: rest =>
    if mark = 'e' ∨ mark = 'E' then
      let (negative, digits) := takeSign rest
      if digits.isEmpty || !digits.all isAsciiDigit then none
      else if negative then some (-(ofDigits digits : Int)) else some (ofDigits digits)
    else none

/-- A numeral without a sign. At least one digit stands before or after the point. -/
def readUnsigned? (cs : List Char) : Option Decimal :=
  let whole := cs.takeWhile isAsciiDigit
  match cs.dropWhile isAsciiDigit with
  | '.' :: rest =>
    let fraction := rest.takeWhile isAsciiDigit
    if whole.isEmpty && fraction.isEmpty then none
    else (readPower? (rest.dropWhile isAsciiDigit)).map (ofParts whole fraction)
  | rest => if whole.isEmpty then none else (readPower? rest).map (ofParts whole [])

end Decimal

namespace Binary64

/-- The numbers that are written as words. -/
def readWord? (negative : Bool) (cs : List Char) : Option Binary64 :=
  match String.ofList (cs.map Char.toLower) with
  | "inf" => some (infinity negative)
  | "infinity" => some (infinity negative)
  | "nan" => some nan
  | _ => none

/-- The number that a whole text writes. -/
def read? (cs : List Char) : Option Binary64 :=
  let (negative, rest) := Decimal.takeSign cs
  match Decimal.readUnsigned? rest with
  | some d => some (d.toBinary64 negative)
  | none => readWord? negative rest

end Binary64

end EntryFilter
