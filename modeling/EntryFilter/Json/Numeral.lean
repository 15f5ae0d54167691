import EntryFilter.Json.Basic
import EntryFilter.Number.Numeral

/-! # Numbers in JSON

A whole number that 64 bits hold is an integer; any other number, and minus zero, is a decimal.
A decimal is read in two roundings: as many leading digits as fit into 64 bits are rounded to a
binary number, which is then multiplied or divided by a power of ten. -/

namespace EntryFilter

open EntryFilter.Decimal

namespace Json

/-- A number as it is written: digits before the point, digits after it, power of ten. -/
structure Numeral where
  negative : Bool
  whole : List Char
  fraction : Option (List Char)
  power : Option (Bool × List Char)

namespace Numeral

/-- Appends digits to a number as long as it stays below `2 ^ 64`; returns the digits left over. -/
def absorb (n : Nat) : List Char → Nat × List Char
  | [] => (n, [])
  | c :: rest =>
    let next := n * 10 + ofDigits [c]
    if next < UInt64.size then absorb next rest else (n, c :: rest)

/-- The binary number nearest to a power of ten. -/
def powerOfTen (k : Nat) : Binary64 := Decimal.toBinary64 false ⟨1, k⟩

/-- Division by `10 ^ k`, in steps that the format can express. -/
def shrink (x : Binary64) (k : Nat) : Binary64 :=
  if k ≤ 308 then x.div (powerOfTen k)
  else if x.isZero then x
  else shrink (x.div (powerOfTen 308)) (k - 308)
termination_by k

/-- Multiplication by `10 ^ k`; infinite when the format cannot express the result. -/
def grow (x : Binary64) (k : Nat) : Binary64 :=
  if k ≤ 308 then x.mul (powerOfTen k)
  else if x.isZero then x
  else .infinity false

/-- The number `significand * 10 ^ exponent` as it is read. -/
def scaled (significand : Nat) (exponent : Int) : Binary64 :=
  if exponent < 0 then shrink (.ofNat significand) exponent.natAbs
  else grow (.ofNat significand) exponent.toNat

/-- A number with the sign of the numeral. -/
def signed (n : Numeral) (x : Binary64) : Binary64 := if n.negative then x.neg else x

/-- The number read as a decimal. -/
def toBinary64 (n : Numeral) : Binary64 :=
  let (leading, dropped) := absorb 0 n.whole
  let fraction := n.fraction.getD []
  let (significand, ignored) := absorb leading fraction
  let places : Int := dropped.length - (fraction.length - ignored.length)
  match n.power with
  | none => n.signed (scaled significand places)
  | some (below, digits) =>
    let size : Int := ofDigits digits
    if size < 0x80000000 then
      n.signed (scaled significand (if below then places - size else places + size))
    else if significand = 0 ∨ below then .zero n.negative
    else .infinity n.negative

/-- The tree of a number. -/
def toJson (n : Numeral) : Json :=
  match n.fraction, n.power with
  | none, none =>
    let size := ofDigits n.whole
    if n.negative then
      if 0 < size ∧ isInt64 (-size) then .integer (-size) else .decimal n.toBinary64
    else if size < UInt64.size then .integer size
    else .decimal n.toBinary64
  | _, _ => .decimal n.toBinary64

end Numeral

end Json

end EntryFilter
