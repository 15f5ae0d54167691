import EntryFilter.Number.Binary64

/-! # Decimal numbers

A decimal is a whole number of units of some power of ten. It is turned into the nearest binary
number without an intermediate step, whatever its length; and a binary number is turned into the
shortest decimal that reads back as it. -/

namespace EntryFilter

/-- `digits * 10 ^ exponent`. -/
structure Decimal where
  digits : Nat
  exponent : Int
  deriving DecidableEq, Repr

namespace Decimal

/-- The number of decimal digits of `n`, where zero has one. -/
def digitCount (n : Nat) : Nat := (Nat.toDigits 10 n).length

/-- The binary number nearest to a decimal. Decimals beyond the format's range are told from their
number of digits, so that no huge power of ten is computed. -/
def toBinary64 (negative : Bool) (d : Decimal) : Binary64 :=
  if d.digits = 0 then .zero negative
  else
    let magnitude : Int := digitCount d.digits + d.exponent
    if 310 < magnitude then .infinity negative
    else if magnitude < -330 then .zero negative
    else .ofRatio negative (d.digits * Nat.pow 10 d.exponent.toNat)
      (Nat.pow 10 (-d.exponent).toNat)

/-- The same decimal without zeros at the end of its digits. -/
def trimZeros (d : Decimal) : Decimal :=
  let zeros := ((Nat.toDigits 10 d.digits).reverse.takeWhile (· = '0')).length
  if d.digits = 0 then d else ⟨d.digits / Nat.pow 10 zeros, d.exponent + zeros⟩

/-- Which neighbour is taken when two shortest decimals are equally near. -/
inductive Tie where
  | toEven
  | upward
  deriving DecidableEq

/-- A positive number as a fraction, with the fractions halfway to its neighbours. The bounds read
back as the number itself exactly when `closed` holds. -/
structure Interval where
  value : Nat
  below : Nat
  above : Nat
  unit : Nat
  closed : Bool

namespace Interval

/-- The numbers that round to `significand * 2 ^ exponent`. Quarters of the last place make all
three fractions whole; below a power of two the neighbour is only half as far. -/
def around (significand : Nat) (exponent : Int) : Interval :=
  let shrink := significand = Nat.pow 2 52 ∧ exponent ≠ -1074
  let up (n : Nat) := Binary64.scaleUp n (exponent - 2)
  { value := up (4 * significand)
    below := up (if shrink then 4 * significand - 1 else 4 * significand - 2)
    above := up (4 * significand + 2)
    unit := Binary64.scaleUp 1 (2 - exponent)
    closed := significand % 2 = 0 }

/-- Whether the decimal lies among the numbers that round to the interval's value. -/
def holds (i : Interval) (d : Decimal) : Bool :=
  let num := d.digits * Nat.pow 10 d.exponent.toNat * i.unit
  let scale := Nat.pow 10 (-d.exponent).toNat
  if i.closed then i.below * scale ≤ num && num ≤ i.above * scale
  else i.below * scale < num && num < i.above * scale

/-- The largest `k` with `10 ^ k` at most the value. -/
def floorLog10 (i : Interval) : Int :=
  if i.unit ≤ i.value then digitCount (i.value / i.unit) - 1
  else
    let length := digitCount (i.unit / i.value)
    if i.unit ≤ i.value * Nat.pow 10 (length - 1) then 1 - length else -length

/-- The multiple of `10 ^ exponent` next below the value, and whether the one above it is nearer
(`gt`), farther (`lt`) or as near (`eq`). -/
def gridBelow (i : Interval) (exponent : Int) : Nat × Ordering :=
  let num := i.value * Nat.pow 10 (-exponent).toNat
  let den := i.unit * Nat.pow 10 exponent.toNat
  (num / den, compare (2 * (num % den)) den)

/-- The nearest multiple of `10 ^ exponent` that rounds to the value, if there is one. -/
def nearest? (tie : Tie) (i : Interval) (exponent : Int) : Option Decimal :=
  let (low, side) := i.gridBelow exponent
  let lower : Decimal := ⟨low, exponent⟩
  let upper : Decimal := ⟨low + 1, exponent⟩
  let upperFirst :=
    match side, tie with
    | .gt, _ => true
    | .lt, _ => false
    | .eq, .upward => true
    | .eq, .toEven => low % 2 = 1
  let (first, second) := if upperFirst then (upper, lower) else (lower, upper)
  if i.holds first then some first else if i.holds second then some second else none

/-- The first hit on grids of ever more digits, starting with `digits` of them. -/
def shortestFrom (tie : Tie) (i : Interval) (top : Int) (digits : Nat) : Nat → Decimal
  | 0 => ⟨(i.gridBelow (top - 16)).1, top - 16⟩
  | fuel + 1 =>
    match i.nearest? tie (top - (digits - 1)) with
    | some d => d
    | none => shortestFrom tie i top (digits + 1) fuel

end Interval

/-- The shortest decimal that rounds to `significand * 2 ^ exponent`, and of those the nearest. -/
def shortest (tie : Tie) (significand : Nat) (exponent : Int) : Decimal :=
  if significand = 0 then ⟨0, 0⟩
  else
    let i := Interval.around significand exponent
    (i.shortestFrom tie i.floorLog10 1 17).trimZeros

end Decimal

end EntryFilter
