import EntryFilter.Number.Layout
import EntryFilter.Number.Numeral
import EntryFilter.Text.Cut

/-! # Timestamps

Points in time by the calendar and clock of universal time, to the nanosecond. They are written
in the form `2024-01-31T08:00:00.500Z`, with no fraction or one of three, six or nine digits. Any
time zone is read and converted, and blanks are allowed between the parts. -/

namespace EntryFilter

open EntryFilter.Text

namespace Calendar

def isLeapYear (year : Int) : Bool :=
  year % 4 == 0 && (year % 100 != 0 || year % 400 == 0)

/-- The number of days of a month; none for a month that does not exist. -/
def daysInMonth (year : Int) : Nat → Nat
  | 1 | 3 | 5 | 7 | 8 | 10 | 12 => 31
  | 4 | 6 | 9 | 11 => 30
  | 2 => if isLeapYear year then 29 else 28
  | _ => 0

/-- The years that a timestamp may have. -/
def isYear (year : Int) : Bool := -262143 ≤ year && year ≤ 262142

/-- A day that the calendar has. -/
def isDate (year : Int) (month day : Nat) : Bool :=
  isYear year && 1 ≤ day && day ≤ daysInMonth year month

/-- A time of day; a leap second has the number 60. -/
def isTime (hour minute second nanosecond : Nat) : Bool :=
  hour < 24 && minute < 60 && second ≤ 60 && nanosecond < 1000000000

/-- The day after. -/
def nextDay (year : Int) (month day : Nat) : Int × Nat × Nat :=
  if day < daysInMonth year month then (year, month, day + 1)
  else if month < 12 then (year, month + 1, 1)
  else (year + 1, 1, 1)

/-- The day before. -/
def previousDay (year : Int) (month day : Nat) : Int × Nat × Nat :=
  if 1 < day then (year, month, day - 1)
  else if 1 < month then (year, month - 1, daysInMonth year (month - 1))
  else (year - 1, 12, 31)

end Calendar

/-- A point in time, in universal time. -/
structure Timestamp where
  year : Int
  month : Nat
  day : Nat
  hour : Nat
  minute : Nat
  second : Nat
  nanosecond : Nat
  isDate : Calendar.isDate year month day
  isTime : Calendar.isTime hour minute second nanosecond
  deriving DecidableEq

namespace Timestamp

/-- The first moment of the year 1970. -/
def epoch : Timestamp := ⟨1970, 1, 1, 0, 0, 0, 0, rfl, rfl⟩

/-- The timestamp with the given parts, if the calendar and the clock have them. -/
def ofParts? (date : Int × Nat × Nat) (hour minute second nanosecond : Nat) : Option Timestamp :=
  let (year, month, day) := date
  if hd : Calendar.isDate year month day then
    if ht : Calendar.isTime hour minute second nanosecond then
      some ⟨year, month, day, hour, minute, second, nanosecond, hd, ht⟩
    else none
  else none

/-- The timestamp of a local time that is ahead of universal time by `offset` minutes, less than a
day in either direction. -/
def ofLocal? (year : Int) (month day hour minute second nanosecond : Nat) (offset : Int) :
    Option Timestamp :=
  if !(Calendar.isDate year month day && Calendar.isTime hour minute second nanosecond) then none
  else if 24 * 60 ≤ offset.natAbs then none
  else
    let clock : Int := hour * 60 + minute - offset
    let date :=
      if clock < 0 then Calendar.previousDay year month day
      else if clock < 24 * 60 then (year, month, day)
      else Calendar.nextDay year month day
    let time := (clock % (24 * 60)).toNat
    ofParts? date (time / 60) (time % 60) second nanosecond

/-! ## Writing -/

/-- A number in at least `width` digits. -/
def padded (width n : Nat) : List Char :=
  let digits := Decimal.natText n
  List.replicate (width - digits.length) '0' ++ digits

/-- A year in at least four digits, signed outside the years 0 to 9999. -/
def yearText (year : Int) : List Char :=
  if 0 ≤ year ∧ year ≤ 9999 then padded 4 year.natAbs
  else (if year < 0 then '-' else '+') :: padded 4 year.natAbs

/-- The fraction of a second, in no more groups of three digits than it needs. -/
def fractionText (nanosecond : Nat) : List Char :=
  if nanosecond = 0 then []
  else if nanosecond % 1000000 = 0 then '.' :: padded 3 (nanosecond / 1000000)
  else if nanosecond % 1000 = 0 then '.' :: padded 6 (nanosecond / 1000)
  else '.' :: padded 9 nanosecond

/-- The timestamp in the form `2024-01-31T08:00:00Z`. -/
def toChars (t : Timestamp) : List Char :=
  yearText t.year ++ '-' :: padded 2 t.month ++ '-' :: padded 2 t.day ++ 'T' :: padded 2 t.hour ++
    ':' :: padded 2 t.minute ++ ':' :: padded 2 t.second ++ fractionText t.nanosecond ++ ['Z']

/-! ## Reading -/

/-- Digits at the front of a text, at least one and at most `limit` if that is given. -/
def digits? (limit : Option Nat) (cs : List Char) : Option (List Char × List Char) :=
  let all := cs.takeWhile isAsciiDigit
  let digits := match limit with
    | some n => all.take n
    | none => all
  if digits.isEmpty then none else some (digits, cs.drop digits.length)

/-- A number of at most `limit` digits behind blanks. -/
def part? (limit : Nat) (cs : List Char) : Option (Nat × List Char) :=
  (digits? (some limit) (trimStart cs)).map fun (digits, rest) => (Decimal.ofDigits digits, rest)

/-- A year: four digits at most, or any number of them behind a sign. -/
def year? (cs : List Char) : Option (Int × List Char) :=
  match trimStart cs with
  | '-' :: rest =>
    (digits? none rest).map fun (digits, after) => (-(Decimal.ofDigits digits : Int), after)
  | '+' :: rest =>
    (digits? none rest).map fun (digits, after) => ((Decimal.ofDigits digits : Int), after)
  | rest =>
    (digits? (some 4) rest).map fun (digits, after) => ((Decimal.ofDigits digits : Int), after)

/-- The mark between two parts, behind blanks. -/
def mark? (mark : Char) (cs : List Char) : Option (List Char) :=
  match trimStart cs with
  | c :: rest => if c = mark then some rest else none
  | [] => none

/-- The sign between date and time. -/
def separator? : List Char → Option (List Char)
  | c :: rest => if c = 'T' ∨ c = 't' ∨ c = ' ' then some rest else none
  | [] => none

/-- The fraction of a second in nanoseconds; digits after the ninth are passed over. -/
def fraction? : List Char → Option (Nat × List Char)
  | '.' :: rest =>
    (digits? none rest).map fun (digits, after) =>
      (Decimal.ofDigits (digits.take 9) * Nat.pow 10 (9 - digits.length), after)
  | cs => some (0, cs)

/-- The sign of a time zone. -/
def zoneSign? : List Char → Option (Bool × List Char)
  | '+' :: rest => some (false, rest)
  | '-' :: rest => some (true, rest)
  | '−' :: rest => some (true, rest)
  | _ => none

/-- Minutes by which a time zone such as `+05:30` is ahead of universal time. -/
def zoneOffset? (cs : List Char) : Option (Int × List Char) := do
  let (behind, cs) ← zoneSign? cs
  match cs with
  | a :: b :: rest =>
    if !(isAsciiDigit a && isAsciiDigit b) then none
    else
      match rest.dropWhile fun c => c = ':' || isBlank c with
      | c :: d :: after =>
        if isAsciiDigit c && c < '6' && isAsciiDigit d then
          let minutes : Int := Decimal.ofDigits [a, b] * 60 + Decimal.ofDigits [c, d]
          some (if behind then -minutes else minutes, after)
        else none
      | _ => none
  | _ => none

/-- A time zone: the word `UTC` in any letter case, the letter `Z`, or an offset. -/
def zone? (cs : List Char) : Option (Int × List Char) :=
  match trimStart cs with
  | 'Z' :: rest => some (0, rest)
  | 'z' :: rest => some (0, rest)
  | a :: b :: c :: rest =>
    if [a, b, c].map Char.toUpper = ['U', 'T', 'C'] then some (0, rest)
    else zoneOffset? (a :: b :: c :: rest)
  | _ => none

/-- The timestamp that a whole text describes. -/
def read? (cs : List Char) : Option Timestamp := do
  let (year, cs) ← year? cs
  let cs ← mark? '-' cs
  let (month, cs) ← part? 2 cs
  let cs ← mark? '-' cs
  let (day, cs) ← part? 2 cs
  let cs ← separator? cs
  let (hour, cs) ← part? 2 cs
  let cs ← mark? ':' cs
  let (minute, cs) ← part? 2 cs
  let cs ← mark? ':' cs
  let (second, cs) ← part? 2 cs
  let (nanosecond, cs) ← fraction? cs
  let (offset, cs) ← zone? cs
  if (trimStart cs).isEmpty then
    ofLocal? year month day hour minute second nanosecond offset
  else none

end Timestamp

end EntryFilter
