/-! # Tables of code points

Properties of characters are kept as ranges of code points, ends included; case mappings as runs
of evenly spaced code points that all move by the same distance. -/

namespace EntryFilter.Text

/-- Whether some range of the table holds `c`. -/
def inRanges (table : List (Nat × Nat)) (c : Char) : Bool :=
  table.any fun range => range.1 ≤ c.toNat && c.toNat ≤ range.2

/-- Code points `first, first + step, …, last`, each of them mapped to itself plus `shift`. -/
structure CaseRun where
  first : Nat
  last : Nat
  step : Nat
  shift : Int

namespace CaseRun

/-- Whether the run maps the code point. -/
def covers (run : CaseRun) (code : Nat) : Bool :=
  run.first ≤ code && code ≤ run.last && (code - run.first) % run.step == 0

/-- The character that the run maps to `c`, if there is one. -/
def source? (run : CaseRun) (c : Char) : Option Char :=
  let code := (c.toNat - run.shift).toNat
  if run.covers code then some (Char.ofNat code) else none

end CaseRun

/-- The image of `c` under the first run that covers it; `c` itself when none does. -/
def shiftBy (runs : List CaseRun) (c : Char) : Char :=
  match runs.find? (·.covers c.toNat) with
  | some run => Char.ofNat (c.toNat + run.shift).toNat
  | none => c

end EntryFilter.Text
