import EntryFilter.Pattern.Engine
import EntryFilter.Text.CaseFold
import Mathlib.Data.List.Infix

/-! # Looking for pieces of text

The text operators look for a piece of the stored text that agrees with their operand up to case.
They leave this to a pattern engine, to which they hand the escaped operand with a sign for the
start or the end of the text. What they rely on is said here about any engine. -/

namespace EntryFilter

namespace Pattern

open EntryFilter.Text

/-- Two texts agree character by character up to case. -/
def SameUpToCase (xs ys : List Char) : Prop := xs.map foldCase = ys.map foldCase

/-- A piece of a text, which may have to lie at its start or at its end. -/
def IsPiece (atStart atEnd : Bool) (piece text : List Char) : Prop :=
  ∃ before after, text = before ++ (piece ++ after) ∧ (atStart = true → before = []) ∧
    (atEnd = true → after = [])

theorem isPiece_anywhere {piece text : List Char} :
    IsPiece false false piece text ↔ piece <:+: text := by
  simp [IsPiece, List.IsInfix, eq_comm]

theorem isPiece_start {piece text : List Char} :
    IsPiece true false piece text ↔ piece <+: text := by
  simp [IsPiece, List.IsPrefix, eq_comm]

theorem isPiece_end {piece text : List Char} :
    IsPiece false true piece text ↔ piece <:+ text := by
  simp [IsPiece, List.IsSuffix, eq_comm]

/-- The pattern of a text that is looked for anywhere, or only at the start or the end. -/
def piecePattern (atStart atEnd : Bool) (cs : List Char) : List Char :=
  (if atStart then ['^'] else []) ++ (escape cs ++ if atEnd then ['$'] else [])

end Pattern

open EntryFilter.Pattern

/-- What the text operators rely on, as engines document it. In the pattern of an escaped text every
character stands for itself, and without regard to case for all that fold to the same character;
`^` in front ties the pattern to the start of the text, and `$` behind to its end. Such a pattern is
well formed, so it can only be too large. -/
structure PatternEngine.FindsPieces (engine : PatternEngine) : Prop where
  finds {atStart atEnd cs isMatch} :
    engine.compile true (String.ofList (piecePattern atStart atEnd cs)) = .ok isMatch →
    ∀ text, isMatch text = true ↔
      ∃ piece, IsPiece atStart atEnd piece text.toList ∧ SameUpToCase piece cs
  refuses {atStart atEnd cs e} :
    engine.compile true (String.ofList (piecePattern atStart atEnd cs)) = .error e →
    ∃ limit, e = .tooLarge limit

end EntryFilter
