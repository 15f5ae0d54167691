import EntryFilter.Language.SyntaxError
import EntryFilter.Text.Cut
import EntryFilter.Text.Offset

/-! # Diagnostics

A diagnostic shows a message together with the line of the source that it is about. A caret stands
below the start of the span, and tildes below the rest of the span on that line. -/

namespace EntryFilter

open EntryFilter.Text

/-- A message about a span of a source, perhaps with advice. -/
structure Diagnostic where
  message : String
  span : Span
  hint : Option String

/-- The diagnostic of an error of syntax. -/
def SyntaxError.diagnostic (e : SyntaxError) : Diagnostic := ⟨e.message, e.span, e.hint?⟩

namespace Diagnostic

/-- A line of the source, counted from one. The place behind a final line end is on an empty
line. -/
def sourceLine? (source : List Char) (line : Nat) : Option (List Char) :=
  match (lines source)[line - 1]? with
  | some text => some text
  | none => if source.isEmpty || source.getLast? == some '\n' then some [] else none

/-- The number of characters of a span that lie in the source. -/
def spanWidth (source : List Char) (span : Span) : Nat :=
  let stop := max (min span.stop (byteLength source)) span.start
  ((slice? source span.start stop).map List.length).getD 0

/-- The number of tildes that follow the caret: none for a span of one character, and never more
than the line has characters left. -/
def underline (lineLength column width : Nat) : Nat := min width (lineLength - (column - 1)) - 1

/-- A number in three places at least. -/
def lineNumber (n : Nat) : List Char :=
  let digits := Decimal.natText n
  List.replicate (3 - digits.length) ' ' ++ digits

/-- The line that shows the source. -/
def sourceRow (line : Nat) (text : List Char) : List Char := lineNumber line ++ "| ".toList ++ text

/-- The line with the caret. -/
def caretRow (column tildes : Nat) : List Char :=
  "   |".toList ++ List.replicate column ' ' ++ '^' :: List.replicate tildes '~'

/-- The place of a span, and the line there with the span marked. -/
def location (source : List Char) (span : Span) : List Char :=
  let (line, column) := position source span.start
  let header := "  --> line ".toList ++ Decimal.natText line ++ ':' :: Decimal.natText column ++ ['\n']
  match sourceLine? source line with
  | none => header
  | some text =>
    let tildes := underline text.length column (spanWidth source span)
    header ++ "   |\n".toList ++ sourceRow line text ++ '\n' :: caretRow column tildes ++ ['\n']

/-- The advice on a line of its own. -/
def advice : Option String → List Char
  | none => []
  | some hint => "   = hint: ".toList ++ hint.toList ++ ['\n']

/-- The diagnostic for a source. -/
def render (d : Diagnostic) (source : String) : String :=
  String.ofList ("error: ".toList ++ d.message.toList ++ '\n' ::
    (location source.toList d.span ++ advice d.hint))

end Diagnostic

end EntryFilter
