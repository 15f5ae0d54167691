import EntryFilter.Text.Mark
import EntryFilter.Value.Json

/-! # The text of a value

A value is shown as JSON shows it, except that text is quoted in the manner of messages and that
whole floats have no point. Messages quote with a backslash form for every character that could not
be read off the screen. The plain text of a value is the same, but text stands for itself. -/

namespace EntryFilter

namespace Text

/-- The written form of a code point that is not shown as itself, such as `\u{7f}`. -/
def escapedCode (c : Char) : List Char :=
  ['\\', 'u', '{'] ++ Nat.toDigits 16 c.toNat ++ ['}']

/-- How a character is shown between double quotes. -/
def quotedChar (c : Char) : List Char :=
  match c with
  | '\x00' => ['\\', '0']
  | '\t' => ['\\', 't']
  | '\n' => ['\\', 'n']
  | '\r' => ['\\', 'r']
  | '"' => ['\\', '"']
  | '\\' => ['\\', '\\']
  | c => if extendsGrapheme c || isGlyphless c then escapedCode c else [c]

/-- The text between double quotes. -/
def quoted (cs : List Char) : List Char := '"' :: (cs.flatMap quotedChar ++ ['"'])

end Text

namespace Value

/-- The value as messages show it. -/
def display : Value → String
  | null => "null"
  | bool b => String.ofList (Json.boolText b)
  | int n => String.ofList (Decimal.intText n.toInt)
  | float x => String.ofList x.plainText
  | text s => String.ofList (Text.quoted s.toList)
  | list items => (toJson (list items)).compact
  | dict members => (toJson (dict members)).compact

/-- The value as plain text. -/
def toText : Value → String
  | text s => s
  | value => value.display

end Value

end EntryFilter
