import EntryFilter.Operator
import EntryFilter.Text.CaseMap
import EntryFilter.Value.Text

/-! # Tokens

The words and signs of which a filter is made. Eleven words are reserved in any letter case; every
other word names a field. -/

namespace EntryFilter

/-! ## Spans -/

/-- A range of byte offsets in the text of a filter, without its end. -/
structure Span where
  start : Nat
  stop : Nat
  deriving DecidableEq

namespace Span

/-- The empty span at an offset. -/
def point (offset : Nat) : Span := ⟨offset, offset⟩

/-- The least span that covers two spans. -/
def merge (a b : Span) : Span := ⟨min a.start b.start, max a.stop b.stop⟩

/-- Length in bytes; none if the end lies before the start. -/
def length (s : Span) : Nat := s.stop - s.start

def isEmpty (s : Span) : Bool := s.length == 0

end Span

/-! ## Words and signs -/

/-- The reserved words around an operator. -/
inductive Keyword where
  | contains
  | startsWith
  | endsWith
  | is
  | not
  | empty
  | null
  deriving DecidableEq

namespace Keyword

def all : List Keyword := [contains, startsWith, endsWith, is, not, empty, null]

/-- The spelling in small letters. -/
def word : Keyword → String
  | contains => "contains"
  | startsWith => "startswith"
  | endsWith => "endswith"
  | is => "is"
  | not => "not"
  | empty => "empty"
  | null => "null"

/-- The keyword with the given spelling. -/
def ofWord? (word : String) : Option Keyword := all.find? fun k => k.word == word

end Keyword

inductive Token where
  | field (name : String)
  | text (value : String)
  | number (value : Binary64)
  | bool (value : Bool)
  /-- A comparison sign. -/
  | compare (operator : Operator)
  | and
  | or
  | opening
  | closing
  | keyword (word : Keyword)
  /-- The end of the filter. -/
  | done
  deriving DecidableEq

namespace Token

/-- The token as messages name it. -/
def display : Token → String
  | field name => "field '" ++ name ++ "'"
  | text s => "string " ++ Value.display (.text s)
  | number x => "number " ++ Value.display (.float x)
  | bool b => "boolean " ++ Value.display (.bool b)
  | compare o => "operator '" ++ o.symbol ++ "'"
  | and => "'and'"
  | or => "'or'"
  | opening => "'('"
  | closing => "')'"
  | keyword k => "keyword '" ++ k.word ++ "'"
  | done => "end of input"

/-- The token of a word. Letter case counts only in the names of fields. -/
def ofWord (word : List Char) : Token :=
  match String.ofList (Text.lower word) with
  | "and" => and
  | "or" => or
  | "true" => bool true
  | "false" => bool false
  | lower =>
    match Keyword.ofWord? lower with
    | some k => keyword k
    | none => field (String.ofList word)

end Token

/-- A token with its place in the source. -/
structure PlacedToken where
  token : Token
  span : Span
  deriving DecidableEq

end EntryFilter
