import EntryFilter.Json.Basic

/-! # Writing JSON

A tree is written either compactly, with no blanks at all, or over several lines that are indented
by two spaces per level. Numbers and strings are written in the same way in both forms. -/

namespace EntryFilter

open EntryFilter.Decimal

namespace Json

/-- The two last digits of a `\u` escape. -/
def hexPair (n : Nat) : List Char := [Nat.digitChar (n / 16), Nat.digitChar (n % 16)]

/-- A character inside a string: quotes, backslashes and controls are escaped. -/
def stringChar (c : Char) : List Char :=
  match c with
  | '"' => ['\\', '"']
  | '\\' => ['\\', '\\']
  | '\x08' => ['\\', 'b']
  | '\x0c' => ['\\', 'f']
  | '\n' => ['\\', 'n']
  | '\r' => ['\\', 'r']
  | '\t' => ['\\', 't']
  | c => if c.toNat < 0x20 then ['\\', 'u', '0', '0'] ++ hexPair c.toNat else [c]

/-- A string between quotes. -/
def stringText (text : String) : List Char := '"' :: (text.toList.flatMap stringChar ++ ['"'])

/-- The word for a truth value. -/
def boolText (value : Bool) : List Char := if value then "true".toList else "false".toList

mutual

/-- The compact text of a tree, in front of a text that follows it. -/
def compactOnto : Json → List Char → List Char
  | null, rest => "null".toList ++ rest
  | bool value, rest => boolText value ++ rest
  | integer value, rest => intText value ++ rest
  | decimal value, rest => value.jsonText ++ rest
  | string text, rest => stringText text ++ rest
  | array items, rest => '[' :: compactItems items (']' :: rest)
  | object members, rest => '{' :: compactMembers members ('}' :: rest)

def compactItems : List Json → List Char → List Char
  | [], rest => rest
  | [item], rest => compactOnto item rest
  | item :: more, rest => compactOnto item (',' :: compactItems more rest)

def compactMembers : List (String × Json) → List Char → List Char
  | [], rest => rest
  | [(name, value)], rest => stringText name ++ ':' :: compactOnto value rest
  | (name, value) :: more, rest =>
    stringText name ++ ':' :: compactOnto value (',' :: compactMembers more rest)

end

/-- The compact text of a tree. -/
def compactChars (json : Json) : List Char := json.compactOnto []

/-- The compact text of a tree, as a string. -/
def compact (json : Json) : String := String.ofList json.compactChars

/-- The start of a line at a level. -/
def newLine (level : Nat) : List Char := '\n' :: List.replicate (2 * level) ' '

mutual

/-- The indented text of a tree that stands at a level, in front of a text that follows it. Empty
arrays and objects stay closed. -/
def indentedOnto (level : Nat) : Json → List Char → List Char
  | null, rest => "null".toList ++ rest
  | bool value, rest => boolText value ++ rest
  | integer value, rest => intText value ++ rest
  | decimal value, rest => value.jsonText ++ rest
  | string text, rest => stringText text ++ rest
  | array [], rest => '[' :: ']' :: rest
  | array (item :: more), rest =>
    '[' :: indentedItems (level + 1) (item :: more) (newLine level ++ ']' :: rest)
  | object [], rest => '{' :: '}' :: rest
  | object (member :: more), rest =>
    '{' :: indentedMembers (level + 1) (member :: more) (newLine level ++ '}' :: rest)

def indentedItems (level : Nat) : List Json → List Char → List Char
  | [], rest => rest
  | [item], rest => newLine level ++ indentedOnto level item rest
  | item :: more, rest =>
    newLine level ++ indentedOnto level item (',' :: indentedItems level more rest)

def indentedMembers (level : Nat) : List (String × Json) → List Char → List Char
  | [], rest => rest
  | [(name, value)], rest =>
    newLine level ++ stringText name ++ ':' :: ' ' :: indentedOnto level value rest
  | (name, value) :: more, rest =>
    newLine level ++ stringText name ++
      ':' :: ' ' :: indentedOnto level value (',' :: indentedMembers level more rest)

end

/-- The indented text of a tree. -/
def indented (json : Json) : String := String.ofList (json.indentedOnto 0 [])

end Json

end EntryFilter
