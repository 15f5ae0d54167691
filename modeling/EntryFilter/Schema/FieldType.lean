import EntryFilter.Text.CaseMap
import EntryFilter.Text.Cut

/-! # Field types

The types that a field may be declared to have, each with its code in capital letters. Codes are
read in any letter case and with blanks around them. -/

namespace EntryFilter

inductive FieldType where
  | bool
  | int
  | dec
  | str
  | date
  | email
  | url
  | dict
  | list
  deriving DecidableEq

namespace FieldType

/-- All types in the order in which they are listed to the user. -/
def all : List FieldType := [bool, int, dec, str, date, email, url, dict, list]

/-- The code of a type. -/
def code : FieldType → String
  | bool => "BOOL"
  | int => "INT"
  | dec => "DEC"
  | str => "STR"
  | date => "DATE"
  | email => "EMAIL"
  | url => "URL"
  | dict => "DICT"
  | list => "LIST"

def isNumeric : FieldType → Bool
  | int => true
  | dec => true
  | _ => false

def isContainer : FieldType → Bool
  | dict => true
  | list => true
  | _ => false

/-- The type with exactly the given code. -/
def ofCode? (code : String) : Option FieldType := all.find? fun t => t.code == code

/-- The type that a text names. -/
def read? (text : List Char) : Option FieldType :=
  ofCode? (String.ofList (Text.upperAscii (Text.trim text)))

end FieldType

end EntryFilter
