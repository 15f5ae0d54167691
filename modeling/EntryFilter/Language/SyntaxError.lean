import EntryFilter.Language.Token

/-! # Errors of syntax

Reading a filter stops at the first thing that is wrong with it. The error tells what it is and
where, and often how it may be mended. -/

namespace EntryFilter

/-- What may be wrong with a filter. -/
inductive SyntaxFault where
  /-- A sign that looks like an operator but is none. -/
  | unknownOperator (sign : String)
  | unterminatedText (quote : Char)
  | invalidNumber (numeral : String)
  | unexpectedCharacter (c : Char)
  /-- More groups are open inside each other than the limit allows. -/
  | tooDeep (limit : Nat)
  | tooManyConditions (limit : Nat)
  /-- A token that stands where a condition has to begin. -/
  | noCondition (found : Token)
  /-- A token behind a finished filter. -/
  | unexpectedToken (found : Token)
  | noOperator (field : String)
  | noValue (found : Token)
  | incompleteCheck
  | incompleteNegatedCheck
  /-- The group opened at the offset is not closed where it has to be. -/
  | unclosedGroup (offset : Nat)
  deriving DecidableEq

namespace SyntaxFault

def message : SyntaxFault → String
  | unknownOperator sign => "unknown operator: " ++ sign
  | unterminatedText _ => "unterminated string"
  | invalidNumber numeral => "invalid number: " ++ numeral
  | unexpectedCharacter c => "unexpected character: " ++ c.toString
  | tooDeep limit => "expression nests deeper than " ++ toString limit ++ " levels"
  | tooManyConditions limit => "expression has more than " ++ toString limit ++ " conditions"
  | noCondition found => "unexpected token " ++ found.display
  | unexpectedToken found => "unexpected token " ++ found.display
  | noOperator field => "expected operator after field '" ++ field ++ "'"
  | noValue found => "expected value, found " ++ found.display
  | incompleteCheck => "expected 'null', 'not', or 'empty' after 'is'"
  | incompleteNegatedCheck => "expected 'null' or 'empty' after 'is not'"
  | unclosedGroup _ => "expected ')'"

/-- Advice on how to mend the filter. -/
def hint? : SyntaxFault → Option String
  | unknownOperator _ => some "use one of = != > < >= <="
  | unterminatedText quote => some ("add a closing " ++ quote.toString)
  | noCondition _ => some "a condition starts with a field name or '('"
  | unexpectedToken _ => some "join conditions with AND or OR"
  | noOperator _ => some "use =, !=, >, <, >=, <=, contains, startswith, endswith or is"
  | noValue (.field _) => some "quote text values, e.g. \"active\""
  | noValue (.keyword .null) => some "use 'is null' to match nulls"
  | unclosedGroup offset => some ("the '(' at offset " ++ toString offset ++ " is never closed")
  | _ => none

end SyntaxFault

/-- What is wrong with a filter, and where. -/
structure SyntaxError where
  fault : SyntaxFault
  span : Span
  deriving DecidableEq

namespace SyntaxError

def message (e : SyntaxError) : String := e.fault.message

def hint? (e : SyntaxError) : Option String := e.fault.hint?

end SyntaxError

end EntryFilter
