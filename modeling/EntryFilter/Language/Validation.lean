import EntryFilter.Filter.Compilation
import EntryFilter.Filter.Json
import EntryFilter.Language.Diagnostic
import EntryFilter.Language.Parser

/-! # Validating and compiling a source

A source is valid if it parses; it is then compiled for a schema. Errors of both stages can be
shown as diagnostics. -/

namespace EntryFilter

/-- Whether a filter parses: the tree, or what is wrong. -/
inductive Validation where
  | valid (filter : Filter)
  | invalid (message : String)

namespace Validation

/-- The validation of a source. -/
def ofSource (limits : Limits) (source : String) : Validation :=
  match Filter.parse limits source with
  | .ok filter => valid filter
  | .error e => invalid e.message

def isValid : Validation → Bool
  | valid _ => true
  | invalid _ => false

def filter? : Validation → Option Filter
  | valid filter => some filter
  | invalid _ => none

def message? : Validation → Option String
  | valid _ => none
  | invalid message => some message

/-- The JSON tree of a validation. -/
def toJson : Validation → Json
  | valid filter => .object [("valid", .bool true), ("ast", filter.toJson)]
  | invalid message => .object [("valid", .bool false), ("error", .string message)]

end Validation

/-- Why a source does not become a predicate. -/
inductive LanguageError where
  | syntaxError (error : SyntaxError)
  | typeMismatch (error : TypeMismatch)

namespace LanguageError

/-- The message without the place. -/
def message : LanguageError → String
  | syntaxError e => e.message
  | typeMismatch e => e.message

/-- The message with the stage at which the error came up. -/
def display : LanguageError → String
  | syntaxError e => "parse error: " ++ e.message
  | typeMismatch e => "compile error: " ++ e.message

/-- The error as it is shown for a source. -/
def render (source : String) : LanguageError → String
  | syntaxError e => e.diagnostic.render source
  | typeMismatch e => "error[TypeMismatch]: " ++ e.message ++ "\n"

end LanguageError

/-- The predicate that a source stands for under a schema. -/
def compileSource (settings : Settings) (schema : Schema) (source : String) :
    Except LanguageError Predicate :=
  match Filter.parse settings.limits source with
  | .error e => .error (.syntaxError e)
  | .ok filter =>
    match filter.compile schema settings.strict with
    | .error e => .error (.typeMismatch e)
    | .ok predicate => .ok predicate

end EntryFilter
