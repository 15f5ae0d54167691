/-! # Pattern engines

Stored text is matched by an engine that is not part of the program. The program hands it a pattern
and gets a test of texts, or the reason why the pattern is refused. What it does by itself is to
escape text that is to stand for itself in a pattern. -/

namespace EntryFilter

/-- Why an engine refuses a pattern. -/
inductive PatternError where
  | malformed (description : String)
  /-- The machine for the pattern would take more than `limit` bytes. -/
  | tooLarge (limit : Nat)
  deriving DecidableEq

namespace PatternError

def message : PatternError → String
  | malformed description => description
  | tooLarge limit => "Compiled regex exceeds size limit of " ++ toString limit ++ " bytes."

end PatternError

/-- An engine compiles a pattern, with letter case or without, to a test whether a text matches
somewhere. -/
class PatternEngine where
  compile : (ignoreCase : Bool) → (pattern : String) → Except PatternError (String → Bool)

namespace Pattern

/-- A character that has a meaning in some pattern, and stands for itself behind a backslash. -/
def isMeta (c : Char) : Bool :=
  ['\\', '.', '+', '*', '?', '(', ')', '|', '[', ']', '{', '}', '^', '$', '#', '&', '-',
    '~'].contains c

/-- A pattern that describes exactly the given text. -/
def escape (cs : List Char) : List Char :=
  cs.flatMap fun c => if isMeta c then ['\\', c] else [c]

end Pattern

end EntryFilter
