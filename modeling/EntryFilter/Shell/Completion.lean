import EntryFilter.Text.CaseMap
import EntryFilter.Text.Cut
import EntryFilter.Text.Offset

/-! # Completion

Completion looks at the line up to the cursor. A command at the start of the line is completed to
the commands that begin with it; otherwise the last word is completed to fields and keywords, in
any letter case. -/

namespace EntryFilter

open EntryFilter.Text

/-- The byte offset of the text that is replaced, and what may replace it. -/
structure Completion where
  start : Nat
  candidates : List String

namespace Completion

/-- The commands that are offered, in their order. -/
def commands : List String :=
  [".status", ".types", ".type", ".strict", ".validate", ".analyze", ".format", ".history",
    ".clear", ".help", ".exit", ".quit"]

/-- The keywords that are offered, in their order. -/
def keywords : List String :=
  ["and", "or", "contains", "startswith", "endswith", "is", "not", "null", "empty", "true", "false"]

/-- Whether a name begins with the given text. -/
def beginsWith (beginning : List Char) (name : List Char) : Bool := (after? beginning name).isSome

/-- Whether the line is the beginning of a command. -/
def isCommandStart (line : List Char) : Bool :=
  (trimStart line).head? == some '.' && !(trim line).contains ' '

/-- A blank or a parenthesis, behind which a word begins. -/
def isSeparator (c : Char) : Bool := isBlank c || c = '('

/-- The byte offset of the last separator in a text that starts at the given offset. -/
def lastSeparator? (offset : Nat) : List Char → Option Nat
  | [] => none
  | c :: rest =>
    match lastSeparator? (offset + c.utf8Size) rest with
    | some found => some found
    | none => if isSeparator c then some offset else none

/-- The offset one byte behind the last separator. -/
def wordStart (line : List Char) : Nat :=
  match lastSeparator? 0 line with
  | some offset => offset + 1
  | none => 0

/-- The commands that may complete the line. -/
def ofCommand (line : List Char) : Completion :=
  let typed := trim line
  ⟨byteLength line - byteLength typed, commands.filter fun c => beginsWith typed c.toList⟩

/-- The fields and keywords that may complete a word. -/
def ofWord (fields : List String) (start : Nat) (word : List Char) : Completion :=
  let word := lower word
  if word.isEmpty then ⟨start, []⟩
  else
    ⟨start, fields.filter (fun f => beginsWith word (lower f.toList)) ++
      keywords.filter fun k => beginsWith word k.toList⟩

/-- The completions of a line up to the cursor. There are none if the last separator takes several
bytes, because the offset behind its first byte does not fall between two characters. -/
def ofLine? (fields : List String) (line : List Char) : Option Completion :=
  if isCommandStart line then some (ofCommand line)
  else
    let start := wordStart line
    (cutAt? line start).map fun (_, word) => ofWord fields start word

/-- The completions at a byte offset of a line. -/
def at? (fields : List String) (line : String) (cursor : Nat) : Option Completion :=
  match cutAt? line.toList cursor with
  | some (before, _) => ofLine? fields before
  | none => none

end Completion

end EntryFilter
