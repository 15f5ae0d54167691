import EntryFilter.Pattern.Engine
import EntryFilter.Pattern.Property
import EntryFilter.Pattern.Syntax
import EntryFilter.Text.Cut

/-! # Escapes in patterns

What a backslash may begin: a character that would otherwise have a meaning, a character by its
code, a class of characters, or an anchor. -/

namespace EntryFilter.Pattern

open EntryFilter.Text

/-- What a backslash and the characters behind it stand for. -/
inductive Escaped where
  | literal (c : WrittenChar)
  | anchor (kind : AnchorSyntax)
  | short (kind : ShortClass) (negated : Bool)
  | property (name : List Char) (negated : Bool)

/-- A character that may stand behind a backslash without need. -/
def isPlainEscape (c : Char) : Bool :=
  c.toNat < 0x80 && !c.isAlphanum && c != '<' && c != '>'

/-- The character with a code, if there is one. -/
def charOfCode? (code : Nat) : Option Char :=
  if h : code.isValidChar then some (Char.ofNatAux code h) else none

/-- The number written by hexadecimal digits; at least one is needed. -/
def hexCode? (digits : List Char) : Option Nat :=
  if digits.isEmpty then none
  else digits.foldlM (fun n c =>
    if '0' ≤ c ∧ c ≤ '9' then some (n * 16 + (c.toNat - '0'.toNat))
    else if 'a' ≤ c ∧ c ≤ 'f' then some (n * 16 + (c.toNat - 'a'.toNat + 10))
    else if 'A' ≤ c ∧ c ≤ 'F' then some (n * 16 + (c.toNat - 'A'.toNat + 10))
    else none) 0

/-- A character by its code: `width` digits, or any number of them between braces. -/
def codeEscape? (width : Nat) (cs : List Char) : Option (WrittenChar × List Char) :=
  match cs with
  | '{' :: rest => do
    let (digits, after) ← cutFirst? '}' rest
    let c ← (hexCode? digits).bind charOfCode?
    return (⟨c, false⟩, after)
  | _ => do
    let digits := cs.take width
    if digits.length < width then none
    else
      let c ← (hexCode? digits).bind charOfCode?
      return (⟨c, width == 2⟩, cs.drop width)

/-- A kind of property that may stand before the name of one. -/
def isPropertyKey (key : List Char) : Bool :=
  ["gc", "generalcategory", "sc", "script", "scx", "scriptextensions"].contains
    (String.ofList (looseName key))

/-- A property: one letter, or a name between braces. Before the name may stand its kind, as in
`sc=Greek`; with `!=` in place of the equals sign the property is negated. -/
def propertyEscape? (negated : Bool) (cs : List Char) : Option (Escaped × List Char) :=
  match cs with
  | [] => none
  | '{' :: rest => do
    let (name, after) ← cutFirst? '}' rest
    match (cutFirst? '=' name).or (cutFirst? ':' name) with
    | some (key, value) =>
      let differs := key.getLast? = some '!'
      if isPropertyKey (if differs then key.dropLast else key) then
        some (.property value (negated != differs), after)
      else none
    | none => some (.property name negated, after)
  | c :: rest => if c = '\\' then none else some (.property [c] negated, rest)

/-- A letter or hyphen, of which the names of word edges consist. -/
def isEdgeNameChar (c : Char) : Bool := c.isAlpha || c = '-'

/-- What follows `\b`: perhaps the name of a special word edge between braces. Braces that hold
something else are left to be read as a repetition. -/
def wordEdge? (cs : List Char) : Option (Escaped × List Char) :=
  match cs with
  | '{' :: c :: rest =>
    if isEdgeNameChar c then
      match (c :: rest).dropWhile isEdgeNameChar with
      | '}' :: after =>
        match String.ofList ((c :: rest).takeWhile isEdgeNameChar) with
        | "start" => some (.anchor .wordStart, after)
        | "end" => some (.anchor .wordEnd, after)
        | "start-half" => some (.anchor .wordStartHalf, after)
        | "end-half" => some (.anchor .wordEndHalf, after)
        | _ => none
      | _ => none
    else some (.anchor .wordEdge, cs)
  | ['{'] => none
  | _ => some (.anchor .wordEdge, cs)

/-- A character that a letter behind a backslash stands for. -/
def letterEscape? : Char → Option Char
  | 'a' => some '\x07'
  | 'f' => some '\x0c'
  | 't' => some '\t'
  | 'n' => some '\n'
  | 'r' => some '\r'
  | 'v' => some '\x0b'
  | _ => none

/-- What follows a backslash. -/
def escaped? : List Char → Option (Escaped × List Char)
  | [] => none
  | c :: rest =>
    match c with
    | 'x' => (codeEscape? 2 rest).map fun (c, after) => (.literal c, after)
    | 'u' => (codeEscape? 4 rest).map fun (c, after) => (.literal c, after)
    | 'U' => (codeEscape? 8 rest).map fun (c, after) => (.literal c, after)
    | 'p' => propertyEscape? false rest
    | 'P' => propertyEscape? true rest
    | 'd' => some (.short .digit false, rest)
    | 'D' => some (.short .digit true, rest)
    | 's' => some (.short .space false, rest)
    | 'S' => some (.short .space true, rest)
    | 'w' => some (.short .word false, rest)
    | 'W' => some (.short .word true, rest)
    | 'A' => some (.anchor .textStart, rest)
    | 'z' => some (.anchor .textEnd, rest)
    | 'b' => wordEdge? rest
    | 'B' => some (.anchor .noWordEdge, rest)
    | '<' => some (.anchor .wordStart, rest)
    | '>' => some (.anchor .wordEnd, rest)
    | _ =>
      if isMeta c || isPlainEscape c then some (.literal ⟨c, false⟩, rest)
      else (letterEscape? c).map fun d => (.literal ⟨d, false⟩, rest)

end EntryFilter.Pattern
