import EntryFilter.Pattern.Escape

/-! # Reading sets of characters

A set stands between brackets and may hold further sets and the operations `&&`, `--` and `~~`,
which apply from left to right. The reader keeps a stack of the brackets and operations that wait
for their end. Each of its steps takes at least one character, so the length of the text bounds
their number. -/

namespace EntryFilter.Pattern

open EntryFilter.Text

/-- The text behind blanks and comments, when the option `x` makes them invisible. -/
def skipInvisible (verbose : Bool) (cs : List Char) : List Char :=
  if verbose then behindBlanks false cs else cs
where
  behindBlanks : Bool → List Char → List Char
    | _, [] => []
    | true, c :: rest => behindBlanks (c != '\n') rest
    | false, c :: rest =>
      if isBlank c then behindBlanks false rest
      else if c = '#' then behindBlanks true rest
      else c :: rest

/-- What waits for the end of a set. -/
inductive SetFrame where
  /-- A bracket, with the items outside it. -/
  | bracket (outside : List SetSyntax) (negated : Bool)
  /-- An operation, with its left operand. -/
  | operation (kind : SetOperation) (left : SetSyntax)

/-- A set that is read in part: the items of the innermost operand, the latest first. -/
structure SetState where
  items : List SetSyntax
  frames : List SetFrame

namespace SetState

/-- The innermost operand, joined with the operation that waits for it. -/
def operand (s : SetState) : SetSyntax × List SetFrame :=
  let last := SetSyntax.ofItems s.items.reverse
  match s.frames with
  | .operation kind left :: outer => (.combine kind left last, outer)
  | frames => (last, frames)

def push (s : SetState) (item : SetSyntax) : SetState := { s with items := item :: s.items }

/-- The state behind an operation sign. -/
def operate (s : SetState) (kind : SetOperation) : SetState :=
  let (left, outer) := s.operand
  ⟨[], .operation kind left :: outer⟩

/-- The state behind an opening bracket. Hyphens right behind it stand for themselves, and so does
a closing bracket that would make the set empty. -/
def opened? (verbose : Bool) (outside : SetState) (cs : List Char) :
    Option (SetState × List Char) :=
  let cs := skipInvisible verbose cs
  let (negated, cs) := match cs with
    | '^' :: rest => (true, skipInvisible verbose rest)
    | _ => (false, cs)
  let hyphens := cs.takeWhile (· = '-')
  let hyphen : SetSyntax := .range ⟨'-', false⟩ ⟨'-', false⟩
  let bracket : SetSyntax := .range ⟨']', false⟩ ⟨']', false⟩
  let leading := hyphens.map fun _ => hyphen
  match cs.dropWhile (· = '-') with
  | [] => none
  | c :: rest =>
    let frames := .bracket outside.items negated :: outside.frames
    if c = ']' ∧ leading.isEmpty then some (⟨[bracket], frames⟩, rest)
    else some (⟨leading, frames⟩, c :: rest)

end SetState

/-- A named set such as `:alpha:`, read behind an inner opening bracket. -/
def namedSet? (cs : List Char) : Option (SetSyntax × List Char) := do
  match cs with
  | ':' :: rest =>
    let (negated, rest) := match rest with
      | '^' :: more => (true, more)
      | _ => (false, rest)
    let (name, after) ← cutFirst? ':' rest
    match after with
    | ']' :: after =>
      if ["alnum", "alpha", "ascii", "blank", "cntrl", "digit", "graph", "lower", "print", "punct",
          "space", "upper", "word", "xdigit"].contains (String.ofList name) then
        some (.named name negated, after)
      else none
    | _ => none
  | _ => none

/-- A character or class inside a set, before it is known whether a range begins there. -/
def setPart? : List Char → Option (Escaped × List Char)
  | [] => none
  | '\\' :: rest => escaped? rest
  | c :: rest => some (.literal ⟨c, false⟩, rest)

/-- A part that is no end of a range. -/
def Escaped.toSet? : Escaped → Option SetSyntax
  | .literal c => some (.range c c)
  | .short kind negated => some (.short kind negated)
  | .property name negated => some (.property name negated)
  | .anchor _ => none

/-- The next character or class of a set, or the next range. -/
def setItem? (verbose : Bool) (cs : List Char) : Option (SetSyntax × List Char) := do
  let (first, rest) ← setPart? cs
  let rest := skipInvisible verbose rest
  match rest with
  | [] => none
  | '-' :: more =>
    match skipInvisible verbose more with
    | [] => none
    | c :: tail =>
      if c = ']' ∨ c = '-' then
        let set ← first.toSet?
        return (set, rest)
      else
        let (last, after) ← setPart? (c :: tail)
        match first, last with
        | .literal a, .literal b => if a.char ≤ b.char then some (.range a b, after) else none
        | _, _ => none
  | _ =>
    let set ← first.toSet?
    return (set, rest)

/-- Reads on until the outermost bracket closes. -/
def readSetFrom (verbose : Bool) : Nat → SetState → List Char →
    Option ((SetSyntax × Bool) × List Char)
  | 0, _, _ => none
  | fuel + 1, state, cs =>
    match skipInvisible verbose cs with
    | [] => none
    | '[' :: rest =>
      match namedSet? rest with
      | some (set, after) => readSetFrom verbose fuel (state.push set) after
      | none => do
        let (inner, after) ← SetState.opened? verbose state rest
        readSetFrom verbose fuel inner after
    | ']' :: rest =>
      let (set, frames) := state.operand
      match frames with
      | [.bracket _ negated] => some ((set, negated), rest)
      | .bracket outside negated :: outer =>
        readSetFrom verbose fuel ⟨.bracket set negated :: outside, outer⟩ rest
      | _ => none
    | '&' :: '&' :: rest => readSetFrom verbose fuel (state.operate .intersection) rest
    | '-' :: '-' :: rest => readSetFrom verbose fuel (state.operate .difference) rest
    | '~' :: '~' :: rest => readSetFrom verbose fuel (state.operate .symmetricDifference) rest
    | c :: rest => do
      let (item, after) ← setItem? verbose (c :: rest)
      readSetFrom verbose fuel (state.push item) after

/-- A set, read behind its opening bracket, and whether it is negated. -/
def readSet? (verbose : Bool) (cs : List Char) : Option ((SetSyntax × Bool) × List Char) := do
  let (state, rest) ← SetState.opened? verbose ⟨[], []⟩ cs
  readSetFrom verbose (rest.length + 1) state rest

end EntryFilter.Pattern
