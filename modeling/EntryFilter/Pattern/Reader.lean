import EntryFilter.Number.Numeral
import EntryFilter.Pattern.SetReader

/-! # Reading patterns

A pattern is read item by item: characters and classes, repetitions, bars and parentheses. The
reader keeps the groups that are still open; inside a group it keeps the branches that are
finished and the parts of the branch at hand. -/

namespace EntryFilter.Pattern

open EntryFilter.Text

/-- The content of a group that is still open, the latest parts first. -/
structure GroupContent where
  branches : List PatternSyntax
  parts : List PatternSyntax

namespace GroupContent

def new : GroupContent := ⟨[], []⟩

/-- The branch at hand. -/
def branch (g : GroupContent) : PatternSyntax :=
  match g.parts with
  | [] => .empty
  | [part] => part
  | parts => .concat parts.reverse

/-- The whole content. -/
def close (g : GroupContent) : PatternSyntax :=
  match g.branches with
  | [] => g.branch
  | branches => .alternation (branches.reverse ++ [g.branch])

def push (g : GroupContent) (part : PatternSyntax) : GroupContent :=
  { g with parts := part :: g.parts }

/-- Begins a new branch. -/
def bar (g : GroupContent) : GroupContent := ⟨g.branch :: g.branches, []⟩

/-- Repeats the latest part. There must be one, and it must not be a mere change of options. -/
def repeatLast? (g : GroupContent) (least : Nat) (most : Option Nat) : Option GroupContent :=
  match g.parts with
  | [] => none
  | .empty :: _ => none
  | .flags _ :: _ => none
  | part :: parts => some { g with parts := .times part least most :: parts }

end GroupContent

/-- A group that is still open: its options, and what surrounds it. -/
structure OpenGroup where
  change : FlagChange
  verboseOutside : Bool
  outside : GroupContent

/-- The state of the reader. -/
structure ReaderState where
  content : GroupContent
  groups : List OpenGroup
  verbose : Bool
  names : List (List Char)

/-- The option that a letter stands for. -/
def flagOf? : Char → Option Flag
  | 'i' => some .ignoreCase
  | 'm' => some .multiLine
  | 's' => some .dotMatchesNewline
  | 'U' => some .swapGreed
  | 'u' => some .unicode
  | 'R' => some .crlf
  | 'x' => some .verbose
  | _ => none

/-- Option letters up to a colon or closing parenthesis. Each option comes at most once, and so
does the hyphen, behind which options are turned off. -/
def flagLetters? : List Char → Option FlagChange
  | letters => go true [] letters
where
  go (on : Bool) (done : FlagChange) : List Char → Option FlagChange
    | [] => some done.reverse
    | '-' :: rest => if on ∧ !rest.isEmpty then go false done rest else none
    | c :: rest =>
      match flagOf? c with
      | some flag => if done.any (·.1 == flag) then none else go on ((flag, on) :: done) rest
      | none => none

/-- A character that the name of a group may hold. -/
def isNameChar (first : Bool) (c : Char) : Bool :=
  c = '_' || isLetter c ||
    (!first && (c = '.' || c = '[' || c = ']' || isNumber c))

/-- The name of a group, read up to the angle bracket behind it. -/
def groupName? (cs : List Char) : Option (List Char × List Char) :=
  match cutFirst? '>' cs with
  | some (c :: name, after) =>
    if isNameChar true c && name.all (isNameChar false) then some (c :: name, after) else none
  | _ => none

/-- The value of the option `x` after a change. -/
def verboseAfter (verbose : Bool) (change : FlagChange) : Bool :=
  match change.find? (·.1 == .verbose) with
  | some (_, on) => on
  | none => verbose

namespace ReaderState

def push (s : ReaderState) (part : PatternSyntax) : ReaderState :=
  { s with content := s.content.push part }

/-- Opens a group with the given options. -/
def openGroup (s : ReaderState) (change : FlagChange) : ReaderState :=
  { s with
    content := .new
    groups := ⟨change, s.verbose, s.content⟩ :: s.groups
    verbose := verboseAfter s.verbose change }

/-- Opens a group with a name that no other group has. -/
def openNamed? (s : ReaderState) (cs : List Char) : Option (ReaderState × List Char) := do
  let (name, after) ← groupName? cs
  if s.names.contains name then none
  else return ({ s.openGroup [] with names := name :: s.names }, after)

/-- The state behind an opening parenthesis. A group may be named, may only change options, or may
change them for its own content; looking around is not possible. -/
def parenthesis? (s : ReaderState) (cs : List Char) : Option (ReaderState × List Char) :=
  match skipInvisible s.verbose cs with
  | '?' :: '=' :: _ => none
  | '?' :: '!' :: _ => none
  | '?' :: '<' :: '=' :: _ => none
  | '?' :: '<' :: '!' :: _ => none
  | '?' :: 'P' :: '<' :: rest => s.openNamed? rest
  | '?' :: '<' :: rest => s.openNamed? rest
  | '?' :: rest => do
    let letters := rest.takeWhile fun c => c != ':' && c != ')'
    let change ← flagLetters? letters
    match rest.drop letters.length with
    | ':' :: after => return (s.openGroup change, after)
    | ')' :: after =>
      if change.isEmpty then none
      else return ({ s.push (.flags change) with verbose := verboseAfter s.verbose change }, after)
    | _ => none
  | rest => some (s.openGroup [], rest)

/-- The state behind a closing parenthesis. -/
def closeGroup? (s : ReaderState) : Option ReaderState :=
  match s.groups with
  | [] => none
  | g :: groups =>
    some { s with
      content := g.outside.push (.group g.change s.content.close)
      groups := groups
      verbose := g.verboseOutside }

/-- Repeats the latest part; a question mark behind a repetition changes no match. -/
def repeat? (s : ReaderState) (least : Nat) (most : Option Nat) (cs : List Char) :
    Option (ReaderState × List Char) := do
  let content ← s.content.repeatLast? least most
  let rest := match cs with
    | '?' :: after => after
    | _ => cs
  return ({ s with content := content }, rest)

end ReaderState

/-- A number of repetitions, with blanks around it. -/
def count? (verbose : Bool) (cs : List Char) : Option Nat :=
  let digits := if verbose then cs.filter (!isBlank ·) else trim cs
  if digits.isEmpty || !digits.all isAsciiDigit then none
  else
    let n := Decimal.ofDigits digits
    if n < UInt32.size then some n else none

/-- The bounds between braces: one number, a least number, or a least and a greatest one. -/
def bounds? (verbose : Bool) (cs : List Char) : Option ((Nat × Option Nat) × List Char) := do
  let (inside, after) ← cutFirst? '}' cs
  match cutFirst? ',' inside with
  | none =>
    let n ← count? verbose inside
    return ((n, some n), after)
  | some (low, high) =>
    let least ← count? verbose low
    if (skipInvisible verbose high).isEmpty then return ((least, none), after)
    else
      let most ← count? verbose high
      if least ≤ most then return ((least, some most), after) else none

/-- The part that an escape stands for. -/
def Escaped.toSyntax : Escaped → PatternSyntax
  | .literal c => .literal c
  | .anchor kind => .anchor kind
  | .short kind negated => .short kind negated
  | .property name negated => .property name negated

/-- The state after the next item of the text, which starts with the given character. -/
def ReaderState.step? (s : ReaderState) (c : Char) (rest : List Char) :
    Option (ReaderState × List Char) :=
  match c with
  | '(' => s.parenthesis? rest
  | ')' => s.closeGroup?.map fun s => (s, rest)
  | '|' => some ({ s with content := s.content.bar }, rest)
  | '[' => (readSet? s.verbose rest).map fun ((set, negated), after) =>
      (s.push (.bracket set negated), after)
  | '?' => s.repeat? 0 (some 1) rest
  | '*' => s.repeat? 0 none rest
  | '+' => s.repeat? 1 none rest
  | '{' => do
    let ((least, most), after) ← bounds? s.verbose rest
    s.repeat? least most (skipInvisible s.verbose after)
  | '\\' => (escaped? rest).map fun (e, after) => (s.push e.toSyntax, after)
  | '.' => some (s.push .dot, rest)
  | '^' => some (s.push (.anchor .caret), rest)
  | '$' => some (s.push (.anchor .dollar), rest)
  | c => some (s.push (.literal ⟨c, false⟩), rest)

/-- Reads the items of a text. Each takes at least one character, so the length of the text is
fuel enough. -/
def ReaderState.run? : Nat → ReaderState → List Char → Option ReaderState
  | 0, _, _ => none
  | fuel + 1, s, cs =>
    match skipInvisible s.verbose cs with
    | [] => some s
    | c :: rest => (s.step? c rest).bind fun (next, after) => run? fuel next after

/-- The written pattern, if the text is one. -/
def readSyntax? (cs : List Char) : Option PatternSyntax := do
  let s ← ReaderState.run? (cs.length + 1) ⟨.new, [], false, []⟩ cs
  if s.groups.isEmpty then
    let written := s.content.close
    if written.depth ≤ maxDepth then some written else none
  else none

end EntryFilter.Pattern
