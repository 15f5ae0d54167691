import EntryFilter.Text.CaseFold
import EntryFilter.Text.Letter

/-! # Patterns

A pattern describes pieces of a text by their characters and by the places where they begin and
end. Matching keeps the set of all places that can be reached, one truth value per place, and
moves it through the pattern. No place is ever tried twice, so the work is bounded by the size of
the pattern times the length of the text. -/

namespace EntryFilter

/-- A set of characters. -/
abbrev CharSet := Char → Bool

namespace CharSet

def none : CharSet := fun _ => false

def single (c : Char) : CharSet := fun d => d == c

def range (first last : Char) : CharSet := fun d => first ≤ d && d ≤ last

def union (a b : CharSet) : CharSet := fun c => a c || b c

def inter (a b : CharSet) : CharSet := fun c => a c && b c

def diff (a b : CharSet) : CharSet := fun c => a c && !b c

/-- The characters in exactly one of two sets. -/
def oneOf (a b : CharSet) : CharSet := fun c => a c != b c

def complement (a : CharSet) : CharSet := fun c => !a c

/-- The characters that agree up to case with one in the set. -/
def anyCase (a : CharSet) : CharSet := fun c => (Text.caseVariants c).any a

/-- The same for the letters `a` to `z` alone. -/
def anyAsciiCase (a : CharSet) : CharSet := fun c => a c || a c.toLower || a c.toUpper

end CharSet

/-- A condition on the place between two characters. -/
inductive Anchor where
  | textStart
  | textEnd
  /-- Start of a line; with `crlf` a carriage return ends a line too. -/
  | lineStart (crlf : Bool)
  | lineEnd (crlf : Bool)
  | wordEdge (ascii : Bool)
  | noWordEdge (ascii : Bool)
  | wordStart (ascii : Bool)
  | wordEnd (ascii : Bool)
  /-- No word character before. -/
  | wordStartHalf (ascii : Bool)
  /-- No word character after. -/
  | wordEndHalf (ascii : Bool)
  deriving DecidableEq

namespace Anchor

/-- Whether the neighbour of a place is a word character. -/
def isWord (ascii : Bool) : Option Char → Bool
  | some c => if ascii then Text.isAsciiWordChar c else Text.isWordChar c
  | none => false

/-- Whether the condition holds between two neighbours; the ends of the text have none. -/
def holds (before after : Option Char) : Anchor → Bool
  | textStart => before.isNone
  | textEnd => after.isNone
  | lineStart false => before.isNone || before == some '\n'
  | lineStart true =>
    before.isNone || before == some '\n' || (before == some '\r' && after != some '\n')
  | lineEnd false => after.isNone || after == some '\n'
  | lineEnd true =>
    after.isNone || after == some '\r' || (after == some '\n' && before != some '\r')
  | wordEdge ascii => isWord ascii before != isWord ascii after
  | noWordEdge ascii => isWord ascii before == isWord ascii after
  | wordStart ascii => !isWord ascii before && isWord ascii after
  | wordEnd ascii => isWord ascii before && !isWord ascii after
  | wordStartHalf ascii => !isWord ascii before
  | wordEndHalf ascii => !isWord ascii after

end Anchor

inductive Pattern where
  | empty
  | char (set : CharSet)
  | anchor (condition : Anchor)
  | seq (first second : Pattern)
  | alt (left right : Pattern)
  | times (body : Pattern) (least : Nat) (most : Option Nat)

namespace Pattern

/-- A set of places in a text: one truth value for each place, from its start to its end. -/
abbrev Places := List Bool

namespace Places

/-- Places in one of two sets. -/
def union (a b : Places) : Places := List.zipWith (· || ·) a b

def isEmpty (a : Places) : Bool := a.all (!·)

end Places

/-- For each place of a text that follows `before`, whether the anchor holds there. -/
def anchorPlaces (condition : Anchor) (before : Option Char) : List Char → Places
  | [] => [condition.holds before none]
  | c :: rest => condition.holds before (some c) :: anchorPlaces condition (some c) rest

/-- Moves places forward over one character of the set. -/
def charPlaces (set : CharSet) (text : List Char) (from_ : Places) : Places :=
  false :: List.zipWith (fun here c => here && set c) from_ text

/-- Applies a step a number of times, stopping early when no place is left. -/
def iterate (step : Places → Places) : Nat → Places → Places
  | 0, places => places
  | n + 1, places => if places.isEmpty then places else iterate step n (step places)

/-- The places reached by at most `n` steps, stopping early when nothing is added. -/
def reachable (step : Places → Places) : Nat → Places → Places
  | 0, places => places
  | n + 1, places =>
    let next := places.union (step places)
    if next = places then places else reachable step n next

/-- The places where a match of the pattern may end that begins at one of the given places. -/
def advance (text : List Char) : Pattern → Places → Places
  | empty, places => places
  | char set, places => charPlaces set text places
  | anchor condition, places => List.zipWith (· && ·) places (anchorPlaces condition none text)
  | seq first second, places => advance text second (advance text first places)
  | alt left right, places => (advance text left places).union (advance text right places)
  | times body least most, places =>
    let start := iterate (advance text body) least places
    let more := match most with
      | some limit => limit - least
      | none => text.length
    reachable (advance text body) more start

/-- Whether some piece of the text is described by the pattern. -/
def isMatch (pattern : Pattern) (text : List Char) : Bool :=
  (advance text pattern (true :: text.map fun _ => true)).any id

/-- One pattern after the other. -/
def ofList : List Pattern → Pattern
  | [] => empty
  | [pattern] => pattern
  | pattern :: rest => seq pattern (ofList rest)

end Pattern

end EntryFilter
