import EntryFilter.Pattern.Basic

/-! # Written patterns

The parts of a pattern as they are written, before flags are applied. -/

namespace EntryFilter.Pattern

/-- The options that letters between `(?` and `)` turn on and off. -/
structure Flags where
  ignoreCase : Bool := false
  multiLine : Bool := false
  dotMatchesNewline : Bool := false
  crlf : Bool := false
  unicode : Bool := true
  deriving DecidableEq

/-- One of the options, by its letter. -/
inductive Flag where
  | ignoreCase
  | multiLine
  | dotMatchesNewline
  | swapGreed
  | unicode
  | crlf
  | verbose
  deriving DecidableEq

/-- The options that a group turns on (`true`) and off. -/
abbrev FlagChange := List (Flag × Bool)

namespace Flags

def set (flags : Flags) : Flag × Bool → Flags
  | (.ignoreCase, on) => { flags with ignoreCase := on }
  | (.multiLine, on) => { flags with multiLine := on }
  | (.dotMatchesNewline, on) => { flags with dotMatchesNewline := on }
  | (.unicode, on) => { flags with unicode := on }
  | (.crlf, on) => { flags with crlf := on }
  | (.swapGreed, _) => flags
  | (.verbose, _) => flags

def apply (flags : Flags) (change : FlagChange) : Flags := change.foldl set flags

end Flags

/-- The classes written `\d`, `\s` and `\w`. -/
inductive ShortClass where
  | digit
  | space
  | word
  deriving DecidableEq

/-- How two sets between brackets are combined. -/
inductive SetOperation where
  | intersection
  | difference
  | symmetricDifference
  deriving DecidableEq

/-- A character in a pattern. `byte` marks a two-digit escape, which stands for a byte when the
option `u` is off. -/
structure WrittenChar where
  char : Char
  byte : Bool

/-- What stands between brackets. -/
inductive SetSyntax where
  | range (first last : WrittenChar)
  | named (name : List Char) (negated : Bool)
  | short (kind : ShortClass) (negated : Bool)
  | property (name : List Char) (negated : Bool)
  | bracket (inner : SetSyntax) (negated : Bool)
  | union (items : List SetSyntax)
  | combine (operation : SetOperation) (left right : SetSyntax)

/-- An anchor before the flags tell its variant. -/
inductive AnchorSyntax where
  | caret
  | dollar
  | textStart
  | textEnd
  | wordEdge
  | noWordEdge
  | wordStart
  | wordEnd
  | wordStartHalf
  | wordEndHalf
  deriving DecidableEq

/-- A pattern as it is written. -/
inductive PatternSyntax where
  | empty
  | flags (change : FlagChange)
  | literal (c : WrittenChar)
  | dot
  | anchor (kind : AnchorSyntax)
  | short (kind : ShortClass) (negated : Bool)
  | property (name : List Char) (negated : Bool)
  | bracket (inner : SetSyntax) (negated : Bool)
  | times (body : PatternSyntax) (least : Nat) (most : Option Nat)
  | group (change : FlagChange) (body : PatternSyntax)
  | alternation (branches : List PatternSyntax)
  | concat (parts : List PatternSyntax)

namespace SetSyntax

mutual

/-- How deeply sets are nested between brackets. -/
def depth : SetSyntax → Nat
  | range .. => 0
  | named .. => 0
  | short .. => 0
  | property .. => 0
  | bracket inner _ => depth inner + 1
  | union items => depthOfItems items + 1
  | combine _ left right => max (depth left) (depth right) + 1

def depthOfItems : List SetSyntax → Nat
  | [] => 0
  | item :: rest => max (depth item) (depthOfItems rest)

end

/-- The items between brackets as one set; a single item stands for itself. -/
def ofItems : List SetSyntax → SetSyntax
  | [item] => item
  | items => union items

end SetSyntax

namespace PatternSyntax

mutual

/-- How deeply the parts of a pattern are nested. -/
def depth : PatternSyntax → Nat
  | empty => 0
  | flags _ => 0
  | literal _ => 0
  | dot => 0
  | anchor _ => 0
  | short .. => 0
  | property .. => 0
  | bracket inner _ => inner.depth + 1
  | times body _ _ => depth body + 1
  | group _ body => depth body + 1
  | alternation branches => depthOfParts branches + 1
  | concat parts => depthOfParts parts + 1

def depthOfParts : List PatternSyntax → Nat
  | [] => 0
  | part :: rest => max (depth part) (depthOfParts rest)

end

end PatternSyntax

/-- Limit on the depth of a pattern. -/
def maxDepth : Nat := 250

end EntryFilter.Pattern
