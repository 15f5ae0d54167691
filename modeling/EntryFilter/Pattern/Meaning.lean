import EntryFilter.Pattern.Reader
import EntryFilter.Pattern.Size

/-! # From written patterns to patterns

Options are applied from left to right; a change inside a group ends with the group. With the
option `u` off, characters are bytes, and whatever could then match half a character is refused.
Reading a pattern and matching it make an engine, with which the program runs. -/

namespace EntryFilter.Pattern

open EntryFilter.Text

/-- The first 128 characters of a short class. -/
def asciiShort : ShortClass → CharSet
  | .digit => isAsciiDigit
  | .space => fun c => c = ' ' || ('\t' ≤ c && c ≤ '\r')
  | .word => isAsciiWordChar

/-- A short class over all characters. -/
def unicodeShort : ShortClass → CharSet
  | .digit => isDecimalDigit
  | .space => isBlank
  | .word => isWordChar

/-- The sets that have a name between colons, all of them among the first 128 characters. -/
def namedSet (name : List Char) : CharSet :=
  match String.ofList name with
  | "alnum" => Char.isAlphanum
  | "alpha" => Char.isAlpha
  | "ascii" => fun c => c.toNat < 0x80
  | "blank" => fun c => c = ' ' || c = '\t'
  | "cntrl" => fun c => c.toNat < 0x20 || c.toNat = 0x7F
  | "digit" => Char.isDigit
  | "graph" => CharSet.range '!' '~'
  | "lower" => CharSet.range 'a' 'z'
  | "print" => CharSet.range ' ' '~'
  | "punct" => fun c => CharSet.range '!' '~' c && !c.isAlphanum
  | "space" => asciiShort .space
  | "upper" => CharSet.range 'A' 'Z'
  | "word" => isAsciiWordChar
  | "xdigit" => fun c => c.isDigit || CharSet.range 'a' 'f' c || CharSet.range 'A' 'F' c
  | _ => CharSet.none

/-- A set or its complement. -/
def negateIf (negated : Bool) (set : CharSet) : CharSet := if negated then set.complement else set

namespace Flags

/-- The closure of a set under letter case, if letter case does not count. -/
def fold (flags : Flags) (set : CharSet) : CharSet :=
  if flags.ignoreCase then
    if flags.unicode then set.anyCase else set.anyAsciiCase
  else set

/-- Whether a set of bytes holds only such bytes as are characters by themselves. -/
def allowed (flags : Flags) (set : CharSet) : Bool :=
  flags.unicode || (List.range 128).all fun n => !set (Char.ofNat (n + 128))

/-- The set, if the options allow it. -/
def check? (flags : Flags) (set : CharSet) : Option CharSet :=
  if flags.allowed set then some set else none

/-- A short class or its complement. -/
def short? (flags : Flags) (kind : ShortClass) (negated : Bool) : Option CharSet :=
  if flags.unicode then some (negateIf negated (unicodeShort kind))
  else flags.check? (negateIf negated (asciiShort kind))

/-- A named property or its complement. -/
def property? (flags : Flags) (name : List Char) (negated : Bool) : Option CharSet :=
  if flags.unicode then
    (Pattern.property? name).map fun set => negateIf negated (flags.fold set)
  else none

/-- A range of characters; with the option `u` off its ends are among the first 128 characters or
are bytes. -/
def range? (flags : Flags) (first last : WrittenChar) : Option CharSet :=
  let fits (c : WrittenChar) := flags.unicode || c.byte || c.char.toNat < 0x80
  if fits first && fits last then some (CharSet.range first.char last.char) else none

mutual

/-- The characters that a written set holds. -/
def set? (flags : Flags) : SetSyntax → Option CharSet
  | .range first last => flags.range? first last
  | .named name negated => some (negateIf negated (namedSet name))
  | .short kind negated => flags.short? kind negated
  | .property name negated => flags.property? name negated
  | .bracket inner negated => do
    let set ← set? flags inner
    flags.check? (negateIf negated (flags.fold set))
  | .union items => unionOf? flags items
  | .combine operation left right => do
    let a ← set? flags left
    let b ← set? flags right
    let a := flags.fold a
    let b := flags.fold b
    return match operation with
      | .intersection => a.inter b
      | .difference => a.diff b
      | .symmetricDifference => a.oneOf b

def unionOf? (flags : Flags) : List SetSyntax → Option CharSet
  | [] => some CharSet.none
  | item :: rest => do
    let a ← set? flags item
    let b ← unionOf? flags rest
    return a.union b

end

/-- The pattern of a single character. A byte that is no character by itself is refused. -/
def literal? (flags : Flags) (c : WrittenChar) : Option CharSet :=
  if !flags.unicode && c.byte && 0x80 ≤ c.char.toNat then none
  else if !flags.unicode && 0x80 ≤ c.char.toNat then some (CharSet.single c.char)
  else some (flags.fold (CharSet.single c.char))

/-- Any character, but for line ends unless the options say otherwise. -/
def dot? (flags : Flags) : Option CharSet :=
  if !flags.unicode then none
  else if flags.dotMatchesNewline then some fun _ => true
  else if flags.crlf then some fun c => c != '\n' && c != '\r'
  else some fun c => c != '\n'

/-- The anchor that is meant. -/
def anchor (flags : Flags) : AnchorSyntax → Anchor
  | .caret => if flags.multiLine then .lineStart flags.crlf else .textStart
  | .dollar => if flags.multiLine then .lineEnd flags.crlf else .textEnd
  | .textStart => .textStart
  | .textEnd => .textEnd
  | .wordEdge => .wordEdge !flags.unicode
  | .noWordEdge => .noWordEdge !flags.unicode
  | .wordStart => .wordStart !flags.unicode
  | .wordEnd => .wordEnd !flags.unicode
  | .wordStartHalf => .wordStartHalf !flags.unicode
  | .wordEndHalf => .wordEndHalf !flags.unicode

end Flags

mutual

/-- The pattern that is meant under the given options, and the options that hold behind it. -/
def meaning? (flags : Flags) : PatternSyntax → Option (Pattern × Flags)
  | .empty => some (.empty, flags)
  | .flags change => some (.empty, flags.apply change)
  | .literal c => (flags.literal? c).map fun set => (.char set, flags)
  | .dot => flags.dot?.map fun set => (.char set, flags)
  | .anchor kind => some (.anchor (flags.anchor kind), flags)
  | .short kind negated => (flags.short? kind negated).map fun set => (.char set, flags)
  | .property name negated => (flags.property? name negated).map fun set => (.char set, flags)
  | .bracket inner negated => do
    let set ← flags.set? inner
    let set ← flags.check? (negateIf negated (flags.fold set))
    return (.char set, flags)
  | .times body least most => do
    let (pattern, flags) ← meaning? flags body
    return (.times pattern least most, flags)
  | .group change body => do
    let (pattern, _) ← meaning? (flags.apply change) body
    return (pattern, flags)
  | .alternation branches => meaningOfBranches? flags branches
  | .concat parts => meaningOfParts? flags parts

def meaningOfParts? (flags : Flags) : List PatternSyntax → Option (Pattern × Flags)
  | [] => some (.empty, flags)
  | part :: rest => do
    let (first, flags) ← meaning? flags part
    let (second, flags) ← meaningOfParts? flags rest
    return (.seq first second, flags)

def meaningOfBranches? (flags : Flags) : List PatternSyntax → Option (Pattern × Flags)
  | [] => some (.char CharSet.none, flags)
  | branch :: rest => do
    let (left, flags) ← meaning? flags branch
    let (right, flags) ← meaningOfBranches? flags rest
    return (.alt left right, flags)

end

/-- The refusal of a text that is no pattern. The reader does not keep the place of the fault. -/
def unreadable : PatternError := .malformed "regex parse error"

/-- The pattern that a text describes, or why it is refused. -/
def read (ignoreCase : Bool) (text : List Char) : Except PatternError Pattern :=
  match readSyntax? text with
  | none => .error unreadable
  | some written =>
    match meaning? { ignoreCase := ignoreCase } written with
    | none => .error unreadable
    | some (pattern, _) =>
      if frameSize + written.machineSize ignoreCase ≤ maxMachineSize then .ok pattern
      else .error (.tooLarge maxMachineSize)

/-- The engine of the program. -/
instance engine : PatternEngine where
  compile ignoreCase pattern :=
    (read ignoreCase pattern.toList).map fun p text => p.isMatch text.toList

end EntryFilter.Pattern
