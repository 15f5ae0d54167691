import EntryFilter.Pattern.Syntax
import EntryFilter.Text.CaseFold

/-! # The size of patterns

A pattern is refused if the machine that reads it, with all repetitions written out, has too many
states. Its size is only estimated. Characters and anchors are counted state by state, but sets get
round numbers, as their sizes depend on tables of characters. Close to the limit another engine may
decide otherwise. -/

namespace EntryFilter.Pattern

/-! ## Sizes in bytes -/

def stateSize : Nat := 32

/-- The size of a range of bytes with which a state goes on. -/
def rangeSize : Nat := 8

/-- The size of a link to one of several states that come next. -/
def linkSize : Nat := 4

/-- The states that every pattern needs: a fork, a byte and a joint to pass over the text in front
of it, the marks of its start and its end, and the final state. -/
def frameSize : Nat := 6 * stateSize + rangeSize + 2 * linkSize

/-- A round number for any character. -/
def dotSize : Nat := 500

/-- Round numbers for the short classes and their complements. -/
def ShortClass.size : ShortClass → Nat
  | digit => 3500
  | space => 700
  | word => 46000

/-- A round number for named properties. -/
def propertySize : Nat := 20000

/-- A round number for sets between brackets. -/
def bracketSize : Nat := 200

/-- Limit on the size of the machine for a pattern. -/
def maxMachineSize : Nat := 10 * 1024 * 1024

namespace PatternSyntax

/-- The number of blocks of `width` codes that hold one of the codes from `least` on. -/
def blockCount (width least : Nat) (codes : List Nat) : Nat :=
  ((codes.filter (least ≤ ·)).map (· / width)).eraseDups.length

/-- The size of the machine that reads one of several characters, given by their codes. Single
bytes are ranges of one state. Otherwise a fork leads to each row of codes that differ in their last
byte alone; the bytes with which several branches begin are read together. -/
def choiceSize (codes : List Nat) : Nat :=
  if codes.all (· < 0x80) then 2 * stateSize + rangeSize * codes.length
  else
    let rows := codes.filter fun n => n % 64 = 0 || !codes.contains (n - 1)
    let blocks := blockCount 64 0x80 codes + blockCount 4096 0x800 codes +
      blockCount 262144 0x10000 codes
    2 * stateSize + (stateSize + linkSize) * rows.length + stateSize * blocks

/-- The size of the machine that reads a character or what agrees with it up to case. -/
def literalSize (ignoreCase : Bool) (c : Char) : Nat :=
  let codes := if ignoreCase then ((Text.caseVariants c).map Char.toNat).eraseDups else [c.toNat]
  if codes.length ≤ 1 then stateSize * c.utf8Size else choiceSize codes

mutual

/-- The size of the machine for a pattern, without what stands around it. -/
def machineSize (ignoreCase : Bool) : PatternSyntax → Nat
  | empty => 0
  | flags _ => 0
  | literal c => literalSize ignoreCase c.char
  | dot => dotSize
  | anchor _ => stateSize
  | short kind _ => kind.size
  | property .. => propertySize
  | bracket .. => bracketSize
  | times body least most => machineSize ignoreCase body * max 1 (most.getD (least + 1))
  | group _ body => machineSize ignoreCase body
  | alternation branches => machineSizeOfParts ignoreCase branches
  | concat parts => machineSizeOfParts ignoreCase parts

def machineSizeOfParts (ignoreCase : Bool) : List PatternSyntax → Nat
  | [] => 0
  | part :: rest => machineSize ignoreCase part + machineSizeOfParts ignoreCase rest

end

end PatternSyntax

end EntryFilter.Pattern
