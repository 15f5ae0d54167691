import EntryFilter.Json.Printer
import EntryFilter.Json.Reader
import EntryFilter.Value.Content

/-! # Values as JSON

A value is decoded from a text, or made from a JSON tree and turned back into one; infinities and
NaN become `null`. Its JSON text can also be written without building the tree. -/

namespace EntryFilter

open EntryFilter.Decimal

namespace Json

/-- The integer of 64 bits with a sign that a number of the tree is. -/
def asInt64? : Json → Option Int64
  | integer n => if isInt64 n then some (Int64.ofInt n) else none
  | _ => none

/-- The float nearest to a number of the tree. -/
def asBinary64? : Json → Option Binary64
  | integer n => some (.ofInt n)
  | decimal x => some x
  | _ => none

end Json

namespace Value

/-- The value of a number of the tree: an integer if it is one of 64 bits, and else a float. -/
def ofNumber (number : Json) : Value :=
  match number.asInt64? with
  | some n => int n
  | none => float (number.asBinary64?.getD .nan)

mutual

/-- The value that a tree describes; of repeated names the last one counts. -/
def ofJson : Json → Value
  | .null => null
  | .bool b => bool b
  | .integer n => ofNumber (.integer n)
  | .decimal x => ofNumber (.decimal x)
  | .string s => text s
  | .array items => list (itemsOfJson items)
  | .object members => dict (orderPairs (membersOfJson members))

def itemsOfJson : List Json → List Value
  | [] => []
  | item :: rest => ofJson item :: itemsOfJson rest

def membersOfJson : List (String × Json) → List (String × Value)
  | [] => []
  | (name, value) :: rest => (name, ofJson value) :: membersOfJson rest

end

/-- A number that JSON can express, or null. -/
def floatToJson (x : Binary64) : Json := if x.isFinite then .decimal x else .null

mutual

/-- The tree of a value. -/
def toJson : Value → Json
  | null => .null
  | bool b => .bool b
  | int n => .integer n.toInt
  | float x => floatToJson x
  | text s => .string s
  | list items => .array (itemsToJson items)
  | dict members => .object (membersToJson members)

def itemsToJson : List Value → List Json
  | [] => []
  | item :: rest => toJson item :: itemsToJson rest

def membersToJson : List (String × Value) → List (String × Json)
  | [] => []
  | (name, value) :: rest => (name, toJson value) :: membersToJson rest

end

mutual

/-- The compact JSON text of a value, written directly. -/
def encode : Value → List Char
  | null => "null".toList
  | bool b => Json.boolText b
  | int n => intText n.toInt
  | float x => x.jsonText
  | text s => Json.stringText s
  | list items => '[' :: encodeItems items ++ [']']
  | dict members => '{' :: encodeMembers members ++ ['}']

def encodeItems : List Value → List Char
  | [] => []
  | [item] => encode item
  | item :: rest => encode item ++ ',' :: encodeItems rest

def encodeMembers : List (String × Value) → List Char
  | [] => []
  | [(name, value)] => Json.stringText name ++ ':' :: encode value
  | (name, value) :: rest =>
    Json.stringText name ++ ':' :: encode value ++ ',' :: encodeMembers rest

end

/-- The value that is decoded from the part of a text that spells the tree. -/
def decode? (json : Json) : Option Value := (Content.ofJson json).value?

/-- The members that are decoded from the part of a text that spells those of an object. -/
def decodeMembers? (members : List (String × Json)) : Option (List (String × Value)) :=
  Content.members? (Content.membersOfJson members)

/-- The value that is decoded from a JSON text. -/
def ofJsonText? (source : String) : Option Value :=
  match Json.ofText? source with
  | some json => if json.fits Json.maxNesting then decode? json else none
  | none => none

end Value

mutual

/-- The tree with the members of every object in order of their names, each name once. -/
def Json.settle : Json → Json
  | .array items => .array (Json.settleItems items)
  | .object members => .object (orderPairs (Json.settleMembers members))
  | json => json

def Json.settleItems : List Json → List Json
  | [] => []
  | item :: rest => item.settle :: Json.settleItems rest

def Json.settleMembers : List (String × Json) → List (String × Json)
  | [] => []
  | (name, value) :: rest => (name, value.settle) :: Json.settleMembers rest

end

/-- The tree of a text for a reader that keeps each name of an object once. -/
def Json.settledOfText? (source : String) : Option Json :=
  match Json.ofText? source with
  | some json => if json.fits Json.maxNesting then some json.settle else none
  | none => none

end EntryFilter
