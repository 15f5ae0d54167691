import EntryFilter.Json.Basic
import EntryFilter.Value.Basic

/-! # Decoding values

A value is decoded from a text that does not name its form. What stands in the text is kept as
content first, in which a whole number has 64 bits, without a sign unless it is negative. Then the
forms of a value are tried one after the other, and the first one that accepts the content is
taken. -/

namespace EntryFilter

/-- What a decoder keeps of a text until it knows the form that is meant. -/
inductive Content where
  | unit
  | bool (value : Bool)
  | unsigned (value : UInt64)
  | signed (value : Int64)
  | float (value : Binary64)
  | text (value : String)
  | sequence (items : List Content)
  | map (members : List (String × Content))

namespace Content

/-! ## From trees to content -/

/-- The content of a whole number. One that does not fit into 64 bits is a float. -/
def ofInt (n : Int) : Content :=
  if 0 ≤ n then
    if n < UInt64.size then unsigned (.ofNat n.toNat) else float (.ofInt n)
  else if isInt64 n then signed (.ofInt n)
  else float (.ofInt n)

mutual

/-- The content of a tree. -/
def ofJson : Json → Content
  | .null => unit
  | .bool b => bool b
  | .integer n => ofInt n
  | .decimal x => float x
  | .string s => text s
  | .array items => sequence (itemsOfJson items)
  | .object members => map (membersOfJson members)

def itemsOfJson : List Json → List Content
  | [] => []
  | item :: rest => ofJson item :: itemsOfJson rest

def membersOfJson : List (String × Json) → List (String × Content)
  | [] => []
  | (name, value) :: rest => (name, ofJson value) :: membersOfJson rest

end

/-! ## The forms of a value -/

def null? : Content → Option Value
  | unit => some .null
  | _ => none

def bool? : Content → Option Value
  | bool b => some (.bool b)
  | _ => none

/-- A whole number, if 64 bits with a sign hold it. -/
def int? : Content → Option Value
  | unsigned n => if isInt64 n.toNat then some (.int (.ofNat n.toNat)) else none
  | signed n => some (.int n)
  | _ => none

/-- A number of any kind. -/
def float? : Content → Option Value
  | unsigned n => some (.float (.ofNat n.toNat))
  | signed n => some (.float (.ofInt n.toInt))
  | float x => some (.float x)
  | _ => none

def text? : Content → Option Value
  | text s => some (.text s)
  | _ => none

mutual

/-- The value in the first form that accepts the content; of repeated names the last one counts. -/
def value? (c : Content) : Option Value :=
  c.null? <|> c.bool? <|> c.int? <|> c.float? <|> c.text? <|>
    (match c with
    | sequence items => (items? items).map .list
    | _ => none) <|>
    match c with
    | map members => (members? members).map fun members => .dict (orderPairs members)
    | _ => none

def items? : List Content → Option (List Value)
  | [] => some []
  | item :: rest => do return (← value? item) :: (← items? rest)

def members? : List (String × Content) → Option (List (String × Value))
  | [] => some []
  | (name, value) :: rest => do return (name, ← value? value) :: (← members? rest)

end

end Content

end EntryFilter
