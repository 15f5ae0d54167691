import EntryFilter.Number.Numeral
import EntryFilter.Schema.FieldType
import EntryFilter.Text.Cut
import EntryFilter.Value.Text

/-! # Coercion

Coercion turns a value into the form that a declared type calls for, if that loses nothing. Null
and blank text become no value at all. Numbers are never cut short, and containers are accepted
only as they are. -/

namespace EntryFilter

open EntryFilter.Text

/-- A value that a type cannot represent. -/
structure CoercionError where
  value : Value
  target : FieldType

namespace CoercionError

/-- The rejected value as messages show it. -/
def shown (e : CoercionError) : String := e.value.display

def message (e : CoercionError) : String :=
  "cannot convert " ++ e.shown ++ " to " ++ e.target.code

end CoercionError

namespace Coercion

/-- What becomes of a value: it is refused, it counts as no value, or it takes a new form. -/
inductive Outcome where
  | refused
  | noValue
  | coerced (value : Value)

/-- The integer that a float is. The bounds are the ends of the integers of 64 bits as floats. The
upper one is rounded up to `2 ^ 63` and is out of range itself. -/
def integral? (x : Binary64) : Option Int64 :=
  if !x.isFinite || !x.fract.same (.zero false) || x.lt (.ofInt Int64.minValue.toInt) ||
      x.ge (.ofInt Int64.maxValue.toInt) then none
  else some x.toInt64

/-- Coerces text that is not blank by its trimmed form; blank text is no value. -/
def ofTrimmed (text : String) (read? : List Char → Option Value) : Outcome :=
  let trimmed := trim text.toList
  if trimmed.isEmpty then .noValue
  else
    match read? trimmed with
    | some value => .coerced value
    | none => .refused

/-- The outcome of a reader that may refuse. -/
def Outcome.ofOption : Option Value → Outcome
  | some value => .coerced value
  | none => .refused

def toInt : Value → Outcome
  | .bool b => .coerced (.int (if b then 1 else 0))
  | .int n => .coerced (.int n)
  | .float x => .ofOption ((integral? x).map .int)
  | .text s => ofTrimmed s fun cs => ((Binary64.read? cs).bind integral?).map .int
  | _ => .refused

def toDec : Value → Outcome
  | .bool b => .coerced (.float (.ofInt (if b then 1 else 0)))
  | .int n => .coerced (.float (.ofInt n.toInt))
  | .float x => .coerced (.float x)
  | .text s => ofTrimmed s fun cs => (Binary64.read? cs).map .float
  | _ => .refused

/-- The truth value that a word stands for. -/
def truthOfWord? (word : String) : Option Bool :=
  match word with
  | "true" | "1" | "yes" => some true
  | "false" | "0" | "no" | "" => some false
  | _ => none

def toBool : Value → Outcome
  | .bool b => .coerced (.bool b)
  | .int n => .coerced (.bool (n != 0))
  | .float x => .coerced (.bool !x.isZero)
  | value =>
    .ofOption ((truthOfWord? (String.ofList (lower (trim value.toText.toList)))).map .bool)

/-- Four digits, two digits and two digits with hyphens between them, in the digits of any
script, at the front of a text. -/
def startsWithDate : List Char → Bool
  | a :: b :: c :: d :: '-' :: e :: f :: '-' :: g :: h :: _ =>
    [a, b, c, d, e, f, g, h].all isDecimalDigit
  | _ => false

/-- An at sign and a point somewhere. -/
def looksLikeEmail (cs : List Char) : Bool := cs.contains '@' && cs.contains '.'

/-- The beginning of a web address. -/
def startsLikeUrl (cs : List Char) : Bool :=
  (after? "http://".toList cs).isSome || (after? "https://".toList cs).isSome

/-- The trimmed text of a value, if it passes a test. -/
def toCheckedText (test : List Char → Bool) (value : Value) : Outcome :=
  ofTrimmed value.toText fun cs => if test cs then some (.text (String.ofList cs)) else none

/-- What becomes of a value that is not blank. -/
def outcome (value : Value) : FieldType → Outcome
  | .str => .coerced (.text value.toText)
  | .int => toInt value
  | .dec => toDec value
  | .bool => toBool value
  | .date => toCheckedText startsWithDate value
  | .email => toCheckedText looksLikeEmail value
  | .url => toCheckedText startsLikeUrl value
  | .dict =>
    match value with
    | .dict _ => .coerced value
    | _ => .refused
  | .list =>
    match value with
    | .list _ => .coerced value
    | _ => .refused

end Coercion

/-- The value in the form that the type calls for; `none` if it counts as no value. -/
def Value.coerce (value : Value) (target : FieldType) : Except CoercionError (Option Value) :=
  if value.isBlank then .ok none
  else
    match Coercion.outcome value target with
    | .refused => .error ⟨value, target⟩
    | .noValue => .ok none
    | .coerced result => .ok (some result)

/-- Whether the value survives a change to the type. -/
def Value.canConvert (value : Value) (target : FieldType) : Bool :=
  match value.coerce target with
  | .ok _ => true
  | .error _ => false

end EntryFilter
