import EntryFilter.Entry.Basic
import EntryFilter.Pattern.Engine
import EntryFilter.Predicate.Basic
import EntryFilter.Value.Order

/-! # Evaluating predicates

A predicate is evaluated from left to right and only as far as it takes to know the result. A
pattern is looked at only when there is text to match, so a bad pattern is an error only then. -/

namespace EntryFilter

/-- The one reason why evaluation fails. -/
inductive EvaluationError where
  | invalidPattern (error : PatternError)
  deriving DecidableEq

namespace Predicate

variable [PatternEngine]

/-- Whether a pattern matches somewhere in the value stored under a key. Only text is matched. -/
def matchStored (pattern : String) (ignoreCase : Bool) : Option Value → Except EvaluationError Bool
  | some (.text s) =>
    match PatternEngine.compile ignoreCase pattern with
    | .ok isMatch => .ok (isMatch s)
    | .error e => .error (.invalidPattern e)
  | _ => .ok false

mutual

/-- Whether the predicate holds for an entry. -/
def evaluate : Predicate → Entry → Except EvaluationError Bool
  | all, _ => .ok true
  | compare c key operand, entry => .ok (c.holds (entry.lookup? key) operand)
  | matching key pattern ignoreCase, entry => matchStored pattern ignoreCase (entry.lookup? key)
  | present key expected, entry => .ok ((entry.lookup? key).isSome == expected)
  | and operands, entry => evaluateAll operands entry
  | or operands, entry => evaluateAny operands entry

/-- Whether all predicates hold; those behind one that does not are left alone. -/
def evaluateAll : List Predicate → Entry → Except EvaluationError Bool
  | [], _ => .ok true
  | operand :: rest, entry =>
    match evaluate operand entry with
    | .ok true => evaluateAll rest entry
    | result => result

/-- Whether some predicate holds; those behind one that does are left alone. -/
def evaluateAny : List Predicate → Entry → Except EvaluationError Bool
  | [], _ => .ok false
  | operand :: rest, entry =>
    match evaluate operand entry with
    | .ok false => evaluateAny rest entry
    | result => result

end

/-- The entries for which the predicate holds, in order, or the first error. -/
def select (p : Predicate) : List Entry → Except EvaluationError (List Entry)
  | [] => .ok []
  | entry :: rest => do
    let holds ← p.evaluate entry
    let others ← p.select rest
    return if holds then entry :: others else others

end Predicate

end EntryFilter
