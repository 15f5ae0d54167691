import EntryFilter.Entry.Basic
import EntryFilter.Predicate.Document
import EntryFilter.Proofs.Compilation.NonFinite
import EntryFilter.Proofs.Value.RoundTrip

/-! # Reading store documents

A document is read back as the predicate that it was made of. The names of operators begin with a
dollar sign and the keys of fields do not, so a field may have any name; and operands have no parts,
so an object behind a key is never taken for one. -/

namespace EntryFilter

/-! ## Predicates that documents express -/

/-- The operands of compiled conditions that JSON can express. -/
def Value.IsExpressible : Value → Prop
  | null => True
  | bool _ => True
  | int _ => True
  | float x => x.isFinite = true
  | text _ => True
  | _ => False

namespace Predicate

/-- All keys are those of fields, and JSON can express all operands. -/
inductive IsExpressible : Predicate → Prop where
  | all : IsExpressible .all
  | compare (c : Comparison) (field : String) {operand : Value} : operand.IsExpressible →
      IsExpressible (.compare c (fieldKey field) operand)
  | matching (field pattern : String) (ignoreCase : Bool) :
      IsExpressible (.matching (fieldKey field) pattern ignoreCase)
  | present (field : String) (expected : Bool) : IsExpressible (.present (fieldKey field) expected)
  | and {operands : List Predicate} : (∀ p ∈ operands, IsExpressible p) →
      IsExpressible (.and operands)
  | or {operands : List Predicate} : (∀ p ∈ operands, IsExpressible p) →
      IsExpressible (.or operands)

/-! ## Reading -/

/-- The predicate of a condition under a key. What is no object is an operand. -/
def ofCondition (key : String) : Json → Predicate
  | .object [("$ne", operand)] => .compare .ne key (.ofJson operand)
  | .object [("$gt", operand)] => .compare .gt key (.ofJson operand)
  | .object [("$lt", operand)] => .compare .lt key (.ofJson operand)
  | .object [("$gte", operand)] => .compare .gte key (.ofJson operand)
  | .object [("$lte", operand)] => .compare .lte key (.ofJson operand)
  | .object [("$options", _), ("$regex", .string pattern)] => .matching key pattern true
  | .object [("$regex", .string pattern)] => .matching key pattern false
  | .object [("$exists", .bool expected)] => .present key expected
  | operand => .compare .eq key (.ofJson operand)

mutual

/-- The predicate that a document says. -/
def ofDocument? : Json → Option Predicate
  | .object [] => some .all
  | .object [("$and", .array documents)] => (ofDocuments? documents).map .and
  | .object [("$or", .array documents)] => (ofDocuments? documents).map .or
  | .object [(key, condition)] => some (ofCondition key condition)
  | _ => none

def ofDocuments? : List Json → Option (List Predicate)
  | [] => some []
  | d :: rest =>
    match ofDocument? d, ofDocuments? rest with
    | some p, some operands => some (p :: operands)
    | _, _ => none

end

end Predicate

theorem fieldKey_ne {field word : String} (h : word.toList.head? ≠ some 'v') :
    fieldKey field ≠ word := by
  rintro rfl
  refine h ?_
  rw [fieldKey, String.toList_append]
  rfl

theorem Value.ofJson_toJson {v : Value} (h : v.IsExpressible) : ofJson v.toJson = v := by
  cases v with
  | list items => exact h.elim
  | dict members => exact h.elim
  | int n => exact ofJson_toJson_int n
  | float x => exact ofJson_toJson_float h
  | _ => rfl

namespace Predicate

theorem ofDocument?_condition (field : String) (condition : Json) :
    ofDocument? (conditionDocument (fieldKey field) condition) =
      some (ofCondition (fieldKey field) condition) := by
  have hand : fieldKey field ≠ "$and" := fieldKey_ne (by decide)
  have hor : fieldKey field ≠ "$or" := fieldKey_ne (by decide)
  simp [conditionDocument, ofDocument?, hand, hor]

theorem ofCondition_operand (key : String) {operand : Json}
    (h : ∀ members, operand ≠ .object members) :
    ofCondition key operand = .compare .eq key (.ofJson operand) := by
  cases operand with
  | object members => exact absurd rfl (h members)
  | _ => rfl

theorem ofCondition_document (key : String) (c : Comparison) {operand : Value}
    (h : operand.IsExpressible) :
    ofCondition key (c.document operand.toJson) = .compare c key operand := by
  have hread := Value.ofJson_toJson h
  cases c with
  | eq =>
      have hparts := Value.toJson_of_no_parts (v := operand)
        (by rintro _ rfl; exact h) (by rintro _ rfl; exact h)
      rw [Comparison.document, ofCondition_operand key hparts.2, hread]
  | _ => simp [Comparison.document, ofCondition, hread]

theorem ofDocuments?_documents {operands : List Predicate}
    (h : ∀ p ∈ operands, ofDocument? p.document = some p) :
    ofDocuments? (documents operands) = some operands := by
  induction operands with
  | nil => rfl
  | cons p operands ih =>
      have hp := h p List.mem_cons_self
      have hrest := ih fun q hq => h q (List.mem_cons_of_mem p hq)
      simp only [documents, ofDocuments?, hp, hrest]

/-- A document is read back as the predicate that it was made of. -/
theorem ofDocument?_document {p : Predicate} (h : p.IsExpressible) :
    ofDocument? p.document = some p := by
  induction h with
  | all => rfl
  | compare c field hoperand =>
      rw [document, ofDocument?_condition, ofCondition_document _ _ hoperand]
  | matching field pattern ignoreCase =>
      rw [document, ofDocument?_condition]
      cases ignoreCase <;> rfl
  | present field expected =>
      rw [document, ofDocument?_condition]
      rfl
  | and _ ih => simp [document, ofDocument?, ofDocuments?_documents ih]
  | or _ ih => simp [document, ofDocument?, ofDocuments?_documents ih]

theorem document_injective {p q : Predicate} (hp : p.IsExpressible) (hq : q.IsExpressible)
    (h : p.document = q.document) : p = q := by
  have hread := ofDocument?_document hp
  rw [h, ofDocument?_document hq] at hread
  exact (Option.some.inj hread).symm

end Predicate

end EntryFilter
