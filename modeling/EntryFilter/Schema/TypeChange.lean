import EntryFilter.Entry.Basic
import EntryFilter.Schema.Coercion

/-! # Changing the type of a field

Before a field gets another type, a report tells how many entries have a value in it and how many
of these values would be lost, and lists the first of them. -/

namespace EntryFilter

/-- An entry whose value would be lost, with the beginning of the value's text. -/
structure AffectedEntry where
  id : String
  preview : String

/-- What a change of type does to the values of a field. -/
structure TypeChangeReport where
  field : String
  target : FieldType
  total : Nat
  withValue : Nat
  convertible : Nat
  losing : Nat
  affected : List AffectedEntry

namespace TypeChange

/-- How many affected entries a report lists. -/
def maxAffected : Nat := 10

/-- How many characters of a value a report shows. -/
def maxPreview : Nat := 100

/-- The value of an entry's field, if it has one that is neither null nor empty text. -/
def presentValue? (field : String) (entry : Entry) : Option Value :=
  match entry.value? field with
  | some value => if value.isBlank then none else some value
  | none => none

/-- The report before the first entry. -/
def start (field : String) (target : FieldType) : TypeChangeReport :=
  { field, target, total := 0, withValue := 0, convertible := 0, losing := 0, affected := [] }

/-- Lists an entry whose value would be lost, unless the list is full. -/
def list (affected : List AffectedEntry) (entry : Entry) (value : Value) : List AffectedEntry :=
  if affected.length < maxAffected then
    affected ++ [⟨entry.id, String.ofList (value.toText.toList.take maxPreview)⟩]
  else affected

/-- Takes one more entry into a report. -/
def examine (report : TypeChangeReport) (entry : Entry) : TypeChangeReport :=
  let report := { report with total := report.total + 1 }
  match presentValue? report.field entry with
  | none => report
  | some value =>
    let report := { report with withValue := report.withValue + 1 }
    if value.canConvert report.target then
      { report with convertible := report.convertible + 1 }
    else
      { report with
        losing := report.losing + 1
        affected := list report.affected entry value }

/-- The report on a change of type, from one pass over the entries. -/
def report (entries : List Entry) (field : String) (target : FieldType) : TypeChangeReport :=
  entries.foldl examine (start field target)

end TypeChange

namespace TypeChangeReport

/-- The JSON tree of a report. -/
def toJson (r : TypeChangeReport) : Json :=
  .object [
    ("field", .string r.field),
    ("to_type", .string r.target.code),
    ("total_entries", .integer r.total),
    ("entries_with_value", .integer r.withValue),
    ("convertible", .integer r.convertible),
    ("will_lose_data", .integer r.losing),
    ("affected_entries", .array (r.affected.map fun a =>
      .object [("entry_id", .string a.id), ("current_value", .string a.preview)]))]

end TypeChangeReport

end EntryFilter
