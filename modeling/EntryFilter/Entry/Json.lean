import EntryFilter.Entry.Basic
import EntryFilter.Json.Fields
import EntryFilter.Value.Json

/-! # Entries as JSON

An entries file is an array of entries. The identifier is required; an entry without values has
none, and one without a timestamp gets the time of loading. -/

namespace EntryFilter

namespace Entry

/-- A timestamp, or the time of loading if it is missing. -/
def timestamp? (now : Timestamp) : Option Json → Option Timestamp
  | none => some now
  | some (.string text) => Timestamp.read? text.toList
  | some _ => none

/-- The values of an entry, of which at most `room` may be nested. -/
def values? (room : Nat) : Option Json → Option (Dictionary Value)
  | none => some .empty
  | some (.object members) =>
    if 0 < room ∧ Json.membersFit (room - 1) members then
      (Value.decodeMembers? members).map .ofList
    else none
  | some _ => none

/-- The entry that a tree describes. -/
def ofJson? (now : Timestamp) (json : Json) : Option Entry := do
  match ← json.fields? ["id", "values", "created_at", "updated_at"] with
  | [id, values, created, updated] =>
    let id ← id.bind Json.text?
    let values ← values? (Json.maxNesting - 2) values
    let created ← timestamp? now created
    let updated ← timestamp? now updated
    return ⟨id, values, created, updated⟩
  | _ => none

/-- The tree of an entry. -/
def toJson (entry : Entry) : Json :=
  .object [
    ("id", .string entry.id),
    ("values", .object (Value.membersToJson entry.values.entries)),
    ("created_at", .string (String.ofList entry.created.toChars)),
    ("updated_at", .string (String.ofList entry.updated.toChars))]

/-- The entries of a file. -/
def readAll? (now : Timestamp) (source : String) : Option (List Entry) :=
  match Json.ofText? source with
  | some (.array items) => items.mapM (ofJson? now)
  | _ => none

end Entry

end EntryFilter
