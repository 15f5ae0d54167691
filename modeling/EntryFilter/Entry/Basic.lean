import EntryFilter.Dictionary
import EntryFilter.Text.Cut
import EntryFilter.Timestamp
import EntryFilter.Value.Basic

/-! # Entries

An entry of a database: an identifier, the values of its fields, and two timestamps. Filters
address the identifier by the key `id` and a field by the key `values.` followed by its name. -/

namespace EntryFilter

structure Entry where
  id : String
  values : Dictionary Value
  created : Timestamp
  updated : Timestamp

/-- The key under which a field is stored. -/
def fieldKey (field : String) : String := "values." ++ field

namespace Entry

/-- The value of a field. -/
def value? (entry : Entry) (field : String) : Option Value := entry.values.get? field

/-- The value stored under a key. Whatever follows `values.` is the name of a field, points
included. -/
def lookup? (entry : Entry) (key : String) : Option Value :=
  if key = "id" then some (.text entry.id)
  else
    match Text.after? "values.".toList key.toList with
    | some field => entry.value? (String.ofList field)
    | none => none

/-- The names of the fields of some entries, each once, in increasing order. -/
def fieldNames (entries : List Entry) : List String :=
  orderNames (entries.flatMap fun entry => entry.values.names)

end Entry

end EntryFilter
