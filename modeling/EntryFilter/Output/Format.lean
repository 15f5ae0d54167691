import EntryFilter.Entry.Json
import EntryFilter.Language.Validation
import EntryFilter.Output.Table
import EntryFilter.Predicate.Document
import EntryFilter.Schema.TypeChange

/-! # Output formats

Every result can be shown as a table for people, as JSON, or as comma-separated values: rows of
cells with commas between them, each ended by a line feed. A quote inside a quoted cell is written
twice. -/

namespace EntryFilter

namespace Csv

/-- Text between quotes. -/
def quoted (text : String) : String :=
  String.ofList ('"' :: (text.toList.flatMap fun c => if c = '"' then ['"', '"'] else [c]) ++ ['"'])

/-- A row of cells that are written already. -/
def row (cells : List String) : String := String.intercalate "," cells ++ "\n"

/-- The cell of a value. A missing value has the same empty cell as null. -/
def cell : Option Value → String
  | none => ""
  | some .null => ""
  | some (.text s) => quoted s
  | some (.list items) => quoted (Value.list items).toText
  | some (.dict members) => quoted (Value.dict members).toText
  | some value => value.toText

end Csv

inductive OutputFormat where
  | table
  | json
  | csv
  deriving DecidableEq

namespace OutputFormat

def all : List OutputFormat := [table, json, csv]

def name : OutputFormat → String
  | table => "table"
  | json => "json"
  | csv => "csv"

/-- The format with exactly the given name. -/
def ofName? (name : String) : Option OutputFormat := all.find? fun f => f.name == name

/-- The cell of a value in a table. A missing value leaves it empty, unlike null. -/
def tableCell : Option Value → String
  | none => ""
  | some .null => "NULL"
  | some value => value.toText

/-- One row per entry and one column per field of any of them. -/
def entriesTable (entries : List Entry) : Table :=
  let fields := Entry.fieldNames entries
  ⟨"id" :: fields, entries.map fun e => e.id :: fields.map fun f => tableCell (e.value? f)⟩

/-- The rows of the same kind as comma-separated values. -/
def entriesCsv (entries : List Entry) : String :=
  let fields := Entry.fieldNames entries
  let rows := entries.map fun e => Csv.quoted e.id :: fields.map fun f => Csv.cell (e.value? f)
  String.join ((("id" :: fields) :: rows).map Csv.row)

/-- The entries that a filter selects. -/
def showEntries (format : OutputFormat) (entries : List Entry) : String :=
  match format with
  | table =>
    if entries.isEmpty then "No results"
    else (entriesTable entries).render ++ "\n" ++ toString entries.length ++ " row(s)"
  | json => (Json.array (entries.map Entry.toJson)).indented
  | csv => entriesCsv entries

/-- The store document of a predicate. -/
def showPredicate (format : OutputFormat) (predicate : Predicate) : String :=
  match format with
  | table => predicate.document.indented
  | json => predicate.document.compact
  | csv => "document\n" ++ Csv.quoted predicate.document.compact

/-- Whether a filter parses, and which fields it uses or what is wrong. -/
def showValidation (format : OutputFormat) (validation : Validation) : String :=
  match format with
  | table =>
    match validation with
    | .valid filter =>
      if filter.fields.isEmpty then "valid (matches every entry)"
      else "valid (fields: " ++ String.intercalate ", " filter.fields ++ ")"
    | .invalid message => "invalid: " ++ message
  | json => validation.toJson.compact
  | csv =>
    "valid,error\n" ++ toString validation.isValid ++ "," ++
      Csv.quoted (validation.message?.getD "")

/-- The counts of a report in a table of one row. -/
def reportTable (r : TypeChangeReport) : Table :=
  ⟨["field", "to", "entries", "with value", "convertible", "failing"],
    [[r.field, r.target.code, toString r.total, toString r.withValue, toString r.convertible,
      toString r.losing]]⟩

/-- The affected entries of a report. -/
def affectedTable (r : TypeChangeReport) : Table :=
  ⟨["entry", "current value"], r.affected.map fun a => [a.id, a.preview]⟩

/-- The report on a change of type. -/
def showReport (format : OutputFormat) (r : TypeChangeReport) : String :=
  match format with
  | table =>
    if r.affected.isEmpty then (reportTable r).render
    else
      (reportTable r).render ++ "\n\n" ++ (affectedTable r).render ++ "\n" ++
        toString r.affected.length ++ " of " ++ toString r.losing ++ " failing entries shown"
  | json => r.toJson.indented
  | csv =>
    String.join ("entry,current_value\n" ::
      r.affected.map fun a => Csv.row [Csv.quoted a.id, Csv.quoted a.preview])

/-- The declared types. -/
def showSchema (format : OutputFormat) (schema : Schema) : String :=
  match format with
  | table =>
    if schema.entries.isEmpty then "No field types declared (all fields are STR)"
    else
      Table.render ⟨["field", "type"], schema.entries.map fun (name, t) => [name, t.code]⟩
  | json => (Schema.toJson schema).indented
  | csv =>
    String.join ("field,type\n" ::
      schema.entries.map fun (name, t) => Csv.row [Csv.quoted name, t.code])

end OutputFormat

end EntryFilter
