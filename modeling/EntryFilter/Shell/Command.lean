import EntryFilter.Session

/-! # Commands of the shell

A line that begins with a point is a command. The word after the point may be written in any
letter case; what follows the first blank is the argument. -/

namespace EntryFilter

open EntryFilter.Text

/-- What a command asks for. -/
inductive CommandResult where
  | exit
  | output (text : String)
  | setFormat (format : OutputFormat)
  | setStrict (strict : Bool)
  | declare (spec : FieldSpec)
  | showHistory
  | clear

namespace Command

/-- Whether a line is a command and no filter. -/
def isCommand (line : String) : Bool := (trim line.toList).head? == some '.'

/-- The command in small letters and its argument, which is never blank. -/
def split (line : String) : String × Option String :=
  let line := trim line.toList
  let (word, rest) := (cutFirst? ' ' line).getD (line, [])
  let argument := trim rest
  (String.ofList (lower word), if argument.isEmpty then none else some (String.ofList argument))

def onOff (b : Bool) : String := if b then "on" else "off"

def help : String :=
  String.intercalate "\n" [
    "REPL Commands",
    "=============",
    "",
    ".status               Show loaded entries and filter settings",
    ".types                List declared field types",
    ".type <field>:<TYPE>  Declare a field type (BOOL, INT, DEC, STR, DATE, EMAIL, URL, DICT, LIST)",
    ".strict [on|off]      Get or set strict literal coercion",
    ".validate [filter]    Check a filter's syntax; alone, toggle validate-only mode",
    ".analyze <field>:<TYPE>  Report entries that would not survive a type change",
    ".format [type]        Get or set output format (table, json, csv)",
    ".history              Show filter history",
    ".clear                Clear the screen",
    ".help                 Show this help message",
    ".exit / .quit         Exit the REPL",
    "",
    "Filter Language",
    "===============",
    "Any other line is a filter. Comparisons: = != > < >= <=",
    "Text (case-insensitive): contains, startswith, endswith",
    "Checks: is null, is not null, is empty, is not empty",
    "Combine with AND / OR and parentheses; AND binds tighter.",
    "",
    "Examples:",
    "  status = \"active\"",
    "  age > 18 AND age < 65",
    "  (status = \"active\" OR status = \"pending\") AND created_at > \"2024-01-01\"",
    "  description is not empty",
    ""]

/-- The state of a session on two lines. -/
def status (session : Session) : String :=
  let entries := match session.entries with
    | some entries => toString entries.length ++ " entries loaded"
    | none => "no entries loaded (filters print as documents)"
  entries ++ "\n" ++ toString session.schema.size ++ " field type(s), strict: " ++
    onOff session.settings.strict ++ ", max depth: " ++ toString session.settings.limits.depth ++
    ", max conditions: " ++ toString session.settings.limits.conditions

/-- Shows the output format or asks for another one. -/
def formatCommand (current : OutputFormat) : Option String → CommandResult
  | none => .output ("Current format: " ++ current.name)
  | some name =>
    match OutputFormat.ofName? (String.ofList (lower name.toList)) with
    | some format => .setFormat format
    | none => .output ("Unknown format '" ++ name ++ "'. Use: table, json, csv")

/-- Shows whether compilation is strict or asks for a change. -/
def strictCommand (current : Bool) : Option String → CommandResult
  | none => .output ("Strict mode is " ++ onOff current)
  | some setting =>
    match String.ofList (lower setting.toList) with
    | "on" => .setStrict true
    | "true" => .setStrict true
    | "off" => .setStrict false
    | "false" => .setStrict false
    | other => .output ("Unknown setting '" ++ other ++ "'. Use: on, off")

/-- Asks for the declaration of a type. -/
def typeCommand : Option String → CommandResult
  | none => .output "Usage: .type <field>:<TYPE>"
  | some spec =>
    match FieldSpec.read spec with
    | .ok spec => .declare spec
    | .error e => .output ("Error: " ++ e.message)

/-- Validates a filter. -/
def validateCommand (session : Session) (format : OutputFormat) : Option String → CommandResult
  | none => .output "Usage: .validate <filter>"
  | some source => .output (session.validate format source)

/-- Shows what a change of type would do. -/
def analyzeCommand (session : Session) (format : OutputFormat) : Option String → CommandResult
  | none => .output "Usage: .analyze <field>:<TYPE>"
  | some spec =>
    match session.analyze format spec with
    | .ok text => .output text
    | .error e => .output ("Error: " ++ e.message)

/-- What a line that is a command asks for. -/
def ofLine (session : Session) (format : OutputFormat) (line : String) : CommandResult :=
  let (word, argument) := split line
  match word with
  | ".exit" | ".quit" | ".q" => .exit
  | ".help" | ".h" | ".?" => .output help
  | ".clear" | ".cls" => .clear
  | ".history" => .showHistory
  | ".status" => .output (status session)
  | ".format" => formatCommand format argument
  | ".strict" => strictCommand session.settings.strict argument
  | ".types" => .output (format.showSchema session.schema)
  | ".type" => typeCommand argument
  | ".validate" => validateCommand session format argument
  | ".analyze" => analyzeCommand session format argument
  | _ => .output ("Unknown command: " ++ word)

end Command

end EntryFilter
