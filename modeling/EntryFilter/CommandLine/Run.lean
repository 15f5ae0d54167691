import EntryFilter.CommandLine.Arguments
import EntryFilter.Pattern.Meaning
import EntryFilter.Shell.Loop

/-! # Running the program

A run loads a session and then reports on a change of type, runs a single filter, runs a script,
or starts the shell, whichever of these comes first among the options. Only here a pattern engine
is chosen. -/

namespace EntryFilter

/-- What a run leaves behind. -/
structure Outcome where
  code : Nat
  output : String
  errors : String
  deriving DecidableEq

/-- The content of a file, or the reason why it cannot be read. -/
abbrev FileReader := String → Except String String

/-- What the program does after it has loaded everything. -/
inductive Launch where
  | finished (outcome : Outcome)
  | shell (start : Shell)

namespace Outcome

def success (output : String) : Outcome := ⟨0, output ++ "\n", ""⟩

/-- The outcome of an error that ends the run. -/
def failure (message : String) : Outcome := ⟨1, "", "Error: " ++ message ++ "\n"⟩

/-- The outcome of wrong arguments. -/
def misuse : Outcome := ⟨2, "", "error: invalid arguments\n\nFor more information, try '--help'.\n"⟩

end Outcome

namespace CommandLine

def versionText : String := "fieldbase 0.1.0"

def helpText : String :=
  String.intercalate "\n" [
    "Fieldbase filter language client",
    "",
    "Usage: fieldbase [OPTIONS]",
    "",
    "Options:",
    "  -c, --command <COMMAND>        Run a single filter and exit",
    "  -f, --file <FILE>              Run filters from file, one per line",
    "  -t, --types <TYPES>            Field types as comma-separated name:TYPE pairs (e.g. age:INT,price:DEC)",
    "      --types-file <TYPES_FILE>  Field types as a JSON object file (e.g. \x7b\"age\": \"INT\"\x7d)",
    "  -r, --records <RECORDS>        JSON array of entries to filter; without it filters print as documents",
    "      --format <FORMAT>          Output format [default: table] [possible values: table, json, csv]",
    "      --max-depth <MAX_DEPTH>    Maximum parenthesis nesting depth [default: 64]",
    "      --max-terms <MAX_TERMS>    Maximum number of conditions in one filter [default: 512]",
    "      --strict                   Reject literals that do not convert to the field's declared type",
    "      --validate                 Only check syntax and print the parsed tree",
    "      --analyze <FIELD:TYPE>     Report the impact of changing a field's type (field:TYPE) and exit",
    "  -h, --help                     Print help",
    "  -V, --version                  Print version"]

/-- The settings that the arguments give. -/
def settings (args : Arguments) : Settings :=
  ⟨⟨args.maxDepth.getD Limits.standard.depth, args.maxTerms.getD Limits.standard.conditions⟩,
    args.strict⟩

/-- The content of a file that is needed. -/
def need (files : FileReader) (path : String) : Except SessionError String :=
  (files path).mapError (.unreadable path)

/-- The schema of the types file and of the pairs on the command line, which win. -/
def loadSchema (files : FileReader) (args : Arguments) : Except SessionError Schema := do
  let fromFile ← match args.typesFile with
    | none => pure (.empty : Schema)
    | some path =>
      match Schema.ofJsonText? (← need files path) with
      | some schema => pure schema
      | none => throw (.schema .notJson)
  let inline ← match args.types with
    | none => pure (.empty : Schema)
    | some pairs => (Schema.ofPairs pairs).mapError .schema
  return fromFile.insertAll inline.entries

/-- The entries of the entries file, if one is given. -/
def loadEntries (files : FileReader) (now : Timestamp) (args : Arguments) :
    Except SessionError (Option (List Entry)) :=
  match args.records with
  | none => .ok none
  | some path => do
    match Entry.readAll? now (← need files path) with
    | some entries => return some entries
    | none => throw .notEntries

/-- The session that the arguments ask for. -/
def load (files : FileReader) (now : Timestamp) (args : Arguments) :
    Except SessionError Session := do
  let schema ← loadSchema files args
  let entries ← loadEntries files now args
  return ⟨schema, entries, settings args⟩

/-- Reports on a change of type. -/
def reportChange (session : Session) (format : OutputFormat) (spec : String) : Outcome :=
  match session.analyze format spec with
  | .ok output => .success output
  | .error e => .failure e.message

/-- Runs a single filter. -/
def runFilter (session : Session) (format : OutputFormat) (validateOnly : Bool) (source : String) :
    Outcome :=
  match session.runLine format validateOnly source with
  | .ok output => .success output
  | .error e => ⟨1, "", e.message ++ "\n"⟩

/-- What a script prints for a filter that ran. -/
def scriptOutput (result : String × Except SessionError String) : String :=
  match result.2 with
  | .ok output => if output.isEmpty then "" else output ++ "\n"
  | .error _ => ""

/-- What a script prints for a filter that failed. -/
def scriptComplaint (result : String × Except SessionError String) : String :=
  match result.2 with
  | .ok _ => ""
  | .error e => "Error in '" ++ result.1 ++ "':\n" ++ e.message ++ "\n"

/-- Runs all filters of a script, and fails if any of them did. -/
def runScript (files : FileReader) (session : Session) (format : OutputFormat)
    (validateOnly : Bool) (path : String) : Outcome :=
  match files path with
  | .error reason => .failure reason
  | .ok script =>
    let results := session.runScript format validateOnly script
    let output := String.join (results.map scriptOutput)
    let complaints := String.join (results.map scriptComplaint)
    match Session.scriptError? results with
    | none => ⟨0, output, complaints⟩
    | some e => ⟨1, output, complaints ++ (Outcome.failure e.message).errors⟩

/-- Does what the arguments ask for, except for running the shell. -/
def launch (files : FileReader) (now : Timestamp) : Request → Launch
  | .help => .finished (.success helpText)
  | .version => .finished (.success versionText)
  | .misuse => .finished .misuse
  | .run args =>
    match load files now args with
    | .error e => .finished (.failure e.message)
    | .ok session =>
      let format := args.format.getD .table
      match args.analyze, args.command, args.file with
      | some spec, _, _ => .finished (reportChange session format spec)
      | none, some source, _ => .finished (runFilter session format args.validate source)
      | none, none, some path => .finished (runScript files session format args.validate path)
      | none, none, none => .shell ⟨session, format, args.validate⟩

/-- A whole run, in which the shell reads its lines from the given input. -/
def run (files : FileReader) (now : Timestamp) (history : History) (input : String)
    (arguments : List String) : Outcome :=
  match launch files now (Arguments.read arguments) with
  | .finished outcome => outcome
  | .shell start =>
    let lines := (Text.lines input.toList).map String.ofList
    ⟨0, start.greeting ++ start.run history lines, ""⟩

end CommandLine

end EntryFilter
