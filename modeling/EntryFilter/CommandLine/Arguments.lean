import EntryFilter.Number.Numeral
import EntryFilter.Output.Format

/-! # Command-line arguments

Options with a value take it from the next argument, or after an equals sign, or directly behind
their letter. No option may come twice, and there are no arguments besides options. -/

namespace EntryFilter

open EntryFilter.Text

/-- The options that take a value. -/
inductive ValueOption where
  | command
  | file
  | types
  | typesFile
  | records
  | format
  | maxDepth
  | maxTerms
  | analyze
  deriving DecidableEq

namespace ValueOption

def all : List ValueOption :=
  [command, file, types, typesFile, records, format, maxDepth, maxTerms, analyze]

/-- The name behind two hyphens. -/
def name : ValueOption → String
  | command => "command"
  | file => "file"
  | types => "types"
  | typesFile => "types-file"
  | records => "records"
  | format => "format"
  | maxDepth => "max-depth"
  | maxTerms => "max-terms"
  | analyze => "analyze"

/-- The option with a letter behind one hyphen. -/
def ofLetter? : Char → Option ValueOption
  | 'c' => some command
  | 'f' => some file
  | 't' => some types
  | 'r' => some records
  | _ => none

def ofName? (name : String) : Option ValueOption := all.find? fun o => o.name == name

end ValueOption

/-- The options of a run; those that were not given are missing. -/
structure Arguments where
  command : Option String := none
  file : Option String := none
  types : Option String := none
  typesFile : Option String := none
  records : Option String := none
  format : Option OutputFormat := none
  maxDepth : Option Nat := none
  maxTerms : Option Nat := none
  analyze : Option String := none
  strict : Bool := false
  validate : Bool := false

/-- What the arguments ask for. -/
inductive Request where
  | run (arguments : Arguments)
  | help
  | version
  | misuse

/-- What a single argument is. -/
inductive Argument where
  | help
  | version
  | strict
  | validate
  /-- An option whose value is the next argument. -/
  | pending (option : ValueOption)
  | assigned (option : ValueOption) (value : String)
  | unknown

namespace Argument

/-- The argument behind two hyphens. -/
def ofLong (cs : List Char) : Argument :=
  match cutFirst? '=' cs with
  | some (name, value) =>
    match ValueOption.ofName? (String.ofList name) with
    | some option => assigned option (String.ofList value)
    | none => unknown
  | none =>
    match String.ofList cs with
    | "help" => help
    | "version" => version
    | "strict" => strict
    | "validate" => validate
    | name =>
      match ValueOption.ofName? name with
      | some option => pending option
      | none => unknown

/-- The argument of a letter and what stands behind it. -/
def ofShort (letter : Char) (rest : List Char) : Argument :=
  match letter, ValueOption.ofLetter? letter, rest with
  | 'h', _, _ => help
  | 'V', _, _ => version
  | _, some option, [] => pending option
  | _, some option, '=' :: value => assigned option (String.ofList value)
  | _, some option, value => assigned option (String.ofList value)
  | _, none, _ => unknown

/-- Reads an argument by itself. -/
def read (argument : String) : Argument :=
  match argument.toList with
  | '-' :: '-' :: cs => ofLong cs
  | '-' :: letter :: rest => ofShort letter rest
  | _ => unknown

end Argument

namespace Arguments

/-- A count of at most 64 bits, perhaps with a plus sign. -/
def count? (text : String) : Option Nat :=
  let digits := match text.toList with
    | '+' :: rest => rest
    | cs => cs
  if digits.isEmpty || !digits.all isAsciiDigit then none
  else
    let n := Decimal.ofDigits digits
    if n < UInt64.size then some n else none

/-- The path that a text names. -/
def path? (text : String) : Option String := if text.isEmpty then none else some text

/-- The new value of an option that has none yet. -/
def once {α : Type} (old new : Option α) : Option (Option α) :=
  match old, new with
  | none, some value => some (some value)
  | _, _ => none

/-- The arguments with a value set, unless it is of the wrong form or set already. -/
def set? (args : Arguments) (option : ValueOption) (value : String) : Option Arguments :=
  match option with
  | .command => (once args.command (some value)).map fun v => { args with command := v }
  | .file => (once args.file (path? value)).map fun v => { args with file := v }
  | .types => (once args.types (some value)).map fun v => { args with types := v }
  | .typesFile => (once args.typesFile (path? value)).map fun v => { args with typesFile := v }
  | .records => (once args.records (path? value)).map fun v => { args with records := v }
  | .format => (once args.format (OutputFormat.ofName? value)).map fun v => { args with format := v }
  | .maxDepth => (once args.maxDepth (count? value)).map fun v => { args with maxDepth := v }
  | .maxTerms => (once args.maxTerms (count? value)).map fun v => { args with maxTerms := v }
  | .analyze => (once args.analyze (some value)).map fun v => { args with analyze := v }

/-- Whether an argument may be the value of the option before it. -/
def isValue (argument : String) : Bool :=
  match argument.toList with
  | ['-'] => true
  | '-' :: _ => false
  | _ => true

/-- Adds the remaining arguments to those read so far. -/
def readFrom (args : Arguments) : List String → Request
  | [] => .run args
  | argument :: rest =>
    match Argument.read argument, rest with
    | .help, _ => .help
    | .version, _ => .version
    | .strict, rest => if args.strict then .misuse else readFrom { args with strict := true } rest
    | .validate, rest =>
      if args.validate then .misuse else readFrom { args with validate := true } rest
    | .assigned option value, rest =>
      match args.set? option value with
      | some args => readFrom args rest
      | none => .misuse
    | .pending option, value :: rest =>
      if isValue value then
        match args.set? option value with
        | some args => readFrom args rest
        | none => .misuse
      else .misuse
    | .pending _, [] => .misuse
    | .unknown, rest => if argument == "--" && rest.isEmpty then .run args else .misuse

/-- What all arguments ask for. -/
def read (arguments : List String) : Request := readFrom {} arguments

/-- The files that a run needs. -/
def paths (args : Arguments) : List String :=
  [args.typesFile, args.records, args.file].filterMap id

end Arguments

end EntryFilter
