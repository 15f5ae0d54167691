import EntryFilter.Shell.Command
import EntryFilter.Shell.History

/-! # The shell

The shell reads lines that are filters or commands. Its state is a session, the output format, and
whether filters are only validated; only the commands that are made for it change the state. -/

namespace EntryFilter

open EntryFilter.Text

structure Shell where
  session : Session
  format : OutputFormat
  validateOnly : Bool

namespace Shell

/-- What a line leads to: text on the screen, and the next state unless the shell ends. -/
structure Reaction where
  output : String
  next : Option Shell

/-- The text with a line end. -/
def line (text : String) : String := text ++ "\n"

/-- What is shown before the first line. -/
def greeting (shell : Shell) : String :=
  let loaded := match shell.session.entries with
    | some entries => "Loaded " ++ toString entries.length ++ " entries"
    | none => "No entries loaded; filters print as store documents"
  line loaded ++ "Fieldbase CLI - Type .help for commands, .exit to quit\n\n"

/-- What is shown on a terminal where a line is expected. -/
def prompt (shell : Shell) : String :=
  if shell.validateOnly then "fieldbase (validate)> " else "fieldbase> "

/-- What is shown at the end. -/
def farewell : String := line "Goodbye!"

/-- The signs that clear a terminal. -/
def clearScreen : String := "\x1b[2J\x1b[1;1H"

/-- Does what a command asks for. -/
def obey (shell : Shell) (history : History) : CommandResult → Reaction
  | .exit => ⟨farewell, none⟩
  | .output text => ⟨line text, some shell⟩
  | .setFormat format =>
    ⟨line ("Output format set to " ++ format.name), some { shell with format := format }⟩
  | .setStrict strict =>
    ⟨line ("Strict mode " ++ Command.onOff strict),
      some { shell with session := shell.session.setStrict strict }⟩
  | .declare spec =>
    ⟨line ("Field '" ++ spec.field ++ "' is now " ++ spec.type.code),
      some { shell with session := shell.session.declare spec }⟩
  | .showHistory => ⟨history.render, some shell⟩
  | .clear => ⟨clearScreen, some shell⟩

/-- Switches between running and validating filters. -/
def toggle (shell : Shell) : Reaction :=
  let validateOnly := !shell.validateOnly
  ⟨line ("Validate-only mode " ++ Command.onOff validateOnly),
    some { shell with validateOnly := validateOnly }⟩

/-- Shows the result of a filter, if there is anything to show. -/
def runFilter [PatternEngine] (shell : Shell) (source : String) : Reaction :=
  match shell.session.runLine shell.format shell.validateOnly source with
  | .ok output => ⟨if output.isEmpty then "" else line output, some shell⟩
  | .error e => ⟨line e.message, some shell⟩

/-- Whether a line is the command to toggle validation, without an argument. -/
def isToggle (input : List Char) : Bool :=
  input.map Char.toLower == ".validate".toList

/-- Reads one line. -/
def step [PatternEngine] (shell : Shell) (history : History) (input : String) : Reaction :=
  let trimmed := trim input.toList
  let source := String.ofList trimmed
  if trimmed.isEmpty then ⟨"", some shell⟩
  else if Command.isCommand source then
    if isToggle trimmed then shell.toggle
    else shell.obey history (Command.ofLine shell.session shell.format source)
  else shell.runFilter source

/-- What is shown for all lines of the input, up to its end or to a command that ends the shell. -/
def run [PatternEngine] (shell : Shell) (history : History) : List String → String
  | [] => farewell
  | input :: rest =>
    let reaction := shell.step history input
    match reaction.next with
    | some next => reaction.output ++ next.run history rest
    | none => reaction.output

end Shell

end EntryFilter
