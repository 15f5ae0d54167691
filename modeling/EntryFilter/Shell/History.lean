import EntryFilter.Text.Cut

/-! # History

The history holds the last lines that were entered. In its file, which begins with a line that
tells the version, line feeds inside an entry are escaped. -/

namespace EntryFilter

open EntryFilter.Text

/-- Entered lines, the oldest first. -/
abbrev History := List String

namespace History

/-- How many lines are kept. -/
def capacity : Nat := 100

/-- How many lines are shown. -/
def shown : Nat := 20

/-- Whether a line is left out: one that is empty, begins with a blank or repeats the last one. -/
def isIgnored (history : History) (line : String) : Bool :=
  match line.toList with
  | [] => true
  | c :: _ => isBlank c || history.getLast? == some line

/-- The history with one more line. -/
def add (history : History) (line : String) : History :=
  if history.isIgnored line then history
  else
    let longer := history ++ [line]
    longer.drop (longer.length - capacity)

/-- The line that an escaped one stands for, if all of its escapes are known. -/
def unescape? : List Char → Option (List Char)
  | [] => some []
  | '\\' :: 'n' :: rest => (unescape? rest).map ('\n' :: ·)
  | '\\' :: '\\' :: rest => (unescape? rest).map ('\\' :: ·)
  | c :: rest => if c = '\\' then none else (unescape? rest).map (c :: ·)

/-- The first line of a file in which entries are escaped. -/
def versionMark : List Char := ['#', 'V', '2']

/-- The history in a file. -/
def ofFile (content : String) : History :=
  match lines content.toList with
  | [] => []
  | first :: rest =>
    let escaped := first == versionMark
    let entry (line : List Char) : String :=
      String.ofList (if escaped then (unescape? line).getD line else line)
    let start : History := if escaped then [] else add [] (String.ofList first)
    ((rest.filter (!·.isEmpty)).map entry).foldl add start

/-- A line without line feeds that stands for the given one. -/
def escape (line : List Char) : List Char :=
  line.flatMap fun c =>
    match c with
    | '\n' => ['\\', 'n']
    | '\\' => ['\\', '\\']
    | c => [c]

/-- The file of a history. -/
def toFile (history : History) : String :=
  String.ofList (((versionMark :: history.map fun line => escape line.toList).map
    fun line => line ++ ['\n']).flatten)

/-- A number in four places at least. -/
def lineNumber (n : Nat) : String :=
  let digits := toString n
  String.ofList (List.replicate (4 - digits.length) ' ') ++ digits

/-- The latest lines with their numbers. -/
def render (history : History) : String :=
  let skipped := history.length - shown
  String.join ((history.drop skipped).mapIdx fun i line =>
    lineNumber (skipped + i + 1) ++ "  " ++ line ++ "\n")

end History

end EntryFilter
