import EntryFilter.Text.Cut
import EntryFilter.Text.Width

/-! # Tables

A table is drawn with signs that every terminal has. A cell may have several lines; a column is as
wide as its widest line, and wide characters count for what they take on the screen. -/

namespace EntryFilter

open EntryFilter.Text

structure Table where
  header : List String
  rows : List (List String)

namespace Table

/-- The lines of a cell. -/
def cellLines (cell : String) : List (List Char) := splitAll '\n' cell.toList

/-- The width of the widest line of a cell. -/
def cellWidth (cell : String) : Nat := ((cellLines cell).map width).foldl max 0

/-- The widths of the columns. No column is narrower than one character. -/
def columnWidths (table : Table) : List Nat :=
  (table.header :: table.rows).foldl
    (fun widths row => List.zipWith max widths (row.map cellWidth))
    (table.header.map fun _ => 1)

/-- A line of a cell, filled up with blanks to the width of its column. -/
def padTo (columnWidth : Nat) (line : List Char) : List Char :=
  line ++ List.replicate (columnWidth - width line) ' '

/-- A horizontal line between two rows. -/
def rule (edge fill cross : Char) (widths : List Nat) : List Char :=
  edge :: ((widths.map fun w => List.replicate (w + 2) fill).intersperse [cross]).flatten ++ [edge]

/-- One line of a row, of which each cell has one line at most. -/
def lineOf (widths : List Nat) (cells : List (List Char)) : List Char :=
  '|' :: (List.zipWith (fun w cell => ' ' :: padTo w cell ++ [' ', '|']) widths cells).flatten

/-- All lines of a row. Cells with fewer lines than others end in empty ones. -/
def rowLines (widths : List Nat) (row : List String) : List (List Char) :=
  let cells := row.map cellLines
  let height := (cells.map List.length).foldl max 0
  (List.range height).map fun i => lineOf widths (cells.map fun lines => lines[i]?.getD [])

/-- The lines of the drawn table. -/
def lines (table : Table) : List (List Char) :=
  let widths := table.columnWidths
  let between := [rule '|' '-' '+' widths]
  [rule '+' '-' '+' widths] ++ rowLines widths table.header ++ [rule '+' '=' '=' widths] ++
    ((table.rows.map (rowLines widths)).intersperse between).flatten ++ [rule '+' '-' '+' widths]

/-- The drawn table, without a line end behind it. -/
def render (table : Table) : String :=
  String.ofList ((table.lines.intersperse ['\n']).flatten)

end Table

end EntryFilter
