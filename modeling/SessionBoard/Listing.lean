import SessionBoard.Table.Columns

namespace SessionBoard.Listing

open SessionBoard.Text

abbrev CellLines := List (List Char)

def cellLines (text : List Char) : CellLines := text.splitOn '\n'

def cellWidth (cell : CellLines) : Nat := (cell.map Width.ofText).foldl max 0

/-- The width of every column, the rows having as many cells each. -/
def columnWidths (rows : List (List CellLines)) : List Nat :=
  match rows with
  | [] => []
  | row :: rows => rows.foldl (fun widths row => widths.zipWith max (row.map cellWidth))
      (row.map cellWidth)

def rule (left fill cross right : Char) (widths : List Nat) : List Char :=
  left :: List.intercalate [cross] (widths.map fun width => List.replicate (width + 2) fill)
    ++ [right]

def paddedTo (width : Nat) (line : List Char) : List Char :=
  ' ' :: line ++ List.replicate (width - Width.ofText line) ' ' ++ [' ']

/-- The lines of one row. Cells with fewer lines than the others are blank below. -/
def rowLines (widths : List Nat) (row : List CellLines) : List (List Char) :=
  let height := (row.map List.length).foldl max 0
  (List.range height).map fun line =>
    '|' :: List.intercalate ['|'] (widths.zipWith paddedTo (row.map fun cell => cell.getD line []))
      ++ ['|']

def lines (titles : List (List Char)) (rows : List (List (List Char))) : List (List Char) :=
  let titles := titles.map cellLines
  let rows := rows.map (·.map cellLines)
  let widths := columnWidths (titles :: rows)
  let edge := rule '+' '-' '+' '+' widths
  [edge] ++ rowLines widths titles ++ [rule '+' '=' '=' '+' widths]
    ++ List.intercalate [rule '|' '-' '+' '|' widths] (rows.map (rowLines widths)) ++ [edge]

/-- The lines for a session list as a table of plain text, one row for each session. Columns are as wide as
their widest line, and a line break inside a cell starts another line of its row. -/
def ofRecords (records : List SessionRecord) (now : Clock) : List (List Char) :=
  let context : RowContext := { now, tick := Uptime.defaultTick }
  lines (Column.titles.map String.toList) (records.map fun record =>
    (SessionRow.create record context).1.cells)

end SessionBoard.Listing
