import SessionBoard.Header
import SessionBoard.Table.State

namespace SessionBoard

open SessionBoard.Text

/-- The cells of a line with a gap between neighbours. -/
def gapped : List (List Span) → List Span
  | [] => []
  | [cell] => cell
  | cell :: next :: rest =>
    cell ++ { text := List.replicate Column.gap ' ' } :: gapped (next :: rest)

def SessionRow.cellStyle (row : SessionRow) (column : Nat) : Style :=
  if column = Column.state then .ofColor row.record.state.color
  else if column = Column.uptime then { bold := true }
  else .plain

/-- The style of a character of a cell: dividers are dim, selected characters reversed. -/
def charStyle (base : Style) (highlight : Option (Nat × Nat)) (index : Nat) (char : Char) : Style where
  color := base.color
  bold := base.bold
  dim := base.dim || char == Uptime.divider
  reversed := base.reversed || highlight.any fun (start, stop) => start ≤ index && index < stop

/-- Puts a character in front of spans, into the first one if that has its style. -/
def consSpan (char : Char) (style : Style) : List Span → List Span
  | [] => [⟨[char], style⟩]
  | span :: spans =>
    if span.style = style then ⟨char :: span.text, style⟩ :: spans
    else ⟨[char], style⟩ :: span :: spans

/-- The text of a cell from its character `index` on, neighbours of one style together. -/
def cellSpans (base : Style) (highlight : Option (Nat × Nat)) :
    (index : Nat) → List Char → List Span
  | _, [] => []
  | index, char :: text =>
    consSpan char (charStyle base highlight index char) (cellSpans base highlight (index + 1) text)

namespace TableState

def titleSpans (table : TableState) : List Span :=
  gapped <| (Column.titles.zip table.layout.widths).map fun (title, width) =>
    [⟨fit title.toList width, { bold := true }⟩]

def rowCellSpans (table : TableState) (row : SessionRow) (column : Nat) (cell : List Char)
    (width : Nat) : List Span :=
  cellSpans (row.cellStyle column) (table.selection.highlight row.key column cell.length) 0
    (fit cell width)

/-- The cells of a row from column `column` on. -/
def cellsFrom (table : TableState) (row : SessionRow) : (column : Nat) →
    List (List Char × Nat) → List (List Span)
  | _, [] => []
  | column, (cell, width) :: rest =>
    table.rowCellSpans row column cell width :: cellsFrom table row (column + 1) rest

def rowSpans (table : TableState) (row : SessionRow) : List Span :=
  gapped (table.cellsFrom row 0 (row.cells.zip table.layout.widths))

def draw (table : TableState) (width height : Nat) : Checked (List (List Cell)) := do
  let rows ← table.visibleRows
  return fillArea width height (rows.map fun row => drawSpans width (table.rowSpans row))

end TableState

end SessionBoard
