import SessionBoard.Checked
import SessionBoard.Session.Record
import SessionBoard.Text.Fit

namespace SessionBoard

open SessionBoard.Text

/-- A boundary between characters of a cell. -/
structure CellPoint where
  column : Nat
  offset : Nat
  deriving DecidableEq, Repr, Inhabited

instance : LE CellPoint where
  le p q := p.column < q.column ∨ (p.column = q.column ∧ p.offset ≤ q.offset)

instance (p q : CellPoint) : Decidable (p ≤ q) :=
  inferInstanceAs (Decidable (p.column < q.column ∨ (p.column = q.column ∧ p.offset ≤ q.offset)))

/-- A selection within one line of the table, from the end that stays to the one that follows the drag. Its ends
are characters of cells and not places on the screen, so it stays with its text while the table scrolls or its
columns move. A click without a drag selects nothing. -/
structure Selection where
  rowKey : Option SessionId := none
  anchor : CellPoint := ⟨0, 0⟩
  cursor : CellPoint := ⟨0, 0⟩
  selecting : Bool := false
  deriving DecidableEq, Repr, Inhabited

namespace Selection

def cleared : Selection := {}

def start (key : SessionId) (point : CellPoint) : Selection :=
  ⟨some key, point, point, true⟩

def extend (selection : Selection) (point : CellPoint) : Selection :=
  if selection.selecting then { selection with cursor := point } else selection

/-- Ends the drag. The selection stays until it is cleared. -/
def finish (selection : Selection) : Selection :=
  { selection with selecting := false }

/-- The ends in order, unless nothing is selected. -/
def range (selection : Selection) : Option (CellPoint × CellPoint) :=
  if selection.rowKey.isNone ∨ selection.anchor = selection.cursor then none
  else if selection.anchor ≤ selection.cursor then some (selection.anchor, selection.cursor)
  else some (selection.cursor, selection.anchor)

/-- The selected characters of a column of the row with this key, which has `length` of them. -/
def highlight (selection : Selection) (key : SessionId) (column length : Nat) :
    Option (Nat × Nat) :=
  if selection.rowKey ≠ some key then none
  else match selection.range with
    | none => none
    | some (first, last) =>
      if column < first.column ∨ last.column < column then none
      else
        let start := if column = first.column then min first.offset length else 0
        let stop := if column = last.column then min last.offset length else length
        if start < stop then some (start, stop) else none

def pieceOf (selection : Selection) (key : SessionId) (cells : List (List Char)) (column : Nat) :
    Checked (Option (List Char)) := do
  let cell ← Checked.get cells column
  return (selection.highlight key column cell.length).map fun (start, stop) =>
    slice cell start stop

/-- The selected text of a row with these cells, parted by tabs. -/
def selectedText (selection : Selection) (cells : List (List Char)) :
    Checked (Option (List Char)) :=
  match selection.rowKey, selection.range with
  | some key, some (first, last) => do
    let stop := min last.column (cells.length - 1) + 1
    let pieces ← (List.range' first.column (stop - first.column)).mapM (selection.pieceOf key cells)
    let pieces := pieces.filterMap id
    return if pieces.isEmpty then none else some (List.intercalate ['\t'] pieces)
  | _, _ => .ok none

/-- Spans the whole of a cell whose content changed, if the selection is finished and lies within
it. Says whether it did. -/
def reassert (selection : Selection) (key : SessionId) (column length : Nat) : Selection × Bool :=
  if selection.selecting ∨ selection.rowKey ≠ some key ∨ selection.range.isNone then
    (selection, false)
  else if selection.anchor.column ≠ column ∨ selection.cursor.column ≠ column then
    (selection, false)
  else ({ selection with anchor := ⟨column, 0⟩, cursor := ⟨column, length⟩ }, true)

end Selection

end SessionBoard
