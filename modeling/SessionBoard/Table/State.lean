import SessionBoard.Table.Columns
import SessionBoard.Table.Reconcile
import SessionBoard.Table.Selection

namespace SessionBoard

open SessionBoard.Text

/-- The table of sessions: its rows, what of them is in view, and the selection. -/
structure TableState where
  rows : List SessionRow := []
  context : RowContext
  selection : Selection := .cleared
  scrollOffset : Nat := 0
  viewportHeight : Nat := 0
  width : Nat := 0
  deriving DecidableEq, Repr, Inhabited

def SessionRow.kind : RowKind SessionRow RowContext :=
  ⟨SessionRow.key, SessionRow.create, SessionRow.update⟩

namespace TableState

/-- An empty table whose displays are recomputed every `tick` milliseconds. -/
def start (now : Clock) (tick : Nat) : TableState :=
  { context := { now, tick } }

def isEmpty (table : TableState) : Bool := table.rows.isEmpty

/-- The furthest the table scrolls: the last row stays at the bottom of the view. -/
def maxScroll (table : TableState) : Nat :=
  table.rows.length - table.viewportHeight

def clampScroll (table : TableState) : TableState :=
  { table with scrollOffset := min table.scrollOffset table.maxScroll }

/-- Takes over a snapshot. The selection goes when its row goes. -/
def applySnapshot (table : TableState) (snapshot : Snapshot) (now : Clock) :
    TableState × ReconcileReport :=
  let ((rows, report), context) :=
    SessionRow.kind.reconcile table.rows snapshot { table.context with now := now }
  let selection :=
    match table.selection.rowKey with
    | some key => if key ∈ report.removed then .cleared else table.selection
    | none => table.selection
  ({ table with rows := rows, context := context, selection := selection }.clampScroll, report)

/-- Recomputes the uptimes that are due. A selection that covers an uptime which changed covers the
whole new text. Says whether anything visible changed. -/
def tickRows (now : Clock) : List SessionRow → Selection → (List SessionRow × Selection) × Bool
  | [], selection => (([], selection), false)
  | row :: rows, selection =>
    let (uptime, changed) := row.uptime.poll now
    let visible := changed.any (!·.isEmpty)
    let selection :=
      if visible then (selection.reassert row.key Column.uptime uptime.text.length).1
      else selection
    let ((rows, selection), more) := tickRows now rows selection
    (({ row with uptime := uptime } :: rows, selection), visible || more)

def tick (table : TableState) (now : Clock) : TableState × Bool :=
  let ((rows, selection), changed) := tickRows now table.rows table.selection
  ({ table with rows := rows, selection := selection }, changed)

def setViewport (table : TableState) (width height : Nat) : TableState :=
  { table with width := width, viewportHeight := height }.clampScroll

def layout (table : TableState) : ColumnLayout :=
  .ofRows table.rows table.width

def visibleRows (table : TableState) : Checked (List SessionRow) :=
  let start := min table.scrollOffset table.rows.length
  Checked.slice table.rows start (min (start + table.viewportHeight) table.rows.length)

def scrollBy (table : TableState) (delta : Int) : TableState :=
  { table with scrollOffset := min (table.scrollOffset + delta).toNat table.maxScroll }

def pageUp (table : TableState) : TableState :=
  table.scrollBy (-(max table.viewportHeight 1 : Nat))

def pageDown (table : TableState) : TableState :=
  table.scrollBy (max table.viewportHeight 1 : Nat)

def scrollToTop (table : TableState) : TableState :=
  { table with scrollOffset := 0 }

def scrollToBottom (table : TableState) : TableState :=
  { table with scrollOffset := table.maxScroll }

def pointOn (table : TableState) (row : SessionRow) (x : Nat) : Checked CellPoint := do
  let (column, distance) ← table.layout.columnAt x
  let cell ← Checked.get row.cells column
  return ⟨column, charIndexAt cell distance⟩

/-- The row and the character boundary at a point of the body. -/
def hitTest (table : TableState) (line x : Nat) : Checked (Option (SessionId × CellPoint)) := do
  match (← table.visibleRows)[line]? with
  | none => return none
  | some row => return some (row.key, ← table.pointOn row x)

def selectedRow? (table : TableState) : Option SessionRow :=
  match table.selection.rowKey with
  | some key => table.rows.find? (·.key = key)
  | none => none

/-- The character boundary of the selected row at a column of the terminal, whatever line the
pointer is on. -/
def pointOnSelectedRow (table : TableState) (x : Nat) : Checked (Option CellPoint) :=
  match table.selectedRow? with
  | some row => some <$> table.pointOn row x
  | none => .ok none

def selectedText (table : TableState) : Checked (Option (List Char)) :=
  match table.selectedRow? with
  | some row => table.selection.selectedText row.cells
  | none => .ok none

end TableState

end SessionBoard
