import SessionBoard.Checked
import SessionBoard.Table.Row
import SessionBoard.Text.Width

namespace SessionBoard

open SessionBoard.Text

namespace Column

def titles : List String := ["ID", "Type", "State", "Host", "From", "Uptime"]

def state : Nat := 2

def uptime : Nat := 5

def gap : Nat := 2

/-- Fits four groups of digits, so that a growing uptime never moves the table. -/
def uptimeWidth : Nat := 15

def stateWidth : Nat := 11

def minHostWidth : Nat := 8

def maxIdWidth : Nat := 12

def maxProtocolWidth : Nat := 10

def maxOriginWidth : Nat := 24

/-- The width of the widest text or the title, capped. -/
def contentWidth (title : String) (texts : List String) (cap : Nat) : Nat :=
  min cap ((texts.map fun text => Width.ofText text.toList).foldl max
    (Width.ofText title.toList))

end Column

open Column

structure ColumnLayout where
  widths : List Nat
  starts : List Nat
  deriving DecidableEq, Repr, Inhabited

namespace ColumnLayout

/-- Where columns of these widths start, the first one at `x`. -/
def startsFrom (x : Nat) : List Nat → List Nat
  | [] => []
  | width :: widths => x :: startsFrom (x + width + gap) widths

def ofWidths (widths : List Nat) : ColumnLayout :=
  ⟨widths, startsFrom 0 widths⟩

/-- The layout for these rows on a line of this width. Widths follow the content of the rows, and the host takes
what is left. Drawing and the mouse go by the same layout, so a click lands on the cell drawn there. -/
def ofRows (rows : List SessionRow) (total : Nat) : ColumnLayout :=
  let id := contentWidth "ID" (rows.map (·.record.id.text)) maxIdWidth
  let protocol := contentWidth "Type" (rows.map (·.record.protocol)) maxProtocolWidth
  let origin := contentWidth "From" (rows.map (·.record.origin)) maxOriginWidth
  let fixed := id + protocol + stateWidth + origin + uptimeWidth + gap * 5
  ofWidths [id, protocol, stateWidth, max (total - fixed) minHostWidth, origin, uptimeWidth]

/-- The first column of the rest that ends past `x`, counted from `index`. -/
def find? (x : Nat) : (index : Nat) → List (Nat × Nat) → Option (Nat × Nat)
  | _, [] => none
  | index, (start, width) :: rest =>
    if x < start + width then some (index, x - start) else find? x (index + 1) rest

/-- The column at a column of the terminal, and the distance from its start. A gap belongs to the
column after it, and everything past the end to the last column. -/
def columnAt (layout : ColumnLayout) (x : Nat) : Checked (Nat × Nat) :=
  match find? x 0 (layout.starts.zip layout.widths) with
  | some found => .ok found
  | none => do
    let last ← Checked.sub layout.widths.length 1
    let start ← Checked.get layout.starts last
    return (last, ← Checked.sub x start)

end ColumnLayout

end SessionBoard
