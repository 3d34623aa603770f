import SessionBoard.Input
import SessionBoard.Screen
import SessionBoard.Table.State

namespace SessionBoard.TableState

def wheelLines : Int := 3

/-- Answers a navigation key; `none` for any other. -/
def onKey (table : TableState) : Key → Option TableState
  | .up => some (table.scrollBy (-1))
  | .down => some (table.scrollBy 1)
  | .pageUp => some table.pageUp
  | .pageDown => some table.pageDown
  | .home => some table.scrollToTop
  | .bottom => some table.scrollToBottom
  | .char _ | .escape | .other => none

/-- A press on a row starts a selection there; one elsewhere clears it. -/
def onPress (table : TableState) (screen : Screen) (x y : Nat) : Checked TableState := do
  let hit ←
    match screen.bodyLineAt y with
    | some line => table.hitTest line x
    | none => pure none
  match hit with
  | some (key, point) => return { table with selection := .start key point }
  | none => return { table with selection := .cleared }

/-- A drag stays on the row it started on. -/
def onDrag (table : TableState) (x : Nat) : Checked TableState := do
  if !table.selection.selecting then return table
  match ← table.pointOnSelectedRow x with
  | some point => return { table with selection := table.selection.extend point }
  | none => return table

def onRelease (table : TableState) : Checked (TableState × Option Effect) := do
  if !table.selection.selecting then return (table, none)
  let table := { table with selection := table.selection.finish }
  return (table, (← table.selectedText).map .copy)

/-- The answer to the mouse: scrolling, and a selection within one line that is copied when the button is
released. -/
def onMouse (table : TableState) (screen : Screen) (mouse : MouseEvent) :
    Checked (TableState × Option Effect) :=
  match mouse.action with
  | .scrollUp => .ok (table.scrollBy (-wheelLines), none)
  | .scrollDown => .ok (table.scrollBy wheelLines, none)
  | .down .left => do return (← table.onPress screen mouse.x mouse.y, none)
  | .drag .left => do return (← table.onDrag mouse.x, none)
  | .up .left => table.onRelease
  | .down _ | .drag _ | .up _ | .moved | .scrollLeft | .scrollRight => .ok (table, none)

end SessionBoard.TableState
