import SessionBoard.App.State
import SessionBoard.Table.Drawing
import SessionBoard.Tip

namespace SessionBoard.AppState

/-- The body: a hint in place of an empty table, or the rows in view. -/
def drawBody (app : AppState) : Checked (List (List Cell)) :=
  let body := app.screen.body
  match tip? app.header.activity app.table.isEmpty with
  | some text => .ok (drawTip text body.width body.height)
  | none => app.table.draw body.width body.height

/-- The whole screen as a function of the state, its lines from top to bottom. -/
def draw (app : AppState) : Checked (List (List Cell)) := do
  let screen := app.screen
  let line (area : Area) (spans : List Span) : List (List Cell) :=
    List.replicate area.height (drawSpans area.width spans)
  let body ← app.drawBody
  return line screen.header app.header.spans ++ line screen.titles app.table.titleSpans ++ body
    ++ line screen.status (app.status.spans screen.status.width)

end SessionBoard.AppState
