import SessionBoard.Header
import SessionBoard.Input
import SessionBoard.Screen
import SessionBoard.StatusLine
import SessionBoard.Table.Input

namespace SessionBoard

inductive AppEvent
  | tick
  /-- The start of an iteration: the size of the terminal and a reading of the clocks. -/
  | frame (width height : Nat) (now : Clock)
  | key (event : KeyEvent)
  | mouse (event : MouseEvent)
  | resize
  | ignored
  | store (event : StoreEvent)
  | copied (chars : Nat)
  | copyFailed (message : String)
  deriving DecidableEq, Repr

structure AppState where
  shouldQuit : Bool := false
  /-- The screen no longer shows the state. -/
  needsRender : Bool := true
  now : Clock
  screen : Screen := .ofSize 0 0
  header : HeaderState := {}
  table : TableState
  status : StatusLine
  deriving DecidableEq, Repr, Inhabited

namespace AppState

def start (server : String) (tick : Nat) (now : Clock) : AppState where
  now := now
  table := .start now tick
  status := { server }

def dirtyIf (app : AppState) (changed : Bool) : AppState :=
  { app with needsRender := app.needsRender || changed }

def notify (app : AppState) (kind : NoticeKind) (text : String) : AppState :=
  { app with status := app.status.withNotice kind text.toList app.now.instant }.dirtyIf true

def onTick (app : AppState) : AppState :=
  let (table, ticked) := app.table.tick app.now
  let (status, expired) := app.status.expire app.now.instant
  { app with table := table, status := status }.dirtyIf (ticked || expired)

def onFrame (app : AppState) (width height : Nat) (now : Clock) : AppState :=
  let app := { app with now := now }
  let screen := Screen.ofSize width height
  if screen = app.screen then app
  else
    { app with
      screen := screen
      table := app.table.setViewport screen.body.width screen.body.height }.dirtyIf true

def onStore (app : AppState) (event : StoreEvent) : AppState :=
  let (header, changed) := app.header.apply event
  let app := { app with header := header }.dirtyIf changed
  match event with
  | .update snapshot =>
    let (table, report) := app.table.applySnapshot snapshot app.now
    { app with table := table }.dirtyIf (!report.isUnchanged)
  | .active | .inactive => app

/-- Answers a pressed key: `q` and Ctrl-C quit, `r` refreshes, Escape clears the selection, and the
table has the rest. -/
def onKey (app : AppState) (event : KeyEvent) : AppState × List Effect :=
  if event.action ≠ .press then (app, [])
  else if event.key = .char 'q' ∨ (event.key = .char 'c' ∧ event.control) then (app, [.quit])
  else if event.key = .char 'r' then (app.notify .info "Refreshing…", [.refresh])
  else if event.key = .escape then
    ({ app with table := { app.table with selection := .cleared } }.dirtyIf true, [])
  else match app.table.onKey event.key with
    | some table => ({ app with table := table }.dirtyIf true, [])
    | none => (app, [])

def onMouse (app : AppState) (event : MouseEvent) : Checked (AppState × List Effect) := do
  let (table, effect) ← app.table.onMouse app.screen event
  return ({ app with table := table }.dirtyIf true, effect.toList)

def copiedText (chars : Nat) : String :=
  "Copied " ++ toString chars ++ (if chars = 1 then " character" else " characters")

/-- The state after an event, and what to do about it. The reducer makes every change to the state; what has to
happen outside is asked for by effects. -/
def update (app : AppState) : AppEvent → Checked (AppState × List Effect)
  | .tick => .ok (app.onTick, [])
  | .frame width height now => .ok (app.onFrame width height now, [])
  | .key event => .ok (app.onKey event)
  | .mouse event => app.onMouse event
  | .resize => .ok (app.dirtyIf true, [])
  | .ignored => .ok (app, [])
  | .store event => .ok (app.onStore event, [])
  | .copied chars => .ok (app.notify .info (copiedText chars), [])
  | .copyFailed message => .ok (app.notify .error ("Copy failed: " ++ message), [])

end AppState

end SessionBoard
