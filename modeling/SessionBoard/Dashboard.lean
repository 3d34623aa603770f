import SessionBoard.App.Drawing
import SessionBoard.Clipboard
import SessionBoard.Store.State

namespace SessionBoard

/-- The board on a terminal. It listens to a live store from before the store's start, an inbox carries the
events over, and a loop takes them up in rounds together with the input of the terminal. Only here something is
done about the effects that the reducer asks for. -/
structure Dashboard where
  store : LiveStore
  /-- The number under which the board listens to the store. -/
  subscriber : Nat
  app : AppState
  /-- Store events that no round has taken up. -/
  inbox : List StoreEvent := []
  /-- What was written to reach the clipboard, oldest first. -/
  copies : List (List Char) := []
  /-- What the next attempts to copy will fail from, if they do. Past its end every attempt succeeds. -/
  clipboard : List (Option String) := []
  shown : List (List Cell) := []
  deriving Repr

structure Round where
  width : Nat
  height : Nat
  now : Clock
  input : List AppEvent := []
  ticks : Bool := false
  deriving Repr

namespace Dashboard

def ofStore (store : LiveStore) (server : String) (tick : Nat) (now : Clock) : Dashboard :=
  let (store, subscriber) := store.subscribe
  { store, subscriber, app := .start server tick now }

def start (dashboard : Dashboard) : Dashboard :=
  { dashboard with store := dashboard.store.start.1 }

/-- Carries the oldest event over from the store. -/
def forward? (dashboard : Dashboard) : Option Dashboard := do
  let (event, board) ← dashboard.store.board.receive? dashboard.subscriber
  return { dashboard with
    store := { dashboard.store with board := board }
    inbox := dashboard.inbox ++ [event] }

def waiting (dashboard : Dashboard) : Nat :=
  ((dashboard.store.board.inboxes[dashboard.subscriber]?).map (·.queue.length)).getD 0

def forwardAll (dashboard : Dashboard) : Dashboard :=
  (List.range dashboard.waiting).foldl (fun dashboard _ => dashboard.forward?.getD dashboard)
    dashboard

/-- Attempts to copy a text, and gives the word of it that the reducer gets. -/
def copyText (dashboard : Dashboard) (text : List Char) : Dashboard × AppEvent :=
  let left := { dashboard with clipboard := dashboard.clipboard.tail }
  match dashboard.clipboard.head?.join with
  | some failure => (left, .copyFailed failure)
  | none =>
    ({ left with copies := dashboard.copies ++ [Clipboard.sequence text] }, .copied text.length)

/-- Does what the reducer asks for. Word of a copy goes to the reducer at once, and it asks for
nothing in turn. -/
def perform (dashboard : Dashboard) : Effect → Checked Dashboard
  | .quit => .ok { dashboard with app := { dashboard.app with shouldQuit := true } }
  | .refresh => .ok { dashboard with store := dashboard.store.refresh.1 }
  | .copy text => do
    let (dashboard, word) := dashboard.copyText text
    let (app, _) ← dashboard.app.update word
    return { dashboard with app }

def react (dashboard : Dashboard) (event : AppEvent) : Checked Dashboard := do
  let (app, effects) ← dashboard.app.update event
  effects.foldlM perform { dashboard with app }

def redraw (dashboard : Dashboard) : Checked Dashboard :=
  if dashboard.app.needsRender then do
    let lines ← dashboard.app.draw
    return { dashboard with shown := lines, app := { dashboard.app with needsRender := false } }
  else .ok dashboard

/-- The events of a round. The frame goes first, so that the size and the clocks hold for all others. -/
def roundEvents (dashboard : Dashboard) (round : Round) : List AppEvent :=
  .frame round.width round.height round.now :: dashboard.inbox.map .store ++ round.input ++
    if round.ticks then [.tick] else []

/-- A round of the loop: every event in turn, then at most one drawing. There is none after the one
that quits. -/
def step (dashboard : Dashboard) (round : Round) : Checked Dashboard :=
  if dashboard.app.shouldQuit then .ok dashboard
  else do
    let events := dashboard.roundEvents round
    let dashboard ← events.foldlM react { dashboard with inbox := [] }
    dashboard.redraw

end Dashboard

end SessionBoard
