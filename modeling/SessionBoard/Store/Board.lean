import SessionBoard.Store.Event

namespace SessionBoard

/-- A subscriber's end: the events it has not received yet, until it is dropped. -/
structure Inbox where
  queue : List StoreEvent := []
  dropped : Bool := false
  deriving DecidableEq, Repr, Inhabited

/-- What the store publishes: the current snapshot, the health of the push channel, and every event to every
subscriber. -/
structure Board where
  snapshot : Snapshot := []
  connectivity : Connectivity := .unknown
  /-- The subscribers that are notified, in the order in which they joined. -/
  listeners : List Nat := []
  inboxes : List Inbox := []
  deriving DecidableEq, Repr, Inhabited

namespace Board

/-- Attaches a subscriber, which sees what is dispatched from now on. -/
def subscribe (board : Board) : Board × Nat :=
  let id := board.inboxes.length
  ({ board with listeners := board.listeners ++ [id], inboxes := board.inboxes ++ [{}] }, id)

/-- Drops a subscriber's end. It stays a listener until the next event finds it gone. -/
def drop (board : Board) (id : Nat) : Board :=
  { board with inboxes := board.inboxes.modify id fun _ => { dropped := true } }

def receive? (board : Board) (id : Nat) : Option (StoreEvent × Board) :=
  match board.inboxes[id]? with
  | some ⟨event :: queue, dropped⟩ =>
    some (event, { board with inboxes := board.inboxes.set id ⟨queue, dropped⟩ })
  | _ => none

def isListening (inboxes : List Inbox) (id : Nat) : Bool :=
  (inboxes[id]?).any (!·.dropped)

def deliver (event : StoreEvent) (listeners : List Nat) (inboxes : List Inbox) : List Inbox :=
  listeners.foldl (fun inboxes id =>
    inboxes.modify id fun inbox => { inbox with queue := inbox.queue ++ [event] }) inboxes

/-- Takes over an event and notifies every subscriber. Those that are gone are forgotten. -/
def dispatch (board : Board) (event : StoreEvent) : Board :=
  let listeners := board.listeners.filter (isListening board.inboxes)
  let board := { board with
    listeners := listeners
    inboxes := deliver event listeners board.inboxes }
  match event with
  | .update snapshot => { board with snapshot := snapshot }
  | .active => { board with connectivity := .active }
  | .inactive => { board with connectivity := .inactive }

end Board

end SessionBoard
