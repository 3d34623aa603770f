import SessionBoard.Proofs.SingleFlight.Moves
import SessionBoard.Store.State

namespace SessionBoard

/-- What a fetch with this answer publishes. -/
def FailurePolicy.published? (policy : FailurePolicy) :
    Except SourceError Snapshot → Option Snapshot
  | .ok snapshot => some snapshot
  | .error _ =>
    match policy with
    | .clear => some []
    | .keep => none

def StoreEvent.snapshot? : StoreEvent → Option Snapshot
  | .update snapshot => some snapshot
  | .active | .inactive => none

namespace LiveStore

/-- Everything that can happen to a store, one move at a time and in any order. -/
inductive Move
  | subscribe
  | unsubscribe (subscriber : Nat)
  | receive (subscriber : Nat)
  | refresh
  | start
  /-- A run is shut down, or its handle is dropped. -/
  | cancel (run : Nat)
  /-- The server has an answer for a fetch. -/
  | answerFetch (answer : Except SourceError Snapshot)
  /-- The server has a channel for an open. -/
  | grantChannel
  | refuseChannel (error : SourceError)
  | send (channel : Nat) (items : List ChannelItem)
  | endChannel (channel : Nat)
  | wait (elapsed : Nat)
  /-- A task takes its next step. -/
  | step (preference : Preference) (task : StoreTask)

def withServer (store : LiveStore) (server : Server) : LiveStore :=
  { store with server := server }

def move? (store : LiveStore) : Move → Option LiveStore
  | .subscribe => some store.subscribe.1
  | .unsubscribe subscriber => some (store.unsubscribe subscriber)
  | .receive subscriber =>
    (store.board.receive? subscriber).map fun (_, board) => { store with board := board }
  | .refresh => some store.refresh.1
  | .start => some store.start.1
  | .cancel run => some (store.cancel run)
  | .answerFetch answer => some <| store.withServer
      { store.server with fetchAnswers := store.server.fetchAnswers ++ [answer] }
  | .grantChannel => some (store.withServer store.server.addChannel)
  | .refuseChannel error => some <| store.withServer
      { store.server with openAnswers := store.server.openAnswers ++ [.error error] }
  | .send channel items => some (store.withServer (store.server.send channel items))
  | .endChannel channel => some (store.withServer (store.server.endChannel channel))
  | .wait elapsed => some { store with now := store.now + elapsed }
  | .step preference task => store.step preference task

/-- Moves, oldest first, with the states that they found. -/
abbrev History := List (LiveStore × Move)

inductive FetchEvent
  /-- A fresh list is requested, and this flight answers. -/
  | requested (flight : Nat)
  /-- The fetch begins: the server is asked. -/
  | asked (id : Nat)
  /-- The server's answer has arrived. -/
  | answered (id : Nat) (answer : Except SourceError Snapshot)
  /-- The fetch has ended with this answer, and what follows from it has been done. -/
  | completed (id : Nat) (answer : Except SourceError Snapshot)

/-- A step of the channel consumes an update. -/
def consumesUpdate (store : LiveStore) (id : Nat) : Bool :=
  match store.channels.stage? id with
  | some (.running (.received _ _ _ .update)) => true
  | _ => false

/-- A step of the loop begins a cycle, and does not notice a cancellation instead. -/
def beginsCycle (store : LiveStore) (preference : Preference) (run : Nat) : Bool :=
  store.loopStage? run = some .ready && !(preference = .cancellation && store.isCancelled run)

def stepEvent? (store : LiveStore) (preference : Preference) : StoreTask → Option FetchEvent
  | .refresh id =>
    match store.refreshes.stage? id with
    | some (.launched _) => some (.asked id)
    | some (.running .asked) => store.server.fetchAnswers.head?.map (.answered id)
    | some (.running (.answered answer)) => some (.completed id answer)
    | _ => none
  | .channel id => if store.consumesUpdate id then some (.requested store.refresh.2) else none
  | .syncLoop run =>
    if store.beginsCycle preference run then some (.requested store.refresh.2) else none

def fetchEvent? : LiveStore × Move → Option FetchEvent
  | (store, .refresh) => some (.requested store.refresh.2)
  | (store, .step preference task) => store.stepEvent? preference task
  | _ => none

namespace FetchEvent

def requested? : FetchEvent → Option Nat
  | .requested flight => some flight
  | _ => none

def asked? : FetchEvent → Option Nat
  | .asked id => some id
  | _ => none

def answered? : FetchEvent → Option (Nat × Except SourceError Snapshot)
  | .answered id answer => some (id, answer)
  | _ => none

def completed? : FetchEvent → Option (Nat × Except SourceError Snapshot)
  | .completed id answer => some (id, answer)
  | _ => none

end FetchEvent

def fetchEvents (past : History) : List FetchEvent :=
  past.filterMap fetchEvent?

/-- The flights that answer the requests, in the order of the requests. -/
def requested (past : History) : List Nat :=
  (fetchEvents past).filterMap FetchEvent.requested?

/-- The fetches that have begun, in that order. -/
def asked (past : History) : List Nat :=
  (fetchEvents past).filterMap FetchEvent.asked?

/-- The fetches that have their answer, in the order in which the answers came. -/
def answered (past : History) : List (Nat × Except SourceError Snapshot) :=
  (fetchEvents past).filterMap FetchEvent.answered?

/-- The fetches that have ended, in that order, with their answers. -/
def completed (past : History) : List (Nat × Except SourceError Snapshot) :=
  (fetchEvents past).filterMap FetchEvent.completed?

def stepDispatch? (store : LiveStore) : StoreTask → Option StoreEvent
  | .refresh id =>
    match store.refreshes.stage? id with
    | some (.running (.answered answer)) => (store.options.onFetchError.published? answer).map .update
    | _ => none
  | .channel id =>
    match store.channels.stage? id with
    | some (.running (.received _ _ false .init)) => some .active
    | some (.running (.failing _ _)) => some .inactive
    | _ => none
  | .syncLoop _ => none

def dispatch? : LiveStore × Move → Option StoreEvent
  | (store, .step _ task) => store.stepDispatch? task
  | _ => none

/-- The snapshots that were dispatched, in that order. -/
def updates (past : History) : List Snapshot :=
  past.filterMap fun moment => (dispatch? moment).bind StoreEvent.snapshot?

end LiveStore

end SessionBoard
