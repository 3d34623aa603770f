import SessionBoard.SingleFlight
import SessionBoard.Store.Board
import SessionBoard.Store.Server

namespace SessionBoard

/-- What to publish when a fetch fails: an empty snapshot, so that old rows are never shown as current, or
nothing, so that the last good one stays. -/
inductive FailurePolicy
  | clear
  | keep
  deriving DecidableEq, Repr, Inhabited

def FailurePolicy.label : FailurePolicy → String
  | .clear => "clear"
  | .keep => "keep"

structure SyncOptions where
  /-- Milliseconds from the end of one cycle to the start of the next. -/
  backoff : Nat := 1000
  onFetchError : FailurePolicy := .clear
  deriving DecidableEq, Repr, Inhabited

/-- How far a fetch has come. -/
inductive FetchProgress
  | asked
  | answered (answer : Except SourceError Snapshot)
  deriving Repr

/-- How far an attempt at a push channel has come. It is bound to the run that was current when it began. It
asks for a channel, has one open that is confirmed once it has proved live, takes an event and acts upon it, and
fails when there is no channel or no longer one. -/
inductive ChannelProgress
  | bound (run : Nat)
  | opening (run : Nat)
  | open (run channel : Nat) (confirmed : Bool)
  | received (run channel : Nat) (confirmed : Bool) (event : ChannelEvent)
  | failing (channel : Option Nat) (error : SourceError)
  deriving DecidableEq, Repr

/-- How far a sync loop has come. It is ready to begin a cycle, has asked for the list but not yet for the
channel, waits for a flight of the channel, sleeps, or has stopped. -/
inductive LoopStage
  | ready
  | requested
  | awaiting (flight : Nat)
  | sleeping (deadline : Nat)
  | stopped
  deriving DecidableEq, Repr, Inhabited

/-- A run of the sync loop, from one start to its cancellation. -/
structure Run where
  cancelled : Bool := false
  stage : LoopStage := .ready
  deriving DecidableEq, Repr, Inhabited

/-- The live store and what its tasks work on. A sync loop asks for a fresh list, holds a push channel open
until it dies, backs off and starts over. Lists and channels are both asked for through a single flight, so
requests that come in a burst are answered together. The steps of the tasks are as small as another task can
tell, so a run is any sequence of them. -/
structure LiveStore where
  options : SyncOptions
  board : Board := {}
  /-- Every run by its number. The first stands for the time before any start. -/
  runs : List Run := [{ stage := .stopped }]
  /-- The run that new attempts are bound to. -/
  currentRun : Nat := 0
  refreshes : SingleFlight FetchProgress (Except SourceError Nat) := {}
  channels : SingleFlight ChannelProgress (Except SourceError Unit) := {}
  server : Server := {}
  now : Nat := 0
  deriving Repr

inductive StoreTask
  | refresh (id : Nat)
  | channel (id : Nat)
  | syncLoop (run : Nat)
  deriving DecidableEq, Repr

/-- What a task looks at first where it waits for its cancellation and for something else. -/
inductive Preference
  | cancellation
  | work
  deriving DecidableEq, Repr

namespace LiveStore

def subscribe (store : LiveStore) : LiveStore × Nat :=
  let (board, id) := store.board.subscribe
  ({ store with board := board }, id)

def unsubscribe (store : LiveStore) (id : Nat) : LiveStore :=
  { store with board := store.board.drop id }

/-- Requests a fresh list and gives the flight that answers. -/
def refresh (store : LiveStore) : LiveStore × Nat :=
  let (refreshes, flight) := store.refreshes.trigger
  ({ store with refreshes := refreshes }, flight)

def cancelRun (runs : List Run) (run : Nat) : List Run :=
  runs.modify run fun state => { state with cancelled := true }

/-- Starts a run in place of the current one, which is cancelled. -/
def start (store : LiveStore) : LiveStore × Nat :=
  let run := store.runs.length
  ({ store with
      runs := cancelRun store.runs store.currentRun ++ [{}]
      currentRun := run }, run)

/-- Cancels a run, as a shutdown and a dropped handle both do. -/
def cancel (store : LiveStore) (run : Nat) : LiveStore :=
  { store with runs := cancelRun store.runs run }

def isCancelled (store : LiveStore) (run : Nat) : Bool :=
  (store.runs[run]?).any (·.cancelled)

def dispatch (store : LiveStore) (event : StoreEvent) : LiveStore :=
  { store with board := store.board.dispatch event }

/-- The first of two steps that can be taken, in the preferred order. -/
def choose (preference : Preference) (cancellation work : Option LiveStore) : Option LiveStore :=
  match preference with
  | .cancellation => cancellation <|> work
  | .work => work <|> cancellation

/-- Publishes what a fetch brought, or what the policy puts in its place. -/
def applyAnswer (store : LiveStore) : Except SourceError Snapshot → LiveStore
  | .ok snapshot => store.dispatch (.update snapshot)
  | .error _ =>
    match store.options.onFetchError with
    | .clear => store.dispatch (.update [])
    | .keep => store

/-- The outcome of a fetch: how many sessions were published, or why it failed. -/
def fetchOutcome : Except SourceError Snapshot → Except SourceError Nat
  | .ok snapshot => .ok snapshot.length
  | .error error => .error error

def stepRefresh (store : LiveStore) (id : Nat) : Option LiveStore :=
  match store.refreshes.stage? id with
  | some (.launched _) => do
    let refreshes ← store.refreshes.begin? id .asked
    return { store with
      refreshes := refreshes
      server := { store.server with fetches := store.server.fetches + 1 } }
  | some (.running .asked) =>
    match store.server.fetchAnswers with
    | [] => none
    | answer :: answers => do
      let refreshes ← store.refreshes.report? id (.answered answer)
      return { store with
        refreshes := refreshes
        server := { store.server with fetchAnswers := answers } }
  | some (.running (.answered answer)) => do
    let refreshes ← store.refreshes.finish? id (some (fetchOutcome answer))
    return { store.applyAnswer answer with refreshes := refreshes }
  | _ => do
    let refreshes ← store.refreshes.unwind? id
    return { store with refreshes := refreshes }

def report (store : LiveStore) (id : Nat) (progress : ChannelProgress) : Option LiveStore := do
  let channels ← store.channels.report? id progress
  return { store with channels := channels }

def finishChannel (store : LiveStore) (id : Nat) (outcome : Except SourceError Unit) :
    Option LiveStore := do
  let channels ← store.channels.finish? id (some outcome)
  return { store with channels := channels }

/-- Ends an attempt whose run was cancelled, without a word to the subscribers. -/
def abandon (store : LiveStore) (id run : Nat) (channel : Option Nat) : Option LiveStore :=
  if store.isCancelled run then
    let server := channel.elim store.server store.server.release
    { store with server := server }.finishChannel id (.ok ())
  else none

/-- Acts upon an event: the first confirmation makes the channel live, and an update asks for a
fresh list, since what it carries is not trusted. -/
def actUpon (store : LiveStore) (id run channel : Nat) (confirmed : Bool) :
    ChannelEvent → Option LiveStore
  | .init =>
    (if confirmed then store else store.dispatch .active).report id (.open run channel true)
  | .update => store.refresh.1.report id (.open run channel confirmed)
  | .other _ => store.report id (.open run channel confirmed)

def takeItem (store : LiveStore) (id run channel : Nat) (confirmed : Bool) : Option LiveStore := do
  let (item, server) ← store.server.take? channel
  let store := { store with server := server }
  match item with
  | some (.ok event) => store.report id (.received run channel confirmed event)
  | some (.error error) => store.report id (.failing (some channel) error)
  | none => store.report id (.failing (some channel) .closed)

def takeChannel (store : LiveStore) (id run : Nat) : Option LiveStore :=
  match store.server.openAnswers with
  | [] => none
  | answer :: answers =>
    let store := { store with server := { store.server with openAnswers := answers } }
    match answer with
    | .ok channel => store.report id (.open run channel false)
    | .error error => store.report id (.failing none error)

def stepChannel (store : LiveStore) (preference : Preference) (id : Nat) : Option LiveStore :=
  match store.channels.stage? id with
  | some (.launched _) => do
    let channels ← store.channels.begin? id (.bound store.currentRun)
    return { store with channels := channels }
  | some (.running (.bound run)) =>
    choose preference (store.abandon id run none)
      ({ store with server := { store.server with opens := store.server.opens + 1 } }.report id
        (.opening run))
  | some (.running (.opening run)) =>
    choose preference (store.abandon id run none) (store.takeChannel id run)
  | some (.running (.open run channel confirmed)) =>
    choose preference (store.abandon id run (some channel)) (store.takeItem id run channel confirmed)
  | some (.running (.received run channel confirmed event)) =>
    store.actUpon id run channel confirmed event
  | some (.running (.failing channel error)) =>
    let server := channel.elim store.server store.server.release
    { store with server := server }.dispatch .inactive |>.finishChannel id (.error error)
  | _ => do
    let channels ← store.channels.unwind? id
    return { store with channels := channels }

def withLoop (store : LiveStore) (run : Nat) (stage : LoopStage) : LiveStore :=
  { store with runs := store.runs.modify run fun state => { state with stage := stage } }

def stopLoop (store : LiveStore) (run : Nat) : Option LiveStore :=
  if store.isCancelled run then some (store.withLoop run .stopped) else none

def loopStage? (store : LiveStore) (run : Nat) : Option LoopStage :=
  (store.runs[run]?).map Run.stage

def stepLoop (store : LiveStore) (preference : Preference) (run : Nat) : Option LiveStore :=
  match store.loopStage? run with
  | some .ready =>
    choose preference (store.stopLoop run) (some (store.refresh.1.withLoop run .requested))
  | some .requested =>
    let (channels, flight) := store.channels.trigger
    some ({ store with channels := channels }.withLoop run (.awaiting flight))
  | some (.awaiting flight) =>
    choose preference (store.stopLoop run)
      (if (store.channels.outcome? flight).isSome then
        some (store.withLoop run (.sleeping (store.now + store.options.backoff)))
      else none)
  | some (.sleeping deadline) =>
    choose preference (store.stopLoop run)
      (if deadline ≤ store.now then some (store.withLoop run .ready) else none)
  | some .stopped | none => none

/-- The next step of a task, unless the task has to wait. -/
def step (store : LiveStore) (preference : Preference) : StoreTask → Option LiveStore
  | .refresh id => store.stepRefresh id
  | .channel id => store.stepChannel preference id
  | .syncLoop run => store.stepLoop preference run

end LiveStore

end SessionBoard
