import SessionBoard.Dashboard
import SessionBoard.Http
import SessionBoard.Store.Schedule

namespace SessionBoard

/-- A board against a server whose replies are laid down beforehand: the first request to an endpoint gets the
first reply, and the last reply serves all that come later. Whatever a reply or an input causes has happened
before the next one. -/
structure Replay where
  dashboard : Dashboard
  width : Nat
  height : Nat
  now : Clock
  sessions : List HttpReply
  events : List HttpReply
  fetched : Nat := 0
  opened : Nat := 0
  /-- What has been read of every push channel, by its number. -/
  streams : List EventStream.Decoder := []
  deriving Repr

namespace Replay

def replyTo (replies : List HttpReply) (request : Nat) : HttpReply :=
  (replies[request]?.or replies.getLast?).getD .refused

def onServer (replay : Replay) (change : Server → Server) : Replay :=
  let store := replay.dashboard.store
  { replay with dashboard := { replay.dashboard with
      store := { store with server := change store.server } } }

/-- Octets arrive on a push channel. Those that abort its reader arrive nowhere. -/
def arrive (replay : Replay) (channel : Nat) (octets : List UInt8) : Replay :=
  match (replay.streams[channel]?).bind (·.feed octets) with
  | none => replay
  | some (decoder, names) =>
    let replay := { replay with streams := replay.streams.set channel decoder }
    replay.onServer (·.send channel (names.map fun name => .ok (.ofName name)))

def endChannel (replay : Replay) (channel : Nat) : Replay :=
  let left := ((replay.streams[channel]?).map (·.finish)).getD []
  replay.onServer fun server =>
    (server.send channel (left.map .ofItem)).endChannel channel

def answerFetch (replay : Replay) : Replay :=
  let answer := (replyTo replay.sessions replay.fetched).sessions
  { replay with fetched := replay.fetched + 1 }.onServer fun server =>
    { server with fetchAnswers := server.fetchAnswers ++ [answer] }

/-- A success of this status leaves the push channel open. -/
def staysOpen : HttpReply → Bool
  | .answered status _ _ => status = 200
  | .refused => false

def answerOpen (replay : Replay) : Replay :=
  let reply := replyTo replay.events replay.opened
  let replay := { replay with opened := replay.opened + 1 }
  match reply.success with
  | .error error => replay.onServer fun server =>
    { server with openAnswers := server.openAnswers ++ [.error error] }
  | .ok (body, _) =>
    let channel := replay.streams.length
    let replay := { replay with streams := replay.streams ++ [default] }.onServer Server.addChannel
    let replay := replay.arrive channel body
    if staysOpen reply then replay else replay.endChannel channel

/-- Answers the requests that wait, until none is left. -/
def serve : (fuel : Nat) → Replay → Replay
  | 0, replay => replay
  | fuel + 1, replay =>
    let store := replay.dashboard.store.settle
    let replay := { replay with dashboard := { replay.dashboard with store } }
    if replay.fetched < store.server.fetches then serve fuel replay.answerFetch
    else if replay.opened < store.server.opens then serve fuel replay.answerOpen
    else replay

def bodyLength : HttpReply → Nat
  | .answered _ body _ => body.length
  | .refused => 0

/-- More requests than what has arrived can cause. -/
def requestBound (replay : Replay) : Nat :=
  let bodies := replay.events.foldr (fun reply count => bodyLength reply + count) 0
  let arrived := replay.dashboard.store.server.channels.foldr
    (fun channel count => channel.arrived.length + count) 0
  8 + bodies + arrived

def round (replay : Replay) (input : List AppEvent) : Checked Replay := do
  let dashboard ← replay.dashboard.step
    { width := replay.width, height := replay.height, now := replay.now, input }
  return { replay with dashboard }

def settle (replay : Replay) : Checked Replay :=
  let replay := replay.serve replay.requestBound
  { replay with dashboard := replay.dashboard.forwardAll }.round []

/-- A round with some input, and all that comes of it. -/
def play (replay : Replay) (input : List AppEvent) : Checked Replay := do
  (← replay.round input).settle

def push (replay : Replay) (octets : List UInt8) : Checked Replay :=
  (replay.arrive (replay.streams.length - 1) octets).settle

def endAll (replay : Replay) : Checked Replay :=
  ((List.range replay.streams.length).foldl endChannel replay).settle

def resize (replay : Replay) (width height : Nat) : Checked Replay :=
  { replay with width, height }.play [.resize]

end Replay

end SessionBoard
