import SessionBoard.Session.Record
import SessionBoard.Source

namespace SessionBoard

/-- A push channel: what has arrived on it and not been taken, whether the server has ended it, and whether the
client has let go of it. -/
structure PushChannel where
  arrived : List ChannelItem := []
  ended : Bool := false
  released : Bool := false
  deriving Repr, Inhabited

/-- The server as the store meets it: answers to fetches and opens that wait to be taken, the push channels by
their numbers, and how often a list and a channel were asked for. -/
structure Server where
  fetchAnswers : List (Except SourceError Snapshot) := []
  openAnswers : List (Except SourceError Nat) := []
  channels : List PushChannel := []
  fetches : Nat := 0
  opens : Nat := 0
  deriving Repr, Inhabited

namespace Server

/-- A new channel, which the next open without an answer gets. -/
def addChannel (server : Server) : Server :=
  { server with
    openAnswers := server.openAnswers ++ [.ok server.channels.length]
    channels := server.channels ++ [{}] }

/-- Sends on a channel. Nobody listens on one that has ended or been released. -/
def send (server : Server) (channel : Nat) (items : List ChannelItem) : Server :=
  { server with channels := server.channels.modify channel fun push =>
      if push.ended || push.released then push else { push with arrived := push.arrived ++ items } }

def endChannel (server : Server) (channel : Nat) : Server :=
  { server with channels := server.channels.modify channel fun push => { push with ended := true } }

/-- The client lets go of a channel, and with it of all that has arrived. -/
def release (server : Server) (channel : Nat) : Server :=
  { server with channels := server.channels.modify channel fun push =>
      { push with arrived := [], released := true } }

/-- Takes what arrived first on a channel. `some none` is the end of the channel. -/
def take? (server : Server) (channel : Nat) : Option (Option ChannelItem × Server) :=
  match server.channels[channel]? with
  | none => none
  | some push =>
    match push.arrived with
    | item :: rest =>
      some (some item,
        { server with channels := server.channels.set channel { push with arrived := rest } })
    | [] => if push.ended then some (none, server) else none

end Server

end SessionBoard
