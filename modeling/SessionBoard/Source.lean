import SessionBoard.EventStream

namespace SessionBoard

inductive ChannelEvent
  | init
  /-- Something changed, and a fresh list should be fetched. -/
  | update
  | other (name : String)
  deriving DecidableEq, Repr

def ChannelEvent.ofName (name : String) : ChannelEvent :=
  match name with
  | "init" => .init
  | "update" => .update
  | name => .other name

/-- What kind of failure the server or the way to it had. -/
inductive SourceErrorKind
  | transport
  | httpStatus
  | parse
  | stream
  | closed
  deriving DecidableEq, Repr

def SourceErrorKind.label : SourceErrorKind → String
  | .transport => "transport"
  | .httpStatus => "http_status"
  | .parse => "parse"
  | .stream => "stream"
  | .closed => "closed"

structure SourceError where
  kind : SourceErrorKind
  message : String
  deriving DecidableEq, Repr

namespace SourceError

def ofStatus (status : Nat) : SourceError :=
  ⟨.httpStatus, "HTTP " ++ toString status⟩

def closed : SourceError :=
  ⟨.closed, "event channel closed by server"⟩

def brokenStream : SourceError :=
  ⟨.stream, "SSE stream error: "⟩

def display (error : SourceError) : String :=
  error.kind.label ++ ": " ++ error.message

end SourceError

/-- What the push channel delivers next. -/
abbrev ChannelItem := Except SourceError ChannelEvent

def ChannelItem.ofItem : EventStream.Item → ChannelItem
  | .event name => .ok (.ofName name)
  | .broken => .error .brokenStream

/-- Everything a push channel of these chunks delivers, unless its reader aborts. -/
def channelItems (chunks : List EventStream.Chunk) : Option (List ChannelItem) :=
  (EventStream.decode chunks).map (·.map .ofItem)

end SessionBoard
