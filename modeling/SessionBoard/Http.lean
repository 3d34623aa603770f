import SessionBoard.Endpoints
import SessionBoard.Session.Reading
import SessionBoard.Source

namespace SessionBoard

/-- What is asked of an endpoint of the server over HTTP. -/
structure HttpRequest where
  url : Url
  /-- The media types that the reply may have. -/
  accept : String
  deriving DecidableEq, Repr

namespace HttpRequest

def agent : String := "neckview/0.1.0"

def line (request : HttpRequest) : List Char :=
  let target := request.url.path ++ request.url.query.elim [] ('?' :: ·)
  "GET ".toList ++ target ++ " HTTP/1.1".toList

end HttpRequest

def Endpoints.sessionsRequest (endpoints : Endpoints) : HttpRequest := ⟨endpoints.sessions, "*/*"⟩

def Endpoints.eventsRequest (endpoints : Endpoints) : HttpRequest :=
  ⟨endpoints.events, "text/event-stream"⟩

inductive HttpReply
  /-- Nobody listens at the address. -/
  | refused
  /-- A status and a body. A body that was cut is shorter than was announced. -/
  | answered (status : Nat) (body : List UInt8) (cut : Bool)
  deriving DecidableEq, Repr

namespace HttpReply

def connectionFailed : SourceError := ⟨.transport, "Connection failed: "⟩

def badBody : SourceError := ⟨.parse, "Bad response body: "⟩

def badList : SourceError := ⟨.parse, "Failed to parse session list: "⟩

def noContent : Nat := 204

/-- The body of a reply that is a success, and whether it was cut. -/
def success : HttpReply → Except SourceError (List UInt8 × Bool)
  | .refused => .error connectionFailed
  | .answered status body cut =>
    if status < 200 ∨ 300 ≤ status then .error (.ofStatus status)
    else if status = noContent then .ok ([], false)
    else .ok (body, cut)

def sessions (reply : HttpReply) : Except SourceError Snapshot := do
  let (body, cut) ← reply.success
  if cut then throw badBody
  match SessionRecord.parseList body with
  | .ok records => return records
  | .error _ => throw badList

/-- What a push channel delivers that is opened by this reply. -/
def channel (reply : HttpReply) : Except SourceError (List EventStream.Chunk) := do
  let (body, cut) ← reply.success
  return .octets body :: if cut then [.failure] else []

end HttpReply

end SessionBoard
