import SessionBoard.Text.Utf8

namespace SessionBoard.EventStream

open SessionBoard.Text

/-- What has arrived of the current line and of the current event. -/
structure Framer where
  /-- The current line, last character first. -/
  line : List Char := []
  /-- The line ended in a carriage return, and a line feed may still belong to it. -/
  afterReturn : Bool := false
  name : List Char := []
  hasData : Bool := false
  deriving DecidableEq, Repr, Inhabited

namespace Framer

/-- Ends the event. One without data yields nothing, one without a name is a `message`. -/
def dispatch (framer : Framer) : Framer × Option String :=
  ({}, if framer.hasData then
      some (if framer.name.isEmpty then "message" else String.ofList framer.name)
    else none)

/-- The value of a field: what follows the colon, less one space. -/
def fieldValue (afterName : List Char) : List Char :=
  match afterName with
  | ':' :: ' ' :: value => value
  | ':' :: value => value
  | value => value

/-- Takes in a field line. Other fields than the name and the data mean nothing here. -/
def takeField (framer : Framer) (line : List Char) : Framer :=
  let field := line.takeWhile (· ≠ ':')
  let value := fieldValue (line.dropWhile (· ≠ ':'))
  if field = "event".toList then { framer with name := value }
  else if field = "data".toList then { framer with hasData := true }
  else framer

/-- Ends the current line. A line that starts with a colon is a comment. -/
def endLine (framer : Framer) : Framer × Option String :=
  let next := { framer with line := [], afterReturn := false }
  match framer.line.reverse with
  | [] => next.dispatch
  | ':' :: _ => (next, none)
  | line => (next.takeField line, none)

def push (framer : Framer) (char : Char) : Framer × Option String :=
  if char = '\n' then framer.endLine
  else if char = '\r' then ({ framer with afterReturn := true }, none)
  else ({ framer with line := char :: framer.line }, none)

/-- Takes in the next character. A line that ended in a carriage return ends for good only here. -/
def step (framer : Framer) (char : Char) : Framer × Option String :=
  if framer.afterReturn then
    let (ended, event) := framer.endLine
    if char = '\n' then (ended, event) else ((ended.push char).1, event)
  else framer.push char

def feed (framer : Framer) : List Char → Framer × List String
  | [] => (framer, [])
  | char :: text =>
    let (next, event) := framer.step char
    let (last, events) := next.feed text
    (last, event.toList ++ events)

end Framer

inductive Chunk
  | octets (octets : List UInt8)
  | failure
  deriving DecidableEq, Repr

inductive Item
  | event (name : String)
  | broken
  deriving DecidableEq, Repr

/-- A stream of server-sent events read so far. Octets arrive in chunks and become characters, characters become
lines, and an empty line ends an event. Payloads are not kept: an event is its name. -/
structure Decoder where
  /-- Octets that are no character yet, or never will be. -/
  held : List UInt8 := []
  started : Bool := false
  framer : Framer := {}
  deriving DecidableEq, Repr, Inhabited

namespace Decoder

def byteOrderMark : Char := '\ufeff'

/-- Takes in octets and yields the names of the events they complete. A stream that starts with a
byte order mark aborts its reader. -/
def feed (decoder : Decoder) (octets : List UInt8) : Option (Decoder × List String) :=
  let (text, held) := Utf8.decodePrefix (decoder.held ++ octets)
  if !decoder.started && text.head? = some byteOrderMark then none
  else
    let (framer, events) := decoder.framer.feed text
    some ({ held, started := decoder.started || !text.isEmpty, framer }, events)

/-- What is left to say when the stream ends: octets that are no text break it. -/
def finish (decoder : Decoder) : List Item :=
  if decoder.held.isEmpty then [] else [.broken]

/-- Reads chunks up to the end of the stream. A failed chunk leaves what was read as it is. -/
def run (decoder : Decoder) : List Chunk → Option (List Item)
  | [] => some decoder.finish
  | .failure :: chunks => (decoder.run chunks).map (.broken :: ·)
  | .octets octets :: chunks => do
    let (next, events) ← decoder.feed octets
    let items ← next.run chunks
    return events.map .event ++ items

end Decoder

/-- Everything a stream of these chunks yields, unless its reader aborts. -/
def decode (chunks : List Chunk) : Option (List Item) :=
  Decoder.run {} chunks

end SessionBoard.EventStream
